/-
  Every transaction moves every session by a `Move`: one lemma for each
  transaction, collected in `step_moves`.
-/
import SecondBox.DataPlane.Writes

namespace SecondBox.DataPlane

open Relational Relational.Tx

variable {t : Transaction} {d d' : DB} {id k : ID} {c : Config}
  {tenantRef subjectRef sandboxID attachmentID : ID}
  {now : Time} {s : Session} {p : Projection} {kind : TerminalKind} {reason : String}

/-- Every session makes a move of `t`, if `m` commits. -/
abbrev MovesBy {α : Type} (t : Transaction) (d : DB) (m : Tx α) : Prop :=
  m.Ensures d fun _ d' => Moves t d d'

/-! ## Start, completion and cancellation -/

theorem Projection.row_owner (c : Config) (p : Projection) (s : Session) (now : Time)
    (row : Session) :
    (p.row c s now row).owner = row.owner := by
  cases p <;> rfl

theorem Projection.row_active (c : Config) (p : Projection) (s : Session) (now : Time)
    (row : Session) :
    (p.row c s now row).state.active = false := by
  cases p with
  | execResult stdout stderr e | execTerm e | ptyTerm e =>
    simp only [Projection.row, Projection.finish, Session.finishExec]
    split <;> rfl
  | fileResult content f | fileTerm f =>
    simp only [Projection.row, Projection.finish, Session.finishFile]
    split <;> rfl

theorem moves_applyDataPlaneProjection (hd : d.Wf) {row : Session}
    (hrow : d.sessions.get id = some row) (ha : row.state.active = true) (hk : row.kind ≠ .port) :
    MovesBy t d (applyDataPlaneProjection c id s p now) := by
  simp only [applyDataPlaneProjection, setSession, ensures_modify]
  refine moves_at id (fun k hk => view_setSession_of_ne _ hk) ?_
  rw [view_setSession hrow (p.row_owner c s now row)]
  exact Move.finishAlone (by rw [view_active hrow]; exact ha) (p.row_active c s now row)
    (hd.port_none hrow hk) fun h => h

/-- A cancellation that completes at once: the Runner's command stays queued. -/
theorem moves_enqueue_applyDataPlaneProjection (hd : d.Wf) (hs : d.sessions.get id = some s)
    (ha : s.state.active = true) (hk : s.kind ≠ .port) :
    (applyDataPlaneProjection c id s p now).Ensures (d.enqueueCancellation id s kind reason now)
      fun _ d' => Moves t d d' := by
  rw [applyDataPlaneProjection, setSession, ensures_modify]
  refine moves_at id (fun k hk => ?_) ?_
  · rw [view_setSession_of_ne _ hk, view_enqueueCancellation_of_ne s kind reason now hk]
  · have hrow : (d.enqueueCancellation id s kind reason now).sessions.get id =
        some (s.cancelled kind reason now s) := by
      simp [DB.enqueueCancellation, hs]
    rw [view_setSession hrow (p.row_owner c s now _),
      view_enqueueCancellation kind reason now hs (hd.cancelID_eq hs)]
    have hmove := Move.finishAlone (t := t) (k := id) (by rw [view_active hs]; exact ha)
      (p.row_active c s now (s.cancelled kind reason now s)) (hd.port_none hs hk) (q :=
        true) fun _ => rfl
    have hview : (((d.view id).setState .cancelling).queue.setState
        (p.row c s now (s.cancelled kind reason now s)).state) =
        { (d.view id).setState (p.row c s now (s.cancelled kind reason now s)).state with queued := true } := by
      simp [View.setState, View.queue, Function.comp_def]
    rw [hview]
    exact hmove

theorem moves_startDataPlaneSession :
    MovesBy t d (startDataPlaneSession tenantRef subjectRef id now) := by
  simp only [startDataPlaneSession, ensures_bind, ensures_require]
  intro _
  refine ensures_quotaLedgers fun _ => ensures_ownSession fun s hs =>
    ensures_hydrateDataPlaneTransport fun _ _ => ?_
  exact ensures_validateDirectDataPlaneAuthority (moves_startPending hs)

theorem moves_consumeDirectDataPlaneSession {i : DirectConsumption} :
    MovesBy t d (consumeDirectDataPlaneSession i) := by
  simp only [consumeDirectDataPlaneSession, ensures_bind, ensures_require]
  intro _
  refine ensures_lockDataPlaneSessionQuota ?_
  simp only [ensures_get, ensures_expect]
  intro s hs
  refine ensures_hydrateDataPlaneTransport fun _ _ => ?_
  exact ensures_validateDirectDataPlaneAuthority (moves_startPending hs)

theorem Completion.projection_kind {r : Completion} {p : Projection} (h : r.projection s = .ok p) :
    s.kind ≠ .port := by
  cases r with
  | exec r =>
    simp only [Completion.projection] at h
    split at h
    · split at h
      · next hk => intro hp; simp [hp] at hk
      · cases h
    · cases h
  | file r =>
    simp only [Completion.projection] at h
    split at h
    · split at h
      · next hk => intro hp; simp [hp] at hk
      · cases h
    · cases h

theorem moves_completeDataPlaneSession (hd : d.Wf) {r : Completion} :
    MovesBy t d (completeDataPlaneSession c tenantRef subjectRef id r now) := by
  simp only [completeDataPlaneSession, ensures_bind, ensures_require]
  intro _
  refine ensures_quotaLedgers fun _ => ensures_ownSession fun s hs => ?_
  rw [ensures_ite]
  refine ⟨fun ha => ?_, fun _ => moves_refl⟩
  simp only [ensures_bind, ensures_lift]
  intro p hp
  exact moves_applyDataPlaneProjection hd hs ha (Completion.projection_kind hp)

theorem moves_completeUnstartedCancellation (hd : d.Wf) (hs : d.sessions.get id = some s)
    (ha : s.state.active = true) :
    (completeUnstartedCancellation c id s reason now).Ensures
      (d.enqueueCancellation id s kind reason now) fun _ d' => Moves t d d' := by
  cases hk : s.kind with
  | exec | terminal | file =>
    simp only [completeUnstartedCancellation, hk]
    exact moves_enqueue_applyDataPlaneProjection hd hs ha (by simp [hk])
  | port =>
    simp only [completeUnstartedCancellation, hk]
    exact ensures_throw _

theorem SessionState.active_of_live {st : SessionState} (h : st.live = true) :
    st.active = true := by
  cases st <;> simp_all [SessionState.live, SessionState.active]

theorem moves_requestCancellation (hd : d.Wf) {completes : Bool} (hs : d.sessions.get id = some s)
    (hl : s.state.live = true) :
    MovesBy t d (requestCancellation c id s kind reason now completes) := by
  simp only [requestCancellation, enqueueCancellation, ensures_bind, ensures_modify,
    ensures_ite, ensures_pure]
  refine ⟨fun _ => ?_, fun _ => moves_enqueueCancellation hd hs rfl hl kind reason now⟩
  exact moves_completeUnstartedCancellation hd hs (SessionState.active_of_live hl)

theorem moves_cancelDataPlaneSession (hd : d.Wf) :
    MovesBy t d (cancelDataPlaneSession c tenantRef subjectRef id reason now) := by
  simp only [cancelDataPlaneSession, ensures_bind]
  refine ensures_quotaLedgers fun _ => ensures_ownSession fun s hs => ?_
  simp only [ensures_ite, ensures_bind, ensures_pure]
  exact ⟨fun hl => moves_requestCancellation hd hs hl, fun _ => moves_refl⟩

theorem moves_expireDataPlaneSession (hd : d.Wf) :
    MovesBy t d (expireDataPlaneSession tenantRef subjectRef id now) := by
  simp only [expireDataPlaneSession, ensures_bind]
  refine ensures_quotaLedgers fun _ => ensures_ownSession fun s hs => ?_
  rw [ensures_ite]
  exact ⟨fun hl => moves_enqueueCancellation hd hs rfl hl _ _ now, fun _ => moves_refl⟩

theorem moves_cancelPublicDataPlaneSession (hd : d.Wf) {i : PublicCancellation} :
    MovesBy t d (cancelPublicDataPlaneSession c i) := by
  simp only [cancelPublicDataPlaneSession, ensures_bind, ensures_require]
  intro _
  refine ensures_quotaLedgers fun _ => ?_
  simp only [ensures_get]
  split
  · simp only [ensures_bind, ensures_require, ensures_pure]
    intro _ _
    exact moves_refl
  · simp only [ensures_bind]
    refine ensures_ownSession fun s hs => ?_
    simp only [ensures_require, ensures_ite, ensures_bind, ensures_modify, ensures_pure]
    intro _ _
    refine ⟨fun hl => ?_, fun _ => moves_of_eq rfl rfl rfl⟩
    exact (moves_requestCancellation hd hs hl).mono fun _ _ h => h.congr rfl rfl rfl

/-! ## Confirmation and retention -/

theorem moves_finalizeUnconfirmedCancellation (hd : d.Wf) :
    MovesBy t d (finalizeUnconfirmedCancellation c id now) := by
  simp only [finalizeUnconfirmedCancellation, ensures_bind]
  refine ensures_lockDataPlaneSessionQuota ?_
  simp only [ensures_get, ensures_expect, ensures_ite]
  intro s hs
  refine ⟨fun hst => ?_, fun _ => moves_refl⟩
  exact moves_completeCancelledSession hd hs (by rw [beq_iff_eq.1 hst]; rfl) c now

theorem moves_confirmDataPlaneCancellation (hd : d.Wf) {f : ConfirmationFrame} :
    MovesBy t d (confirmDataPlaneCancellation c f now) := by
  simp only [confirmDataPlaneCancellation, ensures_bind, ensures_require, ensures_get]
  intro _
  split
  · next s hs =>
    simp only [ensures_bind]
    refine ensures_quotaLedgers fun _ => ?_
    rw [ensures_ite]
    refine ⟨fun h => ?_, fun _ => moves_refl⟩
    have hst : s.state = .cancelling := by
      simp only [ConfirmationFrame.confirms, Bool.and_eq_true, beq_iff_eq] at h
      exact h.1.1.1.1
    exact moves_completeCancelledSession hd hs (by rw [hst]; rfl) c now
  · exact moves_refl

theorem moves_sweepDataPlaneSessions {ids : List ID} :
    MovesBy t d (sweepDataPlaneSessions ids now) := by
  simp only [sweepDataPlaneSessions, ensures_modify]
  intro k
  have hget : (d.sweep ids now).sessions.get k =
      (d.sessions.get k).filter fun s => !(ids.contains k && s.sweepable now) :=
        Table.get_deleteWhere ..
  cases hs : d.sessions.get k with
  | none =>
    have hview : (d.sweep ids now).view k = d.view k := view_congr (by simp [hget, hs]) rfl rfl
    rw [hview]
    exact .stay
  | some s =>
    by_cases hp : (ids.contains k && s.sweepable now) = true
    · -- only finished sessions are deleted
      have hview : (d.sweep ids now).view k = { d.view k with session := none } := by
        simp only [DB.view, hget, hs, Option.filter_some, hp]
        rfl
      rw [hview]
      simp only [Session.sweepable, Bool.and_eq_true] at hp
      exact .delete (by simpa [view_state? hs] using hp.2.1)
    · have hview : (d.sweep ids now).view k = d.view k := by
        refine view_congr ?_ rfl rfl
        simp only [hget, hs, Option.filter_some, hp]
        rfl
      rw [hview]
      exact .stay

/-! ## Terminal attachments -/

theorem moves_acquireTerminalAttachment (hd : d.Wf) {generation : Int} :
    MovesBy t d (acquireTerminalAttachment tenantRef subjectRef sandboxID id generation attachmentID now) := by
  simp only [acquireTerminalAttachment, ensures_bind, ensures_require]
  intro _
  refine ensures_quotaLedgers fun _ => ensures_ownSession fun s hs =>
    ensures_hydrateDataPlaneTransport fun _ _ hl _ => ?_
  rw [ensures_ite]
  refine ⟨fun _ => moves_enqueueCancellation hd hs rfl hl _ _ now, fun _ => ?_⟩
  simp only [ensures_bind, ensures_get, ensures_lift, setSession, ensures_modify, ensures_pure]
  intro _ _
  exact moves_setSession_same (fun _ => rfl) fun _ => rfl

theorem moves_detachTerminalAttachment (hd : d.Wf) :
    MovesBy t d (detachTerminalAttachment tenantRef subjectRef id attachmentID now) := by
  simp only [detachTerminalAttachment, ensures_bind, ensures_require]
  refine ensures_quotaLedgers fun _ => ensures_ownSession fun s hs _ _ => ?_
  simp only [ensures_ite, ensures_bind, setSession, enqueueCancellation, ensures_modify]
  refine ⟨fun _ => moves_setSession_same (fun _ => rfl) fun _ => rfl,
    fun hl => ⟨fun _ => ?_, fun _ => ?_⟩⟩
  · have hviews : ∀ k, (d.setSession id (·.detach)).view k = d.view k :=
      view_setSession_same (fun _ => rfl) fun _ => rfl
    have hrow : (d.setSession id (·.detach)).sessions.get id = some s.detach := by
      simp [DB.setSession, hs]
    have hlive : s.state.live = true := by simpa using hl
    exact Moves.of_views hviews (moves_enqueueCancellation (hd.of_views hviews) hrow rfl
      hlive _ _ now)
  · exact moves_setSession_same (fun _ => rfl) fun _ => rfl

theorem Session.checkpointCancel_owner (s : Session) (cancel : Bool) :
    (s.checkpointCancel cancel).owner = s.owner := by
  cases cancel <;> rfl

variable {i : TerminalCheckpoint}

theorem moves_applyTerminalCheckpoint (hd : d.Wf) (hs : d.sessions.get id = some s)
    (ht : t = .checkpointTerminal tenantRef subjectRef id i now) :
    MovesBy t d (applyTerminalCheckpoint c id s i now) := by
  simp only [applyTerminalCheckpoint, ensures_bind, ensures_require, ensures_ite, ensures_lift,
    setSession, ensures_modify]
  intro hkind _
  refine ⟨fun _ _ => moves_refl, fun ha _ _ => ?_⟩
  have ha : s.state.active = true := by simpa using ha
  have hport : s.kind ≠ .port := by
    simp only [Bool.and_eq_true, beq_iff_eq] at hkind
    simp [hkind.1]
  have hrow : (d.setSession id fun row => (i.counted row).checkpointCancel i.cancel).sessions.get
      id = some ((i.counted s).checkpointCancel i.cancel) := by simp [DB.setSession, hs]
  have hview := view_setSession (f := fun row => (i.counted row).checkpointCancel i.cancel) hs
    (Session.checkpointCancel_owner (i.counted s) i.cancel)
  split
  · next e _ =>
    -- the terminal's projection is written over the checkpoint
    rw [applyDataPlaneProjection, setSession, ensures_modify]
    refine moves_at id (fun k hk => ?_) ?_
    · rw [view_setSession_of_ne _ hk, view_setSession_of_ne _ hk]
    · rw [view_setSession hrow (Projection.row_owner ..), hview]
      have hmove := Move.finishAlone (t := t) (k := id) (q := (d.view id).queued)
        (by rw [view_active hs]; exact ha)
        (Projection.row_active c (.ptyTerm e) (s.checkpointCancel i.cancel) now
          ((i.counted s).checkpointCancel i.cancel)) (hd.port_none hs hport) fun h => h
      simpa [View.setState, Function.comp_def] using hmove
  · next hterminal =>
    rw [ensures_pure]
    refine moves_at id (fun k hk => view_setSession_of_ne _ hk) ?_
    rw [hview]
    cases hc : i.cancel with
    | true =>
      have hnone : i.terminal = none := by simpa [Option.eq_none_iff_forall_ne_some] using hterminal
      exact .clientCancel tenantRef subjectRef i now ht hc hnone (by rw [view_active hs]; exact ha)
    | false =>
      have hsame : (d.view id).setState s.state = d.view id := by
        simp [View.setState, DB.view, hs, Session.view]
      simp only [Session.checkpointCancel, TerminalCheckpoint.counted, Bool.false_eq_true,
        if_false, hsame]
      exact .stay

/-- A checkpoint without a terminal writes its counters and the client's cancellation. -/
theorem ensures_checkpointTerminal (hn : i.terminal = none) :
    (checkpointTerminal c tenantRef subjectRef id i now).Ensures d fun _ d' =>
      ∃ s, d.sessions.get id = some s ∧ s.state.active = true ∧
        d' = d.setSession id fun row => (i.counted row).checkpointCancel i.cancel := by
  simp only [checkpointTerminal, ensures_bind, ensures_require]
  intro _
  refine ensures_quotaLedgers fun _ => ensures_ownSession fun s hs => ?_
  simp only [applyTerminalCheckpoint, hn, ensures_bind, ensures_require, ensures_ite, ensures_lift,
    setSession, ensures_modify, ensures_pure]
  intro _ _
  refine ⟨fun _ h => absurd h (by simp), fun ha _ _ => ⟨s, hs, by simpa using ha, trivial⟩⟩

theorem moves_checkpointTerminal (hd : d.Wf)
    (ht : t = .checkpointTerminal tenantRef subjectRef id i now) :
    MovesBy t d (checkpointTerminal c tenantRef subjectRef id i now) := by
  simp only [checkpointTerminal, ensures_bind, ensures_require]
  intro _
  refine ensures_quotaLedgers fun _ => ensures_ownSession fun s hs => ?_
  exact moves_applyTerminalCheckpoint hd hs ht

/-! ## PortSessions -/

variable {p : PortSession}

theorem DB.Wf.kind_of_port (hd : d.Wf) (hp : d.ports.get id = some p)
    (hs : d.sessions.get id = some s) : s.kind = .port :=
  congrArg Owner.kind ((hd id).owners p.view s.view (view_port hp) (view_session hs))

theorem moves_consumePortSession (hd : d.Wf) :
    MovesBy t d (consumePortSession tenantRef subjectRef id now) := by
  simp only [consumePortSession, ensures_bind, ensures_require]
  refine ensures_quotaLedgers fun _ => ensures_scanPortTunnel fun tunnel htunnel _ _ _ _ => ?_
  refine ensures_validateLivePortAuthority ?_
  simp only [setPort, startPending, ensures_modify]
  have hviews : ∀ k, (d.setPort id (·.connect now)).view k = d.view k :=
    view_setPort_same fun _ => rfl
  have hs : (d.setPort id (·.connect now)).sessions.get id = some tunnel.session := htunnel.own hd
  exact Moves.of_views hviews (moves_startPending hs)

/-- A direct credential is spent on an open PortSession, whatever state its session is in. -/
theorem ensures_consumeDirectPortSession (hd : d.Wf) (i : DirectConsumption) :
    (consumeDirectPortSession i).Ensures d fun _ d' => ∃ p s, d.ports.get i.sessionID = some p ∧
      p.state = .opened ∧ d.sessions.get i.sessionID = some s ∧
      d' = (d.setPort i.sessionID (·.connect i.now)).setSession i.sessionID (·.run) := by
  simp only [consumeDirectPortSession, ensures_bind, ensures_require]
  intro _
  refine ensures_lockDataPlaneSessionQuota (ensures_scanPortTunnel fun tunnel htunnel _ _ _
    _ hopen => ?_)
  refine ensures_validateLivePortAuthority ?_
  simp only [setPort, setSession, ensures_modify]
  simp only [Bool.and_eq_true, beq_iff_eq] at hopen
  exact ⟨tunnel.port, tunnel.session, htunnel.port, hopen.1, htunnel.own hd, trivial⟩

theorem moves_consumeDirectPortSession (hd : d.Wf) {i : DirectConsumption}
    (ht : t = .consumeDirectPort i) :
    MovesBy t d (consumeDirectPortSession i) := by
  refine (ensures_consumeDirectPortSession hd i).mono fun _ d' h => ?_
  obtain ⟨p, s, hp, hopen, hs, rfl⟩ := h
  have hviews : ∀ k, (d.setPort i.sessionID (·.connect i.now)).view k = d.view k :=
    view_setPort_same fun _ => rfl
  have hs' : (d.setPort i.sessionID (·.connect i.now)).sessions.get i.sessionID = some s := hs
  refine Moves.of_views hviews (moves_at i.sessionID (fun k hk => view_setSession_of_ne _ hk) ?_)
  rw [view_setSession hs' rfl, hviews]
  exact .consumeDirect i ht rfl (by rw [view_port? hp, hopen])

/-- The view of an open PortSession that ends: its port's state is the one given. -/
theorem View.setPort_finish {v : View} (h : v.port? = some .opened) (st : PortState) :
    v.setPort (PortState.finish st) = v.setPort fun _ => st := by
  obtain ⟨p, hp, hst⟩ : ∃ p, v.port = some p ∧ p.state = .opened := by simpa [View.port?] using h
  simp [View.setPort, hp, hst, PortState.finish, PortState.unfinished]

theorem Move.finishOpen {v : View} (hp : v.port? = some .opened) (ha : v.active = true)
    (st : SessionState) (ps : PortState) (q : Bool) (hst : st.active = false)
    (hps : ps.unfinished = false)
    (hq : v.queued = true → q = true) :
    Move t k v { (v.setState st).setPort fun _ => ps with queued := q } := by
  have hmove := Move.finish (t := t) (k := k) st ps q ha hst hps hq
  have hport : (v.setState st).setPort ps.finish = (v.setState st).setPort fun _ => ps :=
    View.setPort_finish (v := v.setState st) hp ps
  rwa [hport] at hmove

theorem moves_closeOpenPort (hd : d.Wf) {i : PortClose} {tunnel : Tunnel}
    (htunnel : tunnel.Of d i.sessionID) (hopen : tunnel.port.state = .opened) :
    MovesBy t d (closeOpenPort c i tunnel) := by
  have hopened : (d.view i.sessionID).port? = some .opened := by rw [view_port? htunnel.port, hopen]
  simp only [closeOpenPort, ensures_bind, ensures_get, ensures_expect, ensures_ite, setSession,
    completeCancelledSession, enqueueCancellation, setPort, ensures_modify]
  intro s hs
  refine ⟨fun hpending => ?_, fun _ => ?_⟩
  · -- never consumed: the session completes here
    have hviews : ∀ k, (d.setSession i.sessionID (·.record (.port .cancelled) i.reason)).view
        k = d.view k :=
      view_setSession_same (fun _ => rfl) fun _ => rfl
    have hrow : (d.setSession i.sessionID (·.record (.port .cancelled) i.reason)).sessions.get
        i.sessionID = some (s.record (.port .cancelled) i.reason) := by simp [DB.setSession, hs]
    have hd' := hd.of_views hviews
    refine moves_at i.sessionID (fun k hk => ?_) ?_
    · rw [view_setPort_of_ne _ hk, view_completeCancelledSession_of_ne hd' c i.now hk, hviews]
    · rw [view_setPort (g := fun _ => .closed) fun _ => rfl,
        view_completeCancelledSession hd' c i.now hrow, hviews]
      have hmove := Move.finishOpen (t := t) (k := i.sessionID) hopened ((hd _).opened hopened)
        .completed .closed
        (d.view i.sessionID).queued rfl rfl fun h => h
      simpa [View.setPort, Function.comp_def] using hmove
  · refine moves_at i.sessionID (fun k hk => ?_) ?_
    · rw [view_setPort_of_ne _ hk, view_enqueueCancellation_of_ne _ _ _ _ hk]
    · rw [view_setPort (g := fun _ => .closed) fun _ => rfl,
        view_enqueueCancellation _ _ _ hs (by rw [hd.cancelID_eq hs, hd.kind_of_port htunnel.port hs]; rfl)]
      exact .closePort hopened

theorem moves_closePortSession (hd : d.Wf) {i : PortClose} :
    MovesBy t d (closePortSession c i) := by
  simp only [closePortSession, ensures_bind, ensures_require]
  intro _
  refine ensures_lockDataPlaneSessionQuota ?_
  simp only [ensures_get]
  intro _
  refine ensures_scanPortTunnel fun tunnel htunnel _ => ?_
  simp only [ensures_ite, ensures_bind, ensures_modify, ensures_pure]
  have hclose : ∀ d', Moves t d d' → ((i.idempotencyKey != "") = true →
      Moves t d (d'.recordClose c i)) ∧ (¬(i.idempotencyKey != "") = true → Moves t d d') :=
    fun d' h => ⟨fun _ => h.congr rfl rfl rfl, fun _ => h⟩
  refine ⟨fun hopen => ?_, fun _ => hclose d moves_refl⟩
  rw [beq_iff_eq] at hopen
  exact (moves_closeOpenPort hd htunnel hopen).mono fun _ d' h => hclose d' h

theorem moves_getPortTunnel (hd : d.Wf) :
    MovesBy t d (getPortTunnel tenantRef subjectRef sandboxID id now) := by
  simp only [getPortTunnel, ensures_bind]
  refine ensures_scanPortTunnel fun _ _ _ => ?_
  rw [ensures_ite]
  refine ⟨fun _ => ?_, fun _ => moves_refl⟩
  simp only [ensures_bind]
  refine ensures_quotaLedgers fun _ => ensures_scanPortTunnel fun tunnel htunnel _ => ?_
  rw [ensures_ite]
  refine ⟨fun hopen => ?_, fun _ => moves_refl⟩
  rw [beq_iff_eq] at hopen
  have hopened : (d.view id).port? = some .opened := by rw [view_port? htunnel.port, hopen]
  have hs := htunnel.own hd
  have hcancel : d.cancelID id = cancelCommandID tunnel.dataPlaneSession.kind id := by
    rw [hd.cancelID_eq hs, hd.kind_of_port htunnel.port hs]
    rfl
  simp only [terminatePortSession, htunnel.key, ensures_bind, enqueueCancellation, setSession,
    setPort, ensures_modify]
  refine moves_at id (fun k hk => ?_) ?_
  · rw [view_setPort_of_ne _ hk, view_setSession_of_ne _ hk,
      view_enqueueCancellation_of_ne _ _ _ _ hk]
  · have hrow : (d.enqueueCancellation id tunnel.dataPlaneSession (.port .cancelled)
      "port session expired" now).sessions.get
        id = some (tunnel.dataPlaneSession.cancelled (.port .cancelled) "port session expired" now
          tunnel.session) := by
      simp [DB.enqueueCancellation, hs]
    rw [view_setPort (g := fun _ => .expired) fun _ => rfl, view_setSession hrow rfl,
      view_enqueueCancellation _ _ _ hs hcancel]
    have hmove :=
      Move.finishOpen (t := t) (k := id) hopened ((hd id).opened hopened) .completed .expired true
      rfl rfl fun _ => rfl
    simpa [View.setPort, View.setState, View.queue, Function.comp_def,
      Session.expirePort] using hmove

theorem moves_recordPortSessionTerminal {f : PortTerminalFrame} :
    MovesBy t d (recordPortSessionTerminal c f now) := by
  simp only [recordPortSessionTerminal, ensures_bind, ensures_require]
  intro _
  refine ensures_lockDataPlaneSessionQuota (ensures_scanPortTunnel fun tunnel htunnel _ => ?_)
  simp only [ensures_get, ensures_expect, ensures_ite, ensures_bind, setSession, setPort,
    ensures_modify, ensures_pure]
  intro _ s hs
  refine ⟨fun _ => moves_refl, fun h => ?_⟩
  have ha : s.state.active = true := by
    simp only [Bool.or_eq_true, not_or] at h
    simpa using h.2
  refine moves_at f.operationID (fun k hk => ?_) ?_
  · rw [view_setPort_of_ne _ hk, view_setSession_of_ne _ hk]
  · rw [view_setPort (g := PortState.finish (if f.terminal.kind = .fenced then .fenced else .closed)) fun _ => rfl,
      view_setSession hs rfl]
    refine .finish _ _ _ (by rw [view_active hs]; exact ha) ?_ ?_ fun h => h
    · simp only [PortTerminalFrame.row]
      split <;> rfl
    · split <;> rfl

/-! ## Disconnects, fencing and cleanup -/

/-- Writes to many rows at once, each of which leaves a session alone or ends it with its PortSession. -/
theorem Moves.of_rows (hc : d'.commands = d.commands)
    (h : ∀ k, ((d'.sessions.get k).map (·.view) = (d.view k).session ∧
        (d'.ports.get k).map (·.view) = (d.view k).port) ∨
      ∃ st ps, (d.view k).active = true ∧ SessionState.active st = false ∧ PortState.unfinished ps =
        false ∧ (d'.sessions.get k).map (·.view) = ((d.view k).setState st).session ∧
        (d'.ports.get k).map (·.view) = ((d.view k).setPort ps.finish).port) : Moves t d d' := by
  intro k
  have hview : (d'.ports.get k).isSome = (d.ports.get k).isSome →
      d'.view k = ⟨(d'.sessions.get k).map (·.view), (d'.ports.get k).map (·.view),
      (d.view k).queued⟩ := by
    intro hp
    have hid : d'.cancelID k = d.cancelID k := by simp only [DB.cancelID, hp]
    simp only [DB.view, hid, hc]
  rcases h k with ⟨hs, hp⟩ | ⟨st, ps, ha, hst, hps, hs, hp⟩
  · rw [hview (by simpa [DB.view] using congrArg Option.isSome hp), hs, hp]
    exact .stay
  · rw [hview (by simpa [DB.view] using congrArg Option.isSome hp), hs, hp]
    exact .finish st ps _ ha hst hps fun h => h

theorem Session.detachFrom_view (s : Session) (now : Time) : (s.detachFrom now).view = s.view := rfl

theorem Session.detachFrom_servedBy (s : Session) (runnerID : ID) (now : Time) :
    (s.detachFrom now).servedBy runnerID = s.servedBy runnerID := rfl

theorem Session.failDisconnected_view (s : Session) (now : Time) :
    (s.failDisconnected now).view = { s.view with state := .failed } := rfl

theorem moves_failDisconnected (hd : d.Wf) {runnerID : ID} :
    Moves t d (d.failDisconnected runnerID now) := by
  refine Moves.of_rows rfl fun k => ?_
  -- detaching a Terminal shows neither in its view nor in whether the Runner served it
  have hsession : ((d.failDisconnected runnerID now).sessions.get k).map (·.view) =
    (d.sessions.get k).map fun s =>
      if s.servedBy runnerID then { s.view with state := .failed } else s.view := by
    simp only [DB.failDisconnected, Table.get_updateWhere, Option.map_map]
    congr 1
    funext s
    simp only [Function.comp_apply]
    generalize hs' : (if d.attachedThrough runnerID s = true then s.detachFrom now else s) = s'
    have hserved : s'.servedBy runnerID = s.servedBy runnerID := by
      rw [← hs']; split
      · exact Session.detachFrom_servedBy s runnerID now
      · rfl
    have hview : s'.view = s.view := by
      rw [← hs']; split
      · exact Session.detachFrom_view s now
      · rfl
    rw [hserved]
    split
    · rw [Session.failDisconnected_view, hview]
    · exact hview
  have hport : ((d.failDisconnected runnerID now).ports.get k).map (·.view) =
    (d.ports.get k).map fun p =>
      if (d.sessions.get k).any (·.servedBy runnerID) then
        { p.view with state := PortState.finish .closed p.state }
      else p.view := by
    simp only [DB.failDisconnected, Table.get_updateWhere, Option.map_map]
    cases hp : d.ports.get k with
    | none => rfl
    | some p =>
      rw [Option.map_some, Option.map_some, Function.comp_apply, hd.portKey hp]
      cases (d.sessions.get k).any (·.servedBy runnerID) <;> cases hst : p.state.unfinished <;>
        simp [PortState.finish, hst, PortSession.close, PortSession.view, PortSession.owner]
  cases hs : d.sessions.get k with
  | none =>
    left
    simp [hsession, hport, hs, DB.view]
  | some s =>
    cases hserved : s.servedBy runnerID with
    | true =>
      right
      have ha : s.state.active = true := by
        simp only [Session.servedBy, Bool.and_eq_true] at hserved
        exact hserved.2
      refine ⟨.failed, .closed, by rw [view_active hs]; exact ha, rfl, rfl, ?_, ?_⟩
      · simp [hsession, hs, hserved, DB.view]
      · rw [hport]
        simp [hs, hserved, DB.view, PortSession.view, Function.comp_def]
    | false =>
      left
      simp [hsession, hport, hs, hserved, DB.view]

theorem moves_closeConnection (hd : d.Wf) {runnerID connectionID : ID} :
    MovesBy t d (closeConnection runnerID connectionID now) := by
  simp only [closeConnection, ensures_bind, ensures_require, ensures_modify, ensures_get,
    ensures_ite, ensures_pure]
  intro _
  refine ⟨fun _ => ?_, fun _ => moves_of_eq rfl rfl rfl⟩
  refine Moves.of_views (e := _) ?_ (moves_failDisconnected ?_)
  · intro k; rfl
  · exact hd

theorem DB.Wf.active_of_unfinished (hd : d.Wf) (hp : d.ports.get k = some p)
    (hst : p.state.unfinished = true) : (d.view k).active = true := by
  have hclosing := (hd k).notClosing
  rw [view_port? hp] at hclosing
  refine (hd k).opened ?_
  rw [view_port? hp]
  cases hp : p.state <;> simp_all [PortState.unfinished]

theorem moves_fenceGeneration (hd : d.Wf) {generation : Int} :
    Moves t d (d.fenceGeneration sandboxID generation now) := by
  refine Moves.of_rows rfl fun k => ?_
  have hsession : ((d.fenceGeneration sandboxID generation now).sessions.get k).map (·.view) =
      (d.sessions.get k).map fun s =>
        if s.sandboxID == sandboxID && s.generation == generation && s.state.active then
          { s.view with state := .failed } else s.view := by
    simp only [DB.fenceGeneration, Table.get_updateWhere, Option.map_map]
    congr 1
    funext s
    simp only [Function.comp_apply]
    split <;> rfl
  have hport : ((d.fenceGeneration sandboxID generation now).ports.get k).map (·.view) =
      (d.ports.get k).map fun p =>
        if p.sandboxID == sandboxID && p.generation == generation && p.state.unfinished then
          { p.view with state := .fenced } else p.view := by
    simp only [DB.fenceGeneration, Table.get_updateWhere, Option.map_map]
    congr 1
    funext p
    simp only [Function.comp_apply]
    split <;> rfl
  rw [hsession, hport]
  by_cases hfenced : (d.sessions.get k).any (fun s =>
      s.sandboxID == sandboxID && s.generation == generation && s.state.active) = true
  · right
    obtain ⟨s, hs, hmatch⟩ := (Option.any_eq_true ..).1 hfenced
    obtain ⟨⟨rfl, rfl⟩, ha⟩ : (s.sandboxID = sandboxID ∧ s.generation = generation) ∧
        s.state.active = true := by
      simpa using hmatch
    refine ⟨.failed, .fenced, by rw [view_active hs]; exact ha, rfl, rfl, by simp [hs,
      ha, DB.view], ?_⟩
    cases hp : d.ports.get k with
    | none => simp [DB.view, hp]
    | some p =>
      -- the PortSession has its session's owner, so it is of the fenced generation too
      have howner := (hd k).owners p.view s.view (view_port hp) (view_session hs)
      have hsandbox : s.sandboxID = p.sandboxID := congrArg Owner.sandboxID howner
      have hgen : s.generation = p.generation := congrArg Owner.generation howner
      cases hst : p.state.unfinished <;>
        simp [DB.view, hp, hsandbox, hgen, hst, PortState.finish, PortSession.view]
  · left
    simp only [Option.any_eq_true, Bool.and_eq_true, beq_iff_eq, not_exists, not_and] at hfenced
    constructor
    · cases hs : d.sessions.get k with
      | none => simp [DB.view, hs]
      | some s =>
        have hkeep := hfenced s hs
        simpa [DB.view, hs] using fun h h' h'' => absurd h'' (hkeep ⟨h, h'⟩)
    · cases hp : d.ports.get k with
      | none => simp [DB.view, hp]
      | some p =>
        have hkeep : ¬(p.sandboxID = sandboxID ∧ p.generation = generation ∧
            p.state.unfinished = true) := by
          rintro ⟨rfl, rfl, hst⟩
          obtain ⟨st, hstate, hactive⟩ := (Option.any_eq_true ..).1 (hd.active_of_unfinished hp hst)
          obtain ⟨s, hs, rfl⟩ : ∃ s, d.sessions.get k = some s ∧ s.state = st := by
            simpa [View.state?, DB.view, Session.view] using hstate
          have howner := (hd k).owners p.view s.view (view_port hp) (view_session hs)
          exact hfenced s hs ⟨congrArg Owner.sandboxID howner, congrArg Owner.generation howner⟩
            hactive
        simpa [DB.view, hp] using fun h h' h'' => absurd ⟨h, h', h''⟩ hkeep

theorem moves_cancelOperations {cleanupID : ID} :
    MovesBy t d (cancelOperations tenantRef subjectRef cleanupID) := by
  simp only [cancelOperations, ensures_bind]
  exact ensures_quotaLedgers fun _ => moves_of_eq rfl rfl rfl

theorem ensures_releaseResources :
    (releaseResources tenantRef subjectRef now).Ensures d fun _ d' =>
      d' = d.releaseResources tenantRef subjectRef now := by
  simp only [releaseResources, ensures_bind]
  exact ensures_quotaLedgers fun _ => rfl

theorem moves_releaseResources (ht : t = .releaseResources tenantRef subjectRef now) :
    MovesBy t d (releaseResources tenantRef subjectRef now) := by
  refine ensures_releaseResources.mono fun _ d' h => ?_
  subst h
  intro k
  have hget : (d.releaseResources tenantRef subjectRef now).ports.get k =
    (d.ports.get k).map fun p =>
      if p.tenantRef == tenantRef && p.subjectRef == subjectRef && p.state.unfinished then
        p.release now else p :=
    Table.get_updateWhere ..
  by_cases hown : (d.ports.get k).any (fun p => p.tenantRef == tenantRef &&
    p.subjectRef == subjectRef) = true
  · obtain ⟨p, hp, hmatch⟩ := (Option.any_eq_true ..).1 hown
    have hview : (d.releaseResources tenantRef subjectRef now).view k = (d.view k).setPort
        (PortState.finish .closed) := by
      refine view_ports (d := { d with auth := (d.releaseResources tenantRef subjectRef now).auth })
        (d.releaseResources tenantRef subjectRef now).ports ?_ ?_
      · intro q hq
        have hq : d.ports.get k = some q := hq
        rw [hp, Option.some_inj] at hq
        subst hq
        refine ⟨_, by rw [hget, hp, Option.map_some], ?_⟩
        cases hst : p.state.unfinished <;>
          simp [hmatch, PortState.finish, hst, PortSession.release, PortSession.view,
            PortSession.owner]
      · intro hq
        rw [hget, show d.ports.get k = none from hq, Option.map_none]
    rw [hview]
    simp only [Bool.and_eq_true, beq_iff_eq] at hmatch
    exact .release tenantRef subjectRef now ht p.view (view_port hp) hmatch
  · have hview : (d.releaseResources tenantRef subjectRef now).view k = d.view k := by
      refine view_congr rfl ?_ rfl
      rw [hget]
      cases hp : d.ports.get k with
      | none => rfl
      | some p =>
        have hmatch : (p.tenantRef == tenantRef && p.subjectRef == subjectRef) = false := by
          simpa [hp] using hown
        simp only [Option.map_some, hmatch, Bool.false_and]
        rfl
    rw [hview]
    exact .stay

/-! ## Admission -/

/-- A preparation is added where the Subject and the Tenant have room for it. -/
structure ImagePreparation.Admitted (d : DB) (i : ImagePreparation) (tenant subject : QuotaLimits) :
    Prop where
  unused : d.operations.get i.operationID = none
  tenantQuota : d.auth.tenantQuotas.get i.tenantRef = some tenant
  subjectQuota : d.auth.subjectQuotas.get (i.tenantRef, i.subjectRef) = some subject
  tenantRoom : tenant.maxConcurrentOperations.allows (d.tenantOperations i.tenantRef + 1) = true
  subjectRoom : subject.maxConcurrentOperations.allows
    (d.subjectOperations i.tenantRef i.subjectRef + 1) = true

theorem ensures_prepareImage (i : ImagePreparation) :
    (prepareImage i).Ensures d fun _ d' =>
      d' = d ∨ d' = d.insertPreparation i ∧ ∃ tenant subject, i.Admitted d tenant subject := by
  simp only [prepareImage, ensures_bind, ensures_get]
  split
  · simp only [ensures_bind, ensures_require, ensures_pure]
    exact fun _ => .inl trivial
  · simp only [ensures_bind]
    refine ensures_quotaLedgers_rows fun q htenant hsubject =>
      ensures_activeTenant (ensures_activeSubject ?_)
    simp only [ensures_require, ensures_modify, ensures_pure]
    intro hroom _ _ hunused
    rw [Bool.and_eq_true] at hroom
    exact .inr ⟨trivial, q.1, q.2, by simpa using hunused, htenant, hsubject, hroom.1, hroom.2⟩

theorem moves_prepareImage {i : ImagePreparation} : MovesBy t d (prepareImage i) := by
  refine (ensures_prepareImage i).mono fun _ d' h => ?_
  rcases h with rfl | ⟨rfl, -⟩
  · exact moves_refl
  · exact moves_of_eq rfl rfl rfl

theorem moves_reconcileImagePreparation {decided : OperationState} :
    MovesBy t d (reconcileImagePreparation id decided) := by
  simp only [reconcileImagePreparation, ensures_bind, ensures_get, ensures_expect, ensures_ite,
    ensures_modify, ensures_pure]
  exact fun _ _ => ⟨fun _ => moves_of_eq rfl rfl rfl, fun _ => moves_refl⟩

/-- The limit of a Sandbox's pinned Profile revision. -/
def DB.sandboxLimit (d : DB) (sandboxID : ID) : Option Int :=
  (d.auth.sandboxes.get sandboxID).bind fun s =>
    (d.auth.revisions.get s.profileRevisionID).map (·.concurrentOperations)

/-- The Subject's limit. -/
def DB.subjectLimit (d : DB) (tenantRef subjectRef : ID) : Option PolicyLimit :=
  (d.auth.subjectQuotas.get (tenantRef, subjectRef)).map (·.maxConcurrentOperations)

/-- The Tenant's limit. -/
def DB.tenantLimit (d : DB) (tenantRef : ID) : Option PolicyLimit :=
  (d.auth.tenantQuotas.get tenantRef).map (·.maxConcurrentOperations)

/-- An admission observes the usage and the limits of the database it runs in. -/
structure Capacity.Of (d : DB) (tenantRef subjectRef sandboxID : ID) (c : Capacity) : Prop where
  sandboxActive : c.sandboxActive = d.sandboxSessions sandboxID
  subjectActive : c.subjectActive = d.subjectSessions tenantRef subjectRef
  tenantActive : c.tenantActive = d.tenantSessions tenantRef
  sandboxMaximum : d.sandboxLimit sandboxID = some c.sandboxMaximum
  subjectMaximum : d.subjectLimit tenantRef subjectRef = some c.subjectMaximum
  tenantMaximum : d.tenantLimit tenantRef = some c.tenantMaximum

variable {i : Admission}

theorem ensures_lockCapacity {revision : ProfileRevision} {Q : Capacity → DB → Prop}
    (hr : d.sandboxLimit i.sandboxID = some revision.concurrentOperations)
    (h : ∀ c : Capacity, c.Of d i.tenantRef i.subjectRef i.sandboxID → Q c d) :
    (lockCapacity i revision).Ensures d Q := by
  simp only [lockCapacity, ensures_bind, ensures_get, ensures_expect]
  intro tenantQuota htenant
  refine ensures_activeTenant ?_
  simp only [ensures_pure]
  intro subjectQuota hsubject
  exact h _ ⟨rfl, rfl, rfl, hr, by simp [DB.subjectLimit, hsubject], by simp [DB.tenantLimit, htenant]⟩

variable {Q : Unit → DB → Prop}

theorem ensures_admissionLease (h : Q () d) : (admissionLease i).Ensures d Q := by
  rw [admissionLease, ensures_ite]
  exact ⟨fun _ => ensures_leaseActive h, fun _ => h⟩

theorem ensures_lockDataPlaneAuthority {Q : Resolved → DB → Prop}
    (h : ∀ r : Resolved, r.capacity.Of d i.tenantRef i.subjectRef i.sandboxID → Q r d) :
    (lockDataPlaneAuthority i).Ensures d Q := by
  simp only [lockDataPlaneAuthority, ensures_bind, ensures_get, ensures_expect]
  intro sandbox hsandbox
  have hrow := (Option.filter_eq_some_iff.1 hsandbox).1
  split
  · next assignmentID assignment revision _ hrevision =>
    simp only [ensures_bind, ensures_require]
    intro _ _ _
    refine ensures_admissionLease ?_
    simp only [ensures_lift]
    intro _ _ _
    refine ensures_lockCapacity ?_ fun c hc => h _ hc
    simp [DB.sandboxLimit, hrow, hrevision]
  · simp only [ensures_bind, ensures_require]
    exact fun _ => ensures_throw _

/-- What an admission adds: a pending session under an unused id, and no cancel command. -/
structure Admits (d : DB) (id : ID) (s : Session) (d' : DB) : Prop where
  unused : d.sessions.get id = none
  sessions : d'.sessions = d.sessions.insertNew id s
  cancel : ∀ k, d'.commands.get (.cancel k) = d.commands.get (.cancel k)
  portCancel : ∀ k, d'.commands.get (.portCancel k) = d.commands.get (.portCancel k)
  pending : s.state = .pending

theorem ensures_insertSession
    (h : d.sessions.get id = none → Q () { d with sessions := d.sessions.insertNew id s }) :
    (insertSession id s).Ensures d Q := by
  simp only [insertSession, ensures_bind, ensures_get, ensures_require, Option.isNone_iff_eq_none,
    ensures_modify]
  exact h

theorem ensures_insertPort
    (h : d.ports.get id = none → Q () { d with ports := d.ports.insertNew id p }) :
    (insertPort id p).Ensures d Q := by
  simp only [insertPort, ensures_bind, ensures_get, ensures_require, Option.isNone_iff_eq_none,
    ensures_modify]
  exact h

theorem Admits.directOpen (h : Admits d id s d') (credentialDigest : Bytes)
    (hQ : ∀ e, Admits d id s e → e.ports = d'.ports → Q () e) :
    (insertDirectOpen id s credentialDigest).Ensures d' Q := by
  simp only [insertDirectOpen, ensures_bind, ensures_get, ensures_require, ensures_modify]
  refine fun _ => hQ _ ⟨h.unused, h.sessions, fun k => ?_, fun k => ?_, h.pending⟩ rfl
  · rw [← h.cancel k]
    exact Table.get_insertNew_of_ne _ _ (by simp)
  · rw [← h.portCancel k]
    exact Table.get_insertNew_of_ne _ _ (by simp)

/-- The owner of the new session. -/
def Admission.owner (i : Admission) : Owner :=
  ⟨i.tenantRef, i.subjectRef, i.sandboxID, i.generation, i.kind⟩

variable {u : Unit}

theorem validateDataPlaneAdmission_kind (h : validateDataPlaneAdmission i = .ok u) :
    i.kind ≠ .port := by
  intro hk
  simp only [validateDataPlaneAdmission, hk] at h
  split at h <;> cases h

/-- A check that passed failed none of its tests. -/
theorem passed {b : Prop} [Decidable b] {e : Err} {rest : Except Err Unit}
    (h : (if b then .error e else rest) = .ok u) : ¬b ∧ rest = .ok u := by
  by_cases hb : b
  · simp [hb] at h
  · exact ⟨hb, by simpa [hb] using h⟩

theorem checkAdmission_capacity {c : Config} {r : Resolved}
    (h : checkAdmission c i r = .ok u) : r.capacity.exhausted = false := by
  rw [checkAdmission] at h
  iterate 8 replace h := (passed h).2
  simpa using (passed h).1

/-- What an admission that is no replay did; `r` is the usage it observed. -/
structure Admission.Admitted (d : DB) (i : Admission) (s : Session) (r : Capacity) (d' : DB) : Prop
    extends Admits d i.id s d' where
  ports : d'.ports = d.ports
  owner : s.owner = i.owner
  kind : i.kind ≠ .port
  observed : r.Of d i.tenantRef i.subjectRef i.sandboxID
  fits : r.exhausted = false

theorem ensures_admitDataPlane (c : Config) (i : Admission) :
    (admitDataPlane c i).Ensures d fun a d' =>
      a.2 = true ∧ d' = d ∨ a.2 = false ∧ ∃ s r, i.Admitted d s r d' := by
  simp only [admitDataPlane, ensures_bind, ensures_lift]
  intro _ hvalid
  refine ensures_quotaLedgers fun _ => ?_
  simp only [ensures_get]
  split
  · simp only [ensures_bind, ensures_require, ensures_pure]
    intro _
    exact ensures_hydrateDataPlaneTransport fun _ =>
      ensures_authorizeReplayProfile (.inl ⟨trivial, rfl⟩)
  · simp only [ensures_bind]
    refine ensures_activeSubject (ensures_lockDataPlaneAuthority fun r hr => ?_)
    simp only [ensures_lift]
    intro _ hcheck
    have hdone : ∀ e, Admits d i.id ((i.withProfile c r.policy).session c r) e → e.ports = d.ports →
        i.Admitted d ((i.withProfile c r.policy).session c r) r.capacity e :=
      fun e he hp => ⟨he, hp, rfl, validateDataPlaneAdmission_kind hvalid, hr,
        checkAdmission_capacity hcheck⟩
    refine ensures_insertSession fun hnew => ?_
    have hadmits : Admits d i.id ((i.withProfile c r.policy).session c r)
        { d with sessions := d.sessions.insertNew i.id ((i.withProfile c r.policy).session c r) } :=
      ⟨hnew, rfl, fun _ => rfl, fun _ => rfl, rfl⟩
    simp only [ensures_ite, ensures_bind, ensures_pure]
    exact ⟨fun _ => hadmits.directOpen _ fun e he hp => .inr ⟨trivial, _, _, hdone e he hp⟩,
      fun _ => .inr ⟨trivial, _, _, hdone _ hadmits rfl⟩⟩

theorem Admits.view_of_ne (h : Admits d id s d') (hp : d'.ports.get k = d.ports.get k)
    (hk : k ≠ id) :
    d'.view k = d.view k := by
  refine view_congr ?_ hp ?_
  · rw [h.sessions]
    exact Table.get_insertNew_of_ne _ _ hk
  · simp only [DB.cancelID]
    split
    · exact h.portCancel k
    · exact h.cancel k

theorem DB.Unused.view_eq (h : d.Unused id) : d.view id = ⟨none, none, false⟩ := by
  simp [DB.view, DB.cancelID, h.session, h.port, h.cancel]

theorem moves_admitDataPlane (hf : Fresh d t) (ht : t = .admitDataPlane i) :
    MovesBy t d (admitDataPlane c i) := by
  refine (ensures_admitDataPlane c i).mono fun _ d' h => ?_
  rcases h with ⟨-, rfl⟩ | ⟨-, s, r, h⟩
  · exact moves_refl
  · have hmint : t.mints = some i.id := by rw [ht]; rfl
    have hunused := hf i.id hmint
    have hkind : s.owner.kind ≠ .port := by rw [h.owner]; exact h.kind
    refine moves_at i.id (fun k hk => h.view_of_ne (by rw [h.ports]) hk) ?_
    have hview : d'.view i.id = ⟨some ⟨s.owner, .pending⟩, none, false⟩ := by
      have hget : d'.sessions.get i.id = some s := by
        rw [h.sessions]
        exact Table.get_insertNew_self _ _ h.unused
      simp [DB.view, DB.cancelID, hget, h.ports, hunused.port, h.cancel, hunused.cancel,
        Session.view, h.pending]
    rw [hview]
    exact .admitSession s.owner hmint hunused.view_eq hkind

theorem ensures_lockPortAdmissionAuthority {i : PortAdmission} {transport : Transport}
    {Q : Sandbox × ID × Assignment × ProfileRevision × PortPolicy → DB → Prop} (h : ∀ r, Q r d) :
    (lockPortAdmissionAuthority i transport).Ensures d Q := by
  simp only [lockPortAdmissionAuthority, ensures_bind, ensures_get, ensures_expect, ensures_require]
  intro sandbox _ assignment _ revision _ _ _ _ _
  refine ensures_leaseActive ?_
  simp only [ensures_pure]
  intro policy _
  exact h _

theorem ensures_enforcePortSessionCapacity {i : PortAdmission} {policy : PortPolicy}
    (h : Q () d) : (enforcePortSessionCapacity i policy).Ensures d Q := by
  simp only [enforcePortSessionCapacity, ensures_bind, ensures_get, ensures_expect]
  intro _ _
  refine ensures_activeTenant ?_
  simp only [ensures_require]
  intro _ _ _
  exact h

/-- The owner of the new session. -/
def PortAdmission.owner (i : PortAdmission) : Owner :=
  ⟨i.tenantRef, i.subjectRef, i.sandboxID, i.generation, .port⟩

/-- What an admission of a PortSession that is no replay did. -/
structure PortAdmission.Admitted (d : DB) (i : PortAdmission) (s : Session) (p : PortSession)
    (d' : DB) : Prop extends Admits d i.id s d' where
  ports : d'.ports = d.ports.insertNew i.id p
  owner : s.owner = i.owner
  port : p.view = ⟨i.id, i.owner, .opened⟩

theorem ensures_admitPortSession (c : Config) (i : PortAdmission) :
    (admitPortSession c i).Ensures d fun a d' =>
      a.2 = true ∧ d' = d ∨ a.2 = false ∧ ∃ s p, i.Admitted d s p d' := by
  simp only [admitPortSession, ensures_bind, ensures_lift]
  intro transport _
  refine ensures_quotaLedgers fun _ => ?_
  simp only [ensures_get]
  split
  · simp only [ensures_bind, ensures_require, ensures_pure]
    intro _
    exact ensures_scanPortTunnel fun _ _ _ => ensures_authorizeReplayProfile (.inl ⟨trivial, rfl⟩)
  · simp only [ensures_bind]
    refine ensures_activeSubject (ensures_lockPortAdmissionAuthority fun r => ?_)
    simp only [ensures_require]
    intro _
    refine ensures_enforcePortSessionCapacity fun _ => ensures_insertSession fun hnew => ?_
    have hadmits : Admits d i.id (i.session c r.1.profileRevisionID r.2.1 r.2.2.1 r.2.2.2.1)
        { d with sessions := d.sessions.insertNew i.id (i.session c r.1.profileRevisionID r.2.1
          r.2.2.1 r.2.2.2.1) } :=
      ⟨hnew, rfl, fun _ => rfl, fun _ => rfl, rfl⟩
    have hport : ∀ e, Admits d i.id (i.session c r.1.profileRevisionID r.2.1 r.2.2.1 r.2.2.2.1) e →
        e.ports = d.ports →
        (insertPort i.id (i.port transport r.1.profileRevisionID r.2.2.2.1 r.2.2.2.2)).Ensures e
          fun _ d' =>
          ∃ s p, i.Admitted d s p d' := by
      intro e he hp
      refine ensures_insertPort fun _ =>
        ⟨_, i.port transport r.1.profileRevisionID r.2.2.2.1 r.2.2.2.2,
        ⟨⟨he.unused, he.sessions, he.cancel, he.portCancel, he.pending⟩, ?_, rfl, rfl⟩⟩
      rw [← hp]
    simp only [ensures_ite, ensures_bind, ensures_pure]
    exact ⟨fun _ => hadmits.directOpen _ fun e he hp => (hport e he hp).mono fun _ _ h =>
      .inr ⟨trivial, h⟩, fun _ => (hport _ hadmits rfl).mono fun _ _ h => .inr ⟨trivial, h⟩⟩

theorem moves_admitPortSession (hf : Fresh d t) {i : PortAdmission} (ht : t = .admitPortSession i) :
    MovesBy t d (admitPortSession c i) := by
  refine (ensures_admitPortSession c i).mono fun _ d' h => ?_
  rcases h with ⟨-, rfl⟩ | ⟨-, s, p, h⟩
  · exact moves_refl
  · have hmint : t.mints = some i.id := by rw [ht]; rfl
    have hunused := hf i.id hmint
    refine moves_at i.id (fun k hk => h.view_of_ne ?_ hk) ?_
    · rw [h.ports]
      exact Table.get_insertNew_of_ne _ _ hk
    have hview : d'.view i.id = ⟨some ⟨i.owner, .pending⟩, some ⟨i.id, i.owner, .opened⟩,
        false⟩ := by
      have hget : d'.sessions.get i.id = some s := by
        rw [h.sessions]
        exact Table.get_insertNew_self _ _ h.unused
      have hport : d'.ports.get i.id = some p := by
        rw [h.ports]
        exact Table.get_insertNew_self _ _ hunused.port
      simp [DB.view, DB.cancelID, hget, hport, h.portCancel, hunused.portCancel, Session.view,
        h.pending, h.owner, h.port]
    rw [hview]
    exact .admitPort i.owner hmint hunused.view_eq rfl

/-! ## Steps -/

/-- **Every transaction moves every session by a `Move`.** -/
theorem step_moves (c : Config) (hd : d.Wf) (hf : Fresh d t) : Moves t d (d.step c t) := by
  refine commit_of_ensures (P := Moves t d) ?_ moves_refl
  cases t with
  | admitDataPlane => exact (ensures_discard _).2 (moves_admitDataPlane hf rfl)
  | admitPortSession => exact (ensures_discard _).2 (moves_admitPortSession hf rfl)
  | prepareImage => exact (ensures_discard _).2 moves_prepareImage
  | reconcileImagePreparation => exact moves_reconcileImagePreparation
  | start => exact moves_startDataPlaneSession
  | consumeDirect => exact moves_consumeDirectDataPlaneSession
  | complete => exact moves_completeDataPlaneSession hd
  | cancel => exact (ensures_discard _).2 (moves_cancelDataPlaneSession hd)
  | expire => exact moves_expireDataPlaneSession hd
  | cancelPublic => exact (ensures_discard _).2 (moves_cancelPublicDataPlaneSession hd)
  | finalize => exact moves_finalizeUnconfirmedCancellation hd
  | confirm => exact moves_confirmDataPlaneCancellation hd
  | sweep => exact moves_sweepDataPlaneSessions
  | acquireTerminal => exact (ensures_discard _).2 (moves_acquireTerminalAttachment hd)
  | detachTerminal => exact moves_detachTerminalAttachment hd
  | checkpointTerminal => exact moves_checkpointTerminal hd rfl
  | consumePort => exact moves_consumePortSession hd
  | consumeDirectPort => exact moves_consumeDirectPortSession hd rfl
  | closePort => exact moves_closePortSession hd
  | getPortTunnel => exact moves_getPortTunnel hd
  | portTerminal => exact (ensures_discard _).2 moves_recordPortSessionTerminal
  | closeConnection => exact moves_closeConnection hd
  | fenceGeneration => exact moves_fenceGeneration hd
  | cancelOperations => exact moves_cancelOperations
  | releaseResources => exact moves_releaseResources rfl
  | authority a => exact moves_of_eq rfl rfl rfl

theorem step_wf (c : Config) (hd : d.Wf) (hf : Fresh d t) : (d.step c t).Wf :=
  fun k => (step_moves c hd hf k).wf (hd k)

end SecondBox.DataPlane

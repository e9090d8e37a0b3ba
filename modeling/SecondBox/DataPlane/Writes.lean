/-
  The data plane's writes as moves of views, and what its reads return.
-/
import SecondBox.DataPlane.Views

namespace SecondBox.DataPlane

open Relational Relational.Tx

/-- Every view is well-formed. -/
def DB.Wf (d : DB) : Prop := ∀ k, (d.view k).Wf k

/-- `t` may take `d` to `d'`. -/
def Moves (t : Transaction) (d d' : DB) : Prop := ∀ k, Move t k (d.view k) (d'.view k)

variable {t : Transaction} {d d' : DB} {id k : ID}

/-! ## Views after writes -/

variable {s : Session}

theorem view_session (h : d.sessions.get k = some s) : (d.view k).session = some s.view := by
  simp [DB.view, h]

variable {p : PortSession}

theorem view_port (h : d.ports.get k = some p) : (d.view k).port = some p.view := by
  simp [DB.view, h]

theorem view_state? (h : d.sessions.get k = some s) : (d.view k).state? = some s.state := by
  simp [View.state?, view_session h, Session.view]

theorem view_port? (h : d.ports.get k = some p) : (d.view k).port? = some p.state := by
  simp [View.port?, view_port h, PortSession.view]

theorem view_active (h : d.sessions.get k = some s) : (d.view k).active = s.state.active := by
  simp [View.active, view_state? h]

theorem view_live (h : d.sessions.get k = some s) : (d.view k).live = s.state.live := by
  simp [View.live, view_state? h]

theorem view_congr (hs : d'.sessions.get k = d.sessions.get k) (hp : d'.ports.get k = d.ports.get k)
    (hc : d'.commands.get (d.cancelID k) = d.commands.get (d.cancelID k)) :
    d'.view k = d.view k := by
  have hid : d'.cancelID k = d.cancelID k := by simp only [DB.cancelID, hp]
  simp only [DB.view, hs, hp, hid, hc]

theorem view_setSession_of_ne (f : Session → Session) (h : k ≠ id) :
    (d.setSession id f).view k = d.view k :=
  view_congr (Table.get_updateAt_of_ne _ f h) rfl rfl

variable {f : Session → Session}

theorem view_setSession (hs : d.sessions.get id = some s)
    (ho : (f s).owner = s.owner) :
    (d.setSession id f).view id = (d.view id).setState (f s).state := by
  have hget : (d.setSession id f).sessions.get id = some (f s) := by simp [DB.setSession, hs]
  simp only [DB.view, hget, hs, Option.map_some, Session.view, ho, View.setState]
  rfl

theorem view_setPort_of_ne (f : PortSession → PortSession) (h : k ≠ id) :
    (d.setPort id f).view k = d.view k :=
  view_congr rfl (Table.get_updateAt_of_ne _ f h) rfl

theorem view_ports (ports : Table ID PortSession) {g : PortState → PortState}
    (h : ∀ p, d.ports.get k = some p → ∃ p', ports.get k = some p' ∧ p'.view = { p.view with state := g p.state })
    (hn : d.ports.get k = none → ports.get k = none) :
    { d with ports := ports }.view k = (d.view k).setPort g := by
  cases hp : d.ports.get k with
  | none =>
    have hp' := hn hp
    simp [DB.view, DB.cancelID, hp, hp', View.setPort]
  | some p =>
    obtain ⟨p', hp', hview⟩ := h p hp
    simp only [DB.view, DB.cancelID, hp, hp', Option.map_some, hview, View.setPort,
      Option.isSome_some]
    rfl

theorem view_setPort {f : PortSession → PortSession} {g : PortState → PortState}
    (hf : ∀ p, (f p).view = { p.view with state := g p.state }) :
    (d.setPort id f).view id = (d.view id).setPort g := by
  refine view_ports (d.ports.updateAt id f) ?_ ?_
  · intro p hp
    exact ⟨f p, by simp [hp], hf p⟩
  · intro hn
    simp [hn]

theorem view_enqueueCancellation_of_ne (s : Session) (kind : TerminalKind) (detail : String)
    (now : Time) (h : k ≠ id) : (d.enqueueCancellation id s kind detail now).view k = d.view k := by
  refine view_congr (Table.get_updateAt_of_ne _ _ h) rfl (Table.get_insertNew_of_ne _ _ ?_)
  simp only [DB.cancelID, cancelCommandID]
  split <;> split <;> simp [h]

variable {row : Session}

theorem view_enqueueCancellation (kind : TerminalKind) (detail : String) (now : Time)
    (hrow : d.sessions.get id = some row) (hk : d.cancelID id = cancelCommandID s.kind id) :
    (d.enqueueCancellation id s kind detail now).view id =
      ((d.view id).setState .cancelling).queue := by
  have hget : (d.enqueueCancellation id s kind detail now).sessions.get id =
      some (s.cancelled kind detail now row) := by
    simp [DB.enqueueCancellation, hrow]
  have hid : (d.enqueueCancellation id s kind detail now).cancelID id = cancelCommandID s.kind id :=
    hk
  simp only [DB.view, hget, hid, hrow, Option.map_some, View.setState, View.queue]
  congr 1
  exact Table.get_insertNew_isSome ..

theorem DB.Wf.cancelID_eq (hd : d.Wf) (hs : d.sessions.get id = some s) :
    d.cancelID id = cancelCommandID s.kind id := by
  have hrow := (hd id).portRow s.view (view_session hs)
  simp only [DB.cancelID, cancelCommandID, beq_iff_eq]
  cases hp : d.ports.get id with
  | none =>
    have hkind : s.kind ≠ .port := by
      intro hk
      simp [DB.view, hp] at hrow
      exact hrow (by simp [Session.view, Session.owner, hk])
    simp [hkind]
  | some p =>
    have howner := (hd id).owners p.view s.view (view_port hp) (view_session hs)
    have hkind : s.kind = .port := congrArg Owner.kind howner
    simp [hkind]

theorem DB.Wf.port_none (hd : d.Wf) (hs : d.sessions.get id = some s) (hk : s.kind ≠ .port) :
    (d.view id).port = none := by
  cases hp : (d.view id).port with
  | none => rfl
  | some p =>
    have howner := (hd id).owners p s.view hp (view_session hs)
    have hkind := (hd id).portKind p hp
    rw [← howner] at hkind
    exact absurd hkind hk

theorem DB.Wf.portKey (hd : d.Wf) (hp : d.ports.get id = some p) : p.dataPlaneSessionID = id :=
  (hd id).portKey p.view (view_port hp)

theorem view_completeCancelledSession_of_ne (hd : d.Wf) (c : Config) (now : Time) (h : k ≠ id) :
    (d.completeCancelledSession c id now).view k = d.view k := by
  refine view_congr (Table.get_updateAt_of_ne _ _ h) ?_ rfl
  simp only [DB.completeCancelledSession, Table.get_updateWhere]
  cases hp : d.ports.get k with
  | none => rfl
  | some p => simp [hd.portKey hp, h]

theorem view_completeCancelledSession (hd : d.Wf) (c : Config) (now : Time)
    (hrow : d.sessions.get id = some row) :
    (d.completeCancelledSession c id now).view id =
      ((d.view id).setState .completed).setPort (PortState.finish .closed) := by
  have hports : (d.completeCancelledSession c id now).view id =
      ((d.setSession id (·.completeCancelled c now)).view id).setPort
      (PortState.finish .closed) := by
    refine view_ports (d := d.setSession id _) _ ?_ ?_
    · intro p hp
      have hkey := hd.portKey hp
      refine ⟨_, by simpa [Table.get_updateWhere] using ⟨p, hp, rfl⟩, ?_⟩
      cases hst : p.state.unfinished <;>
        simp [hkey, hst, PortState.finish, PortSession.view, PortSession.owner]
    · intro hp
      have hp : d.ports.get id = none := hp
      simp [hp]
  rw [hports, view_setSession hrow rfl]
  rfl

theorem view_startPending_of_ne (h : k ≠ id) : (d.startPending id).view k = d.view k := by
  refine view_congr ?_ rfl rfl
  simp only [DB.startPending, Table.get_updateWhere]
  cases d.sessions.get k <;> simp [h]

theorem view_startPending (hs : d.sessions.get id = some s) :
    (d.startPending id).view id = if s.state = .pending then
      (d.view id).setState .running else d.view id := by
  split
  · next hst =>
    have hget : (d.startPending id).sessions.get id = some { s with state := .running } := by
      simp [DB.startPending, hs, hst]
    simp only [DB.view, hget, hs, Option.map_some, View.setState]
    rfl
  · next hst => exact view_congr (by simp [DB.startPending, hs, hst]) rfl rfl

/-! ## Moves of writes -/

/-- A transaction that writes only the rows of `id`. -/
theorem moves_at (id : ID) (hne : ∀ k, k ≠ id → d'.view k = d.view k)
    (h : Move t id (d.view id) (d'.view id)) :
    Moves t d d' := by
  intro k
  by_cases hk : k = id
  · subst hk; exact h
  · rw [hne k hk]; exact .stay

theorem moves_of_eq (hs : d'.sessions = d.sessions) (hp : d'.ports = d.ports)
    (hc : d'.commands = d.commands) :
    Moves t d d' := by
  intro k
  have hview : d'.view k = d.view k := by simp only [DB.view, DB.cancelID, hs, hp, hc]
  rw [hview]
  exact .stay

variable {e : DB}

/-- Nothing but sessions, PortSessions and commands shows in a view. -/
theorem Moves.congr (h : Moves t d d') (hs : e.sessions = d'.sessions) (hp : e.ports = d'.ports)
    (hc : e.commands = d'.commands) : Moves t d e := by
  intro k
  have hview : e.view k = d'.view k := by simp only [DB.view, DB.cancelID, hs, hp, hc]
  rw [hview]
  exact h k

theorem moves_refl : Moves t d d := moves_of_eq rfl rfl rfl

theorem Moves.of_views (h : ∀ k, e.view k = d.view k) (hm : Moves t e d') : Moves t d d' := by
  intro k
  rw [← h k]
  exact hm k

theorem DB.Wf.of_views (hd : d.Wf) (h : ∀ k, e.view k = d.view k) : e.Wf := by
  intro k
  rw [h k]
  exact hd k

theorem view_setSession_same (ho : ∀ s, (f s).owner = s.owner)
    (hst : ∀ s, (f s).state = s.state) (k : ID) : (d.setSession id f).view k = d.view k := by
  by_cases hk : k = id
  · subst hk
    cases hs : d.sessions.get k with
    | none => exact view_congr (by simp [DB.setSession, hs]) rfl rfl
    | some s =>
      rw [view_setSession hs (ho s), hst, View.setState, view_session hs]
      simp [DB.view, hs, Session.view]
  · exact view_setSession_of_ne f hk

theorem view_setPort_same {f : PortSession → PortSession} (hf : ∀ p, (f p).view = p.view) (k : ID) :
    (d.setPort id f).view k = d.view k := by
  by_cases hk : k = id
  · subst hk
    rw [view_setPort (g := fun st => st) hf]
    simp [View.setPort]
  · exact view_setPort_of_ne f hk

theorem moves_setSession_same (ho : ∀ s, (f s).owner = s.owner)
    (hst : ∀ s, (f s).state = s.state) : Moves t d (d.setSession id f) :=
  moves_refl.of_views (view_setSession_same ho hst)

theorem Move.finishAlone {v : View} {st : SessionState} {q : Bool} (h : v.active = true)
    (hst : st.active = false) (hp : v.port = none) (hq : v.queued = true → q = true) :
    Move t k v { v.setState st with queued := q } := by
  have hmove := Move.finish (t := t) (k := k) st .closed q h hst rfl hq
  have hsame : (v.setState st).setPort (PortState.finish .closed) = v.setState st := by
    simp [View.setPort, View.setState, hp]
  rwa [hsame] at hmove

/-- `s` is the session as the caller read it; the row under `id` may have changed since. -/
theorem moves_enqueueCancellation (hd : d.Wf) (hrow : d.sessions.get id = some row)
    (hk : row.kind = s.kind) (hl : row.state.live = true) (kind : TerminalKind) (detail : String)
    (now : Time) :
    Moves t d (d.enqueueCancellation id s kind detail now) := by
  refine moves_at id (fun k hk => view_enqueueCancellation_of_ne s kind detail now hk) ?_
  rw [view_enqueueCancellation kind detail now hrow (by rw [hd.cancelID_eq hrow, hk])]
  exact .cancel (by rw [view_live hrow]; exact hl)

theorem moves_completeCancelledSession (hd : d.Wf) (hs : d.sessions.get id = some s)
    (ha : s.state.active = true) (c : Config) (now : Time) :
    Moves t d (d.completeCancelledSession c id now) := by
  refine moves_at id (fun k hk => view_completeCancelledSession_of_ne hd c now hk) ?_
  rw [view_completeCancelledSession hd c now hs]
  exact .finish .completed .closed _ (by rw [view_active hs]; exact ha) rfl rfl fun h => h

theorem moves_startPending (hs : d.sessions.get id = some s) : Moves t d (d.startPending id) := by
  refine moves_at id (fun k hk => view_startPending_of_ne hk) ?_
  rw [view_startPending hs]
  split
  · next hst => exact .start (by rw [view_state? hs, hst])
  · exact .stay

/-! ## Reads -/

section Reads
variable {α : Type} {tenantRef subjectRef : ID}

theorem ensures_quotaLedgers_rows {Q : QuotaLimits × QuotaLimits → DB → Prop}
    (h : ∀ q, d.auth.tenantQuotas.get tenantRef = some q.1 →
      d.auth.subjectQuotas.get (tenantRef, subjectRef) = some q.2 →
      Q q d) : (quotaLedgers tenantRef subjectRef).Ensures d Q := by
  simp only [quotaLedgers, ensures_bind, ensures_get, ensures_expect, ensures_pure]
  intro tenant htenant subject hsubject
  exact h _ htenant hsubject

theorem ensures_quotaLedgers {Q : QuotaLimits × QuotaLimits → DB → Prop} (h : ∀ q, Q q d) :
    (quotaLedgers tenantRef subjectRef).Ensures d Q :=
  ensures_quotaLedgers_rows fun q _ _ => h q

theorem ensures_ownSession {Q : Session → DB → Prop} (h : ∀ s, d.sessions.get id = some s → Q s d) :
    (ownSession tenantRef subjectRef id).Ensures d Q := by
  simp only [ownSession, ensures_bind, ensures_get, ensures_expect, Option.filter_eq_some_iff]
  rintro s ⟨hs, -⟩
  exact h s hs

variable {Q : Unit → DB → Prop}

theorem ensures_lockDataPlaneSessionQuota {e : Err} (h : Q () d) :
    (lockDataPlaneSessionQuota id e).Ensures d Q := by
  simp only [lockDataPlaneSessionQuota, ensures_bind, ensures_get, ensures_expect]
  intro s _
  exact ensures_quotaLedgers fun _ => h

theorem ensures_hydrateDataPlaneTransport {Q : Option Transport → DB → Prop} (h : ∀ a, Q a d) :
    (hydrateDataPlaneTransport s).Ensures d Q := by
  simp only [hydrateDataPlaneTransport, ensures_bind, ensures_get, ensures_expect,
    ensures_require, ensures_pure]
  intro revision _ _
  exact h _

variable {now : Time}

theorem ensures_validateDirectDataPlaneAuthority (h : Q () d) :
    (validateDirectDataPlaneAuthority s now).Ensures d Q := by
  simp only [validateDirectDataPlaneAuthority, ensures_bind, ensures_get, ensures_expect,
    ensures_require]
  intro a _ sandbox _ _ _
  exact h

theorem ensures_activeSubject (h : Q () d) :
    (activeSubject tenantRef subjectRef now).Ensures d Q := by
  simp only [activeSubject, ensures_bind, ensures_get, ensures_expect, ensures_require]
  intro s _ _ _
  exact h

theorem ensures_activeTenant (h : Q () d) : (activeTenant tenantRef now).Ensures d Q := by
  simp only [activeTenant, ensures_bind, ensures_get, ensures_expect, ensures_require]
  intro s _ _ _ _
  exact h

theorem ensures_leaseActive {sandboxID leaseID : ID} {generation : Int}
    (h : Q () d) :
    (leaseActive tenantRef subjectRef sandboxID leaseID generation now).Ensures d Q := by
  simp only [leaseActive, ensures_bind, ensures_get, ensures_expect, ensures_require]
  intro l _ _
  exact h

theorem ensures_authorizeReplayProfile {grants : Option (List String)} {sandboxID revisionID : ID}
    (h : Q () d) :
    (authorizeReplayProfile grants tenantRef subjectRef sandboxID revisionID).Ensures d Q := by
  rw [authorizeReplayProfile, ensures_ite]
  refine ⟨fun _ => ?_, fun _ => h⟩
  simp only [ensures_bind, ensures_get, ensures_expect, ensures_require]
  intro revision _ sandbox _ _
  exact h

/-- A tunnel joins a PortSession with the rows it names. -/
structure Tunnel.Of (d : DB) (id : ID) (t : Tunnel) : Prop where
  key : t.id = id
  port : d.ports.get id = some t.port
  session : d.sessions.get t.port.dataPlaneSessionID = some t.session

theorem Tunnel.Of.own {t : Tunnel} (h : t.Of d id) (hd : d.Wf) :
    d.sessions.get id = some t.session := by
  have hs := h.session
  rwa [hd.portKey h.port] at hs

theorem ensures_scanPortTunnel {p : PortSession → Session → Bool} {Q : Tunnel → DB → Prop}
    (h : ∀ t : Tunnel, t.Of d id → p t.port t.session = true → Q t d) :
    (scanPortTunnel id p).Ensures d Q := by
  simp only [scanPortTunnel, ensures_bind, ensures_get, ensures_expect,
    ensures_require, ensures_pure]
  intro port hport session hsession sandbox _ hp _
  exact h _ ⟨rfl, hport, hsession⟩ hp

theorem ensures_validateLivePortAuthority {t : Tunnel} (h : Q () d) :
    (validateLivePortAuthority t now).Ensures d Q := by
  simp only [validateLivePortAuthority, ensures_bind, ensures_get, ensures_expect, ensures_require]
  intro sandbox _ a _ l _ _
  exact h

end Reads

end SecondBox.DataPlane

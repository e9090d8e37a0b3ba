/-
  The life of a session and of its PortSession.

  States are ordered pending, running, cancelling, ended.  A transaction is in
  order if it moves every session forward or not at all and leaves no live
  session behind a PortSession that is no longer open.  Two transactions can be
  out of order (`InOrder` fails exactly where `Guarded` does):

  - `ConsumeDirectPortSession` writes `running` without looking at the state, so
    it revives a session whose cancellation is under way;
  - `releaseResources` of a Subject's cleanup closes PortSessions and leaves
    their sessions alone.
-/
import SecondBox.DataPlane.Refine

namespace SecondBox.DataPlane

open Relational Relational.Tx History

variable {t : Transaction} {d d' : DB} {k : ID}

/-! ## Order -/

/-- Pending, running, cancelling, ended. -/
def SessionState.rank : SessionState → ℕ
  | pending => 0
  | running => 1
  | cancelling => 2
  | completed | failed | cancelled | expired => 3

/-- A state stays or moves to a later one. -/
def SessionState.Forward (st st' : SessionState) : Prop := st' = st ∨ st.rank < st'.rank

instance (st st' : SessionState) : Decidable (st.Forward st') := inferInstanceAs (Decidable (_ ∨ _))

/-- Every session that is still there stayed or moved forward. -/
def DB.Forward (d d' : DB) : Prop :=
  ∀ k s s', d.sessions.get k = some s → d'.sessions.get k = some s' → s.state.Forward s'.state

/-- A PortSession that is no longer open has no pending or running session. -/
def DB.Coherent (d : DB) : Prop :=
  ∀ k p s, d.ports.get k = some p → d.sessions.get p.dataPlaneSessionID = some s →
    p.state ≠ .opened →
    s.state.live = false

/-- The transaction `t` keeps the order. -/
def InOrder (c : Config) (d : DB) (t : Transaction) : Prop :=
  d.Forward (d.step c t) ∧ (d.step c t).Coherent

/-- No credential is spent on a session that is being cancelled, and a Subject's
    cleanup closes no open PortSession of a live session. -/
def Guarded (d : DB) : Transaction → Prop
  | .consumeDirectPort i => (consumeDirectPortSession i).Commits d →
    ∀ s, d.sessions.get i.sessionID = some s → s.state ≠ .cancelling
  | .releaseResources tenantRef subjectRef now =>
    (releaseResources tenantRef subjectRef now).Commits d →
    ∀ k p s, d.ports.get k = some p → d.sessions.get k = some s → p.tenantRef = tenantRef →
      p.subjectRef = subjectRef → p.state = .opened → s.state.live = false
  | _ => True

/-! ## In views -/

/-- A session outlives its PortSession in no live state. -/
def View.Coherent (v : View) : Prop :=
  ∀ p s, v.port = some p → v.session = some s → p.state ≠ .opened → s.state.live = false

theorem coherent_view (hd : d.Wf) : d.Coherent ↔ ∀ k, (d.view k).Coherent := by
  constructor
  · intro h k p s hp hs
    simp only [DB.view, Option.map_eq_some_iff] at hp hs
    obtain ⟨p, hp, rfl⟩ := hp
    obtain ⟨s, hs, rfl⟩ := hs
    exact h k p s hp (by rw [hd.portKey hp]; exact hs)
  · intro h k p s hp hs
    rw [hd.portKey hp] at hs
    exact h k p.view s.view (view_port hp) (view_session hs)

theorem forward_view : d.Forward d' ↔
    ∀ k s s', (d.view k).session = some s → (d'.view k).session = some s' →
      s.state.Forward s'.state := by
  simp only [DB.Forward, DB.view, Option.map_eq_some_iff]
  constructor
  · rintro h k _ _ ⟨s, hs, rfl⟩ ⟨s', hs', rfl⟩
    exact h k s s' hs hs'
  · intro h k s s' hs hs'
    exact h k s.view s'.view ⟨s, hs, rfl⟩ ⟨s', hs', rfl⟩

variable {st : SessionState}

theorem SessionState.rank_lt_of_active {st' : SessionState} (h : st.active = true)
    (h' : st'.active = false) :
    st.rank < st'.rank := by
  cases st <;> cases st' <;> simp_all [SessionState.active, SessionState.rank]

theorem SessionState.forward_cancelling (h : st.active = true) : st.Forward .cancelling := by
  cases st <;> simp_all [SessionState.active, SessionState.Forward, SessionState.rank]

theorem SessionState.live_of_active (h : st.active = false) : st.live = false := by
  cases st <;> simp_all [SessionState.active, SessionState.live]

theorem View.setState_session_some {v : View} {s' : SessionView}
    (h : (v.setState st).session = some s') :
    ∃ s, v.session = some s ∧ s' = { s with state := st } := by
  simp only [View.setState_session, Option.map_eq_some_iff] at h
  obtain ⟨s, hs, rfl⟩ := h
  exact ⟨s, hs, rfl⟩

theorem View.state_active {v : View} {s : SessionView} (hs : v.session = some s) :
    v.active = s.state.active := by
  simp [View.active, View.state?, hs]

/-- What the guard says of a view. -/
def View.Guarded (t : Transaction) (k : ID) (v : View) : Prop :=
  (∀ i, t = .consumeDirectPort i → i.sessionID = k → v.state? ≠ some .cancelling) ∧
  ∀ tenantRef subjectRef now, t = .releaseResources tenantRef subjectRef now →
    ∀ p, v.port = some p →
    p.owner.tenantRef = tenantRef → p.owner.subjectRef = subjectRef → p.state = .opened →
      v.live = false

theorem Move.forward {v v' : View} (hm : Move t k v v') (hw : v.Wf k) (hg : v.Guarded t k)
    {s s' : SessionView} (hs : v.session = some s) (hs' : v'.session = some s') :
    s.state.Forward s'.state := by
  have hset : ∀ st, (v.setState st).session = some s' → (s.state.Forward st) →
      s.state.Forward s'.state := by
    intro st h hf
    obtain ⟨s₁, hs₁, rfl⟩ := View.setState_session_some h
    exact hf
  have hactive : v.active = true → s.state.active = true := by
    intro h; rwa [View.state_active hs] at h
  cases hm with
  | stay =>
    rw [hs] at hs'; cases hs'; exact .inl rfl
  | admitSession o hm hv ho => rw [hv] at hs; cases hs
  | admitPort o hm hv ho => rw [hv] at hs; cases hs
  | start h =>
    refine hset _ hs' (.inr ?_)
    simp only [View.state?, hs, Option.map_some, Option.some_inj] at h
    simp [h, SessionState.rank]
  | cancel h => exact hset _ hs' (SessionState.forward_cancelling (hactive (View.active_of_live h)))
  | closePort h => exact hset _ hs' (SessionState.forward_cancelling (hactive (hw.opened h)))
  | finish st ps q ha hst =>
    exact hset _ hs' (.inr (SessionState.rank_lt_of_active (hactive ha) hst))
  | delete => cases hs'
  | consumeDirect i ht hk hp =>
    refine hset _ hs' ?_
    have hcancelling := hg.1 i ht hk
    have ha := hactive (hw.opened hp)
    simp only [View.state?, hs, Option.map_some, ne_eq, Option.some_inj] at hcancelling
    cases hst : s.state <;> simp_all [SessionState.active, SessionState.Forward, SessionState.rank]
  | clientCancel _ _ _ _ _ _ _ ha => exact hset _ hs' (SessionState.forward_cancelling (hactive ha))
  | release =>
    rw [View.setPort_session, hs] at hs'; cases hs'; exact .inl rfl

theorem Move.coherent {v v' : View} (hm : Move t k v v') (hc : v.Coherent) (hg : v.Guarded t k) :
    v'.Coherent := by
  intro p' s' hp' hs' hopen
  have hset : ∀ st, st.live = false → (v.setState st).session = some s' →
      s'.state.live = false := by
    intro st hst h
    obtain ⟨s, -, rfl⟩ := View.setState_session_some h
    exact hst
  cases hm with
  | stay => exact hc p' s' hp' hs' hopen
  | admitSession => cases hp'
  | admitPort => cases hp'; exact absurd rfl hopen
  | start h =>
    -- a pending session has an open PortSession
    obtain ⟨s, hs, -⟩ := View.setState_session_some hs'
    simp only [View.state?, hs, Option.map_some, Option.some_inj] at h
    have hlive := hc p' s hp' hs hopen
    rw [h] at hlive
    cases hlive
  | cancel => exact hset .cancelling rfl hs'
  | closePort => exact hset .cancelling rfl hs'
  | finish st ps q ha hst => exact hset st (SessionState.live_of_active hst) hs'
  | delete => cases hs'
  | consumeDirect i ht hk hp =>
    simp only [View.setState_port] at hp'
    simp only [View.port?, hp', Option.map_some, Option.some_inj] at hp
    exact absurd hp hopen
  | clientCancel => exact hset .cancelling rfl hs'
  | release tenantRef subjectRef now ht p hp ho =>
    rw [View.setPort_session] at hs'
    by_cases hst : p.state = .opened
    · have hlive := hg.2 tenantRef subjectRef now ht p hp ho.1 ho.2 hst
      simpa [View.live, View.state?, hs'] using hlive
    · exact hc p s' hp hs' hst

/-! ## Steps -/

theorem Guarded.view {c : Config} (h : Guarded d t) (hc : (t.tx c).Commits d) (k : ID) :
    (d.view k).Guarded t k := by
  constructor
  · rintro i rfl rfl hst
    obtain ⟨s, hs, hcancelling⟩ : ∃ s, d.sessions.get i.sessionID = some s ∧
        s.state = .cancelling := by
      simpa [View.state?, DB.view, Session.view] using hst
    exact h hc s hs hcancelling
  · rintro tenantRef subjectRef now rfl p hp htenant hsubject hopen
    simp only [DB.view, Option.map_eq_some_iff] at hp
    obtain ⟨p, hp, rfl⟩ := hp
    cases hs : d.sessions.get k with
    | none => simp [View.live, View.state?, DB.view, hs]
    | some s =>
      rw [view_live hs]
      exact h hc k p s hp hs htenant hsubject hopen

/-- Spending a credential revives the session. -/
theorem consumeDirectPort_guarded (c : Config) (hd : d.Wf) {i : DirectConsumption}
    (h : d.Forward (d.step c (.consumeDirectPort i))) : Guarded d (.consumeDirectPort i) := by
  intro hcommits s hs hst
  obtain ⟨-, p, s₀, hp, -, hs₀, hstep⟩ := (ensures_consumeDirectPortSession hd i).commit hcommits
  have hget : (d.step c (.consumeDirectPort i)).sessions.get i.sessionID = some s.run := by
    rw [show d.step c (.consumeDirectPort i) = _ from hstep]
    simp [DB.setSession, DB.setPort, hs]
  have hforward := h i.sessionID s s.run hs hget
  rw [hst] at hforward
  simp [SessionState.Forward, Session.run, SessionState.rank] at hforward

/-- A closed PortSession shows whether its session had ended. -/
theorem releaseResources_guarded (c : Config) (hd : d.Wf) {tenantRef subjectRef : ID} {now : Time}
    (h : (d.step c (.releaseResources tenantRef subjectRef now)).Coherent) :
    Guarded d (.releaseResources tenantRef subjectRef now) := by
  rintro hcommits k p s hp hs rfl rfl hopen
  obtain ⟨-, hstep⟩ := ensures_releaseResources.commit hcommits
  rw [show d.step c (.releaseResources p.tenantRef p.subjectRef now) = _ from hstep] at h
  have hport : (d.releaseResources p.tenantRef p.subjectRef now).ports.get k =
      some (p.release now) := by
    simp [DB.releaseResources, hp, hopen, PortState.unfinished]
  have hkey : p.dataPlaneSessionID = k := hd.portKey hp
  refine h k (p.release now) s hport ?_ fun hclosed => by cases hclosed
  rw [← hkey] at hs
  exact hs

theorem inOrder_iff (c : Config) (hd : d.Wf) (hc : d.Coherent) (hf : Fresh d t) :
    InOrder c d t ↔ Guarded d t := by
  constructor
  · rintro ⟨hforward, hcoherent⟩
    cases t with
    | consumeDirectPort i => exact consumeDirectPort_guarded c hd hforward
    | releaseResources tenantRef subjectRef now => exact releaseResources_guarded c hd hcoherent
    | _ => trivial
  · intro hg
    by_cases hcommits : (t.tx c).Commits d
    · have hviews := hg.view hcommits
      refine ⟨forward_view.2 fun k s s' hs hs' => ?_,
        (coherent_view (step_wf c hd hf)).2 fun k => ?_⟩
      · exact (step_moves c hd hf k).forward (hd k) (hviews k) hs hs'
      · exact (step_moves c hd hf k).coherent ((coherent_view hd).1 hc k) (hviews k)
    · have hstep : d.step c t = d := commit_of_not_commits hcommits
      rw [InOrder, hstep]
      refine ⟨fun k s s' hs hs' => ?_, hc⟩
      rw [hs] at hs'
      cases hs'
      exact .inl rfl

/-! ## Histories -/

/-- A data plane nothing has been admitted to. -/
structure DB.Blank (d : DB) : Prop where
  sessions : d.sessions = .empty
  ports : d.ports = .empty
  commands : d.commands = .empty
  operations : d.operations = .empty

theorem DB.Blank.view_eq (h : d.Blank) (k : ID) : d.view k = ⟨none, none, false⟩ := by
  simp [DB.view, h.sessions, h.ports, h.commands]

theorem DB.Blank.wf (h : d.Blank) : d.Wf := by
  intro k
  rw [h.view_eq]
  exact ⟨by simp, by simp, by simp, by simp, by simp [View.port?], by simp [View.port?]⟩

theorem DB.Blank.coherent (h : d.Blank) : d.Coherent := by
  intro k p s hp
  simp [h.ports] at hp

/-- **Sessions move forward and PortSessions close after them in exactly the
    histories whose every transaction is guarded.** -/
theorem inOrder_along_iff (c : Config) {d₀ : DB} (h₀ : d₀.Blank) (ts : List Transaction)
    (hf : Along (DB.step c) Fresh d₀ ts) :
    Along (DB.step c) (InOrder c) d₀ ts ↔ Along (DB.step c) Guarded d₀ ts := by
  refine along_iff (I := fun d => d.Wf ∧ d.Coherent) ?_ ?_ ⟨h₀.wf, h₀.coherent⟩ hf
  · rintro d t ⟨hd, hc⟩ hf
    exact inOrder_iff c hd hc hf
  · rintro d t ⟨hd, hc⟩ hf ⟨-, hc'⟩
    exact ⟨step_wf c hd hf, hc'⟩

/-- The session has ended or is not there. -/
def DB.Over (d : DB) (k : ID) : Prop := ∀ s, d.sessions.get k = some s → s.state.active = false

theorem DB.Over.step {c : Config} (h : d.Over k) (hd : d.Wf) (hf : Fresh d t)
    (hmints : t.mints ≠ some k) :
    (d.step c t).Over k := by
  refine fun s' hs' => Bool.eq_false_iff.2 fun hactive => ?_
  obtain ⟨v, hv, -, hactive⟩ :=
    (step_moves c hd hf k).active (hd k) hmints (view_session hs') hactive
  obtain ⟨s, hs, rfl⟩ := Option.map_eq_some_iff.1 hv
  cases hactive.symm.trans (h s hs)

theorem DB.Over.port {p : PortSession} (h : d.Over k) (hd : d.Wf) (hp : d.ports.get k = some p) :
    p.state ≠ .opened := by
  intro hopen
  have hactive := (hd k).opened (by rw [view_port? hp, hopen])
  cases hs : d.sessions.get k with
  | none => simp [View.active, View.state?, DB.view, hs] at hactive
  | some s => cases (h s hs).symm.trans ((view_active hs).symm.trans hactive)

/-- **A session that has ended never becomes active again, and its PortSession never opens again.** -/
theorem over_for_good (c : Config) (hd : d.Wf) (h : d.Over k) (ts : List Transaction)
    (hts : Along (DB.step c) (fun d t => Fresh d t ∧ t.mints ≠ some k) d ts) :
    (after (DB.step c) d ts).Over k ∧ ∀ p, (after (DB.step c) d ts).ports.get k = some p →
      p.state ≠ .opened := by
  obtain ⟨hd', h'⟩ := hts.invariant (I := fun d => d.Wf ∧ d.Over k)
    (fun d t ht hs => ⟨step_wf c hs.1 ht.1, hs.2.step hs.1 ht.1 ht.2⟩) ⟨hd, h⟩
  exact ⟨h', fun p hp => h'.port hd' hp⟩

theorem DB.Blank.fresh (h : d.Blank) (t : Transaction) : Fresh d t := by
  intro id _
  exact ⟨by simp [h.sessions], by simp [h.ports], by simp [h.ports], by simp [h.commands], by simp [h.commands]⟩

theorem fresh_of_mints_none (h : t.mints = none) : Fresh d t := by
  intro id hid
  rw [h] at hid
  cases hid

/-! ## One Sandbox on one Runner -/

namespace Demo

/-- A table of rows. -/
def rows {κ ρ : Type} [DecidableEq κ] (l : List (κ × ρ)) : Table κ ρ :=
  l.foldr (fun x t => t.insertNew x.1 x.2) .empty

/-- A configuration. -/
def config : Config := ⟨60000, 1048576⟩

/-- A profile that allows one operation. -/
def revision : ProfileRevision where
  profileName := "web"
  concurrentOperations := 1
  execution := {
    maximumDeadlineMilliseconds := .unlimited, maximumBufferedOutputBytes := 1024, streamWindowBytes := 64
    maximumTransferBytes := 4096, terminalDetachSeconds := 60, dataPlaneTransport := some .direct }
  ports := [⟨"http", 80, "http", .unlimited, 600⟩]

/-- A ready Sandbox. -/
def authority : Authority where
  sandboxes := rows [("box", {
    tenantRef := "acme", subjectRef := "ada", profileName := "web", profileRevisionID := "rev1"
    generation := 1, state := .ready, currentInstanceID := "vm1" })]
  assignments := rows [("asg1", ⟨"box", "vm1", "node1", 1, [7], .ready⟩)]
  leases := rows [("lease1", ⟨"acme", "ada", "box", 1, .active, 1000000⟩)]
  runners := rows [("node1", { activeConnectionID := "conn1", endpoint := some ⟨"node1:443", "spki"⟩ })]
  connections := rows [("conn1", ⟨"node1", true⟩)]
  revisions := rows [("rev1", revision)]
  tenants := rows [("acme", ⟨.active, none⟩)]
  tenantQuotas := rows [("acme", ⟨.unlimited, .atMost 1⟩)]
  subjects := rows [(("acme", "ada"), ⟨.active, none⟩)]
  subjectQuotas := rows [(("acme", "ada"), ⟨.unlimited, .atMost 1⟩)]

/-- No sessions yet. -/
def start : DB := { auth := authority }

theorem start_blank : start.Blank := ⟨rfl, rfl, rfl, rfl⟩

/-- A direct PortSession. -/
def openPort (id : ID) : PortAdmission where
  id := id
  sandboxID := "box"
  generation := 1
  name := "http"
  transport := some .direct
  expiresAt := 500000
  streamID := "stream1"
  tenantRef := "acme"
  subjectRef := "ada"
  requestID := "req1"
  leaseID := "lease1"
  idempotencyKey := id
  requestHash := "hash"
  credentialDigest := List.replicate 32 0
  now := 1

/-- Its credential, spent through the Runner. -/
def spend (id : ID) : DirectConsumption := ⟨"node1", id, "asg1", 1, [7], List.replicate 32 0, 3⟩

/-- A buffered Exec. -/
def runExec (id : ID) : Admission where
  id := id
  streamID := "stream1"
  tenantRef := "acme"
  subjectRef := "ada"
  sandboxID := "box"
  generation := 1
  kind := .exec
  operation := "exec"
  requestID := "req1"
  requestHash := "hash"
  deadlineAt := 500000
  execOpen := some {}
  now := 1

/-- The state of a session. -/
def stateOf (d : DB) (id : ID) : Option SessionState := (d.sessions.get id).map (·.state)

end Demo

open Demo

/-- A Subject's cleanup cancels the session of an open PortSession; then its
    credential is spent. -/
def reviving : List Transaction :=
  [.admitPortSession (openPort "port1"), .cancel "acme" "ada" "port1" "subject closing" 2,
    .consumeDirectPort (spend "port1")]

theorem Demo.forward_states (st st' : SessionState) (h : d.Forward d') (hs : stateOf d k = some st)
    (hs' : stateOf d' k = some st') : st.Forward st' := by
  simp only [stateOf, Option.map_eq_some_iff] at hs hs'
  obtain ⟨s, hs, rfl⟩ := hs
  obtain ⟨s', hs', rfl⟩ := hs'
  exact h k s s' hs hs'

theorem reviving_not_inOrder :
    Along (DB.step config) Fresh start reviving ∧ ¬Along (DB.step config) (InOrder config) start
      reviving := by
  refine ⟨⟨start_blank.fresh _, fresh_of_mints_none rfl, fresh_of_mints_none rfl, trivial⟩, ?_⟩
  rintro ⟨-, -, ⟨hforward, -⟩, -⟩
  have hstates := forward_states (k := "port1") .cancelling .running hforward (by decide +kernel)
    (by decide +kernel)
  exact absurd hstates (by decide)

/-- A session that ends before its credential is spent. -/
def unspent : List Transaction :=
  [.admitPortSession (openPort "port1"), .cancel "acme" "ada" "port1" "subject closing" 2,
    .finalize "port1" 3]

/-- The credential of the ended session no longer opens it. -/
theorem over_for_good_unspent :
    stateOf (after (DB.step config) start unspent) "port1" = some .completed ∧
    ((after (DB.step config) start unspent).ports.get "port1").map (·.connectedAt) = some none ∧
    (after (DB.step config) (after (DB.step config) start unspent)
    [.consumeDirectPort (spend "port1")]).Over "port1" ∧
    ∀ p, (after (DB.step config) (after (DB.step config) start unspent)
      [.consumeDirectPort (spend "port1")]).ports.get "port1" = some p → p.state ≠ .opened := by
  have hfresh : Along (DB.step config) Fresh start unspent :=
    ⟨start_blank.fresh _, fresh_of_mints_none rfl, fresh_of_mints_none rfl, trivial⟩
  have hwf : (after (DB.step config) start unspent).Wf :=
    hfresh.invariant (fun _ _ ht hd => step_wf config hd ht) start_blank.wf
  have hstate : stateOf (after (DB.step config) start unspent) "port1" = some .completed := by
    decide +kernel
  refine ⟨hstate, by decide +kernel, over_for_good config hwf (fun s hs => ?_) _
    ⟨⟨fresh_of_mints_none rfl, nofun⟩, trivial⟩⟩
  rw [stateOf, hs, Option.map_some, Option.some.injEq] at hstate
  rw [hstate]
  rfl

/-- A credential spent while the session is pending, and the cancellation after it. -/
def spending : List Transaction :=
  [.admitPortSession (openPort "port1"), .consumeDirectPort (spend "port1"),
    .cancel "acme" "ada" "port1" "subject closing" 4]

theorem spending_fresh : Along (DB.step config) Fresh start spending :=
  ⟨start_blank.fresh _, fresh_of_mints_none rfl, fresh_of_mints_none rfl, trivial⟩

theorem spending_inOrder : Along (DB.step config) (InOrder config) start spending := by
  refine (inOrder_along_iff config start_blank spending spending_fresh).2 ⟨trivial, ?_,
    trivial, trivial⟩
  intro _ s hs hst
  have hpending : stateOf (start.step config (.admitPortSession (openPort "port1"))) "port1" =
      some .pending := by
    decide +kernel
  have hs : (start.step config (.admitPortSession (openPort "port1"))).sessions.get
    "port1" = some s := hs
  rw [stateOf, hs, Option.map_some, hst] at hpending
  cases hpending

end SecondBox.DataPlane

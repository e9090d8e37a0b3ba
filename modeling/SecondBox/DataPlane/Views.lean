/-
  One session at a time.

  `DB.view` is what the database says of one session id: the owner and state of
  its data-plane row, its PortSession, and whether its cancel command is queued.
  `Move` lists every way one transaction can change a view; the transactions
  that the session's own life does not license (`consumeDirect`, `clientCancel`
  and `release`) name the transaction that makes them.  `View.Wf` is what every
  move keeps.
-/
import SecondBox.DataPlane.System

namespace SecondBox.DataPlane

open Relational

/-! ## Views -/

/-- Whose session it is; no transaction changes it. -/
structure Owner where
  tenantRef : ID
  subjectRef : ID
  sandboxID : ID
  generation : Int
  kind : SessionKind

/-- Who owns it. -/
def Session.owner (s : Session) : Owner :=
  ⟨s.tenantRef, s.subjectRef, s.sandboxID, s.generation, s.kind⟩

/-- Who owns it. -/
def PortSession.owner (p : PortSession) : Owner :=
  ⟨p.tenantRef, p.subjectRef, p.sandboxID, p.generation, .port⟩

/-- What is seen of a session. -/
structure SessionView where
  owner : Owner
  state : SessionState

/-- What is seen of a PortSession. -/
structure PortView where
  session : ID
  owner : Owner
  state : PortState

/-- What is seen under an id. -/
structure View where
  session : Option SessionView
  port : Option PortView
  /-- the Runner's cancel command is queued -/
  queued : Bool

namespace View

/-- Change the session's state. -/
def setState (v : View) (st : SessionState) : View :=
  { v with session := v.session.map ({ · with state := st }) }

/-- Change the PortSession's state. -/
def setPort (v : View) (f : PortState → PortState) : View :=
  { v with port := v.port.map fun p => { p with state := f p.state } }

/-- Queue the cancel command. -/
def queue (v : View) : View := { v with queued := true }

/-- The session's state. -/
def state? (v : View) : Option SessionState := v.session.map (·.state)

/-- The PortSession's state. -/
def port? (v : View) : Option PortState := v.port.map (·.state)

/-- The session is pending, running or cancelling. -/
def active (v : View) : Bool := v.state?.any (·.active)

/-- The session is pending or running. -/
def live (v : View) : Bool := v.state?.any (·.live)

end View

/-- The view of a session. -/
def Session.view (s : Session) : SessionView := ⟨s.owner, s.state⟩

/-- The view of a PortSession. -/
def PortSession.view (p : PortSession) : PortView := ⟨p.dataPlaneSessionID, p.owner, p.state⟩

/-- The id a cancel command of session `k` has. -/
def DB.cancelID (d : DB) (k : ID) : CommandID :=
  if (d.ports.get k).isSome then .portCancel k else .cancel k

/-- The view under `k`. -/
def DB.view (d : DB) (k : ID) : View where
  session := (d.sessions.get k).map (·.view)
  port := (d.ports.get k).map (·.view)
  queued := (d.commands.get (d.cancelID k)).isSome

/-! ## Moves -/

/-- The state of a PortSession that ends with `st`. -/
def PortState.finish (st : PortState) (p : PortState) : PortState := if p.unfinished then st else p

/-- What transaction `t` can make of the view `v` of session `k`. -/
inductive Move (t : Transaction) (k : ID) (v : View) : View → Prop
  | stay : Move t k v v
  | admitSession (o : Owner) (hm : t.mints = some k) (hv : v = ⟨none, none, false⟩)
    (ho : o.kind ≠ .port) :
    Move t k v ⟨some ⟨o, .pending⟩, none, false⟩
  | admitPort (o : Owner) (hm : t.mints = some k) (hv : v = ⟨none, none, false⟩)
    (ho : o.kind = .port) :
    Move t k v ⟨some ⟨o, .pending⟩, some ⟨k, o, .opened⟩, false⟩
  | start (h : v.state? = some .pending) : Move t k v (v.setState .running)
  | cancel (h : v.live = true) : Move t k v (v.setState .cancelling).queue
  | closePort (h : v.port? = some .opened) :
    Move t k v ((v.setState .cancelling).queue.setPort fun _ => .closed)
  | finish (st : SessionState) (ps : PortState) (q : Bool) (h : v.active = true)
      (hst : st.active = false)
    (hps : ps.unfinished = false) (hq : v.queued = true → q = true) :
    Move t k v { (v.setState st).setPort ps.finish with queued := q }
  | delete (h : v.state?.any (fun st => !st.active) = true) : Move t k v { v with session := none }
  /-- a direct credential is spent, whatever the session's state -/
  | consumeDirect (i : DirectConsumption) (ht : t = .consumeDirectPort i) (hk : i.sessionID = k)
    (h : v.port? = some .opened) : Move t k v (v.setState .running)
  /-- a Terminal's client cancels: no command is queued -/
  | clientCancel (tenantRef subjectRef : ID) (c : TerminalCheckpoint) (now : Time)
    (ht : t = .checkpointTerminal tenantRef subjectRef k c now) (hc : c.cancel = true)
    (hn : c.terminal = none)
    (h : v.active = true) : Move t k v (v.setState .cancelling)
  /-- a Subject's cleanup closes its PortSessions and leaves their sessions alone -/
  | release (tenantRef subjectRef : ID) (now : Time)
      (ht : t = .releaseResources tenantRef subjectRef now)
    (p : PortView) (hp : v.port = some p)
    (ho : p.owner.tenantRef = tenantRef ∧ p.owner.subjectRef = subjectRef) :
    Move t k v (v.setPort (PortState.finish .closed))

/-! ## Well-formed views -/

/-- What holds of the view of `k` in every reachable database. -/
structure View.Wf (k : ID) (v : View) : Prop where
  portKey : ∀ p, v.port = some p → p.session = k
  portKind : ∀ p, v.port = some p → p.owner.kind = .port
  owners : ∀ p s, v.port = some p → v.session = some s → s.owner = p.owner
  portRow : ∀ s, v.session = some s → s.owner.kind = .port → v.port.isSome = true
  opened : v.port? = some .opened → v.active = true
  notClosing : v.port? ≠ some .closing

namespace View

section Simp
variable (v : View) (st : SessionState) (f : PortState → PortState)

@[simp] theorem setState_port : (v.setState st).port = v.port := rfl
@[simp] theorem setState_queued : (v.setState st).queued = v.queued := rfl
@[simp] theorem setState_session :
    (v.setState st).session = v.session.map ({ · with state := st }) := rfl
@[simp] theorem setPort_session : (v.setPort f).session = v.session := rfl
@[simp] theorem setPort_queued : (v.setPort f).queued = v.queued := rfl
@[simp] theorem setPort_port :
    (v.setPort f).port = v.port.map fun p => { p with state := f p.state } := rfl
@[simp] theorem queue_session : v.queue.session = v.session := rfl
@[simp] theorem queue_port : v.queue.port = v.port := rfl
@[simp] theorem queue_queued : v.queue.queued = true := rfl

@[simp] theorem setState_state? : (v.setState st).state? = v.state?.map fun _ => st := by
  simp [state?, Function.comp_def]

@[simp] theorem setPort_port? : (v.setPort f).port? = v.port?.map f := by
  simp [port?, Function.comp_def]

@[simp] theorem setState_port? : (v.setState st).port? = v.port? := rfl
@[simp] theorem setPort_state? : (v.setPort f).state? = v.state? := rfl
@[simp] theorem queue_state? : v.queue.state? = v.state? := rfl
@[simp] theorem queue_port? : v.queue.port? = v.port? := rfl

@[simp] theorem setState_live : (v.setState st).live = (v.state?.isSome && st.live) := by
  cases h : v.state? <;> simp [live, h]

@[simp] theorem setPort_live : (v.setPort f).live = v.live := rfl
@[simp] theorem queue_live : v.queue.live = v.live := rfl

end Simp

theorem active_of_live {v : View} (h : v.live = true) : v.active = true := by
  simp only [live, active, Option.any_eq_true] at h ⊢
  obtain ⟨st, hst, hlive⟩ := h
  refine ⟨st, hst, ?_⟩
  cases st <;> simp_all [SessionState.live, SessionState.active]

end View

@[simp] theorem PortState.finish_ne_opened {st p : PortState} (h : st.unfinished = false) :
    PortState.finish st p ≠ .opened := by
  cases st <;> cases p <;> simp_all [PortState.finish, PortState.unfinished]

@[simp] theorem PortState.finish_ne_closing {st p : PortState} (h : st.unfinished = false) :
    PortState.finish st p ≠ .closing := by
  cases st <;> cases p <;> simp_all [PortState.finish, PortState.unfinished]

/-- Changing states keeps the rows of a well-formed view together. -/
theorem View.Wf.of_states {k : ID} {v v' : View} (h : v.Wf k)
    (hs : ∀ s', v'.session = some s' → ∃ s, v.session = some s ∧ s.owner = s'.owner)
    (hp : v'.port.map (fun p => (p.session, p.owner)) = v.port.map fun p => (p.session, p.owner))
    (ho : v'.port? = some .opened → v'.active = true) (hc : v'.port? ≠ some .closing) :
    v'.Wf k := by
  have hport : ∀ p', v'.port = some p' → ∃ p, v.port = some p ∧ p.session = p'.session ∧
      p.owner = p'.owner := by
    intro p' hp'
    rw [hp', Option.map_some, eq_comm, Option.map_eq_some_iff] at hp
    obtain ⟨p, hvp, heq⟩ := hp
    exact ⟨p, hvp, (Prod.mk.inj heq).1, (Prod.mk.inj heq).2⟩
  refine ⟨?_, ?_, ?_, ?_, ho, hc⟩
  · intro p' hp'
    obtain ⟨p, hvp, hsess, -⟩ := hport p' hp'
    rw [← hsess]; exact h.portKey p hvp
  · intro p' hp'
    obtain ⟨p, hvp, -, howner⟩ := hport p' hp'
    rw [← howner]; exact h.portKind p hvp
  · intro p' s' hp' hs'
    obtain ⟨p, hvp, -, howner⟩ := hport p' hp'
    obtain ⟨s, hvs, hsowner⟩ := hs s' hs'
    rw [← hsowner, ← howner]; exact h.owners p s hvp hvs
  · intro s' hs' hk
    obtain ⟨s, hvs, hsowner⟩ := hs s' hs'
    have hrow := h.portRow s hvs (by rw [hsowner]; exact hk)
    rw [← Option.isSome_map (f := fun p => (p.session, p.owner)), hp, Option.isSome_map]
    exact hrow

/-- **Every move keeps views well-formed.** -/
theorem Move.wf {t : Transaction} {k : ID} {v v' : View} (hm : Move t k v v') (h : v.Wf k) :
    v'.Wf k := by
  have hown : ∀ st s', (v.setState st).session = some s' → ∃ s, v.session = some s ∧
      s.owner = s'.owner := by
    intro st s' hs'
    simp only [View.setState_session, Option.map_eq_some_iff] at hs'
    obtain ⟨s, hs, rfl⟩ := hs'
    exact ⟨s, hs, rfl⟩
  have hact : ∀ st, st.active = true → v.port? = some .opened → (v.setState st).active = true := by
    intro st hst hp
    have := h.opened hp
    simp only [View.active, View.setState_state?, Option.any_eq_true,
      Option.map_eq_some_iff] at this ⊢
    obtain ⟨st', hst', -⟩ := this
    exact ⟨st, ⟨st', hst', rfl⟩, hst⟩
  cases hm with
  | stay => exact h
  | admitSession o hm hv ho => exact ⟨by simp, by simp, by simp, by simpa using ho, by simp [View.port?], by simp [View.port?]⟩
  | admitPort o hm hv ho =>
    exact ⟨by simp, by simpa using ho, by simp, by simp, fun _ => rfl, by simp [View.port?]⟩
  | start hs => exact h.of_states (hown _) rfl (hact .running rfl) h.notClosing
  | cancel hl => exact h.of_states (hown _) rfl (hact .cancelling rfl) h.notClosing
  | closePort hp =>
    refine h.of_states (hown .cancelling) ?_ ?_ ?_
    · simp [Function.comp_def]
    · simp
    · simp
  | finish st ps q ha hst hps hq =>
    refine h.of_states (hown st) ?_ ?_ ?_
    · simp [Function.comp_def]
    · intro hp
      simp only [View.port?, View.setPort, View.setState_port, Option.map_map,
        Option.map_eq_some_iff] at hp
      obtain ⟨p, -, hfin⟩ := hp
      exact absurd hfin (PortState.finish_ne_opened hps)
    · intro hp
      simp only [View.port?, View.setPort, View.setState_port, Option.map_map,
        Option.map_eq_some_iff] at hp
      obtain ⟨p, -, hfin⟩ := hp
      exact absurd hfin (PortState.finish_ne_closing hps)
  | delete hd =>
    refine h.of_states (by simp) rfl ?_ h.notClosing
    intro hp
    have hopen := h.opened hp
    simp only [View.active, Option.any_eq_true] at hopen hd
    obtain ⟨st, hst, hactive⟩ := hopen
    obtain ⟨st', hst', hinactive⟩ := hd
    rw [hst] at hst'
    cases hst'
    simp [hactive] at hinactive
  | consumeDirect i ht hk hp => exact h.of_states (hown _) rfl (hact .running rfl) h.notClosing
  | clientCancel tenantRef subjectRef c now ht hc hn ha =>
    exact h.of_states (hown _) rfl (hact .cancelling rfl) h.notClosing
  | release tenantRef subjectRef now ht p hp ho =>
    refine h.of_states (fun s' hs' => ⟨s', hs', rfl⟩) ?_ ?_ ?_
    · simp [Function.comp_def]
    · intro hp
      simp only [View.setPort_port?, Option.map_eq_some_iff] at hp
      obtain ⟨p, -, hfin⟩ := hp
      exact absurd hfin (PortState.finish_ne_opened rfl)
    · intro hp
      simp only [View.setPort_port?, Option.map_eq_some_iff] at hp
      obtain ⟨p, -, hfin⟩ := hp
      exact absurd hfin (PortState.finish_ne_closing rfl)

/-- An active session was active before, and belongs to the same owner, unless it was just admitted. -/
theorem Move.active {t : Transaction} {k : ID} {v v' : View} (hm : Move t k v v') (h : v.Wf k)
    (hnew : t.mints ≠ some k) {s' : SessionView} (hs' : v'.session = some s')
    (ha : s'.state.active = true) :
    ∃ s, v.session = some s ∧ s.owner = s'.owner ∧ s.state.active = true := by
  have hset : ∀ st, v.active = true → (v.setState st).session = some s' →
      ∃ s, v.session = some s ∧ s.owner = s'.owner ∧ s.state.active = true := by
    intro st hv hs
    simp only [View.setState_session, Option.map_eq_some_iff] at hs
    obtain ⟨s, hs, rfl⟩ := hs
    simp only [View.active, View.state?, hs, Option.map_some, Option.any_some] at hv
    exact ⟨s, hs, rfl, hv⟩
  have hkeep : v.session = some s' → ∃ s, v.session = some s ∧ s.owner = s'.owner ∧
      s.state.active = true :=
    fun hs => ⟨s', hs, rfl, ha⟩
  cases hm with
  | stay => exact hkeep hs'
  | admitSession o hm => exact absurd hm hnew
  | admitPort o hm => exact absurd hm hnew
  | start hp => exact hset _ (by simp [View.active, hp, SessionState.active]) hs'
  | cancel hl => exact hset _ (View.active_of_live hl) hs'
  | closePort hp => exact hset _ (h.opened hp) hs'
  | finish st ps q hv hst hps hq => exact hset st hv hs'
  | delete hd => simp at hs'
  | consumeDirect i ht hk hp => exact hset _ (h.opened hp) hs'
  | clientCancel tenantRef subjectRef c now ht hc hn hv => exact hset _ hv hs'
  | release tenantRef subjectRef now ht p hp ho => exact hkeep hs'

theorem Move.owner {t : Transaction} {k : ID} {v v' : View} (hm : Move t k v v')
    {s s' : SessionView} (hs : v.session = some s) (hs' : v'.session = some s') :
    s'.owner = s.owner := by
  have hset : ∀ st, (v.setState st).session = some s' → s'.owner = s.owner := by
    intro st h
    simp only [View.setState_session, hs, Option.map_some, Option.some_inj] at h
    rw [← h]
  cases hm with
  | stay => rw [hs] at hs'; cases hs'; rfl
  | admitSession o hm hv => rw [hv] at hs; cases hs
  | admitPort o hm hv => rw [hv] at hs; cases hs
  | start => exact hset _ hs'
  | cancel => exact hset _ hs'
  | closePort => exact hset _ hs'
  | finish st => exact hset st hs'
  | delete => cases hs'
  | consumeDirect => exact hset _ hs'
  | clientCancel => exact hset _ hs'
  | release => rw [View.setPort_session, hs] at hs'; cases hs'; rfl

end SecondBox.DataPlane

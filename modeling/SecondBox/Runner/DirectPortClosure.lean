/-
  How a direct PortSession is closed.

  The bridge of an admitted caller connection and a `closeMatching` (fence,
  cancellation, drain) may both report the end of a session; `finished` lets one
  of them through.  A closer reports only through the function that
  `bindConnection` has left, and a bridge that finds the session closed there
  returns without a report.
-/
import SecondBox.Base.History
import SecondBox.Runner.Frames

namespace SecondBox.Runner

open History

/-- The next statement of `bridgeDirectPortConnection` that another goroutine can observe. -/
inductive Bridge where
  /-- the checks of the Port backend and of the deadline -/
  | entered
  /-- `OpenPort` -/
  | dialing
  | binding
  /-- the evidence, the socket's deadline and the verdict -/
  | recording
  | clearing
  | admitting
  | copying
  | returned
deriving DecidableEq

/-- How the first copy loop ended. -/
inductive CopyFailure where
  | none | eof | closed | canceled | other
deriving DecidableEq

/-- A direct Port session. -/
structure DirectPort where
  /-- in `registry.sessions` -/
  registered : Bool
  closed : Bool
  finished : Bool
  /-- `bindConnection` has set `cancel` and `terminal` -/
  bound : Bool
  bridge : Bridge
  /-- the closer that has taken the session out of the registry, before and after `session.mu` -/
  selected : Option PortTerminal
  reporting : Option PortTerminal
  /-- the calls of `finishDirectPortSession` that took effect -/
  reported : List PortTerminal

namespace DirectPort

/-- A session whose credential was just claimed: it is in the registry, or a closer has just taken it out.
    The bridge is entered when the control plane has admitted the credential. -/
def claimed (selected : Option PortTerminal) : DirectPort where
  registered := selected.isNone
  closed := false
  finished := false
  bound := false
  bridge := .entered
  selected := selected
  reporting := none
  reported := []

variable (s : DirectPort)

/-- `finishDirectPortSession` -/
def finishDirectPortSession (kind : PortTerminalKind) (detail : String) : DirectPort :=
  if s.finished then s
  else { s with finished := true, registered := false, reported := s.reported ++ [⟨kind, detail⟩] }

/-- `directPortTerminal` -/
def directPortTerminal (deadlinePassed : Bool) : CopyFailure → PortTerminalKind × String
  | failure =>
    if deadlinePassed then (.cancelled, "port session deadline passed")
    else match failure with
      | .none | .eof => (.closed, "port connection closed")
      | .closed | .canceled => (.cancelled, "port connection cancelled")
      | .other => (.failed, "port connection failed")

/-- The bridge reports and returns. -/
def ends (kind : PortTerminalKind) (detail : String) : DirectPort :=
  { s.finishDirectPortSession kind detail with bridge := .returned }

/-- The steps of the bridge and of its closers. -/
inductive Event where
  /-- the bridge checks whether there is a Port backend, and time left -/
  | check (backend inTime : Bool)
  | dial (ok : Bool)
  | bind
  | evidence (ok : Bool)
  | clearDeadline (ok : Bool)
  | verdict (ok : Bool)
  /-- a copy loop ends, and with it the other one -/
  | copied (deadlinePassed : Bool) (failure : CopyFailure)
  /-- a closer takes the session out of the registry, marks it closed, and calls `terminal` -/
  | select (kind : PortTerminalKind) (reason : String)
  | mark
  | report
deriving DecidableEq

/-- One event. -/
def step : Event → DirectPort
  | .check backend inTime =>
    if s.bridge ≠ .entered then s
    else if !backend then s.ends .guestUnavailable "runner Port backend is unavailable"
    else if !inTime then s.ends .cancelled "port session deadline passed"
    else { s with bridge := .dialing }
  | .dial ok =>
    if s.bridge ≠ .dialing then s
    else if ok then { s with bridge := .binding } else s.ends .guestUnavailable
      "guest port is unavailable"
  | .bind =>
    if s.bridge ≠ .binding then s
    else if s.closed then { s with bridge := .returned }
    else { s with bound := true, bridge := .recording }
  | .evidence ok =>
    if s.bridge ≠ .recording then s
    else if ok then
      { s with bridge := .clearing } else s.ends .failed "port open evidence could not be emitted"
  | .clearDeadline ok =>
    if s.bridge ≠ .clearing then s
    else if ok then { s with bridge := .admitting } else s.ends .failed
      "caller socket deadline could not be cleared"
  | .verdict ok =>
    if s.bridge ≠ .admitting then s
    else if ok then
      { s with bridge := .copying } else s.ends .failed "caller socket rejected the admission frame"
  | .copied deadlinePassed failure =>
    if s.bridge ≠ .copying then s
    else s.ends (directPortTerminal deadlinePassed failure).1
      (directPortTerminal deadlinePassed failure).2
  | .select kind reason =>
    if s.registered then { s with registered := false, selected := some ⟨kind, reason⟩ } else s
  | .mark =>
    match s.selected with
    | some t =>
      { s with closed := true, selected := none, reporting := if s.bound then some t else none }
    | none => s
  | .report =>
    match s.reporting with
    | some t => { s.finishDirectPortSession t.kind t.safeDetail with reporting := none }
    | none => s

/-! ## One report at most, and one before the bridge returns -/

/-- The session is reported once at most, and exactly once when the bridge has returned. -/
def Accounted : Prop :=
  s.reported.length ≤ 1 ∧ (s.bridge = .returned → s.reported.length = 1)

/-- The bridge does not come to bind a session that is closed. -/
def BindsOpen (e : Event) : Prop :=
  e = .bind → s.bridge = .binding → s.closed = false

/-- The bridge has not bound its connection yet. -/
def early : Bool :=
  match s.bridge with
  | .entered | .dialing | .binding => true
  | _ => false

/-- Until it is bound, nobody reports the session. -/
structure Inv (s : DirectPort) : Prop where
  counted : s.reported.length = if s.finished then 1 else 0
  unbound : s.early = true → s.finished = false ∧ s.bound = false ∧ s.reporting = none

/-- No exit of the bridge has left the session without a report. -/
def Returned : Prop := s.bridge = .returned → s.finished = true

theorem inv_claimed (selected : Option PortTerminal) : Inv (claimed selected) :=
  ⟨rfl, fun _ => ⟨rfl, rfl, rfl⟩⟩

variable {s : DirectPort}

theorem Inv.counted_finish (h : Inv s) (kind : PortTerminalKind) (detail : String) :
    (s.finishDirectPortSession kind detail).reported.length = 1 ∧
      (s.finishDirectPortSession kind detail).finished = true := by
  have hcounted := h.counted
  unfold finishDirectPortSession
  split
  · rename_i hfinished
    exact ⟨by simpa [hfinished] using hcounted, hfinished⟩
  · rename_i hopen
    simp_all

theorem Inv.ends (h : Inv s) (kind : PortTerminalKind) (detail : String) :
    Inv (s.ends kind detail) := by
  obtain ⟨hcounted, hfinished⟩ := h.counted_finish kind detail
  refine ⟨?_, by intro hb; cases hb⟩
  simp only [DirectPort.ends, hcounted, hfinished, if_true]

theorem Inv.moves (h : Inv s) {bridge : Bridge}
    (hb : { s with bridge }.early = true → s.early = true) :
    Inv { s with bridge } :=
  ⟨h.counted, fun hearly => h.unbound (hb hearly)⟩

theorem inv_step (s : DirectPort) (e : Event) (h : Inv s) : Inv (step s e) := by
  cases e with
  | check backend inTime =>
    rw [step]
    repeat' split
    · exact h
    · exact h.ends _ _
    · exact h.ends _ _
    · rename_i hb _ _
      exact h.moves fun _ => by rw [early, not_not.1 hb]
  | dial ok =>
    rw [step]
    repeat' split
    · exact h
    · rename_i hb _
      exact h.moves fun _ => by rw [early, not_not.1 hb]
    · exact h.ends _ _
  | bind =>
    rw [step]
    repeat' split
    · exact h
    · exact h.moves (by intro hb; cases hb)
    · exact ⟨h.counted, by intro hb; cases hb⟩
  | evidence ok | clearDeadline ok | verdict ok =>
    rw [step]
    repeat' split
    · exact h
    · exact h.moves (by intro hb; cases hb)
    · exact h.ends _ _
  | copied deadlinePassed failure =>
    rw [step]
    split
    · exact h
    · exact h.ends _ _
  | select kind reason =>
    rw [step]
    split
    · exact ⟨h.counted, h.unbound⟩
    · exact h
  | mark =>
    rw [step]
    split
    · refine ⟨h.counted, fun hb => ?_⟩
      obtain ⟨hfinished, hbound, -⟩ := h.unbound hb
      exact ⟨hfinished, hbound, by simp [hbound]⟩
    · exact h
  | report =>
    rw [step]
    split
    · rename_i t ht
      obtain ⟨hcounted, hfinished⟩ := h.counted_finish t.kind t.safeDetail
      refine ⟨by simp only [hcounted, hfinished, if_true], fun hb => ?_⟩
      have hbridge : (s.finishDirectPortSession t.kind t.safeDetail).bridge = s.bridge := by
        unfold finishDirectPortSession
        split <;> rfl
      -- a closer that reports has found the session bound
      rw [(h.unbound (by rwa [early, hbridge] at hb)).2.2] at ht
      cases ht
    · exact h

/-- Every way out of the bridge but the refused binding reports the session. -/
theorem Inv.returned_step (h : Inv s) (hr : Returned s) (e : Event) :
    Returned (step s e) ↔ BindsOpen s e := by
  have hends : ∀ kind detail, Returned (s.ends kind detail) :=
    fun kind detail _ => (h.counted_finish kind detail).2
  constructor
  · rintro hafter rfl hbinding
    rw [← Bool.not_eq_true]
    intro hclosed
    have hfinished := (h.unbound (by rw [early, hbinding])).1
    have hreturned := hafter (by simp [step, hbinding, hclosed])
    simp [step, hbinding, hclosed, hfinished] at hreturned
  · intro hopen
    cases e with
    | check backend inTime | dial ok | evidence ok | clearDeadline ok | verdict ok
    | copied deadlinePassed failure =>
      rw [step]
      repeat' split
      all_goals first
        | exact hr
        | exact hends _ _
        | (intro hb; cases hb)
    | bind =>
      rw [step]
      repeat' split
      · exact hr
      · rename_i hb hclosed
        rw [hopen rfl (not_not.1 hb)] at hclosed
        cases hclosed
      · intro hb
        cases hb
    | select kind reason =>
      rw [step]
      split <;> exact hr
    | mark =>
      rw [step]
      split <;> exact hr
    | report =>
      rw [step]
      split
      · exact fun _ => (h.counted_finish _ _).2
      · exact hr

theorem Inv.accounted_iff (h : Inv s) : Accounted s ↔ Returned s := by
  have hcounted := h.counted
  rw [Accounted, Returned, hcounted]
  cases s.finished <;> simp

/-- **A direct Port is reported exactly once.**  In every run from the claim of its
    credential the session is reported once at most and, when the bridge has
    returned, exactly once, if and only if the bridge never comes to bind a session
    that a closer has marked closed. -/
theorem closure_reported_once_iff (selected : Option PortTerminal) (events : List Event) :
    Along step (fun s e => Accounted (step s e)) (claimed selected) events ↔
      Along step BindsOpen (claimed selected) events := by
  refine along_iff (A := fun _ _ => True) (I := fun s => Inv s ∧ Returned s) ?_ ?_
    ⟨inv_claimed selected, by intro hb; cases hb⟩ (along_of_forall (fun _ _ => trivial) _)
  · rintro s e ⟨hinv, hreturned⟩ -
    rw [(inv_step s e hinv).accounted_iff]
    exact hinv.returned_step hreturned e
  · rintro s e ⟨hinv, -⟩ - haccounted
    exact ⟨inv_step s e hinv, (inv_step s e hinv).accounted_iff.1 haccounted⟩

/-- The session is out of everyone's hands. -/
def Abandoned (s : DirectPort) : Prop :=
  s.bridge = .returned ∧ s.registered = false ∧ s.selected = none ∧ s.reporting = none ∧
    s.reported = []

theorem Abandoned.step (h : Abandoned s) (e : Event) : Abandoned (step s e) := by
  obtain ⟨hbridge, hregistered, hselected, hreporting, -⟩ := id h
  cases e <;> simpa [DirectPort.step, hbridge, hregistered, hselected, hreporting] using h

theorem Abandoned.after (h : Abandoned s) (events : List Event) :
    Abandoned (after DirectPort.step s events) :=
  after_invariant (I := Abandoned) (fun _ e hs => Abandoned.step hs e) h events

/-- A fence closes the session after the guest was dialed and before the connection
    is bound: the bridge returns, and no terminal is ever reported. -/
theorem fenced_before_binding_unreported :
    let s := after step (claimed none)
      [.check true true, .dial true, .select .fenced "assignment fenced", .mark, .bind]
    s.bridge = .returned ∧ ∀ events, (after step s events).reported = [] := by
  intro s
  have habandoned : Abandoned s := ⟨by decide, by decide, by decide, by decide, by decide⟩
  exact ⟨habandoned.1, fun events => (habandoned.after events).2.2.2.2⟩

end DirectPort

end SecondBox.Runner

/-
  `Decide` of internal/lifecycle: the next action for one Sandbox, from what is
  recorded about it and the time.

  The zero `time.Time` means that there is no time; it is `none` here, and any other
  is an integer.  Times and durations are in nanoseconds.  A text the code does not
  know is kept as `unrecognized`.
-/
import Mathlib.Algebra.Order.Ring.Int
import Mathlib.Data.Option.Basic

namespace SecondBox.Lifecycle

/-- The Sandbox states. -/
inductive SandboxState where
  | creating
  | stopped
  | starting
  | ready
  | draining
  | stopping
  | failed
  | deleting
  | deleted
  | unrecognized (text : String)
deriving DecidableEq

/-- The states a Sandbox can be asked for. -/
inductive DesiredState where
  | running
  | stopped
  | deleted
  | unrecognized (text : String)
deriving DecidableEq

/-- The state of the newest stop effect of the generation; empty without one. -/
inductive StopEffectState where
  | queued
  | runnerSucceeded
  | runnerFailed
  | unrecognized (text : String)
deriving DecidableEq

/-- What is known of the guest. -/
inductive GuestLiveness where
  | unknown
  | starting
  | ready
  | lost
  | stopped
  | unrecognized (text : String)
deriving DecidableEq

/-- Why an Instance ended. -/
inductive TerminationReason where
  | requestedDrain
  | requestedStop
  | idleTimeout
  | maximumDuration
  | guestShutdown
  | resourceExhaustion
  | guestAgentLost
  | runnerLost
  | startupFailed
  | fenced
  | internalFailure
  /-- no reason is the empty text -/
  | unrecognized (text : String := "")
deriving DecidableEq

/-- `ValidTerminationReason` -/
def TerminationReason.valid : TerminationReason → Bool
  | unrecognized _ => false
  | _ => true

/-- What the reconciler decides to do. -/
inductive Action where
  | wait
  | startInstance
  | markReady
  | drain
  | stopInstance
  | finishStop
  | delete
  | fail
deriving DecidableEq

/-- `View`: the durable inputs of a decision. -/
structure View where
  observed : SandboxState
  desired : DesiredState
  stopEffectState : StopEffectState
  guestLiveness : GuestLiveness
  instanceTerminationReason : TerminationReason
  intentTerminationReason : TerminationReason
  hasInstance : Bool
  activeSessions : Int
  readyAt : Option Int
  lastUsefulActivityAt : Option Int
  drainStartedAt : Option Int
  drainGrace : Int
  idleTimeout : Int
  maximumDuration : Int
  assignmentDeadline : Option Int
deriving DecidableEq

/-- An action and its reason. -/
structure Decision where
  action : Action
  terminationReason : TerminationReason := .unrecognized ""
deriving DecidableEq

variable (view : View)

/-- `requestedTerminationReason` -/
def View.requestedTerminationReason : TerminationReason :=
  if view.intentTerminationReason.valid then view.intentTerminationReason else .requestedStop

/-- `IdleSince`: the later of readiness and useful activity. -/
def View.idleSince : Option Int :=
  match view.readyAt, view.lastUsefulActivityAt with
  | some readyAt, some activityAt => if activityAt < readyAt then some readyAt else some activityAt
  | some readyAt, none => some readyAt
  | none, activityAt => activityAt

/-- When the maximum duration is over. -/
def View.maximumDeadline : Option Int :=
  if 0 < view.maximumDuration then view.readyAt.map (· + view.maximumDuration) else none

/-- When the Instance has been idle for long enough. -/
def View.idleDeadline : Option Int :=
  if 0 < view.idleTimeout then view.idleSince.map (· + view.idleTimeout) else none

/-- `!now.Before(deadline)`, for a deadline that there is. -/
def reached (deadline : Option Int) (now : Int) : Bool := deadline.any fun t => decide (t ≤ now)

/-- `drainBarrierActive` -/
def View.drainBarrierActive (now : Int) : Bool :=
  if view.activeSessions = 0 then false
  else match view.drainStartedAt with
    | none => true
    | some startedAt => decide (view.drainGrace ≤ 0) || decide (now < startedAt + view.drainGrace)

/-- `decideStopping` -/
def View.decideStopping : Decision :=
  if view.stopEffectState = .runnerFailed then
    { action := .fail, terminationReason := .internalFailure }
  else if view.stopEffectState = .queued then { action := .stopInstance }
  else if view.hasInstance && view.guestLiveness != .stopped && view.guestLiveness != .lost then
    { action := .stopInstance }
  else if view.stopEffectState = .runnerSucceeded then { action := .finishStop }
  else { action := .wait }

/-- The decision for a draining Sandbox. -/
def View.decideDraining (now : Int) : Decision :=
  if view.drainBarrierActive now then { action := .wait } else { action := .stopInstance }

/-- A ready Sandbox that is to run. -/
def View.decideReady (now : Int) : Decision :=
  if view.guestLiveness = .stopped then
    { action := .drain
      terminationReason :=
        if view.instanceTerminationReason.valid then
          view.instanceTerminationReason else .internalFailure }
  else if view.guestLiveness = .lost then { action := .drain, terminationReason := .guestAgentLost }
  else if reached view.maximumDeadline now then
    { action := .drain, terminationReason := .maximumDuration }
  else if view.activeSessions = 0 ∧ reached view.idleDeadline now then
    { action := .drain, terminationReason := .idleTimeout }
  else { action := .wait }

/-- A starting Sandbox that is to run. -/
def View.decideStarting : Decision :=
  if view.guestLiveness = .ready then { action := .markReady }
  else if view.hasInstance then { action := .wait }
  else { action := .startInstance }

/-- No case of `Decide`. -/
def Decision.unknown : Decision where
  action := .fail
  terminationReason := .internalFailure

/-- The decision to drain. -/
def View.requestedDrain : Decision where
  action := .drain
  terminationReason := view.requestedTerminationReason

/-- A state the source names. -/
def DesiredState.recognized : DesiredState → Bool
  | unrecognized _ => false
  | _ => true

/-- `Decide` -/
def View.decide (now : Int) : Decision :=
  if view.observed = .failed ∧ view.hasInstance ∧ view.desired.recognized then
    { action := .stopInstance, terminationReason := view.requestedTerminationReason }
  else match view.desired with
  | .deleted =>
    match view.observed with
    | .deleted => { action := .wait }
    | .stopped | .failed | .deleting => { action := .delete }
    | .creating => if view.hasInstance then view.requestedDrain else { action := .delete }
    | .ready | .starting => view.requestedDrain
    | .draining => view.decideDraining now
    | .stopping => view.decideStopping
    | .unrecognized _ => .unknown
  | .stopped =>
    match view.observed with
    | .stopped | .failed | .creating => { action := .wait }
    | .ready | .starting => view.requestedDrain
    | .draining => view.decideDraining now
    | .stopping => view.decideStopping
    | _ => .unknown
  | .running =>
    match view.observed with
    | .creating => { action := .wait }
    | .stopped | .failed => { action := .startInstance }
    | .starting => view.decideStarting
    | .ready => view.decideReady now
    | .draining => view.decideDraining now
    | .stopping => view.decideStopping
    | _ => .unknown
  | .unrecognized _ => .unknown

/-! ## What a decision says about its view -/

section
variable {view : View} {now : Int}

theorem decide_unrecognized (h : view.desired.recognized = false) : view.decide now = .unknown := by
  rw [View.decide, if_neg (by simp [h])]
  cases hd : view.desired with
  | unrecognized text => rfl
  | _ => rw [hd] at h; cases h

/-- A failed Sandbox that keeps its Instance is never left waiting. -/
theorem hasInstance_of_failed_wait (h : (view.decide now).action = .wait)
    (hfailed : view.observed = .failed) :
    view.hasInstance = false := by
  by_contra hinstance
  cases hd : view.desired.recognized with
  | true =>
    rw [View.decide, if_pos ⟨hfailed, by simpa using hinstance, hd⟩] at h
    cases h
  | false =>
    rw [decide_unrecognized hd] at h
    cases h

theorem recognized_of_action (now : Int) (h : (view.decide now).action ≠ .fail) :
    view.desired.recognized = true := by
  cases hd : view.desired.recognized with
  | true => rfl
  | false => exact absurd (by rw [decide_unrecognized hd]; rfl) h

theorem decide_draining (h : view.observed = .draining)
    (hdesired : view.desired.recognized = true) :
    view.decide now = view.decideDraining now := by
  rw [View.decide, if_neg (by simp [h]), h]
  cases hd : view.desired with
  | unrecognized text => rw [hd] at hdesired; cases hdesired
  | _ => rfl

theorem decide_ready (hobserved : view.observed = .ready) (hdesired : view.desired = .running) :
    view.decide now = view.decideReady now := by
  rw [View.decide, if_neg (by simp [hobserved]), hdesired, hobserved]

theorem decide_starting (hobserved : view.observed = .starting)
    (hdesired : view.desired = .running) :
    view.decide now = view.decideStarting := by
  rw [View.decide, if_neg (by simp [hobserved]), hdesired, hobserved]

/-- A ready Sandbox with a live guest waits exactly as long as no deadline of its policy is reached. -/
theorem decideReady_eq_wait (hlive : view.guestLiveness = .ready) :
    (view.decideReady now).action = .wait ↔ reached view.maximumDeadline now = false ∧
      (view.activeSessions = 0 → reached view.idleDeadline now = false) := by
  rw [View.decideReady, if_neg (by simp [hlive]), if_neg (by simp [hlive])]
  split
  next hmaximum => simp [hmaximum]
  next hmaximum =>
    split
    next hidle => simp [hidle]
    next hidle =>
      rw [not_and] at hidle
      simp only [Bool.not_eq_true] at hmaximum hidle
      exact ⟨fun _ => ⟨hmaximum, hidle⟩, fun _ => rfl⟩

end

end SecondBox.Lifecycle

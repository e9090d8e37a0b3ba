/-
  The seconds of a lifecycle policy: how the service validates them, how they are
  resolved for a Sandbox, and the durations the lifecycle worker makes of them.

  The numbers are `int64`, as in the source; `time.Duration` is one too, so
  `time.Duration(seconds) * time.Second` wraps around.
-/
import SecondBox.Base.Check
import SecondBox.Lifecycle.Worker

namespace SecondBox.Lifecycle

open Check

/-! ## Policies -/

/-- `PolicyLimit`: a ceiling, or no ceiling. -/
abbrev PolicyLimit := Int64

namespace PolicyLimit

/-- `Unlimited` -/
def unlimited : PolicyLimit := -1

/-- `MaximumPolicyLimit` -/
def maximum : Int64 := 9007199254740991

/-- `Valid` -/
def valid (limit : PolicyLimit) (minimum : Int64) : Bool :=
  limit == unlimited || decide (minimum ≤ limit) && decide (limit ≤ maximum)

/-- `Within` -/
def within (limit parent : PolicyLimit) : Bool :=
  parent == unlimited || limit != unlimited && decide (limit ≤ parent)

/-- `MinimumPolicyLimit` -/
def min (left right : PolicyLimit) : PolicyLimit :=
  if left = unlimited then right
  else if right = unlimited then left
  else if left ≤ right then left else right

end PolicyLimit

/-- `(1<<63-1)/time.Second`: the seconds that fit a `time.Duration`. -/
def representableSeconds : Int64 := 9223372036

theorem toInt_representableSeconds : representableSeconds.toInt = 9223372036 := by decide

/-- A Sandbox's limits. -/
structure SandboxLifecycleLimits where
  idleSeconds : PolicyLimit
  maximumDurationSeconds : PolicyLimit

/-- A profile's lifecycle policy. -/
structure LifecyclePolicy where
  initialState : DesiredState
  drainGraceSeconds : Int64
  idleSeconds : PolicyLimit
  maximumDurationSeconds : PolicyLimit
  leaseSeconds : Int64

/-- The lifecycle part of `ProfileRevisionSpec`. -/
structure ProfileLifecycle where
  lifecycle : LifecyclePolicy
  lifecycleCeiling : Option SandboxLifecycleLimits := none

/-- `InvalidFieldError`, or an error made where it occurs. -/
inductive PolicyError where
  | invalidField (field reason : String)
  | unrepresentable (axis : String)
deriving DecidableEq

/-- The limit is a `time.Duration`. -/
def representable (limit : PolicyLimit) : Bool :=
  limit.valid 1 && (limit == PolicyLimit.unlimited || decide (limit ≤ representableSeconds))

/-- `SandboxLifecycleLimits.Validate` -/
def SandboxLifecycleLimits.validate (limits : SandboxLifecycleLimits) :
    Except PolicyError Unit := do
  require (representable limits.idleSeconds) (.unrepresentable "idleSeconds")
  require (representable limits.maximumDurationSeconds) (.unrepresentable "maximumDurationSeconds")

/-- The limits of the policy. -/
def LifecyclePolicy.limits (policy : LifecyclePolicy) : SandboxLifecycleLimits where
  idleSeconds := policy.idleSeconds
  maximumDurationSeconds := policy.maximumDurationSeconds

/-- The lifecycle checks of `validateProfileRevisionSpec`. -/
def ProfileLifecycle.validate (spec : ProfileLifecycle) : Except PolicyError Unit := do
  let policy := spec.lifecycle
  require (policy.initialState == .stopped || policy.initialState == .running)
    (.invalidField "spec.lifecycle.initialState" "must be stopped or running")
  require (decide (1 ≤ policy.drainGraceSeconds) && policy.idleSeconds.valid 1 &&
      policy.maximumDurationSeconds.valid 1 && decide (1 ≤ policy.leaseSeconds))
    (.invalidField "spec.lifecycle"
      "must have positive drainGraceSeconds and leaseSeconds and positive or null idleSeconds and maximumDurationSeconds")
  policy.limits.validate.mapError fun _ => .invalidField "spec.lifecycle"
    "must have idleSeconds and maximumDurationSeconds representable as durations"
  match spec.lifecycleCeiling with
  | none => pure ()
  | some ceiling => do
    ceiling.validate.mapError fun _ => .invalidField "spec.lifecycleCeiling"
      "must have null or positive representable idleSeconds and maximumDurationSeconds"
    require (policy.idleSeconds.within ceiling.idleSeconds &&
        policy.maximumDurationSeconds.within ceiling.maximumDurationSeconds)
      (.invalidField "spec.lifecycle"
        "must have idleSeconds and maximumDurationSeconds within spec.lifecycleCeiling")

/-- `LifecycleCeilings` -/
def ProfileLifecycle.ceilings (spec : ProfileLifecycle) : SandboxLifecycleLimits :=
  spec.lifecycleCeiling.getD spec.lifecycle.limits

/-- `ResolveLifecycle` -/
def ProfileLifecycle.resolve (spec : ProfileLifecycle) (selection : Option SandboxLifecycleLimits) :
    Except PolicyError LifecyclePolicy :=
  match selection with
  | none => .ok spec.lifecycle
  | some selection => do
    selection.validate
    pure { spec.lifecycle with
      idleSeconds := selection.idleSeconds.min spec.ceilings.idleSeconds
      maximumDurationSeconds :=
        selection.maximumDurationSeconds.min spec.ceilings.maximumDurationSeconds }

/-! ## Claims -/

/-- `time.Duration(seconds) * time.Second`, in nanoseconds. -/
def seconds (n : Int64) : Int := (n * 1000000000).toInt

/-- The view `reconcileClaim` makes of a claim, with the policy of the Sandbox in place of the durations of `state`. -/
def LifecyclePolicy.view (policy : LifecyclePolicy) (state : View) : View :=
  { state with
    drainGrace := seconds policy.drainGraceSeconds
    idleTimeout := seconds policy.idleSeconds
    maximumDuration := seconds policy.maximumDurationSeconds }

section
variable (policy : LifecyclePolicy) (state : View)

theorem view_drainGrace : (policy.view state).drainGrace = seconds policy.drainGraceSeconds := by
  rw [LifecyclePolicy.view]

theorem view_idleTimeout : (policy.view state).idleTimeout = seconds policy.idleSeconds := by
  rw [LifecyclePolicy.view]

theorem view_maximumDuration :
    (policy.view state).maximumDuration = seconds policy.maximumDurationSeconds := by
  rw [LifecyclePolicy.view]

end

/-- Every view with this policy has the configured durations; idle and maximum-duration drains are not early, and an
    active session holds the drain barrier for exactly the grace. -/
structure LifecyclePolicy.Honoured (policy : LifecyclePolicy) : Prop where
  drainGrace : ∀ state, (policy.view state).drainGrace = policy.drainGraceSeconds.toInt * 1000000000
  idleTimeout : ∀ state, (policy.view state).idleTimeout = policy.idleSeconds.toInt * 1000000000
  maximumDuration : ∀ state, (policy.view state).maximumDuration =
    policy.maximumDurationSeconds.toInt * 1000000000
  drain : ∀ state now, (policy.view state).observed = .ready →
    (policy.view state).desired = .running →
    (policy.view state).guestLiveness ≠ .stopped → (policy.view state).guestLiveness ≠ .lost →
    ((policy.view state).decide now).action = .drain →
    (policy.maximumDurationSeconds ≠ PolicyLimit.unlimited ∧
      ∃ readyAt, (policy.view state).readyAt = some readyAt ∧
      readyAt + policy.maximumDurationSeconds.toInt * 1000000000 ≤ now) ∨
    (policy.idleSeconds ≠ PolicyLimit.unlimited ∧ ∃ since, (policy.view state).idleSince =
      some since ∧ since + policy.idleSeconds.toInt * 1000000000 ≤ now)
  barrier : ∀ state now startedAt, (policy.view state).activeSessions ≠ 0 →
    (policy.view state).drainStartedAt = some startedAt →
    ((policy.view state).drainBarrierActive now = true ↔
      now < startedAt + policy.drainGraceSeconds.toInt * 1000000000)

/-! ## What validation admits -/

theorem toInt_le_of_le {a b : Int64} (h : a ≤ b) : a.toInt ≤ b.toInt := Int64.le_iff_toInt_le.1 h

theorem seconds_eq {n : Int64} (hlow : -9223372036 ≤ n.toInt) (hhigh : n.toInt ≤ 9223372036) :
    seconds n = n.toInt * 1000000000 := by
  rw [seconds, Int64.toInt_mul, show (1000000000 : Int64).toInt = 1000000000 from rfl]
  exact Int.bmod_eq_of_le (by omega) (by omega)

/-- And not beyond: the product is out of the range of a duration. -/
theorem le_of_seconds_eq {n : Int64} (h : seconds n = n.toInt * 1000000000) :
    n.toInt ≤ 9223372036 := by
  have hlt := Int64.toInt_lt (n * 1000000000)
  rw [seconds] at h
  omega

theorem representable_seconds {limit : PolicyLimit} (h : representable limit = true) :
    seconds limit = limit.toInt * 1000000000 ∧
      (0 < seconds limit ↔ limit ≠ PolicyLimit.unlimited) := by
  simp only [representable, PolicyLimit.valid, Bool.and_eq_true, Bool.or_eq_true, beq_iff_eq,
    decide_eq_true_eq] at h
  by_cases hunlimited : limit = PolicyLimit.unlimited
  · subst hunlimited
    exact ⟨by decide, by decide⟩
  · obtain ⟨hvalid, hfits⟩ := h
    have hlow := toInt_le_of_le (hvalid.resolve_left hunlimited).1
    have hhigh := toInt_le_of_le (hfits.resolve_left hunlimited)
    rw [show (1 : Int64).toInt = 1 from rfl] at hlow
    rw [toInt_representableSeconds] at hhigh
    have hexact := seconds_eq (by omega) hhigh
    exact ⟨hexact, fun _ => hunlimited, fun _ => by omega⟩

theorem limits_validate {limits : SandboxLifecycleLimits} (h : limits.validate = .ok ()) :
    representable limits.idleSeconds = true ∧
      representable limits.maximumDurationSeconds = true := by
  simp only [SandboxLifecycleLimits.validate, bind_eq_ok, require_eq_ok] at h
  obtain ⟨_, hidle, hmaximum⟩ := h
  exact ⟨hidle, hmaximum⟩

theorem representable_min {left right : PolicyLimit} (hleft : representable left = true)
    (hright : representable right = true) : representable (left.min right) = true := by
  rw [PolicyLimit.min]
  split
  · exact hright
  split
  · exact hleft
  split
  · exact hleft
  · exact hright

theorem validate_spec {spec : ProfileLifecycle} (h : spec.validate = .ok ()) :
    1 ≤ spec.lifecycle.drainGraceSeconds.toInt ∧ representable spec.lifecycle.idleSeconds = true ∧
      representable spec.lifecycle.maximumDurationSeconds = true ∧
      representable spec.ceilings.idleSeconds = true ∧
        representable spec.ceilings.maximumDurationSeconds = true := by
  simp only [ProfileLifecycle.validate, bind_eq_ok, require_eq_ok, mapError_eq_ok] at h
  obtain ⟨_, -, _, hseconds, _, hlimits, hceiling⟩ := h
  simp only [Bool.and_eq_true, decide_eq_true_eq] at hseconds
  obtain ⟨hidle, hmaximum⟩ := limits_validate hlimits
  refine ⟨toInt_le_of_le hseconds.1.1.1, hidle, hmaximum, ?_⟩
  rw [ProfileLifecycle.ceilings]
  cases hsome : spec.lifecycleCeiling with
  | none => exact ⟨hidle, hmaximum⟩
  | some ceiling =>
    rw [hsome] at hceiling
    simp only [bind_eq_ok, mapError_eq_ok] at hceiling
    obtain ⟨_, hvalid, -⟩ := hceiling
    exact limits_validate hvalid

/-- What is resolved for a Sandbox is as representable as the policy and its ceiling. -/
theorem resolve_representable {spec : ProfileLifecycle} (hspec : spec.validate = .ok ())
    {selection : Option SandboxLifecycleLimits} {policy : LifecyclePolicy}
    (h : spec.resolve selection = .ok policy) :
    policy.drainGraceSeconds = spec.lifecycle.drainGraceSeconds ∧ representable policy.idleSeconds =
      true ∧ representable policy.maximumDurationSeconds = true := by
  obtain ⟨-, hidle, hmaximum, hidle', hmaximum'⟩ := validate_spec hspec
  cases selection with
  | none =>
    cases h
    exact ⟨rfl, hidle, hmaximum⟩
  | some selection =>
    rw [ProfileLifecycle.resolve] at h
    cases hvalid : selection.validate with
    | error e =>
      rw [hvalid] at h
      cases h
    | ok u =>
      rw [hvalid] at h
      cases h
      obtain ⟨hselected, hselected'⟩ := limits_validate hvalid
      exact ⟨rfl, representable_min hselected hidle', representable_min hselected' hmaximum'⟩

theorem deadline_reached {duration : Int} {since : Option Int} {now : Int}
    (h : reached (if 0 < duration then since.map (· + duration) else none) now = true) :
    0 < duration ∧ ∃ t, since = some t ∧ t + duration ≤ now := by
  split at h
  next hpositive =>
    cases since with
    | none => cases h
    | some t => exact ⟨hpositive, t, rfl, by simpa [reached] using h⟩
  next => cases h

/-- A ready Sandbox whose guest is well is drained at a deadline of its policy only. -/
theorem drain_of_ready {view : View} {now : Int} (hobserved : view.observed = .ready)
    (hdesired : view.desired = .running) (hstopped : view.guestLiveness ≠ .stopped)
    (hlost : view.guestLiveness ≠ .lost) (h : (view.decide now).action = .drain) :
    (0 < view.maximumDuration ∧ ∃ readyAt, view.readyAt = some readyAt ∧ readyAt + view.maximumDuration ≤ now) ∨
    (0 < view.idleTimeout ∧ ∃ since, view.idleSince = some since ∧ since + view.idleTimeout ≤ now) := by
  rw [decide_ready hobserved hdesired, View.decideReady, if_neg hstopped, if_neg hlost] at h
  split at h
  next hmaximum => exact .inl (deadline_reached hmaximum)
  split at h
  next hidle => exact .inr (deadline_reached hidle.2)
  next => cases h

theorem barrier_iff {view : View} {now startedAt : Int} (hsessions : view.activeSessions ≠ 0)
    (hstarted : view.drainStartedAt = some startedAt) (hgrace : 0 < view.drainGrace) :
    view.drainBarrierActive now = true ↔ now < startedAt + view.drainGrace := by
  rw [View.drainBarrierActive, if_neg hsessions, hstarted]
  simp [Int.not_le.2 hgrace]

theorem honoured_of_exact {policy : LifecyclePolicy}
    (hpositive : 1 ≤ policy.drainGraceSeconds.toInt)
    (hgrace : seconds policy.drainGraceSeconds = policy.drainGraceSeconds.toInt * 1000000000)
    (hidle : representable policy.idleSeconds = true)
    (hmaximum : representable policy.maximumDurationSeconds = true) :
    policy.Honoured := by
  obtain ⟨hidleSeconds, hidleLimit⟩ := representable_seconds hidle
  obtain ⟨hmaximumSeconds, hmaximumLimit⟩ := representable_seconds hmaximum
  refine ⟨fun state => ?_, fun state => ?_, fun state => ?_, ?_, ?_⟩
  · rw [view_drainGrace, hgrace]
  · rw [view_idleTimeout, hidleSeconds]
  · rw [view_maximumDuration, hmaximumSeconds]
  · intro state now hobserved hdesired hstopped hlost hdrain
    have hdeadline := drain_of_ready hobserved hdesired hstopped hlost hdrain
    rw [view_maximumDuration, view_idleTimeout, hmaximumLimit, hidleLimit, hmaximumSeconds,
      hidleSeconds] at hdeadline
    exact hdeadline
  · intro state now startedAt hsessions hstarted
    rw [barrier_iff hsessions hstarted (by rw [view_drainGrace]; omega), view_drainGrace, hgrace]

/-- The configured seconds are honoured exactly as long as the drain grace fits a duration, which validation does not
    check. -/
theorem lifecycle_seconds_honoured (spec : ProfileLifecycle) (hspec : spec.validate = .ok ())
    (selection : Option SandboxLifecycleLimits) (policy : LifecyclePolicy)
    (hpolicy : spec.resolve selection = .ok policy) :
    policy.Honoured ↔ spec.lifecycle.drainGraceSeconds ≤ representableSeconds := by
  obtain ⟨hgrace, hidle, hmaximum⟩ := resolve_representable hspec hpolicy
  obtain ⟨hpositive, -⟩ := validate_spec hspec
  rw [Int64.le_iff_toInt_le, toInt_representableSeconds, ← hgrace]
  rw [← hgrace] at hpositive
  constructor
  · intro h
    have hexact := h.drainGrace idleSandbox
    rw [view_drainGrace] at hexact
    exact le_of_seconds_eq hexact
  · intro hfits
    exact honoured_of_exact hpositive (seconds_eq (by omega) hfits) hidle hmaximum

/-- A drain grace of 584 years, which comes out as 290 milliseconds. -/
def longGrace : ProfileLifecycle where
  lifecycle :=
    { initialState := .running, drainGraceSeconds := 18446744074, idleSeconds := 600, maximumDurationSeconds := 3600
      leaseSeconds := 60 }

/-- It is accepted, and the barrier of a Sandbox with an open session is gone after a second. -/
theorem longGrace_ends_early :
    longGrace.validate = .ok () ∧ longGrace.resolve none = .ok longGrace.lifecycle ∧
    (longGrace.lifecycle.view { idleSandbox with
      observed := .draining, desired := .stopped, activeSessions := 1, drainStartedAt := some 0 }).decide 1000000000 =
      { action := .stopInstance } ∧
    ¬longGrace.lifecycle.Honoured := by
  refine ⟨by decide, rfl, by decide, fun h => ?_⟩
  have hgrace := h.drainGrace idleSandbox
  revert hgrace
  decide

/-- An ordinary policy is honoured. -/
def shortGrace : ProfileLifecycle where
  lifecycle :=
    { initialState := .running, drainGraceSeconds := 30, idleSeconds := 600, maximumDurationSeconds := .unlimited
      leaseSeconds := 60 }

theorem shortGrace_honoured : shortGrace.validate = .ok () ∧ shortGrace.lifecycle.Honoured :=
  ⟨by decide, (lifecycle_seconds_honoured shortGrace (by decide) none shortGrace.lifecycle rfl).2 (by decide)⟩

end SecondBox.Lifecycle

/-
  When a Sandbox is looked at again: `nextLifecycleReconcileAt` of
  internal/lifecycle, and `ApplyLifecycleAction` of internal/store as far as a
  later `Decide` sees it.

  `Decide` and the schedule are two case analyses of one view.  They have to agree:
  a Sandbox that is parked must have nothing to wait for, and one that sleeps must
  not miss its deadline (`lifecycle_wakeup_sound`).
-/
import SecondBox.Lifecycle.Reconciler

namespace SecondBox.Lifecycle

/-! ## Schedule -/

/-- `actionRequiresEffect` -/
def Action.requiresEffect : Action → Bool
  | startInstance | stopInstance | delete => true
  | _ => false

/-- `successorIsImmediatelyAvailable` -/
def View.successorIsImmediatelyAvailable (view : View) (decision : Decision) : Bool :=
  match decision.action with
  | .drain => view.activeSessions == 0
  | .finishStop => view.desired != .stopped
  | _ => false

/-- `stateIsAtRest` -/
def stateIsAtRest : DesiredState → SandboxState → Bool
  | .stopped, observed => observed == .stopped || observed == .failed
  | .deleted, observed => observed == .deleted
  | _, _ => false

/-- `committedStateIsAtRest` -/
def View.committedStateIsAtRest (view : View) (decision : Decision) : Bool :=
  match decision.action with
  | .wait => stateIsAtRest view.desired view.observed
  | .finishStop => stateIsAtRest view.desired .stopped
  | _ => false

/-- `startingInstanceAwaitsRunner` -/
def View.startingInstanceAwaitsRunner (view : View) (decision : Decision) : Bool :=
  decision.action == .wait && view.observed == .starting && view.desired == .running &&
    view.hasInstance && view.guestLiveness != .ready

/-- `earlierFutureDeadline` -/
def earlierFutureDeadline (left right : Option Int) (now : Int) : Option Int :=
  match left.filter fun t => decide (now < t), right.filter fun t => decide (now < t) with
  | none, right => right
  | some left, none => some left
  | some left, some right => if right < left then some right else some left

/-- `nextLifecycleReconcileAt`; a Sandbox without a time is parked. -/
def View.nextLifecycleReconcileAt (view : View) (decision : Decision) (now : Int)
    (pollInterval : Int) :
    Option Int :=
  if view.successorIsImmediatelyAvailable decision then some now
  else if view.committedStateIsAtRest decision then none
  else if view.startingInstanceAwaitsRunner decision then
    (earlierFutureDeadline view.assignmentDeadline none now).or (some (now + pollInterval))
  else if decision.action ≠ .wait ∨ view.observed ≠ .ready ∨ view.desired ≠ .running ∨
    view.guestLiveness ≠ .ready then
    some (now + pollInterval)
  else if 0 < view.activeSessions then
    earlierFutureDeadline (some (now + pollInterval)) view.maximumDeadline now
  else (earlierFutureDeadline view.idleDeadline view.maximumDeadline now).or
    (some (now + pollInterval))

/-! ## Commit -/

/-- The state an action commits. -/
def Action.nextState (action : Action) (observed : SandboxState) : Option SandboxState :=
  match action with
  | .wait => some observed
  | .finishStop => some .stopped
  | .startInstance => some .starting
  | .markReady => some .ready
  | .drain => some .draining
  | .stopInstance => some .stopping
  | .fail => some .failed
  | .delete => none

/-- `CASE WHEN reason='' THEN old ELSE reason END` -/
def TerminationReason.orElse (reason old : TerminationReason) : TerminationReason :=
  if reason = .unrecognized "" then old else reason

/-- `ApplyLifecycleAction`: the view of the Sandbox it leaves.  Stopping ends the generation, and with it the
    Instance, the stop effect and the sessions the next view is read from. -/
def View.applyLifecycleAction (view : View) (decision : Decision) (now : Int) : Option View := do
  let observed ← decision.action.nextState view.observed
  let policy :=
    decision.terminationReason = .idleTimeout ∨ decision.terminationReason = .maximumDuration
  let view := { view with
    observed
    desired := if decision.action = .drain ∧ policy then .stopped else view.desired
    intentTerminationReason := decision.terminationReason.orElse view.intentTerminationReason
    instanceTerminationReason :=
      if view.hasInstance then view.instanceTerminationReason.orElse decision.terminationReason
      else view.instanceTerminationReason
    drainStartedAt :=
      if decision.action = .drain then view.drainStartedAt.or (some now)
      else if observed = .draining then view.drainStartedAt
      else none
    lastUsefulActivityAt :=
      if decision.action = .markReady then
        view.lastUsefulActivityAt.or (some now) else view.lastUsefulActivityAt }
  if decision.action = .finishStop then
    some { view with
      hasInstance := false
      guestLiveness := .unrecognized ""
      instanceTerminationReason := .unrecognized ""
      stopEffectState := .unrecognized ""
      activeSessions := 0
      readyAt := none
      assignmentDeadline := none }
  else
    some view

/-! ## Deadlines -/

theorem earlierFutureDeadline_eq_some {left right : Option Int} {now t : Int}
    (h : earlierFutureDeadline left right now = some t) :
    now < t ∧ (left = some t ∨ right = some t) ∧
      (∀ l, left = some l → now < l → t ≤ l) ∧ ∀ r, right = some r → now < r → t ≤ r := by
  -- only the deadlines that are in the future count
  have hfilter : ∀ (o : Option Int) (x : Int),
      o.filter (fun t => decide (now < t)) = some x ↔ o = some x ∧ now < x := by
    intro o x
    rw [Option.filter_eq_some_iff, decide_eq_true_eq]
  rw [earlierFutureDeadline] at h
  split at h
  next hleft =>
    obtain ⟨hright, hfuture⟩ := (hfilter _ _).1 h
    refine ⟨hfuture, .inr hright, fun l hl hlt => ?_, fun r hr _ => ?_⟩
    · rw [(hfilter left l).2 ⟨hl, hlt⟩] at hleft
      cases hleft
    · rw [hright] at hr
      cases hr
      exact le_refl _
  next l hleft hright =>
    cases h
    obtain ⟨hl, hfuture⟩ := (hfilter _ _).1 hleft
    refine ⟨hfuture, .inl hl, fun l' hl' _ => ?_, fun r hr hlt => ?_⟩
    · rw [hl] at hl'
      cases hl'
      exact le_refl _
    · rw [(hfilter right r).2 ⟨hr, hlt⟩] at hright
      cases hright
  next l r hleft hright =>
    obtain ⟨hl, hlt⟩ := (hfilter _ _).1 hleft
    obtain ⟨hr, hrt⟩ := (hfilter _ _).1 hright
    have hl' : ∀ x, left = some x → x = l := by
      intro x hx
      rw [hl] at hx
      exact (Option.some.inj hx).symm
    have hr' : ∀ x, right = some x → x = r := by
      intro x hx
      rw [hr] at hx
      exact (Option.some.inj hx).symm
    split at h
    next hlt' =>
      cases h
      exact ⟨hrt, .inr hr, fun x hx _ => hl' x hx ▸ le_of_lt hlt',
        fun x hx _ => hr' x hx ▸ le_refl _⟩
    next hle =>
      cases h
      exact ⟨hlt, .inl hl, fun x hx _ => hl' x hx ▸ le_refl _,
        fun x hx _ => hr' x hx ▸ not_lt.1 hle⟩

/-- A deadline that was ahead is not reached before the earliest one. -/
theorem reached_eq_false {deadline : Option Int} {now t u : Int}
    (hnow : reached deadline now = false) (hle : ∀ d, deadline = some d → now < d → t ≤ d)
    (hu : u < t) : reached deadline u = false := by
  cases deadline with
  | none => rfl
  | some d =>
    simp only [reached, Option.any_some, decide_eq_false_iff_not, not_le] at hnow ⊢
    exact lt_of_lt_of_le hu (hle d rfl hnow)

/-! ## What a commit leaves -/

section
variable {view view' : View} {decision : Decision} {now : Int} {pollInterval : Int}

theorem applyLifecycleAction_wait (haction : decision.action = .wait)
    (h : view.applyLifecycleAction decision now = some view') :
    view'.observed = view.observed ∧ view'.desired = view.desired ∧
      view'.hasInstance = view.hasInstance ∧
      view'.guestLiveness = view.guestLiveness ∧ view'.activeSessions = view.activeSessions ∧
      view'.maximumDeadline = view.maximumDeadline ∧ view'.idleDeadline = view.idleDeadline := by
  simp only [View.applyLifecycleAction, haction, Action.nextState, Option.bind_eq_bind,
    Option.bind_some, reduceCtorEq, false_and, if_false, Option.some.injEq] at h
  subst h
  exact ⟨rfl, rfl, rfl, rfl, rfl, rfl, rfl⟩

theorem applyLifecycleAction_finishStop (haction : decision.action = .finishStop)
    (h : view.applyLifecycleAction decision now = some view') :
    view'.observed = .stopped ∧ view'.desired = view.desired ∧ view'.hasInstance = false := by
  simp only [View.applyLifecycleAction, haction, Action.nextState, Option.bind_eq_bind,
    Option.bind_some, reduceCtorEq, false_and, if_false, if_true, Option.some.injEq] at h
  subst h
  exact ⟨rfl, rfl, rfl⟩

theorem applyLifecycleAction_drain (haction : decision.action = .drain)
    (h : view.applyLifecycleAction decision now = some view') :
    view'.observed = .draining ∧
      (view.desired.recognized = true → view'.desired.recognized = true) ∧
      view'.activeSessions = view.activeSessions := by
  simp only [View.applyLifecycleAction, haction, Action.nextState, Option.bind_eq_bind,
    Option.bind_some, reduceCtorEq, if_false, Option.some.injEq] at h
  subst h
  refine ⟨rfl, fun hdesired => ?_, rfl⟩
  dsimp only
  split
  · rfl
  · exact hdesired

theorem decide_of_rest (hrest : stateIsAtRest view.desired view.observed = true)
    (hfailed : view.observed = .failed → view.hasInstance = false) :
    (view.decide now).action = .wait := by
  rw [View.decide, if_neg (by rintro ⟨hf, hinstance, -⟩; rw [hfailed hf] at hinstance; cases hinstance)]
  cases hdesired : view.desired with
  | stopped =>
    rw [hdesired] at hrest
    simp only [stateIsAtRest, Bool.or_eq_true, beq_iff_eq] at hrest
    rcases hrest with hobserved | hobserved <;> rw [hobserved]
  | deleted =>
    rw [hdesired] at hrest
    simp only [stateIsAtRest, beq_iff_eq] at hrest
    rw [hrest]
  | running => rw [hdesired] at hrest; cases hrest
  | unrecognized text => rw [hdesired] at hrest; cases hrest

theorem rest_of_parked (hpoll : 0 < pollInterval)
    (h : view.nextLifecycleReconcileAt decision now pollInterval = none) :
    view.committedStateIsAtRest decision = true := by
  rw [View.nextLifecycleReconcileAt] at h
  split at h
  · cases h
  split at h
  next hrest => exact hrest
  split at h
  · exact absurd h (by cases earlierFutureDeadline view.assignmentDeadline none now <;> simp)
  split at h
  · cases h
  split at h
  · -- a poll is always ahead
    rw [earlierFutureDeadline, Option.filter_some, if_pos (by simpa using hpoll)] at h
    split at h
    next heq => cases heq
    · cases h
    · split at h <;> cases h
  · exact absurd h (by cases earlierFutureDeadline view.idleDeadline view.maximumDeadline now <;> simp)

/-- A Sandbox sleeps past the poll interval only while it waits for its Runner or for its policy. -/
theorem sleeps_past_poll {t : Int} (hpoll : 0 < pollInterval)
    (h : view.nextLifecycleReconcileAt decision now pollInterval = some t)
    (ht : now + pollInterval < t) :
    decision.action = .wait ∧
      (view.observed = .starting ∧ view.desired = .running ∧ view.hasInstance = true ∧
        view.guestLiveness ≠ .ready ∨
        view.observed = .ready ∧ view.desired = .running ∧ view.guestLiveness = .ready ∧
          earlierFutureDeadline view.idleDeadline view.maximumDeadline now = some t) := by
  have hnot : t ≠ now + pollInterval := ne_of_gt ht
  rw [View.nextLifecycleReconcileAt] at h
  split at h
  · cases h
    omega
  split at h
  · cases h
  split at h
  next hstarting =>
    simp only [View.startingInstanceAwaitsRunner, Bool.and_eq_true, beq_iff_eq,
      bne_iff_ne] at hstarting
    obtain ⟨⟨⟨⟨hwait, hobserved⟩, hdesired⟩, hinstance⟩, hlive⟩ := hstarting
    exact ⟨hwait, .inl ⟨hobserved, hdesired, hinstance, hlive⟩⟩
  split at h
  · cases h
    exact absurd rfl hnot
  next hready =>
  simp only [not_or, not_not] at hready
  obtain ⟨hwait, hobserved, hdesired, hlive⟩ := hready
  refine ⟨hwait, .inr ⟨hobserved, hdesired, hlive, ?_⟩⟩
  split at h
  · obtain ⟨-, -, hle, -⟩ := earlierFutureDeadline_eq_some h
    have := hle _ rfl (by omega)
    omega
  · cases hearlier : earlierFutureDeadline view.idleDeadline view.maximumDeadline now with
    | some t' =>
      rw [hearlier] at h
      exact h
    | none =>
      rw [hearlier] at h
      cases h
      exact absurd rfl hnot

/-- A Sandbox is due at once only for a successor that is available. -/
theorem immediate_of_now (hpoll : 0 < pollInterval)
    (h : view.nextLifecycleReconcileAt decision now pollInterval = some now) :
    view.successorIsImmediatelyAvailable decision = true := by
  have hlater : ∀ o : Option Int, (∀ t, o = some t → now < t) → o.or (some (now + pollInterval)) ≠
      some now := by
    intro o ho
    cases o with
    | none =>
      intro heq
      have := Option.some.inj heq
      omega
    | some t =>
      intro heq
      exact absurd (Option.some.inj heq) (ne_of_gt (ho t rfl))
  rw [View.nextLifecycleReconcileAt] at h
  split at h
  next himmediate => exact himmediate
  exfalso
  split at h
  · cases h
  split at h
  · exact hlater _ (fun t ht => (earlierFutureDeadline_eq_some ht).1) h
  split at h
  · have := Option.some.inj h
    omega
  split at h
  · exact absurd (earlierFutureDeadline_eq_some h).1 (lt_irrefl _)
  · exact hlater _ (fun t ht => (earlierFutureDeadline_eq_some ht).1) h

end

/-! ## The schedule and the decision agree -/

section
variable {view view' : View} {now : Int} {pollInterval : Int}

theorem parked_waits (hpoll : 0 < pollInterval)
    (hparked : view.nextLifecycleReconcileAt (view.decide now) now pollInterval = none)
    (happly : view.applyLifecycleAction (view.decide now) now = some view') (later : Int) :
    (view'.decide later).action = .wait := by
  have hrest := rest_of_parked hpoll hparked
  rw [View.committedStateIsAtRest] at hrest
  split at hrest
  next hwait =>
    obtain ⟨hobserved, hdesired, hinstance, -⟩ := applyLifecycleAction_wait hwait happly
    refine decide_of_rest (by rw [hdesired, hobserved]; exact hrest) fun hfailed => ?_
    rw [hinstance]
    exact hasInstance_of_failed_wait hwait (hobserved ▸ hfailed)
  next hfinish =>
    obtain ⟨hobserved, hdesired, hinstance⟩ := applyLifecycleAction_finishStop hfinish happly
    exact decide_of_rest (by rw [hdesired, hobserved]; exact hrest) fun _ => hinstance
  · cases hrest

theorem asleep_waits (hpoll : 0 < pollInterval) {t : Int}
    (hnext : view.nextLifecycleReconcileAt (view.decide now) now pollInterval = some t)
    (ht : now + pollInterval < t)
    (happly : view.applyLifecycleAction (view.decide now) now = some view') {u : Int} (hu : u < t) :
    (view'.decide u).action = .wait := by
  obtain ⟨hwait, hcase⟩ := sleeps_past_poll hpoll hnext ht
  obtain ⟨hobserved', hdesired', hinstance', hlive', hsessions', hmaximum', hidle'⟩ :=
    applyLifecycleAction_wait hwait happly
  rcases hcase with ⟨hobserved, hdesired, hinstance, hlive⟩ | ⟨hobserved, hdesired, hlive, hearlier⟩
  · rw [decide_starting (hobserved'.trans hobserved) (hdesired'.trans hdesired),
      View.decideStarting, if_neg (by rw [hlive']; exact hlive),
      if_pos (hinstance'.trans hinstance)]
  · rw [decide_ready hobserved hdesired, decideReady_eq_wait hlive] at hwait
    obtain ⟨hmaximum, hidle⟩ := hwait
    obtain ⟨-, -, hleft, hright⟩ := earlierFutureDeadline_eq_some hearlier
    rw [decide_ready (hobserved'.trans hobserved) (hdesired'.trans hdesired),
      decideReady_eq_wait (hlive'.trans hlive), hmaximum', hidle', hsessions']
    exact ⟨reached_eq_false hmaximum hright hu,
      fun hzero => reached_eq_false (hidle hzero) hleft hu⟩

/-- The successor of a transition that is due at once is an effect. -/
theorem due_at_once_effect (hpoll : 0 < pollInterval)
    (hnext : view.nextLifecycleReconcileAt (view.decide now) now pollInterval = some now)
    (happly : view.applyLifecycleAction (view.decide now) now = some view') (u : Int) :
    (view'.decide u).action.requiresEffect = true := by
  have himmediate := immediate_of_now hpoll hnext
  rw [View.successorIsImmediatelyAvailable] at himmediate
  split at himmediate
  next hdrain =>
    obtain ⟨hobserved, hdesired, hsessions⟩ := applyLifecycleAction_drain hdrain happly
    have hrecognized := recognized_of_action now (by rw [hdrain]; simp)
    rw [decide_draining hobserved (hdesired hrecognized), View.decideDraining,
      View.drainBarrierActive, if_pos (hsessions.trans (by simpa using himmediate))]
    rfl
  next hfinish =>
    obtain ⟨hobserved, hdesired, hinstance⟩ := applyLifecycleAction_finishStop hfinish happly
    have hrecognized := recognized_of_action now (by rw [hfinish]; simp)
    rw [View.decide, if_neg (by simp [hinstance]), hdesired, hobserved]
    cases hd : view.desired with
    | running => rfl
    | deleted => rfl
    | stopped => rw [hd] at himmediate; cases himmediate
    | unrecognized text => rw [hd] at hrecognized; cases hrecognized
  · cases himmediate

end

/-- What the schedule says of a Sandbox is what `Decide` will say of it: parked, it waits for good; asleep, it waits
    until it is due; due at once, its next action is an effect, which is never due at once again. -/
theorem lifecycle_wakeup_sound (view : View) (now : Int) (pollInterval : Int)
    (hpoll : 0 < pollInterval) (view' : View)
    (happly : view.applyLifecycleAction (view.decide now) now = some view') :
    (view.nextLifecycleReconcileAt (view.decide now) now pollInterval = none →
      ∀ later, now ≤ later → (view'.decide later).action = .wait) ∧
    (∀ t, view.nextLifecycleReconcileAt (view.decide now) now pollInterval = some t →
      now + pollInterval < t →
      ∀ u, now ≤ u → u < t → (view'.decide u).action = .wait) ∧
    (view.nextLifecycleReconcileAt (view.decide now) now pollInterval = some now →
      ∀ u, now ≤ u → (view'.decide u).action.requiresEffect = true ∧
        view'.nextLifecycleReconcileAt (view'.decide u) u pollInterval ≠ some u) := by
  refine ⟨fun hparked later _ => parked_waits hpoll hparked happly later,
    fun t hnext ht u _ hu => asleep_waits hpoll hnext ht happly hu, fun hnext u _ => ?_⟩
  have heffect := due_at_once_effect hpoll hnext happly u
  refine ⟨heffect, fun hagain => ?_⟩
  have himmediate := immediate_of_now hpoll hagain
  rw [View.successorIsImmediatelyAvailable] at himmediate
  split at himmediate
  next hdrain => rw [hdrain] at heffect; cases heffect
  next hfinish => rw [hfinish] at heffect; cases heffect
  · cases himmediate

/-- A ready Sandbox that was last used at 0 and may be idle for 100. -/
def idleSandbox : View where
  observed := .ready
  desired := .running
  stopEffectState := .unrecognized ""
  guestLiveness := .ready
  instanceTerminationReason := .unrecognized ""
  intentTerminationReason := .unrecognized ""
  hasInstance := true
  activeSessions := 0
  readyAt := some 0
  lastUsefulActivityAt := some 0
  drainStartedAt := none
  drainGrace := 30
  idleTimeout := 100
  maximumDuration := 1000
  assignmentDeadline := none

/-- It sleeps until it has been idle for long enough, and waits until then. -/
theorem idleSandbox_sleeps :
    idleSandbox.nextLifecycleReconcileAt (idleSandbox.decide 10) 10 5 = some 100 ∧
    ∀ u, 10 ≤ u → u < 100 → (idleSandbox.decide u).action = .wait := by
  have hnext : idleSandbox.nextLifecycleReconcileAt (idleSandbox.decide 10) 10 5 = some 100 := by
    decide
  exact ⟨hnext, (lifecycle_wakeup_sound idleSandbox 10 5 (by decide) idleSandbox (by decide)).2.1
    100 hnext (by decide)⟩

end SecondBox.Lifecycle

/-
  The recovery of an Assignment comes to an end.

  Starts and fences share the retry counter, and a fence sets it back.  What
  bounds the recovery is a rank that no step raises: a start given up is not
  taken up again, and fencing ends unless a FenceResult reports a failure or a
  restore fences the generation without evidence.
-/
import SecondBox.Fleet.Finality

namespace SecondBox.Fleet

open Relational History

variable {w : World} {F : ID → Prop} {id : ID} {a a' : Assignment} {cfg : WorkerConfig} {t : Step}

/-! ## What is left to an Assignment -/

/-- The retries still possible. -/
def Assignment.retriesLeft (a : Assignment) : ℕ :=
  match a.state with
  | .uncertain | .fencing | .fenced | .released | .failedTerminal => 0
  | _ => (a.retryLimit - a.retryCount).toNat

/-- The fences still possible. -/
def Assignment.fencesLeft (a : Assignment) : ℕ :=
  match a.state with
  | .released | .failedTerminal => 0
  | .fenced => if a.releaseProof = "" then a.retryLimit.toNat + 1 else 0
  | .fencing => (a.retryLimit - a.retryCount).toNat
  | _ => a.retryLimit.toNat + 1

/-- A Retry, as the row shows it. -/
def retried (a a' : Assignment) : Bool := decide (a.state = .failed ∧ a'.state = .assigned)

/-- A Fence, as the row shows it: fencing begins, or begins again. -/
def fencedAgain (a a' : Assignment) : Bool :=
  decide (a'.state = .fencing ∧ ¬(a.state = .fencing ∧ a.retryCount = a'.retryCount))

/-- Every Retry is paid for, and so is every Fence if `orderly`. -/
def Assignment.Pays (a a' : Assignment) (orderly : Prop) : Prop :=
  a'.retriesLeft + (retried a a').toNat ≤ a.retriesLeft ∧
    (orderly → a'.fencesLeft + (fencedAgain a a').toNat ≤ a.fencesLeft)

attribute [local simp] Assignment.Pays Assignment.retriesLeft Assignment.fencesLeft
  retried fencedAgain
  AssignmentState.placed AssignmentState.pending AssignmentState.claimable Assignment.transition
    Assignment.view

theorem assignmentWorkerDecision_limit (v : AssignmentView) (now : Time) :
    match assignmentWorkerDecision v now with
    | .retry => v.state = .failed ∧ v.retryCount < v.retryLimit
    | .fence => (v.state = .fencing → v.retryCount < v.retryLimit) ∧ (v.state = .fenced → v.fenceProofDigest = "")
    | _ => True := by
  unfold assignmentWorkerDecision decideAssignment decideRunnerLoss
  cases hs : v.state <;> simp <;> grind

theorem Claim.Describes.pays {c : Claim} (hc : c.Describes a) (hholds : c.holds a = true)
    {now : Time} {action : Action} (haction : action = .wait ∨
    action = assignmentWorkerDecision c.view now) {fence : Option (ID × FenceCommand)}
    {e : Transition} (he : c.transition action fence = .ok e) (next now' : Time) :
    a.Pays (a.transition e next now') True := by
  simp only [Claim.holds, Bool.and_eq_true, beq_iff_eq] at hholds
  have hview := hc.view hholds.1.symm
  have hdue := hc.due
  have hlimit := assignmentWorkerDecision_limit c.view now
  rw [hview] at haction hdue hlimit
  cases action with
  | wait =>
    cases he
    cases hs : a.state <;> simp [hview, hs]
  | retry =>
    rw [← haction.resolve_left (by simp)] at hlimit
    cases he
    obtain ⟨hfailed, hlt⟩ : a.state = .failed ∧ a.retryCount < a.retryLimit := hlimit
    simp [hview, hfailed]
    omega
  | fence =>
    rw [← haction.resolve_left (by simp)] at hlimit
    simp only [Claim.transition] at he
    split at he
    · cases he
    split at he
    · cases he
      cases hs : a.state <;> simp [hview, hs] at hlimit hdue ⊢
      case fenced => simp [hlimit]
      case fencing => omega
    · cases he
  | failTerminal =>
    cases he
    simp
  | advanceGeneration => cases he

theorem Move.pays (hw : w.Described) (ha : w.db.assignments.get id = some a)
    (h : Move w F id a a') :
    a.Pays a' (¬F id ∧ (a'.state = .fenced → a'.releaseProof ≠ "")) := by
  cases h with
  | keep | claim => cases hs : a.state <;> simp [hs]
  | @decide x action fence e next now hx hid hholds haction he =>
    obtain ⟨a₀, ha₀, hdescribes⟩ := hw x hx
    rw [hid] at ha₀
    cases ha.symm.trans ha₀
    have h := hdescribes.pays hholds haction he next now
    exact ⟨h.1, fun _ => h.2 trivial⟩
  | fenceProven state digest hs hd => obtain rfl | rfl := hs <;> simp [Assignment.fenceProven, hd]
  | fenceFailed hF => simp [Assignment.fenceFailed, hF]
  | restore => simp +contextual [Assignment.restore]
  | release => simp [Assignment.release]
  | lose now h | progress h | becomeReady m h | fail c now h =>
    cases hs : a.state <;> simp [hs, Assignment.lose, Assignment.progress, Assignment.becomeReady,
      Assignment.fail] at h ⊢
  | accept h | miss now h => simp [h, Assignment.accept, Assignment.miss]

/-! ## Runs -/

/-- The step changes the row of the Assignment in this way. -/
def World.shows (cfg : WorkerConfig) (id : ID) (change : Assignment → Assignment → Bool) (w : World)
    (t : Step) : Bool :=
  (w.db.assignments.get id).any fun a => ((w.step cfg t).db.assignments.get id).any (change a)

/-- The step records no failed FenceResult, and leaves the Assignment fenced only with evidence. -/
def World.Orderly (cfg : WorkerConfig) (id : ID) (w : World) (t : Step) : Prop :=
  ¬t.FenceFails w id ∧ ∀ a', (w.step cfg t).db.assignments.get id = some a' → a'.state = .fenced →
    a'.releaseProof ≠ ""

variable {ts : List Step}

theorem tally_le_rank {A : World → Step → Prop} {r : Assignment → ℕ}
    {p : Assignment → Assignment → Bool}
      (h : ∀ w t a a', A w t → (w.step cfg t).db.assignments.get id = some a' →
      a.Pays a' (¬t.FenceFails w id ∧ (a'.state = .fenced → a'.releaseProof ≠ "")) →
        r a' + (p a a').toNat ≤ r a)
    (hw : w.Described) (ha : w.db.assignments.get id = some a)
    (hts : Along (World.step cfg) A w ts) :
    tally (World.step cfg) (World.shows cfg id p) w ts ≤ r a := by
  have hle := hts.tally_le (I := fun w => w.Described ∧ ∃ a, w.db.assignments.get id = some a)
    (p := World.shows cfg id p) (r := fun w => (w.db.assignments.get id).elim 0 r) ?_ ⟨hw, a, ha⟩
  · simpa [ha] using hle
  · rintro w t hA ⟨hw, a, ha⟩
    obtain ⟨a', ha', hmove⟩ := (step_moves cfg w t).old id a ha
    refine ⟨⟨hw.step, a', ha'⟩, ?_⟩
    simpa [World.shows, ha, ha'] using h w t a a' hA ha' (hmove.pays hw ha)

/-- **At most as many Retries are committed as the limit leaves.** -/
theorem retries_bounded (hw : w.Described) (ha : w.db.assignments.get id = some a)
    (ts : List Step) :
    tally (World.step cfg) (World.shows cfg id retried) w ts ≤
      (a.retryLimit - a.retryCount).toNat := by
  have hts : Along (World.step cfg) (fun _ _ => True) w ts := along_of_forall (fun _ _ => trivial) w
  refine (tally_le_rank (fun _ _ _ _ _ _ hpays => hpays.1) hw ha hts).trans ?_
  rw [Assignment.retriesLeft]
  split <;> omega

/-- A start that failed for a passing reason, with one retry left. -/
def failedAssignment : Assignment :=
  { lateAssignment with state := .failed, failureClass := .transient, retryLimit := 1 }

theorem retries_bounded_failedAssignment :
    tally (World.step lateConfig) (World.shows lateConfig "assignment" retried)
      (placedWorld failedAssignment) [.claim "worker" "assignment" 20 10, .work 0 "unused"] = 1 ∧
    tally (World.step lateConfig) (World.shows lateConfig "assignment" retried)
      (placedWorld failedAssignment) [.claim "worker" "assignment" 20 10, .work 0 "unused"] ≤
        (failedAssignment.retryLimit - failedAssignment.retryCount).toNat :=
  ⟨by decide +kernel, retries_bounded (placedWorld_consistent rfl).claims rfl _⟩

/-- **Without failed FenceResults at most one Fence more than the limit is committed.** -/
theorem fences_bounded (hw : w.Described) (ha : w.db.assignments.get id = some a) (ts : List Step)
    (hts : Along (World.step cfg) (World.Orderly cfg id) w ts) (hcount : 0 ≤ a.retryCount) :
    tally (World.step cfg) (World.shows cfg id fencedAgain) w ts ≤ a.retryLimit.toNat + 1 := by
  refine (tally_le_rank (fun _ _ _ a' hA ha' hpays => hpays.2 ⟨hA.1, hA.2 a' ha'⟩) hw ha hts).trans
    ?_
  rw [Assignment.fencesLeft]
  split <;> (try split) <;> omega

/-- A start on a Runner that is lost. -/
def lostAssignment : Assignment := { lateAssignment with state := .starting, failureClass := .none }

/-- The Runner expires; the worker fences the Assignment, and the Runner reports it stopped. -/
def losing : List Step :=
  [.expire 5 10, .claim "worker" "assignment" 20 10, .work 0 "fence", lateStopped]

theorem orderly_of_row (hf : ¬t.FenceFails w id)
    (h : ((w.step cfg t).db.assignments.get id).all (fun a => a.state != .fenced || a.releaseProof != "") = true) :
    w.Orderly cfg id t := by
  refine ⟨hf, fun a' ha' hfenced => ?_⟩
  simpa [ha', hfenced] using h

theorem fences_bounded_losing :
    tally (World.step lateConfig) (World.shows lateConfig "assignment" fencedAgain)
    (placedWorld lostAssignment) losing = 1 ∧
    ((after (World.step lateConfig) (placedWorld lostAssignment) losing).db.assignments.get
      "assignment").map (·.state) = some .fenced ∧
    tally (World.step lateConfig) (World.shows lateConfig "assignment" fencedAgain)
      (placedWorld lostAssignment) losing ≤ lostAssignment.retryLimit.toNat + 1 := by
  refine ⟨by decide +kernel, by decide +kernel,
    fences_bounded (placedWorld_consistent rfl).claims rfl losing ⟨?_, ?_, ?_, ?_,
    trivial⟩ (by decide)⟩
  · exact orderly_of_row (fun ⟨_, ⟨_, hr, _⟩, _⟩ => by cases hr) (by decide +kernel)
  · exact orderly_of_row (fun ⟨_, ⟨_, hr, _⟩, _⟩ => by cases hr) (by decide +kernel)
  · exact orderly_of_row (fun ⟨_, ⟨_, hr, _⟩, _⟩ => by cases hr) (by decide +kernel)
  · refine orderly_of_row ?_ (by decide +kernel)
    rintro ⟨m, ⟨r, hr, hm, -, -⟩, -, hfailed⟩
    cases hr
    cases hm
    cases hfailed

/-- **A worker whose claim still holds has read the row as it is.** -/
theorem claim_current (cfg : WorkerConfig) (hw : w.Described) (ts : List Step) {x : Work}
    (hx : x ∈ (after (World.step cfg) w ts).claims)
    (ha : (after (World.step cfg) w ts).db.assignments.get x.claim.assignmentID = some a)
    (hholds : x.claim.holds a = true) : x.claim.view = a.view := by
  obtain ⟨a', ha', hdescribes⟩ :=
    after_invariant (I := World.Described) (fun _ _ h => h.step) hw ts x hx
  cases ha.symm.trans ha'
  simp only [Claim.holds, Bool.and_eq_true, beq_iff_eq] at hholds
  exact hdescribes.view hholds.1.symm

/-- A worker claims the failed start; then its Runner expires, and another worker finds it claimed. -/
def claimed : List Step :=
  [.claim "worker" "assignment" 20 10, .expire 5 12, .claim "other" "assignment" 30 15]

theorem claim_current_claimed :
    ∃ x ∈ (after (World.step lateConfig) (placedWorld failedAssignment) claimed).claims,
    ∃ a, (after (World.step lateConfig) (placedWorld failedAssignment) claimed).db.assignments.get
      x.claim.assignmentID = some a ∧ x.claim.holds a = true ∧ x.claim.view = a.view := by
  have hrow : ((after (World.step lateConfig) (placedWorld failedAssignment) claimed).claims.head?.any fun x =>
      ((after (World.step lateConfig) (placedWorld failedAssignment) claimed).db.assignments.get
        x.claim.assignmentID).any x.claim.holds) = true := by decide +kernel
  simp only [Option.any_eq_true] at hrow
  obtain ⟨x, hx, a, ha, hholds⟩ := hrow
  exact ⟨x, List.mem_of_head? hx, a, ha, hholds,
    claim_current lateConfig (placedWorld_consistent rfl).claims claimed (List.mem_of_head? hx) ha
    hholds⟩

end SecondBox.Fleet

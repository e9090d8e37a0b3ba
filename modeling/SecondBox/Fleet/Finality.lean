/-
  Termination evidence is final, except for a failed FenceResult.

  Once an Assignment is recorded stopped with termination evidence, no step
  erases the evidence, puts the Assignment back into a state in which its
  Instance may run, or queues another fence command for it.  The one exception:
  `recordFenceEvent` guards a failed FenceResult by the fence alone, so one that
  arrives after the evidence makes the Assignment uncertain again.

  The worker decides on a claim it took earlier; `World.Consistent` says that a
  claim whose revision is still the row's describes the row, so that a decision
  taken before the evidence is refused after it.
-/
import SecondBox.Fleet.Moves

set_option synthInstance.maxSize 65536

namespace SecondBox.Fleet

open Relational Relational.Tx History

/-! ## Claims describe their rows -/

/-- The states an Assignment with termination evidence is in. -/
def AssignmentState.settled : AssignmentState → Bool
  | fenced | released | failedTerminal => true
  | _ => false

/-- A settled Assignment is not running, and no writer guarded by its state touches it. -/
theorem AssignmentState.settled_excludes {s : AssignmentState} (h : s.settled = true) :
    s.mayRun = false ∧ s.claimable = false ∧ s.placed = false ∧ s.pending = false := by
  revert h
  cases s <;> decide

/-- The claim was taken on this row, and describes it unless the row has moved on. -/
structure Claim.Describes (c : Claim) (a : Assignment) : Prop where
  revision : c.revision ≤ a.revision
  view : c.revision = a.revision → c.view = a.view
  due : c.view.state.claimable = true ∨ c.view.state = .fenced ∧ c.view.failureClass.fences = true

/-- Claims describe their rows, and proofs settle them. -/
structure World.Consistent (w : World) : Prop where
  claims : ∀ x ∈ w.claims, ∃ a, w.db.assignments.get x.claim.assignmentID = some a ∧
    x.claim.Describes a
  settled : ∀ id a, w.db.assignments.get id = some a → a.Proven → a.state.settled = true

section Claims
variable {w : World} {F : ID → Prop} {id : ID} {a a' : Assignment}

theorem Move.revision (h : Move w F id a a') :
    a'.revision = a.revision ∧ a'.view = a.view ∨ a'.revision = a.revision + 1 := by
  cases h with
  | keep => exact .inl ⟨rfl, rfl⟩
  | claim => exact .inl ⟨rfl, rfl⟩
  | _ => exact .inr rfl

theorem Claim.Describes.move {c : Claim} (hc : c.Describes a) (h : Move w F id a a') :
    c.Describes a' := by
  have hle := hc.revision
  obtain ⟨hrevision, hview⟩ | hrevision := h.revision
  · refine ⟨by omega, fun heq => ?_, hc.due⟩
    rw [hview]
    exact hc.view (by omega)
  · exact ⟨by omega, fun heq => by omega, hc.due⟩

theorem claimNext_describes (d : DB) (workerID id : ID) (claimExpiresAt now : Time) :
    (claimNext workerID id claimExpiresAt now).Ensures d fun c? d' =>
      ∀ c, c? = some c → ∃ a, d'.assignments.get c.assignmentID = some a ∧ c.Describes a := by
  rw [claimNext, ensures_bind, ensures_require]
  intro _
  rw [ensures_bind, ensures_get]
  split
  · exact fun c hc => by cases hc
  · next a ha =>
    rw [ensures_ite]
    refine ⟨fun _ c hc => (by cases hc), fun hdue => ?_⟩
    split
    · simp only [ensures_bind, ensures_updateAssignment, ensures_pure]
      exact fun c hc => by cases hc
    · simp only [ensures_bind, ensures_updateAssignment, ensures_pure]
      intro c hc
      cases hc
      refine ⟨{ a with reconcileOwner := workerID, reconcileClaimExpiresAt := claimExpiresAt }, ?_,
        Int.le_refl _, fun _ => rfl, ?_⟩
      · rw [Table.get_updateAt_self, ha]
        rfl
      simp only [Bool.not_eq_true', Bool.not_eq_false, DB.due, Bool.and_eq_true, Bool.or_eq_true,
        beq_iff_eq] at hdue
      exact hdue.1.2

end Claims

/-! ## Evidence -/

/-- The step records no failed FenceResult of an Assignment with termination evidence. -/
def Step.SparesProven (w : World) (t : Step) : Prop :=
  ∀ id a, t.FenceFails w id → w.db.assignments.get id = some a → ¬a.Proven

section Evidence
variable {w : World} {t : Step} {F : ID → Prop} {id : ID} {a a' : Assignment}

theorem Move.proven (h : Move w F id a a') (hp : a.Proven) : a'.Proven := by
  cases h with
  | fenceProven state digest hs hd => exact hd
  | _ => exact hp

/-- A worker that sees the evidence waits, advances the generation or gives up. -/
theorem assignmentWorkerDecision_proven {v : AssignmentView} (hs : v.state = .fenced)
    (hp : v.fenceProofDigest ≠ "") (now : Time) :
      assignmentWorkerDecision v now = .advanceGeneration ∨
      assignmentWorkerDecision v now = .failTerminal ∨ assignmentWorkerDecision v now = .wait := by
  have hproof : (v.fenceProofDigest != "") = true := by simpa using hp
  simp only [assignmentWorkerDecision, decideRunnerLoss, hs, hproof]
  cases v.failureClass <;> simp

/-- What a claim that still describes a row with evidence shows of it. -/
theorem Claim.Describes.fenced {c : Claim} (hc : c.Describes a) (hp : a.Proven)
    (hs : a.state.settled = true) (hholds : c.holds a = true) :
    c.view.state = .fenced ∧ c.view.fenceProofDigest ≠ "" := by
  simp only [Claim.holds, Bool.and_eq_true, beq_iff_eq] at hholds
  have hview := hc.view hholds.1.symm
  constructor
  · obtain hclaimable | hfenced := hc.due
    · have hnot : c.view.state.claimable = false := by
        rw [hview]
        exact (AssignmentState.settled_excludes hs).2.1
      rw [hnot] at hclaimable
      cases hclaimable
    · exact hfenced.1
  · rw [hview]
    exact hp

/-- With the evidence recorded, a worker's decision leaves the row settled. -/
theorem Claim.Describes.transition {c : Claim} (hc : c.Describes a) (hp : a.Proven)
    (hs : a.state.settled = true) (hholds : c.holds a = true) {now : Time} {action : Action}
    (haction : action = .wait ∨ action = assignmentWorkerDecision c.view now)
    {fence : Option (ID × FenceCommand)}
    {e : Transition} (he : c.transition action fence = .ok e) : e.state.settled = true := by
  obtain ⟨hfenced, hproof⟩ := hc.fenced hp hs hholds
  have hwait : c.transition .wait fence = .ok e → e.state.settled = true := by
    rintro ⟨⟩
    rw [hfenced]
    rfl
  obtain rfl | rfl := haction
  · exact hwait he
  · obtain hdecision | hdecision | hdecision := assignmentWorkerDecision_proven hfenced hproof now
    · rw [hdecision] at he
      cases he
    · rw [hdecision] at he
      cases he
      rfl
    · rw [hdecision] at he
      exact hwait he

theorem Move.settled (hw : w.Consistent) (ha : w.db.assignments.get id = some a)
    (hF : a.Proven → ¬F id) (h : Move w F id a a') (hp' : a'.Proven) : a'.state.settled = true := by
  have hs := hw.settled id a ha
  have hex := fun hp => AssignmentState.settled_excludes (hs hp)
  have hpending : a.state.pending = true → ¬a.Proven := fun h hp => by simp [h] at hex; exact hex hp
  cases h with
  | keep => exact hs hp'
  | accept h => exact absurd hp' (hpending (by rw [h]; rfl))
  | progress h => exact absurd hp' (hpending h)
  | becomeReady m h => exact absurd hp' (hpending h)
  | fail c now h => exact absurd hp' (hpending h)
  | fenceFailed hf => exact absurd hf (hF hp')
  | fenceProven state digest hst hd =>
    obtain rfl | rfl := hst
    · rfl
    · rfl
  | lose now h =>
    have := (hex hp').2.2.1
    rw [h] at this
    cases this
  | miss now h =>
    have := (hex hp').2.2.1
    rw [h] at this
    cases this
  | claim => exact hs hp'
  | @decide x action fence e next now hx hid hholds haction he =>
    obtain ⟨a₀, ha₀, hdescribes⟩ := hw.claims x hx
    rw [hid] at ha₀
    cases ha.symm.trans ha₀
    exact hdescribes.transition hp' (hs hp') hholds haction he
  | release => rfl
  | restore => rfl

theorem World.mem_step_claims {cfg : WorkerConfig} {x : Work} (hx : x ∈ (w.step cfg t).claims) :
    x ∈ w.claims ∨ ∃ workerID id claimExpiresAt now, t = .claim workerID id claimExpiresAt now ∧
      (claimNext workerID id claimExpiresAt now).answer w.db = .ok (some x.claim) := by
  cases t with
  | claim workerID id claimExpiresAt now =>
    simp only [World.step, perform] at hx
    cases hanswer : (claimNext workerID id claimExpiresAt now).answer w.db with
    | error e =>
      rw [hanswer] at hx
      exact .inl hx
    | ok c? =>
      rw [hanswer] at hx
      cases c? with
      | none => exact .inl hx
      | some c =>
        obtain hx | hx := List.mem_append.1 hx
        · exact .inl hx
        · cases List.mem_singleton.1 hx
          exact .inr ⟨workerID, id, claimExpiresAt, now, rfl, hanswer⟩
  | _ => exact .inl hx

/-- The claims were taken on rows that are still there. -/
def World.Described (w : World) : Prop :=
  ∀ x ∈ w.claims, ∃ a, w.db.assignments.get x.claim.assignmentID = some a ∧ x.claim.Describes a

theorem World.Described.step {cfg : WorkerConfig} (hw : w.Described) :
    (w.step cfg t).Described := by
  intro x hx
  obtain hx | ⟨workerID, id, claimExpiresAt, now, rfl, hanswer⟩ := World.mem_step_claims hx
  · obtain ⟨a, ha, hdescribes⟩ := hw x hx
    obtain ⟨a', ha', hmove⟩ := (step_moves cfg w t).old _ a ha
    exact ⟨a', ha', hdescribes.move hmove⟩
  · rw [World.step_claim_db]
    exact (claimNext_describes w.db workerID id claimExpiresAt now).answer hanswer x.claim rfl

theorem World.Consistent.step (cfg : WorkerConfig) (hw : w.Consistent) (ht : t.SparesProven w) :
    (w.step cfg t).Consistent := by
  have hmoves := step_moves cfg w t
  constructor
  · exact World.Described.step hw.claims
  · intro id a' ha' hp'
    cases ha : w.db.assignments.get id with
    | none =>
      -- a new Assignment has no evidence
      obtain ⟨q, runnerID, r, generation, placementAt, -, -, rfl⟩ := hmoves.new id a' ha ha'
      exact absurd rfl hp'
    | some a =>
      obtain ⟨a'', ha'', hmove⟩ := hmoves.old id a ha
      cases ha'.symm.trans ha''
      exact hmove.settled hw ha (fun hp hf => ht id a hf ha hp) hp'

end Evidence

/-! ## Fence commands -/

/-- The command `k` fences the Assignment. -/
def DB.Fences (d : DB) (id k : ID) : Prop :=
  ∃ c, d.commands.get k = some c ∧ c.assignmentID = id ∧ c.kind.fences = true

section Fences
variable {id k : ID} {d d' : DB}

theorem DB.Evolves.fences (h : d.Evolves d') (hk : d'.Fences id k) : d.Fences id k := by
  obtain ⟨c', hc', hid, hkind⟩ := hk
  cases hc : d.commands.get k with
  | none =>
    have hnew := h.commands.moves.new k c' hc hc'
    rw [show c'.identity.kind = c'.kind from rfl, hkind] at hnew
    cases hnew
  | some c =>
    obtain ⟨c'', hc'', hkeeps⟩ := h.commands.moves.old k c hc
    cases hc'.symm.trans hc''
    simp only [Command.identity, Command.mk.injEq] at hkeeps
    exact ⟨c, hc, hkeeps.2.1.symm.trans hid, by rw [← hkeeps.2.2.1, hkind]⟩

theorem DB.Fences.of_insert {c : Command} {k' : ID} (hc : c.assignmentID ≠ id)
    (hk : { d with commands := d.commands.insertNew k' c }.Fences id k) : d.Fences id k := by
  obtain ⟨c', hc', hid, hkind⟩ := hk
  simp only [Table.get_insertNew] at hc'
  split at hc'
  · next hkey =>
    subst hkey
    cases hget : d.commands.get k with
    | none =>
      rw [hget] at hc'
      cases hc'
      exact absurd hid hc
    | some c₀ =>
      rw [hget] at hc'
      cases hc'
      exact ⟨_, hget, hid, hkind⟩
  · exact ⟨c', hc', hid, hkind⟩

theorem applyDecision_fences {c : Claim} {action : Action} {fence : Option (ID × FenceCommand)}
    {next now : Time} (hfence : action = .fence → c.assignmentID = id →
    ∀ a, d.assignments.get id = some a → ¬c.holds a = true) :
    (applyDecision c action fence next now).Ensures d fun _ d' => ∀ k, d'.Fences id k →
      d.Fences id k := by
  by_cases haction : action = .fence
  · subst haction
    simp only [applyDecision, ensures_bind, ensures_lift, ensures_lockSandboxWorkspace,
      ensures_require, ensures_get, ensures_updateAssignment]
    intro e _ s _ wk _ _ _ hholds
    have hid : c.assignmentID ≠ id := by
      intro hid
      rw [hid] at hholds
      cases ha : d.assignments.get id with
      | none =>
        rw [ha] at hholds
        cases hholds
      | some a =>
        rw [ha] at hholds
        exact hfence rfl hid a ha hholds
    split
    · next k f =>
      simp only [queueFence, insertCommand, ensures_bind, setCommandsWhere, ensures_modify,
        ensures_get, ensures_require]
      intro _ k hk
      have hevolves : d.Evolves { d with
          assignments := d.assignments.updateAt c.assignmentID fun a => a.transition e next now
          commands :=
            d.commands.updateWhere (supersededCommand c.assignmentID (·.ofWorker)) fun c =>
            { c with state := .expired } } :=
              ⟨inferInstance, inferInstance, inferInstance, inferInstance, rfl⟩
      exact hevolves.fences (hk.of_insert hid)
    · contradiction
    · contradiction
    · exact fun k hk => hk
  · exact ((applyDecision_evolves haction).follows d).mono fun _ d' h k hk => h.fences hk

/-- The surroundings queue no fence command for an Assignment with termination evidence. -/
def Step.Quiet (w : World) : Step → Prop
  | surroundings d => ∀ id a, w.db.assignments.get id = some a → a.Proven → ∀ k, d.Fences id k →
    w.db.Fences id k
  | _ => True

/-- No step queues a fence command for an Assignment with termination evidence. -/
theorem step_fences (cfg : WorkerConfig) {w : World} {t : Step} {a : Assignment} (hw : w.Consistent)
    (ha : w.db.assignments.get id = some a) (hp : a.Proven) (hq : t.Quiet w) :
    ∀ k, (w.step cfg t).db.Fences id k → w.db.Fences id k := by
  -- a worker whose claim still holds sees the evidence
  have hdecision : ∀ x ∈ w.claims, ∀ now, assignmentWorkerDecision x.claim.view now = .fence →
      x.claim.assignmentID = id → ∀ a', w.db.assignments.get id = some a' →
      ¬x.claim.holds a' = true := by
    rintro x hx now hfence rfl a' ha' hholds
    cases ha.symm.trans ha'
    obtain ⟨a', ha', hdescribes⟩ := hw.claims x hx
    cases ha.symm.trans ha'
    obtain ⟨hstate, hproof⟩ := hdescribes.fenced hp (hw.settled _ a ha hp) hholds
    obtain h | h | h :=
      assignmentWorkerDecision_proven hstate hproof now <;> rw [h] at hfence <;> cases hfence
  cases t with
  | work k commandID =>
    simp only [World.step, Step.tx]
    split
    · next x hx =>
      refine commit_of_ensures (P := fun d' : DB => ∀ k, d'.Fences id k → w.db.Fences id k) ?_
        fun _ hk => hk
      have hmem := List.mem_of_getElem? hx
      simp only [workClaim]
      split
      · exact (Follows.follows (R := DB.Evolves) w.db).mono fun _ d' h k hk => h.fences hk
      · next hfence => exact applyDecision_fences fun _ => hdecision x hmem x.now hfence
      · exact applyDecision_fences (hdecision x hmem x.now)
    · exact fun _ hk => hk
  | defer k =>
    simp only [World.step, Step.tx]
    split
    · exact commit_of_ensures (applyDecision_fences fun h => by cases h) fun _ hk => hk
    · exact fun _ hk => hk
  | surroundings d => exact hq id a ha hp
  | claim workerID assignmentID claimExpiresAt now =>
    rw [World.step_claim_db]
    exact fun k hk => (Follows.commit (R := DB.Evolves) w.db).fences hk
  | record | register | heartbeat | disconnect | schedule =>
    intro k hk
    simp only [World.step, Step.tx] at hk
    exact (Follows.commit (R := DB.Evolves) w.db).fences hk
  | expire cutoff now => exact fun _ hk => hk
  | fenceGeneration sandboxID generation now => exact fun _ hk => hk

end Fences

/-! ## Finality -/

/-- Between the two states the Assignment stayed stopped: its evidence is kept,
    its Instance may not run, and no fence command was queued for it. -/
structure World.StaysStopped (w w' : World) (id : ID) : Prop where
  evidence : ∃ a, w'.db.assignments.get id = some a ∧ a.Proven ∧ a.state.mayRun = false
  commands : ∀ k, w'.db.Fences id k → w.db.Fences id k

/-- In every continuation, an Assignment with termination evidence stays stopped. -/
def EvidenceFinal (cfg : WorkerConfig) (w : World) (ts : List Step) : Prop :=
  ∀ us vs ws, ts = us ++ vs ++ ws → ∀ id a, (after (World.step cfg) w us).db.assignments.get id =
    some a →
    a.Proven → (after (World.step cfg) w us).StaysStopped (after (World.step cfg) w (us ++ vs)) id

section Final
variable {cfg : WorkerConfig} {w : World} {ts : List Step}

/-- What the history of a good run keeps. -/
theorem World.Consistent.stays (hw : w.Consistent) {id : ID} {a : Assignment}
    (ha : w.db.assignments.get id = some a) (hp : a.Proven)
    (hq : Along (World.step cfg) Step.Quiet w ts)
    (hs : Along (World.step cfg) Step.SparesProven w ts) :
    w.StaysStopped (after (World.step cfg) w ts) id := by
  induction ts generalizing w a with
  | nil =>
    exact ⟨⟨a, ha, hp, (AssignmentState.settled_excludes (hw.settled id a ha hp)).1⟩, fun _ h => h⟩
  | cons t ts ih =>
    obtain ⟨a', ha', hmove⟩ := (step_moves cfg w t).old id a ha
    have hrest := ih (hw.step cfg hs.1) ha' (hmove.proven hp) hq.2 hs.2
    exact ⟨hrest.evidence, fun k hk => step_fences cfg hw ha hp hq.1 k (hrest.commands k hk)⟩

/-- What recording a failed FenceResult does, whatever the Assignment's state. -/
theorem recordFenceEvent_failed {d : DB} {runnerID : ID} {m : FenceResult}
    (hfailed : m.result.succeeded = false) :
    (recordFenceEvent runnerID m).Ensures d fun _ d' =>
      d'.assignments = d.assignments.updateAt m.fence.assignmentID (·.fenceFailed) := by
  rw [recordFenceEvent, ensures_bind, ensures_get]
  split
  · simp only [acknowledgeRedundantFenceResult, hfailed, Bool.false_and, Bool.false_eq_true,
      if_false, ensures_bind, ensures_get, ensures_pure, ensures_require]
    exact fun h => by cases h
  · exact ensures_throw _
  · simp only [ensures_bind, ensures_validateOperationCorrelation, hfailed]
    exact fun _ => rfl

/-- A failed FenceResult makes the Assignment uncertain, with or without evidence. -/
theorem step_fenceFails {t : Step} {id : ID} {a : Assignment} (hf : t.FenceFails w id)
    (ha : w.db.assignments.get id = some a) :
    (w.step cfg t).db.assignments.get id = some a.fenceFailed := by
  obtain ⟨m, ⟨r, rfl, hm, hnew, hc⟩, rfl, hfailed⟩ := hf
  have hensures : (recordEvent r).Ensures w.db fun _ d' =>
      d'.assignments = w.db.assignments.updateAt m.fence.assignmentID (·.fenceFailed) := by
    rw [recordEvent, ensures_bind]
    refine ensures_beginOrderedMessage _ _ fun messages connections => ?_
    rw [hnew, hm]
    exact recordFenceEvent_failed hfailed
  obtain ⟨_, hassignments⟩ := hensures.commit hc
  have hget : ((recordEvent r).commit w.db).assignments.get m.fence.assignmentID =
      some a.fenceFailed := by
    rw [hassignments, Table.get_updateAt_self, ha]
    rfl
  exact hget

/-- **Termination evidence is final in a history exactly when no failed
    FenceResult is recorded after it.** -/
theorem evidence_final_iff (cfg : WorkerConfig) (w : World) (hw : w.Consistent) (ts : List Step)
    (hq : Along (World.step cfg) Step.Quiet w ts) :
    EvidenceFinal cfg w ts ↔ Along (World.step cfg) Step.SparesProven w ts := by
  constructor
  · intro h
    rw [along_iff_forall]
    intro us t vs hts id a hf ha hp
    obtain ⟨a', ha', -, hstopped⟩ := (h us [t] vs (by rw [hts]; simp) id a ha hp).evidence
    rw [after_append, after_cons, after_nil, step_fenceFails hf ha] at ha'
    cases ha'
    cases hstopped
  · rintro hs us vs ws rfl id a ha hp
    rw [List.append_assoc, along_append, along_append] at hs hq
    rw [after_append]
    refine World.Consistent.stays ?_ ha hp hq.2.1 hs.2.1
    exact hs.1.invariant (fun w t ht hw => hw.step cfg ht) hw

end Final

/-! A start that timed out is fenced twice: the worker sent a second command when
the first one's deadline passed.  The Runner stopped the Instance for the first
and fails the second. -/

/-- The fence of the Assignment. -/
def lateFence : Fence where
  assignmentID := "assignment"
  sandboxID := "sandbox"
  instanceID := "instance"
  sandboxGeneration := 1
  fencingToken := [7]

/-- Its correlation. -/
def lateCorrelation : Correlation where
  requestID := "request"
  operationID := "operation"
  sandboxID := "sandbox"
  instanceID := "instance"
  sandboxGeneration := 1
  assignmentID := "assignment"
  runnerID := "runner"

/-- An Assignment being fenced. -/
def lateAssignment : Assignment where
  sandboxID := "sandbox"
  instanceID := "instance"
  runnerID := "runner"
  generation := 1
  fencingToken := [7]
  state := .fencing
  failureClass := .startupTimeout

/-- A Sandbox with one Assignment, placed on a Runner last seen at time 0. -/
def placedWorld (a : Assignment) : World where
  db :=
    { sandboxes := Table.empty.insertNew "sandbox"
        { workspaceID := "workspace", state := .starting, desiredState := .running, generation := 1
          currentInstanceID := "instance" }
      workspaces := Table.empty.insertNew "workspace" { sandboxID := "sandbox", homeRunnerID := "runner", generation := 1 }
      instances := Table.empty.insertNew "instance" { sandboxID := "sandbox", generation := 1, state := .starting }
      assignments := Table.empty.insertNew "assignment" a
      commands := Table.empty.insertNew "command"
        { runnerID := "runner", assignmentID := "assignment", kind := .assignment
          payload := .assignment (some lateCorrelation) }
      runners := Table.empty.insertNew "runner" { poolName := "pool", state := .ready }
      connections := Table.empty.insertNew "connection" { runnerID := "runner" } }

/-- Its world. -/
def lateWorld : World := placedWorld lateAssignment

/-- The `sequence`th message of the Runner: a FenceResult. -/
def lateResult (sequence : Int) (messageID : ID) (result : FenceResultKind) (digest : String) :
    Step :=
  .record
    { event :=
        { envelope := { runnerID := "runner", connectionID := "connection", messageID, sequence }
          evidence := .fence
            { fence := lateFence, result, terminationEvidenceDigest := digest, correlation := lateCorrelation } }
      receivedAt := 0 }

/-- It has stopped. -/
def lateStopped : Step := lateResult 1 "first" .stopped "sha256:stopped"

/-- A fence fails, afterwards. -/
def lateFailed : Step := lateResult 2 "second" .failed ""

/-- A worker's configuration. -/
def lateConfig : WorkerConfig := ⟨1000, 60000⟩

theorem placedWorld_consistent {a : Assignment} (h : a.releaseProof = "") :
    (placedWorld a).Consistent := by
  refine ⟨fun x hx => (by cases hx), fun id a' ha hp => ?_⟩
  have ha' : (Table.empty.insertNew "assignment" a).get id = some a' := ha
  rw [Table.get_insertNew] at ha'
  split at ha'
  · cases ha'
    exact absurd h hp
  · cases ha'

/-- The failed FenceResult undoes the recorded evidence's verdict. -/
theorem late_failure_revives : lateWorld.Consistent ∧
    Along (World.step lateConfig) Step.Quiet lateWorld [lateStopped, lateFailed] ∧
    ¬EvidenceFinal lateConfig lateWorld [lateStopped, lateFailed] := by
  refine ⟨placedWorld_consistent rfl, ⟨trivial, trivial, trivial⟩, fun h => ?_⟩
  have hproven : (after (World.step lateConfig) lateWorld [lateStopped]).db.assignments.get
      "assignment" = some (lateAssignment.fenceProven .fenced "sha256:stopped") := by
    decide +kernel
  obtain ⟨⟨a, ha, -, hstopped⟩, -⟩ := h [lateStopped] [lateFailed] [] rfl _ _ hproven (by decide)
  have huncertain : (after (World.step lateConfig) lateWorld [lateStopped,
      lateFailed]).db.assignments.get "assignment" =
      some (lateAssignment.fenceProven .fenced "sha256:stopped").fenceFailed := by
    decide +kernel
  rw [List.singleton_append, huncertain] at ha
  cases ha
  cases hstopped

/-- The Runner repeats its FenceResult, and is lost. -/
def lateRepeated : List Step :=
  [lateStopped, lateResult 2 "second" .stopped "sha256:stopped", .expire 5 10]

/-- Without a failed FenceResult the evidence stands. -/
theorem evidence_final_stopped : EvidenceFinal lateConfig lateWorld lateRepeated := by
  refine (evidence_final_iff lateConfig lateWorld (placedWorld_consistent rfl) lateRepeated
    ⟨trivial, trivial, trivial, trivial⟩).2
    ⟨?_, ?_, ?_, trivial⟩
  · rintro id a ⟨m, ⟨r, hr, hm, -, -⟩, -, hfailed⟩
    cases hr
    cases hm
    cases hfailed
  · rintro id a ⟨m, ⟨r, hr, hm, -, -⟩, -, hfailed⟩
    cases hr
    cases hm
    cases hfailed
  · rintro id a ⟨m, ⟨r, hr, -⟩, -⟩
    cases hr

end SecondBox.Fleet

/-
  What a step may do to an Assignment.

  `Move` lists the changes of one row with the guards of the transactions that
  make them; `step_moves` says that every step makes one of them.  Invariants of
  Assignments are read off this list.
-/
import SecondBox.Fleet.Evolution

set_option synthInstance.maxSize 65536

namespace SecondBox.Fleet

open Relational Relational.Tx

/-! ## Transactions that write no Assignment -/

section Frames

/-- An update of other tables. -/
instance framesModify {sb : DB → Table ID Sandbox} {ws : DB → Table ID Workspace}
    {is : DB → Table ID Instance} {cm : DB → Table ID Command} {ef : DB → Table ID Effect}
    {op : DB → Table ID Operation}
    {rn : DB → Table ID Runner} {pl : DB → Table ID Pool} {rv : DB → Table ID ProfileRevision}
    {cn : DB → Table ID Connection} {ms : DB → Table (ID × ID) Int}
    {te : DB → Table ID TerminalEvent} :
    Frames DB.assignments (modify fun d => DB.mk (sb d) (ws d) (is d) d.assignments (cm d) (ef d) (op d) (rn d)
      (pl d) (rv d) (cn d) (ms d) (te d) : Tx PUnit) :=
  Frames.modify fun _ => rfl

instance (id : ID) (c : Command) (context : String) :
    Frames DB.assignments (insertCommand id c context) := by
  unfold insertCommand
  infer_instance

instance (c : Claim) (id : ID) (f : FenceCommand) : Frames DB.assignments (queueFence c id f) := by
  unfold queueFence
  infer_instance

end Frames

/-! ## Reads and writes -/

section Rules
variable {d : DB}

@[simp] theorem ensures_row {κ ρ : Type} [DecidableEq κ] (t : DB → Table κ ρ) (k : κ)
    (context : String) {Q : ρ → DB → Prop} : (row t k context).Ensures d Q ↔
    ∀ r, (t d).get k = some r → Q r d := by
  simp [row]

@[simp] theorem ensures_lockSandboxWorkspace (sandboxID : ID) (context : String)
    {Q : Sandbox × Workspace → DB → Prop} :
    (lockSandboxWorkspace sandboxID context).Ensures d Q ↔
      ∀ s, d.sandboxes.get sandboxID = some s → ∀ w, d.workspaces.get s.workspaceID = some w →
        w.sandboxID = sandboxID → Q (s, w) d := by
  simp [lockSandboxWorkspace]

variable {Q : Unit → DB → Prop}

@[simp] theorem ensures_updateAssignment (id : ID) (f : Assignment → Assignment) :
    (updateAssignment id f).Ensures d Q ↔
      Q () { d with assignments := d.assignments.updateAt id f } := Iff.rfl

@[simp] theorem ensures_assignmentEvidenceState (id : ID) {Q : AssignmentState → DB → Prop} :
    (assignmentEvidenceState id).Ensures d Q ↔ ∀ a, d.assignments.get id = some a →
      Q a.state d := by
  simp [assignmentEvidenceState]

@[simp] theorem ensures_validateAssignmentEvidenceState (id : ID)
    (allowed : AssignmentState → Bool) :
    (validateAssignmentEvidenceState id allowed).Ensures d Q ↔
      ∀ a, d.assignments.get id = some a → allowed a.state = true → Q () d := by
  simp [validateAssignmentEvidenceState]

@[simp] theorem ensures_validateOperationCorrelation (runnerID : ID) (f : Fence) (c : Correlation) :
    (validateOperationCorrelation runnerID f c).Ensures d Q ↔
      (c.matches runnerID f = true → Q () d) := by
  simp [validateOperationCorrelation]

/-- The Assignment belongs to the current Instance of its Sandbox. -/
def DB.Current (d : DB) (a : Assignment) : Prop :=
  ∃ s, d.sandboxes.get a.sandboxID = some s ∧ s.generation = a.generation ∧
    s.currentInstanceID = a.instanceID

/-- The fence is valid: it names an Assignment of the Runner that is current. -/
structure DB.Fenced (d : DB) (runnerID : ID) (f : Fence) (a : Assignment) : Prop where
  get : d.assignments.get f.assignmentID = some a
  names : f.names runnerID a = true
  current : d.Current a

theorem ensures_lockAndValidateFence {runnerID : ID} {f : Fence}
    (h : ∀ a, d.Fenced runnerID f a → Q () d) : (lockAndValidateFence runnerID f).Ensures d Q := by
  simp only [lockAndValidateFence, ensures_bind, ensures_require, ensures_lockSandboxWorkspace,
    ensures_row]
  intro _ s hs w _ _ hcurrent a ha hnames
  refine h a ⟨ha, hnames, s, ?_, ?_⟩
  · simp only [Fence.names, Bool.and_eq_true, beq_iff_eq] at hnames
    rw [hnames.1.1.1.1, hs]
  · simp only [Fence.names, Fence.current, Bool.and_eq_true, beq_iff_eq] at hnames hcurrent
    exact ⟨hcurrent.1.trans hnames.1.2.symm, hcurrent.2.trans hnames.1.1.1.2.symm⟩

/-- Ordering messages writes nothing but messages and connections. -/
theorem ensures_beginOrderedMessage (v : Envelope) (sandboxIDs : List ID) {Q : Bool → DB → Prop}
    (h : ∀ messages connections,
      Q (d.messages.get (v.connectionID, v.messageID)).isSome { d with messages, connections }) :
    (beginOrderedMessage v sandboxIDs).Ensures d Q := by
  simp only [beginOrderedMessage, lockSandboxQuotas, ensures_bind, ensures_require, ensures_get,
    ensures_row, ensures_ite]
  intro _ _ c _ _
  constructor
  · intro hseen
    have hQ := h d.messages d.connections
    rwa [hseen] at hQ
  · intro hnew _
    simp only [Bool.not_eq_true] at hnew
    rw [hnew] at h
    exact h _ _

/-- Placement selects the home Runner, and only if the capacity is free. -/
theorem ensures_selectHomeRunner (homeRunnerID : ID) (q : ScheduleRequest) {Q : Runner → DB → Prop}
    (h : ∀ r, d.runners.get homeRunnerID = some r → r.fits q.requirements.capacity = true → Q r d) :
    (selectHomeRunner homeRunnerID q).Ensures d Q := by
  simp only [selectHomeRunner, ensures_bind, ensures_get, ensures_expect]
  intro r hr
  obtain ⟨hget, -⟩ := Option.filter_eq_some_iff.1 hr
  split
  · simp only [ensures_bind, ensures_require, ensures_pure]
    intro hcompatible _
    refine h r hget ?_
    rw [Runner.compatible, Bool.and_eq_true] at hcompatible
    exact hcompatible.2
  · exact ensures_throw _

end Rules

/-! ## Moves -/

/-- The step records this evidence: its message is new and its transaction commits. -/
def Step.Records (w : World) (t : Step) (e : Evidence) : Prop :=
  ∃ r, t = .record r ∧ r.event.evidence = e ∧
    w.db.messages.get (r.event.envelope.connectionID, r.event.envelope.messageID) = none ∧
    (recordEvent r).Commits w.db

/-- The step records a failed FenceResult of the Assignment. -/
def Step.FenceFails (w : World) (t : Step) (id : ID) : Prop :=
  ∃ m, t.Records w (.fence m) ∧ m.fence.assignmentID = id ∧ m.result.succeeded = false

/-- The Assignment is the one the step places. -/
def Step.Places (t : Step) (id : ID) (a : Assignment) : Prop :=
  ∃ q runnerID r generation placementAt,
    t = .schedule q placementAt ∧ id = q.assignmentID ∧
    a = q.assignment runnerID r generation placementAt

/-- What a step may do to one Assignment; `F` are the Assignments it records a
    failed FenceResult for. -/
inductive Move (w : World) (F : ID → Prop) (id : ID) (a : Assignment) : Assignment → Prop
  | keep : Move w F id a a
  | accept (h : a.state = .assigned) : Move w F id a a.accept
  | progress (h : a.state.pending) : Move w F id a a.progress
  | becomeReady (m : AssignmentResult) (h : a.state.pending) : Move w F id a (a.becomeReady m)
  | fail (failureClass : FailureClass) (now : Time) (h : a.state.pending) :
      Move w F id a (a.fail failureClass now)
  | fenceFailed (hF : F id) (h : w.db.Current a) : Move w F id a a.fenceFailed
  | fenceProven (state : AssignmentState) (digest : String)
      (hs : state = .fenced ∨ state = .released)
      (hd : digest ≠ "") : Move w F id a (a.fenceProven state digest)
  | lose (now : Time) (h : a.state.placed) : Move w F id a (a.lose now)
  | miss (now : Time) (h : a.state = .ready) : Move w F id a (a.miss now)
  /-- claims are kept in the row, without a new revision -/
  | claim (owner : ID) (expiresAt next : Time) :
    Move w F id a { a with reconcileOwner := owner, reconcileClaimExpiresAt := expiresAt, nextReconcileAt := next }
  | decide {x : Work} {action : Action} {fence : Option (ID × FenceCommand)} {e : Transition}
      (next now : Time)
      (hx : x ∈ w.claims) (hid : x.claim.assignmentID = id) (hholds : x.claim.holds a)
      (haction : action = .wait ∨ action = assignmentWorkerDecision x.claim.view x.now)
      (he : x.claim.transition action fence = .ok e) : Move w F id a (a.transition e next now)
  | release (now : Time) (h : a.state = .fenced) (hproof : a.releaseProof ≠ "") :
      Move w F id a (a.release now)
  | restore (now : Time) (h : a.state ≠ .fenced ∧ a.state ≠ .released) :
      Move w F id a (a.restore now)

section Moves
variable {w : World} {F : ID → Prop} {N : ID → Assignment → Prop} {id : ID} {d : DB}

/-- The Assignments after a step, row by row; `N` are the ones it places. -/
abbrev Moved (w : World) (F : ID → Prop) (N : ID → Assignment → Prop) (d' : DB) : Prop :=
  w.db.assignments.Moves (Move w F) N d'.assignments

theorem Moved.refl : Moved w F N w.db := Table.Moves.refl (fun _ _ => .keep) _

theorem Moved.update {f : Assignment → Assignment}
    (h : ∀ a, w.db.assignments.get id = some a → Move w F id a (f a)) :
    Moved w F N { w.db with assignments := w.db.assignments.updateAt id f } :=
  Table.Moves.updateAt (fun _ _ => .keep) h

theorem Moved.updateWhere {p : ID → Assignment → Bool} {f : Assignment → Assignment} {d' : DB}
    (hd : d'.assignments = w.db.assignments.updateWhere p f)
    (h : ∀ k a, p k a = true → Move w F k a (f a)) :
    Moved w F N d' := by
  rw [Moved, hd]
  exact Table.Moves.updateWhere (fun _ _ => .keep) fun k a _ hp => h k a hp

/-- What a transaction that leaves Assignments alone does after a move. -/
theorem Moved.frame {α : Type} {m : Tx α} [Frames DB.assignments m] (h : Moved w F N d) :
    m.Ensures d fun _ d' => Moved w F N d' :=
  Frames.ensures (Q := fun A => w.db.assignments.Moves (Move w F) N A) h

theorem failAssignment_moves {f : Fence} {c : FailureClass} {now : Time} {a : Assignment}
    (ha : w.db.assignments.get f.assignmentID = some a) (h : a.state.pending = true) :
    (failAssignment f c now).Ensures w.db fun _ d' => Moved w F N d' := by
  simp only [failAssignment, ensures_bind, ensures_updateAssignment]
  refine (Moved.frame (w := w) (F := F) (N := N) (m := wakeSandboxLifecycle f) ?_).mono fun _ d'
    h' => h'.frame
  refine Moved.update fun a' ha' => ?_
  cases ha.symm.trans ha'
  exact .fail c now h

variable (runnerID : ID) (cfg : WorkerConfig)

theorem recordAssignmentAck_moves (m : AssignmentAck) (now : Time) :
    (recordAssignmentAck runnerID m now).Ensures w.db fun _ d' => Moved w F N d' := by
  rw [recordAssignmentAck, ensures_bind]
  refine ensures_lockAndValidateFence fun a hf => ?_
  simp only [ensures_bind, ensures_assignmentEvidenceState]
  intro a' ha'
  cases hf.get.symm.trans ha'
  rw [ensures_ite]
  refine ⟨fun _ => Moved.refl, fun _ => ?_⟩
  simp only [ensures_bind, ensures_validateAssignmentEvidenceState]
  intro a' ha' hs
  cases hf.get.symm.trans ha'
  rw [beq_iff_eq] at hs
  rw [ensures_ite]
  refine ⟨fun _ => ?_, fun _ => failAssignment_moves ha' (by rw [hs]; rfl)⟩
  refine Moved.update fun a' ha'' => ?_
  cases ha'.symm.trans ha''
  exact .accept hs

theorem recordAssignmentProgress_moves (m : AssignmentProgress) :
    (recordAssignmentProgress runnerID m).Ensures w.db fun _ d' => Moved w F N d' := by
  rw [recordAssignmentProgress, ensures_bind]
  refine ensures_lockAndValidateFence fun a hf => ?_
  simp only [ensures_bind, ensures_validateOperationCorrelation, ensures_assignmentEvidenceState]
  intro _ a' ha'
  rw [ensures_ite]
  refine ⟨fun _ => Moved.refl, fun _ => ?_⟩
  simp only [ensures_bind, ensures_validateAssignmentEvidenceState]
  intro a' ha' hs
  refine Moved.update fun a'' ha'' => ?_
  cases ha'.symm.trans ha''
  exact .progress hs

theorem ensures_checkImage (m : AssignmentResult) {Q : Unit → DB → Prop} (h : Q () d) :
    m.checkImage.Ensures d Q := by
  rw [AssignmentResult.checkImage, ensures_ite]
  simp [h]

theorem recordReadyResult_moves {runnerID : ID} {m : AssignmentResult} {a : Assignment}
    (ha : w.db.assignments.get m.fence.assignmentID = some a) (h : a.state.pending = true) :
    (recordReadyResult runnerID m).Ensures w.db fun _ d' => Moved w F N d' := by
  rw [recordReadyResult, ensures_bind, ensures_require]
  intro _
  rw [ensures_bind]
  refine ensures_checkImage m ?_
  rw [ensures_bind, ensures_updateAssignment]
  refine Moved.frame (Moved.update fun a' ha' => ?_)
  cases ha.symm.trans ha'
  exact .becomeReady m h

theorem recordAssignmentResult_moves (m : AssignmentResult) (now : Time) :
    (recordAssignmentResult runnerID m now).Ensures w.db fun _ d' => Moved w F N d' := by
  rw [recordAssignmentResult, ensures_bind]
  refine ensures_lockAndValidateFence fun a hf => ?_
  simp only [ensures_bind, ensures_validateOperationCorrelation, ensures_assignmentEvidenceState]
  intro _ a' ha'
  rw [ensures_ite]
  refine ⟨fun _ => Moved.frame Moved.refl, fun _ => ?_⟩
  simp only [ensures_bind, ensures_validateAssignmentEvidenceState]
  intro a' ha' hs
  rw [ensures_ite]
  exact ⟨fun _ => recordReadyResult_moves ha' hs, fun _ => failAssignment_moves ha' hs⟩

theorem recordFenceProof_moves (m : FenceResult) :
    (recordFenceProof runnerID m).Ensures w.db fun _ d' => Moved w F N d' := by
  rw [recordFenceProof, ensures_bind, ensures_require]
  intro hd
  have hdigest : m.terminationEvidenceDigest ≠ "" := by simpa using hd
  rw [ensures_bind, ensures_get]
  split
  · next a _ =>
    simp only [ensures_bind, ensures_require, ensures_updateAssignment]
    intro _
    have hmoved : Moved w F N { w.db with
        assignments := w.db.assignments.updateAt m.fence.assignmentID
          (·.fenceProven .released m.terminationEvidenceDigest) } :=
      Moved.update fun _ _ => .fenceProven _ _ (.inr rfl) hdigest
    rw [ensures_modify]
    exact hmoved.frame (d := DB.stopFencedInstance _ _)
  · simp only [ensures_bind, ensures_row, ensures_require, ensures_updateAssignment]
    intro a _ _
    have hmoved : Moved w F N { w.db with
        assignments := w.db.assignments.updateAt m.fence.assignmentID
          (·.fenceProven .fenced m.terminationEvidenceDigest) } :=
      Moved.update fun _ _ => .fenceProven _ _ (.inl rfl) hdigest
    rw [ensures_modify]
    exact hmoved.frame (d := DB.stopFencedInstance _ _)

theorem fenced_of_answer {runnerID : ID} {f : Fence}
    (h : (lockAndValidateFence runnerID f).answer d = .ok ()) :
    ∃ a, d.Fenced runnerID f a :=
  (ensures_lockAndValidateFence (Q := fun _ _ => ∃ a, d.Fenced runnerID f a) fun a ha =>
    ⟨a, ha⟩).answer h

theorem recordFenceEvent_moves (m : FenceResult)
    (hF : m.result.succeeded = false → F m.fence.assignmentID) :
    (recordFenceEvent runnerID m).Ensures w.db fun _ d' => Moved w F N d' := by
  rw [recordFenceEvent, ensures_bind, ensures_get]
  split
  · exact Moved.frame Moved.refl
  · exact ensures_throw _
  · next hok =>
    obtain ⟨a, hf⟩ := fenced_of_answer hok
    simp only [ensures_bind, ensures_validateOperationCorrelation, ensures_ite]
    refine fun _ => ⟨fun _ => recordFenceProof_moves runnerID m, fun hfailed => ?_⟩
    refine Moved.update fun a' ha' => ?_
    cases hf.get.symm.trans ha'
    exact .fenceFailed (hF (by simpa using hfailed)) hf.current

theorem recordDurableEvent_moves (e : Evidence) (now : Time)
    (hF : ∀ m, e = .fence m → m.result.succeeded = false → F m.fence.assignmentID) :
    (recordDurableEvent runnerID e now).Ensures w.db fun _ d' => Moved w F N d' := by
  cases e with
  | ack m => exact recordAssignmentAck_moves runnerID m now
  | progress m => exact recordAssignmentProgress_moves runnerID m
  | result m => exact recordAssignmentResult_moves runnerID m now
  | fence m => exact recordFenceEvent_moves runnerID m (hF m rfl)
  | terminal m => exact Moved.frame (m := recordInstanceTerminal runnerID m) Moved.refl

/-- Moves are the same seen from a state with the same Assignments and Sandboxes. -/
theorem Moved.of_eq (ha : d.assignments = w.db.assignments) (hs : d.sandboxes = w.db.sandboxes)
    {d' : DB} (h : Moved { w with db := d } F N d') : Moved w F N d' := by
  refine ⟨fun k a hk => ?_, fun k a hk => h.new k a (by rw [← hk]; exact congrArg (Table.get · k) ha)⟩
  obtain ⟨a', hk', hmove⟩ := h.old k a (by rw [← hk]; exact congrArg (Table.get · k) ha)
  refine ⟨a', hk', ?_⟩
  cases hmove with
  | keep => exact .keep
  | accept h => exact .accept h
  | progress h => exact .progress h
  | becomeReady m h => exact .becomeReady m h
  | fail c now h => exact .fail c now h
  | fenceFailed hF h =>
    obtain ⟨s, hget, hcurrent⟩ := h
    exact .fenceFailed hF ⟨s, by rw [← hs]; exact hget, hcurrent⟩
  | fenceProven state digest hst hd => exact .fenceProven state digest hst hd
  | lose now h => exact .lose now h
  | miss now h => exact .miss now h
  | claim owner expiresAt next => exact .claim owner expiresAt next
  | decide next now hx hid hholds haction he => exact .decide next now hx hid hholds haction he
  | release now h hproof => exact .release now h hproof
  | restore now h => exact .restore now h

theorem recordEvent_moves (r : EventRecord)
    (hF : ∀ m, r.event.evidence = .fence m → m.result.succeeded = false →
      w.db.messages.get (r.event.envelope.connectionID, r.event.envelope.messageID) = none →
        F m.fence.assignmentID) :
    (recordEvent r).Ensures w.db fun _ d' => Moved w F N d' := by
  rw [recordEvent, ensures_bind]
  refine ensures_beginOrderedMessage _ _ fun messages connections => ?_
  rw [ensures_ite]
  constructor
  · intro _
    have hmoved : Moved w F N { w.db with messages, connections } := Moved.refl (w := w)
    split
    · exact hmoved.frame
    · exact hmoved
  · intro hnew
    refine (recordDurableEvent_moves (w := ⟨{ w.db with messages, connections }, w.claims⟩) (F :=
      F) (N := N) _ _ _
      ?_).mono fun _ d' h => Moved.of_eq (d := { w.db with messages, connections }) rfl rfl h
    intro m hm hfailed
    exact hF m hm hfailed (by simpa using hnew)

theorem reconcileRunnerActiveAssignments_moves (reported : List ActiveAssignment) (now : Time) :
    (reconcileRunnerActiveAssignments runnerID reported now).Ensures w.db fun _ d' =>
      Moved w F N d' := by
  simp only [reconcileRunnerActiveAssignments, ensures_bind, ensures_require, ensures_get,
    ensures_modify]
  intro _ _ _
  refine Moved.updateWhere (p := fun id a => a.readyOn runnerID && (reportsOf reported id).isNone)
    (f := (·.miss now)) rfl ?_
  intro k a hp
  refine .miss now ?_
  simp only [Assignment.readyOn, Bool.and_eq_true, beq_iff_eq] at hp
  exact hp.1.2

theorem recordHeartbeat_moves {m : Heartbeat} {now : Time} :
    (recordHeartbeat m now).Ensures w.db fun _ d' => Moved w F N d' := by
  rw [recordHeartbeat, ensures_bind]
  refine ensures_beginOrderedMessage _ _ fun messages connections => ?_
  rw [ensures_ite]
  refine ⟨fun _ => Moved.refl (w := w), fun _ => ?_⟩
  simp only [ensures_bind, ensures_get, ensures_expect, ensures_require]
  intro r _ _
  refine (reconcileRunnerActiveAssignments_moves (w := ⟨{ w.db with messages, connections }, w.claims⟩)
    (F := F) (N := N) _ _ _).mono fun _ d' h => ?_
  have hmoved := Moved.of_eq (d := { w.db with messages, connections }) rfl rfl h
  exact Moved.frame (m := refreshReadyRunnerCount r.poolName) hmoved

theorem claimNext_moves {workerID id : ID} {claimExpiresAt now : Time} :
    (claimNext workerID id claimExpiresAt now).Ensures w.db fun _ d' => Moved w F N d' := by
  rw [claimNext, ensures_bind, ensures_require]
  intro _
  rw [ensures_bind, ensures_get]
  split
  · exact Moved.refl
  · next a ha =>
    rw [ensures_ite]
    refine ⟨fun _ => Moved.refl, fun _ => ?_⟩
    split
    · simp only [ensures_bind, ensures_updateAssignment, ensures_pure]
      exact Moved.update fun a _ => .claim a.reconcileOwner a.reconcileClaimExpiresAt claimExpiresAt
    · simp only [ensures_bind, ensures_updateAssignment, ensures_pure]
      exact Moved.update fun a _ => .claim workerID claimExpiresAt a.nextReconcileAt

theorem applyDecision_moves {x : Work} (hx : x ∈ w.claims) {action : Action}
    {fence : Option (ID × FenceCommand)} {next now : Time}
    (haction : action = .wait ∨ action = assignmentWorkerDecision x.claim.view x.now) :
    (applyDecision x.claim action fence next now).Ensures w.db fun _ d' => Moved w F N d' := by
  simp only [applyDecision, ensures_bind, ensures_lift, ensures_lockSandboxWorkspace,
    ensures_require, ensures_get, ensures_updateAssignment]
  intro e he s _ wk _ _ _ hholds
  have hmoved : Moved w F N { w.db with
      assignments :=
        w.db.assignments.updateAt x.claim.assignmentID (·.transition e next now) } := by
    refine Moved.update fun a ha => ?_
    refine .decide next now hx rfl ?_ haction he
    rw [ha] at hholds
    exact hholds
  split
  · exact hmoved.frame
  · exact hmoved.frame
  · exact hmoved.frame
  · exact hmoved

theorem advanceFencedGeneration_moves (assignmentID : ID) (expectedRevision : Int) (now : Time) :
    (advanceFencedGeneration assignmentID expectedRevision now).Ensures w.db fun _ d' =>
      Moved w F N d' := by
  simp only [advanceFencedGeneration, ensures_bind, ensures_row, ensures_lockSandboxWorkspace,
    ensures_require]
  intro a ha s _ wk _ _ _ _ hfenced _
  rw [Bool.and_eq_true, beq_iff_eq, bne_iff_ne] at hfenced
  refine (Follows.follows (R := Same DB.assignments) w.db).mono fun _ d' hd' => ?_
  rw [ensures_modify]
  rw [Moved, show (d'.releaseFenced assignmentID a now).assignments =
    w.db.assignments.updateAt assignmentID (·.release now) from
    congrArg (fun t => t.updateAt assignmentID (·.release now)) hd']
  refine Table.Moves.updateAt (fun _ _ => .keep) fun a' ha' => ?_
  cases ha.symm.trans ha'
  exact .release now hfenced.1 hfenced.2

theorem workClaim_moves {x : Work} (hx : x ∈ w.claims) (commandID : ID) :
    (workClaim cfg x.claim commandID x.now).Ensures w.db fun _ d' => Moved w F N d' := by
  simp only [workClaim]
  split
  · exact advanceFencedGeneration_moves ..
  · next h => exact applyDecision_moves hx (.inr h.symm)
  · exact applyDecision_moves hx (.inr rfl)

theorem place_moves {q : ScheduleRequest} {runnerID : ID} {r : Runner} {generation : Int}
    {placementAt : Time} (hN : N q.assignmentID (q.assignment runnerID r generation placementAt)) :
    (place q runnerID r generation placementAt).Ensures w.db fun _ d' => Moved w F N d' := by
  simp only [place, ensures_bind, ensures_modify, ensures_get, ensures_require]
  intro _ _
  refine Moved.frame (m := insertCommand _ _ _) ?_
  exact Table.Moves.insertNew (fun _ _ => .keep) _ hN

theorem schedule_moves {q : ScheduleRequest} {placementAt : Time}
    (hN : ∀ runnerID r generation, N q.assignmentID (q.assignment runnerID r generation placementAt)) :
    (schedule q placementAt).Ensures w.db fun _ d' => Moved w F N d' := by
  simp only [schedule, ensures_bind, ensures_require, ensures_lockSandboxWorkspace, ensures_get]
  intro _ _ _ s _ wk _ _ _ _ _ _
  split
  · exact Moved.refl
  · simp only [ensures_bind, ensures_require]
    intro _ _
    refine ensures_selectHomeRunner _ _ fun r _ _ => ?_
    intro _ _
    exact (place_moves (hN _ _ _)).mono fun _ _ h => h

theorem World.step_claim_db (w : World) (workerID id : ID) (claimExpiresAt now : Time) :
    (w.step cfg (.claim workerID id claimExpiresAt now)).db =
      (claimNext workerID id claimExpiresAt now).commit w.db := by
  simp only [World.step, perform]
  generalize (claimNext workerID id claimExpiresAt now).answer w.db = answer
  match answer with
  | .ok (some _) | .ok none | .error _ => rfl

/-- A step moves every Assignment in one of the ways listed. -/
theorem step_moves (w : World) (t : Step) :
    Moved w (t.FenceFails w) t.Places (w.step cfg t).db := by
  cases t with
  | record r =>
    by_cases hc : (recordEvent r).Commits w.db
    · refine commit_of_ensures (recordEvent_moves r ?_) Moved.refl
      exact fun m hm hfailed hnew => ⟨m, ⟨r, rfl, hm, hnew, hc⟩, rfl, hfailed⟩
    · have hkeep : (w.step cfg (.record r)).db = w.db := commit_of_not_commits hc
      rw [hkeep]
      exact Moved.refl
  | expire cutoff now =>
    refine Moved.updateWhere (p :=
      fun _ a => (w.db.runners.get a.runnerID).any (w.db.expired cutoff a.runnerID) &&
      a.state.placed) (f := (·.lose now)) rfl ?_
    intro k a hp
    refine .lose now ?_
    rw [Bool.and_eq_true] at hp
    exact hp.2
  | register m now =>
    exact commit_of_ensures (Moved.frame (m := recordRegistration m now) Moved.refl) Moved.refl
  | heartbeat m now => exact commit_of_ensures recordHeartbeat_moves Moved.refl
  | disconnect runnerID connectionID =>
    exact commit_of_ensures (Moved.frame (m := closeConnection runnerID connectionID) Moved.refl)
      Moved.refl
  | schedule q placementAt =>
    refine commit_of_ensures ?_ Moved.refl
    refine (ensures_discard _).2 (schedule_moves fun runnerID r generation => ?_)
    exact ⟨q, runnerID, r, generation, placementAt, rfl, rfl, rfl⟩
  | claim workerID id claimExpiresAt now =>
    rw [World.step_claim_db]
    exact commit_of_ensures claimNext_moves Moved.refl
  | work k commandID =>
    simp only [World.step, Step.tx]
    split
    · next x hx => exact commit_of_ensures (workClaim_moves cfg (List.mem_of_getElem? hx) commandID) Moved.refl
    · exact Moved.refl
  | defer k =>
    simp only [World.step, Step.tx]
    split
    · next x hx =>
      exact commit_of_ensures (applyDecision_moves (List.mem_of_getElem? hx) (.inl rfl)) Moved.refl
    · exact Moved.refl
  | fenceGeneration sandboxID generation now =>
    refine Moved.updateWhere (p := fun _ a => a.sandboxID == sandboxID && a.generation ==
      generation && a.state != .fenced && a.state != .released) (f := (·.restore now)) rfl ?_
    intro k a hp
    refine .restore now ?_
    simp only [Bool.and_eq_true, bne_iff_ne] at hp
    exact ⟨hp.1.2, hp.2⟩
  | surroundings d => exact Moved.refl

end Moves

end SecondBox.Fleet

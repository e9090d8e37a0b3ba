/-
  When a Runner's evidence is recorded.

  A Runner that follows the protocol reports the commands it received.  By the
  time its message is recorded, the control plane may have moved on: it fenced
  the Assignment, advanced the generation, or failed the start.  `timely` says
  in which states of the database each kind of evidence is still expected;
  evidence that is not rolls back the transaction, and with it the evidence of
  every other Sandbox in the batch.  Of the evidence that is recorded, only a
  FenceResult rewrites the row of a superseded Assignment (`Evidence.rewrites`).
-/
import SecondBox.Fleet.Moves

set_option synthInstance.maxSize 65536

namespace SecondBox.Fleet

open Relational Relational.Tx History

/-! ## Truthful evidence -/

/-- The correlation, which an ack has none of. -/
def Evidence.correlation : Evidence → Option Correlation
  | ack _ => none
  | progress m => some m.correlation
  | result m => some m.correlation
  | fence m => some m.correlation
  | terminal m => some m.correlation

/-- The image evidence of a result agrees with itself. -/
def AssignmentResult.imageAgrees (m : AssignmentResult) : Bool :=
  if m.requestedImageReference != "" then
    m.resolvedImageDigest.utf8ByteSize == 71 && m.requestedImageReference.endsWith
      ("@" ++ m.resolvedImageDigest)
  else m.resolvedImageDigest == ""

/-- The message carries what its kind must carry about the Instance. -/
def Evidence.complete (i : Instance) : Evidence → Bool
  | ack _ | progress _ => true
  | result m =>
    m.terminal != .ready || m.backendKind != "" && m.backendReference != "" && m.imageAgrees &&
      i.requestedImageReference == m.requestedImageReference
  | fence m => !m.result.succeeded || m.terminationEvidenceDigest != ""
  | terminal m => m.observedAtUnixMs != 0 && hasDigestShape m.terminationEvidenceDigest &&
      (m.terminationEvidenceDigest.toList.drop 7).all isHexDigit && m.reason.reason.isSome

/-- The Runner reports on an Assignment whose command it received. -/
structure Evidence.Truthful (d : DB) (runnerID : ID) (e : Evidence) : Prop where
  fence : e.target.complete = true
  assignment : ∃ a, d.assignments.get e.target.assignmentID = some a ∧
    e.target.names runnerID a = true
  workspace : ∃ s w, d.sandboxes.get e.target.sandboxID = some s ∧ d.workspaces.get s.workspaceID =
    some w ∧ w.sandboxID = e.target.sandboxID
  content : ∃ i, d.instances.get e.target.instanceID = some i ∧ e.complete i = true
  correlation : ∀ c, e.correlation = some c → c.matches runnerID e.target = true

/-! ## Timely evidence -/

/-- The Sandbox still runs the Instance of the fence. -/
def DB.runs (d : DB) (f : Fence) : Bool := (d.sandboxes.get f.sandboxID).any f.current

/-- A repeated acceptance is expected until the start ends; a rejection only at first. -/
def AssignmentAck.timely (m : AssignmentAck) (a : Assignment) : Bool :=
  if m.decision == .accepted then a.state.placed else a.state == .assigned

/-- A result is expected while the start is pending, a ready one while the start
    holds the Workspace; later only the recorded one, again. -/
def AssignmentResult.timely (m : AssignmentResult) (d : DB) (runnerID : ID) (a : Assignment) :
    Bool :=
  a.state.pending && (m.terminal != .ready || (d.startedWorkspace runnerID m).isSome) ||
    a.state == .ready && m.terminal == .ready && (d.instances.get a.instanceID).any (m.repeats a)

/-- The stop holds the Workspace, and its generation advance can be queued or is already. -/
def StopAuthority.takes (x : StopAuthority) (d : DB) (runnerID : ID) (f : Fence) : Bool :=
  x.holds runnerID f &&
    (x.commandKind == .localWorkspace || (d.commands.get (x.effectID ++ "-generation-advance")).isNone)

/-- A proof of termination is expected by a stop or by the Assignment worker. -/
def FenceResult.timely (m : FenceResult) (d : DB) (runnerID : ID) (a : Assignment) : Bool :=
  !m.result.succeeded ||
    match d.stopAuthority m.fence.assignmentID with
    | some x => x.takes d runnerID m.fence
    | none => a.failureClass.fences

/-- The proof of a superseded Assignment is repeated to answer another fence command. -/
def FenceResult.repeatsProof (m : FenceResult) (d : DB) (runnerID : ID) (a : Assignment) : Bool :=
  m.result.succeeded && m.redundant runnerID a &&
    (d.commands.find? fun _ c => m.answers runnerID c).isSome

/-- A termination is expected of a ready Instance; later only the recorded one, again. -/
def InstanceTerminal.timely (m : InstanceTerminal) (d : DB) (runnerID : ID) (a : Assignment) :
    Bool :=
  a.state == .ready &&
    match d.terminals.get m.fence.instanceID with
    | some e => m.reason.reason.any fun reason => e == m.event runnerID reason
    | none => (d.instances.get a.instanceID).any (·.state == .ready)

/-- The evidence is still expected. -/
def Evidence.timely (d : DB) (runnerID : ID) (e : Evidence) : Bool :=
  (d.assignments.get e.target.assignmentID).any fun a =>
    if d.runs e.target then
      match e with
      | .ack m => m.timely a
      | .progress _ => a.state.placed
      | .result m => m.timely d runnerID a
      | .fence m => m.timely d runnerID a
      | .terminal m => m.timely d runnerID a
    else
      match e with
      | .fence m => m.repeatsProof d runnerID a
      | _ => false

/-- The termination of the Assignment is proven. -/
def AssignmentState.terminated : AssignmentState → Bool
  | fenced | released => true
  | _ => false

/-- The Assignment is superseded: its Sandbox has moved on, or its termination is proven. -/
def DB.Superseded (d : DB) (a : Assignment) : Prop := ¬d.Current a ∨ a.state.terminated = true

/-- The evidence rewrites a proven termination: any FenceResult does, as long as the
    Sandbox has not moved on. -/
def Evidence.rewrites (d : DB) : Evidence → Bool
  | fence m => d.runs m.fence && (d.assignments.get m.fence.assignmentID).any (·.state.terminated)
  | ack _ | progress _ | result _ | terminal _ => false

/-! ## Recording one message -/

section Rules
variable {d : DB}

@[simp] theorem succeeds_row {κ ρ : Type} [DecidableEq κ] (t : DB → Table κ ρ) (k : κ)
    (context : String) {Q : ρ → DB → Prop} : (row t k context).Succeeds d Q ↔
    ∃ r, (t d).get k = some r ∧ Q r d := by
  simp [row]

variable {Q : Unit → DB → Prop}

@[simp] theorem succeeds_updateAssignment (id : ID) (f : Assignment → Assignment) :
    (updateAssignment id f).Succeeds d Q ↔
      Q () { d with assignments := d.assignments.updateAt id f } := Iff.rfl

@[simp] theorem succeeds_setCommandsWhere (p : ID → Command → Bool) (state : CommandState) :
    (setCommandsWhere p state).Succeeds d Q ↔
      Q () { d with commands := d.commands.updateWhere p fun c => { c with state } } := Iff.rfl

@[simp] theorem succeeds_assignmentEvidenceState (id : ID) {Q : AssignmentState → DB → Prop} :
    (assignmentEvidenceState id).Succeeds d Q ↔ ∃ a, d.assignments.get id = some a ∧
      Q a.state d := by
  simp [assignmentEvidenceState]

@[simp] theorem succeeds_validateAssignmentEvidenceState (id : ID)
    (allowed : AssignmentState → Bool) :
    (validateAssignmentEvidenceState id allowed).Succeeds d Q ↔
      ∃ a, d.assignments.get id = some a ∧ allowed a.state = true ∧ Q () d := by
  simp [validateAssignmentEvidenceState]

@[simp] theorem succeeds_validateOperationCorrelation (runnerID : ID) (f : Fence)
    (c : Correlation) :
    (validateOperationCorrelation runnerID f c).Succeeds d Q ↔
      c.matches runnerID f = true ∧ Q () d := by
  simp [validateOperationCorrelation]

@[simp] theorem succeeds_checkImage (m : AssignmentResult) :
    m.checkImage.Succeeds d Q ↔ m.imageAgrees = true ∧ Q () d := by
  rw [AssignmentResult.checkImage, AssignmentResult.imageAgrees, succeeds_ite]
  split
  · rw [succeeds_require]
  · rw [succeeds_require]

@[simp] theorem succeeds_wakeSandboxLifecycle (f : Fence) :
    (wakeSandboxLifecycle f).Succeeds d Q ↔ d.runs f = true ∧
      Q () { d with sandboxes := d.sandboxes.updateAt f.sandboxID fun s => { s with reconcileOwner := "" } } := by
  simp [wakeSandboxLifecycle, DB.runs]

end Rules

section Record
variable {d : DB} {runnerID : ID} {e : Evidence} {a : Assignment}

/-- Truthful evidence passes the fence exactly while the Sandbox runs its Instance. -/
theorem Evidence.Truthful.lock (h : e.Truthful d runnerID) {Q : Unit → DB → Prop} :
    (lockAndValidateFence runnerID e.target).Succeeds d Q ↔ d.runs e.target = true ∧ Q () d := by
  obtain ⟨a, ha, hnames⟩ := h.assignment
  obtain ⟨s, w, hs, hw, hworkspace⟩ := h.workspace
  simp [lockAndValidateFence, lockSandboxWorkspace, h.fence, ha, hnames, hs, hw,
    hworkspace, DB.runs]

theorem Evidence.Truthful.stale (h : e.Truthful d runnerID) (hr : d.runs e.target = false) :
    (lockAndValidateFence runnerID e.target).answer d = .error .staleAssignmentEvidence := by
  obtain ⟨s, w, hs, hw, hworkspace⟩ := h.workspace
  have hcurrent : e.target.current s = false := by simpa [DB.runs, hs] using hr
  have hwp : (lockAndValidateFence runnerID e.target).wp d (fun _ _ => False)
      (· = .staleAssignmentEvidence) := by
    simp [lockAndValidateFence, lockSandboxWorkspace, row, h.fence, hs, hw, hworkspace, hcurrent]
  obtain ⟨_, hanswer, rfl⟩ := answer_of_wp hwp
  exact hanswer

variable {now : Time}

theorem failAssignment_succeeds {f : Fence} {c : FailureClass} :
    (failAssignment f c now).Succeeds d (fun _ _ => True) ↔ d.runs f = true := by
  simp [failAssignment, acknowledgeAssignmentCommands, DB.runs]

theorem recordAssignmentAck_succeeds {m : AssignmentAck} (h : (Evidence.ack m).Truthful d runnerID)
    (ha : d.assignments.get m.fence.assignmentID = some a) (hr : d.runs m.fence = true) :
    (recordAssignmentAck runnerID m now).Succeeds d (fun _ _ => True) ↔ m.timely a = true := by
  have hlock := @Evidence.Truthful.lock _ _ _ h
  simp only [Evidence.target] at hlock
  simp only [recordAssignmentAck, succeeds_bind, hlock, hr, true_and,
    succeeds_assignmentEvidenceState, ha, Option.some.injEq, exists_eq_left', succeeds_ite,
    succeeds_pure, succeeds_validateAssignmentEvidenceState, succeeds_updateAssignment,
    failAssignment_succeeds, AssignmentAck.timely]
  cases a.state <;> cases m.decision <;> simp [AssignmentState.placed]

theorem recordAssignmentProgress_succeeds {m : AssignmentProgress}
    (h : (Evidence.progress m).Truthful d runnerID)
    (ha : d.assignments.get m.fence.assignmentID = some a) (hr : d.runs m.fence = true) :
    (recordAssignmentProgress runnerID m).Succeeds d (fun _ _ => True) ↔ a.state.placed = true := by
  have hlock := @Evidence.Truthful.lock _ _ _ h
  have hcorrelation := h.correlation m.correlation rfl
  simp only [Evidence.target] at hlock hcorrelation
  simp only [recordAssignmentProgress, succeeds_bind, hlock, hr, true_and,
    succeeds_validateOperationCorrelation, hcorrelation, succeeds_assignmentEvidenceState, ha,
    Option.some.injEq, exists_eq_left', succeeds_ite, succeeds_pure,
    succeeds_validateAssignmentEvidenceState, succeeds_updateAssignment, and_true]
  cases a.state <;> simp [AssignmentState.placed, AssignmentState.pending]

/-- Announcing readiness cannot fail while the Sandbox runs the Instance. -/
theorem announceReady_succeeds {f : Fence} (hr : d.runs f = true) :
    (announceReady f).Succeeds d (fun _ _ => True) := by
  simp only [announceReady, projectReadySandbox, succeeds_bind, succeeds_get, succeeds_ite]
  split
  · simp
  · simp [hr]

/-- Pinning the image changes nothing a ready result is checked against. -/
theorem pinReadySandboxExecutionImage_eq (d : DB) (runnerID : ID) (m : AssignmentResult) :
    ∃ sandboxes, { d with sandboxes }.runs m.fence = d.runs m.fence ∧
      { d with sandboxes }.startedWorkspace runnerID m = d.startedWorkspace runnerID m ∧
      ∀ Q, (pinReadySandboxExecutionImage m).Succeeds d Q ↔ Q () { d with sandboxes } := by
  have hpin : ((pinReadySandboxExecutionImage m).commit d).sandboxes = d.sandboxes ∨
      ∃ (reference : Sandbox → String) (digest : String),
      ((pinReadySandboxExecutionImage m).commit d).sandboxes =
        d.sandboxes.updateAt m.fence.sandboxID fun s =>
          { s with executionImageReference := reference s, executionImageDigest := digest } := by
    rw [pinReadySandboxExecutionImage]
    split
    · exact .inl rfl
    · exact .inr ⟨fun s => if s.executionImageDigest == m.resolvedImageDigest then s.executionImageReference
        else (((d.operations.get m.correlation.operationID).map (·.executionImageReference)).filter
          (· != "")).getD
          s.executionImageReference, m.resolvedImageDigest, rfl⟩
  refine ⟨((pinReadySandboxExecutionImage m).commit d).sandboxes, ?_, ?_, fun Q => ?_⟩
  · obtain h | ⟨reference, digest, h⟩ := hpin
    · rw [h]
    · simp only [h, DB.runs, Table.get_updateAt_self]
      cases d.sandboxes.get m.fence.sandboxID <;> rfl
  · obtain h | ⟨reference, digest, h⟩ := hpin
    · rw [h]
    · simp only [h, DB.startedWorkspace, Table.get_updateAt_self]
      cases d.sandboxes.get m.fence.sandboxID <;> rfl
  · rw [pinReadySandboxExecutionImage]
    split
    · exact Iff.rfl
    · exact Iff.rfl

theorem recordReadyResult_succeeds {m : AssignmentResult} {i : Instance}
    (hr : d.runs m.fence = true) (hi : d.instances.get m.fence.instanceID = some i)
    (hready : m.terminal = .ready) (hcontent : (Evidence.result m).complete i = true) :
    (recordReadyResult runnerID m).Succeeds d (fun _ _ => True) ↔
      (d.startedWorkspace runnerID m).isSome = true := by
  simp only [Evidence.complete, hready, bne_self_eq_false, Bool.false_or, Bool.and_eq_true,
    beq_iff_eq] at hcontent
  obtain ⟨⟨⟨hkind, hreference⟩, hagrees⟩, hrequested⟩ := hcontent
  simp only [recordReadyResult, succeeds_bind, succeeds_require, hkind, hreference, Bool.and_self,
    true_and, succeeds_checkImage, hagrees, succeeds_updateAssignment, succeeds_get, hi,
    Option.any_some, hrequested, beq_self_eq_true, succeeds_modify]
  obtain ⟨sandboxes, hruns, hstarted, hpin⟩ := pinReadySandboxExecutionImage_eq { d with
    assignments := d.assignments.updateAt m.fence.assignmentID fun a => a.becomeReady m
    instances := d.instances.updateAt m.fence.instanceID fun i =>
      { i with state := .ready, resolvedImageDigest := m.resolvedImageDigest } } runnerID m
  rw [hpin, succeeds_expect, hstarted, Option.isSome_iff_exists]
  refine exists_congr fun workspaceID => and_iff_left ?_
  refine (announceReady_succeeds ?_).mono fun _ _ _ => trivial
  exact hruns.trans hr

theorem recordAssignmentResult_succeeds {m : AssignmentResult}
    (h : (Evidence.result m).Truthful d runnerID)
    (ha : d.assignments.get m.fence.assignmentID = some a) (hr : d.runs m.fence = true) :
    (recordAssignmentResult runnerID m now).Succeeds d (fun _ _ => True) ↔
      m.timely d runnerID a = true := by
  have hlock := @Evidence.Truthful.lock _ _ _ h
  have hcorrelation := h.correlation m.correlation rfl
  obtain ⟨i, hi, hcontent⟩ := h.content
  obtain ⟨a', ha', hnames⟩ := h.assignment
  simp only [Evidence.target] at hlock hcorrelation hi ha' hnames
  cases ha.symm.trans ha'
  have hinstance : a.instanceID = m.fence.instanceID := by
    simp only [Fence.names, Bool.and_eq_true, beq_iff_eq] at hnames
    exact hnames.1.1.1.2
  simp only [recordAssignmentResult, succeeds_bind, hlock, hr, true_and,
    succeeds_validateOperationCorrelation, hcorrelation, succeeds_assignmentEvidenceState, ha,
    Option.some.injEq, exists_eq_left', succeeds_ite, succeeds_validateAssignmentEvidenceState,
    succeeds_require, succeeds_row, failAssignment_succeeds, hinstance, hi, AssignmentResult.timely,
    Option.any_some]
  by_cases hready : m.terminal = .ready
  · have hresult : (recordReadyResult runnerID m).Succeeds d (fun _ _ => True) ↔
        (d.startedWorkspace runnerID m).isSome = true :=
          recordReadyResult_succeeds hr hi hready hcontent
    simp only [Evidence.complete, hready, bne_self_eq_false, Bool.false_or, Bool.and_eq_true,
      beq_iff_eq] at hcontent
    simp only [hready, hresult, hcontent.1.1.1, hcontent.1.1.2]
    cases a.state <;> simp [AssignmentState.pending, acknowledgeAssignmentCommands]
  · cases a.state <;> simp [AssignmentState.pending, hready]

theorem insertCommand_succeeds {k : ID} {c : Command} {context : String} {Q : Unit → DB → Prop} :
    (insertCommand k c context).Succeeds d Q ↔
      (d.commands.get k).isNone = true ∧ Q () { d with commands := d.commands.insertNew k c } := by
  simp [insertCommand]

variable {m : FenceResult}

theorem acknowledgeMatchingFenceCommand_succeeds {Q : Bool → Prop} :
    (acknowledgeMatchingFenceCommand runnerID m).Succeeds d (fun b _ => Q b) ↔
      Q (d.commands.find? fun _ c => m.answers runnerID c).isSome := by
  simp only [acknowledgeMatchingFenceCommand, succeeds_bind, succeeds_get]
  split
  · next h => simp [h]
  · next h => simp [h]

theorem recordFenceProof_succeeds (ha : d.assignments.get m.fence.assignmentID = some a)
    (hsucceeded : m.result.succeeded = true) (hdigest : m.terminationEvidenceDigest ≠ "") :
    (recordFenceProof runnerID m).Succeeds d (fun _ _ => True) ↔ m.timely d runnerID a = true := by
  have hdigest' : (m.terminationEvidenceDigest != "") = true := by simpa using hdigest
  simp only [recordFenceProof, FenceResult.timely, hsucceeded, hdigest', succeeds_bind,
    succeeds_require, succeeds_get, true_and, Bool.not_true, Bool.false_or]
  cases d.stopAuthority m.fence.assignmentID with
  | none =>
    simp only [succeeds_bind, succeeds_row, ha, Option.some.injEq, exists_eq_left',
      succeeds_require, succeeds_updateAssignment, succeeds_modify, succeeds_discard,
      acknowledgeMatchingFenceCommand_succeeds (Q := fun _ => True)]
    cases a.failureClass <;> simp [FailureClass.fences]
  | some x =>
    simp only [succeeds_bind, succeeds_require, succeeds_updateAssignment, succeeds_modify,
      succeeds_ite, succeeds_pure, queueGenerationAdvance, succeeds_setCommandsWhere,
      insertCommand_succeeds, StopAuthority.takes, DB.stopFencedInstance]
    by_cases hkind : x.commandKind = .localWorkspace
    · simp [hkind]
    · simp [hkind]

theorem recordFenceEvent_succeeds (h : (Evidence.fence m).Truthful d runnerID)
    (ha : d.assignments.get m.fence.assignmentID = some a) :
    (recordFenceEvent runnerID m).Succeeds d (fun _ _ => True) ↔
      (if d.runs m.fence then m.timely d runnerID a else m.repeatsProof d runnerID a) = true := by
  have hlock := @Evidence.Truthful.lock _ _ _ h
  have hcorrelation := h.correlation m.correlation rfl
  obtain ⟨i, -, hcontent⟩ := h.content
  simp only [Evidence.target] at hlock hcorrelation
  rw [recordFenceEvent, succeeds_bind, succeeds_get]
  by_cases hr : d.runs m.fence = true
  · have hanswer : (lockAndValidateFence runnerID m.fence).answer d = .ok () := by
      obtain ⟨⟨⟩, hok⟩ := (commits_iff_succeeds.2 (hlock.2 ⟨hr, trivial⟩)).answer
      exact hok
    rw [hanswer, if_pos hr]
    simp only [succeeds_bind, succeeds_validateOperationCorrelation, hcorrelation,
      true_and, succeeds_ite]
    cases hsucceeded : m.result.succeeded with
    | true =>
      simp only [Evidence.complete, hsucceeded, Bool.not_true, Bool.false_or,
        bne_iff_ne] at hcontent
      rw [if_pos rfl, recordFenceProof_succeeds ha hsucceeded hcontent]
    | false => simp [FenceResult.timely, hsucceeded]
  · have hstale := h.stale (Bool.eq_false_iff.2 hr)
    simp only [Evidence.target] at hstale
    rw [hstale, if_neg hr, succeeds_bind]
    simp only [acknowledgeRedundantFenceResult, succeeds_bind, succeeds_get, ha, Option.any_some,
      succeeds_ite, succeeds_pure, succeeds_require, and_true,
      acknowledgeMatchingFenceCommand_succeeds (Q := (· = true)), FenceResult.repeatsProof]
    cases hsucceeded : m.result.succeeded with
    | true =>
      simp only [Evidence.complete, hsucceeded, Bool.not_true, Bool.false_or] at hcontent
      cases m.redundant runnerID a <;> simp [hcontent]
    | false => simp

theorem recordInstanceTerminal_succeeds {m : InstanceTerminal}
    (h : (Evidence.terminal m).Truthful d runnerID)
    (ha : d.assignments.get m.fence.assignmentID = some a) (hr : d.runs m.fence = true) :
    (recordInstanceTerminal runnerID m).Succeeds d (fun _ _ => True) ↔
      m.timely d runnerID a = true := by
  have hlock := @Evidence.Truthful.lock _ _ _ h
  have hcorrelation := h.correlation m.correlation rfl
  obtain ⟨i, hi, hcontent⟩ := h.content
  obtain ⟨s, w, hs, hw, hworkspace⟩ := h.workspace
  obtain ⟨a', ha', hnames⟩ := h.assignment
  simp only [Evidence.target] at hlock hcorrelation hi hs hw hworkspace ha' hnames
  cases ha.symm.trans ha'
  simp only [Fence.names, Bool.and_eq_true, beq_iff_eq] at hnames
  obtain ⟨⟨⟨⟨hsandbox, hinstance⟩, -⟩, -⟩, -⟩ := hnames
  simp only [Evidence.complete, Bool.and_eq_true] at hcontent
  obtain ⟨⟨⟨hobserved, hshape⟩, hhex⟩, hreason⟩ := hcontent
  obtain ⟨reason, hreason⟩ := Option.isSome_iff_exists.1 hreason
  have hcurrent : m.fence.current s = true := by simpa [DB.runs, hs] using hr
  simp only [recordInstanceTerminal, succeeds_bind, succeeds_require, hobserved, hshape, hhex,
    hreason, succeeds_expect, Bool.and_self, true_and, Option.some.injEq, exists_eq_left', hlock,
    hr, succeeds_validateOperationCorrelation, hcorrelation, succeeds_row, ha, hinstance,
    hi, hsandbox, hs, hcurrent, Bool.and_true, succeeds_get, InstanceTerminal.timely,
    Option.any_some]
  cases d.terminals.get m.fence.instanceID with
  | none => simp [recordTermination, insertTerminal]
  | some e => simp [recordTermination]

/-- **Truthful evidence is recorded exactly when it is timely.** -/
theorem recordDurableEvent_commits_iff (h : e.Truthful d runnerID) (now : Time) :
    (recordDurableEvent runnerID e now).Commits d ↔ e.timely d runnerID = true := by
  obtain ⟨a, ha, -⟩ := h.assignment
  rw [commits_iff_succeeds, Evidence.timely, ha, Option.any_some]
  have hlock := @Evidence.Truthful.lock _ _ _ h
  cases e with
  | fence m => exact recordFenceEvent_succeeds h ha
  | ack m =>
    split
    · next hr => exact recordAssignmentAck_succeeds h ha hr
    · next hr =>
      simp only [Evidence.target] at hlock hr
      simp [recordDurableEvent, recordAssignmentAck, hlock, hr]
  | progress m =>
    split
    · next hr => exact recordAssignmentProgress_succeeds h ha hr
    · next hr =>
      simp only [Evidence.target] at hlock hr
      simp [recordDurableEvent, recordAssignmentProgress, hlock, hr]
  | result m =>
    split
    · next hr => exact recordAssignmentResult_succeeds h ha hr
    · next hr =>
      simp only [Evidence.target] at hlock hr
      simp [recordDurableEvent, recordAssignmentResult, hlock, hr]
  | terminal m =>
    split
    · next hr => exact recordInstanceTerminal_succeeds h ha hr
    · next hr =>
      simp only [Evidence.target] at hlock hr
      simp [recordDurableEvent, recordInstanceTerminal, hlock, hr]

/-! The row of the Assignment is the only one a message writes. -/

/-- The Assignments other than `id`. -/
def DB.otherAssignments (id : ID) (d : DB) (k : ID) : Option Assignment :=
  if k = id then none else d.assignments.get k

instance (id : ID) : Lenient (Same (DB.otherAssignments id)) :=
  { of_evolves := fun _ h => by
      funext k
      simp only [DB.otherAssignments, h] }

instance (id : ID) (f : Assignment → Assignment) :
    Frames (DB.otherAssignments id) (updateAssignment id f) := by
  refine Frames.modify fun d => funext fun k => ?_
  rw [DB.otherAssignments, DB.otherAssignments]
  split
  · rfl
  · next hk => exact Table.get_updateAt_of_ne _ _ hk

instance (f : Fence) (c : FailureClass) (now : Time) :
    Frames (DB.otherAssignments f.assignmentID) (failAssignment f c now) := by
  unfold failAssignment
  infer_instance

instance (runnerID : ID) (m : AssignmentResult) :
    Frames (DB.otherAssignments m.fence.assignmentID) (recordReadyResult runnerID m) := by
  unfold recordReadyResult AssignmentResult.checkImage
  infer_instance

instance (runnerID : ID) (m : FenceResult) :
    Frames (DB.otherAssignments m.fence.assignmentID) (recordFenceEvent runnerID m) := by
  unfold recordFenceEvent recordFenceProof
  refine Follows.seq fun d => ?_
  split
  · infer_instance
  · infer_instance
  · refine Follows.seq fun _ => ?_
    split
    · refine Follows.seq fun _ => Follows.seq fun d => ?_
      split <;> infer_instance
    · infer_instance

instance (runnerID : ID) (e : Evidence) (now : Time) :
    Frames (DB.otherAssignments e.target.assignmentID) (recordDurableEvent runnerID e now) := by
  unfold recordDurableEvent recordAssignmentAck recordAssignmentProgress recordAssignmentResult
    validateAssignmentEvidenceState assignmentEvidenceState
  cases e <;> simp only [Evidence.target] <;> infer_instance

/-- A FenceResult of the current Instance always writes the row. -/
theorem recordFenceEvent_revises {m : FenceResult} (h : (Evidence.fence m).Truthful d runnerID)
    (ha : d.assignments.get m.fence.assignmentID = some a) (hr : d.runs m.fence = true) :
    (recordFenceEvent runnerID m).Ensures d fun _ d' =>
      (d'.assignments.get m.fence.assignmentID).map (·.revision) = some (a.revision + 1) := by
  have hlock := @Evidence.Truthful.lock _ _ _ h
  simp only [Evidence.target] at hlock
  let revised (t : Table ID Assignment) :=
    (t.get m.fence.assignmentID).map (·.revision) = some (a.revision + 1)
  have hupdate : ∀ f : Assignment → Assignment, (∀ a, (f a).revision = a.revision + 1) →
      revised (d.assignments.updateAt m.fence.assignmentID f) := by
    intro f hf
    simp only [revised, Table.get_updateAt_self, ha, Option.map_some, hf]
  obtain ⟨⟨⟩, hok⟩ := (commits_iff_succeeds.2 (hlock.2 ⟨hr, trivial⟩)).answer
  rw [recordFenceEvent, ensures_bind, ensures_get, hok]
  simp only [ensures_bind, ensures_validateOperationCorrelation, ensures_ite,
    ensures_updateAssignment]
  refine fun _ => ⟨fun _ => ?_, fun _ => hupdate _ fun _ => rfl⟩
  simp only [recordFenceProof, ensures_bind, ensures_require, ensures_get]
  intro _
  split
  · simp only [ensures_bind, ensures_require, ensures_updateAssignment, ensures_modify]
    exact fun _ => Frames.ensures (π := DB.assignments) (Q := revised) (hupdate _ fun _ => rfl)
  · simp only [ensures_bind, ensures_row, ensures_require, ensures_updateAssignment, ensures_modify]
    exact fun _ _ _ => Frames.ensures (π := DB.assignments) (Q := revised) (hupdate _ fun _ => rfl)

/-- A FenceResult of a superseded Instance writes no row. -/
theorem recordFenceEvent_frames {m : FenceResult} (h : (Evidence.fence m).Truthful d runnerID)
    (hr : d.runs m.fence = false) :
    (recordFenceEvent runnerID m).Ensures d fun _ d' => d'.assignments = d.assignments := by
  have hstale := h.stale hr
  simp only [Evidence.target] at hstale
  rw [recordFenceEvent, ensures_bind, ensures_get, hstale]
  exact Frames.ensures (π := DB.assignments) (Q := (· = d.assignments)) rfl

/-- The fence of truthful evidence is current exactly while its Assignment is. -/
theorem Evidence.Truthful.runs_iff (h : e.Truthful d runnerID)
    (ha : d.assignments.get e.target.assignmentID = some a) : d.runs e.target = true ↔
    d.Current a := by
  obtain ⟨a', ha', hnames⟩ := h.assignment
  cases ha.symm.trans ha'
  simp only [Fence.names, Bool.and_eq_true, beq_iff_eq] at hnames
  obtain ⟨⟨⟨⟨hsandbox, hinstance⟩, -⟩, hgeneration⟩, -⟩ := hnames
  simp only [DB.runs, DB.Current, Option.any_eq_true, Fence.current, Bool.and_eq_true, beq_iff_eq,
    hsandbox, hinstance, hgeneration]

/-- Of a superseded Assignment only FenceResults are recorded. -/
theorem Evidence.Truthful.fence_of_superseded (h : e.Truthful d runnerID)
    (ha : d.assignments.get e.target.assignmentID = some a) (hs : d.Superseded a)
    (ht : e.timely d runnerID = true) :
    ∃ m, e = .fence m := by
  rw [Evidence.timely, ha, Option.any_some] at ht
  obtain hcurrent | hterminated := hs
  · rw [if_neg (mt (h.runs_iff ha).1 hcurrent)] at ht
    cases e with
    | fence m => exact ⟨m, rfl⟩
    | ack m | progress m | result m | terminal m => cases ht
  · -- the other kinds of evidence are expected while the start is open or the Instance ready
    have hstate : a.state = .fenced ∨ a.state = .released := by
      revert hterminated
      cases a.state <;> decide
    cases e with
    | fence m => exact ⟨m, rfl⟩
    | ack m | progress m | result m | terminal m =>
      obtain hstate | hstate := hstate <;>
        simp [hstate, AssignmentAck.timely, AssignmentResult.timely, InstanceTerminal.timely,
          AssignmentState.placed, AssignmentState.pending] at ht

/-- **Evidence that is recorded leaves the rows of superseded Assignments alone
    exactly if it rewrites no proven termination.** -/
theorem recordDurableEvent_spares_iff (h : e.Truthful d runnerID) (ht : e.timely d runnerID = true)
    (now : Time) :
    (∀ id a, d.assignments.get id = some a → d.Superseded a →
      ((recordDurableEvent runnerID e now).commit d).assignments.get id = some a) ↔
        e.rewrites d = false := by
  have hcommits := (recordDurableEvent_commits_iff h now).2 ht
  constructor
  · intro hspares
    refine Bool.eq_false_iff.2 fun hrewrites => ?_
    cases e with
    | fence m =>
      simp only [Evidence.rewrites, Bool.and_eq_true, Option.any_eq_true] at hrewrites
      obtain ⟨hr, a, ha, hterminated⟩ := hrewrites
      obtain ⟨_, hrevised⟩ := (recordFenceEvent_revises h ha hr).commit hcommits
      rw [show (recordFenceEvent runnerID m).commit d =
        (recordDurableEvent runnerID (.fence m) now).commit d from rfl,
        hspares _ a ha (.inr hterminated), Option.map_some, Option.some.injEq] at hrevised
      omega
    | ack m | progress m | result m | terminal m => cases hrewrites
  · intro hrewrites id a ha hs
    by_cases hid : id = e.target.assignmentID
    · subst hid
      obtain ⟨m, rfl⟩ := h.fence_of_superseded ha hs ht
      have hr : d.runs m.fence = false := by
        refine Bool.eq_false_iff.2 fun hr => ?_
        obtain hcurrent | hterminated := hs
        · exact hcurrent ((h.runs_iff ha).1 hr)
        · simp only [Evidence.target] at ha
          simp [Evidence.rewrites, hr, ha, hterminated] at hrewrites
      obtain ⟨_, hframes⟩ := (recordFenceEvent_frames h hr).commit hcommits
      exact (congrArg (Table.get · _) hframes).trans ha
    · have hothers : Same (DB.otherAssignments e.target.assignmentID) d
          ((recordDurableEvent runnerID e now).commit d) :=
        Follows.commit d
      have hid' := congrFun hothers id
      rw [DB.otherAssignments, DB.otherAssignments, if_neg hid, if_neg hid] at hid'
      exact hid'.trans ha

end Record

/-! ## Recording a batch -/

/-- What recording a message leaves; the messages of a batch are recorded one after another. -/
def EventRecord.apply (d : DB) (r : EventRecord) : DB :=
  (recordDurableEvent r.event.envelope.runnerID r.event.evidence r.receivedAt).commit d

/-- The record's evidence is about a command its Runner received. -/
def EventRecord.Truthful (d : DB) (r : EventRecord) : Prop :=
  r.event.evidence.Truthful d r.event.envelope.runnerID

/-- The record's evidence is recorded, and rewrites no proven termination. -/
def EventRecord.Timely (d : DB) (r : EventRecord) : Prop :=
  r.event.evidence.timely d r.event.envelope.runnerID = true ∧ r.event.evidence.rewrites d = false

/-- The record leaves the row of every superseded Assignment as it is. -/
def EventRecord.Spares (d : DB) (r : EventRecord) : Prop :=
  ∀ id a, d.assignments.get id = some a → d.Superseded a → (r.apply d).assignments.get id = some a

/-- The messages arrive on the Runner's active connection, in order and for the first time. -/
structure Delivered (runnerID connectionID : ID) (rs : List EventRecord) (d : DB) : Prop where
  nonempty : rs ≠ []
  runner : runnerID ≠ ""
  connection : connectionID ≠ ""
  envelopes : ∀ r ∈ rs, r.event.envelope.runnerID = runnerID ∧ r.event.envelope.connectionID =
    connectionID ∧ r.event.envelope.valid = true
  active : ∃ c, d.connections.get connectionID = some c ∧ c.runnerID = runnerID ∧ c.active = true ∧
    orderedFrom c.lastSequence (rs.map (·.event.envelope.sequence)) = true
  new : ∀ r ∈ rs, d.messages.get (connectionID, r.event.envelope.messageID) = none

/-- The database with the messages' envelopes recorded. -/
def DB.receive (d : DB) (connectionID : ID) (rs : List EventRecord) : DB :=
  { d with
    messages := rs.foldl (fun t r =>
      t.insertNew (r.event.envelope.connectionID, r.event.envelope.messageID)
        r.event.envelope.sequence) d.messages
    connections := d.connections.updateAt connectionID fun c =>
      { c with lastSequence := (rs.map (·.event.envelope.sequence)).getLastD 0 } }

section Batch
variable {d d' : DB} {runnerID connectionID : ID} {r : EventRecord} {rs : List EventRecord}

theorem Move.names {w : World} {F : ID → Prop} {id : ID} {a a' : Assignment} (h : Move w F id a a')
    (f : Fence) (runnerID : ID) : f.names runnerID a' = f.names runnerID a := by
  cases h <;> rfl

theorem Evidence.complete_congr {i i' : Instance} (h : i'.identity = i.identity) (e : Evidence) :
    e.complete i' = e.complete i := by
  simp only [Instance.identity, Prod.mk.injEq] at h
  cases e <;> simp [Evidence.complete, h.2.2]

/-- What a Runner reports stays true while other evidence is recorded. -/
theorem EventRecord.Truthful.apply (h : r.Truthful d) (r' : EventRecord) :
    r.Truthful (r'.apply d) := by
  have hmoves : Moved ⟨d, []⟩ (fun _ => True) (fun _ _ => True) (r'.apply d) :=
    commit_of_ensures (recordDurableEvent_moves (w := ⟨d, []⟩) _ _ _ fun _ _ _ => trivial)
      Moved.refl
  have hevolves : d.Evolves (r'.apply d) := Follows.commit d
  obtain ⟨a, ha, hnames⟩ := h.assignment
  obtain ⟨a', ha', hmove⟩ := hmoves.old _ a ha
  obtain ⟨s, w, hs, hw, hworkspace⟩ := h.workspace
  obtain ⟨s', hs', hsame⟩ := hevolves.sandboxes.moves.old _ s hs
  obtain ⟨w', hw', hsame'⟩ := hevolves.workspaces.moves.old _ w hw
  obtain ⟨i, hi, hcontent⟩ := h.content
  obtain ⟨i', hi', hidentity⟩ := hevolves.instances.moves.old _ i hi
  have hworkspaceID : s'.workspaceID = s.workspaceID := congrArg Prod.fst hsame
  refine ⟨h.fence, ⟨a', ha', ?_⟩, ⟨s', w', hs', ?_, ?_⟩, ⟨i', hi', ?_⟩, h.correlation⟩
  · rw [hmove.names, hnames]
  · rw [hworkspaceID, hw']
  · rw [hsame', hworkspace]
  · rw [Evidence.complete_congr hidentity, hcontent]

/-- The durable part of a batch commits exactly when every record is expected where it is applied. -/
theorem recordDurableEvents_succeeds (h : ∀ r ∈ rs, r.Truthful d) {P : DB → Prop} :
    ((recordDurableEvents rs).Succeeds d fun _ d' => P d') ↔
      Along EventRecord.apply (fun d r => r.event.evidence.timely d r.event.envelope.runnerID = true) d rs ∧
        P (after EventRecord.apply d rs) := by
  induction rs generalizing d with
  | nil => simp [recordDurableEvents]
  | cons r rs ih =>
    have hr := h r List.mem_cons_self
    have hrs : ∀ r' ∈ rs, r'.Truthful (r.apply d) :=
      fun r' hr' => (h r' (List.mem_cons_of_mem r hr')).apply r
    rw [along_cons, and_assoc, after_cons, ← ih hrs, recordDurableEvents, succeeds_bind,
      succeeds_state_iff, recordDurableEvent_commits_iff hr]
    rfl

/-- Timely evidence is the evidence that is recorded and spares superseded Assignments. -/
theorem along_timely_iff (h : ∀ r ∈ rs, r.Truthful d) :
    Along EventRecord.apply (fun d r => r.event.evidence.timely d r.event.envelope.runnerID = true)
      d rs ∧
      Along EventRecord.apply EventRecord.Spares d rs ↔
        Along EventRecord.apply EventRecord.Timely d rs := by
  induction rs generalizing d with
  | nil => simp
  | cons r rs ih =>
    have hrs : ∀ r' ∈ rs, r'.Truthful (r.apply d) :=
      fun r' hr' => (h r' (List.mem_cons_of_mem r hr')).apply r
    rw [along_cons, along_cons, along_cons, ← ih hrs, EventRecord.Timely, and_and_and_comm]
    refine and_congr_left fun _ => and_congr_right fun ht => ?_
    exact recordDurableEvent_spares_iff (h r List.mem_cons_self) ht r.receivedAt

theorem recordMessages_succeeds {Q : Unit → DB → Prop} : (recordMessages rs).Succeeds d Q ↔
    Q () { d with
      messages := rs.foldl (fun t r =>
        t.insertNew (r.event.envelope.connectionID, r.event.envelope.messageID)
          r.event.envelope.sequence) d.messages } := by
  induction rs generalizing d with
  | nil => exact Iff.rfl
  | cons r rs ih =>
    rw [recordMessages, succeeds_bind]
    exact ih

/-- A Sandbox named by truthful evidence exists, so that its quotas can be locked. -/
theorem EventRecord.Truthful.quota (h : r.Truthful d) {id : ID}
    (hid : id ∈ r.event.evidence.quotaSandboxIDs) :
    (d.sandboxes.get id).isSome = true := by
  obtain ⟨s, w, hs, -, -⟩ := h.workspace
  have hid' : id = r.event.evidence.target.sandboxID := by
    revert hid
    cases r.event.evidence <;> simp only [Evidence.quotaSandboxIDs, Evidence.target,
      List.not_mem_nil, false_implies]
    all_goals
      split
      · simp
      · simp
  rw [hid', hs]
  rfl

theorem lockSandboxQuotas_succeeds {ids : List ID} {context : String} {Q : Unit → DB → Prop}
    (h : ∀ id ∈ ids, (d.sandboxes.get id).isSome = true) :
    (lockSandboxQuotas ids context).Succeeds d Q ↔ Q () d := by
  have hids : (ids.isEmpty || ids.any fun id => (d.sandboxes.get id).isSome) = true := by
    cases ids with
    | nil => rfl
    | cons id ids => simp [h id List.mem_cons_self]
  simp only [lockSandboxQuotas, succeeds_bind, succeeds_get, succeeds_require, hids, true_and]

theorem recordEvent_succeeds (hd : Delivered runnerID connectionID [r] d) (h : r.Truthful d)
    {P : DB → Prop} :
    ((recordEvent r).Succeeds d fun _ d' => P d') ↔
      (recordDurableEvents [r]).Succeeds (d.receive connectionID [r]) fun _ d' => P d' := by
  obtain ⟨c, hc, hrunner, hactive, hordered⟩ := hd.active
  obtain ⟨henvelope, hconnection, hvalid⟩ := hd.envelopes r List.mem_cons_self
  have hnew := hd.new r List.mem_cons_self
  have hids : (runnerID != "" && connectionID != "" && r.event.envelope.messageID != "" &&
      r.event.envelope.sequence != 0) = true := by
    simp only [Envelope.valid, Bool.and_eq_true] at hvalid
    simp [hd.runner, hd.connection, hvalid]
  simp only [List.map_cons, List.map_nil, orderedFrom, Bool.and_true] at hordered
  rw [recordEvent, succeeds_bind, beginOrderedMessage]
  simp only [succeeds_bind, succeeds_require, hids, true_and,
    lockSandboxQuotas_succeeds fun _ => h.quota, hconnection, succeeds_row, hc, Option.some.injEq,
    exists_eq_left', hrunner, henvelope, beq_self_eq_true, hactive, Bool.and_self, succeeds_get,
    hnew, Option.isSome_none, Bool.false_eq_true, if_false, hordered, recordMessage,
    setLastSequence, succeeds_modify, succeeds_pure, recordDurableEvents]
  rw [DB.receive, List.foldl_cons, List.foldl_nil, hconnection]
  rfl

theorem recordBatch_succeeds (hd : Delivered runnerID connectionID rs d)
    (h : ∀ r ∈ rs, r.Truthful d) {v : Envelope}
    (hv : v.runnerID = runnerID ∧ v.connectionID = connectionID) {Q : Bool → DB → Prop} :
    (recordBatch v rs).Succeeds d Q ↔
      (recordDurableEvents rs).Succeeds (d.receive connectionID rs) fun _ d' => Q false d' := by
  obtain ⟨c, hc, hrunner, hactive, hordered⟩ := hd.active
  have hquota : ∀ id ∈ rs.flatMap (·.event.evidence.quotaSandboxIDs),
      (d.sandboxes.get id).isSome = true := by
    intro id hid
    obtain ⟨r, hr, hid⟩ := List.mem_flatMap.1 hid
    exact (h r hr).quota hid
  have hnew : (rs.any fun r => (d.messages.get (connectionID, r.event.envelope.messageID)).isSome) =
      false := by
    rw [List.any_eq_false]
    intro r hr
    simp [hd.new r hr]
  simp only [recordBatch, succeeds_bind, lockSandboxQuotas_succeeds hquota, succeeds_row, hv.1,
    hv.2, hc, Option.some.injEq, exists_eq_left', succeeds_require, hrunner, beq_self_eq_true,
    hactive, Bool.and_self, true_and, succeeds_get, hnew, Bool.false_eq_true, if_false, hordered,
    recordMessages_succeeds, setLastSequence, succeeds_modify, succeeds_pure]
  rfl

/-- A batch of truthful evidence, delivered in order, is recorded, all of it,
    exactly when every message is expected in the state it is applied in. -/
theorem recordEvents_succeeds (hd : Delivered runnerID connectionID rs d)
    (h : ∀ r ∈ rs, r.Truthful d) {P : DB → Prop} :
      ((recordEvents rs d).1 = .ok () ∧ P (recordEvents rs d).2) ↔
      (recordDurableEvents rs).Succeeds (d.receive connectionID rs) fun _ d' => P d' := by
  match rs, hd, h with
  | [], hd, _ => exact absurd rfl hd.nonempty
  | [r], hd, h =>
    rw [← recordEvent_succeeds hd (h r List.mem_cons_self), succeeds_iff]
    exact ⟨fun hok => ⟨(), hok⟩, fun ⟨_, hok⟩ => hok⟩
  | r :: r' :: rs, hd, h =>
    have henvelope := hd.envelopes r List.mem_cons_self
    have hidentity : ((r :: r' :: rs).all fun x => x.event.envelope.runnerID ==
        r.event.envelope.runnerID &&
        x.event.envelope.connectionID == r.event.envelope.connectionID) = true := by
      rw [List.all_eq_true]
      intro x hx
      obtain ⟨hrunner, hconnection, -⟩ := hd.envelopes x hx
      simp [hrunner, hconnection, henvelope]
    have hvalid : ((r :: r' :: rs).all (·.event.envelope.valid)) = true := by
      rw [List.all_eq_true]
      exact fun x hx => (hd.envelopes x hx).2.2
    have hbatch := fun Q => recordBatch_succeeds hd h (v := r.event.envelope) ⟨henvelope.1,
      henvelope.2.1⟩ (Q := Q)
    -- messages that are new are recorded by the transaction of the batch
    have hfalse : ∀ duplicate, (recordBatch r.event.envelope (r :: r' :: rs)).answer d =
        .ok duplicate →
        duplicate = false := by
      intro duplicate hanswer
      obtain ⟨_, -, hduplicate⟩ :=
        succeeds_iff.1 ((hbatch fun b _ => b = duplicate).1 (succeeds_iff.2 ⟨duplicate, hanswer, rfl⟩))
      exact hduplicate.symm
    rw [← hbatch fun _ d' => P d', succeeds_iff]
    simp only [recordEvents, perform, hidentity, hvalid, Bool.not_true,
      Bool.false_eq_true, if_false]
    cases hanswer : (recordBatch r.event.envelope (r :: r' :: rs)).answer d with
    | error err => simp
    | ok duplicate =>
      cases hfalse duplicate hanswer
      simp

end Batch

/-! Two Sandboxes start on one Runner.  The deadline of the first start passes
and the Assignment worker fences it while the Runner's progress report is on its
way, in one batch with the acceptance of the second start. -/

/-- The fence of `name`. -/
def overtakenFence (name : ID) : Fence where
  assignmentID := name
  sandboxID := name
  instanceID := name
  sandboxGeneration := 1
  fencingToken := [7]

/-- The correlation of `name`. -/
def overtakenCorrelation (name : ID) : Correlation where
  requestID := "request"
  operationID := "operation"
  sandboxID := name
  instanceID := name
  sandboxGeneration := 1
  assignmentID := name
  runnerID := "runner"

/-- An Assignment of the Sandbox `name`. -/
def overtakenAssignment (name : ID) (state : AssignmentState) (operationDeadline : Time) :
    Assignment where
  sandboxID := name
  instanceID := name
  runnerID := "runner"
  generation := 1
  fencingToken := [7]
  state := state
  operationDeadline := operationDeadline
  nextReconcileAt := operationDeadline

/-- A starting Sandbox. -/
def overtakenSandbox (name : ID) : Sandbox where
  workspaceID := name
  state := .starting
  desiredState := .running
  generation := 1
  currentInstanceID := name

/-- Its Workspace. -/
def overtakenWorkspace (name : ID) : Workspace where
  sandboxID := name
  homeRunnerID := "runner"
  generation := 1

/-- Two Sandboxes that start on one Runner. -/
def overtakenStart : World where
  db :=
    { sandboxes := (Table.empty.insertNew "slow" (overtakenSandbox "slow")).insertNew "fast" (overtakenSandbox "fast")
      workspaces :=
        (Table.empty.insertNew "slow" (overtakenWorkspace "slow")).insertNew "fast"
          (overtakenWorkspace "fast")
      instances := (Table.empty.insertNew "slow" { sandboxID := "slow", generation := 1, state := .starting }).insertNew
        "fast" { sandboxID := "fast", generation := 1, state := .starting }
      assignments :=
        (Table.empty.insertNew "slow" (overtakenAssignment "slow" .starting 5)).insertNew "fast"
        (overtakenAssignment "fast" .assigned 100)
      commands := Table.empty.insertNew "assignment-slow"
        { runnerID := "runner", assignmentID := "slow", kind := .assignment
          payload := .assignment (some (overtakenCorrelation "slow")) }
      connections := Table.empty.insertNew "connection" { runnerID := "runner" } }

/-- The worker has fenced the slow start. -/
def overtaken : DB :=
  (after (World.step ⟨1, 60000⟩) overtakenStart [.claim "worker" "slow" 20 10, .work 0 "fence-slow"]).db

/-- An event of that Runner. -/
def overtakenRecord (sequence : Int) (messageID : ID) (evidence : Evidence) : EventRecord where
  event :=
    { envelope := { runnerID := "runner", connectionID := "connection", messageID, sequence }
      evidence }
  receivedAt := 11

/-- The slow one makes progress. -/
def slowProgress : EventRecord :=
  overtakenRecord 1 "first"
    (.progress { fence := overtakenFence "slow", correlation := overtakenCorrelation "slow" })

/-- The slow one has stopped. -/
def slowStopped : EventRecord :=
  overtakenRecord 1 "first" (.fence
    { fence := overtakenFence "slow", correlation := overtakenCorrelation "slow", result := .stopped
      terminationEvidenceDigest := "sha256:stopped" })

/-- The fast one is accepted. -/
def fastAccepted : EventRecord :=
  overtakenRecord 2 "second" (.ack { fence := overtakenFence "fast", decision := .accepted })

theorem slowProgress_truthful : slowProgress.Truthful overtaken where
  fence := by decide
  assignment := (Option.any_eq_true _ _).1 (by decide +kernel)
  workspace :=
    ⟨overtakenSandbox "slow", overtakenWorkspace "slow", by decide +kernel, by decide +kernel, rfl⟩
  content := (Option.any_eq_true _ _).1 (by decide +kernel)
  correlation c hc := by
    cases hc
    decide +kernel

theorem fastAccepted_truthful : fastAccepted.Truthful overtaken where
  fence := by decide
  assignment := (Option.any_eq_true _ _).1 (by decide +kernel)
  workspace :=
    ⟨overtakenSandbox "fast", overtakenWorkspace "fast", by decide +kernel, by decide +kernel, rfl⟩
  content := (Option.any_eq_true _ _).1 (by decide +kernel)
  correlation c hc := by cases hc

theorem overtaken_delivered :
    Delivered "runner" "connection" [slowProgress, fastAccepted] overtaken where
  nonempty := List.cons_ne_nil _ _
  runner := by decide
  connection := by decide
  envelopes := by decide
  active := ⟨{ runnerID := "runner" }, by decide +kernel, rfl, rfl, by decide⟩
  new := by decide +kernel

theorem slowStopped_truthful : slowStopped.Truthful overtaken where
  fence := by decide
  assignment := (Option.any_eq_true _ _).1 (by decide +kernel)
  workspace :=
    ⟨overtakenSandbox "slow", overtakenWorkspace "slow", by decide +kernel, by decide +kernel, rfl⟩
  content := (Option.any_eq_true _ _).1 (by decide +kernel)
  correlation c hc := by
    cases hc
    decide +kernel

end SecondBox.Fleet

/-
  Runner evidence: what internal/runnercontrol does with AssignmentAck,
  AssignmentProgress, AssignmentResult, FenceResult and InstanceTerminal.

  An absent fence or correlation is one whose fields are empty: both fail the
  same checks with the same errors.
-/
import SecondBox.Fleet.Types

namespace SecondBox.Fleet

open Relational Relational.Tx

/-! ## Messages -/

/-- A Runner's answer to an Assignment. -/
inductive AssignmentDecision where
  | unspecified
  | accepted
  | rejectedIncompatibleProfile
  | rejectedCapacity
  | rejectedArtifact
  | rejectedPrerequisite
  | rejectedDraining
  | rejectedFenced
deriving DecidableEq

/-- `assignmentDecisionFailureClass` -/
def AssignmentDecision.failureClass : AssignmentDecision → FailureClass
  | rejectedCapacity => .transient
  | rejectedIncompatibleProfile => .compatibility
  | rejectedFenced => .fencing
  | rejectedArtifact => .integrity
  | _ => .admission

/-- How a startup ends. -/
inductive AssignmentTerminal where
  | unspecified
  | ready
  | guestRejected
  | admissionFailed
  | fenced
  | guestAgentFailed
  | runnerFailed
  | infrastructureFailed
  | terminated
deriving DecidableEq

/-- `assignmentTerminalFailureClass` -/
def AssignmentTerminal.failureClass : AssignmentTerminal → FailureClass
  | infrastructureFailed | runnerFailed => .transient
  | fenced => .fencing
  | _ => .admission

/-- How a fence ends. -/
inductive FenceResultKind where
  | unspecified
  | stopped
  | alreadyStopped
  | failed
deriving DecidableEq

/-- Nothing runs any more. -/
def FenceResultKind.succeeded : FenceResultKind → Bool
  | stopped | alreadyStopped => true
  | _ => false

/-- How an Instance ended by itself. -/
inductive ObservedTermination where
  | unspecified
  | guestShutdown
  | resourceExhaustion
  | internalFailure
deriving DecidableEq

/-- `observedInstanceTerminationReason` -/
def ObservedTermination.reason : ObservedTermination → Option TerminationReason
  | guestShutdown => some .guestShutdown
  | resourceExhaustion => some .resourceExhaustion
  | internalFailure => some .internalFailure
  | unspecified => none

/-- An Assignment is accepted or rejected. -/
structure AssignmentAck where
  fence : Fence
  decision : AssignmentDecision

/-- A startup makes progress. -/
structure AssignmentProgress where
  fence : Fence
  correlation : Correlation

/-- A startup ends. -/
structure AssignmentResult where
  fence : Fence
  terminal : AssignmentTerminal
  backendKind : String := ""
  backendReference : String := ""
  correlation : Correlation
  requestedImageReference : String := ""
  resolvedImageDigest : String := ""

/-- A fence ends. -/
structure FenceResult where
  fence : Fence
  result : FenceResultKind
  terminationEvidenceDigest : String := ""
  correlation : Correlation

/-- An Instance ended. -/
structure InstanceTerminal where
  fence : Fence
  reason : ObservedTermination
  observedAtUnixMs : Int
  terminationEvidenceDigest : String
  correlation : Correlation

/-- The evidence a Runner sends. -/
inductive Evidence where
  | ack (m : AssignmentAck)
  | progress (m : AssignmentProgress)
  | result (m : AssignmentResult)
  | fence (m : FenceResult)
  | terminal (m : InstanceTerminal)

/-- The Assignment it is about. -/
def Evidence.target : Evidence → Fence
  | ack m => m.fence
  | progress m => m.fence
  | result m => m.fence
  | fence m => m.fence
  | terminal m => m.fence

/-! ## Rows -/

/-- The row a query must return. -/
def row {κ ρ : Type} [DecidableEq κ] (t : DB → Table κ ρ) (k : κ) (context : String) : Tx ρ := do
  expect ((t (← get)).get k) (.database context)

/-- `INSERT INTO runner_commands` -/
def insertCommand (id : ID) (c : Command) (context : String) : Tx Unit := do
  require ((← get).commands.get id).isNone (.database context)
  modify fun d => { d with commands := d.commands.insertNew id c }

/-- `rowlock.SandboxWorkspaceByID` -/
def lockSandboxWorkspace (sandboxID : ID) (context : String) : Tx (Sandbox × Workspace) := do
  let s ← row (·.sandboxes) sandboxID context
  let w ← row (·.workspaces) s.workspaceID context
  require (w.sandboxID == sandboxID) (.database context)
  pure (s, w)

/-- Update an Assignment. -/
def updateAssignment (id : ID) (f : Assignment → Assignment) : Tx Unit :=
  modify fun d => { d with assignments := d.assignments.updateAt id f }

/-- `UPDATE runner_commands SET state = s WHERE p` -/
def setCommandsWhere (p : ID → Command → Bool) (s : CommandState) : Tx Unit :=
  modify fun d => { d with commands := d.commands.updateWhere p fun c => { c with state := s } }

/-- `acknowledgeAssignmentCommands` -/
def acknowledgeAssignmentCommands (assignmentID : ID) : Tx Unit :=
  setCommandsWhere
    (fun _ c => c.assignmentID == assignmentID && c.kind == .assignment && c.state.unfinished)
      .acknowledged

/-! ## Authority -/

/-- Every field of the fence is set. -/
def Fence.complete (f : Fence) : Bool :=
  f.assignmentID != "" && f.sandboxID != "" && f.instanceID != "" && f.sandboxGeneration != 0 &&
    !f.fencingToken.isEmpty

/-- The Sandbox still runs the fence's Instance in the fence's generation. -/
def Fence.current (f : Fence) (s : Sandbox) : Bool :=
  s.generation == f.sandboxGeneration && s.currentInstanceID == f.instanceID

/-- The fence names exactly this Assignment of this Runner. -/
def Fence.names (f : Fence) (runnerID : ID) (a : Assignment) : Bool :=
  a.sandboxID == f.sandboxID && a.instanceID == f.instanceID && a.runnerID == runnerID &&
    a.generation == f.sandboxGeneration && a.fencingToken == f.fencingToken

variable (runnerID : ID)

/-- `lockAndValidateFence` -/
def lockAndValidateFence (f : Fence) : Tx Unit := do
  require f.complete .staleAssignmentEvidence
  let (s, _) ← lockSandboxWorkspace f.sandboxID "SecondBox runner Sandbox/Workspace fence lookup"
  require (f.current s) .staleAssignmentEvidence
  let a ← row (·.assignments) f.assignmentID "SecondBox runner Assignment fence lookup"
  require (f.names runnerID a) .staleAssignmentEvidence

/-- The correlation repeats the fence and names the operation. -/
def Correlation.matches (c : Correlation) (runnerID : ID) (f : Fence) : Bool :=
  c.requestID != "" && c.operationID != "" && c.sandboxID == f.sandboxID &&
    c.instanceID == f.instanceID &&
    c.sandboxGeneration == f.sandboxGeneration && c.assignmentID == f.assignmentID &&
      c.runnerID == runnerID

/-- `validateOperationCorrelation` -/
def validateOperationCorrelation (f : Fence) (c : Correlation) : Tx Unit :=
  require (c.matches runnerID f)
    (.invalid "SecondBox runner operation correlation does not match durable authority")

/-- `assignmentEvidenceState` -/
def assignmentEvidenceState (assignmentID : ID) : Tx AssignmentState := do
  return (← row (·.assignments) assignmentID "SecondBox runner Assignment state lookup").state

/-- `validateAssignmentEvidenceState` -/
def validateAssignmentEvidenceState (assignmentID : ID) (allowed : AssignmentState → Bool) :
    Tx Unit := do
  require (allowed (← assignmentEvidenceState assignmentID)) .staleAssignmentEvidence

/-- `wakeSandboxLifecycle` -/
def wakeSandboxLifecycle (f : Fence) : Tx Unit := do
  require (((← get).sandboxes.get f.sandboxID).any f.current) .staleAssignmentEvidence
  modify fun d => { d with sandboxes := d.sandboxes.updateAt f.sandboxID fun s => { s with reconcileOwner := "" } }

/-! ## Acknowledgements -/

/-- A failed attempt is due for reconciliation at once. -/
def Assignment.fail (a : Assignment) (failureClass : FailureClass) (now : Time) : Assignment :=
  { a with state := .failed, failureClass, nextReconcileAt := now, reconcileOwner := "",
           reconcileClaimExpiresAt := now, revision := a.revision + 1 }

/-- The row of an accepted Assignment. -/
def Assignment.accept (a : Assignment) : Assignment :=
  { a with state := .accepted, failureClass := .none, revision := a.revision + 1 }

/-- What a failed attempt leaves behind. -/
def failAssignment (f : Fence) (failureClass : FailureClass) (now : Time) : Tx Unit := do
  updateAssignment f.assignmentID (·.fail failureClass now)
  wakeSandboxLifecycle f
  acknowledgeAssignmentCommands f.assignmentID

/-- The AssignmentAck case of `recordAssignmentEvent`. -/
def recordAssignmentAck (m : AssignmentAck) (now : Time) : Tx Unit := do
  lockAndValidateFence runnerID m.fence
  let state ← assignmentEvidenceState m.fence.assignmentID
  if m.decision == .accepted && (state == .accepted || state == .starting || state == .ready) then
    pure ()
  else do
    validateAssignmentEvidenceState m.fence.assignmentID (· == .assigned)
    if m.decision == .accepted then
      updateAssignment m.fence.assignmentID (·.accept)
    else
      failAssignment m.fence m.decision.failureClass now

/-! ## Progress -/

/-- The row of an Assignment that starts. -/
def Assignment.progress (a : Assignment) : Assignment :=
  { a with state := .starting, revision := a.revision + 1 }

/-- The AssignmentProgress case of `recordAssignmentEvent`; stage timings are telemetry. -/
def recordAssignmentProgress (m : AssignmentProgress) : Tx Unit := do
  lockAndValidateFence runnerID m.fence
  validateOperationCorrelation runnerID m.fence m.correlation
  let state ← assignmentEvidenceState m.fence.assignmentID
  if state == .ready then
    pure ()
  else do
    validateAssignmentEvidenceState m.fence.assignmentID (·.pending)
    updateAssignment m.fence.assignmentID (·.progress)

/-! ## Results -/

/-- The row of a ready Assignment. -/
def Assignment.becomeReady (a : Assignment) (m : AssignmentResult) : Assignment :=
  { a with state := .ready, backendKind := m.backendKind, backendReference := m.backendReference,
           revision := a.revision + 1 }

/-- The image evidence of a ready result agrees with itself. -/
def AssignmentResult.checkImage (m : AssignmentResult) : Tx Unit :=
  if m.requestedImageReference != "" then
    require (m.resolvedImageDigest.utf8ByteSize == 71 &&
        m.requestedImageReference.endsWith ("@" ++ m.resolvedImageDigest))
      (.invalid "SecondBox ready execution image does not match the assigned digest")
  else
    require (m.resolvedImageDigest == "")
      (.invalid "SecondBox fixed Profile assignment reported an unassigned execution image")

/-- The recorded evidence a repeated ready result must show again. -/
def AssignmentResult.repeats (m : AssignmentResult) (a : Assignment) (i : Instance) : Bool :=
  a.backendKind == m.backendKind && a.backendReference == m.backendReference &&
    i.requestedImageReference == m.requestedImageReference && i.resolvedImageDigest ==
    m.resolvedImageDigest

/-- `pinReadySandboxExecutionImage`, for a Sandbox that requested an image -/
def pinReadySandboxExecutionImage (m : AssignmentResult) : Tx Unit := do
  if m.requestedImageReference == "" then
    pure ()
  else do
    let requested :=
      ((← get).operations.get m.correlation.operationID).map (·.executionImageReference)
    modify fun d => { d with
      sandboxes := d.sandboxes.updateAt m.fence.sandboxID fun s => { s with
        executionImageReference :=
          if s.executionImageDigest == m.resolvedImageDigest then s.executionImageReference
          else (requested.filter (· != "")).getD s.executionImageReference
        executionImageDigest := m.resolvedImageDigest } }

/-- The start mutation a ready Assignment releases. -/
def Mutation.startedBy (m : Mutation) (operationID : ID) (generation : Int) : Bool :=
  m.kind == .start && m.operationID == operationID && m.expectedGeneration == some generation

/-- The Workspace whose start mutation the ready result releases. -/
def DB.startedWorkspace (d : DB) (runnerID : ID) (m : AssignmentResult) : Option ID := do
  let s ← d.sandboxes.get m.fence.sandboxID
  let w ← d.workspaces.get s.workspaceID
  if w.homeRunnerID == runnerID && w.mutation.startedBy m.correlation.operationID
    m.fence.sandboxGeneration then
    some s.workspaceID
  else none

/-- The mutation is over. -/
def Workspace.release (w : Workspace) : Workspace := { w with mutation := {} }

/-- `ProjectReadyOperations` -/
def DB.projectReadyOperations (d : DB) (sandboxID : ID) : DB :=
  { d with
    operations := d.operations.updateWhere
      (fun _ o => o.sandboxID == sandboxID && o.kind.starts && o.state.unfinished)
      fun o => { o with state := .succeeded, errorCode := "", errorMessage := "" } }

/-- The Sandbox can be shown ready at once. -/
def Fence.projectable (f : Fence) (s : Sandbox) : Bool :=
  f.current s && s.state == .starting && s.desiredState == .running

/-- `projectReadySandbox` -/
def projectReadySandbox (f : Fence) : Tx Bool := do
  if ((← get).sandboxes.get f.sandboxID).any f.projectable then do
    modify fun d => { d with
      sandboxes := d.sandboxes.updateAt f.sandboxID fun s => { s with state := .ready, reconcileOwner := "" } }
    modify (·.projectReadyOperations f.sandboxID)
    pure true
  else
    pure false

/-- A Sandbox that cannot be shown ready at once is left to its lifecycle worker. -/
def announceReady (f : Fence) : Tx Unit := do
  if ← projectReadySandbox f then pure () else wakeSandboxLifecycle f

/-- A ready result of an Assignment that was not ready yet. -/
def recordReadyResult (m : AssignmentResult) : Tx Unit := do
  require (m.backendKind != "" && m.backendReference != "")
    (.invalid "SecondBox runner ready AssignmentResult requires backend evidence")
  m.checkImage
  updateAssignment m.fence.assignmentID (·.becomeReady m)
  require (((← get).instances.get m.fence.instanceID).any (·.requestedImageReference == m.requestedImageReference))
    (.invalid "SecondBox runner ready AssignmentResult changed the requested execution image")
  modify fun d => { d with
    instances := d.instances.updateAt m.fence.instanceID fun i =>
      { i with state := .ready, resolvedImageDigest := m.resolvedImageDigest } }
  pinReadySandboxExecutionImage m
  let workspaceID ← expect ((← get).startedWorkspace runnerID m)
    (.invalid "SecondBox runner ready AssignmentResult lacks the durable Workspace start mutation")
  modify fun d => { d with workspaces := d.workspaces.updateAt workspaceID (·.release) }
  announceReady m.fence
  acknowledgeAssignmentCommands m.fence.assignmentID

/-- The AssignmentResult case of `recordAssignmentEvent`. -/
def recordAssignmentResult (m : AssignmentResult) (now : Time) : Tx Unit := do
  lockAndValidateFence runnerID m.fence
  validateOperationCorrelation runnerID m.fence m.correlation
  let state ← assignmentEvidenceState m.fence.assignmentID
  if state == .ready then do
    require (m.terminal == .ready && m.backendKind != "" && m.backendReference != "")
      .staleAssignmentEvidence
    let a ← row (·.assignments) m.fence.assignmentID
      "SecondBox runner ready AssignmentResult replay lookup"
    let i ← row (·.instances) a.instanceID "SecondBox runner ready AssignmentResult replay lookup"
    require (m.repeats a i) (.invalid "SecondBox runner ready AssignmentResult replay changed backend evidence")
    acknowledgeAssignmentCommands m.fence.assignmentID
  else do
    validateAssignmentEvidenceState m.fence.assignmentID (·.pending)
    if m.terminal == .ready then
      recordReadyResult runnerID m
    else
      failAssignment m.fence m.terminal.failureClass now

/-! ## Fences -/

/-- A queued stop of the Assignment, with the Workspace it holds. -/
structure StopAuthority where
  effectID : ID
  commandID : ID
  commandKind : CommandKind
  workspaceID : ID
  workspace : Workspace

/-- The stop effect a FenceResult completes. -/
def DB.stopAuthority (d : DB) (assignmentID : ID) : Option StopAuthority :=
  d.effects.rows.findSome? fun x =>
    if x.2.assignmentID == assignmentID && x.2.kind == .stop && x.2.state == .queued then do
      let c ← d.commands.get x.2.commandID
      let s ← d.sandboxes.get x.2.sandboxID
      let w ← d.workspaces.get s.workspaceID
      some ⟨x.1, x.2.commandID, c.kind, s.workspaceID, w⟩
    else none

/-- The stop effect holds the Workspace's mutation slot. -/
def StopAuthority.holds (a : StopAuthority) (runnerID : ID) (f : Fence) : Bool :=
  a.workspace.homeRunnerID == runnerID && a.workspace.mutation.kind == .stop &&
    a.workspace.mutation.id == a.effectID && a.workspace.mutation.effectID == a.effectID &&
    a.workspace.mutation.state != .none && a.workspace.generation == f.sandboxGeneration

/-- The row after a failed fence. -/
def Assignment.fenceFailed (a : Assignment) : Assignment :=
  { a with state := .uncertain, failureClass := .fencing, revision := a.revision + 1 }

/-- The row after a successful fence. -/
def Assignment.fenceProven (a : Assignment) (state : AssignmentState) (digest : String) :
    Assignment :=
  { a with state, releaseProof := digest, revision := a.revision + 1 }

/-- The termination reason of a fenced Instance. -/
def fencedReason (i : Instance) (s : Sandbox) (a : Assignment) : TerminationReason :=
  i.terminationReason.or <| s.lifecycleTerminationReason.or <|
    match a.failureClass with
    | .fencing => .runnerLost
    | .startupTimeout => .startupFailed
    | _ => .fenced

/-- The Instance of a fenced Assignment is stopped, if its Sandbox still runs it. -/
def DB.stopFencedInstance (d : DB) (f : Fence) : DB :=
  { d with
    instances := d.instances.updateAt f.instanceID fun i =>
      match d.sandboxes.get i.sandboxID, d.assignments.get f.assignmentID with
      | some s, some a =>
        if a.instanceID == f.instanceID && s.currentInstanceID == f.instanceID &&
          s.generation == i.generation then
          { i with state := .stopped, terminationReason := fencedReason i s a }
        else i
      | _, _ => i }

/-- An undelivered fence command the result answers. -/
def FenceResult.answers (m : FenceResult) (runnerID : ID) (c : Command) : Bool :=
  c.runnerID == runnerID && c.assignmentID == m.fence.assignmentID && c.kind.fences &&
    c.state.unfinished && match c.payload with
    | .fence f => f.fence == m.fence && f.correlation == m.correlation
    | _ => false

/-- `acknowledgeMatchingFenceCommand` -/
def acknowledgeMatchingFenceCommand (m : FenceResult) : Tx Bool := do
  match (← get).commands.find? fun _ c => m.answers runnerID c with
  | none => pure false
  | some (id, _) => do
    setCommandsWhere (fun k _ => k == id) .acknowledged
    pure true

/-- The Assignment already has the termination evidence the result shows. -/
def FenceResult.redundant (m : FenceResult) (runnerID : ID) (a : Assignment) : Bool :=
  m.fence.names runnerID a && (a.state == .fenced || a.state == .released ||
    a.state == .failedTerminal) && a.releaseProof == m.terminationEvidenceDigest

/-- `acknowledgeRedundantFenceResult` -/
def acknowledgeRedundantFenceResult (m : FenceResult) : Tx Bool := do
  if m.result.succeeded && m.terminationEvidenceDigest != "" &&
      ((← get).assignments.get m.fence.assignmentID).any (m.redundant runnerID) then
    acknowledgeMatchingFenceCommand runnerID m
  else
    pure false

/-- The command that advances the Workspace's generation on its home Runner. -/
def generationAdvance (effectID sandboxID workspaceID runnerID requestID : ID) (generation : Int)
    (w : Workspace) (token : Bytes) : LocalWorkspaceCommand where
  kind := .advanceGeneration
  operationID := effectID
  effectID := effectID
  sandboxID := sandboxID
  workspaceID := workspaceID
  expectedGeneration := generation
  nextGeneration := generation + 1
  logicalCapacityBytes := w.logicalCapacityBytes
  fencingToken := token
  correlation := { requestID, operationID := effectID, sandboxID, sandboxGeneration := generation, runnerID }

/-- A proven stop queues the local generation advance. -/
def queueGenerationAdvance (m : FenceResult) (a : StopAuthority) : Tx Unit := do
  let commandID := a.effectID ++ "-generation-advance"
  setCommandsWhere (fun k _ => k == a.commandID) .acknowledged
  insertCommand commandID
    { runnerID, assignmentID := a.effectID, kind := .localWorkspace
      payload :=
        .localWorkspace (generationAdvance a.effectID m.fence.sandboxID a.workspaceID runnerID
        m.correlation.requestID m.fence.sandboxGeneration a.workspace m.fence.fencingToken) }
    "SecondBox runner stop generation-advance command queue"
  modify fun d => { d with
    effects := d.effects.updateAt a.effectID fun e =>
      { e with commandID, state := .queued, evidence := m.terminationEvidenceDigest }
    workspaces :=
      d.workspaces.updateWhere (fun k w => k == a.workspaceID && w.mutation.id == a.effectID)
      fun w => { w with mutation := { w.mutation with state := .advancing } } }

/-- A successful FenceResult of the current Instance. -/
def recordFenceProof (m : FenceResult) : Tx Unit := do
  require (m.terminationEvidenceDigest != "")
    (.invalid "SecondBox runner successful FenceResult requires termination evidence")
  match (← get).stopAuthority m.fence.assignmentID with
  | some a => do
    require (a.holds runnerID m.fence)
      (.invalid "SecondBox runner stop Workspace mutation conflicts with durable authority")
    updateAssignment m.fence.assignmentID (·.fenceProven .released m.terminationEvidenceDigest)
    modify (·.stopFencedInstance m.fence)
    -- the generation advance is already queued when the stop's command is one
    if a.commandKind == .localWorkspace then pure () else queueGenerationAdvance runnerID m a
  | none => do
    let a ← row (·.assignments) m.fence.assignmentID
      "SecondBox runner-loss Assignment classification lookup"
    require (a.failureClass == .fencing || a.failureClass == .startupTimeout)
      (.invalid "SecondBox runner FenceResult lacks a durable stop effect")
    updateAssignment m.fence.assignmentID (·.fenceProven .fenced m.terminationEvidenceDigest)
    modify (·.stopFencedInstance m.fence)
    discard (acknowledgeMatchingFenceCommand runnerID m)

/-- `recordFenceEvent`: a result of a superseded Instance is accepted only if it
    repeats recorded evidence. -/
def recordFenceEvent (m : FenceResult) : Tx Unit := do
  match (lockAndValidateFence runnerID m.fence).answer (← get) with
  | .error .staleAssignmentEvidence => do
    require (← acknowledgeRedundantFenceResult runnerID m) .staleAssignmentEvidence
  | .error e => throw e
  | .ok () => do
    validateOperationCorrelation runnerID m.fence m.correlation
    if m.result.succeeded then
      recordFenceProof runnerID m
    else
      updateAssignment m.fence.assignmentID (·.fenceFailed)

/-! ## Terminations -/

/-- A hexadecimal digit. -/
def isHexDigit (c : Char) : Bool :=
  '0' ≤ c && c ≤ '9' || 'a' ≤ c && c ≤ 'f' || 'A' ≤ c && c ≤ 'F'

/-- "sha256:" and 64 further bytes -/
def hasDigestShape (digest : String) : Bool :=
  digest.utf8ByteSize == 71 && digest.startsWith "sha256:"

/-- The row a termination is recorded as. -/
def InstanceTerminal.event (m : InstanceTerminal) (runnerID : ID) (reason : TerminationReason) :
    TerminalEvent where
  sandboxID := m.fence.sandboxID
  generation := m.fence.sandboxGeneration
  assignmentID := m.fence.assignmentID
  runnerID := runnerID
  reason := reason
  digest := m.terminationEvidenceDigest
  observedAt := ofUnixMilli m.observedAtUnixMs
  requestID := m.correlation.requestID
  operationID := m.correlation.operationID
  leaseID := m.correlation.leaseID

/-- A first termination of the Instance. -/
def insertTerminal (m : InstanceTerminal) (e : TerminalEvent) : Tx Unit :=
  modify fun d => { d with
    terminals := d.terminals.insertNew m.fence.instanceID e
    instances := d.instances.updateAt m.fence.instanceID fun i =>
      { i with state := .stopped, terminationReason := i.terminationReason.or e.reason } }

/-- The Instance's termination, if one is recorded already, must be this one. -/
def recordTermination (m : InstanceTerminal) (i : Instance) (e : TerminalEvent) :
    Option TerminalEvent → Tx Unit
  | some recorded =>
    require (recorded == e) (.invalid "SecondBox Runner instance terminal evidence changed after persistence")
  | none => do
    require (i.state == .ready) .staleAssignmentEvidence
    insertTerminal m e

/-- `recordInstanceTerminal` -/
def recordInstanceTerminal (m : InstanceTerminal) : Tx Unit := do
  require (m.observedAtUnixMs != 0 && hasDigestShape m.terminationEvidenceDigest)
    (.invalid "SecondBox Runner instance terminal evidence is incomplete")
  require ((m.terminationEvidenceDigest.toList.drop 7).all isHexDigit)
    (.invalid "SecondBox Runner instance terminal digest is invalid")
  let reason ← expect m.reason.reason (.invalid "SecondBox Runner instance terminal reason is unsupported")
  lockAndValidateFence runnerID m.fence
  validateOperationCorrelation runnerID m.fence m.correlation
  let a ← row (·.assignments) m.fence.assignmentID
    "SecondBox Runner instance terminal authority lookup"
  let i ← row (·.instances) a.instanceID "SecondBox Runner instance terminal authority lookup"
  let s ← row (·.sandboxes) a.sandboxID "SecondBox Runner instance terminal authority lookup"
  require (a.state == .ready && m.fence.current s) .staleAssignmentEvidence
  recordTermination m i (m.event runnerID reason) ((← get).terminals.get m.fence.instanceID)

/-- `recordDurableEvent`, for the evidence about Assignments. -/
def recordDurableEvent (e : Evidence) (now : Time) : Tx Unit :=
  match e with
  | .ack m => recordAssignmentAck runnerID m now
  | .progress m => recordAssignmentProgress runnerID m
  | .result m => recordAssignmentResult runnerID m now
  | .fence m => recordFenceEvent runnerID m
  | .terminal m => recordInstanceTerminal runnerID m

/-! ## Delivery

Messages of one connection are recorded once and in order. -/

/-- The Sandboxes whose quota ledgers a message locks (`eventSandboxIDs`). -/
def Evidence.quotaSandboxIDs : Evidence → List ID
  | .ack _ | .progress _ | .result _ => []
  | .fence m => if m.fence.sandboxID == "" then [] else [m.fence.sandboxID]
  | .terminal m => if m.fence.sandboxID == "" then [] else [m.fence.sandboxID]

/-- `rowlock.SandboxQuotas`: at least one of the Sandboxes must exist. -/
def lockSandboxQuotas (sandboxIDs : List ID) (context : String) : Tx Unit := do
  let d ← get
  require (sandboxIDs.isEmpty || sandboxIDs.any fun id => (d.sandboxes.get id).isSome)
    (.database context)

/-- The envelope of a message. -/
structure Envelope where
  runnerID : ID
  connectionID : ID
  messageID : ID
  sequence : Int

/-- A message with evidence. -/
structure Event where
  envelope : Envelope
  evidence : Evidence

/-- A message and when it arrived. -/
structure EventRecord where
  event : Event
  receivedAt : Time

/-- Remember a message. -/
def recordMessage (v : Envelope) : Tx Unit :=
  modify fun d =>
    { d with messages := d.messages.insertNew (v.connectionID, v.messageID) v.sequence }

/-- Remember the connection's last sequence. -/
def setLastSequence (connectionID : ID) (sequence : Int) : Tx Unit :=
  modify fun d => { d with
    connections :=
      d.connections.updateAt connectionID fun c => { c with lastSequence := sequence } }

/-- `beginOrderedMessage`: true for a message that was recorded before. -/
def beginOrderedMessage (v : Envelope) (sandboxIDs : List ID) : Tx Bool := do
  require (v.runnerID != "" && v.connectionID != "" && v.messageID != "" && v.sequence != 0)
    .runnerMessage
  lockSandboxQuotas sandboxIDs "SecondBox runner message quota lock"
  let c ← row (·.connections) v.connectionID "SecondBox runner connection ordering lookup"
  require (c.runnerID == v.runnerID && c.active)
    (.invalid "SecondBox runner message connection identity is inactive")
  if ((← get).messages.get (v.connectionID, v.messageID)).isSome then
    pure true
  else do
    require (c.lastSequence < v.sequence) .sequenceReordered
    recordMessage v
    setLastSequence v.connectionID v.sequence
    pure false

/-- `validatePersistedInstanceTerminal` -/
def validatePersistedInstanceTerminal (m : InstanceTerminal) : Tx Unit := do
  let reason ← expect m.reason.reason (.invalid "SecondBox Runner instance terminal reason is unsupported")
  let e ← row (·.terminals) m.fence.instanceID
    "SecondBox duplicate Runner instance terminal evidence lookup"
  require (e == m.event runnerID reason)
    (.invalid "SecondBox duplicate Runner instance terminal evidence changed")

/-- `RecordEvent` -/
def recordEvent (r : EventRecord) : Tx Unit := do
  if ← beginOrderedMessage r.event.envelope r.event.evidence.quotaSandboxIDs then
    match r.event.evidence with
    | .terminal m => validatePersistedInstanceTerminal r.event.envelope.runnerID m
    | _ => pure ()
  else
    recordDurableEvent r.event.envelope.runnerID r.event.evidence r.receivedAt

/-- The sequences of a batch grow from the last recorded one. -/
def orderedFrom : Int → List Int → Bool
  | _, [] => true
  | last, n :: ns => last < n && orderedFrom n ns

/-- Remember the messages of a batch. -/
def recordMessages : List EventRecord → Tx Unit
  | [] => pure ()
  | r :: rs => do
    recordMessage r.event.envelope
    recordMessages rs

/-- Record the evidence of a batch. -/
def recordDurableEvents : List EventRecord → Tx Unit
  | [] => pure ()
  | r :: rs => do
    recordDurableEvent r.event.envelope.runnerID r.event.evidence r.receivedAt
    recordDurableEvents rs

/-- The transaction of a batch: true, and nothing done, if one of its messages
    was recorded before. -/
def recordBatch (v : Envelope) (rs : List EventRecord) : Tx Bool := do
  lockSandboxQuotas (rs.flatMap (·.event.evidence.quotaSandboxIDs))
    "SecondBox runner event batch quota lock"
  let c ← row (·.connections) v.connectionID "SecondBox runner event batch connection ordering lookup"
  require (c.runnerID == v.runnerID && c.active)
    (.invalid "SecondBox runner event batch connection identity is inactive")
  let d ← get
  if rs.any fun r => (d.messages.get (v.connectionID, r.event.envelope.messageID)).isSome then
    pure true
  else do
    let sequences := rs.map (·.event.envelope.sequence)
    require (orderedFrom c.lastSequence sequences) .sequenceReordered
    recordMessages rs
    setLastSequence v.connectionID (sequences.getLastD 0)
    recordDurableEvents rs
    pure false

/-- One transaction, with its answer and the database it leaves. -/
def perform {α : Type} (m : Tx α) (d : DB) : Except Err α × DB := (m.answer d, m.commit d)

/-- `RecordEvent` of each record, until one fails. -/
def recordEach : List EventRecord → DB → Except Err Unit × DB
  | [], d => (.ok (), d)
  | r :: rs, d =>
    match perform (recordEvent r) d with
    | (.ok (), d') => recordEach rs d'
    | (.error e, d') => (.error e, d')

/-- The envelope has an id and a sequence (`runnerEnvelope`). -/
def Envelope.valid (v : Envelope) : Bool := v.messageID != "" && v.sequence != 0

/-- `RecordEvents`: one transaction for the whole batch, unless a message of it
    was recorded before. -/
def recordEvents (rs : List EventRecord) (d : DB) : Except Err Unit × DB :=
  match rs with
  | [] => (.error (.invalid "SecondBox runner event persistence batch is empty"), d)
  | [r] => perform (recordEvent r) d
  | r :: _ =>
    let v := r.event.envelope
    if !rs.all fun r => r.event.envelope.runnerID == v.runnerID && r.event.envelope.connectionID ==
      v.connectionID then
      (.error (.invalid "SecondBox runner event persistence batch spans connection identities"), d)
    else if !rs.all (·.event.envelope.valid) then
      (.error .runnerMessage, d)
    else
      match perform (recordBatch v rs) d with
      | (.ok false, d') => (.ok (), d')
      | (.ok true, _) => recordEach rs d
      | (.error e, _) => (.error e, d)

end SecondBox.Fleet

/-
  Assignment recovery (internal/reconcile): Runners that stopped sending
  heartbeats, claims on due Assignments, and the decisions of the Assignment
  worker.

  What a fenced generation does to the data plane is modelled there; here
  AdvanceFencedGeneration moves the Assignment, its Instance, Sandbox and
  Workspace.
-/
import SecondBox.Fleet.Evidence

namespace SecondBox.Fleet

open Relational Relational.Tx

/-! ## Runner loss -/

/-- The row when its Runner is lost. -/
def Assignment.lose (a : Assignment) (now : Time) : Assignment :=
  { a with state := .uncertain, failureClass := .transient, nextReconcileAt := now, revision := a.revision + 1 }

/-- The Runners `MarkExpiredRunners` finds lost. -/
def DB.expired (d : DB) (cutoff : Time) (runnerID : ID) (r : Runner) : Bool :=
  decide (r.lastSeenAt < cutoff) &&
    (r.state == .ready || r.state == .draining || r.state == .connected ||
      r.state == .offline && d.assignments.any fun _ a => a.runnerID == runnerID && a.state.placed)

/-- `MarkExpiredRunners` -/
def markExpiredRunners (cutoff now : Time) : Tx Unit :=
  modify fun d => { d with
    runners := d.runners.updateWhere (d.expired cutoff) fun r => { r with state := .offline }
    assignments := d.assignments.updateWhere
      (fun _ a => (d.runners.get a.runnerID).any (d.expired cutoff a.runnerID) && a.state.placed)
        (·.lose now) }

/-! ## Claims -/

/-- The durable evidence a decision is computed from (`reconcile.AssignmentState`). -/
structure AssignmentView where
  state : AssignmentState
  generation : Int
  fenceProofDigest : String
  failureClass : FailureClass
  retryCount : Int
  retryLimit : Int
  deadline : Time
deriving DecidableEq

/-- What the reconciler reads. -/
def Assignment.view (a : Assignment) : AssignmentView where
  state := a.state
  generation := a.generation
  fenceProofDigest := a.releaseProof
  failureClass := a.failureClass
  retryCount := a.retryCount
  retryLimit := a.retryLimit
  deadline := a.operationDeadline

/-- A claimed Assignment. -/
structure Claim where
  assignmentID : ID
  sandboxID : ID
  instanceID : ID
  runnerID : ID
  workerID : ID
  fencingToken : Bytes
  correlation : Correlation
  revision : Int
  view : AssignmentView

/-- `failure_class IN ('fencing','startup_timeout')` -/
def FailureClass.fences : FailureClass → Bool
  | fencing | startupTimeout => true
  | _ => false

/-- The Assignment is due and belongs to the Sandbox's current Instance. -/
def DB.due (d : DB) (a : Assignment) (now : Time) : Bool :=
  decide (a.nextReconcileAt ≤ now) && decide (a.reconcileClaimExpiresAt ≤ now) &&
    (a.state.claimable || a.state == .fenced && a.failureClass.fences) &&
    (d.sandboxes.get a.sandboxID).any fun s => s.currentInstanceID == a.instanceID &&
      s.generation == a.generation

/-- The payload of the newest Assignment command. -/
def DB.assignmentPayload (d : DB) (assignmentID : ID) : Option Payload :=
  (d.commands.find? fun _ c => c.assignmentID == assignmentID && c.kind == .assignment).map
    (·.2.payload)

/-- The correlation the Assignment's command carries, if it names the Assignment. -/
def DB.assignmentCorrelation (d : DB) (assignmentID : ID) (a : Assignment) : Option Correlation :=
  match d.assignmentPayload assignmentID with
  | some (.assignment (some c)) =>
    if c.matches a.runnerID (a.fence assignmentID) then some c else none
  | _ => none

/-- `ClaimNext`, for the due Assignment `id` the query returns.  An Assignment
    whose command cannot be validated is put off instead (`deferPoisonClaim`). -/
def claimNext (workerID id : ID) (claimExpiresAt now : Time) : Tx (Option Claim) := do
  require (workerID != "" && decide (now < claimExpiresAt))
    (.invalid "SecondBox reconciliation claim requires worker identity and future expiry")
  let d ← get
  match d.assignments.get id with
  | none => pure none
  | some a =>
    if !d.due a now then
      pure none
    else
      match d.assignmentCorrelation id a with
      | none => do
        updateAssignment id fun a => { a with nextReconcileAt := claimExpiresAt }
        pure none
      | some correlation => do
        updateAssignment id fun a =>
          { a with reconcileOwner := workerID, reconcileClaimExpiresAt := claimExpiresAt }
        pure (some
          { assignmentID := id, sandboxID := a.sandboxID, instanceID := a.instanceID, runnerID := a.runnerID
            workerID, fencingToken :=
              a.fencingToken, correlation, revision := a.revision, view := a.view })

/-! ## Decisions -/

/-- What the reconciler decides. -/
inductive Action where
  | wait
  | retry
  | fence
  | advanceGeneration
  | failTerminal
deriving DecidableEq

/-- `DecideRunnerLoss` -/
def decideRunnerLoss (v : AssignmentView) : Action :=
  if v.state == .fenced && v.fenceProofDigest != "" then .advanceGeneration else .fence

/-- `DecideAssignment` -/
def decideAssignment (v : AssignmentView) (now : Time) : Action :=
  if v.state == .ready then .wait
  else if v.state == .fencing then
    if v.deadline == 0 || decide (now < v.deadline) then .wait
    else if v.retryCount < v.retryLimit then .fence
    else .failTerminal
  else if v.deadline != 0 && !decide (now < v.deadline) then .fence
  else if v.state != .failed then .wait
  else if v.failureClass == .transient && decide (v.retryCount < v.retryLimit) then .retry
  else .failTerminal

/-- `assignmentWorkerDecision` -/
def assignmentWorkerDecision (v : AssignmentView) (now : Time) : Action :=
  if v.state == .uncertain then decideRunnerLoss v
  else if v.state == .fenced && v.fenceProofDigest != "" then
    if v.failureClass == .fencing then decideRunnerLoss v
    else if v.failureClass == .startupTimeout then .failTerminal
    else .wait
  else decideAssignment v now

/-- The columns a decision writes. -/
structure Transition where
  state : AssignmentState
  failureClass : FailureClass
  retryCount : Int
  deadline : Time

/-- The fence command is the claim's. -/
def Claim.owns (c : Claim) (id : ID) (f : FenceCommand) : Bool :=
  id != "" && f.fence.assignmentID == c.assignmentID && f.fence.sandboxGeneration ==
    c.view.generation && f.correlation == c.correlation && f.deadlineUnixMs != 0

/-- The transition an action makes, and whether its fence command is the claim's. -/
def Claim.transition (c : Claim) (action : Action) (fenceCommand : Option (ID × FenceCommand)) :
    Except Err Transition :=
  match action with
  | .wait => .ok ⟨c.view.state, c.view.failureClass, c.view.retryCount, c.view.deadline⟩
  | .fence =>
    match fenceCommand with
    | none =>
      .error (.invalid "SecondBox reconciliation fence action requires matching command authority")
    | some (id, f) =>
      if c.owns id f then
        .ok { state := .fencing
              failureClass :=
                if c.view.state == .uncertain || c.view.failureClass == .fencing then
                  .fencing else .startupTimeout
              retryCount := if c.view.state == .fencing then c.view.retryCount + 1 else 0
              deadline := ofUnixMilli f.deadlineUnixMs }
      else .error (.invalid "SecondBox reconciliation fence action requires matching command authority")
  | .retry => .ok ⟨.assigned, .none, c.view.retryCount + 1, c.view.deadline⟩
  | .failTerminal => .ok ⟨.failedTerminal, c.view.failureClass, c.view.retryCount, c.view.deadline⟩
  | .advanceGeneration =>
    .error (.invalid "SecondBox reconciliation generation advancement requires AdvanceFencedGeneration")

/-- The row is still the one the worker claimed. -/
def Claim.holds (c : Claim) (a : Assignment) : Bool :=
  a.revision == c.revision && a.reconcileOwner == c.workerID

/-- The row after a decision. -/
def Assignment.transition (a : Assignment) (t : Transition) (nextReconcileAt now : Time) :
    Assignment :=
  { a with state := t.state, failureClass := t.failureClass, retryCount := t.retryCount
           operationDeadline := t.deadline, nextReconcileAt, reconcileOwner := ""
           reconcileClaimExpiresAt := now, revision := a.revision + 1 }

/-- Stands for the digest of the Assignment and the retry count. -/
def retryAssignmentCommandID (assignmentID : ID) (retryCount : Int) : ID :=
  "assignment-retry-" ++ assignmentID ++ "-" ++ toString retryCount

/-- The unfinished commands of the Assignment of the kinds the worker queues. -/
def supersededCommand (assignmentID : ID) (kinds : CommandKind → Bool) (_ : ID) (c : Command) :
    Bool :=
  c.assignmentID == assignmentID && kinds c.kind && c.state.unfinished

/-- The fence command of a decision supersedes the Assignment's earlier commands. -/
def queueFence (c : Claim) (id : ID) (f : FenceCommand) : Tx Unit := do
  setCommandsWhere (supersededCommand c.assignmentID (·.ofWorker)) .expired
  insertCommand id { runnerID := c.runnerID, assignmentID := c.assignmentID, kind := .fence, payload := .fence f }
    "SecondBox reconciliation Fence command insert"

/-- A retry queues the Assignment's command again. -/
def queueRetry (c : Claim) (retryCount : Int) : Tx Unit := do
  let payload ← expect ((← get).assignmentPayload c.assignmentID)
    (.database "SecondBox reconciliation Assignment retry payload lookup")
  setCommandsWhere (supersededCommand c.assignmentID (· == .assignment)) .expired
  modify fun d => { d with
    commands := d.commands.insertNew (retryAssignmentCommandID c.assignmentID retryCount)
      { runnerID := c.runnerID, assignmentID := c.assignmentID, kind := .assignment, payload } }

/-- A terminal failure releases the start mutation; any other one is in its way. -/
def releaseFailedStart (c : Claim) (workspaceID : ID) (w : Workspace) : Tx Unit := do
  if w.mutation.state == .none then
    pure ()
  else do
    require (w.mutation.kind == .start && w.mutation.expectedGeneration.getD 0 == c.view.generation)
      .workspaceMutation
    require (w.mutation.expectedGeneration == some c.view.generation) .claimLost
    modify fun d => { d with workspaces := d.workspaces.updateAt workspaceID (·.release) }

/-- A terminal failure fails the Sandbox, its Instance and its start Operations. -/
def failTerminally (c : Claim) (workspaceID : ID) (w : Workspace) : Tx Unit := do
  releaseFailedStart c workspaceID w
  setCommandsWhere (supersededCommand c.assignmentID (·.ofWorker)) .failed
  modify fun d => { d with
    sandboxes := d.sandboxes.updateWhere (fun k s => k == c.sandboxID &&
      s.generation == c.view.generation) fun s =>
      { s with state := .failed, lifecycleTerminationReason := .startupFailed, reconcileOwner := "" }
    instances :=
      d.instances.updateWhere (fun k i => k == c.instanceID && i.state != .stopped) fun i =>
      { i with state := .failed, terminationReason := i.terminationReason.or .startupFailed }
    operations := d.operations.updateWhere
      (fun _ o => o.sandboxID == c.sandboxID && o.kind.starts && o.state.unfinished) fun o =>
        { o with state := .failed, errorCode := "startup_failed"
                 errorMessage := "Assignment reconciliation exhausted its retry bound" } }

/-- `ApplyDecision` -/
def applyDecision (c : Claim) (action : Action) (fenceCommand : Option (ID × FenceCommand))
    (nextReconcileAt now : Time) : Tx Unit := do
  let t ← liftM (c.transition action fenceCommand)
  let (s, w) ← lockSandboxWorkspace c.sandboxID "SecondBox reconciliation Sandbox/Workspace lock"
  require (s.generation == c.view.generation && s.currentInstanceID == c.instanceID) .claimLost
  require (((← get).assignments.get c.assignmentID).any c.holds) .claimLost
  updateAssignment c.assignmentID (·.transition t nextReconcileAt now)
  match action, fenceCommand with
  | .fence, some (id, f) => queueFence c id f
  | .retry, _ => queueRetry c t.retryCount
  | .failTerminal, _ => failTerminally c s.workspaceID w
  | _, _ => pure ()

/-! ## Generation advance -/

/-- The start mutation of a fenced Assignment whose command was never delivered. -/
def DB.replacesFencedStart (d : DB) (assignmentID : ID) (generation : Int) (m : Mutation) : Bool :=
  m.kind == .start && m.id != "" && m.effectID != "" && m.state == .assigned &&
    m.expectedGeneration.getD 0 == generation && m.targetGeneration.getD 0 == generation &&
    (d.commands.get m.effectID).any fun c =>
      c.assignmentID == assignmentID && c.kind == .assignment && c.state == .expired

/-- A stop of this generation already holds the Workspace. -/
def Mutation.stops (m : Mutation) (generation : Int) : Bool :=
  m.kind == .stop && m.id != "" && m.effectID != "" && m.expectedGeneration.getD 0 == generation &&
    m.targetGeneration.getD 0 == generation + 1

/-- The mutation of the stop effect that Runner loss queues. -/
def Mutation.runnerLoss (effectID : ID) (generation : Int) : Mutation where
  kind := .stop
  id := effectID
  effectID := effectID
  operationID := effectID
  expectedGeneration := some generation
  targetGeneration := some (generation + 1)
  state := .advancing

/-- Queue the generation advance as a stop effect of its own. -/
def queueRunnerLossStop (assignmentID : ID) (a : Assignment) (workspaceID : ID) (w : Workspace)
    (now : Time) :
    Tx Unit := do
  let effectID := "runner-loss-stop-" ++ assignmentID
  let commandID := effectID ++ "-generation-advance"
  modify fun d => { d with
    workspaces := d.workspaces.updateAt workspaceID fun w =>
      { w with mutation := .runnerLoss effectID a.generation } }
  require ((← get).effects.get effectID).isNone
    (.database "SecondBox runner-loss stop effect insert")
  modify fun d => { d with
    effects := d.effects.insertNew effectID
      { sandboxID := a.sandboxID, generation := a.generation, kind := .stop, assignmentID
        instanceID := a.instanceID, runnerID := a.runnerID, commandID, fencingToken := a.fencingToken
        retryLimit := 8, deadline := now + 600000, evidence := a.releaseProof } }
  insertCommand commandID
    { runnerID := a.runnerID, assignmentID := effectID, kind := .localWorkspace
      payload := .localWorkspace (generationAdvance effectID a.sandboxID workspaceID a.runnerID
        ("request-" ++ effectID) a.generation w a.fencingToken) }
    "SecondBox runner-loss generation-advance command insert"

/-- The row of a released Assignment. -/
def Assignment.release (a : Assignment) (now : Time) : Assignment :=
  { a with state := .released, reconcileOwner := "", reconcileClaimExpiresAt := now, revision := a.revision + 1 }

/-- The Assignment is released and its Sandbox stops. -/
def DB.releaseFenced (d : DB) (assignmentID : ID) (a : Assignment) (now : Time) : DB :=
  { d with
    assignments := d.assignments.updateAt assignmentID (·.release now)
    commands := d.commands.updateWhere (supersededCommand assignmentID fun _ => true) fun c =>
      { c with state := .expired }
    instances :=
      d.instances.updateWhere (fun k i => k == a.instanceID && i.sandboxID == a.sandboxID &&
      i.generation == a.generation) fun i =>
        { i with state := .stopped, terminationReason := i.terminationReason.or .runnerLost }
    sandboxes := d.sandboxes.updateAt a.sandboxID fun s =>
      { s with state := .stopping, lifecycleTerminationReason := s.lifecycleTerminationReason.or .runnerLost
               reconcileOwner := "" } }

/-- The stop that advances the generation: a new one, or the one that holds the Workspace. -/
def takeStopMutation (assignmentID : ID) (a : Assignment) (workspaceID : ID) (w : Workspace)
    (now : Time) :
    Tx Unit := do
  if w.mutation.state == .none || (← get).replacesFencedStart assignmentID a.generation
    w.mutation then do
    require (w.mutation.state == .none || w.mutation.expectedGeneration == some a.generation &&
      w.mutation.targetGeneration == some a.generation) .workspaceMutation
    queueRunnerLossStop assignmentID a workspaceID w now
  else do
    require (w.mutation.stops a.generation) .workspaceMutation
    let e ← row (·.effects) w.mutation.effectID "SecondBox runner-loss existing stop effect lookup"
    require (e.kind == .stop) .workspaceMutation

/-- `AdvanceFencedGeneration` -/
def advanceFencedGeneration (assignmentID : ID) (expectedRevision : Int) (now : Time) :
    Tx Unit := do
  let a ← row (·.assignments) assignmentID "SecondBox fenced Assignment identity lookup"
  let (s, w) ← lockSandboxWorkspace a.sandboxID "SecondBox fenced Sandbox/Workspace lookup"
  require (s.generation == a.generation && s.currentInstanceID == a.instanceID) .claimLost
  require (expectedRevision == 0 || a.revision == expectedRevision) .claimLost
  require (a.state == .fenced && a.releaseProof != "") .fenceProofAbsent
  require (w.homeRunnerID == a.runnerID && w.state == .ready && w.generation == a.generation)
    .claimLost
  takeStopMutation assignmentID a s.workspaceID w now
  modify (·.releaseFenced assignmentID a now)

/-! ## The worker -/

/-- The worker's intervals. -/
structure WorkerConfig where
  pollInterval : Int
  commandDeadline : Int

/-- The fence command `RunOnce` builds for a claim. -/
def Claim.fenceCommand (c : Claim) (cfg : WorkerConfig) (now : Time) : FenceCommand where
  fence :=
    { assignmentID := c.assignmentID, sandboxID := c.sandboxID, instanceID := c.instanceID
      sandboxGeneration := c.view.generation, fencingToken := c.fencingToken }
  reason :=
    if c.view.state == .uncertain || c.view.failureClass == .fencing then .generationAdvanced
    else .assignmentReplaced
  deadlineUnixMs := unixMilli (now + cfg.commandDeadline)
  correlation := c.correlation

/-- What `RunOnce` does with a claim; `commandID` names the fence command it may queue. -/
def workClaim (cfg : WorkerConfig) (c : Claim) (commandID : ID) (now : Time) : Tx Unit :=
  let action := assignmentWorkerDecision c.view now
  match action with
  | .advanceGeneration => advanceFencedGeneration c.assignmentID c.revision now
  | .fence =>
    applyDecision c .fence (some (commandID, c.fenceCommand cfg now)) (now + cfg.pollInterval) now
  | action => applyDecision c action none (now + cfg.pollInterval) now

/-- What `RunOnce` does when the Workspace is held by another mutation. -/
def deferClaim (cfg : WorkerConfig) (c : Claim) (now : Time) : Tx Unit :=
  applyDecision c .wait none (now + cfg.pollInterval) now

end SecondBox.Fleet

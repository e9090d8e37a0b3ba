/-
  The control plane's fleet: rows, messages and errors of the PostgreSQL tables
  through which internal/scheduler places Sandboxes on Runners,
  internal/runnercontrol records what Runners report, and internal/reconcile
  recovers Assignments.

  A generation travels as `uint64` and is stored as `int64`; the conversion is a
  bijection, so both are `Int` here.  An empty `release_proof_json` and one
  without a digest read alike, so the proof is its digest.
-/
import SecondBox.Base.Table
import SecondBox.Base.Tx

namespace SecondBox.Fleet

open Relational

/-- The id of a row. -/
abbrev ID := String

/-- A byte string. -/
abbrev Bytes := List UInt8

/-- Milliseconds since Go's zero time, so that `IsZero` is `= 0`. -/
abbrev Time := Int

/-- `time.Time.UnixMilli` -/
def unixMilli (t : Time) : Int := t - 62135596800000

/-- `time.UnixMilli` -/
def ofUnixMilli (ms : Int) : Time := ms + 62135596800000

/-! ## Enumerations -/

/-- The Assignment states. -/
inductive AssignmentState where
  | assigned
  | accepted
  | starting
  | ready
  | uncertain
  | fencing
  | fenced
  | released
  | failed
  | failedTerminal
deriving DecidableEq

namespace AssignmentState

/-- `state IN ('assigned','accepted','starting')`: no outcome was reported yet. -/
def pending : AssignmentState → Bool
  | assigned | accepted | starting => true
  | _ => false

/-- `state IN ('assigned','accepted','starting','ready')`: what Runner loss makes uncertain. -/
def placed : AssignmentState → Bool
  | assigned | accepted | starting | ready => true
  | _ => false

/-- The states in which an Instance may run. -/
def mayRun : AssignmentState → Bool
  | assigned | accepted | starting | ready | uncertain | fencing => true
  | _ => false

/-- `state IN ('assigned','accepted','starting','uncertain','failed','fencing')` -/
def claimable : AssignmentState → Bool
  | assigned | accepted | starting | uncertain | failed | fencing => true
  | _ => false

end AssignmentState

/-- Why an Assignment fails. -/
inductive FailureClass where
  | none
  | transient
  | compatibility
  | fencing
  | integrity
  | admission
  | startupTimeout
deriving DecidableEq

/-- The Sandbox states. -/
inductive SandboxState where
  | creating
  | stopped
  | starting
  | ready
  | draining
  | stopping
  | failed
  | deleting
  | deleted
deriving DecidableEq

/-- The states a Sandbox can be asked for. -/
inductive DesiredState where
  | running
  | stopped
  | deleted
deriving DecidableEq

/-- The Instance states. -/
inductive InstanceState where
  | starting
  | ready
  | stopped
  | failed
deriving DecidableEq

/-- The column `termination_reason`; `none` is the empty text. -/
inductive TerminationReason where
  | none
  | requestedDrain
  | requestedStop
  | idleTimeout
  | maximumDuration
  | guestShutdown
  | resourceExhaustion
  | guestAgentLost
  | runnerLost
  | startupFailed
  | fenced
  | internalFailure
deriving DecidableEq

/-- `CASE WHEN reason='' THEN r ELSE reason END` -/
def TerminationReason.or : TerminationReason → TerminationReason → TerminationReason
  | .none, r => r
  | reason, _ => reason

/-- The Workspace states. -/
inductive WorkspaceState where
  | creating
  | ready
  | failed
  | deleting
  | deleted
deriving DecidableEq

/-- What holds a Workspace. -/
inductive MutationKind where
  | none
  | create
  | clone
  | start
  | stop
  | snapshotCreate
  | snapshotDelete
  | snapshotRestore
  | relocate
  | workspaceDelete
deriving DecidableEq

/-- How far it is. -/
inductive MutationState where
  | none
  | requested
  | queued
  | assigned
  | stopping
  | advancing
  | runnerSucceeded
  | failed
  | deleting
  | sourceSealed
  | deletingSource
  | aborting
  | abortingSourceSealed
deriving DecidableEq

/-- The kinds of Runner commands. -/
inductive CommandKind where
  | assignment
  | fence
  | lifecycleFence
  | localWorkspace
  | drain
deriving DecidableEq

/-- `kind IN ('fence','lifecycle_fence')` -/
def CommandKind.fences : CommandKind → Bool
  | fence | lifecycleFence => true
  | _ => false

/-- `kind IN ('assignment','fence')` -/
def CommandKind.ofWorker : CommandKind → Bool
  | assignment | fence => true
  | _ => false

/-- The command states. -/
inductive CommandState where
  | pending
  | delivering
  | delivered
  | acknowledged
  | expired
  | failed
deriving DecidableEq

/-- `state IN ('pending','delivering','delivered')` -/
def CommandState.unfinished : CommandState → Bool
  | pending | delivering | delivered => true
  | _ => false

/-- The kinds of effects. -/
inductive EffectKind where
  | stop
  | storage
deriving DecidableEq

/-- The effect states. -/
inductive EffectState where
  | queued
  | runnerSucceeded
  | runnerFailed
  | succeeded
  | failed
deriving DecidableEq

/-- The Operation kinds. -/
inductive OperationKind where
  | create
  | start
  | drain
  | stop
  | delete
  | snapshot
  | restore
  | relocate
deriving DecidableEq

/-- `kind IN ('create','start')` -/
def OperationKind.starts : OperationKind → Bool
  | create | start => true
  | _ => false

/-- The Operation states. -/
inductive OperationState where
  | pending
  | running
  | succeeded
  | failed
  | cancelled
deriving DecidableEq

/-- `state IN ('pending','running')` -/
def OperationState.unfinished : OperationState → Bool
  | pending | running => true
  | _ => false

/-- The Runner states. -/
inductive RunnerState where
  | connected
  | ready
  | draining
  | drained
  | offline
deriving DecidableEq

/-- The drain phases. -/
inductive DrainPhase where
  | active
  | draining
  | drained
deriving DecidableEq

/-- Why an Assignment is fenced. -/
inductive FenceReason where
  | generationAdvanced
  | assignmentReplaced
  | operatorRequest
  | leaseExpired
deriving DecidableEq

/-! ## Messages -/

/-- `AssignmentFence` -/
structure Fence where
  assignmentID : ID
  sandboxID : ID
  instanceID : ID
  sandboxGeneration : Int
  fencingToken : Bytes
deriving DecidableEq

/-- What a message is about. -/
structure Correlation where
  requestID : ID
  operationID : ID
  sandboxID : ID
  instanceID : ID := ""
  sandboxGeneration : Int
  assignmentID : ID := ""
  leaseID : ID := ""
  runnerID : ID
deriving DecidableEq

/-- The payload of a fence. -/
structure FenceCommand where
  fence : Fence
  reason : FenceReason
  deadlineUnixMs : Int
  correlation : Correlation

/-- The kinds of Workspace commands. -/
inductive LocalWorkspaceKind where
  | create
  | cloneFromSnapshot
  | inspect
  | delete
  | advanceGeneration
  | snapshotCreate
  | snapshotDelete
  | restorePrepare
  | restoreSwap
  | restoreFinalize
  | restoreAbort
  | reconcile
  | relocationExport
  | relocationImport
  | relocationDeleteSource
  | relocationAbortSource
deriving DecidableEq

/-- The payload of a Workspace command. -/
structure LocalWorkspaceCommand where
  kind : LocalWorkspaceKind
  operationID : ID
  effectID : ID
  sandboxID : ID
  workspaceID : ID
  snapshotID : ID := ""
  expectedGeneration : Int
  nextGeneration : Int
  logicalCapacityBytes : Int
  fencingToken : Bytes
  correlation : Correlation

/-- What the control plane reads back from `runner_commands.payload`. -/
inductive Payload where
  /-- an Assignment command, of which only the correlation is read back -/
  | assignment (correlation : Option Correlation)
  | fence (command : FenceCommand)
  | localWorkspace (command : LocalWorkspaceCommand)
  | other

/-! ## Rows -/

/-- A row of `assignments`. -/
structure Assignment where
  sandboxID : ID
  instanceID : ID
  runnerID : ID
  profileRevisionID : ID := ""
  backendKind : String := ""
  backendReference : String := ""
  generation : Int
  fencingToken : Bytes
  state : AssignmentState
  /-- `terminationEvidenceDigest` of `release_proof_json` -/
  releaseProof : String := ""
  failureClass : FailureClass := .none
  retryCount : Int := 0
  retryLimit : Int := 0
  operationDeadline : Time := 0
  reconcileOwner : ID := ""
  reconcileClaimExpiresAt : Time := 0
  nextReconcileAt : Time := 0
  revision : Int := 1
  egressContext : Option String := none
deriving DecidableEq

/-- The fence a message about this Assignment carries. -/
def Assignment.fence (id : ID) (a : Assignment) : Fence where
  assignmentID := id
  sandboxID := a.sandboxID
  instanceID := a.instanceID
  sandboxGeneration := a.generation
  fencingToken := a.fencingToken

/-- The Assignment was recorded stopped, with termination evidence. -/
def Assignment.Proven (a : Assignment) : Prop := a.releaseProof ≠ ""

instance (a : Assignment) : Decidable a.Proven := inferInstanceAs (Decidable (a.releaseProof ≠ ""))

/-- A row of `sandboxes`. -/
structure Sandbox where
  workspaceID : ID
  profileRevisionID : ID := ""
  egressContext : Option String := none
  state : SandboxState
  desiredState : DesiredState
  generation : Int
  currentInstanceID : ID
  lifecycleTerminationReason : TerminationReason := .none
  executionImageReference : String := ""
  executionImageDigest : String := ""
  vcpuCount : Int := 0
  memoryBytes : Int := 0
  workspaceBytes : Int := 0
  reconcileOwner : ID := ""
deriving DecidableEq

/-- The mutation slot of a Workspace; the generations are nullable. -/
structure Mutation where
  kind : MutationKind := .none
  id : ID := ""
  effectID : ID := ""
  operationID : ID := ""
  expectedGeneration : Option Int := none
  targetGeneration : Option Int := none
  state : MutationState := .none
deriving DecidableEq

/-- A row of `workspaces`. -/
structure Workspace where
  sandboxID : ID
  homeRunnerID : ID
  state : WorkspaceState := .ready
  logicalCapacityBytes : Int := 0
  generation : Int
  mutation : Mutation := {}
deriving DecidableEq

/-- A row of `instances`. -/
structure Instance where
  sandboxID : ID
  generation : Int
  state : InstanceState
  requestedImageReference : String := ""
  resolvedImageDigest : String := ""
  terminationReason : TerminationReason := .none

/-- A row of `runner_commands`. -/
structure Command where
  runnerID : ID
  assignmentID : ID
  kind : CommandKind
  payload : Payload
  state : CommandState := .pending

/-- A row of `lifecycle_effects`. -/
structure Effect where
  sandboxID : ID
  generation : Int
  kind : EffectKind
  state : EffectState := .queued
  assignmentID : ID := ""
  instanceID : ID := ""
  runnerID : ID := ""
  commandID : ID
  fencingToken : Bytes := []
  retryCount : Int := 0
  retryLimit : Int := 0
  deadline : Time := 0
  /-- the termination evidence of `evidence_json` -/
  evidence : String := ""

/-- A row of `operations`. -/
structure Operation where
  sandboxID : ID
  kind : OperationKind
  state : OperationState
  errorCode : String := ""
  errorMessage : String := ""
  /-- `executionImageReference` of `request_metadata_json` -/
  executionImageReference : String := ""

/-- A row of `runner_connections`. -/
structure Connection where
  runnerID : ID
  active : Bool := true
  lastSequence : Int := 0
deriving DecidableEq

/-- A row of `instance_terminal_events`. -/
structure TerminalEvent where
  sandboxID : ID
  generation : Int
  assignmentID : ID
  runnerID : ID
  reason : TerminationReason
  digest : String
  observedAt : Time
  requestID : ID
  operationID : ID
  leaseID : ID
deriving DecidableEq

/-- A Runner's capacity. -/
structure Capacity where
  vcpuCount : Int := 0
  memoryBytes : Int := 0
  diskBytes : Int := 0
  instances : Int := 0
  operations : Int := 0
deriving DecidableEq

/-- An image a Runner holds. -/
structure Materialization where
  backendKind : String
  architecture : String
  digest : String
deriving DecidableEq

/-- A row of `runners`. -/
structure Runner where
  poolName : ID
  state : RunnerState
  architectures : List String := []
  capabilities : List String := []
  allocatable : Capacity := {}
  reserved : Capacity := {}
  drainPhase : DrainPhase := .active
  lastSeenAt : Time := 0
  materializations : List Materialization := []
  supportedEgressContexts : List String := []
  backendKind : String := ""
  activeConnectionID : ID := ""
deriving DecidableEq

/-- A row of `runner_pools`. -/
structure Pool where
  ready : Bool := true
  backendKind : String := ""
  readyRunnerCount : Nat := 0

/-- The part of a Profile revision's `spec_json` placement reads. -/
structure ProfileRevision where
  concurrentOperations : Int

/-- The database. -/
structure DB where
  sandboxes : Table ID Sandbox := .empty
  workspaces : Table ID Workspace := .empty
  instances : Table ID Instance := .empty
  assignments : Table ID Assignment := .empty
  commands : Table ID Command := .empty
  effects : Table ID Effect := .empty
  operations : Table ID Operation := .empty
  runners : Table ID Runner := .empty
  pools : Table ID Pool := .empty
  revisions : Table ID ProfileRevision := .empty
  connections : Table ID Connection := .empty
  /-- `runner_messages` by connection and message, with the sequence -/
  messages : Table (ID × ID) Int := .empty
  terminals : Table ID TerminalEvent := .empty

/-! ## Errors -/

/-- Why a transaction rolls back. -/
inductive Err where
  /-- `ErrStaleAssignmentEvidence` -/
  | staleAssignmentEvidence
  | runnerMessage
  | sequenceReordered
  | claimLost
  | fenceProofAbsent
  | workspaceMutation
  | profileRevisionMismatch
  | homeRunnerUnavailable
  | egressContextUnavailable
  | capacityWaitExpired
  | runnerPrerequisites
  /-- an error made where it occurs, with its text -/
  | invalid (message : String)
  /-- a query that must return a row returned none, or an insert met its key -/
  | database (context : String)
deriving DecidableEq

/-- A database transaction. -/
abbrev Tx := Relational.Tx DB Err

end SecondBox.Fleet

/-
  The control plane's data plane: rows and errors of the PostgreSQL tables that
  internal/runnercontrol reads and writes to admit, cancel and finish Exec,
  File, Terminal and Port sessions.

  `DB` holds the tables these transactions write.  The rows they only read
  (Sandboxes, Assignments, Leases, Runners, Subjects, Tenants and Profile
  revisions) are gathered in `Authority`.
-/
import SecondBox.Base.Table
import SecondBox.Base.Tx

namespace SecondBox.DataPlane

open Relational

/-- The id of a row. -/
abbrev ID := String

/-- A byte string. -/
abbrev Bytes := List UInt8

/-- Milliseconds since Go's zero time, so that `IsZero` is `= 0`. -/
abbrev Time := Int

/-! ## Enumerations -/

/-- The session kinds. -/
inductive SessionKind where
  | exec
  | file
  | terminal
  | port
deriving DecidableEq

/-- The session states. -/
inductive SessionState where
  | pending
  | running
  | cancelling
  | completed
  | failed
  | cancelled
  | expired
deriving DecidableEq

/-- `state IN ('pending','running','cancelling')`: the session counts as a
    running operation. -/
def SessionState.active : SessionState → Bool
  | pending | running | cancelling => true
  | completed | failed | cancelled | expired => false

/-- `state IN ('pending','running')` -/
def SessionState.live : SessionState → Bool
  | pending | running => true
  | _ => false

/-- The PortSession states. -/
inductive PortState where
  | opened
  | closing
  | closed
  | expired
  | fenced
deriving DecidableEq

/-- `state IN ('open','closing')` -/
def PortState.unfinished : PortState → Bool
  | opened | closing => true
  | _ => false

/-- How a client reaches the Runner. -/
inductive Transport where
  | proxied
  | direct
deriving DecidableEq

/-- How an Exec or a Terminal ends. -/
inductive ExecTerminalKind where
  | unspecified
  | exited
  | spawnFailed
  | deadlineExceeded
  | cancelled
  | outputExhausted
  | guestAgentFailed
  | runnerFailed
  | infrastructureFailed
  | fenced
deriving DecidableEq

/-- How a File operation ends. -/
inductive FileTerminalKind where
  | unspecified
  | completed
  | notFound
  | invalidPath
  | permissionDenied
  | checksumMismatch
  | limitExceeded
  | cancelled
  | fenced
  | failed
  | workspaceFull
deriving DecidableEq

/-- How a Port ends. -/
inductive PortTerminalKind where
  | unspecified
  | closed
  | cancelled
  | policyDenied
  | guestUnavailable
  | fenced
  | failed
deriving DecidableEq

/-- The column `terminal_kind`: empty, or the printed name of a terminal. -/
inductive TerminalKind where
  | none
  | exec (k : ExecTerminalKind)
  | file (k : FileTerminalKind)
  | port (k : PortTerminalKind)
deriving DecidableEq

/-- Why no process started. -/
inductive SpawnFailureReason where
  | unspecified
  | notFound
  | permissionDenied
  | invalidCwd
  | malformedExecutable
deriving DecidableEq

/-- Why the infrastructure failed. -/
inductive InfrastructureFailureReason where
  | unspecified
  | transport
  | admission
  | generationFenced
  | leaseFenced
  | guestAgent
  | executionNode
  | service
deriving DecidableEq

/-- The Sandbox states. -/
inductive SandboxState where
  | creating
  | stopped
  | starting
  | ready
  | draining
  | stopping
  | failed
  | deleting
  | deleted
deriving DecidableEq

/-- The Assignment states. -/
inductive AssignmentState where
  | assigned
  | accepted
  | starting
  | ready
  | uncertain
  | fencing
  | fenced
  | released
  | failed
deriving DecidableEq

/-- The Lease states. -/
inductive LeaseState where
  | active
  | released
  | expired
  | fenced
deriving DecidableEq

/-- The Subject states. -/
inductive SubjectState where
  | active
  | closing
  | closed
  | expired
deriving DecidableEq

/-- The Tenant states. -/
inductive TenantState where
  | active
  | suspended
  | expired
deriving DecidableEq

/-- A ceiling, or none: `contracts.PolicyLimit`. -/
inductive PolicyLimit where
  | unlimited
  | atMost (n : Int)

/-- `Allows` -/
def PolicyLimit.allows : PolicyLimit → Int → Bool
  | unlimited, _ => true
  | atMost n, value => value ≤ n

/-! ## Runner terminals -/

/-- The terminal of an Exec or a Terminal. -/
structure ExecTerminal where
  kind : ExecTerminalKind
  exitCode : Int := 0
  safeDetail : String := ""
  signal : Int := 0
  spawnFailureReason : SpawnFailureReason := .unspecified
  elapsedMilliseconds : Int := 0
  limitBytes : Int := 0
  infrastructureFailureReason : InfrastructureFailureReason := .unspecified
  retryable : Bool := false
  message : String := ""

/-- The terminal of a File operation. -/
structure FileTerminal where
  kind : FileTerminalKind
  safeDetail : String := ""

/-- The terminal of a Port. -/
structure PortTerminal where
  kind : PortTerminalKind
  safeDetail : String := ""

/-- The result of a buffered Exec. -/
structure ExecBufferedResult where
  stdout : Bytes
  stderr : Bytes
  terminal : Option ExecTerminal

/-- The result of a File operation. -/
structure FileCompletion where
  content : Bytes
  terminal : Option FileTerminal

/-- The authority a Runner frame names. -/
structure Fence where
  assignmentID : ID
  sandboxID : ID
  instanceID : ID
  sandboxGeneration : Int
  fencingToken : Bytes
deriving DecidableEq

/-- `dataPlaneCorrelation` -/
structure Correlation where
  requestID : ID
  operationID : ID
  sandboxID : ID
  instanceID : ID
  sandboxGeneration : Int
  assignmentID : ID
  leaseID : ID
  runnerID : ID
deriving DecidableEq

/-! ## Rows the data plane writes -/

/-- A buffered result: `dataPlaneResult`. -/
structure Result where
  stdout : Bytes := []
  stderr : Bytes := []
  content : Bytes := []

/-- A row of `data_plane_sessions`. -/
structure Session where
  tenantRef : ID
  subjectRef : ID
  sandboxID : ID
  profileRevisionID : ID
  assignmentID : ID
  instanceID : ID
  runnerID : ID
  generation : Int
  fencingToken : Bytes
  requestID : ID
  leaseID : ID
  kind : SessionKind
  operation : String
  streamID : ID
  state : SessionState := .pending
  idempotencyKey : String
  requestHash : String
  deadlineAt : Time
  maximumResponseBytes : Int
  maximumRequestBytes : Int
  streamWindowBytes : Int
  responseCreditBytes : Int := 0
  requestStreamBytes : Int := 0
  detachable : Bool := false
  terminalDetachSeconds : Int := 0
  attachmentID : ID := ""
  detachExpiresAt : Option Time := none
  inboundBytes : Int := 0
  nextInboundSequence : Int := 1
  nextOutboundSequence : Int := 1
  terminalKind : TerminalKind := .none
  terminalDetail : String := ""
  exitCode : Int := 0
  signal : Int := 0
  spawnFailureReason : Option SpawnFailureReason := none
  elapsedMilliseconds : Int := 0
  limitBytes : Int := 0
  infrastructureReason : Option InfrastructureFailureReason := none
  retryable : Bool := false
  terminalMessage : String := ""
  result : Result := {}
  /-- authorization reference and expiry of an attributed execution -/
  attributedExecution : Option (ID × Time) := none
  createdAt : Time
  completedAt : Option Time := none
  retainUntil : Time

/-- `next_client_sequence` as `dataPlaneSessionSelect` computes it. -/
def Session.nextClientSequence (s : Session) : Int := max (s.nextOutboundSequence - 2) 0

/-- The fence of the Assignment it runs on. -/
def Session.fence (s : Session) : Fence :=
  ⟨s.assignmentID, s.sandboxID, s.instanceID, s.generation, s.fencingToken⟩

/-- A row of `port_sessions`; its key is the id of its data-plane session. -/
structure PortSession where
  tenantRef : ID
  subjectRef : ID
  sandboxID : ID
  profileRevisionID : ID
  dataPlaneSessionID : ID
  leaseID : ID
  generation : Int
  name : String
  guestPort : Int
  protocol : String
  transport : Transport
  credentialDigest : Bytes
  streamWindowBytes : Int
  state : PortState := .opened
  idempotencyKey : String
  requestHash : String
  expiresAt : Time
  createdAt : Time
  connectedAt : Option Time := none
  closedAt : Option Time := none

/-- The ids under which the data plane queues Runner commands, derived from the
    session's id by a suffix. -/
inductive CommandID where
  /-- `id + "_direct_open"` -/
  | directOpen (session : ID)
  /-- `id + "_cancel"` -/
  | cancel (session : ID)
  /-- `id + "_port_cancel"` -/
  | portCancel (session : ID)
deriving DecidableEq

/-- The payloads of Runner commands. -/
inductive CommandPayload where
  | directOpen (fence : Fence) (operationID streamID : ID) (kind : SessionKind) (deadline : Time)
      (credentialDigest : Bytes) (streamWindowBytes : Int)
  | cancel (fence : Fence) (operationID streamID : ID) (kind : SessionKind) (reason : String)

/-- A data-plane row of `runner_commands`. -/
structure Command where
  runnerID : ID
  assignmentID : ID
  payload : CommandPayload

/-- The kinds of Operations that matter here. -/
inductive OperationKind where
  | prepareImage
  | delete
  | other
deriving DecidableEq

/-- The Operation states. -/
inductive OperationState where
  | pending
  | running
  | succeeded
  | failed
  | cancelled
deriving DecidableEq

/-- A row of `operations`. -/
structure Operation where
  tenantRef : ID
  subjectRef : ID
  kind : OperationKind
  state : OperationState := .pending

/-- `kind='prepare_image' AND state IN ('pending','running')` -/
def Operation.preparing (o : Operation) : Bool :=
  o.kind == .prepareImage && (o.state == .pending || o.state == .running)

/-- The key of a row of `idempotency_records`. -/
structure IdempotencyKey where
  tenantRef : ID
  subjectRef : ID
  operation : String
  targetID : ID
  key : String
deriving DecidableEq

/-- A row of `idempotency_records`. -/
structure IdempotencyRecord where
  requestHash : String
  responseResourceID : ID
  response : Option Session
  expiresAt : Time

/-! ## Rows the data plane reads -/

/-- A row of `sandboxes`. -/
structure Sandbox where
  tenantRef : ID
  subjectRef : ID
  profileName : String
  profileRevisionID : ID
  generation : Int
  state : SandboxState
  currentInstanceID : ID
  egressContextPinned : Bool := false

/-- A row of `assignments`. -/
structure Assignment where
  sandboxID : ID
  instanceID : ID
  runnerID : ID
  generation : Int
  fencingToken : Bytes
  state : AssignmentState

/-- A row of `leases`. -/
structure Lease where
  tenantRef : ID
  subjectRef : ID
  sandboxID : ID
  generation : Int
  state : LeaseState
  expiresAt : Time

/-- `dataPlaneEndpoint`: address and certificate key. -/
structure Endpoint where
  address : String
  certificateSPKISHA256 : String

/-- A row of `runners`. -/
structure Runner where
  activeConnectionID : ID
  /-- what `decodeDataPlaneEndpoint` makes of the advertised address -/
  endpoint : Option Endpoint
  perExecAttribution : Bool := false

/-- A row of `runner_connections`. -/
structure Connection where
  runnerID : ID
  active : Bool

/-- A profile's execution policy. -/
structure ExecutionPolicy where
  maximumDeadlineMilliseconds : PolicyLimit
  maximumBufferedOutputBytes : Int
  streamWindowBytes : Int
  maximumTransferBytes : Int
  terminalDetachSeconds : Int
  /-- none is a text that names no transport -/
  dataPlaneTransport : Option Transport

/-- A profile's policy for a port. -/
structure PortPolicy where
  name : String
  port : Int
  protocol : String
  maximumSessions : PolicyLimit
  maximumSessionSeconds : Int

/-- The part of a Profile revision's `spec_json` the data plane reads. -/
structure ProfileRevision where
  profileName : String
  concurrentOperations : Int
  execution : ExecutionPolicy
  ports : List PortPolicy
  /-- `attributedExecution` is set and the network requires the Tenant's egress context -/
  permitsAttribution : Bool := false

/-- A row of `subjects`. -/
structure Subject where
  state : SubjectState
  expiresAt : Option Time

/-- A row of `tenants`. -/
structure Tenant where
  state : TenantState
  expiresAt : Option Time

/-- The limits of `tenant_quotas` and `subject_quotas` the data plane enforces. -/
structure QuotaLimits where
  maxPortSessions : PolicyLimit
  maxConcurrentOperations : PolicyLimit

/-- The rows of other components. -/
structure Authority where
  sandboxes : Table ID Sandbox := .empty
  assignments : Table ID Assignment := .empty
  leases : Table ID Lease := .empty
  runners : Table ID Runner := .empty
  connections : Table ID Connection := .empty
  revisions : Table ID ProfileRevision := .empty
  tenants : Table ID Tenant := .empty
  tenantQuotas : Table ID QuotaLimits := .empty
  /-- by Tenant and Subject -/
  subjects : Table (ID × ID) Subject := .empty
  subjectQuotas : Table (ID × ID) QuotaLimits := .empty

/-- The database. -/
structure DB where
  sessions : Table ID Session := .empty
  ports : Table ID PortSession := .empty
  commands : Table CommandID Command := .empty
  operations : Table ID Operation := .empty
  idempotency : Table IdempotencyKey IdempotencyRecord := .empty
  auth : Authority := {}

/-! ## Errors -/

/-- Why a transaction rolls back. -/
inductive Err where
  /-- a request that fails its field checks, with the message -/
  | invalid (message : String)
  /-- `InvalidFieldError` -/
  | invalidField (field reason : String)
  | dataPlaneFence
  | dataPlaneSequence
  | dataPlaneSessionLimit
  | dataPlaneOutputLimit
  | dataPlaneStreamWindow
  | dataPlaneNotFound
  | terminalAttached
  | terminalDetached
  | idempotencyConflict
  | authorizationDenied
  | sandboxNotFound
  | generationFenced
  | lifecycleUnavailable
  | leaseNotFound
  | leaseInactive
  | homeRunnerUnavailable
  | tenantSuspended
  | resourceExpired
  | invalidLifecycleTransition
  | managementNotFound
  | quotaExceeded
  | computeQuotaExceeded
  | portPolicyDenied
  | portSessionNotFound
  | portTokenInvalid
  | portTokenConsumed
  | runnerPoolUnavailable
  /-- a query that must return a row returned none, or an insert met its key -/
  | database
deriving DecidableEq

/-- A database transaction. -/
abbrev Tx := Relational.Tx DB Err

end SecondBox.DataPlane

/-
  The messages of the runner protocol that carry data-plane operations, and
  the checks every frame of a stream goes through.

  A frame names the operation it belongs to by a fence, an operation ID and a
  stream ID.  The Runner keeps its operations in maps under a string made of
  some of these fields (`runnerDataPlaneOperationKey`).  The wire encoding of
  a frame is only ever compared, so a frame stands for its own encoding.
-/
import Mathlib.Data.List.Basic

namespace SecondBox.Runner

/-- A byte string. -/
abbrev Bytes := List UInt8

/-- `AssignmentFence`: the authority of one Assignment of a Sandbox generation. -/
structure Fence where
  assignmentId : String
  sandboxId : String
  instanceId : String
  sandboxGeneration : ℕ
  fencingToken : Bytes
deriving DecidableEq

/-- `Correlation` -/
structure Correlation where
  requestId : String
  operationId : String
  sandboxId : String
  instanceId : String
  sandboxGeneration : ℕ
  assignmentId : String
  leaseId : String
  runnerId : String
deriving DecidableEq

/-- What every frame carries besides its payload. -/
structure Frame (P : Type) where
  fence : Option Fence
  operationId : String
  streamId : String
  sequence : ℕ
  correlation : Option Correlation
  payload : P
deriving DecidableEq

/-! ## Payloads -/

/-- How an Exec ends. -/
inductive ExecTerminalKind where
  | unspecified | exited | spawnFailed | deadlineExceeded | cancelled | outputExhausted
  | guestAgentFailed | runnerFailed | infrastructureFailed | fenced
deriving DecidableEq

/-- Why the infrastructure failed. -/
inductive InfrastructureFailureReason where
  | unspecified | transport | admission | generationFenced | leaseFenced | guestAgent | executionNode | service
deriving DecidableEq

/-- The terminal of an Exec. -/
structure ExecTerminal where
  kind : ExecTerminalKind
  exitCode : Int := 0
  safeDetail : String := ""
  infrastructureFailureReason : InfrastructureFailureReason := .unspecified
  retryable : Bool := false
  message : String := ""
deriving DecidableEq

/-- `ExecOpen`; `command` stands for the fields that only the guest reads. -/
structure ExecOpen where
  command : Bytes
  outputLimitBytes : ℕ
  allocatePty : Bool
  streaming : Bool
  attributedExecution : Option Bytes
deriving DecidableEq

/-- Where output comes from. -/
inductive ExecOutputChannel where
  | unspecified | stdout | stderr
deriving DecidableEq

/-- The payloads of an Exec frame. -/
inductive ExecPayload where
  | unset
  | opens (o : ExecOpen)
  | input (data : Bytes) (endOfInput : Bool)
  | output (channel : ExecOutputChannel) (data : Bytes)
  | credit (byteCount : ℕ)
  | cancel (reason : String)
  | terminal (t : ExecTerminal)
  | bufferedResult (stdout stderr : Bytes) (t : ExecTerminal)
deriving DecidableEq

/-- The answer to an attach. -/
inductive PtyAttachResultKind where
  | unspecified | attached | replayEvicted | alreadyAttached
deriving DecidableEq

/-- The payloads of a PTY frame. -/
inductive PtyPayload where
  | unset
  | input (data : Bytes)
  | output (channel : ExecOutputChannel) (data : Bytes)
  | resize (rows columns : ℕ)
  | detach (reconnectId : String)
  | attach (reconnectId : String) (afterSequence : Int) (streamWindowBytes : ℕ)
  | credit (byteCount : ℕ)
  | terminal (t : ExecTerminal)
  | attachResult (kind : PtyAttachResultKind) (safeDetail : String) (afterSequence : Int)
      (nextInputSequence : ℕ)
deriving DecidableEq

/-- What a File operation does. -/
inductive FileOperation where
  | unspecified | read | write | stat | list | exists | mkdir | remove
deriving DecidableEq

/-- The Open of a File operation. -/
structure FileOpen where
  operation : FileOperation
  workspaceRelativePath : String
  expectedSize : ℕ
  expectedChecksum : String
  recursive : Bool := false
  force : Bool := false
deriving DecidableEq

/-- How a File operation ends. -/
inductive FileTerminalKind where
  | unspecified | completed | notFound | invalidPath | permissionDenied | checksumMismatch
  | limitExceeded | cancelled | fenced | failed | workspaceFull
deriving DecidableEq

/-- The terminal of a File operation. -/
structure FileTerminal where
  kind : FileTerminalKind
  safeDetail : String := ""
deriving DecidableEq

/-- The payloads of a File stream; the metadata of a file is passed on as it came. -/
inductive FilePayload where
  | unset
  | opens (o : FileOpen)
  | chunk (offset : ℕ) (data : Bytes)
  | metadata (m : Bytes)
  | credit (byteCount : ℕ)
  | cancel (reason : String)
  | terminal (t : FileTerminal)
deriving DecidableEq

/-- How a Port ends. -/
inductive PortTerminalKind where
  | unspecified | closed | cancelled | policyDenied | guestUnavailable | fenced | failed
deriving DecidableEq

/-- The terminal of a Port. -/
structure PortTerminal where
  kind : PortTerminalKind
  safeDetail : String
deriving DecidableEq

/-- The Open of a proxied Port. -/
structure PortOpen where
  guestPort : ℕ
  protocol : String
  idleTimeoutMs : ℕ
deriving DecidableEq

/-- The Open of a direct Port. -/
structure PortDirectOpen where
  guestPort : ℕ
  protocol : String
  portName : String
  deadlineUnixMs : ℕ
  credentialDigest : Bytes
  leaseId : String
deriving DecidableEq

/-- The payloads of a Port frame. -/
inductive PortPayload where
  | unset
  | opens (o : PortOpen)
  | bytes (data : Bytes)
  | credit (byteCount : ℕ)
  | cancel (reason : String)
  | terminal (t : PortTerminal)
  | directOpen (o : PortDirectOpen)
deriving DecidableEq

/-- How a transfer ends. -/
inductive WorkspaceTransferTerminalKind where
  | unspecified | succeeded | checksumMismatch | storageIncompatible | insufficientSpace | restartRequired | runnerFailed
deriving DecidableEq

/-- The payloads of a transfer frame. -/
inductive WorkspaceTransferPayload where
  | unset
  | opens (logicalCapacityBytes : ℕ) (fencingToken : Bytes)
  | chunk (offset : ℕ) (data : Bytes)
  | credit (byteCount : ℕ)
  | commit (sizeBytes : ℕ) (sha256 : String)
  | result (terminal : WorkspaceTransferTerminalKind) (sizeBytes : ℕ) (sha256 : String)
      (safeDetail : String)
  | cancel (safeDetail : String)
deriving DecidableEq

/-- A frame of a Workspace relocation; it is bound to the Workspace and not to an Assignment. -/
structure WorkspaceTransferFrame where
  operationId : String
  sandboxId : String
  workspaceId : String
  generation : ℕ
  sequence : ℕ
  payload : WorkspaceTransferPayload
deriving DecidableEq

/-- A frame of an Exec. -/
abbrev ExecFrame := Frame ExecPayload
/-- A frame of a PTY. -/
abbrev PtyFrame := Frame PtyPayload
/-- A frame of a File operation. -/
abbrev FileFrame := Frame FilePayload
/-- A frame of a Port. -/
abbrev PortFrame := Frame PortPayload

/-! ## Errors a frame handler returns to its receive loop -/

/-- The errors that end a connection. -/
inductive Error where
  | featureNotNegotiated
  | identityIncomplete
  | mustBeginWithOpen
  | correlationInconsistent
  | correlationChanged
  | sequenceReordered
  | creditNotPositive
  | creditOverflow
  | payloadNotAccepted
  | ptyRequiresPtyFrame
  | ptyNotActive
  | ptyInputEmpty
  | ptyResizeInvalid
  | ptyAttachmentInvalid
  | ptyDetachIncomplete
  | fileOpenIncomplete
  | fileChunksOnlyForWrites
  | fileChunkReordered
  | uploadNotWaiting
  | portBytesBound
  | portCloseFailed
  | commandIncomplete
deriving DecidableEq

/-! ## Identity of a frame -/

/-- `unicode.IsSpace`. -/
def isSpace (c : Char) : Bool :=
  [0x09, 0x0a, 0x0b, 0x0c, 0x0d, 0x20, 0x85, 0xa0, 0x1680, 0x2028, 0x2029, 0x202f, 0x205f,
    0x3000].contains c.toNat || (0x2000 ≤ c.toNat && c.toNat ≤ 0x200a)

/-- `strings.TrimSpace(s) == ""`. -/
def blank (s : String) : Bool := s.toList.all isSpace

/-- Who a frame belongs to. -/
structure Identity where
  fence : Fence
  operationId : String
  streamId : String
deriving DecidableEq

/-- What `validateRunnerDataPlaneFrameIdentity` asks of an identity. -/
def Identity.complete (i : Identity) : Bool :=
  !blank i.fence.assignmentId && !blank i.fence.sandboxId && !blank i.fence.instanceId &&
    i.fence.sandboxGeneration != 0 && !i.fence.fencingToken.isEmpty && !blank i.operationId &&
    !blank i.streamId

/-- The identity of a frame that `validateRunnerDataPlaneFrameIdentity` accepts. -/
def validateRunnerDataPlaneFrameIdentity {P : Type} (frame : Frame P) : Option Identity :=
  match frame.fence with
  | none => none
  | some fence =>
    let i : Identity := ⟨fence, frame.operationId, frame.streamId⟩
    if i.complete && frame.sequence != 0 then some i else none

/-- The key of an operation in the Runner's maps: Assignment, generation,
    operation and stream, joined with NUL. -/
def runnerDataPlaneOperationKey (i : Identity) : String :=
  i.fence.assignmentId ++ "\x00" ++ toString i.fence.sandboxGeneration ++ "\x00" ++ i.operationId ++
    "\x00" ++ i.streamId

/-- `validateOperationCorrelation` -/
def validateOperationCorrelation (runnerId : String) (i : Identity)
    (correlation : Option Correlation) : Bool :=
  match correlation with
  | none => false
  | some c =>
    !blank c.requestId && c.operationId == i.operationId && c.sandboxId == i.fence.sandboxId &&
      c.instanceId == i.fence.instanceId && c.sandboxGeneration == i.fence.sandboxGeneration &&
      c.assignmentId == i.fence.assignmentId && c.runnerId == runnerId

/-! ## Sequence of a stream -/

/-- What the sequence says of a frame. -/
inductive Accepted where
  | duplicate
  | next
  | reordered

/-- `acceptRunnerDataPlaneInput`: the frame just handled may come once more,
    otherwise the next one is expected. -/
def acceptRunnerDataPlaneInput {F : Type} [DecidableEq F] (next : ℕ) (previous : Option F)
    (sequence : ℕ) (encoded : F) :
    Accepted :=
  if sequence + 1 = next ∧ previous = some encoded then .duplicate
  else if sequence = next then .next
  else .reordered

end SecondBox.Runner

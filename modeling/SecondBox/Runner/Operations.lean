/-
  The operations a Runner keeps, and how they end.

  Exec (with PTY), File and Port operations stand in three maps under their
  operation keys.  An operation that has ended stays in its map as a tombstone
  until 256 later ones of its kind have ended.

  Every function here is one critical section of the source under
  `operationMu`, with the frames it sends when it leaves it.  A goroutine that
  holds an operation between two critical sections is represented by the stage
  of that operation.
-/
import SecondBox.Base.Once
import SecondBox.Runner.Frames

namespace SecondBox.Runner

open Relational Once

/-- The kinds of operations with a map and a tombstone window of their own. -/
inductive Kind where
  | exec | file | port
deriving DecidableEq

/-- A connection of the Runner: a control connection or a direct one. -/
inductive Stream where
  | control (n : ℕ)
  | direct (n : ℕ)
deriving DecidableEq

/-- The drain phase of the Runner. -/
inductive DrainPhase where
  | active | draining | drained
deriving DecidableEq

/-- The messages a Runner sends. -/
inductive Message where
  | exec (frame : ExecFrame)
  | pty (frame : PtyFrame)
  | file (frame : FileFrame)
  | port (frame : PortFrame)
  | assignmentResult (fence : Fence) (ready : Bool)
  | fenceResult (fence : Fence) (released : Bool)
  | drainState (phase : DrainPhase) (remaining : List Fence)
deriving DecidableEq

/-- What can be seen of the Runner from outside. -/
inductive Event where
  /-- an operation is recorded -/
  | entered (kind : Kind) (key : String)
  /-- the backend is called for an operation -/
  | started (kind : Kind) (key : String)
  /-- an operation has ended and joins the tombstone window -/
  | retained (kind : Kind) (key : String)
  /-- a cancellation found no operation -/
  | absent (kind : Kind) (key : String)
  | sent (stream : Stream) (message : Message)
deriving DecidableEq

/-! ## Operations -/

/-- What is queued for an Exec. -/
inductive ExecControl where
  | input (data : Bytes) (endOfInput : Bool)
  | credit (byteCount : ℕ)
deriving DecidableEq

/-- What is queued for a PTY. -/
inductive PtyControl where
  | input (data : Bytes)
  | credit (byteCount : ℕ)
  | resize (rows columns : ℕ)
deriving DecidableEq

/-- Where the goroutine that answers for an Exec stands. -/
inductive ExecStage where
  /-- the handler of its Open has recorded it and has not decided yet -/
  | opening (atCapacity : Bool) (o : ExecOpen) (ptyEnabled : Bool)
  /-- a worker has called the backend -/
  | running (streaming : Bool)
  | ended
deriving DecidableEq

/-- The stream a PTY is attached to. -/
structure PtyAttachment where
  stream : Stream
  reconnectId : String
deriving DecidableEq

/-- `runnerExecOperation`; `stream` is the connection its worker writes to. -/
structure ExecOperation where
  identity : Identity
  correlation : Option Correlation
  stream : Stream
  nextIncoming : ℕ
  lastIncoming : Option (ExecFrame ⊕ PtyFrame)
  nextOutgoing : ℕ
  credit : ℕ := 0
  controls : List ExecControl := []
  ptyControls : List PtyControl := []
  pty : Bool
  cancelled : Bool := false
  terminal : Bool := false
  confirmCancel : Bool := false
  terminalFrame : Option ExecFrame := none
  ptyTerminalFrame : Option PtyFrame := none
  ptyAttachment : Option PtyAttachment := none
  ptyReplay : List PtyFrame := []
  ptyReplayBytes : ℕ := 0
  ptyWindowBytes : ℕ := 0
  outputLimitBytes : ℕ := 0
  stdout : Bytes := []
  stderr : Bytes := []
  stage : ExecStage
deriving DecidableEq

/-- Where the goroutine that answers for a File operation stands. -/
inductive FileStage where
  | opening (atCapacity : Bool)
  /-- the rest of a write is awaited, with a handler for its cancellation -/
  | uploading
  /-- that handler has taken the write over and has not ended it yet -/
  | aborting
  | running
  | ended
deriving DecidableEq

/-- `runnerFileOperation`. -/
structure FileOperationState where
  identity : Identity
  correlation : Option Correlation
  stream : Stream
  fileOpen : Option FileOpen
  nextIncoming : ℕ
  lastIncoming : Option FileFrame
  nextOutgoing : ℕ
  content : Bytes := []
  credit : ℕ := 0
  cancelled : Bool := false
  started : Bool := false
  terminal : Bool := false
  confirmCancel : Bool := false
  terminalFrame : Option FileFrame := none
  stage : FileStage
deriving DecidableEq

/-- Where the goroutine that answers for a Port stands. -/
inductive PortStage where
  | opening (refusal : Option PortTerminal)
  | pumping
  | ended
deriving DecidableEq

/-- `runnerPortOperation`; `connected` says that it has a guest connection. -/
structure PortOperation where
  identity : Identity
  correlation : Option Correlation
  stream : Stream
  nextIncoming : ℕ
  lastIncoming : Option PortFrame
  nextOutgoing : ℕ
  credit : ℕ := 0
  connected : Bool
  cancelled : Bool := false
  terminal : Bool := false
  terminalFrame : Option PortFrame := none
  stage : PortStage
deriving DecidableEq

/-- The session kinds. -/
inductive SessionKind where
  | unspecified | exec | file | pty | port
deriving DecidableEq

/-- `directDataPlaneSession`: an admitted direct session. -/
structure DirectSession where
  identity : Identity
  correlation : Option Correlation
  kind : SessionKind
  opened : Bool := false

/-- `directPortSession`; `bridged` says that a caller connection is bound to it. -/
structure DirectPortSession where
  identity : Identity
  correlation : Option Correlation
  bridged : Bool := false

/-! ## The Runner -/

/-- The state of the Runner's service. -/
structure Service where
  execOperations : Registry String ExecOperation := .empty
  fileOperations : Registry String FileOperationState := .empty
  portOperations : Registry String PortOperation := .empty
  active : Table String Fence := .empty
  drain : DrainPhase := .active
  sessions : Table Bytes DirectSession := .empty
  directPorts : Table Bytes DirectPortSession := .empty
  control : Option Stream := none

/-- What a handler returns: the Runner it leaves, what was seen, and the error
    that ends the connection, if any. -/
structure Result where
  service : Service
  events : List Event := []
  error : Option Error := none

/-- Do one thing after another; the second starts from the state the first left. -/
def Result.andThen (r : Result) (f : Service → Result) : Result :=
  let r' := f r.service
  ⟨r'.service, r.events ++ r'.events, r'.error⟩

/-- The bytes of a chunk. -/
def runnerDataPlaneChunkBytes : ℕ := 64 * 1024
/-- The operations of a kind that are tracked. -/
def maxRunnerDataPlaneOperationStates : ℕ := 1024
/-- The terminals of a kind that are retained. -/
def maxRunnerDataPlaneTerminalTombstones : ℕ := 256

variable (s : Service)

namespace Service

/-- `hasActiveFence` -/
def hasActiveFence (fence : Fence) : Bool := s.active.get fence.assignmentId == some fence

/-- `directDataPlane.complete`. -/
def completeSession (operationId : String) : Service :=
  { s with sessions := s.sessions.deleteWhere fun _ x => x.identity.operationId == operationId }

/-- `retainExecTerminalLocked`, for an operation that was just changed to `op`. -/
def retainExecTerminal (key : String) (op : ExecOperation) : Service :=
  let r := (s.execOperations.put key op).retain maxRunnerDataPlaneTerminalTombstones
    ExecOperation.terminal key
  r.2.foldl (fun s e => s.completeSession e.identity.operationId) { s with execOperations := r.1 }

/-- `retainFileTerminalLocked`. -/
def retainFileTerminal (key : String) (op : FileOperationState) : Service :=
  { s with
    fileOperations :=
      ((s.fileOperations.put key op).retain maxRunnerDataPlaneTerminalTombstones
        FileOperationState.terminal key).1 }

/-- `retainPortTerminalLocked`. -/
def retainPortTerminal (key : String) (op : PortOperation) : Service :=
  { s with
    portOperations :=
      ((s.portOperations.put key op).retain maxRunnerDataPlaneTerminalTombstones PortOperation.terminal key).1 }

/-- Set an Exec. -/
def putExec (key : String) (op : ExecOperation) : Service :=
  { s with execOperations := s.execOperations.put key op }

/-- Set a File operation. -/
def putFile (key : String) (op : FileOperationState) : Service :=
  { s with fileOperations := s.fileOperations.put key op }

/-- Set a Port. -/
def putPort (key : String) (op : PortOperation) : Service :=
  { s with portOperations := s.portOperations.put key op }

/-- `reportCancelledOperationTerminal`: on the control connection, if there is one. -/
def reportCancelledOperationTerminal (message : Message) : List Event :=
  match s.control with
  | some stream => [.sent stream message]
  | none => []

/-- `sendOperationTerminal`: on the operation's own connection and, for a
    durably cancelled operation, on the control connection too. -/
def sendOperationTerminal (stream : Stream) (message : Message) (confirmCancel : Bool) :
    List Event :=
  .sent stream message :: if confirmCancel then s.reportCancelledOperationTerminal message else []

end Service

/-! ## Frames an operation sends -/

/-- A frame of the stream with identity `i`. -/
def outgoing {P : Type} (i : Identity) (sequence : ℕ) (correlation : Option Correlation)
    (payload : P) : Frame P where
  fence := some i.fence
  operationId := i.operationId
  streamId := i.streamId
  sequence := sequence
  correlation := correlation
  payload := payload

/-- The next frame of an Exec. -/
def ExecOperation.execFrame (op : ExecOperation) (payload : ExecPayload) : ExecFrame :=
  outgoing op.identity op.nextOutgoing op.correlation payload

/-- The next frame of a PTY. -/
def ExecOperation.ptyFrame (op : ExecOperation) (payload : PtyPayload) : PtyFrame :=
  outgoing op.identity op.nextOutgoing op.correlation payload

/-- The next frame of a File operation. -/
def FileOperationState.frame (op : FileOperationState) (payload : FilePayload) : FileFrame :=
  outgoing op.identity op.nextOutgoing op.correlation payload

/-- The next frame of a Port. -/
def PortOperation.frame (op : PortOperation) (payload : PortPayload) : PortFrame :=
  outgoing op.identity op.nextOutgoing op.correlation payload

/-- The bytes of output in a PTY frame. -/
def outputBytes (frame : PtyFrame) : ℕ :=
  match frame.payload with
  | .output _ data => data.length
  | _ => 0

/-- The oldest frames leave the replay until it fits the window; the last one stays. -/
def trimReplay (window : ℕ) : ℕ → List PtyFrame → ℕ × List PtyFrame
  | bytes, f :: g :: rest =>
    if window < bytes then trimReplay window (bytes - outputBytes f) (g :: rest) else (bytes,
      f :: g :: rest)
  | bytes, frames => (bytes, frames)

/-- `retainAndSendPTYFrame`: the frame joins the replay and goes to the attachment, if there is one. -/
def ExecOperation.retainAndSendPTYFrame (op : ExecOperation) (payload : PtyPayload) :
    ExecOperation × List Event :=
  let retained := op.ptyFrame payload
  let replay := trimReplay op.ptyWindowBytes (op.ptyReplayBytes + outputBytes retained)
    (op.ptyReplay ++ [retained])
  ({ op with nextOutgoing := op.nextOutgoing + 1, ptyReplayBytes := replay.1, ptyReplay := replay.2 },
    match op.ptyAttachment with
    | some attachment => [.sent attachment.stream (.pty retained)]
    | none => [])

/-- `runnerInfrastructureTerminal` -/
def runnerInfrastructureTerminal (kind : ExecTerminalKind) (reason : InfrastructureFailureReason)
    (retryable : Bool) (message : String) : ExecTerminal :=
  { kind, exitCode := -1, safeDetail := message, infrastructureFailureReason := reason, retryable, message }

/-! ## The end of an operation -/

/-- The end of an Exec with the output `stdout` and `stderr`: `sendExecTerminal`
    and `sendExecBufferedResult`. -/
def finishExec (key : String) (op : ExecOperation) (stdout stderr : Bytes) (t : ExecTerminal) :
    Result :=
  if op.terminal then
    match op.terminalFrame with
    | some frame => { service := s, events := [.sent op.stream (.exec frame)] }
    | none => { service := s }
  else
    let frame := op.execFrame (.bufferedResult stdout stderr t)
    let op' := { op with
      nextOutgoing := op.nextOutgoing + 1, terminal := true, terminalFrame := some frame,
      stdout := [], stderr := [], stage := .ended }
    { service := s.retainExecTerminal key op'
      events :=
        .retained .exec key :: s.sendOperationTerminal op.stream (.exec frame) op.confirmCancel }

/-- `sendExecTerminal`: the output streamed so far is repeated with the outcome. -/
def sendExecTerminal (key : String) (op : ExecOperation) (t : ExecTerminal) : Result :=
  finishExec s key op op.stdout op.stderr t

/-- `sendPTYTerminal`: the terminal joins the replay, and goes to the
    attachment and, for a durably cancelled operation, to the control connection. -/
def sendPTYTerminal (key : String) (op : ExecOperation) (t : ExecTerminal) : Result :=
  if op.terminal then { service := s }
  else
    let frame := op.ptyFrame (.terminal t)
    let sent := ({ op with terminal := true, ptyTerminalFrame := some frame, stage := .ended } :
      ExecOperation).retainAndSendPTYFrame (.terminal t)
    { service := s.retainExecTerminal key sent.1
      events := .retained .exec key :: sent.2 ++
        if op.confirmCancel then s.reportCancelledOperationTerminal (.pty frame) else [] }

/-- `sendRunnerExecOperationTerminal` -/
def sendRunnerExecOperationTerminal (key : String) (op : ExecOperation) (t : ExecTerminal) :
    Result :=
  if op.pty then sendPTYTerminal s key op t else sendExecTerminal s key op t

/-- `sendFileTerminal` -/
def sendFileTerminal (key : String) (op : FileOperationState) (t : FileTerminal) : Result :=
  if op.terminal then
    match op.terminalFrame with
    | some frame => { service := s, events := [.sent op.stream (.file frame)] }
    | none => { service := s }
  else
    let frame := op.frame (.terminal t)
    let op' := { op with
      nextOutgoing := op.nextOutgoing + 1, terminal := true, terminalFrame := some frame, stage := .ended }
    { service := s.retainFileTerminal key op'
      events :=
        .retained .file key :: s.sendOperationTerminal op.stream (.file frame) op.confirmCancel }

/-- `sendPortTerminal`; `closes` says whether the guest connection closes without an error. -/
def sendPortTerminal (stream : Stream) (key : String) (op : PortOperation) (t : PortTerminal)
    (closes : Bool) : Result :=
  if op.terminal then
    match op.terminalFrame with
    | some frame => { service := s, events := [.sent stream (.port frame)] }
    | none => { service := s }
  else
    let frame := op.frame (.terminal t)
    let op' := { op with
      nextOutgoing := op.nextOutgoing + 1, terminal := true, terminalFrame := some frame, stage := .ended }
    { service := s.retainPortTerminal key op'
      events := [.retained .port key, .sent stream (.port frame)]
      error := if op.connected && !closes then some .portCloseFailed else none }

end SecondBox.Runner

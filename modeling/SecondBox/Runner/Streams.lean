/-
  The handlers of data-plane frames and the goroutines they start.

  A handler first runs one critical section: it records a new stream, or
  accepts the next frame of a known one and acts on it.  After recording a new
  stream it decides what becomes of it (`decideExecOpen`, `decideFileOpen`,
  `decidePortOpen`), which is a step of its own, because other goroutines may
  find the stream in between.
-/
import SecondBox.Runner.Operations

namespace SecondBox.Runner

open Relational Once

/-- What a connection has negotiated. -/
structure Features where
  execStreaming : Bool
  fileStreaming : Bool
  pty : Bool
  portProxy : Bool
  localWorkspace : Bool

/-- What is fixed for the life of a Runner; `dataPlaneBackend` says whether the backend serves PTYs. -/
structure Config where
  runnerId : String
  dataPlaneBackend : Option Bool
  portBackend : Bool

/-- A frame of a known stream names another correlation than its Open.  A
    tombstone of an operation that was never seen has none to compare with. -/
def correlationChanged (given recorded : Option Correlation) (terminal : Bool) : Bool :=
  given.isSome && !(terminal && recorded.isNone) && given != recorded

/-- `runnerCreditWindow.add`. -/
def addCredit (available byteCount : ℕ) : Except Error ℕ :=
  if byteCount = 0 then .error .creditNotPositive
  else if 2 ^ 64 - 1 - available < byteCount then .error .creditOverflow
  else .ok (available + byteCount)

/-! ## Exec -/

/-- The terminal a duplicate of the last frame is answered with. -/
def ExecOperation.replay (op : ExecOperation) (stream : Stream) : List Event :=
  match op.pty, op.ptyTerminalFrame, op.terminalFrame with
  | true, some frame, _ => [.sent stream (.pty frame)]
  | _, _, some frame => [.sent stream (.exec frame)]
  | _, _, none => []

/-- A frame of a known Exec stream. -/
def continueExec (s : Service) (stream : Stream) (key : String) (op : ExecOperation)
    (frame : ExecFrame) : Result :=
  if correlationChanged frame.correlation op.correlation op.terminal then
    { service := s, error := some .correlationChanged }
  else match acceptRunnerDataPlaneInput op.nextIncoming op.lastIncoming frame.sequence
    (.inl frame) with
  | .duplicate => { service := s, events := op.replay stream }
  | .reordered => { service := s, error := some .sequenceReordered }
  | .next =>
    let op := { op with nextIncoming := op.nextIncoming + 1, lastIncoming := some (.inl frame) }
    -- input and credit on their way when the terminal was sent are sequenced and dropped
    if op.terminal then { service := s.putExec key op }
    else match frame.payload with
    | .credit byteCount =>
      if op.pty then { service := s.putExec key op, error := some .ptyRequiresPtyFrame }
      else match addCredit op.credit byteCount with
      | .error e => { service := s.putExec key op, error := some e }
      | .ok credit => { service := s.putExec key { op with credit, controls := op.controls ++ [.credit byteCount] } }
    | .input data endOfInput =>
      if op.pty then { service := s.putExec key op, error := some .ptyRequiresPtyFrame }
      else { service := s.putExec key { op with controls := op.controls ++ [.input data endOfInput] } }
    | .cancel _ => { service := s.putExec key { op with cancelled := true } }
    | _ => { service := s.putExec key op, error := some .payloadNotAccepted }

variable (config : Config)

/-- `handleExecFrame`, up to the point where a new stream is recorded. -/
def handleExecFrame (enabled : Features) (s : Service) (stream : Stream) (frame : ExecFrame) :
    Result :=
  if !enabled.execStreaming then { service := s, error := some .featureNotNegotiated }
  else match validateRunnerDataPlaneFrameIdentity frame with
  | none => { service := s, error := some .identityIncomplete }
  | some identity =>
    let key := runnerDataPlaneOperationKey identity
    match s.execOperations.get key with
    | some op => continueExec s stream key op frame
    | none =>
      match frame.payload with
      | .opens o =>
        if frame.sequence ≠ 1 then { service := s, error := some .mustBeginWithOpen }
        else if !validateOperationCorrelation config.runnerId identity frame.correlation then
          { service := s, error := some .correlationInconsistent }
        else
          let atCapacity :=
            decide (maxRunnerDataPlaneOperationStates ≤ s.execOperations.entries.size)
          { service := s.putExec key
              { identity, correlation := frame.correlation, stream
                nextIncoming := 2, lastIncoming := some (.inl frame), nextOutgoing := 1
                pty := o.allocatePty, outputLimitBytes := o.outputLimitBytes
                stage := .opening atCapacity o enabled.pty }
            events := [.entered .exec key] }
      | _ => { service := s, error := some .mustBeginWithOpen }

/-- The rest of `handleExecFrame` for a new stream: refuse it or start its worker. -/
def decideExecOpen (s : Service) (key : String) : Result :=
  match s.execOperations.get key with
  | none => { service := s }
  | some op =>
    match op.stage with
    | .opening atCapacity o ptyEnabled =>
      let start : Result :=
        { service := s.putExec key { op with stage := .running o.streaming }, events := [.started .exec key] }
      if atCapacity then
        sendRunnerExecOperationTerminal s key op (runnerInfrastructureTerminal .runnerFailed
          .executionNode true "runner Exec operation capacity is exhausted")
      else if !s.hasActiveFence op.identity.fence then
        sendRunnerExecOperationTerminal s key op (runnerInfrastructureTerminal .fenced
          .generationFenced false "assignment fence is not active")
      else match config.dataPlaneBackend with
      | none =>
        sendRunnerExecOperationTerminal s key op (runnerInfrastructureTerminal .runnerFailed
          .executionNode true "runner data-plane backend is unavailable")
      | some servesPty =>
        if !o.allocatePty then start
        else if o.attributedExecution.isSome then
          sendPTYTerminal s key op (runnerInfrastructureTerminal .runnerFailed .admission false
            "attributed execution does not admit a PTY")
        else if !ptyEnabled then
          sendPTYTerminal s key op (runnerInfrastructureTerminal .runnerFailed .admission false
            "runner PTY feature was not negotiated")
        else if !servesPty then
          sendPTYTerminal s key op (runnerInfrastructureTerminal .runnerFailed .executionNode true
            "runner PTY backend is unavailable")
        else start
    | _ => { service := s }

/-! ## PTY -/

/-- The answer to an attach; it carries the next input sequence the Runner expects. -/
def ExecOperation.attachResult (op : ExecOperation) (afterSequence : Int)
    (kind : PtyAttachResultKind) (detail : String) :
    Message :=
  .pty (outgoing op.identity (afterSequence + 2).toNat op.correlation
    (.attachResult kind detail afterSequence op.nextIncoming))

/-- Frames after `afterSequence` have left the replay. -/
def ExecOperation.replayEvicted (op : ExecOperation) (afterSequence : Int) : Bool :=
  match op.ptyReplay with
  | oldest :: _ => decide (afterSequence < (oldest.sequence : Int) - 2)
  | [] => false

/-- The frames to replay. -/
def ExecOperation.replayAfter (op : ExecOperation) (afterSequence : Int) : List PtyFrame :=
  op.ptyReplay.filter fun frame => decide (afterSequence < (frame.sequence : Int) - 1)

/-- `attachPTYStream`. -/
def attachPTYStream (s : Service) (stream : Stream) (key : String) (reconnectId : String)
    (afterSequence : Int) (streamWindowBytes : ℕ) : Result :=
  match s.execOperations.get key with
  | none => { service := s, error := some .ptyAttachmentInvalid }
  | some op =>
    if !op.pty || (op.ptyWindowBytes != 0 && op.ptyWindowBytes != streamWindowBytes) then
      { service := s, error := some .ptyAttachmentInvalid }
    else if reconnectId = "" ∨ afterSequence < -1 ∨ streamWindowBytes = 0 then
      { service := s, error := some .ptyAttachmentInvalid }
    else if op.ptyAttachment.isSome then
      { service := s
        events := [.sent stream
          (op.attachResult afterSequence .alreadyAttached "Terminal already has an active attachment")] }
    else if op.replayEvicted afterSequence then
      { service := s
        events :=
        [.sent stream (op.attachResult afterSequence .replayEvicted "Terminal replay sequence was evicted")] }
    else if (op.nextOutgoing : Int) - 1 ≤ afterSequence then
      { service := s, error := some .ptyAttachmentInvalid }
    else
      { service := s.putExec key
          { op with ptyWindowBytes := streamWindowBytes, ptyAttachment := some ⟨stream,
          reconnectId⟩ }
        events := .sent stream (op.attachResult afterSequence .attached "") ::
          (op.replayAfter afterSequence).map fun frame => .sent stream (.pty frame) }

/-- `detachPTYAttachment`. -/
def detachPTYAttachment (s : Service) (key : String) (reconnectId : String) : Result :=
  if reconnectId = "" then { service := s, error := some .ptyDetachIncomplete }
  else match s.execOperations.get key with
  | none => { service := s, error := some .ptyNotActive }
  | some op =>
    if !op.pty then { service := s, error := some .ptyNotActive }
    else match op.ptyAttachment with
    | none => { service := s }
    | some attachment =>
      if attachment.reconnectId = reconnectId then
        { service := s.putExec key { op with ptyAttachment := none } }
      else { service := s }

/-- A PTY frame of a known stream that neither attaches nor detaches. -/
def continuePTY (s : Service) (stream : Stream) (key : String) (op : ExecOperation)
    (frame : PtyFrame) : Result :=
  if correlationChanged frame.correlation op.correlation op.terminal then
    { service := s, error := some .correlationChanged }
  else match acceptRunnerDataPlaneInput op.nextIncoming op.lastIncoming frame.sequence
    (.inr frame) with
  | .duplicate =>
    { service := s
      events := match op.ptyTerminalFrame with
        | some terminal => [.sent stream (.pty terminal)]
        | none => [] }
  | .reordered => { service := s, error := some .sequenceReordered }
  | .next =>
    let op := { op with nextIncoming := op.nextIncoming + 1, lastIncoming := some (.inr frame) }
    let push (control : PtyControl) : Result :=
      { service := s.putExec key { op with ptyControls := op.ptyControls ++ [control] } }
    if op.terminal then { service := s.putExec key op }
    else match frame.payload with
    | .input data =>
      if data.isEmpty then { service := s.putExec key op, error := some .ptyInputEmpty }
        else push (.input data)
    | .credit byteCount =>
      if byteCount = 0 then { service := s.putExec key op, error := some .creditNotPositive }
      else push (.credit byteCount)
    | .resize rows columns =>
      if rows = 0 ∨ 1000 < rows ∨ columns = 0 ∨ 1000 < columns then
        { service := s.putExec key op, error := some .ptyResizeInvalid }
      else push (.resize rows columns)
    | _ => { service := s.putExec key op, error := some .payloadNotAccepted }

/-- `handlePTYFrame` -/
def handlePTYFrame (enabled : Features) (s : Service) (stream : Stream) (frame : PtyFrame) :
    Result :=
  if !enabled.pty then { service := s, error := some .featureNotNegotiated }
  else match validateRunnerDataPlaneFrameIdentity frame with
  | none => { service := s, error := some .identityIncomplete }
  | some identity =>
    let key := runnerDataPlaneOperationKey identity
    match frame.payload with
    | .attach reconnectId afterSequence window =>
      attachPTYStream s stream key reconnectId afterSequence window
    | .detach reconnectId => detachPTYAttachment s key reconnectId
    | _ =>
      match s.execOperations.get key with
      | none => { service := s, error := some .ptyNotActive }
      | some op =>
        if !op.pty then { service := s, error := some .ptyNotActive } else continuePTY s
          stream key op frame

/-! ## The Exec worker -/

/-- Why a context or a call ended. -/
inductive Cause where
  | canceled | deadlineExceeded | other
deriving DecidableEq

/-- What the backend returned, and why the operation's context had ended by then. -/
structure ExecReturn where
  terminal : Option ExecTerminal
  err : Option Cause
  cause : Option Cause
  stdout : Bytes := []
  stderr : Bytes := []

/-- The outcome of an Exec that is not a PTY: a deadline goes before a cancellation. -/
def ExecReturn.outcome (failed missing : String) (r : ExecReturn) : ExecTerminal :=
  if r.err.isNone ∧ r.cause.isNone then
    r.terminal.getD (runnerInfrastructureTerminal .runnerFailed .guestAgent true missing)
  else if r.err = some .deadlineExceeded ∨ r.cause = some .deadlineExceeded then
    { kind := .deadlineExceeded, exitCode := -1, safeDetail := "command deadline exceeded" }
  else if r.err = some .canceled ∨ r.cause = some .canceled then
    { kind := .cancelled, exitCode := -1, safeDetail := "command cancelled" }
  else runnerInfrastructureTerminal .runnerFailed .guestAgent true failed

/-- The outcome of a PTY: what the backend returned without an error stands,
    and a cancellation goes before a deadline. -/
def ExecReturn.ptyOutcome (r : ExecReturn) : ExecTerminal :=
  if r.err.isNone then
    r.terminal.getD (runnerInfrastructureTerminal .runnerFailed .guestAgent true
      "runner PTY bridge returned no terminal outcome")
  else if r.err = some .canceled ∨ r.cause = some .canceled then
    { kind := .cancelled, exitCode := -1, safeDetail := "Terminal cancelled" }
  else if r.err = some .deadlineExceeded ∨ r.cause = some .deadlineExceeded then
    { kind := .deadlineExceeded, exitCode := -1, safeDetail := "Terminal deadline exceeded" }
  else runnerInfrastructureTerminal .runnerFailed .guestAgent true "runner PTY bridge failed"

/-- The backend has returned: `executeStreamingOperation`, `executeBufferedOperation`, `executePTYOperation`. -/
def execReturns (s : Service) (key : String) (r : ExecReturn) : Result :=
  match s.execOperations.get key with
  | none => { service := s }
  | some op =>
    match op.stage with
    | .running streaming =>
      if op.pty then sendPTYTerminal s key op r.ptyOutcome
      else if streaming then
        sendExecTerminal s key op (r.outcome "runner execution bridge failed"
          "runner execution bridge returned no terminal outcome")
      else
        finishExec s key op r.stdout r.stderr (r.outcome "runner buffered execution failed"
          "runner buffered execution returned no terminal outcome")
    | _ => { service := s }

/-- One frame of output: `sendRunnerExecBytes`, `sendRunnerPTYBytes`. -/
def execOutput (s : Service) (key : String) (channel : ExecOutputChannel) (data : Bytes) : Result :=
  match s.execOperations.get key with
  | none => { service := s }
  | some op =>
    match op.stage with
    | .running _ =>
      if data.isEmpty || decide (runnerDataPlaneChunkBytes < data.length) then { service := s }
      else if op.pty then
        if op.ptyWindowBytes < data.length then { service := s }
        else
          let sent := op.retainAndSendPTYFrame (.output .stdout data)
          { service := s.putExec key sent.1, events := sent.2 }
      else if op.credit < data.length || op.outputLimitBytes < op.stdout.length + op.stderr.length +
        data.length then
        { service := s }
      else
        let op' := { op with
          credit := op.credit - data.length, nextOutgoing := op.nextOutgoing + 1
          stdout := if channel = .stdout then op.stdout ++ data else op.stdout
          stderr := if channel = .stderr then op.stderr ++ data else op.stderr }
        if channel = .unspecified then { service := s }
        else { service := s.putExec key op', events := [.sent op.stream
          (.exec (op.execFrame (.output channel data)))] }
    | _ => { service := s }

/-! ## File -/

/-- What `handleFileFrame` asks of an Open besides identity and correlation. -/
def FileOpen.complete (o : FileOpen) : Bool :=
  o.operation != .unspecified && !blank o.workspaceRelativePath &&
    !(o.operation == .write && blank o.expectedChecksum) &&
    !(o.operation == .read && o.expectedSize == 0)

/-- A frame of a known File stream. -/
def continueFile (s : Service) (stream : Stream) (key : String) (op : FileOperationState)
    (frame : FileFrame) : Result :=
  if correlationChanged frame.correlation op.correlation op.terminal then
    { service := s, error := some .correlationChanged }
  else match acceptRunnerDataPlaneInput op.nextIncoming op.lastIncoming frame.sequence frame with
  | .duplicate =>
    { service := s
      events := match op.terminalFrame with
        | some terminal => [.sent stream (.file terminal)]
        | none => [] }
  | .reordered => { service := s, error := some .sequenceReordered }
  | .next =>
    let op := { op with nextIncoming := op.nextIncoming + 1, lastIncoming := some frame }
    -- a chunk behind a refused Open must not start the write
    if op.terminal then { service := s.putFile key op }
    else match frame.payload with
    | .credit byteCount =>
      match addCredit op.credit byteCount with
      | .error e => { service := s.putFile key op, error := some e }
      | .ok credit => { service := s.putFile key { op with credit } }
    | .cancel _ => { service := s.putFile key { op with cancelled := true } }
    | .chunk offset data =>
      if op.cancelled then { service := s.putFile key op }
      else match op.fileOpen with
      | none => { service := s.putFile key op, error := some .fileChunksOnlyForWrites }
      | some o =>
        if o.operation ≠ .write then
          { service := s.putFile key op, error := some .fileChunksOnlyForWrites }
        else if offset ≠ op.content.length ∨ o.expectedSize < op.content.length + data.length then
          { service := s.putFile key op, error := some .fileChunkReordered }
        else
          let op := { op with content := op.content ++ data }
          if op.content.length = o.expectedSize ∧ !op.started then
            -- the last chunk takes the write from the handler that awaits its cancellation
            if op.stage = .uploading then
              { service := s.putFile key { op with started := true, stage := .running }, events := [.started .file key] }
            else { service := s.putFile key { op with started := true }, error := some .uploadNotWaiting }
          else { service := s.putFile key op }
    | _ => { service := s.putFile key op, error := some .payloadNotAccepted }

/-- `handleFileFrame`, up to the point where a new stream is recorded. -/
def handleFileFrame (enabled : Features) (s : Service) (stream : Stream) (frame : FileFrame) :
    Result :=
  if !enabled.fileStreaming then { service := s, error := some .featureNotNegotiated }
  else match validateRunnerDataPlaneFrameIdentity frame with
  | none => { service := s, error := some .identityIncomplete }
  | some identity =>
    let key := runnerDataPlaneOperationKey identity
    match s.fileOperations.get key with
    | some op => continueFile s stream key op frame
    | none =>
      match frame.payload with
      | .opens o =>
        if frame.sequence ≠ 1 then { service := s, error := some .mustBeginWithOpen }
        else if !validateOperationCorrelation config.runnerId identity frame.correlation then
          { service := s, error := some .correlationInconsistent }
        else if !o.complete then { service := s, error := some .fileOpenIncomplete }
        else
          let atCapacity :=
            decide (maxRunnerDataPlaneOperationStates ≤ s.fileOperations.entries.size)
          { service := s.putFile key
              { identity, correlation := frame.correlation, stream, fileOpen := some o
                nextIncoming := 2, lastIncoming := some frame, nextOutgoing := 1
                stage := .opening atCapacity }
            events := [.entered .file key] }
      | _ => { service := s, error := some .mustBeginWithOpen }

/-- The rest of `handleFileFrame` for a new stream: refuse it, start its worker, or await the content of a write. -/
def decideFileOpen (s : Service) (key : String) : Result :=
  match s.fileOperations.get key with
  | none => { service := s }
  | some op =>
    match op.stage, op.fileOpen with
    | .opening atCapacity, some o =>
      if atCapacity then
        sendFileTerminal s key op { kind := .failed, safeDetail := "runner File operation capacity is exhausted" }
      else if !s.hasActiveFence op.identity.fence then
        sendFileTerminal s key op { kind := .fenced, safeDetail := "assignment fence is not active" }
      else if config.dataPlaneBackend.isNone then
        sendFileTerminal s key op { kind := .failed, safeDetail := "runner data-plane backend is unavailable" }
      else if o.operation ≠ .write ∨ o.expectedSize = 0 then
        { service := s.putFile key { op with started := true, stage := .running }, events := [.started .file key] }
      else { service := s.putFile key { op with stage := .uploading } }
    | _, _ => { service := s }

/-- The context of a waiting write has ended: its handler takes the write over, unless the last chunk did. -/
def uploadCancelled (s : Service) (key : String) : Result :=
  match s.fileOperations.get key with
  | none => { service := s }
  | some op =>
    if op.stage = .uploading ∧ op.cancelled = true ∧ ¬(op.started || op.terminal) then
      { service := s.putFile key { op with started := true, content := [], stage := .aborting } }
    else { service := s }

/-- The handler of a cancelled write ends it. -/
def uploadAborted (s : Service) (key : String) : Result :=
  match s.fileOperations.get key with
  | none => { service := s }
  | some op =>
    if op.stage = .aborting then
      sendFileTerminal s key op { kind := .cancelled, safeDetail := "filesystem upload cancelled" }
    else { service := s }

/-- What `ExecuteFile` returned, and how the delivery of its result went. -/
structure FileReturn where
  terminal : Option FileTerminal
  err : Option Cause
  cause : Option Cause
  deliveryFailed : Bool

/-- The outcome of `executeFileOperation`. -/
def FileReturn.outcome (r : FileReturn) : FileTerminal :=
  if r.deliveryFailed then
    if r.cause.isSome then { kind := .cancelled, safeDetail := "filesystem operation cancelled" }
    else { kind := .failed, safeDetail := "runner filesystem result delivery failed" }
  else if r.err.isNone then
    r.terminal.getD { kind := .failed, safeDetail := "runner filesystem bridge returned no terminal outcome" }
  else if r.err = some .canceled ∨ r.cause = some .canceled then
    { kind := .cancelled, safeDetail := "filesystem operation cancelled" }
  else { kind := .failed, safeDetail := "runner filesystem bridge failed" }

/-- The backend of a File operation returns. -/
def fileReturns (s : Service) (key : String) (r : FileReturn) : Result :=
  match s.fileOperations.get key with
  | none => { service := s }
  | some op => if op.stage = .running then sendFileTerminal s key op r.outcome else { service := s }

/-- One frame of a result: `sendFileMetadata`, and `sendRunnerFileBytes` within the credit. -/
def fileOutput (s : Service) (key : String) (payload : FilePayload) : Result :=
  match s.fileOperations.get key with
  | none => { service := s }
  | some op =>
    let send (used : ℕ) : Result :=
      { service := s.putFile key { op with nextOutgoing := op.nextOutgoing + 1, credit := op.credit - used }
        events := [.sent op.stream (.file (op.frame payload))] }
    match op.stage, payload with
    | .running, .metadata _ => send 0
    | .running, .chunk _ data =>
      if data.isEmpty || decide (runnerDataPlaneChunkBytes < data.length) ||
        decide (op.credit < data.length) then
        { service := s }
      else send data.length
    | _, _ => { service := s }

/-! ## Port -/

/-- What the guest answers to a Port frame. -/
structure PortAnswers where
  opens : Bool
  writes : Bool
  closes : Bool

/-- The terminal of a cancelled Port. -/
def portSessionCancelled : PortTerminal := ⟨.cancelled, "port session cancelled"⟩

/-- `sendPortCredit`. -/
def sendPortCredit (s : Service) (stream : Stream) (key : String) (op : PortOperation)
    (credit : ℕ) : Result :=
  if op.terminal then { service := s.putPort key op }
  else
    { service := s.putPort key { op with nextOutgoing := op.nextOutgoing + 1 }
      events := [.sent stream (.port (op.frame (.credit credit)))] }

/-- A frame of a known Port stream. -/
def continuePort (answers : PortAnswers) (s : Service) (stream : Stream) (key : String)
    (op : PortOperation) (frame : PortFrame) : Result :=
  match acceptRunnerDataPlaneInput op.nextIncoming op.lastIncoming frame.sequence frame with
  | .duplicate =>
    { service := s
      events := match op.terminalFrame with
        | some terminal => [.sent stream (.port terminal)]
        | none => [] }
  | .reordered => { service := s, error := some .sequenceReordered }
  | .next =>
    let op := { op with nextIncoming := op.nextIncoming + 1, lastIncoming := some frame }
    if op.terminal then { service := s.putPort key op }
    else match frame.payload with
    | .bytes data =>
      if data.isEmpty || decide (runnerDataPlaneChunkBytes < data.length) then
        { service := s.putPort key op, error := some .portBytesBound }
      else if answers.writes then sendPortCredit s stream key op data.length
      else sendPortTerminal s stream key op ⟨.guestUnavailable, "guest port write failed"⟩
        answers.closes
    | .credit byteCount =>
      match addCredit op.credit byteCount with
      | .error e => { service := s.putPort key op, error := some e }
      | .ok credit => { service := s.putPort key { op with credit } }
    | .cancel _ => sendPortTerminal s stream key { op with cancelled := true } portSessionCancelled answers.closes
    | _ => { service := s.putPort key op, error := some .payloadNotAccepted }

/-- `finishDirectPortSession` for the sessions that match: each leaves the registry, and one that is bridged ends. -/
def closeDirectPorts (s : Service) (t : PortTerminal) (selects : DirectPortSession → Bool) :
    Result :=
  let ended := s.directPorts.rows.filter fun x => selects x.2 && x.2.bridged
  { service := { s with directPorts := s.directPorts.deleteWhere fun _ x => selects x }
    events := ended.flatMap fun x =>
      s.reportCancelledOperationTerminal (.port (outgoing x.2.identity 1 x.2.correlation (.terminal t))) }

/-- `sendUntrackedPortTerminal`. -/
def sendUntrackedPortTerminal (s : Service) (stream : Stream) (identity : Identity)
    (correlation : Option Correlation) (t : PortTerminal) : Result :=
  { service := s, events := [.sent stream (.port (outgoing identity 1 correlation (.terminal t)))] }

/-- Its fields are in order. -/
def PortDirectOpen.complete (o : PortDirectOpen) : Bool :=
  o.guestPort != 0 && decide (o.guestPort ≤ 65535) &&
    (o.protocol == "tcp" || o.protocol == "http") &&
    o.portName != "" && o.deadlineUnixMs != 0 && o.credentialDigest.length == 32 && o.leaseId != ""

/-- `registerDirectPortSession`. -/
def registerDirectPortSession (s : Service) (identity : Identity) (correlation : Option Correlation)
    (o : PortDirectOpen) : Result :=
  if !o.complete then { service := s, error := some .commandIncomplete }
  else { service := { s with directPorts := s.directPorts.insertNew o.credentialDigest { identity, correlation } } }

/-- The Open of a new proxied Port stream; the backend is called within the critical section. -/
def openPort (answers : PortAnswers) (s : Service) (stream : Stream) (key : String)
    (identity : Identity) (frame : PortFrame) : Result :=
  let op (connected : Bool) (refusal : Option PortTerminal) : PortOperation :=
    { identity, correlation := frame.correlation, stream
      nextIncoming := 2, lastIncoming := some frame, nextOutgoing := 1
      connected, stage := .opening refusal }
  let refuse (t : PortTerminal) : Result :=
    { service := s.putPort key (op false (some t)), events := [.entered .port key] }
  if !s.hasActiveFence identity.fence then refuse ⟨.fenced, "assignment fence is not active"⟩
  else if !config.portBackend then refuse ⟨.guestUnavailable, "runner Port backend is unavailable"⟩
  else if maxRunnerDataPlaneOperationStates ≤ s.portOperations.entries.size then
    refuse ⟨.failed, "runner Port capacity is exhausted"⟩
  else
    { service := s.putPort key
        (if answers.opens then op true none else op false (some ⟨.guestUnavailable, "guest port is unavailable"⟩))
      events := [.entered .port key, .started .port key] }

/-- A frame of a proxied Port stream: of a known one, or the Open of a new one. -/
def trackPortFrame (answers : PortAnswers) (s : Service) (stream : Stream) (key : String)
    (identity : Identity) (frame : PortFrame) : Result :=
  match s.portOperations.get key with
  | some op => continuePort answers s stream key op frame
  | none =>
    match frame.payload with
    | .opens _ =>
      if frame.sequence ≠ 1 then { service := s, error := some .mustBeginWithOpen }
      else if !validateOperationCorrelation config.runnerId identity frame.correlation then
        { service := s, error := some .correlationInconsistent }
      else openPort config answers s stream key identity frame
    | _ => { service := s, error := some .mustBeginWithOpen }

/-- `handlePortFrame`; `listenerReady` says whether direct connections are served. -/
def handlePortFrame (enabled : Features) (answers : PortAnswers) (listenerReady : Bool)
    (s : Service) (stream : Stream) (frame : PortFrame) : Result :=
  if !enabled.portProxy then { service := s, error := some .featureNotNegotiated }
  else match validateRunnerDataPlaneFrameIdentity frame with
  | none => { service := s, error := some .identityIncomplete }
  | some identity =>
    let key := runnerDataPlaneOperationKey identity
    let tracked := trackPortFrame config answers s stream key identity frame
    match frame.payload with
    | .cancel reason =>
      -- a direct session has no stream; its Cancel revokes it
      if s.directPorts.any fun _ x => x.identity.operationId == frame.operationId then
        closeDirectPorts s ⟨.cancelled, if reason = "" then "port session cancelled" else reason⟩
          fun x => x.identity.operationId == frame.operationId
      else tracked
    | .directOpen o =>
      if frame.sequence ≠ 1 then { service := s, error := some .mustBeginWithOpen }
      else if !validateOperationCorrelation config.runnerId identity frame.correlation then
        { service := s, error := some .correlationInconsistent }
      else if !s.hasActiveFence identity.fence then
        sendUntrackedPortTerminal s stream identity frame.correlation ⟨.fenced,
          "assignment fence is not active"⟩
      else if !config.portBackend then
        sendUntrackedPortTerminal s stream identity frame.correlation
          ⟨.guestUnavailable, "runner Port backend is unavailable"⟩
      else if !listenerReady then
        sendUntrackedPortTerminal s stream identity frame.correlation
          ⟨.failed, "runner data-plane listener is unavailable"⟩
      else registerDirectPortSession s identity frame.correlation o
    | _ => tracked

/-- The rest of `handlePortFrame` for a new stream: its terminal, or the first credit and the pump. -/
def decidePortOpen (s : Service) (key : String) : Result :=
  match s.portOperations.get key with
  | none => { service := s }
  | some op =>
    match op.stage with
    | .opening (some refusal) => sendPortTerminal s op.stream key op refusal true
    | .opening none =>
      sendPortCredit s op.stream key { op with stage := .pumping } runnerDataPlaneChunkBytes
    | _ => { service := s }

/-- One frame of `pumpPortReads`, within the credit. -/
def portRead (s : Service) (key : String) (data : Bytes) : Result :=
  match s.portOperations.get key with
  | none => { service := s }
  | some op =>
    if op.stage = .pumping ∧ op.terminal = false ∧ data ≠ [] ∧
      data.length ≤ min op.credit runnerDataPlaneChunkBytes then
      { service := s.putPort key
          { op with nextOutgoing := op.nextOutgoing + 1, credit := op.credit - data.length }
        events := [.sent op.stream (.port (op.frame (.bytes data)))] }
    else { service := s }

/-- Why `pumpPortReads` stops. -/
inductive PumpExit where
  | cancelled | closed | failed
deriving DecidableEq

/-- The terminal for each exit. -/
def PumpExit.terminal : PumpExit → PortTerminal
  | .cancelled => portSessionCancelled
  | .closed => ⟨.closed, "guest port closed"⟩
  | .failed => ⟨.failed, "guest port read failed"⟩

/-- `finishPortPump`. -/
def finishPortPump (s : Service) (key : String) (exit : PumpExit) (closes : Bool) : Result :=
  match s.portOperations.get key with
  | none => { service := s }
  | some op =>
    if op.stage = .pumping ∧ op.terminal = false then
      sendPortTerminal s op.stream key op exit.terminal closes
    else { service := s }

end SecondBox.Runner

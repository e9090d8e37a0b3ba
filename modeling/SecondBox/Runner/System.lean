/-
  The Runner as a state machine.

  A step is a message on one of its connections, a goroutine running its next
  critical section, or something that happens to the Runner from outside.
  What the guest, the backend and the clock answer is part of the step, so a
  run of steps is any interleaving of the Runner's goroutines.
-/
import SecondBox.Runner.Streams

namespace SecondBox.Runner

open Relational Once

/-! ## Cancellation -/

/-- The table of the session's operation. -/
def SessionKind.operationKind : SessionKind → Kind
  | .file => .file
  | _ => .exec

/-- What is recorded for a File operation that is not there: its cancelled
    terminal, as the first frame of its stream. -/
def absentFile (stream : Stream) (session : DirectSession) (frame : FileFrame) :
    FileOperationState where
  identity := session.identity
  correlation := session.correlation
  stream := stream
  fileOpen := none
  nextIncoming := 1
  lastIncoming := none
  nextOutgoing := 2
  started := true
  terminal := true
  terminalFrame := some frame
  stage := .ended

/-- What is recorded for an Exec or a PTY that is not there. -/
def absentExec (stream : Stream) (session : DirectSession) (frame : ExecFrame ⊕ PtyFrame) :
    ExecOperation where
  identity := session.identity
  correlation := session.correlation
  stream := stream
  nextIncoming := 1
  lastIncoming := none
  nextOutgoing := 2
  pty := frame.isRight
  terminal := true
  terminalFrame := frame.getLeft?
  ptyTerminalFrame := frame.getRight?
  ptyReplay := frame.getRight?.toList
  stage := .ended

variable (s : Service)

/-- `recordAbsentOperationTerminalLocked`. -/
def recordAbsentOperationTerminal (stream : Stream) (key : String) (session : DirectSession) :
    Service × Message :=
  match session.kind with
  | .file =>
    let frame : FileFrame := outgoing session.identity 1 session.correlation
      (.terminal { kind := .cancelled, safeDetail := "filesystem operation cancelled" })
    (s.retainFileTerminal key (absentFile stream session frame), .file frame)
  | .pty =>
    let frame : PtyFrame := outgoing session.identity 1 session.correlation
      (.terminal { kind := .cancelled, exitCode := -1, safeDetail := "command cancelled" })
    (s.retainExecTerminal key (absentExec stream session (.inr frame)), .pty frame)
  | _ =>
    let frame : ExecFrame := outgoing session.identity 1 session.correlation
      (.bufferedResult [] [] { kind := .cancelled, exitCode := -1, safeDetail := "command cancelled" })
    (s.retainExecTerminal key (absentExec stream session (.inl frame)), .exec frame)

/-- No operation of either kind stands under the key. -/
def Service.holdsNone (key : String) : Bool :=
  (s.execOperations.get key).isNone && (s.fileOperations.get key).isNone

/-- `retainUnopenedDirectOperation`: a terminal for an admitted session whose
    Open has not arrived; a late Open meets it.  `none` once the Open has arrived. -/
def retainUnopenedDirectOperation (stream : Stream) (session : DirectSession) :
    Option (Service × Message × List Event) :=
  let key := runnerDataPlaneOperationKey session.identity
  if s.holdsNone key then
    let recorded := recordAbsentOperationTerminal s stream key session
    let kind := session.kind.operationKind
    some (recorded.1, recorded.2, [.entered kind key, .retained kind key, .absent kind key])
  else none

/-- `DataPlaneCancelCommand` -/
structure CancelCommand where
  fence : Option Fence
  operationId : String
  streamId : String
  kind : SessionKind
  reason : String

/-- `directDataPlane.closeSession`. -/
def Service.closeSession (operationId : String) : Service := s.completeSession operationId

/-- What a cancellation finds under its key: a retained terminal with whether
    the operation was never seen, or a running operation. -/
inductive Found where
  | retained (message : Message) (absent : Bool)
  | running
  | nothing

/-- What a cancellation finds of an Exec or PTY; a running one is told to stop and to confirm it. -/
def cancelExec (key : String) : Service × Found :=
  match s.execOperations.get key with
  | none => (s, .nothing)
  | some op =>
    match op.ptyTerminalFrame, op.terminalFrame with
    | some frame, _ => (s, .retained (.pty frame) (op.terminal && op.correlation.isNone))
    | none, some frame => (s, .retained (.exec frame) (op.terminal && op.correlation.isNone))
    | none, none =>
      if op.terminal then (s, .nothing)
      else (s.putExec key { op with confirmCancel := true, cancelled := true }, .running)

/-- Cancel a File operation. -/
def cancelFile (key : String) : Service × Found :=
  match s.fileOperations.get key with
  | none => (s, .nothing)
  | some op =>
    match op.terminalFrame with
    | some frame => (s, .retained (.file frame) (op.terminal && op.correlation.isNone))
    | none =>
      if op.terminal then (s, .nothing)
      else (s.putFile key { op with confirmCancel := true, cancelled := true }, .running)

/-- Cancel a Port. -/
def cancelPort (key : String) : Service :=
  match s.portOperations.get key with
  | none => s
  | some op => if op.terminal then s else s.putPort key { op with cancelled := true }

/-- The cancellation of an Exec, PTY or File operation that is not an unopened direct session. -/
def cancelTracked (stream : Stream) (identity : Identity) (kind : SessionKind) : Result :=
  let key := runnerDataPlaneOperationKey identity
  if s.holdsNone key then
    -- absence under the lock proves that there is no worker; the tombstone keeps a late Open from starting one
    let recorded :=
      recordAbsentOperationTerminal s stream key { identity, correlation := none, kind }
    let k := kind.operationKind
    { service := recorded.1.closeSession identity.operationId
      events := [.entered k key, .retained k key, .absent k key] ++
      s.reportCancelledOperationTerminal recorded.2 }
  else
    let found := if kind = .file then cancelFile s key else cancelExec s key
    match found.2 with
    | .running => { service := found.1 }
    | .retained message absent =>
      { service := found.1.closeSession identity.operationId
        events := (if absent then [.absent kind.operationKind key] else []) ++
        s.reportCancelledOperationTerminal message }
    | .nothing => { service := found.1.closeSession identity.operationId }

/-- `handleDataPlaneCancel`; `found` is the session that `directDataPlane.find` returns. -/
def handleDataPlaneCancel (stream : Stream) (command : CancelCommand)
    (found : Option DirectSession) :
    Result :=
  match command.fence with
  | none => { service := s, error := some .commandIncomplete }
  | some fence =>
    let identity : Identity := ⟨fence, command.operationId, command.streamId⟩
    if command.operationId = "" ∨ command.streamId = "" ∨ command.reason = "" ∨
      command.kind = .unspecified then
      { service := s, error := some .commandIncomplete }
    else if command.kind = .port then
      (closeDirectPorts s ⟨.cancelled, command.reason⟩ fun x => x.identity.operationId ==
        command.operationId).andThen
        fun s => { service := cancelPort s (runnerDataPlaneOperationKey identity) }
    else
      let unopened := found.bind fun session =>
        if session.kind = command.kind ∧ session.identity = identity then
          retainUnopenedDirectOperation s stream session
        else none
      match unopened with
      | some (s', message, events) =>
        { service := s'.closeSession command.operationId
          events := events ++ s.reportCancelledOperationTerminal message }
      | none => cancelTracked s stream identity command.kind

/-! ## Messages -/

/-- `DataPlaneDirectOpenCommand` -/
structure DirectOpenCommand where
  fence : Option Fence
  operationId : String
  streamId : String
  correlation : Option Correlation
  kind : SessionKind
  deadlineUnixMs : ℕ
  credentialDigest : Bytes
  streamWindowBytes : ℕ
  port : Option PortDirectOpen

/-- `registerDirectDataPlaneSession`; `expired` says whether the deadline has passed. -/
def registerDirectDataPlaneSession (config : Config) (s : Service) (expired : Bool)
    (o : DirectOpenCommand) : Result :=
  match o.fence with
  | none => { service := s, error := some .commandIncomplete }
  | some fence =>
    let identity : Identity := ⟨fence, o.operationId, o.streamId⟩
    if o.operationId = "" ∨ o.streamId = "" ∨ o.kind = .unspecified ∨ o.deadlineUnixMs = 0 ∨
        o.credentialDigest.length ≠ 32 ∨ (o.kind = .pty ∧ o.streamWindowBytes = 0) then
      { service := s, error := some .commandIncomplete }
    else if expired || !s.hasActiveFence fence then { service := s }
    else if !validateOperationCorrelation config.runnerId identity o.correlation then
      { service := s, error := some .correlationInconsistent }
    else if o.kind = .port then
      match o.port with
      | none => { service := s, error := some .commandIncomplete }
      | some port =>
        if port.deadlineUnixMs ≠ o.deadlineUnixMs ∨ port.credentialDigest ≠ o.credentialDigest then
          { service := s, error := some .commandIncomplete }
        else registerDirectPortSession s identity o.correlation port
    else
      { service := { s with
          sessions := s.sessions.insertNew o.credentialDigest { identity, correlation := o.correlation, kind := o.kind } } }

/-- `ControlPlaneToRunner`. -/
inductive Command where
  | assignment (fence : Fence)
  | fence (fence : Option Fence) (correlation : Option Correlation)
  | drain
  | exec (frame : ExecFrame)
  | pty (frame : PtyFrame)
  | file (frame : FileFrame)
  | port (frame : PortFrame)
  | portDirectAdmission
  | dataPlaneDirectOpen (o : DirectOpenCommand)
  | dataPlaneDirectAdmission
  | dataPlaneCancel (command : CancelCommand)
  | localWorkspace
  | unsupported

/-- What the backend, the guest, the clock and the direct registry answer while a command is handled. -/
structure Answers where
  backendStarts : Bool
  backendFences : Bool
  port : PortAnswers
  listenerReady : Bool
  expired : Bool
  found : Option DirectSession

/-- `handleAssignment`, for an Assignment that is valid for this Runner. -/
def handleAssignment (answers : Answers) (s : Service) (stream : Stream) (fence : Fence) : Result :=
  if s.drain ≠ .active then { service := s }
  else
    { service := if answers.backendStarts then { s with active := s.active.put fence.assignmentId fence } else s
      events := [.sent stream (.assignmentResult fence answers.backendStarts)] }

/-- `handleFence`: direct connections of the Assignment are closed first. -/
def handleFence (config : Config) (answers : Answers) (s : Service) (stream : Stream)
    (fence : Option Fence) (correlation : Option Correlation) : Result :=
  match fence with
  | none => { service := s, error := some .commandIncomplete }
  | some fence =>
    let operationId := (correlation.map Correlation.operationId).getD ""
    if !validateOperationCorrelation config.runnerId ⟨fence, operationId, ""⟩ correlation then
      { service := s, error := some .correlationInconsistent }
    else
      let closed := closeDirectPorts s ⟨.fenced, "assignment fenced"⟩ fun x =>
        x.identity.fence.assignmentId == fence.assignmentId
      let s := { closed.service with
        sessions :=
          s.sessions.deleteWhere fun _ x => x.identity.fence.assignmentId == fence.assignmentId }
      let active := s.active.deleteWhere fun id _ => id == fence.assignmentId
      { service :=
          if answers.backendFences then
            { s with active, drain := if s.drain = .draining ∧ active.size = 0 then .drained else s.drain }
          else s
        events := closed.events ++ [.sent stream (.fenceResult fence answers.backendFences)] }

/-- `handleDrain` -/
def handleDrain (stream : Stream) : Result :=
  let closed := closeDirectPorts s ⟨.fenced, "runner draining"⟩ fun _ => true
  let phase : DrainPhase := if s.active.size = 0 then .drained else .draining
  { service := { closed.service with sessions := .empty, drain := phase }
    events := closed.events ++ [.sent stream (.drainState phase (s.active.rows.map Prod.snd))] }

/-- `handleCommand` -/
def handleCommand (config : Config) (enabled : Features) (answers : Answers) (s : Service)
    (stream : Stream) :
    Command → Result
  | .assignment fence => handleAssignment answers s stream fence
  | .fence fence correlation => handleFence config answers s stream fence correlation
  | .drain => handleDrain s stream
  | .exec frame => handleExecFrame config enabled s stream frame
  | .pty frame => handlePTYFrame enabled s stream frame
  | .file frame => handleFileFrame config enabled s stream frame
  | .port frame => handlePortFrame config enabled answers.port answers.listenerReady s stream frame
  | .portDirectAdmission => { service := s }
  | .dataPlaneDirectOpen o => registerDirectDataPlaneSession config s answers.expired o
  | .dataPlaneDirectAdmission => { service := s }
  | .dataPlaneCancel command => handleDataPlaneCancel s stream command answers.found
  | .localWorkspace =>
    if enabled.localWorkspace then
      { service := s } else { service := s, error := some .featureNotNegotiated }
  | .unsupported => { service := s, error := some .payloadNotAccepted }

/-! ## Steps -/

/-- The steps of the service. -/
inductive Step where
  /-- a command arrives on a connection -/
  | command (stream : Stream) (enabled : Features) (answers : Answers) (command : Command)
  /-- the handler of a new stream decides what becomes of it -/
  | decide (kind : Kind) (key : String)
  /-- the context of an operation ends: its connection is lost or its deadline has passed -/
  | contextDone (kind : Kind) (key : String)
  | execOutput (key : String) (channel : ExecOutputChannel) (data : Bytes)
  | execReturns (key : String) (r : ExecReturn)
  | uploadCancelled (key : String)
  | uploadAborted (key : String)
  | fileOutput (key : String) (payload : FilePayload)
  | fileReturns (key : String) (r : FileReturn)
  | portRead (key : String) (data : Bytes)
  | portPumpEnds (key : String) (exit : PumpExit) (closes : Bool)
  /-- a control connection is established or lost -/
  | connected (stream : Option Stream)
  /-- a connection is lost: its PTY attachments go -/
  | detachStream (stream : Stream)
  /-- a direct connection ends before the Open of its session has arrived -/
  | unopened (stream : Stream) (session : DirectSession)
  /-- a caller connection is bridged to a direct Port session -/
  | directPortBridged (digest : Bytes) (opens : Bool)
  /-- a bridged direct Port session ends -/
  | directPortEnds (digest : Bytes) (t : PortTerminal)

/-- An operation's context is done. -/
def contextDone (kind : Kind) (key : String) : Service :=
  match kind with
  | .exec =>
    match s.execOperations.get key with
    | none => s
    | some op => s.putExec key { op with cancelled := true }
  | .file =>
    match s.fileOperations.get key with
    | none => s
    | some op => s.putFile key { op with cancelled := true }
  | .port =>
    match s.portOperations.get key with
    | none => s
    | some op => s.putPort key { op with cancelled := true }

/-- Its client leaves with `stream`. -/
def ExecOperation.detachFrom (stream : Stream) (op : ExecOperation) : ExecOperation :=
  if op.ptyAttachment.any fun attachment => attachment.stream == stream then
    { op with ptyAttachment := none } else op

/-- `detachPTYAttachmentsForStream`. -/
def detachPTYAttachmentsForStream (stream : Stream) : Service :=
  { s with execOperations := { s.execOperations with
      entries := s.execOperations.entries.update fun _ op => op.detachFrom stream } }

/-- `bridgeDirectPortConnection`, up to the point where bytes flow: the backend
    is called, and the session is bound to the connection or ends. -/
def bridgeDirectPort (digest : Bytes) (opens : Bool) : Result :=
  match s.directPorts.get digest with
  | none => { service := s }
  | some session =>
    if session.bridged then { service := s }
    else
      let key := runnerDataPlaneOperationKey session.identity
      if opens then
        { service := { s with directPorts := s.directPorts.put digest { session with bridged := true } }
          events := [.started .port key] }
      else
        { service := { s with directPorts := s.directPorts.deleteWhere fun d _ => d == digest }
          events := .started .port key :: s.reportCancelledOperationTerminal
            (.port (outgoing session.identity 1 session.correlation
              (.terminal ⟨.guestUnavailable, "guest port is unavailable"⟩))) }

/-- `finishDirectPortSession` for a session that is bridged. -/
def endDirectPort (digest : Bytes) (t : PortTerminal) : Result :=
  match s.directPorts.get digest with
  | none => { service := s }
  | some session =>
    if session.bridged then
      { service := { s with directPorts := s.directPorts.deleteWhere fun d _ => d == digest }
        events := s.reportCancelledOperationTerminal
          (.port (outgoing session.identity 1 session.correlation (.terminal t))) }
    else { service := s }

/-- One step. -/
def Service.step (config : Config) (s : Service) : Step → Result
  | .command stream enabled answers command => handleCommand config enabled answers s stream command
  | .decide .exec key => decideExecOpen config s key
  | .decide .file key => decideFileOpen config s key
  | .decide .port key => decidePortOpen s key
  | .contextDone kind key => { service := contextDone s kind key }
  | .execOutput key channel data => execOutput s key channel data
  | .execReturns key r => execReturns s key r
  | .uploadCancelled key => uploadCancelled s key
  | .uploadAborted key => uploadAborted s key
  | .fileOutput key payload => fileOutput s key payload
  | .fileReturns key r => fileReturns s key r
  | .portRead key data => portRead s key data
  | .portPumpEnds key exit closes => finishPortPump s key exit closes
  | .connected stream => { service := { s with control := stream } }
  | .detachStream stream => { service := detachPTYAttachmentsForStream s stream }
  | .unopened stream session =>
    match retainUnopenedDirectOperation s stream session with
    | some (s', _, events) => { service := s', events := events }
    | none => { service := s }
  | .directPortBridged digest opens => bridgeDirectPort s digest opens
  | .directPortEnds digest t => endDirectPort s digest t

/-- A Runner with everything seen of it so far, in order. -/
structure World where
  service : Service := {}
  events : List Event := []

/-- One step, with its events. -/
def World.step (config : Config) (w : World) (t : Step) : World :=
  let r := w.service.step config t
  ⟨r.service, w.events ++ r.events⟩

/-! ## A Runner with one Assignment -/

namespace Sample

/-- A Runner with a backend. -/
def config : Config := ⟨"runner", some true, true⟩

/-- A fence. -/
def fence : Fence := ⟨"assignment", "sandbox", "instance", 1, [7]⟩

/-- The correlation of an operation. -/
def correlation (operationId : String) : Correlation :=
  ⟨"request", operationId, "sandbox", "instance", 1, "assignment", "lease", "runner"⟩

/-- A frame of an operation. -/
def frame {P : Type} (operationId : String) (sequence : ℕ) (payload : P) : Frame P :=
  ⟨some fence, operationId, "stream", sequence, some (correlation operationId), payload⟩

/-- A guest and a backend that do what they are asked. -/
def answers : Answers := ⟨true, true, ⟨true, true, true⟩, true, false, none⟩

/-- A command on the control connection, with every feature negotiated. -/
def command (c : Command) : Step := .command (.control 0) ⟨true, true, true, true, true⟩ answers c

/-- A credential's digest. -/
def digest : Bytes := List.replicate 32 0

end Sample

end SecondBox.Runner

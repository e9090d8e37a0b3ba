/-
  The control plane's end of one Runner connection (`Session`).

  A connection begins with a Hello and a Registration.  Afterwards the Runner
  sends messages with an envelope (a message ID and a sequence number), which
  are deduplicated in a window of the last 256 IDs, and frames of data-plane
  streams, which are numbered stream by stream.  Frames the control plane sends
  are numbered in the same way (`ValidateOutboundDataPlaneFrame`).

  Every function returns the new state together with its error, as the source
  updates the session in place and may return an error at any later point.
  Frames are compared by their wire encoding; a `Codec` is what the encoding of
  each frame type is taken to be.
-/
import SecondBox.Base.History
import SecondBox.Base.RingBuffer
import SecondBox.Base.Table
import SecondBox.Runner.Frames
import Mathlib.Data.Finset.Basic

namespace SecondBox.RunnerControl

open Relational
open Runner (Bytes Fence Frame Identity ExecPayload FilePayload PtyPayload PortPayload
  WorkspaceTransferPayload ExecFrame FileFrame PtyFrame PortFrame WorkspaceTransferFrame blank)

/-! ## Messages of the Runner -/

/-- A range of protocol versions. -/
structure VersionRange where
  minimum : ℕ
  maximum : ℕ
deriving DecidableEq

/-- The features a Runner may offer. -/
inductive RunnerFeature where
  | unspecified | execStreaming | fileStreaming | pty | portProxy | evidence | localWorkspace | tenantEgressContext
  | clientSelectedImage
deriving DecidableEq

/-- The first message of a Runner. -/
structure RunnerHello where
  runnerId : String
  connectionNonce : Bytes
  supportedVersions : Option VersionRange
  mandatoryFeatures : List RunnerFeature
deriving DecidableEq

/-- What a Runner is ready for. -/
structure RunnerCapabilities where
  hypervisorReady : Bool
  isolationReady : Bool
  resourceLimitsReady : Bool
  networkPolicyReady : Bool
  storageReady : Bool
  cleanupReady : Bool
  dataPlaneReady : Bool
  guestProtocolGenerations : Option VersionRange
deriving DecidableEq

/-- What identifies a message that is delivered at least once. -/
structure Envelope where
  messageId : String
  sequence : ℕ
deriving DecidableEq

/-- `RunnerRegistration`; capacities and timings are passed on as they came. -/
structure RunnerRegistration where
  envelope : Envelope
  runnerId : String
  connectionId : String
  runnerPoolId : String
  softwareVersion : String
  protocolVersion : ℕ
  capabilities : Option RunnerCapabilities
  allocatable : Option Bytes
  reserved : Option Bytes
  readinessFailures : List String
  startupTiming : Option Bytes
  dataPlaneAdvertisedAddress : String
  dataPlaneCertificateSpkiSha256 : String
  supportedEgressContexts : List String
deriving DecidableEq

/-- The drain phase a heartbeat reports. -/
inductive DrainPhase where
  | unspecified | active | draining | drained
deriving DecidableEq

/-- A heartbeat; capacities as bytes, only their presence is checked. -/
structure RunnerHeartbeat where
  envelope : Envelope
  runnerId : String
  connectionId : String
  allocatable : Option Bytes
  reserved : Option Bytes
  drainPhase : DrainPhase
  startupTiming : Option Bytes
deriving DecidableEq

/-- The messages of which a session reads the envelope only. -/
inductive DurableMessage where
  | assignmentAck | assignmentProgress | assignmentResult | fenceResult | drainState | evidence | localWorkspaceResult
  | prepareImageResult | instanceTerminal | portDirectConsume | dataPlaneDirectConsume
deriving DecidableEq

/-- A message of a Runner, by its payload. -/
inductive RunnerToControlPlane where
  | unset
  | hello (hello : RunnerHello)
  | registration (registration : RunnerRegistration)
  | heartbeat (heartbeat : RunnerHeartbeat)
  | durable (kind : DurableMessage) (envelope : Envelope) (body : Bytes)
  | exec (frame : ExecFrame)
  | file (frame : FileFrame)
  | pty (frame : PtyFrame)
  | port (frame : PortFrame)
  | workspaceTransfer (frame : WorkspaceTransferFrame)
deriving DecidableEq

/-! ## Events and errors -/

/-- What an accepted message is. -/
inductive EventKind where
  | welcome | registration | heartbeat | assignment | fence | drain | evidence | localWorkspace | imagePreparation | exec
  | pty | file | port | portDirect | dataPlaneDirect | workspaceTransfer | instanceTerminal | duplicate | rejection
deriving DecidableEq

/-- Why a Hello is rejected. -/
inductive ProtocolRejectionKind where
  | identityMismatch | invalidHello | versionUnsupported | featureUnsupported
deriving DecidableEq

/-- The answer to a Hello. -/
inductive Response where
  | welcome (connectionId : String) (selectedVersion : ℕ) (enabledFeatures : List RunnerFeature)
      (heartbeatIntervalMs : ℕ)
  | rejection (kind : ProtocolRejectionKind) (safeDetail : String)
deriving DecidableEq

/-- An accepted message. -/
structure Event where
  kind : EventKind
  runnerId : String := ""
  connectionId : String := ""
  response : Option Response := none
  registration : Option RunnerRegistration := none
  heartbeat : Option RunnerHeartbeat := none
  message : Option RunnerToControlPlane := none
deriving DecidableEq

/-- The errors of a session with what is added to them. -/
inductive SessionError where
  | helloRequired
  | registrationRequired
  | sequenceReordered
  | runnerPrerequisites (detail : String)
  | runnerMessage (detail : String)
deriving DecidableEq

/-! ## State -/

/-- What the control plane knows of a connection. -/
structure SessionConfig where
  authenticatedRunnerId : String
  supportedVersions : VersionRange
  enabledFeatures : List RunnerFeature
  heartbeatIntervalMs : ℕ
  connectionId : String

/-- A remembered message. -/
structure SessionMessageId where
  id : String
  sequence : ℕ
deriving DecidableEq

/-- `dataPlaneStreamState`; there is no payload before the first frame. -/
structure StreamState (E : Type) where
  sequence : ℕ
  payload : Option E

/-- Deterministic encodings of the frames.  Frames of one type with one encoding are equal; frames of
    different types may have the same encoding. -/
structure Codec (E : Type) where
  exec : ExecFrame → E
  file : FileFrame → E
  pty : PtyFrame → E
  port : PortFrame → E
  workspaceTransfer : WorkspaceTransferFrame → E
  exec_injective : Function.Injective exec
  file_injective : Function.Injective file
  pty_injective : Function.Injective pty
  port_injective : Function.Injective port
  workspaceTransfer_injective : Function.Injective workspaceTransfer

/-- The messages remembered. -/
def maxSessionMessageIds : ℕ := 256

theorem maxSessionMessageIds_pos : 0 < maxSessionMessageIds := by decide

/-- The state of a connection. -/
structure Session (E : Type) where
  config : SessionConfig
  helloAccepted : Bool
  registered : Bool
  selectedVersion : ℕ
  lastSequence : ℕ
  messageIds : Finset String
  /-- The array of the source with its count and its next index. -/
  messageIdOrder : RingBuffer SessionMessageId maxSessionMessageIds
  enabledFeatures : RunnerFeature → Bool
  inboundDataPlaneStreams : Table Bytes (StreamState E)
  outboundStreams : Table Bytes (StreamState E)

/-- `featureSet` -/
def featureSet (features : List RunnerFeature) (feature : RunnerFeature) : Bool :=
  features.contains feature

/-- `NewSession` -/
def newSession {E : Type} (config : SessionConfig) : Session E where
  config := config
  helloAccepted := false
  registered := false
  selectedVersion := 0
  lastSequence := 0
  messageIds := ∅
  messageIdOrder := .empty ⟨"", 0⟩ maxSessionMessageIds_pos
  enabledFeatures := featureSet config.enabledFeatures
  inboundDataPlaneStreams := .empty
  outboundStreams := .empty

/-! ## Hello -/

/-- The event that rejects a Hello. -/
def rejection (kind : ProtocolRejectionKind) (detail : String) : Event :=
  { kind := .rejection, response := some (.rejection kind detail) }

/-- Features that a Runner has to ask for once the control plane has enabled them. -/
def requiredFeatures : List (RunnerFeature × String) :=
  [(.localWorkspace, "runner does not implement the mandatory local-workspace protocol"),
   (.tenantEgressContext, "runner does not implement context-aware assignments"),
   (.clientSelectedImage, "runner does not implement client-selected images")]

section
variable {E : Type}

/-- `acceptHello` -/
def Session.acceptHello (s : Session E) (hello : RunnerHello) :
    Session E × Except SessionError Event :=
  if hello.runnerId ≠ s.config.authenticatedRunnerId then
    (s, .ok (rejection .identityMismatch "runner certificate identity does not match Hello"))
  else match hello.supportedVersions with
  | none => (s, .ok (rejection .invalidHello "runner Hello is incomplete"))
  | some versions =>
    if hello.connectionNonce.length < 32 ∨ versions.minimum = 0 ∨
      versions.minimum > versions.maximum then
      (s, .ok (rejection .invalidHello "runner Hello is incomplete"))
    else
      let minimum := max versions.minimum s.config.supportedVersions.minimum
      let maximum := min versions.maximum s.config.supportedVersions.maximum
      if minimum > maximum then
        (s, .ok (rejection .versionUnsupported "runner protocol version is unsupported"))
      else
        let enabled := featureSet s.config.enabledFeatures
        let mandatory := featureSet hello.mandatoryFeatures
        match requiredFeatures.find? fun r => enabled r.1 && !mandatory r.1 with
        | some r => (s, .ok (rejection .featureUnsupported r.2))
        | none =>
          if hello.mandatoryFeatures.any fun feature => !enabled feature then
            (s, .ok (rejection .featureUnsupported "runner mandatory feature is unsupported"))
          else
            ({ s with helloAccepted := true, selectedVersion := maximum },
              .ok { kind := .welcome,
                    response :=
                      some (.welcome s.config.connectionId maximum s.config.enabledFeatures
                      s.config.heartbeatIntervalMs) })

/-! ## Registration -/

/-- The longest context name. -/
def egressContextNameMaximumLength : ℕ := 63
/-- The most contexts of a Runner. -/
def runnerEgressContextSetMaximumSize : ℕ := 64

/-- `[a-z0-9]` -/
def contextNameChar (c : Char) : Bool := c.isLower || c.isDigit

/-- `ValidateEgressContextName`: `^[a-z0-9](?:[a-z0-9-]{0,61}[a-z0-9])?$`. -/
def validateEgressContextName (name : String) : Bool :=
  decide (name.utf8ByteSize ≤ egressContextNameMaximumLength) &&
    match name.toList with
    | [] => false
    | c :: rest =>
      contextNameChar c && (rest.isEmpty ||
        (decide (rest.length ≤ 62) && rest.dropLast.all (fun c => contextNameChar c || c == '-') &&
          rest.getLast?.any contextNameChar))

/-- The loop of `validateSupportedEgressContexts`; `seen` are the names before. -/
def checkEgressContexts (seen : List String) : List String → Except SessionError Unit
  | [] => .ok ()
  | name :: names =>
    if !validateEgressContextName name then
      .error
        (.runnerPrerequisites
          "Registration advertises an invalid egress context: SecondBox egress context name must contain 1 to 63 lowercase ASCII letters, digits, or hyphens and must begin and end with a letter or digit")
    else if seen.contains name then
      .error (.runnerPrerequisites "Registration repeats an egress context")
    else checkEgressContexts (name :: seen) names

/-- `validateSupportedEgressContexts` -/
def validateSupportedEgressContexts (contextNames : List String) : Except SessionError Unit :=
  if contextNames.length > runnerEgressContextSetMaximumSize then
    .error (.runnerPrerequisites "Registration advertises too many egress contexts")
  else checkEgressContexts [] contextNames

/-- What `validateRegistration` asks of the capabilities. -/
def RunnerCapabilities.ready (c : RunnerCapabilities) : Bool :=
  c.hypervisorReady && c.isolationReady && c.resourceLimitsReady && c.networkPolicyReady &&
    c.storageReady && c.cleanupReady && c.dataPlaneReady &&
    c.guestProtocolGenerations.any fun g => g.minimum != 0 && decide (g.minimum ≤ g.maximum)

/-- `validateRegistration` -/
def Session.validateRegistration (s : Session E) (r : RunnerRegistration) :
    Except SessionError Unit :=
  let incomplete : Except SessionError Unit :=
    .error (.runnerMessage "Registration identity, version, or capacity evidence is incomplete")
  match r.capabilities with
  | none => incomplete
  | some capabilities =>
    if r.runnerId ≠ s.config.authenticatedRunnerId ∨ r.connectionId ≠ s.config.connectionId ∨
        blank r.runnerPoolId ∨
        blank r.softwareVersion ∨ r.protocolVersion ≠ s.selectedVersion ∨ r.allocatable.isNone ∨
        r.reserved.isNone ∨ r.startupTiming.isNone then
      incomplete
    else if !r.readinessFailures.isEmpty || !capabilities.ready ||
        blank r.dataPlaneAdvertisedAddress ||
        r.dataPlaneCertificateSpkiSha256.utf8ByteSize != 64 then
      .error (.runnerPrerequisites "")
    else validateSupportedEgressContexts r.supportedEgressContexts

/-! ## Envelopes -/

/-- `validateEnvelope`. -/
def validateEnvelope (e : Envelope) : Except SessionError Envelope :=
  if blank e.messageId ∨ e.sequence = 0 then
    .error (.runnerMessage "message ID and sequence are required")
  else .ok e

/-- `runnerEnvelope` -/
def runnerEnvelope (message : RunnerToControlPlane) : Except SessionError Envelope :=
  match message with
  | .registration r => validateEnvelope r.envelope
  | .heartbeat h => validateEnvelope h.envelope
  | .durable _ e _ => validateEnvelope e
  | _ => .error (.runnerMessage "stream frame has no durable message envelope")

/-- `classifyRunnerMessage` -/
def classifyRunnerMessage (message : RunnerToControlPlane) : Option EventKind :=
  match message with
  | .durable kind _ _ => some (match kind with
    | .assignmentAck | .assignmentProgress | .assignmentResult => .assignment
    | .fenceResult => .fence
    | .drainState => .drain
    | .evidence => .evidence
    | .localWorkspaceResult => .localWorkspace
    | .prepareImageResult => .imagePreparation
    | .instanceTerminal => .instanceTerminal
    | .portDirectConsume => .portDirect
    | .dataPlaneDirectConsume => .dataPlaneDirect)
  | _ => none

/-- `record`: the oldest message makes room. -/
def Session.record (s : Session E) (messageId : String) (sequence : ℕ) : Session E :=
  if sequence ≤ s.lastSequence then s
  else
    let messageIds :=
      if s.messageIdOrder.count = maxSessionMessageIds then
        s.messageIds.erase s.messageIdOrder.oldest.id
      else s.messageIds
    { s with
      messageIds := insert messageId messageIds
      messageIdOrder := s.messageIdOrder.push ⟨messageId, sequence⟩
      lastSequence := sequence }

/-- `replayOutsideMessageIDWindow` -/
def Session.replayOutsideMessageIdWindow (s : Session E) (sequence : ℕ) : Bool :=
  if sequence > s.lastSequence ∨ s.messageIdOrder.count < maxSessionMessageIds then false
  else decide (sequence < s.messageIdOrder.oldest.sequence)

/-! ## Streams -/

/-- The bytes of a Go string. -/
def utf8 (s : String) : Bytes := s.toUTF8.data.toList

/-- `strings.Join` with NUL. -/
def joinKey : List Bytes → Bytes
  | [] => []
  | [part] => part
  | part :: parts => part ++ 0 :: joinKey parts

/-- The frame kinds that are bound to an Assignment. -/
inductive StreamKind where
  | exec | file | pty | port
deriving DecidableEq

/-- The name in a stream's key. -/
def StreamKind.name : StreamKind → String
  | .exec => "exec"
  | .file => "file"
  | .pty => "pty"
  | .port => "port"

/-- `dataPlaneStreamKey` -/
def dataPlaneStreamKey (kind : StreamKind) (i : Identity) : Bytes :=
  joinKey [utf8 kind.name, utf8 i.fence.assignmentId, utf8 i.fence.sandboxId,
    utf8 i.fence.instanceId, utf8 (toString i.fence.sandboxGeneration), i.fence.fencingToken,
    utf8 i.operationId, utf8 i.streamId]

/-- The key of a transfer stream. -/
def workspaceTransferKey (frame : WorkspaceTransferFrame) : Bytes :=
  joinKey [utf8 "workspace-transfer", utf8 frame.operationId, utf8 frame.sandboxId,
    utf8 frame.workspaceId, utf8 (toString frame.generation)]

/-- `uint64` arithmetic. -/
def wrap64 (n : ℕ) : ℕ := n % 2 ^ 64

/-- `acceptDataPlaneSequence`: whether the frame is a replay. -/
def acceptDataPlaneSequence [DecidableEq E] (streams : Table Bytes (StreamState E)) (key : Bytes)
    (sequence : ℕ) (encoded : E) :
    Table Bytes (StreamState E) × Except SessionError Bool :=
  let previous := (streams.get key).getD ⟨0, none⟩
  if sequence = previous.sequence ∧ sequence ≠ 0 ∧ previous.payload = some encoded then
    (streams, .ok true)
  -- A session may first see a stream after its first frame.
  else if previous.sequence ≠ 0 ∧ sequence ≠ wrap64 (previous.sequence + 1) then
    (streams, .error .sequenceReordered)
  else (streams.put key ⟨sequence, some encoded⟩, .ok false)

/-- `validateDataPlaneFrameIdentity`, which tests the same as the Runner does. -/
def validateDataPlaneFrameIdentity {P : Type} (frame : Frame P) : Except SessionError Identity :=
  match Runner.validateRunnerDataPlaneFrameIdentity frame with
  | none => .error (.runnerMessage "data-plane frame fencing, operation, stream, or sequence identity is incomplete")
  | some i => .ok i

/-- The checks before a frame is numbered: its feature, its payload and its identity. -/
def Session.checkFrame {P : Type} (s : Session E) (feature : RunnerFeature) (notNegotiated : String)
    (allowed : P → Bool) (notAllowed : String) (frame : Frame P) : Except SessionError Identity :=
  if !s.enabledFeatures feature then .error (.runnerMessage notNegotiated)
  else if !allowed frame.payload then .error (.runnerMessage notAllowed)
  else validateDataPlaneFrameIdentity frame

/-! ### Frames of the Runner -/

/-- Exec payloads a Runner sends. -/
def runnerExecPayload : ExecPayload → Bool
  | .output .. | .terminal _ | .bufferedResult .. => true
  | _ => false

/-- File payloads a Runner sends. -/
def runnerFilePayload : FilePayload → Bool
  | .chunk .. | .metadata _ | .terminal _ => true
  | _ => false

/-- PTY payloads a Runner sends. -/
def runnerPtyPayload : PtyPayload → Bool
  | .output .. | .terminal _ | .attachResult .. => true
  | _ => false

/-- Port payloads a Runner sends. -/
def runnerPortPayload : PortPayload → Bool
  | .bytes _ | .credit _ | .terminal _ => true
  | _ => false

/-- What `releaseTerminalDataPlaneState` takes for the end of a stream. -/
def RunnerToControlPlane.terminal : RunnerToControlPlane → Bool
  | .exec frame => match frame.payload with
    | .terminal _ | .bufferedResult .. => true
    | _ => false
  | .file frame => match frame.payload with
    | .terminal _ => true
    | _ => false
  | .pty frame => match frame.payload with
    | .terminal _ => true
    | _ => false
  | .port frame => match frame.payload with
    | .terminal _ => true
    | _ => false
  | .workspaceTransfer frame => match frame.payload with
    | .result .. | .cancel _ => true
    | _ => false
  | _ => false

/-- An event of this connection. -/
def Session.event (s : Session E) (kind : EventKind) (message : RunnerToControlPlane) : Event :=
  { kind, runnerId := s.config.authenticatedRunnerId, connectionId := s.config.connectionId, message := some message }

/-- `releaseTerminalDataPlaneState` -/
def Session.releaseTerminalDataPlaneState (s : Session E) (message : RunnerToControlPlane)
    (inboundKey : Bytes) : Session E :=
  if message.terminal then
    let released := { s with
      inboundDataPlaneStreams := s.inboundDataPlaneStreams.delete inboundKey
      outboundStreams := s.outboundStreams.delete inboundKey }
    match message with
    | .pty ⟨some fence, operationId, streamId, _, _, _⟩ =>
      { released with
        outboundStreams := released.outboundStreams.delete
          (dataPlaneStreamKey .exec ⟨fence, operationId, streamId⟩) }
    | _ => released
  else s

/-- The part of `acceptRunnerDataPlaneFrame` that is common to all frames. -/
def Session.acceptStreamFrame [DecidableEq E] (s : Session E) (kind : EventKind) (key : Bytes)
    (sequence : ℕ) (encoded : E) (message : RunnerToControlPlane) :
    Session E × Except SessionError Event :=
  let accepted := acceptDataPlaneSequence s.inboundDataPlaneStreams key sequence encoded
  let numbered := { s with inboundDataPlaneStreams := accepted.1 }
  match accepted.2 with
  | .error e => (numbered, .error e)
  | .ok true => (numbered, .ok (s.event .duplicate message))
  | .ok false => (numbered.releaseTerminalDataPlaneState message key, .ok (s.event kind message))

/-- What a Workspace transfer frame has to carry. -/
def validateWorkspaceTransfer (frame : WorkspaceTransferFrame) : Except SessionError Unit :=
  if blank frame.operationId ∨ blank frame.sandboxId ∨ blank frame.workspaceId ∨
    frame.generation = 0 ∨ frame.sequence = 0 then
    .error (.runnerMessage "Workspace transfer identity is incomplete")
  else match frame.payload with
  | .opens logicalCapacityBytes fencingToken =>
    if logicalCapacityBytes = 0 ∨ fencingToken = [] then
      .error (.runnerMessage "Workspace transfer open authority is incomplete")
    else .ok ()
  | .chunk _ data =>
    if data = [] ∨ data.length > 64 * 2 ^ 10 then
      .error (.runnerMessage "Workspace transfer chunk exceeds its bound")
    else .ok ()
  | .credit byteCount =>
    if byteCount = 0 ∨ byteCount > 2 ^ 20 then
      .error (.runnerMessage "Workspace transfer credit exceeds its bound")
    else .ok ()
  | .commit sizeBytes sha256 =>
    if sizeBytes = 0 ∨ !sha256.startsWith "sha256:" then
      .error (.runnerMessage "Workspace transfer commit is incomplete")
    else .ok ()
  | .result terminal _ _ _ =>
    if terminal = .unspecified then
      .error (.runnerMessage "Workspace transfer result is incomplete") else .ok ()
  | .cancel safeDetail =>
    if blank safeDetail then
      .error (.runnerMessage "Workspace transfer cancellation is incomplete") else .ok ()
  | .unset => .error (.runnerMessage "Workspace transfer payload is absent")

section
variable [DecidableEq E] (codec : Codec E)

/-- The PTY branch of `acceptRunnerDataPlaneFrame`. -/
def Session.acceptPtyFrame (s : Session E) (frame : PtyFrame) (i : Identity) :
    Session E × Except SessionError Event :=
  let key := dataPlaneStreamKey .pty i
  match frame.payload with
  | .attachResult kind _ afterSequence _ =>
    if kind = .unspecified ∨ afterSequence < -1 then
      (s, .error (.runnerMessage "runner PTY attach result is incomplete"))
    else
      let s' := if kind = .attached then
          { s with inboundDataPlaneStreams :=
              s.inboundDataPlaneStreams.put key ⟨((afterSequence + 1) % 2 ^ 64).toNat, none⟩ }
        else s
      (s', .ok (s.event .pty (.pty frame)))
  | _ =>
    -- Output produced while the Terminal was detached stays in the Runner's
    -- replay ring, so its terminal may follow a gap here.
    let gap := (s.inboundDataPlaneStreams.get key).any fun previous =>
      (RunnerToControlPlane.pty frame).terminal &&
        decide (frame.sequence > wrap64 (previous.sequence + 1))
    let s' :=
      if gap then { s with inboundDataPlaneStreams := s.inboundDataPlaneStreams.delete key } else s
    s'.acceptStreamFrame .pty key frame.sequence (codec.pty frame) (.pty frame)

/-- `acceptRunnerDataPlaneFrame` -/
def Session.acceptRunnerDataPlaneFrame (s : Session E) (message : RunnerToControlPlane) :
    Session E × Except SessionError Event :=
  match message with
  | .exec frame =>
    match s.checkFrame .execStreaming "Exec streaming feature was not negotiated" runnerExecPayload
        "runner Exec payload is not output or a terminal result" frame with
    | .error e => (s, .error e)
    | .ok i => s.acceptStreamFrame .exec (dataPlaneStreamKey .exec i) frame.sequence (codec.exec frame) message
  | .file frame =>
    match s.checkFrame .fileStreaming "File streaming feature was not negotiated" runnerFilePayload
        "runner File payload is not a chunk, metadata, or terminal frame" frame with
    | .error e => (s, .error e)
    | .ok i => s.acceptStreamFrame .file (dataPlaneStreamKey .file i) frame.sequence (codec.file frame) message
  | .pty frame =>
    match s.checkFrame .pty "PTY feature was not negotiated" runnerPtyPayload
        "runner PTY payload is not output, attach result, or terminal" frame with
    | .error e => (s, .error e)
    | .ok i => s.acceptPtyFrame codec frame i
  | .port frame =>
    match s.checkFrame .portProxy "Port proxy feature was not negotiated" runnerPortPayload
        "runner Port payload is not bytes, credit, or terminal" frame with
    | .error e => (s, .error e)
    | .ok i => s.acceptStreamFrame .port (dataPlaneStreamKey .port i) frame.sequence (codec.port frame) message
  | .workspaceTransfer frame =>
    if s.selectedVersion < 2 then
      (s, .error (.runnerMessage "Workspace relocation requires protocol generation 2"))
    else match validateWorkspaceTransfer frame with
    | .error e => (s, .error e)
    | .ok () =>
      s.acceptStreamFrame .workspaceTransfer (workspaceTransferKey frame) frame.sequence
        (codec.workspaceTransfer frame)
        message
  | _ => (s, .error (.runnerMessage ""))

/-! ## Accept -/

/-- A frame of a stream, without an envelope. -/
def RunnerToControlPlane.isStreamFrame : RunnerToControlPlane → Bool
  | .exec _ | .file _ | .pty _ | .port _ | .workspaceTransfer _ => true
  | _ => false

/-- What a heartbeat has to carry. -/
def Session.heartbeatComplete (s : Session E) (h : RunnerHeartbeat) : Bool :=
  h.runnerId == s.config.authenticatedRunnerId && h.connectionId == s.config.connectionId &&
    h.allocatable.isSome &&
    h.reserved.isSome && h.startupTiming.isSome && h.drainPhase != .unspecified

/-- `Accept` for a message with the envelope `e` that is not in the window. -/
def Session.acceptEnveloped (s : Session E) (message : RunnerToControlPlane) (e : Envelope) :
    Session E × Except SessionError Event :=
  let replayOutsideWindow := s.replayOutsideMessageIdWindow e.sequence
  if e.sequence ≤ s.lastSequence ∧ replayOutsideWindow = false then (s, .error .sequenceReordered)
  else if !s.registered then
    match message with
    | .registration registration =>
      match s.validateRegistration registration with
      | .error err => (s, .error err)
      | .ok () =>
        ({ s.record e.messageId e.sequence with registered := true },
          .ok { s.event .registration message with registration := some registration })
    | _ => (s, .error .registrationRequired)
  else match message with
  | .registration registration =>
    if replayOutsideWindow then
      (s, .ok { s.event .registration message with registration := some registration })
    else (s, .error (.runnerMessage "Registration may appear only once per connection"))
  | .heartbeat heartbeat =>
    if s.heartbeatComplete heartbeat then
      (s.record e.messageId e.sequence, .ok { s.event .heartbeat message with heartbeat := some heartbeat })
    else (s, .error (.runnerMessage "Heartbeat identity, capacity, or drain evidence is incomplete"))
  | _ =>
    match classifyRunnerMessage message with
    | none => (s, .error (.runnerMessage ""))
    | some kind => (s.record e.messageId e.sequence, .ok (s.event kind message))

/-- `Accept` -/
def Session.accept (s : Session E) (message : Option RunnerToControlPlane) :
    Session E × Except SessionError Event :=
  match message with
  | none => (s, .error (.runnerMessage ""))
  | some message =>
    if !s.helloAccepted then
      match message with
      | .hello hello => s.acceptHello hello
      | _ => (s, .error .helloRequired)
    else if let .hello _ := message then (s, .error (.runnerMessage "Hello may appear only once"))
    else if message.isStreamFrame then
      if !s.registered then
        (s, .error .registrationRequired) else s.acceptRunnerDataPlaneFrame codec message
    else match runnerEnvelope message with
    | .error e => (s, .error e)
    | .ok e =>
      if e.messageId ∈ s.messageIds then (s, .ok (s.event .duplicate message))
      else s.acceptEnveloped message e

/-- The session after a message. -/
def Session.next (s : Session E) (message : Option RunnerToControlPlane) : Session E :=
  (s.accept codec message).1

end

end

/-! ## A sample connection -/

namespace Sample

/-- Frames that stand for their own encoding. -/
inductive Encoded where
  | exec (frame : ExecFrame)
  | file (frame : FileFrame)
  | pty (frame : PtyFrame)
  | port (frame : PortFrame)
  | workspaceTransfer (frame : WorkspaceTransferFrame)
deriving DecidableEq

/-- A codec: frames stand for their encodings. -/
def codec : Codec Encoded where
  exec := .exec
  file := .file
  pty := .pty
  port := .port
  workspaceTransfer := .workspaceTransfer
  exec_injective _ _ := Encoded.exec.inj
  file_injective _ _ := Encoded.file.inj
  pty_injective _ _ := Encoded.pty.inj
  port_injective _ _ := Encoded.port.inj
  workspaceTransfer_injective _ _ := Encoded.workspaceTransfer.inj

/-- A session's configuration. -/
def config : SessionConfig :=
  ⟨"runner", ⟨1, 2⟩, [.execStreaming, .fileStreaming, .pty, .portProxy], 1000, "connection"⟩

/-- A Hello. -/
def hello : RunnerToControlPlane :=
  .hello ⟨"runner", List.replicate 32 7, some ⟨1, 2⟩, []⟩

/-- A registration. -/
def registration : RunnerToControlPlane :=
  .registration
    { envelope := ⟨"registration", 1⟩
      runnerId := "runner"
      connectionId := "connection"
      runnerPoolId := "pool"
      softwareVersion := "1"
      protocolVersion := 2
      capabilities := some ⟨true, true, true, true, true, true, true, some ⟨1, 1⟩⟩
      allocatable := some []
      reserved := some []
      readinessFailures := []
      startupTiming := some []
      dataPlaneAdvertisedAddress := "127.0.0.1:1"
      dataPlaneCertificateSpkiSha256 := String.ofList (List.replicate 64 'a')
      supportedEgressContexts := [] }

/-- A heartbeat. -/
def heartbeat (id : String) (sequence : ℕ) : RunnerToControlPlane :=
  .heartbeat ⟨⟨id, sequence⟩, "runner", "connection", some [], some [], .active, some []⟩

end Sample

end SecondBox.RunnerControl

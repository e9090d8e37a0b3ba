/-
  PortSessions after admission: consumption of the single-use credential, close,
  expiry and the Runner's terminal (postgres_port_sessions.go).
-/
import SecondBox.DataPlane.Sessions

namespace SecondBox.DataPlane

open Relational Relational.Tx

/-- Update a PortSession. -/
def DB.setPort (d : DB) (id : ID) (f : PortSession → PortSession) : DB :=
  { d with ports := d.ports.updateAt id f }

/-- Update a PortSession. -/
def setPort (id : ID) (f : PortSession → PortSession) : Tx Unit := modify (·.setPort id f)

/-- `SET connected_at=now` -/
def PortSession.connect (p : PortSession) (now : Time) : PortSession :=
  { p with connectedAt := some now }

/-- `SET state='closed', closed_at=now` -/
def PortSession.close (p : PortSession) (now : Time) : PortSession :=
  { p with state := .closed, closedAt := some now }

/-- `SET state='running'` -/
def Session.run (s : Session) : Session := { s with state := .running }

/-- `SET terminal_kind=kind, terminal_detail=detail` -/
def Session.record (s : Session) (kind : TerminalKind) (detail : String) : Session :=
  { s with terminalKind := kind, terminalDetail := detail }

/-- `lockPortTunnel`: by owner; an empty `sandboxID` matches any. -/
def lockPortTunnel (tenantRef subjectRef sandboxID id : ID) : Tx Tunnel :=
  scanPortTunnel id fun p _ =>
    p.tenantRef == tenantRef && p.subjectRef == subjectRef &&
      (sandboxID == "" || p.sandboxID == sandboxID)

/-- `lockDirectPortTunnel`: by home Runner. -/
def lockDirectPortTunnel (runnerID id : ID) : Tx Tunnel :=
  scanPortTunnel id fun _ s => s.runnerID == runnerID

/-- `portDataPlaneSession` -/
def Tunnel.dataPlaneSession (t : Tunnel) : Session :=
  { t.session with
    tenantRef := t.sandbox.tenantRef, subjectRef := t.sandbox.subjectRef
    sandboxID := t.port.sandboxID, profileRevisionID := t.port.profileRevisionID
    generation := t.port.generation, leaseID := t.port.leaseID
    kind := .port, operation := "port:" ++ t.port.name, state := .running
    deadlineAt := t.port.expiresAt, streamWindowBytes := t.port.streamWindowBytes
    maximumResponseBytes := 0, createdAt := t.port.createdAt }

/-- `dataPlaneCorrelation` of a Port's session. -/
def Tunnel.correlation (t : Tunnel) : Correlation where
  requestID := t.session.requestID
  operationID := t.id
  sandboxID := t.port.sandboxID
  instanceID := t.session.instanceID
  sandboxGeneration := t.port.generation
  assignmentID := t.session.assignmentID
  leaseID := t.port.leaseID
  runnerID := t.session.runnerID

/-- `validateLivePortAuthority` -/
def validateLivePortAuthority (t : Tunnel) (now : Time) : Tx Unit := do
  let d ← get
  let sandbox ← expect (d.sandbox? t.sandbox.tenantRef t.sandbox.subjectRef t.port.sandboxID)
    .leaseInactive
  let a ← expect (d.auth.assignments.get t.session.assignmentID) .leaseInactive
  let l ← expect ((d.auth.leases.get t.port.leaseID).filter fun l =>
    l.tenantRef == t.sandbox.tenantRef && l.subjectRef == t.sandbox.subjectRef &&
      l.sandboxID == t.port.sandboxID) .leaseInactive
  require (sandbox.generation == t.port.generation && l.generation == t.port.generation &&
    sandbox.state == .ready && a.state == .ready && a.fencingToken == t.session.fencingToken &&
    l.state == .active && now < l.expiresAt && now < t.port.expiresAt &&
      d.runnerConnected a.runnerID)
    .leaseInactive

/-! ## Consumption -/

/-- `ConsumePortSession` -/
def consumePortSession (tenantRef subjectRef id : ID) (now : Time) : Tx Unit := do
  let _ ← quotaLedgers tenantRef subjectRef
  let t ← lockPortTunnel tenantRef subjectRef "" id
  require (t.port.transport == .proxied) .portTokenInvalid
  require t.port.connectedAt.isNone .portTokenConsumed
  require (t.port.state == .opened && now < t.port.expiresAt) .portTokenInvalid
  validateLivePortAuthority t now
  setPort id (·.connect now)
  startPending id

/-- `ConsumeDirectPortSession`: unlike the proxied consumption it writes
    `running` whatever state the session is in. -/
def consumeDirectPortSession (i : DirectConsumption) : Tx Unit := do
  require (i.runnerID != "" && i.sessionID != "" && i.assignmentID != "" && 1 ≤ i.generation &&
    !i.fencingToken.isEmpty && i.credentialDigest.length == digestSize)
    (.invalid "SecondBox direct PortSession consumption authority is incomplete")
  lockDataPlaneSessionQuota i.sessionID .database
  let t ← lockDirectPortTunnel i.runnerID i.sessionID
  require (t.port.transport == .direct && t.session.assignmentID == i.assignmentID &&
    t.port.generation == i.generation && t.session.fencingToken == i.fencingToken) .portTokenInvalid
  require (t.port.credentialDigest == i.credentialDigest) .portTokenInvalid
  require t.port.connectedAt.isNone .portTokenConsumed
  require (t.port.state == .opened && i.now < t.port.expiresAt) .portTokenInvalid
  validateLivePortAuthority t i.now
  setPort i.sessionID (·.connect i.now)
  setSession i.sessionID (·.run)

/-! ## Close -/

/-- `PortTunnelClose` -/
structure PortClose where
  tenantRef : ID
  subjectRef : ID
  sandboxID : ID
  sessionID : ID
  idempotencyKey : String := ""
  requestHash : String := ""
  reason : String
  now : Time

/-- The key of its idempotency record. -/
def PortClose.record (i : PortClose) : IdempotencyKey :=
  ⟨i.tenantRef, i.subjectRef, "port_session.close", i.sessionID, i.idempotencyKey⟩

/-- The close of an open PortSession.  A proxied session that was never
    consumed has no Runner state to cancel and completes at once. -/
def closeOpenPort (c : Config) (i : PortClose) (t : Tunnel) : Tx Unit := do
  let d ← get
  let s ← expect (d.sessions.get i.sessionID) .database
  if t.port.transport == .proxied && s.state == .pending then
    setSession i.sessionID (·.record (.port .cancelled) i.reason)
    completeCancelledSession c i.sessionID i.now
  else enqueueCancellation i.sessionID t.dataPlaneSession (.port .cancelled) i.reason i.now
  setPort i.sessionID (·.close i.now)

/-- Keep the close as the answer to its key. -/
def DB.recordClose (d : DB) (c : Config) (i : PortClose) : DB :=
  { d with
    idempotency :=
      (d.idempotency.deleteWhere fun k r => k == i.record && r.expiresAt ≤ i.now).insertNew i.record
      ⟨i.requestHash, i.sessionID, none, i.now + c.retention⟩ }

/-- `ClosePortSession` -/
def closePortSession (c : Config) (i : PortClose) : Tx Unit := do
  require (i.tenantRef != "" && i.subjectRef != "" && i.sandboxID != "" && i.sessionID != "" &&
    i.reason != "")
    (.invalid "SecondBox PortSession close authority is incomplete")
  lockDataPlaneSessionQuota i.sessionID .portSessionNotFound
  let d ← get
  let recorded := (d.idempotency.get i.record).filter (i.now < ·.expiresAt)
  require (i.idempotencyKey == "" || recorded.all (·.requestHash == i.requestHash))
    .idempotencyConflict
  let t ← lockPortTunnel i.tenantRef i.subjectRef i.sandboxID i.sessionID
  if t.port.state == .opened then closeOpenPort c i t
  if i.idempotencyKey != "" then modify (·.recordClose c i)

/-- The row of an expired PortSession's session. -/
def Session.expirePort (s : Session) (now : Time) : Session :=
  { s.record (.port .cancelled) "port session expired" with
    state := .completed, completedAt := s.completedAt.or (some now) }

/-- The row of an expired PortSession. -/
def PortSession.expire (p : PortSession) (now : Time) : PortSession :=
  { p with state := .expired, closedAt := p.closedAt.or (some now) }

/-- `terminatePortSession` as `GetPortTunnel` calls it for an expired open PortSession. -/
def terminatePortSession (t : Tunnel) (now : Time) : Tx Unit := do
  enqueueCancellation t.id t.dataPlaneSession (.port .cancelled) "port session expired" now
  setSession t.id (·.expirePort now)
  setPort t.id (·.expire now)

/-- `GetPortTunnel` -/
def getPortTunnel (tenantRef subjectRef sandboxID id : ID) (now : Time) : Tx Unit := do
  let t ← scanPortTunnel id fun p _ =>
    p.tenantRef == tenantRef && p.subjectRef == subjectRef && p.sandboxID == sandboxID
  if t.port.state == .opened && t.port.expiresAt ≤ now then
    let _ ← quotaLedgers t.sandbox.tenantRef t.sandbox.subjectRef
    let t ← lockPortTunnel t.sandbox.tenantRef t.sandbox.subjectRef "" id
    if t.port.state == .opened then terminatePortSession t now

/-! ## The Runner's terminal -/

/-- A Port terminal frame with the connection that delivered it. -/
structure PortTerminalFrame where
  runnerID : ID
  connectionID : ID
  fence : Fence
  operationID : ID
  streamID : ID
  sequence : Int
  correlation : Correlation
  terminal : PortTerminal

/-- Terminals of its Ports count. -/
def AssignmentState.acceptsTerminal : AssignmentState → Bool
  | ready | fencing => true
  | _ => false

/-- Terminals of its Ports count. -/
def SandboxState.acceptsTerminal : SandboxState → Bool
  | ready | draining | stopping => true
  | _ => false

/-- The fence checks of `RecordPortSessionTerminal`. -/
def DB.acceptsPortTerminal (d : DB) (f : PortTerminalFrame) (t : Tunnel) : Bool :=
  match d.auth.assignments.get t.session.assignmentID,
      (d.auth.connections.get f.connectionID).filter (·.runnerID == f.runnerID) with
  | some a, some connection =>
    match d.auth.sandboxes.get a.sandboxID with
    | some sandbox =>
      f.streamID == t.session.streamID && a.state.acceptsTerminal &&
        sandbox.state.acceptsTerminal &&
        connection.active && sandbox.generation == t.port.generation &&
        f.fence == t.dataPlaneSession.fence && a.fencingToken == t.session.fencingToken &&
        f.correlation == t.correlation
    | none => false
  | _, _ => false

/-- The row of a session whose Port terminal arrived. -/
def PortTerminalFrame.row (f : PortTerminalFrame) (c : Config) (now : Time) (s : Session) :
    Session :=
  { s.record (.port f.terminal.kind) f.terminal.safeDetail with
    state := if f.terminal.kind = .fenced then .failed else .completed
    nextInboundSequence := f.sequence + 1
    completedAt := s.completedAt.or (some now), retainUntil := now + c.retention }

/-- The PortSession after its terminal. -/
def PortTerminalFrame.portRow (f : PortTerminalFrame) (now : Time) (p : PortSession) :
    PortSession :=
  { p with
    state := if p.state.unfinished then
      (if f.terminal.kind = .fenced then .fenced else .closed) else p.state
    closedAt := p.closedAt.or (some now) }

/-- `RecordPortSessionTerminal`: whether a proxied route takes the terminal. -/
def recordPortSessionTerminal (c : Config) (f : PortTerminalFrame) (now : Time) : Tx Bool := do
  require (f.operationID != "" && f.streamID != "" && f.sequence != 0)
    (.invalid "SecondBox inbound Port frame is incomplete")
  lockDataPlaneSessionQuota f.operationID .database
  let t ← lockDirectPortTunnel f.runnerID f.operationID
  let d ← get
  require (d.acceptsPortTerminal f t) .dataPlaneFence
  let s ← expect (d.sessions.get f.operationID) .dataPlaneFence
  if f.sequence < s.nextInboundSequence || !s.state.active then return false
  else
    setSession f.operationID (f.row c now)
    setPort f.operationID (f.portRow now)
    return t.port.transport == .proxied

end SecondBox.DataPlane

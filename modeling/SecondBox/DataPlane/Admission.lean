/-
  Admission of Exec, File and Terminal sessions (`AdmitDataPlane`,
  `lockDataPlaneAuthority`), of Port sessions (`AdmitPortSession`,
  `enforcePortSessionCapacity`) and of image preparations (`PrepareImage`), with
  the usage each of them counts.
-/
import SecondBox.DataPlane.Types

namespace SecondBox.DataPlane

open Relational Relational.Tx

/-- `PostgresDataPlaneStoreConfig` -/
structure Config where
  retention : Time
  maximumSessionBytes : Int

/-! ## Usage -/

/-- Active sessions of a Tenant. -/
def DB.tenantSessions (d : DB) (tenantRef : ID) : ℕ :=
  d.sessions.count fun _ s => s.tenantRef == tenantRef && s.state.active

/-- Active sessions of a Subject. -/
def DB.subjectSessions (d : DB) (tenantRef subjectRef : ID) : ℕ :=
  d.sessions.count fun _ s => s.tenantRef == tenantRef && s.subjectRef == subjectRef &&
    s.state.active

/-- Active sessions of a Sandbox. -/
def DB.sandboxSessions (d : DB) (sandboxID : ID) : ℕ :=
  d.sessions.count fun _ s => s.sandboxID == sandboxID && s.state.active

/-- A Tenant's image preparations. -/
def DB.tenantPreparations (d : DB) (tenantRef : ID) : ℕ :=
  d.operations.count fun _ o => o.tenantRef == tenantRef && o.preparing

/-- A Subject's image preparations. -/
def DB.subjectPreparations (d : DB) (tenantRef subjectRef : ID) : ℕ :=
  d.operations.count fun _ o => o.tenantRef == tenantRef && o.subjectRef == subjectRef &&
    o.preparing

/-- `concurrentOperations` of `readTenantQuotaUsage` -/
def DB.tenantOperations (d : DB) (tenantRef : ID) : ℕ :=
  d.tenantSessions tenantRef + d.tenantPreparations tenantRef

/-- `concurrentOperations` of `readSubjectQuotaUsage` -/
def DB.subjectOperations (d : DB) (tenantRef subjectRef : ID) : ℕ :=
  d.subjectSessions tenantRef subjectRef + d.subjectPreparations tenantRef subjectRef

/-! ## Shared checks -/

/-- `rowlock.TenantAndSubjectQuota`: both ledger rows exist. -/
def quotaLedgers (tenantRef subjectRef : ID) : Tx (QuotaLimits × QuotaLimits) := do
  let d ← get
  let tenant ← expect (d.auth.tenantQuotas.get tenantRef) .database
  let subject ← expect (d.auth.subjectQuotas.get (tenantRef, subjectRef)) .database
  return (tenant, subject)

/-- `expiresAt != nil && !expiresAt.After(now)` -/
def expiredBy (expiresAt : Option Time) (now : Time) : Bool := expiresAt.any (· ≤ now)

/-- `rowlock.ActiveSubject` -/
def activeSubject (tenantRef subjectRef : ID) (now : Time) : Tx Unit := do
  let d ← get
  let s ← expect (d.auth.subjects.get (tenantRef, subjectRef)) .managementNotFound
  require (!(s.state == .expired || expiredBy s.expiresAt now)) .resourceExpired
  require (s.state == .active) .invalidLifecycleTransition

/-- The Tenant checks every admission repeats. -/
def activeTenant (tenantRef : ID) (now : Time) : Tx Unit := do
  let d ← get
  let t ← expect (d.auth.tenants.get tenantRef) .database
  require (t.state != .suspended) .tenantSuspended
  require (!(t.state == .expired || expiredBy t.expiresAt now)) .resourceExpired
  require (t.state == .active) .invalidLifecycleTransition

/-- The Assignment a Sandbox row points to. -/
def DB.currentAssignment (d : DB) (sandboxID : ID) (s : Sandbox) : Option (ID × Assignment) :=
  d.auth.assignments.find? fun _ a =>
    a.instanceID == s.currentInstanceID && a.sandboxID == sandboxID && a.generation == s.generation

/-- The Subject's Sandbox of that id. -/
def DB.sandbox? (d : DB) (tenantRef subjectRef sandboxID : ID) : Option Sandbox :=
  (d.auth.sandboxes.get sandboxID).filter fun s => s.tenantRef == tenantRef &&
    s.subjectRef == subjectRef

/-- The Runner has an active connection. -/
def DB.runnerConnected (d : DB) (runnerID : ID) : Bool :=
  d.auth.connections.any fun _ c => c.runnerID == runnerID && c.active

/-- The Runner's direct endpoint. -/
def DB.endpoint (d : DB) (runnerID : ID) : Option Endpoint :=
  (d.auth.runners.get runnerID).bind (·.endpoint)

/-- The Lease `id` of a Sandbox, active for `generation` at `now`. -/
def leaseActive (tenantRef subjectRef sandboxID leaseID : ID) (generation : Int) (now : Time) :
    Tx Unit := do
  let d ← get
  let lease ← expect ((d.auth.leases.get leaseID).filter fun l =>
    l.tenantRef == tenantRef && l.subjectRef == subjectRef && l.sandboxID == sandboxID)
      .leaseNotFound
  require (lease.generation == generation && lease.subjectRef == subjectRef &&
    lease.state == .active && now < lease.expiresAt) .leaseInactive

/-- `profileGrants` is none for a caller without an application authority. -/
def granted (profileGrants : Option (List String)) (profileName : String) : Bool :=
  profileGrants.all (·.contains profileName)

/-- `authorizeReplayProfile` -/
def authorizeReplayProfile (grants : Option (List String))
    (tenantRef subjectRef sandboxID revisionID : ID) :
    Tx Unit := do
  if grants.isSome then
    let d ← get
    let revision ← expect (d.auth.revisions.get revisionID) .database
    let sandbox ← expect (d.sandbox? tenantRef subjectRef sandboxID) .database
    require (granted grants revision.profileName && granted grants sandbox.profileName)
      .authorizationDenied

/-- `dataPlaneTransport`: a buffered or attributed exec is always proxied. -/
def dataPlaneTransport (profileTransport : Option Transport) (kind : SessionKind)
    (operation : String) (attributed : Bool) : Option Transport :=
  if kind == .exec && (operation == "exec" || attributed) then some .proxied else profileTransport

/-- `hydrateDataPlaneTransport` -/
def hydrateDataPlaneTransport (s : Session) : Tx (Option Transport) := do
  let d ← get
  let revision ← expect (d.auth.revisions.get s.profileRevisionID) .database
  let transport := dataPlaneTransport revision.execution.dataPlaneTransport s.kind s.operation
    s.attributedExecution.isSome
  require (transport != some .direct || (d.endpoint s.runnerID).isSome) .lifecycleUnavailable
  return transport

/-! ## Exec, File and Terminal sessions -/

/-- What admission checks of an Exec. -/
structure ExecOpen where
  allocatePty : Bool := false
  streaming : Bool := false
  ptyRows : Nat := 0
  ptyColumns : Nat := 0

/-- What admission checks of a File operation. -/
structure FileOpen where
  /-- the operation is a read -/
  isRead : Bool

/-- `DataPlaneAdmission` -/
structure Admission where
  id : ID
  streamID : ID
  tenantRef : ID
  subjectRef : ID
  sandboxID : ID
  leaseID : ID := ""
  generation : Int
  kind : SessionKind
  operation : String
  requestID : ID
  idempotencyKey : String := ""
  requestHash : String
  deadlineAt : Time
  maximumResponseBytes : Int := 0
  maximumRequestBytes : Int := 0
  streamWindowBytes : Int := 0
  execOpen : Option ExecOpen := none
  fileOpen : Option FileOpen := none
  attributedExecution : Option (ID × Time) := none
  deferResponseCredit : Bool := false
  useProfileRequestLimit : Bool := false
  useProfileResponseLimit : Bool := false
  useProfileStreamWindow : Bool := false
  detachable : Bool := false
  credentialDigest : Bytes := []
  now : Time
  profileGrants : Option (List String) := none

/-- `sha256.Size` -/
def digestSize : Nat := 32

/-- `validateDataPlaneAdmission` -/
def validateDataPlaneAdmission (i : Admission) : Except Err Unit :=
  if i.id == "" || i.streamID == "" || i.tenantRef == "" || i.sandboxID == "" ||
      i.subjectRef == "" ||
      i.requestID == "" || i.generation < 1 || i.deadlineAt == 0 || i.maximumResponseBytes < 0 ||
      i.maximumRequestBytes < 0 || i.requestHash == "" then
    .error (.invalid "SecondBox data-plane admission identity and bounds are required")
  else
    match i.kind with
    | .exec =>
      if i.execOpen.isNone || i.fileOpen.isSome then
        .error (.invalid "SecondBox Exec admission requires exactly one Exec Open")
      else if i.deferResponseCredit && i.streamWindowBytes < 1 then
        .error (.invalid "SecondBox streaming Exec admission requires an output window")
      else .ok ()
    | .terminal =>
      if i.execOpen.all (fun o => !o.allocatePty || !o.streaming || o.ptyRows == 0 ||
          o.ptyColumns == 0) || i.fileOpen.isSome || !i.deferResponseCredit ||
          (i.streamWindowBytes < 1 && !i.useProfileStreamWindow) || i.leaseID == "" then
        .error (.invalid "SecondBox Terminal admission requires one leased streaming PTY Open")
      else .ok ()
    | .file =>
      if i.fileOpen.isNone || i.execOpen.isSome then
        .error (.invalid "SecondBox File admission requires exactly one File Open")
      else .ok ()
    | .port => .error (.invalid "SecondBox data-plane admission kind is invalid")

/-- `dataPlaneCapacity`: the usage an admission observes. -/
structure Capacity where
  sandboxActive : Int
  sandboxMaximum : Int
  subjectActive : Int
  tenantActive : Int
  subjectMaximum : PolicyLimit
  tenantMaximum : PolicyLimit

/-- One more session is too many. -/
def Capacity.exhausted (c : Capacity) : Bool :=
  c.sandboxActive ≥ c.sandboxMaximum || !c.subjectMaximum.allows (c.subjectActive + 1) ||
    !c.tenantMaximum.allows (c.tenantActive + 1)

/-- One session fits once every other session has ended. -/
def Capacity.canFit (c : Capacity) : Bool :=
  c.sandboxMaximum ≥ 1 && c.subjectMaximum.allows 1 && c.tenantMaximum.allows 1

/-- What `lockDataPlaneAuthority` resolves. -/
structure Resolved where
  profileRevisionID : ID
  assignmentID : ID
  assignment : Assignment
  transport : Option Transport
  policy : ExecutionPolicy
  capacity : Capacity

/-- `admitAttributedExecution` -/
def admitAttributedExecution (revision : ProfileRevision) (egressContextPinned runnerReady : Bool)
    (i : Admission) (expiresAt : Time) : Except Err Unit :=
  if i.kind != .exec || i.execOpen.all (·.allocatePty) then
    .error (.invalid "SecondBox attributed execution admits only a non-PTY exec")
  else if !(revision.permitsAttribution && egressContextPinned) then
    .error (.invalidField "attributedExecution"
      "requires a Profile that permits attributed execution and a pinned Tenant egress context")
  else if expiresAt - i.now ≤ 0 || !revision.execution.maximumDeadlineMilliseconds.allows
    (expiresAt - i.now) then
    .error (.invalidField "attributedExecution.expiresAt"
      "must be in the future and within the pinned Profile's execution.maximumDeadlineMilliseconds")
  else if expiresAt < i.deadlineAt then
    .error (.invalidField "deadlineMilliseconds" "must end at or before attributedExecution.expiresAt")
  else if !runnerReady then .error .homeRunnerUnavailable
  else .ok ()

/-- The attribution an admission asks for, if any. -/
def checkAttribution (revision : ProfileRevision) (egressContextPinned runnerReady : Bool)
    (i : Admission) :
    Except Err Unit :=
  match i.attributedExecution with
  | some (_, expiresAt) =>
    admitAttributedExecution revision egressContextPinned runnerReady i expiresAt
  | none => .ok ()

/-- The transport of the admitted session. -/
def Admission.transport (i : Admission) (revision : ProfileRevision) : Option Transport :=
  dataPlaneTransport revision.execution.dataPlaneTransport i.kind i.operation
    i.attributedExecution.isSome

/-- The Lease of an admission that names one. -/
def admissionLease (i : Admission) : Tx Unit :=
  if i.leaseID != "" then leaseActive i.tenantRef i.subjectRef i.sandboxID i.leaseID
    i.generation i.now
  else pure ()

/-- The usage and the limits of the Sandbox, the Subject and the Tenant. -/
def lockCapacity (i : Admission) (revision : ProfileRevision) : Tx Capacity := do
  let d ← get
  let tenantQuota ← expect (d.auth.tenantQuotas.get i.tenantRef) .database
  activeTenant i.tenantRef i.now
  let subjectQuota ← expect (d.auth.subjectQuotas.get (i.tenantRef, i.subjectRef)) .database
  return {
    sandboxActive := d.sandboxSessions i.sandboxID
    sandboxMaximum := revision.concurrentOperations
    subjectActive := d.subjectSessions i.tenantRef i.subjectRef
    tenantActive := d.tenantSessions i.tenantRef
    subjectMaximum := subjectQuota.maxConcurrentOperations
    tenantMaximum := tenantQuota.maxConcurrentOperations }

/-- `lockDataPlaneAuthority` -/
def lockDataPlaneAuthority (i : Admission) : Tx Resolved := do
  let d ← get
  let sandbox ← expect (d.sandbox? i.tenantRef i.subjectRef i.sandboxID) .sandboxNotFound
  match d.currentAssignment i.sandboxID sandbox, d.auth.revisions.get sandbox.profileRevisionID with
  | some (assignmentID, assignment), some revision =>
    require (granted i.profileGrants sandbox.profileName) .authorizationDenied
    require (sandbox.generation == i.generation) .generationFenced
    require (sandbox.state == .ready && assignment.state == .ready &&
      d.runnerConnected assignment.runnerID)
      .lifecycleUnavailable
    admissionLease i
    liftM (checkAttribution revision sandbox.egressContextPinned
      ((d.auth.runners.get assignment.runnerID).any (·.perExecAttribution)) i)
    require (i.transport revision != some .direct || (d.endpoint assignment.runnerID).isSome)
      .lifecycleUnavailable
    let capacity ← lockCapacity i revision
    return {
      profileRevisionID := sandbox.profileRevisionID, assignmentID, assignment
      transport := i.transport revision, policy := revision.execution, capacity }
  | _, _ =>
    require (sandbox.generation == i.generation) .generationFenced
    throw .lifecycleUnavailable

/-- `lookupDataPlaneReplay` -/
def DB.replay? (d : DB) (i : Admission) : Option (ID × Session) :=
  if i.idempotencyKey == "" then none
  else d.sessions.find? fun _ s =>
    s.tenantRef == i.tenantRef && s.subjectRef == i.subjectRef && s.sandboxID == i.sandboxID &&
      s.operation == i.operation && s.idempotencyKey == i.idempotencyKey

/-- The response limit of an admission; a read without one is bounded by the Profile and the store. -/
def Admission.responseLimit (c : Config) (i : Admission) (p : ExecutionPolicy) : Int :=
  let limit :=
    if i.useProfileResponseLimit then p.maximumBufferedOutputBytes else i.maximumResponseBytes
  if i.kind == .file && i.fileOpen.any (·.isRead) && limit == 0 then
    min p.maximumTransferBytes c.maximumSessionBytes
  else limit

/-- The byte bounds an admission runs under, after the Profile's defaults. -/
def Admission.withProfile (c : Config) (i : Admission) (p : ExecutionPolicy) : Admission :=
  { i with
    maximumRequestBytes :=
      if i.useProfileRequestLimit then p.maximumTransferBytes else i.maximumRequestBytes
    maximumResponseBytes := i.responseLimit c p
    streamWindowBytes :=
      if i.useProfileStreamWindow then p.streamWindowBytes else i.streamWindowBytes }

/-- The checks of `AdmitDataPlane` between the authority and the insert. -/
def checkAdmission (c : Config) (i : Admission) (r : Resolved) : Except Err Unit :=
  if i.kind == .terminal && i.detachable && r.policy.terminalDetachSeconds == 0 then
    .error (.invalidField "detachable" "requires a pinned Profile with positive execution.terminalDetachSeconds")
  else if r.transport.isNone then
    .error (.invalid "SecondBox pinned Profile data-plane transport is invalid")
  else if r.transport == some .direct && i.credentialDigest.length != digestSize then
    .error (.invalid "SecondBox direct data-plane credential digest is invalid")
  else if !r.policy.maximumDeadlineMilliseconds.allows (i.deadlineAt - i.now) then
    -- a File operation's deadline is a server constant, not a request field
    .error (if i.kind == .file then .invalid "SecondBox data-plane deadline exceeds the pinned Profile"
      else .invalidField "deadlineMilliseconds"
        "must not exceed the pinned Profile's execution.maximumDeadlineMilliseconds")
  else if i.deferResponseCredit && r.policy.streamWindowBytes < i.streamWindowBytes then
    .error .dataPlaneStreamWindow
  else if (if i.kind == .file then r.policy.maximumTransferBytes else r.policy.maximumBufferedOutputBytes) <
      i.maximumResponseBytes then
    .error .dataPlaneOutputLimit
  else if r.policy.maximumTransferBytes < i.maximumRequestBytes then .error .dataPlaneSessionLimit
  else if c.maximumSessionBytes < i.maximumResponseBytes then .error .dataPlaneSessionLimit
  else if r.capacity.exhausted then
    .error (if r.capacity.canFit then .computeQuotaExceeded else .quotaExceeded)
  else .ok ()

/-- The row `AdmitDataPlane` inserts. -/
def Admission.session (c : Config) (i : Admission) (r : Resolved) : Session where
  tenantRef := i.tenantRef
  subjectRef := i.subjectRef
  sandboxID := i.sandboxID
  profileRevisionID := r.profileRevisionID
  assignmentID := r.assignmentID
  instanceID := r.assignment.instanceID
  runnerID := r.assignment.runnerID
  generation := i.generation
  fencingToken := r.assignment.fencingToken
  requestID := i.requestID
  leaseID := i.leaseID
  kind := i.kind
  operation := i.operation
  streamID := i.streamID
  idempotencyKey := i.idempotencyKey
  requestHash := i.requestHash
  deadlineAt := i.deadlineAt
  maximumResponseBytes := i.maximumResponseBytes
  maximumRequestBytes := i.maximumRequestBytes
  streamWindowBytes := i.streamWindowBytes
  detachable := i.kind == .terminal && i.detachable
  terminalDetachSeconds := if i.kind == .terminal then r.policy.terminalDetachSeconds else 0
  nextOutboundSequence := if i.kind == .terminal then 2 else 1
  attributedExecution := i.attributedExecution
  createdAt := i.now
  retainUntil := i.now + c.retention

/-- `INSERT` into `data_plane_sessions`, failing on a used key. -/
def insertSession (id : ID) (s : Session) : Tx Unit := do
  let d ← get
  require (d.sessions.get id).isNone .database
  modify fun d => { d with sessions := d.sessions.insertNew id s }

/-- The command that announces a direct session to its Runner. -/
def Session.directOpen (s : Session) (id : ID) (credentialDigest : Bytes) : Command where
  runnerID := s.runnerID
  assignmentID := s.assignmentID
  payload :=
    .directOpen s.fence id s.streamID s.kind s.deadlineAt credentialDigest s.streamWindowBytes

/-- `INSERT` of the direct Open command, failing on a used key. -/
def insertDirectOpen (id : ID) (s : Session) (credentialDigest : Bytes) : Tx Unit := do
  let d ← get
  require (d.commands.get (.directOpen id)).isNone .database
  modify fun d =>
    { d with commands := d.commands.insertNew (.directOpen id) (s.directOpen id credentialDigest) }

/-- `AdmitDataPlane`: the admitted session and whether it is a replay. -/
def admitDataPlane (c : Config) (i : Admission) : Tx (Session × Bool) := do
  liftM (validateDataPlaneAdmission i)
  let _ ← quotaLedgers i.tenantRef i.subjectRef
  let d ← get
  match d.replay? i with
  | some (_, s) =>
    require (s.requestHash == i.requestHash) .idempotencyConflict
    let _ ← hydrateDataPlaneTransport s
    authorizeReplayProfile i.profileGrants i.tenantRef i.subjectRef i.sandboxID s.profileRevisionID
    return (s, true)
  | none =>
    activeSubject i.tenantRef i.subjectRef i.now
    let r ← lockDataPlaneAuthority i
    let i := i.withProfile c r.policy
    liftM (checkAdmission c i r)
    let s := i.session c r
    insertSession i.id s
    if r.transport == some .direct then insertDirectOpen i.id s i.credentialDigest
    return (s, false)

/-! ## Port sessions -/

/-- `PortSessionAdmission` -/
structure PortAdmission where
  id : ID
  sandboxID : ID
  generation : Int
  name : String
  transport : Option Transport
  expiresAt : Time
  streamID : ID
  tenantRef : ID
  subjectRef : ID
  requestID : ID
  leaseID : ID
  idempotencyKey : String
  requestHash : String
  credentialDigest : Bytes
  now : Time
  profileGrants : Option (List String) := none

/-- The checks of a request, and its transport. -/
def validatePortAdmission (i : PortAdmission) : Except Err Transport :=
  if i.id == "" || i.streamID == "" || i.tenantRef == "" || i.sandboxID == "" || i.subjectRef ==
      "" || i.requestID == "" || i.leaseID == "" || i.idempotencyKey == "" || i.requestHash == "" ||
      i.generation < 1 || i.name == "" || i.expiresAt == 0 || i.expiresAt ≤ i.now ||
      i.credentialDigest.length != digestSize then
    .error (.invalid "SecondBox PortSession admission is incomplete")
  else
    match i.transport with
    | none => .error (.invalid "SecondBox PortSession transport is invalid")
    | some t => .ok t

/-- `lockPortAdmissionAuthority`: the pinned revision, the Assignment and the named port's policy. -/
def lockPortAdmissionAuthority (i : PortAdmission) (transport : Transport) :
    Tx (Sandbox × ID × Assignment × ProfileRevision × PortPolicy) := do
  let d ← get
  let sandbox ← expect (d.sandbox? i.tenantRef i.subjectRef i.sandboxID) .sandboxNotFound
  let (assignmentID, assignment) ← expect (d.currentAssignment i.sandboxID sandbox) .sandboxNotFound
  let revision ← expect (d.auth.revisions.get sandbox.profileRevisionID) .sandboxNotFound
  require (granted i.profileGrants sandbox.profileName) .authorizationDenied
  require (transport != .direct || (d.endpoint assignment.runnerID).isSome) .lifecycleUnavailable
  require (sandbox.generation == i.generation) .generationFenced
  require (sandbox.state == .ready && assignment.state == .ready) .lifecycleUnavailable
  leaseActive i.tenantRef i.subjectRef i.sandboxID i.leaseID i.generation i.now
  let policy ← expect (revision.ports.find? fun p =>
    p.name == i.name && (p.protocol == "tcp" || p.protocol == "http")) .portPolicyDenied
  return (sandbox, assignmentID, assignment, revision, policy)

/-- The open PortSessions a quota counts: `state IN ('open','closing') AND expires_at>now`. -/
def DB.openPorts (d : DB) (now : Time) (p : PortSession → Bool) : ℕ :=
  d.ports.count fun _ r => p r && r.state.unfinished && now < r.expiresAt

/-- `enforcePortSessionCapacity`: only the limits on PortSessions. -/
def enforcePortSessionCapacity (i : PortAdmission) (policy : PortPolicy) : Tx Unit := do
  let d ← get
  let tenantQuota ← expect (d.auth.tenantQuotas.get i.tenantRef) .database
  activeTenant i.tenantRef i.now
  let subjectQuota ← expect (d.auth.subjectQuotas.get (i.tenantRef, i.subjectRef)) .database
  let tenantActive := d.openPorts i.now fun r => r.tenantRef == i.tenantRef
  let subjectActive :=
    d.openPorts i.now fun r => r.tenantRef == i.tenantRef && r.subjectRef == i.subjectRef
  let namedActive := d.openPorts i.now fun r => r.sandboxID == i.sandboxID && r.name == i.name
  require (tenantQuota.maxPortSessions.allows (tenantActive + 1) &&
    subjectQuota.maxPortSessions.allows (subjectActive + 1) &&
    policy.maximumSessions.allows (namedActive + 1)) .quotaExceeded

/-- The data-plane row `AdmitPortSession` inserts. -/
def PortAdmission.session (c : Config) (i : PortAdmission) (revisionID assignmentID : ID)
    (a : Assignment) (revision : ProfileRevision) : Session where
  tenantRef := i.tenantRef
  subjectRef := i.subjectRef
  sandboxID := i.sandboxID
  profileRevisionID := revisionID
  assignmentID := assignmentID
  instanceID := a.instanceID
  runnerID := a.runnerID
  generation := i.generation
  fencingToken := a.fencingToken
  requestID := i.requestID
  leaseID := i.leaseID
  kind := .port
  operation := "port:" ++ i.name
  streamID := i.streamID
  idempotencyKey := i.idempotencyKey
  requestHash := i.requestHash
  deadlineAt := i.expiresAt
  maximumResponseBytes := 0
  maximumRequestBytes := 0
  streamWindowBytes := revision.execution.streamWindowBytes
  createdAt := i.now
  retainUntil := i.now + c.retention

/-- The `port_sessions` row `AdmitPortSession` inserts. -/
def PortAdmission.port (i : PortAdmission) (transport : Transport) (revisionID : ID)
    (revision : ProfileRevision) (policy : PortPolicy) : PortSession where
  tenantRef := i.tenantRef
  subjectRef := i.subjectRef
  sandboxID := i.sandboxID
  profileRevisionID := revisionID
  dataPlaneSessionID := i.id
  leaseID := i.leaseID
  generation := i.generation
  name := i.name
  guestPort := policy.port
  protocol := policy.protocol
  transport := transport
  credentialDigest := i.credentialDigest
  streamWindowBytes := revision.execution.streamWindowBytes
  idempotencyKey := i.idempotencyKey
  requestHash := i.requestHash
  expiresAt := i.expiresAt
  createdAt := i.now

/-- `PortTunnel`: a PortSession joined with its data-plane session and its Sandbox. -/
structure Tunnel where
  id : ID
  port : PortSession
  session : Session
  sandbox : Sandbox

/-- `scanPortTunnel`: the PortSession `id` that satisfies `p`. -/
def scanPortTunnel (id : ID) (p : PortSession → Session → Bool) : Tx Tunnel := do
  let d ← get
  let port ← expect (d.ports.get id) .portSessionNotFound
  let session ← expect (d.sessions.get port.dataPlaneSessionID) .portSessionNotFound
  let sandbox ← expect (d.auth.sandboxes.get port.sandboxID) .portSessionNotFound
  require (p port session) .portSessionNotFound
  require (port.transport != .direct || (d.endpoint session.runnerID).isSome) .lifecycleUnavailable
  return { id, port, session, sandbox }

/-- The PortSession of an earlier request with this key. -/
def DB.portReplay? (d : DB) (i : PortAdmission) : Option (ID × PortSession) :=
  d.ports.find? fun _ p =>
    p.tenantRef == i.tenantRef && p.subjectRef == i.subjectRef && p.sandboxID == i.sandboxID &&
      p.idempotencyKey == i.idempotencyKey

/-- `INSERT` into `port_sessions`, failing on a used key. -/
def insertPort (id : ID) (p : PortSession) : Tx Unit := do
  let d ← get
  require (d.ports.get id).isNone .database
  modify fun d => { d with ports := d.ports.insertNew id p }

/-- `AdmitPortSession`: the id of the admitted PortSession and whether it is a replay. -/
def admitPortSession (c : Config) (i : PortAdmission) : Tx (ID × Bool) := do
  let transport ← liftM (validatePortAdmission i)
  let _ ← quotaLedgers i.tenantRef i.subjectRef
  let d ← get
  match d.portReplay? i with
  | some (id, p) =>
    require (p.requestHash == i.requestHash) .idempotencyConflict
    let tunnel ← scanPortTunnel id fun p _ => p.tenantRef == i.tenantRef &&
      p.subjectRef == i.subjectRef
    authorizeReplayProfile i.profileGrants i.tenantRef i.subjectRef i.sandboxID
      tunnel.port.profileRevisionID
    return (id, true)
  | none =>
    activeSubject i.tenantRef i.subjectRef i.now
    let (sandbox, assignmentID, assignment, revision, policy) ← lockPortAdmissionAuthority i
      transport
    require (i.expiresAt ≤ i.now + policy.maximumSessionSeconds * 1000) .portPolicyDenied
    enforcePortSessionCapacity i policy
    require (1 ≤ revision.execution.streamWindowBytes) .portPolicyDenied
    let s := i.session c sandbox.profileRevisionID assignmentID assignment revision
    insertSession i.id s
    if transport == .direct then insertDirectOpen i.id s i.credentialDigest
    insertPort i.id (i.port transport sandbox.profileRevisionID revision policy)
    return (i.id, false)

/-! ## Image preparations -/

/-- `ImagePreparationInput`; `targets` are the Runners its placement query returns. -/
structure ImagePreparation where
  tenantRef : ID
  subjectRef : ID
  operationID : ID
  key : String
  requestHash : String
  targets : List ID
  now : Time
  ends : Time

/-- `imagepreparation.MaximumTargets` -/
def maximumTargets : Nat := 16

/-- The key of its idempotency record. -/
def ImagePreparation.record (i : ImagePreparation) : IdempotencyKey :=
  ⟨i.tenantRef, i.subjectRef, "image.prepare", "", i.key⟩

/-- The writes of `PrepareImage`: its Operation and the answer to its key. -/
def DB.insertPreparation (d : DB) (i : ImagePreparation) : DB :=
  { d with
    operations :=
      d.operations.insertNew i.operationID ⟨i.tenantRef, i.subjectRef, .prepareImage, .pending⟩
    idempotency := (d.idempotency.deleteWhere fun k _ => k == i.record).insertNew i.record
      ⟨i.requestHash, i.operationID, none, i.ends⟩ }

/-- `PrepareImage`: whether the answer is a replay. -/
def prepareImage (i : ImagePreparation) : Tx Bool := do
  let d ← get
  let recorded := d.idempotency.get i.record
  match recorded.filter (i.now < ·.expiresAt) with
  | some r =>
    require (r.requestHash == i.requestHash) .idempotencyConflict
    return true
  | none =>
    let (tenantQuota, subjectQuota) ← quotaLedgers i.tenantRef i.subjectRef
    activeTenant i.tenantRef i.now
    activeSubject i.tenantRef i.subjectRef i.now
    require (tenantQuota.maxConcurrentOperations.allows (d.tenantOperations i.tenantRef + 1) &&
        subjectQuota.maxConcurrentOperations.allows
        (d.subjectOperations i.tenantRef i.subjectRef + 1))
      (if tenantQuota.maxConcurrentOperations.allows 1 && subjectQuota.maxConcurrentOperations.allows 1 then
        .computeQuotaExceeded else .quotaExceeded)
    require (!i.targets.isEmpty) .runnerPoolUnavailable
    require (i.targets.length ≤ maximumTargets)
      (.invalid "image preparation targets exceed the limit")
    require (d.operations.get i.operationID).isNone .database
    modify (·.insertPreparation i)
    return false

/-- `reconcileImagePreparation` moves an operation its effects have decided:
    to `running` once the preparations are queued, then to its outcome. -/
def reconcileImagePreparation (operationID : ID) (decided : OperationState) : Tx Unit := do
  let d ← get
  let o ← expect (d.operations.get operationID) .database
  if o.preparing then
    modify fun d => { d with operations := d.operations.updateAt operationID fun o => { o with state := decided } }

end SecondBox.DataPlane

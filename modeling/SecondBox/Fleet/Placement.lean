/-
  Placement: how Runners report themselves (RecordRegistration,
  RecordHeartbeat, OpenConnection, CloseConnection in internal/runnercontrol)
  and how internal/scheduler reserves their capacity.
-/
import SecondBox.Fleet.Recovery

namespace SecondBox.Fleet

open Relational Relational.Tx

/-! ## Capacity -/

/-- A number as an `int64` holds it; PostgreSQL's sums are exact or fail. -/
def int64 (n : Int) : Int := n.bmod 18446744073709551616

namespace Capacity

/-- `runnerCapacityFromProtocol`: the conversion of the protocol's `uint64` is not checked. -/
def fromProtocol (c : Capacity) : Capacity where
  vcpuCount := int64 c.vcpuCount
  memoryBytes := int64 c.memoryBytes
  diskBytes := int64 c.diskBytes
  instances := int64 c.instances
  operations := int64 c.operations

/-- `addCapacity` -/
def add (c e : Capacity) : Capacity where
  vcpuCount := int64 (c.vcpuCount + e.vcpuCount)
  memoryBytes := int64 (c.memoryBytes + e.memoryBytes)
  diskBytes := int64 (c.diskBytes + e.diskBytes)
  instances := int64 (c.instances + e.instances)
  operations := int64 (c.operations + e.operations)

/-- `maxRunnerCapacity` -/
def max (c e : Capacity) : Capacity where
  vcpuCount := Max.max c.vcpuCount e.vcpuCount
  memoryBytes := Max.max c.memoryBytes e.memoryBytes
  diskBytes := Max.max c.diskBytes e.diskBytes
  instances := Max.max c.instances e.instances
  operations := Max.max c.operations e.operations

end Capacity

/-- `freeCapacity` -/
def Runner.free (r : Runner) : Capacity where
  vcpuCount := int64 (r.allocatable.vcpuCount - r.reserved.vcpuCount)
  memoryBytes := int64 (r.allocatable.memoryBytes - r.reserved.memoryBytes)
  diskBytes := int64 (r.allocatable.diskBytes - r.reserved.diskBytes)
  instances := int64 (r.allocatable.instances - r.reserved.instances)
  operations := int64 (r.allocatable.operations - r.reserved.operations)

/-- What an Assignment of this Sandbox and Profile revision takes. -/
def demandOf (s : Sandbox) (p : ProfileRevision) : Capacity where
  vcpuCount := s.vcpuCount
  memoryBytes := s.memoryBytes
  diskBytes := s.workspaceBytes
  instances := 1
  operations := p.concurrentOperations

/-- The Sandbox and Profile revision of an Assignment, joined. -/
def DB.placement (d : DB) (a : Assignment) : Option (Sandbox × ProfileRevision) := do
  let p ← d.revisions.get a.profileRevisionID
  let s ← d.sandboxes.get a.sandboxID
  some (s, p)

/-- The Assignments `durableRunnerReservation` counts, with what they take. -/
def DB.reservedBy (d : DB) (runnerID : ID) (a : Assignment) : Option Capacity := do
  let (s, p) ← d.placement a
  if a.runnerID == runnerID && (a.state.placed || a.state == .uncertain) &&
      s.currentInstanceID == a.instanceID && s.generation == a.generation then
    some (demandOf s p)
  else none

/-- `durableRunnerReservation` -/
def DB.durableRunnerReservation (d : DB) (runnerID : ID) : Capacity where
  vcpuCount := d.assignments.total fun _ a => (d.reservedBy runnerID a).elim 0 (·.vcpuCount)
  memoryBytes := d.assignments.total fun _ a => (d.reservedBy runnerID a).elim 0 (·.memoryBytes)
  diskBytes := d.assignments.total fun _ a => (d.reservedBy runnerID a).elim 0 (·.diskBytes)
  instances := d.assignments.total fun _ a => (d.reservedBy runnerID a).elim 0 (·.instances)
  operations := d.assignments.total fun _ a => (d.reservedBy runnerID a).elim 0 (·.operations)

/-! ## Runners -/

/-- `refreshReadyRunnerCount` -/
def refreshReadyRunnerCount (poolName : ID) : Tx Unit := do
  require ((← get).pools.get poolName).isSome (.invalid "SecondBox RunnerPool ready count refresh found no pool")
  modify fun d => { d with
    pools := d.pools.updateAt poolName fun p =>
      { p with readyRunnerCount := d.runners.count fun _ r => r.poolName == poolName && r.state == .ready } }

/-- What a Runner reports to be ready. -/
structure RunnerCapabilities where
  computeBackendVersion : String
  hypervisorReady : Bool
  isolationReady : Bool
  resourceLimitsReady : Bool
  networkPolicyReady : Bool
  storageReady : Bool
  cleanupReady : Bool
  dataPlaneReady : Bool
  /-- `GuestProtocolGenerations` -/
  guestProtocols : Option (Nat × Nat)
  architecture : String
  snapshotResumeReady : Bool := false
  perExecAttributionReady : Bool := false
  clientSelectedImageReady : Bool := false
  physicalStorageAdmissionReady : Bool := false

/-- A Runner registers. -/
structure Registration where
  envelope : Envelope
  poolName : ID
  protocolVersion : Nat
  readinessFailures : List String := []
  /-- `protocolBackendKind`; empty for an unknown backend -/
  backendKind : String
  capabilities : Option RunnerCapabilities
  allocatable : Option Capacity
  reserved : Option Capacity
  materializations : List Materialization
  /-- the advertised address, endpoint, egress contexts, startup timing and
      materialization evidence pass their own format checks -/
  wellFormed : Bool := true
  supportedEgressContexts : List String := []

/-- `allPrerequisitesReady`, and a range of guest protocols -/
def RunnerCapabilities.ready (c : RunnerCapabilities) : Bool :=
  c.computeBackendVersion != "" && c.hypervisorReady && c.isolationReady && c.resourceLimitsReady &&
    c.networkPolicyReady && c.storageReady && c.cleanupReady && c.dataPlaneReady &&
    c.guestProtocols.any fun r => r.1 != 0 && decide (r.1 ≤ r.2)

/-- The capabilities a registered Runner is recorded with. -/
def RunnerCapabilities.names (c : RunnerCapabilities) (protocolVersion : Nat) : List String :=
  ["compute", "network-policy", "storage", "cleanup", "local-workspace", "port-data-plane"] ++
    (if 2 ≤ protocolVersion then ["workspace-relocation"] else []) ++
    (if c.snapshotResumeReady then ["snapshot-resume"] else []) ++
    (if c.perExecAttributionReady then ["per-exec-attribution"] else []) ++
    (if c.clientSelectedImageReady then ["client-selected-image"] else []) ++
    (if c.physicalStorageAdmissionReady then ["physical-storage-admission"] else [])

/-- The row a registration leaves, whatever was recorded before. -/
def Registration.runner (m : Registration) (c : RunnerCapabilities)
    (allocatable reserved : Capacity) (now : Time) :
    Runner where
  poolName := m.poolName
  state := .ready
  architectures := [c.architecture]
  capabilities := c.names m.protocolVersion
  allocatable := allocatable
  reserved := reserved
  drainPhase := .active
  lastSeenAt := now
  materializations := m.materializations
  supportedEgressContexts := m.supportedEgressContexts
  backendKind := m.backendKind
  activeConnectionID := m.envelope.connectionID

/-- `RecordRegistration` -/
def recordRegistration (m : Registration) (now : Time) : Tx Unit := do
  require (m.readinessFailures.isEmpty && m.backendKind != "") .runnerPrerequisites
  let c ← expect m.capabilities .runnerPrerequisites
  require (!c.physicalStorageAdmissionReady || m.backendKind == "firecracker" ||
    m.backendKind == "gvisor")
    .runnerPrerequisites
  require (c.ready && !m.materializations.isEmpty && m.wellFormed) .runnerPrerequisites
  let allocatable ← expect (m.allocatable.map (·.fromProtocol))
    (.invalid "SecondBox runner capacity is required")
  let reserved ← expect (m.reserved.map (·.fromProtocol))
    (.invalid "SecondBox runner capacity is required")
  if ← beginOrderedMessage m.envelope [] then
    pure ()
  else do
    let p ← row (·.pools) m.poolName "SecondBox runner Registration pool lookup"
    require p.ready (.invalid "SecondBox RunnerPool is not accepting runners")
    require (p.backendKind == "" || p.backendKind == m.backendKind)
      (.invalid "SecondBox RunnerPool is sealed to a different compute backend")
    modify fun d => { d with
      pools := d.pools.updateAt m.poolName fun p => { p with backendKind := m.backendKind }
      runners :=
        (d.runners.insertNew m.envelope.runnerID (m.runner c allocatable reserved now)).updateAt
        m.envelope.runnerID fun _ => m.runner c allocatable reserved now }
    refreshReadyRunnerCount m.poolName

/-- `ActiveAssignmentSummary` -/
structure ActiveAssignment where
  fence : Fence
  egressContext : String := ""

/-- A Runner reports its load. -/
structure Heartbeat where
  envelope : Envelope
  allocatable : Capacity
  reserved : Capacity
  drainPhase : DrainPhase
  activeAssignments : List ActiveAssignment

/-- `protocolDrainState` -/
def DrainPhase.runnerState : DrainPhase → RunnerState
  | active => .ready
  | draining => .draining
  | drained => .drained

/-- The summary tells the Assignment's own identity. -/
def ActiveAssignment.describes (m : ActiveAssignment) (id : ID) (a : Assignment) : Bool :=
  m.fence == a.fence id && m.egressContext == a.egressContext.getD ""

/-- A ready Assignment its Runner no longer reports. -/
def Assignment.miss (a : Assignment) (now : Time) : Assignment :=
  { a with state := .uncertain, failureClass := .transient, nextReconcileAt := now, reconcileOwner := ""
           reconcileClaimExpiresAt := now, revision := a.revision + 1 }

/-- A ready Assignment of the Runner. -/
def Assignment.readyOn (a : Assignment) (runnerID : ID) : Bool :=
  a.runnerID == runnerID && a.state == .ready

/-- What a heartbeat says of an Assignment. -/
def reportsOf (reported : List ActiveAssignment) (id : ID) : Option ActiveAssignment :=
  reported.find? fun m => m.fence.assignmentID == id

/-- `reconcileRunnerActiveAssignments` -/
def reconcileRunnerActiveAssignments (runnerID : ID) (reported : List ActiveAssignment)
    (now : Time) : Tx Unit := do
  require (reported.all (·.fence.complete))
    (.invalid "SecondBox runner Heartbeat active Assignment evidence is incomplete")
  require (decide (reported.map (·.fence.assignmentID)).Nodup)
    (.invalid "SecondBox runner Heartbeat active Assignment evidence is duplicated")
  require (!(← get).assignments.any fun id a =>
      a.readyOn runnerID && (reportsOf reported id).any fun m => !m.describes id a)
    (.invalid "SecondBox runner Heartbeat active Assignment evidence conflicts with durable authority")
  modify fun d => { d with
    assignments := d.assignments.updateWhere
      (fun id a => a.readyOn runnerID && (reportsOf reported id).isNone) (·.miss now) }

/-- `RecordHeartbeat` -/
def recordHeartbeat (m : Heartbeat) (now : Time) : Tx Unit := do
  if ← beginOrderedMessage m.envelope [] then
    pure ()
  else do
    let r ← expect ((← get).runners.get m.envelope.runnerID)
      (.invalid "SecondBox runner Heartbeat connection is no longer active")
    require (r.activeConnectionID == m.envelope.connectionID)
      (.invalid "SecondBox runner Heartbeat connection is no longer active")
    reconcileRunnerActiveAssignments m.envelope.runnerID m.activeAssignments now
    let durable := (← get).durableRunnerReservation m.envelope.runnerID
    modify fun d => { d with
      runners := d.runners.updateAt m.envelope.runnerID fun r =>
        { r with state := m.drainPhase.runnerState, allocatable := m.allocatable.fromProtocol
                 reserved := m.reserved.fromProtocol.max durable, drainPhase := m.drainPhase, lastSeenAt := now } }
    refreshReadyRunnerCount r.poolName

/-- The Runner is unschedulable until it registers again. -/
def takeOffline (runnerID : ID) : Tx Unit := do
  let r ← row (·.runners) runnerID "SecondBox runner offline transition"
  modify fun d =>
    { d with runners := d.runners.updateAt runnerID fun r => { r with state := .offline } }
  refreshReadyRunnerCount r.poolName

/-- `CloseConnection`, without its data-plane sessions. -/
def closeConnection (runnerID connectionID : ID) : Tx Unit := do
  require (runnerID != "" && connectionID != "")
    (.invalid "SecondBox runner connection close requires runner and connection identifiers")
  modify fun d => { d with
    connections :=
      d.connections.updateWhere (fun k c => k == connectionID && c.runnerID == runnerID) fun c =>
      { c with active := false } }
  if ((← get).runners.get runnerID).any (·.activeConnectionID == connectionID) then
    takeOffline runnerID
  else
    pure ()

/-! ## Scheduling -/

/-- What an Instance needs. -/
structure Requirements where
  poolName : ID
  architecture : String
  requiredCapabilities : List String := []
  capacity : Capacity
  egressContext : Option String := none

/-- The part of an AssignmentCommand that placement checks or stores. -/
structure AssignmentCommand where
  fence : Fence
  profileRevisionID : ID
  workspaceID : ID
  correlation : Correlation
  deadlineUnixMs : Int
  executionImageReference : String := ""
  egressContext : String := ""
  requiresTenantEgressContext : Bool := false

/-- The input of `Schedule`. -/
structure ScheduleRequest where
  assignmentID : ID
  assignmentCommandID : ID
  instanceID : ID
  sandboxID : ID
  workspaceID : ID
  startMutationID : ID
  profileRevisionID : ID
  requirements : Requirements
  command : AssignmentCommand
  fencingToken : Bytes
  claimExpiresAt : Time
  operationDeadline : Time
  retryLimit : Int
  heartbeatTimeout : Int
  now : Time
  capacityWaitDeadline : Option Time := none
  lifecycleClaimOwner : ID

variable (q : ScheduleRequest)

/-- Identity, fence, deadline and retry bounds are complete. -/
def ScheduleRequest.complete : Bool :=
  q.assignmentID != "" && q.assignmentCommandID != "" && q.instanceID != "" && q.sandboxID != "" &&
    q.workspaceID != "" && q.startMutationID != "" && q.profileRevisionID != "" &&
    q.requirements.poolName != "" && q.requirements.architecture != "" &&
    q.lifecycleClaimOwner != "" &&
    decide (32 ≤ q.fencingToken.length) && q.claimExpiresAt != 0 && q.operationDeadline != 0 &&
    decide (0 < q.heartbeatTimeout) && decide (0 ≤ q.retryLimit) && q.now != 0

/-- The command is the one of this Assignment. -/
def ScheduleRequest.commandMatches : Bool :=
  let c := q.command
  c.fence.assignmentID == q.assignmentID && c.fence.sandboxID == q.sandboxID &&
    c.fence.instanceID == q.instanceID && c.fence.sandboxGeneration != 0 &&
    c.fence.fencingToken == q.fencingToken && c.profileRevisionID == q.profileRevisionID &&
    c.workspaceID == q.workspaceID && c.correlation.requestID != "" &&
    c.correlation.operationID != "" &&
    c.correlation.sandboxID == q.sandboxID && c.correlation.sandboxGeneration ==
    c.fence.sandboxGeneration && c.deadlineUnixMs != 0

/-- The command carries the context the placement requires, or none. -/
def ScheduleRequest.egressMatches : Bool :=
  match q.requirements.egressContext with
  | none => !q.command.requiresTenantEgressContext && q.command.egressContext == ""
  | some context => q.command.requiresTenantEgressContext && q.command.egressContext == context

/-- `hasMaterialization` -/
def Runner.hasMaterialization (r : Runner) (architecture : String) : Bool :=
  r.materializations.any fun m =>
    m.backendKind == r.backendKind && m.architecture == architecture && m.digest != ""

/-- The Workspace disk one Assignment may take. -/
def Runner.individualDiskLimit (r : Runner) : Int :=
  if r.backendKind == "firecracker" && decide (0 < r.allocatable.instances) then
    r.allocatable.diskBytes.tdiv r.allocatable.instances
  else r.allocatable.diskBytes

/-- The Runner has the capacity free. -/
def Runner.fits (r : Runner) (c : Capacity) : Bool :=
  decide (c.vcpuCount ≤ r.free.vcpuCount) && decide (c.memoryBytes ≤ r.free.memoryBytes) &&
    (if r.capabilities.contains "physical-storage-admission" then decide (c.diskBytes ≤ r.individualDiskLimit)
     else decide (c.diskBytes ≤ r.free.diskBytes)) &&
    decide (c.instances ≤ r.free.instances) && decide (c.operations ≤ r.free.operations)

/-- `compatible` -/
def Runner.compatible (r : Runner) (q : Requirements) (architecture : String) (now : Time)
    (heartbeatTimeout : Int) :
    Bool :=
  r.poolName == q.poolName && architecture == q.architecture && r.drainPhase == .active &&
    !decide (r.lastSeenAt < now - heartbeatTimeout) && r.backendKind != "" &&
    r.capabilities.contains "compute" &&
    (q.requiredCapabilities.contains "client-selected-image" ||
    r.hasMaterialization architecture) && q.requiredCapabilities.all r.capabilities.contains &&
    ["network-policy", "storage", "cleanup", "local-workspace"].all r.capabilities.contains &&
    r.fits q.capacity

/-- `lockHomeRunner` and `SelectHomeRunner`: ordinary placement considers the
    home Runner only. -/
def selectHomeRunner (homeRunnerID : ID) (q : ScheduleRequest) : Tx Runner := do
  let r ← expect (((← get).runners.get homeRunnerID).filter fun r =>
    r.poolName == q.requirements.poolName && r.state == .ready) .homeRunnerUnavailable
  match r.architectures with
  | [architecture] => do
    require (r.compatible q.requirements architecture q.now q.heartbeatTimeout)
      .homeRunnerUnavailable
    require (q.requirements.egressContext.all r.supportedEgressContexts.contains)
      .egressContextUnavailable
    pure r
  | _ => throw (.invalid "SecondBox scheduler Runner architecture evidence is invalid")

/-- `readAssignment` -/
def DB.readAssignment (d : DB) (sandboxID : ID) (generation : Int) : Option (ID × Assignment) :=
  d.assignments.find? fun _ a => a.sandboxID == sandboxID && a.generation == generation

/-- The row of a new Assignment. -/
def ScheduleRequest.assignment (runnerID : ID) (r : Runner) (generation : Int)
    (placementAt : Time) : Assignment where
  sandboxID := q.sandboxID
  instanceID := q.instanceID
  runnerID := runnerID
  profileRevisionID := q.profileRevisionID
  backendKind := r.backendKind
  generation := generation
  fencingToken := q.fencingToken
  state := .assigned
  retryLimit := q.retryLimit
  operationDeadline := q.operationDeadline
  reconcileClaimExpiresAt := placementAt
  nextReconcileAt := q.operationDeadline
  egressContext := q.requirements.egressContext

/-- The mutation slot of a Workspace whose start was placed. -/
def Mutation.start (m : Mutation) (q : ScheduleRequest) (generation : Int) : Mutation :=
  if m.state == .none then
    { kind := .start, id := q.startMutationID, effectID := q.assignmentCommandID
      operationID := q.command.correlation.operationID, expectedGeneration := some generation
      targetGeneration := some generation, state := .assigned }
  else
    { m with effectID := q.assignmentCommandID, state := .assigned }

/-- The correlation stored with the Assignment's command. -/
def ScheduleRequest.correlation (runnerID : ID) (generation : Int) : Correlation :=
  { q.command.correlation with
    sandboxID := q.sandboxID, instanceID := q.instanceID, sandboxGeneration := generation
    assignmentID := q.assignmentID, runnerID }

/-- The writes of a placement. -/
def place (runnerID : ID) (r : Runner) (generation : Int) (placementAt : Time) : Tx Unit := do
  modify fun d => { d with
    workspaces := d.workspaces.updateAt q.workspaceID fun w =>
      { w with mutation := w.mutation.start q generation } }
  require ((← get).instances.get q.instanceID).isNone
    (.database "SecondBox scheduler Instance insert")
  modify fun d => { d with
    instances := d.instances.insertNew q.instanceID
      { sandboxID := q.sandboxID, generation, state := .starting
        requestedImageReference := q.command.executionImageReference } }
  require ((← get).assignments.get q.assignmentID).isNone
    (.database "SecondBox scheduler Assignment insert")
  modify fun d => { d with
    assignments :=
      d.assignments.insertNew q.assignmentID (q.assignment runnerID r generation placementAt) }
  insertCommand q.assignmentCommandID
    { runnerID, assignmentID := q.assignmentID, kind := .assignment
      payload := .assignment (some (q.correlation runnerID generation)) }
    "SecondBox scheduler Assignment command insert"
  modify fun d => { d with
    runners := d.runners.updateAt runnerID fun r' =>
      { r' with reserved := r.reserved.add q.requirements.capacity }
    sandboxes := d.sandboxes.updateAt q.sandboxID fun s =>
      { s with state := .starting, currentInstanceID := q.instanceID
               reconcileOwner :=
                 if s.reconcileOwner == q.lifecycleClaimOwner then "" else s.reconcileOwner } }

/-- `scheduleOnce`: the Assignment of the Sandbox's generation, and whether it
    is new.  `placementAt` is the worker's clock just before the writes. -/
def schedule (placementAt : Time) : Tx (ID × Bool) := do
  require q.complete
    (.invalid "SecondBox scheduler request requires complete identity, profile, fence, deadline, and retry bounds")
  require q.commandMatches
    (.invalid "SecondBox scheduler Assignment command does not match durable assignment authority")
  require q.egressMatches
    (.invalid "SecondBox scheduler Assignment egress context does not match placement requirements")
  let (s, w) ← lockSandboxWorkspace q.sandboxID "SecondBox scheduler Sandbox/Workspace lookup"
  require (s.workspaceID == q.workspaceID) .profileRevisionMismatch
  require (w.homeRunnerID != "") .homeRunnerUnavailable
  require (w.generation == s.generation && (w.state == .creating || w.state == .ready))
    .profileRevisionMismatch
  require (s.egressContext == q.requirements.egressContext && s.profileRevisionID ==
    q.profileRevisionID &&
    q.command.fence.sandboxGeneration == s.generation) .profileRevisionMismatch
  match (← get).readAssignment q.sandboxID s.generation with
  | some (id, _) => pure (id, false)
  | none => do
    require (w.mutation.state == .none || w.mutation.id == q.startMutationID &&
      w.mutation.kind == .start)
      (.invalid "SecondBox scheduler Workspace has a conflicting local mutation")
    require (s.currentInstanceID == "")
      (.invalid "SecondBox scheduler Sandbox has an Instance without durable assignment")
    let r ← selectHomeRunner w.homeRunnerID q
    require (q.capacityWaitDeadline.all fun t => decide (placementAt < t)) .capacityWaitExpired
    require (q.capacityWaitDeadline.isNone || s.desiredState == .running) .profileRevisionMismatch
    place q w.homeRunnerID r s.generation placementAt
    pure (q.assignmentID, true)

end SecondBox.Fleet

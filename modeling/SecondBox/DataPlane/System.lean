/-
  The data plane as a state machine.  A transaction either commits or leaves the
  database alone, so a history is a list of transactions in commit order.

  The sweep selects sessions and then runs one transaction for each
  (`closePort`, `expire`, `cancel`, `finalize`); `CancelSandboxSessions` selects
  a generation's sessions and runs `cancel` for each.  Both selections may be
  out of date, so these transactions occur for any session at any time.
  `authority` replaces the rows other components own.
-/
import SecondBox.Base.History
import SecondBox.DataPlane.Ports

namespace SecondBox.DataPlane

open Relational Relational.Tx

/-! ## Transactions of other components that end sessions -/

/-- The outcome of a session whose Runner disconnected. -/
def SessionKind.disconnectedTerminal : SessionKind → TerminalKind
  | exec | terminal => .exec .infrastructureFailed
  | port => .port .guestUnavailable
  | file => .file .failed

/-- The detail of a disconnect. -/
def connectionLost : String := "Execution node connection was lost"

/-- A session its disconnected Runner can no longer finish. -/
def Session.servedBy (s : Session) (runnerID : ID) : Bool :=
  s.runnerID == runnerID && s.kind != .terminal && s.state.active

/-- The row of a session whose Runner disconnected. -/
def Session.failDisconnected (s : Session) (now : Time) : Session :=
  { s.record s.kind.disconnectedTerminal connectionLost with
    state := .failed, infrastructureReason := some .executionNode, retryable := true
    terminalMessage := connectionLost
    completedAt := some now, retainUntil := max s.retainUntil now }

/-- A proxied Terminal attached through the disconnected Runner. -/
def DB.attachedThrough (d : DB) (runnerID : ID) (s : Session) : Bool :=
  s.runnerID == runnerID && s.kind == .terminal && s.state.active && s.attachmentID != "" &&
    (d.auth.revisions.get s.profileRevisionID).any (·.execution.dataPlaneTransport == some .proxied)

/-- The Runner's disconnect starts the detach interval. -/
def Session.detachFrom (s : Session) (now : Time) : Session :=
  s.detachUntil (now + s.terminalDetachSeconds * 1000)

/-- `failDisconnectedRunnerDataPlaneSessions`: proxied Terminals are detached,
    everything else the Runner served fails. -/
def DB.failDisconnected (d : DB) (runnerID : ID) (now : Time) : DB :=
  { d with
    sessions := (d.sessions.updateWhere (fun _ s => d.attachedThrough runnerID s) (·.detachFrom now)).updateWhere
      (fun _ s => s.servedBy runnerID) (·.failDisconnected now)
    ports := d.ports.updateWhere (fun _ p => (d.sessions.get p.dataPlaneSessionID).any
      (·.servedBy runnerID) && p.state.unfinished) (·.close now) }

/-- `CloseConnection` -/
def closeConnection (runnerID connectionID : ID) (now : Time) : Tx Unit := do
  require (runnerID != "" && connectionID != "")
    (.invalid "SecondBox runner connection close requires runner and connection identifiers")
  modify fun d => { d with auth := { d.auth with
    connections :=
      d.auth.connections.updateWhere (fun k c => k == connectionID && c.runnerID == runnerID)
      fun c => { c with active := false } } }
  let d ← get
  if (d.auth.runners.get runnerID).any (·.activeConnectionID == connectionID) then
    modify (·.failDisconnected runnerID now)

/-- The outcome of a session whose generation was fenced. -/
def SessionKind.fencedTerminal : SessionKind → TerminalKind
  | exec | terminal => .exec .infrastructureFailed
  | port => .port .fenced
  | file => .file .fenced

/-- The detail of a fence. -/
def generationWasFenced : String := "Sandbox generation was fenced"

/-- The row of a session whose generation was fenced. -/
def Session.fenced (s : Session) (now : Time) : Session :=
  { s.record s.kind.fencedTerminal generationWasFenced with
    state := .failed, infrastructureReason := some .generationFenced, retryable := false
    terminalMessage := generationWasFenced, completedAt := some now, retainUntil := max s.retainUntil now }

/-- The row of a fenced PortSession. -/
def PortSession.fenced (p : PortSession) (now : Time) : PortSession :=
  { p with state := .fenced, closedAt := some now }

/-- What fencing a generation does to the data plane, the same statements in
    `fenceGenerationAuthority` and `AdvanceFencedGeneration`. -/
def DB.fenceGeneration (d : DB) (sandboxID : ID) (generation : Int) (now : Time) : DB :=
  { d with
    auth := { d.auth with
      leases := d.auth.leases.updateWhere (fun _ l => l.sandboxID == sandboxID &&
        l.generation == generation && l.state == .active) fun l => { l with state := .fenced } }
    sessions :=
      d.sessions.updateWhere (fun _ s => s.sandboxID == sandboxID && s.generation == generation &&
      s.state.active) (·.fenced now)
    ports :=
      d.ports.updateWhere (fun _ p => p.sandboxID == sandboxID && p.generation == generation &&
      p.state.unfinished) (·.fenced now) }

/-- The Operations a Subject's cleanup cancels after its sessions (`cancelWork`). -/
def cancelOperations (tenantRef subjectRef cleanupID : ID) : Tx Unit := do
  let _ ← quotaLedgers tenantRef subjectRef
  modify fun d => { d with
    operations := d.operations.updateWhere (fun id o => o.tenantRef == tenantRef &&
      o.subjectRef == subjectRef &&
      id != cleanupID && o.kind != .delete && (o.state == .pending || o.state == .running)) fun o =>
        { o with state := .cancelled } }

/-- A PortSession closed by a cleanup. -/
def PortSession.release (p : PortSession) (now : Time) : PortSession :=
  { p with state := .closed, closedAt := p.closedAt.or (some now) }

/-- `releaseResources` of a Subject's cleanup: it closes PortSessions without
    their data-plane sessions.  The stage and the claim of the cleanup, which it
    checks first, are left out. -/
def DB.releaseResources (d : DB) (tenantRef subjectRef : ID) (now : Time) : DB :=
  { d with
    auth := { d.auth with
      leases := d.auth.leases.updateWhere (fun _ l => l.tenantRef == tenantRef &&
        l.subjectRef == subjectRef && l.state == .active) fun l => { l with state := .released } }
    ports :=
      d.ports.updateWhere (fun _ p => p.tenantRef == tenantRef && p.subjectRef == subjectRef &&
      p.state.unfinished) (·.release now) }

/-- `releaseResources` -/
def releaseResources (tenantRef subjectRef : ID) (now : Time) : Tx Unit := do
  let _ ← quotaLedgers tenantRef subjectRef
  modify (·.releaseResources tenantRef subjectRef now)

/-! ## The state machine -/

/-- The transactions. -/
inductive Transaction where
  | admitDataPlane (i : Admission)
  | admitPortSession (i : PortAdmission)
  | prepareImage (i : ImagePreparation)
  | reconcileImagePreparation (operationID : ID) (decided : OperationState)
  | start (tenantRef subjectRef id : ID) (now : Time)
  | consumeDirect (i : DirectConsumption)
  | complete (tenantRef subjectRef id : ID) (completion : Completion) (now : Time)
  | cancel (tenantRef subjectRef id : ID) (reason : String) (now : Time)
  | expire (tenantRef subjectRef id : ID) (now : Time)
  | cancelPublic (i : PublicCancellation)
  | finalize (id : ID) (now : Time)
  | confirm (f : ConfirmationFrame) (now : Time)
  | sweep (ids : List ID) (now : Time)
  | acquireTerminal (tenantRef subjectRef sandboxID id : ID) (generation : Int)
      (attachmentID : ID) (now : Time)
  | detachTerminal (tenantRef subjectRef id attachmentID : ID) (now : Time)
  | checkpointTerminal (tenantRef subjectRef id : ID) (k : TerminalCheckpoint) (now : Time)
  | consumePort (tenantRef subjectRef id : ID) (now : Time)
  | consumeDirectPort (i : DirectConsumption)
  | closePort (i : PortClose)
  | getPortTunnel (tenantRef subjectRef sandboxID id : ID) (now : Time)
  | portTerminal (f : PortTerminalFrame) (now : Time)
  | closeConnection (runnerID connectionID : ID) (now : Time)
  | fenceGeneration (sandboxID : ID) (generation : Int) (now : Time)
  | cancelOperations (tenantRef subjectRef cleanupID : ID)
  | releaseResources (tenantRef subjectRef : ID) (now : Time)
  | authority (a : Authority)

/-- What each transaction runs. -/
def Transaction.tx (c : Config) : Transaction → Tx Unit
  | admitDataPlane i => discard (DataPlane.admitDataPlane c i)
  | admitPortSession i => discard (DataPlane.admitPortSession c i)
  | prepareImage i => discard (DataPlane.prepareImage i)
  | reconcileImagePreparation id decided => DataPlane.reconcileImagePreparation id decided
  | start tenantRef subjectRef id now => startDataPlaneSession tenantRef subjectRef id now
  | consumeDirect i => consumeDirectDataPlaneSession i
  | complete tenantRef subjectRef id r now =>
    completeDataPlaneSession c tenantRef subjectRef id r now
  | cancel tenantRef subjectRef id reason now =>
    discard (cancelDataPlaneSession c tenantRef subjectRef id reason now)
  | expire tenantRef subjectRef id now => expireDataPlaneSession tenantRef subjectRef id now
  | cancelPublic i => discard (cancelPublicDataPlaneSession c i)
  | finalize id now => finalizeUnconfirmedCancellation c id now
  | confirm f now => confirmDataPlaneCancellation c f now
  | sweep ids now => sweepDataPlaneSessions ids now
  | acquireTerminal tenantRef subjectRef sandboxID id generation attachmentID now =>
    discard (acquireTerminalAttachment tenantRef subjectRef sandboxID id generation attachmentID now)
  | detachTerminal tenantRef subjectRef id attachmentID now =>
    detachTerminalAttachment tenantRef subjectRef id attachmentID now
  | checkpointTerminal tenantRef subjectRef id k now =>
    DataPlane.checkpointTerminal c tenantRef subjectRef id k now
  | consumePort tenantRef subjectRef id now => consumePortSession tenantRef subjectRef id now
  | consumeDirectPort i => consumeDirectPortSession i
  | closePort i => closePortSession c i
  | getPortTunnel tenantRef subjectRef sandboxID id now =>
    DataPlane.getPortTunnel tenantRef subjectRef sandboxID id now
  | portTerminal f now => discard (recordPortSessionTerminal c f now)
  | closeConnection runnerID connectionID now => DataPlane.closeConnection runnerID connectionID now
  | fenceGeneration sandboxID generation now => modify (·.fenceGeneration sandboxID generation now)
  | cancelOperations tenantRef subjectRef cleanupID =>
    DataPlane.cancelOperations tenantRef subjectRef cleanupID
  | releaseResources tenantRef subjectRef now => DataPlane.releaseResources tenantRef subjectRef now
  | authority a => modify fun d => { d with auth := a }

/-- One transaction, committed or rolled back. -/
def DB.step (c : Config) (d : DB) (t : Transaction) : DB := (t.tx c).commit d

/-- The id a transaction gives to a new session. -/
def Transaction.mints : Transaction → Option ID
  | admitDataPlane i => some i.id
  | admitPortSession i => some i.id
  | _ => none

/-- No row bears the id `id` or was derived from it. -/
structure DB.Unused (d : DB) (id : ID) : Prop where
  session : d.sessions.get id = none
  port : d.ports.get id = none
  owner : ∀ k p, d.ports.get k = some p → p.dataPlaneSessionID ≠ id
  cancel : d.commands.get (.cancel id) = none
  portCancel : d.commands.get (.portCancel id) = none

/-- Ids come from `newID`: an admission never reuses one. -/
def Fresh (d : DB) (t : Transaction) : Prop := ∀ id, t.mints = some id → d.Unused id

end SecondBox.DataPlane

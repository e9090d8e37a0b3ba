/-
  Invariants by writes: what each write of the data plane keeps, every
  transaction keeps.
-/
import SecondBox.DataPlane.System

namespace SecondBox.DataPlane

open Relational Relational.Tx

-- a transaction's instance has a node for every statement
set_option synthInstance.maxSize 4096

variable {P : DB → Prop}

/-! ## Reads -/

instance (tenantRef subjectRef : ID) : Preserves P (quotaLedgers tenantRef subjectRef) := by
  unfold quotaLedgers; infer_instance

instance (tenantRef subjectRef id : ID) : Preserves P (ownSession tenantRef subjectRef id) := by
  unfold ownSession; infer_instance

variable (id : ID)

instance (e : Err) : Preserves P (lockDataPlaneSessionQuota id e) := by
  unfold lockDataPlaneSessionQuota; infer_instance

variable (s : Session)

instance : Preserves P (hydrateDataPlaneTransport s) := by
  unfold hydrateDataPlaneTransport; infer_instance

instance (now : Time) : Preserves P (validateDirectDataPlaneAuthority s now) := by
  unfold validateDirectDataPlaneAuthority; infer_instance

instance (i : Admission) (revision : ProfileRevision) : Preserves P (lockCapacity i revision) := by
  unfold lockCapacity activeTenant; infer_instance

instance (i : Admission) : Preserves P (lockDataPlaneAuthority i) := by
  unfold lockDataPlaneAuthority admissionLease leaseActive
  refine .seq fun d => .seq fun sandbox => ?_
  split <;> infer_instance

instance (p : PortSession → Session → Bool) : Preserves P (scanPortTunnel id p) := by
  unfold scanPortTunnel; infer_instance

instance (i : PortAdmission) (transport : Transport) :
    Preserves P (lockPortAdmissionAuthority i transport) := by
  unfold lockPortAdmissionAuthority leaseActive
  refine .seq fun d => .seq fun sandbox => .seq fun ⟨_, _⟩ => ?_
  dsimp only
  infer_instance

instance (t : Tunnel) (now : Time) : Preserves P (validateLivePortAuthority t now) := by
  unfold validateLivePortAuthority; infer_instance

/-! ## Writes -/

/-- Changes of one session's row. -/
inductive RowWrite : (Session → Session) → Prop
  | start : RowWrite (·.run)
  | project (c : Config) (p : Projection) (s : Session) (now : Time) : RowWrite (p.row c s now)
  | attach (attachmentID : ID) : RowWrite (·.attach attachmentID)
  | detach : RowWrite (·.detach)
  | detachUntil (t : Time) : RowWrite (·.detachUntil t)
  | checkpoint (k : TerminalCheckpoint) : RowWrite fun row =>
    (k.counted row).checkpointCancel k.cancel
  | close (reason : String) : RowWrite (·.record (.port .cancelled) reason)
  | expirePort (now : Time) : RowWrite (·.expirePort now)
  | portTerminal (c : Config) (f : PortTerminalFrame) (now : Time) : RowWrite (f.row c now)

/-- `P` survives every write of the data plane's own tables. -/
class Closed (P : DB → Prop) : Prop where
  setSession : ∀ {d : DB} (id : ID) {f : Session → Session}, RowWrite f → P d →
    P (d.setSession id f)
  enqueueCancellation : ∀ {d : DB} (id : ID) (s : Session) {kind : TerminalKind} (detail : String)
    (now : Time), kind ≠ .none → P d → P (d.enqueueCancellation id s kind detail now)
  completeCancelledSession : ∀ {d : DB} (c : Config) (id : ID) (now : Time), P d →
    P (d.completeCancelledSession c id now)
  startPending : ∀ {d : DB} (id : ID), P d → P (d.startPending id)
  setPort : ∀ {d : DB} (id : ID) (f : PortSession → PortSession), P d → P (d.setPort id f)
  insertSession : ∀ {d : DB} (id : ID) (s : Session), s.state = .pending → P d →
    P { d with sessions := d.sessions.insertNew id s }
  insertCommand : ∀ {d : DB} (id : CommandID) (k : Command),
    P d → P { d with commands := d.commands.insertNew id k }
  insertPort : ∀ {d : DB} (id : ID) (p : PortSession),
    P d → P { d with ports := d.ports.insertNew id p }
  idempotency : ∀ {d : DB} (t : Table IdempotencyKey IdempotencyRecord),
    P d → P { d with idempotency := t }
  sweep : ∀ {d : DB} (ids : List ID) (now : Time), P d → P (d.sweep ids now)
  connections : ∀ {d : DB} (t : Table ID Connection),
    P d → P { d with auth := { d.auth with connections := t } }
  failDisconnected : ∀ {d : DB} (runnerID : ID) (now : Time),
    P d → P (d.failDisconnected runnerID now)
  fenceGeneration : ∀ {d : DB} (sandboxID : ID) (generation : Int) (now : Time), P d →
    P (d.fenceGeneration sandboxID generation now)
  releaseResources : ∀ {d : DB} (tenantRef subjectRef : ID) (now : Time), P d →
    P (d.releaseResources tenantRef subjectRef now)

/-- A cancellation records an outcome. -/
instance (k : ExecTerminalKind) : Fact (TerminalKind.exec k ≠ .none) := ⟨nofun⟩

instance (k : PortTerminalKind) : Fact (TerminalKind.port k ≠ .none) := ⟨nofun⟩

instance (k : SessionKind) : Fact (k.cancelledTerminal ≠ .none) := ⟨by cases k <;> nofun⟩

instance (k : SessionKind) : Fact (k.deadlineTerminal ≠ .none) := ⟨by cases k <;> nofun⟩

section Writes
variable [hP : Closed P]

theorem preserves_setSession {f : Session → Session} (hf : RowWrite f) :
    Preserves P (setSession id f) :=
  .modify fun _ => hP.setSession id hf

instance (kind : TerminalKind) [hk : Fact (kind ≠ .none)] (detail : String) (now : Time) :
    Preserves P (enqueueCancellation id s kind detail now) :=
  .modify fun _ => hP.enqueueCancellation id s detail now hk.out

variable (c : Config)

instance (now : Time) : Preserves P (completeCancelledSession c id now) :=
  .modify fun _ => hP.completeCancelledSession c id now

instance : Preserves P (startPending id) := .modify fun _ => hP.startPending id

instance (f : PortSession → PortSession) : Preserves P (setPort id f) :=
  .modify fun _ => hP.setPort id f

instance (p : Projection) (now : Time) :
    Preserves P (applyDataPlaneProjection c id s p now) :=
  preserves_setSession id (.project c p s now)

/-! ## Transactions -/

instance (credentialDigest : Bytes) : Preserves P (insertDirectOpen id s credentialDigest) := by
  unfold insertDirectOpen
  exact .seq fun _ => .seq fun _ => .modify fun _ => hP.insertCommand _ _

instance (p : PortSession) : Preserves P (insertPort id p) := by
  unfold insertPort
  exact .seq fun _ => .seq fun _ => .modify fun _ => hP.insertPort id p

theorem preserves_insertSession {s : Session} (hs : s.state = .pending) :
    Preserves P (insertSession id s) := by
  unfold insertSession
  exact .seq fun _ => .seq fun _ => .modify fun _ => hP.insertSession id s hs

instance (i : Admission) : Preserves P (admitDataPlane c i) := by
  unfold admitDataPlane activeSubject authorizeReplayProfile
  refine .seq fun _ => .seq fun _ => .seq fun d => ?_
  split
  · infer_instance
  · refine .seq fun _ => .seq fun r => .seq fun _ => ?_
    exact .bind (preserves_insertSession _ rfl) fun _ => inferInstance

instance (i : PortAdmission) : Preserves P (admitPortSession c i) := by
  unfold admitPortSession activeSubject authorizeReplayProfile enforcePortSessionCapacity
    activeTenant
  refine .seq fun _ => .seq fun _ => .seq fun d => ?_
  split
  · infer_instance
  · refine .seq fun _ => .seq fun r => .seq fun _ => ?_
    refine .seq fun _ => .seq fun _ => ?_
    exact .bind (preserves_insertSession _ rfl) fun _ => inferInstance

instance (detail : String) (now : Time) :
    Preserves P (completeUnstartedCancellation c id s detail now) := by
  unfold completeUnstartedCancellation
  split <;> infer_instance

instance (kind : TerminalKind) [Fact (kind ≠ .none)] (reason : String) (now : Time)
    (completes : Bool) : Preserves P (requestCancellation c id s kind reason now completes) := by
  unfold requestCancellation; infer_instance

instance (i : PublicCancellation) : Preserves P (cancelPublicDataPlaneSession c i) := by
  unfold cancelPublicDataPlaneSession
  have : Preserves P (modify (·.recordCancellation i) : Tx Unit) :=
    .modify fun _ => hP.idempotency _
  refine .seq fun _ => .seq fun _ => .seq fun d => ?_
  split <;> infer_instance

instance (f : ConfirmationFrame) (now : Time) :
    Preserves P (confirmDataPlaneCancellation c f now) := by
  unfold confirmDataPlaneCancellation
  refine .seq fun _ => .seq fun d => ?_
  split <;> infer_instance

instance (tenantRef subjectRef sandboxID id : ID) (generation : Int) (attachmentID : ID)
    (now : Time) :
    Preserves P (acquireTerminalAttachment tenantRef subjectRef sandboxID id generation attachmentID now) := by
  unfold acquireTerminalAttachment
  have := preserves_setSession (P := P) id (.attach attachmentID)
  infer_instance

instance (tenantRef subjectRef id attachmentID : ID) (now : Time) :
    Preserves P (detachTerminalAttachment tenantRef subjectRef id attachmentID now) := by
  unfold detachTerminalAttachment
  have := preserves_setSession (P := P) id .detach
  have := fun t => preserves_setSession (P := P) id (.detachUntil t)
  infer_instance

instance (k : TerminalCheckpoint) (now : Time) :
    Preserves P (applyTerminalCheckpoint c id s k now) := by
  unfold applyTerminalCheckpoint
  have := preserves_setSession (P := P) id (.checkpoint k)
  cases k.terminal <;> dsimp only <;> infer_instance

instance (i : DirectConsumption) : Preserves P (consumeDirectPortSession i) := by
  unfold consumeDirectPortSession lockDirectPortTunnel
  have := preserves_setSession (P := P) i.sessionID .start
  infer_instance

instance (i : PortClose) (t : Tunnel) : Preserves P (closeOpenPort c i t) := by
  unfold closeOpenPort
  have := preserves_setSession (P := P) i.sessionID (.close i.reason)
  infer_instance

instance (i : PortClose) : Preserves P (closePortSession c i) := by
  unfold closePortSession lockPortTunnel
  have : Preserves P (modify (·.recordClose c i) : Tx Unit) := .modify fun _ => hP.idempotency _
  infer_instance

instance (t : Tunnel) (now : Time) : Preserves P (terminatePortSession t now) := by
  unfold terminatePortSession
  have := preserves_setSession (P := P) t.id (.expirePort now)
  infer_instance

instance (f : PortTerminalFrame) (now : Time) :
    Preserves P (recordPortSessionTerminal c f now) := by
  unfold recordPortSessionTerminal lockDirectPortTunnel
  have := preserves_setSession (P := P) f.operationID (.portTerminal c f now)
  infer_instance

instance (runnerID connectionID : ID) (now : Time) :
    Preserves P (closeConnection runnerID connectionID now) := by
  unfold closeConnection
  refine .seq fun _ => .bind (.modify fun _ => hP.connections _) fun _ => ?_
  have : Preserves P (modify (·.failDisconnected runnerID now) : Tx Unit) :=
    .modify fun _ => hP.failDisconnected _ _
  infer_instance

/-- The transactions that touch neither Operations nor the rows of other components' authority. -/
def Transaction.ownTables : Transaction → Bool
  | prepareImage _ | reconcileImagePreparation .. | cancelOperations .. | authority _ => false
  | _ => true

/-- **What every write keeps, every transaction of the data plane's own tables keeps.** -/
theorem Closed.step {d : DB} {t : Transaction} (ht : t.ownTables = true) (h : P d) :
    P (d.step c t) := by
  suffices Preserves P (t.tx c) from Preserves.commit h
  cases t with
  | prepareImage | reconcileImagePreparation | cancelOperations | authority => cases ht
  | sweep ids now => exact .modify fun _ => hP.sweep ids now
  | fenceGeneration sandboxID generation now =>
    exact .modify fun _ => hP.fenceGeneration sandboxID generation now
  | releaseResources tenantRef subjectRef now =>
    exact .seq fun _ => .modify fun _ => hP.releaseResources tenantRef subjectRef now
  | start tenantRef subjectRef id now =>
    simp only [Transaction.tx, startDataPlaneSession]; infer_instance
  | consumeDirect i => simp only [Transaction.tx, consumeDirectDataPlaneSession]; infer_instance
  | complete tenantRef subjectRef id r now =>
    simp only [Transaction.tx, completeDataPlaneSession]; infer_instance
  | cancel tenantRef subjectRef id reason now =>
    simp only [Transaction.tx, cancelDataPlaneSession]; infer_instance
  | expire tenantRef subjectRef id now =>
    simp only [Transaction.tx, expireDataPlaneSession]; infer_instance
  | finalize id now => simp only [Transaction.tx, finalizeUnconfirmedCancellation]; infer_instance
  | checkpointTerminal tenantRef subjectRef id k now =>
    simp only [Transaction.tx, checkpointTerminal]; infer_instance
  | consumePort tenantRef subjectRef id now =>
    simp only [Transaction.tx, consumePortSession, lockPortTunnel]; infer_instance
  | getPortTunnel tenantRef subjectRef sandboxID id now =>
    simp only [Transaction.tx, getPortTunnel, lockPortTunnel]; infer_instance
  | _ => simp only [Transaction.tx]; infer_instance

end Writes

end SecondBox.DataPlane

/-
  Snapshot retention (`internal/store/postgres_snapshots.go`).

  An expired Snapshot is deleted the way an API deletion is: `deleteSnapshot`
  queues a deletion on the home Runner, or refuses because the Snapshot is gone
  or its Workspace is in use.  `queueExpiredSnapshotDelete` tries the first 32
  expired Snapshots in turn.  Those that are refused count against the 32, so a
  Snapshot that stands behind 32 of them is not reached.
-/
import Mathlib.Data.List.Sort
import SecondBox.Fleet.Types
import SecondBox.RunnerControl.Session

namespace SecondBox.Snapshots

open Relational Relational.Tx
open Fleet (ID Bytes Time Workspace)

/-! ## Tables -/

/-- The Snapshot states. -/
inductive SnapshotState where
  | creating | ready | deleting | deleted | failed
deriving DecidableEq

/-- A row of `snapshots`. -/
structure Snapshot where
  tenantRef : ID
  subjectRef : ID
  sandboxID : ID
  workspaceID : ID
  homeRunnerID : ID
  operationID : ID
  effectID : ID
  state : SnapshotState
  /-- a Snapshot without a bound is kept -/
  retainUntil : Option Time

/-- A row of `sandboxes`. -/
structure Sandbox extends Fleet.Sandbox where
  tenantRef : ID
  subjectRef : ID

/-- The states of a restore. -/
inductive RestoreState where
  | requested | prepared | databaseCommitted | aborting | finalized | failed
deriving DecidableEq

/-- A row of `workspace_restores`. -/
structure Restore where
  snapshotID : ID
  workspaceID : ID
  state : RestoreState

/-- The effects that use a Snapshot. -/
inductive EffectKind where
  | localWorkspaceClone | localSnapshotDelete | other
deriving DecidableEq

/-- The effect states. -/
inductive EffectState where
  | queued | runnerSucceeded | runnerFailed | succeeded | failed | cancelled
deriving DecidableEq

/-- A row of `lifecycle_effects`. -/
structure Effect where
  sandboxID : ID
  generation : Int
  kind : EffectKind
  state : EffectState
  runnerID : ID
  commandID : ID
  storageObjectID : ID
  fencingToken : Bytes
  deadline : Time

/-- A row of `operations`. -/
structure Operation where
  tenantRef : ID
  subjectRef : ID
  sandboxID : ID
  snapshotID : ID
  requestID : ID
  createdAt : Time

/-- The database. -/
structure DB where
  tenantQuotas : Table ID Unit := .empty
  subjectQuotas : Table (ID × ID) Unit := .empty
  sandboxes : Table ID Sandbox := .empty
  workspaces : Table ID Workspace := .empty
  snapshots : Table ID Snapshot := .empty
  restores : Table ID Restore := .empty
  effects : Table ID Effect := .empty
  operations : Table ID Operation := .empty
  commands : Table ID Fleet.Command := .empty

/-- Why a transaction rolls back. -/
inductive Err where
  | snapshotNotFound
  | snapshotUnavailable
  | workspaceMutation
  | sandboxNotFound
  | invalid (message : String)
  | database (context : String)
deriving DecidableEq

/-- The input of one round. -/
structure SnapshotRetentionInput where
  operationID : ID
  effectID : ID
  commandID : ID
  requestID : ID
  fencingToken : Bytes
  now : Time

/-! ## Transactions -/

/-- A restore of the Snapshot that is not over. -/
def DB.restoreReference (d : DB) (id workspaceID : ID) : Bool :=
  d.restores.any fun _ r => r.snapshotID == id && r.workspaceID == workspaceID &&
    r.state != .finalized && r.state != .failed

/-- A clone from the Snapshot that is not over. -/
def DB.cloneReference (d : DB) (id : ID) : Bool :=
  d.effects.any fun _ e => e.storageObjectID == id && e.kind == .localWorkspaceClone &&
    e.state != .succeeded && e.state != .runnerFailed && e.state != .cancelled

/-- `rowlock.TenantAndSubjectQuota` -/
def tenantAndSubjectQuota (tenantRef subjectRef : ID) : Tx DB Err Unit := do
  let d ← get
  require (d.tenantQuotas.get tenantRef).isSome
    (.database "SecondBox Tenant quota ledger lock failed")
  require (d.subjectQuotas.get (tenantRef, subjectRef)).isSome
    (.database "SecondBox Subject quota ledger lock failed")

/-- The Sandbox of the Subject, unless it is deleted, and its Workspace. -/
def lockSandboxWorkspace (tenantRef subjectRef sandboxID : ID) :
    Tx DB Err (Sandbox × Workspace) := do
  tenantAndSubjectQuota tenantRef subjectRef
  let d ← get
  let sandbox ← expect (d.sandboxes.get sandboxID) .sandboxNotFound
  require (sandbox.tenantRef == tenantRef && sandbox.subjectRef == subjectRef &&
    sandbox.state != .deleted) .sandboxNotFound
  require (sandbox.egressContext.all RunnerControl.validateEgressContextName)
    (.invalid "SecondBox persisted Sandbox egress context is invalid")
  let workspace ← expect (d.workspaces.get sandbox.workspaceID) .sandboxNotFound
  require (workspace.sandboxID == sandboxID) .sandboxNotFound
  return (sandbox, workspace)

/-- `setWorkspaceMutation` of a deletion; the caller has seen the slot free. -/
def setWorkspaceMutation (i : SnapshotRetentionInput) (w : Workspace) : Workspace :=
  { w with mutation := ⟨.snapshotDelete, i.effectID, i.effectID, i.operationID, some w.generation,
    some w.generation, .queued⟩ }

/-- `queueLocalWorkspaceEffect` of a deletion. -/
def queueLocalWorkspaceEffect (i : SnapshotRetentionInput) (id : ID) (s : Snapshot)
    (generation : Int) (w : Workspace) : Tx DB Err Unit := do
  let d ← get
  require (d.effects.get i.effectID).isNone (.database "SecondBox local Workspace effect insert failed")
  require (d.commands.get i.commandID).isNone (.database "SecondBox local Workspace command insert failed")
  let correlation : Fleet.Correlation :=
    ⟨i.requestID, i.operationID, s.sandboxID, "", w.generation, "", "", w.homeRunnerID⟩
  let command : Fleet.LocalWorkspaceCommand :=
    ⟨.snapshotDelete, i.operationID, i.effectID, s.sandboxID, s.workspaceID, id, w.generation,
      w.generation, w.logicalCapacityBytes, i.fencingToken, correlation⟩
  set { d with
    effects :=
      d.effects.insertNew i.effectID ⟨s.sandboxID, generation, .localSnapshotDelete, .queued,
      w.homeRunnerID, i.commandID, id, i.fencingToken, i.now + 600000⟩
    commands := d.commands.insertNew i.commandID ⟨w.homeRunnerID, i.effectID, .localWorkspace,
      .localWorkspace command, .pending⟩ }

/-- `deleteSnapshot` without an idempotency record. -/
def deleteSnapshot (i : SnapshotRetentionInput) (tenantRef subjectRef id : ID) :
    Tx DB Err Unit := do
  require (i.effectID != "" && i.commandID != "" && 32 ≤ i.fencingToken.length)
    (.invalid "SecondBox Snapshot delete effect identity and fence are required")
  tenantAndSubjectQuota tenantRef subjectRef
  let d ← get
  let s ← expect (d.snapshots.get id) .snapshotNotFound
  require (s.tenantRef == tenantRef && s.subjectRef == subjectRef) .snapshotNotFound
  let (sandbox, w) ← lockSandboxWorkspace tenantRef subjectRef s.sandboxID
  require (sandbox.workspaceID == s.workspaceID) .snapshotNotFound
  require (w.mutation.state == .none) .workspaceMutation
  require (s.homeRunnerID == w.homeRunnerID) .snapshotNotFound
  require (s.state == .ready) .snapshotUnavailable
  require (!d.restoreReference id s.workspaceID) .workspaceMutation
  require (!d.cloneReference id) .workspaceMutation
  require (d.operations.get i.operationID).isNone (.database "SecondBox Operation insert failed")
  -- `snapshots_operation_idx` is unique
  require (!d.snapshots.any fun k s' => k != id && s'.operationID == i.operationID)
    (.database "SecondBox Snapshot delete state update failed")
  set { d with
    operations := d.operations.insertNew i.operationID ⟨tenantRef, subjectRef, s.sandboxID, id,
      i.requestID, i.now⟩
    snapshots := d.snapshots.updateAt id fun s =>
      { s with state := .deleting, operationID := i.operationID, effectID := i.effectID }
    workspaces := d.workspaces.updateAt s.workspaceID (setWorkspaceMutation i) }
  queueLocalWorkspaceEffect i id s sandbox.generation w

/-- `state='ready' AND retain_until<=now ORDER BY retain_until,id` -/
def DB.expired (d : DB) (now : Time) : List (ID × Snapshot) :=
  (d.snapshots.rows.filter fun x => x.2.state == .ready &&
    x.2.retainUntil.any (· ≤ now)).insertionSort
    fun x y => x.2.retainUntil.getD 0 < y.2.retainUntil.getD 0 ∨ x.2.retainUntil = y.2.retainUntil ∧
      x.1 ≤ y.1

/-- The loop of `QueueExpiredSnapshotDelete`; every deletion is a transaction of its own. -/
def queueFirst (i : SnapshotRetentionInput) : List (ID × Snapshot) → DB → Except Err Bool × DB
  | [], d => (.ok false, d)
  | (id, s) :: candidates, d =>
    match (deleteSnapshot i s.tenantRef s.subjectRef id).run d with
    | .ok (_, d') => (.ok true, d')
    | .error .snapshotNotFound | .error .snapshotUnavailable | .error .workspaceMutation =>
      queueFirst i candidates d
    | .error e => (.error e, d)

/-- `QueueExpiredSnapshotDelete` -/
def queueExpiredSnapshotDelete (i : SnapshotRetentionInput) (d : DB) : Except Err Bool × DB :=
  if i.operationID == "" || i.effectID == "" || i.commandID == "" || i.requestID == "" ||
    i.fencingToken.length < 32 then
    (.error (.invalid "SecondBox Snapshot retention identities and fence are required"), d)
  else queueFirst i ((d.expired i.now).take 32) d

/-! ## Progress -/

/-- The Workspace holds no mutation and no restore or clone refers to the Snapshot. -/
def DB.deletable (d : DB) (x : ID × Snapshot) : Bool :=
  (d.workspaces.get x.2.workspaceID).all (·.mutation.state == .none) &&
    !d.restoreReference x.1 x.2.workspaceID && !d.cloneReference x.1

/-- The rows a Snapshot hangs on. -/
structure DB.Holds (d : DB) (s : Snapshot) (sandbox : Sandbox) (w : Workspace) : Prop where
  tenantQuota : d.tenantQuotas.get s.tenantRef = some ()
  subjectQuota : d.subjectQuotas.get (s.tenantRef, s.subjectRef) = some ()
  sandboxRow : d.sandboxes.get s.sandboxID = some sandbox
  workspaceRow : d.workspaces.get s.workspaceID = some w
  tenantRef : sandbox.tenantRef = s.tenantRef
  subjectRef : sandbox.subjectRef = s.subjectRef
  live : sandbox.state ≠ .deleted
  egress : sandbox.egressContext.all RunnerControl.validateEgressContextName = true
  workspaceID : sandbox.workspaceID = s.workspaceID
  sandboxID : w.sandboxID = s.sandboxID
  homeRunnerID : s.homeRunnerID = w.homeRunnerID

/-- A ready Snapshot's Sandbox is not deleted, and its Workspace is at the Snapshot's Runner. -/
def DB.Consistent (d : DB) : Prop :=
  ∀ id s, d.snapshots.get id = some s → s.state = .ready → ∃ sandbox w, d.Holds s sandbox w

/-- The identities of a call were never used. -/
structure SnapshotRetentionInput.Fresh (i : SnapshotRetentionInput) (d : DB) : Prop where
  operationID : i.operationID ≠ ""
  effectID : i.effectID ≠ ""
  commandID : i.commandID ≠ ""
  requestID : i.requestID ≠ ""
  fence : 32 ≤ i.fencingToken.length
  operation : d.operations.get i.operationID = none
  snapshot : ∀ id s, d.snapshots.get id = some s → s.operationID ≠ i.operationID
  effect : d.effects.get i.effectID = none
  command : d.commands.get i.commandID = none

/-- `d'` is `d` with the deletion of the Snapshot `x` queued, and no other Snapshot changed. -/
structure Queued (i : SnapshotRetentionInput) (x : ID × Snapshot) (d d' : DB) : Prop where
  snapshot : d'.snapshots.get x.1 =
    some { x.2 with state := .deleting, operationID := i.operationID, effectID := i.effectID }
  others : ∀ id ≠ x.1, d'.snapshots.get id = d.snapshots.get id
  operation : ∃ o, d'.operations.get i.operationID = some o ∧ o.snapshotID = x.1
  effect : ∃ e, d'.effects.get i.effectID = some e ∧ e.kind = .localSnapshotDelete ∧
    e.state = .queued ∧ e.storageObjectID = x.1 ∧ e.commandID = i.commandID
  command : ∃ c, d'.commands.get i.commandID = some c ∧ c.runnerID = x.2.homeRunnerID ∧
    c.state = .pending
  mutation : ∃ w, d'.workspaces.get x.2.workspaceID = some w ∧ w.mutation.state = .queued ∧
    w.mutation.effectID = i.effectID

section Retention
variable {i : SnapshotRetentionInput} {d : DB} {x : ID × Snapshot}

/-- A ready Snapshot is queued if it is deletable, and refused as in use otherwise. -/
theorem deleteSnapshot_wp (hd : d.Consistent) (hi : i.Fresh d)
    (hx : d.snapshots.get x.1 = some x.2 ∧ x.2.state = .ready) :
    (deleteSnapshot i x.2.tenantRef x.2.subjectRef x.1).wp d (fun _ d' => d.deletable x = true ∧
      Queued i x d d') (fun e => d.deletable x = false ∧ e = .workspaceMutation) := by
  obtain ⟨sandbox, w, h⟩ := hd x.1 x.2 hx.1 hx.2
  have hunique : (d.snapshots.any fun k s' => k != x.1 && s'.operationID == i.operationID) =
      false := by
    by_contra hany
    obtain ⟨k, s', hk, hp⟩ := Table.any_eq_true.1 (Bool.not_eq_false _ ▸ hany)
    simp [hi.snapshot k s' hk] at hp
  simp only [deleteSnapshot, tenantAndSubjectQuota, lockSandboxWorkspace, queueLocalWorkspaceEffect,
    wp_bind, wp_get, wp_require, wp_expect, wp_pure, wp_set]
  simp [hi.effectID, hi.commandID, hi.fence, hi.operation, hi.effect, hi.command, h.tenantQuota,
    h.subjectQuota, h.sandboxRow, h.workspaceRow, h.tenantRef, h.subjectRef, h.live, h.egress,
    h.workspaceID, h.sandboxID, h.homeRunnerID, hx.1, hx.2, hunique, DB.deletable]
  refine ⟨fun hmutation => ⟨fun hrestore => ⟨fun hclone => ⟨⟨⟨hmutation, hrestore⟩, hclone⟩, ?_⟩, ?_⟩, ?_⟩, ?_⟩
  · exact {
      snapshot := by simp [hx.1]
      others := fun id hne => Table.get_updateAt_of_ne _ _ hne
      operation := ⟨_, Table.get_insertNew_self _ _ hi.operation, rfl⟩
      effect := ⟨_, Table.get_insertNew_self _ _ hi.effect, rfl, rfl, rfl, rfl⟩
      command := ⟨_, Table.get_insertNew_self _ _ hi.command, h.homeRunnerID.symm, rfl⟩
      mutation := ⟨_, by rw [Table.get_updateAt_self, h.workspaceRow]; rfl, rfl, rfl⟩ }
  · exact fun hclone _ _ => hclone
  · intro hrestore _ hnone
    simp [hrestore] at hnone
  · exact fun hmutation hnone => absurd hnone hmutation

/-- The loop queues a deletable candidate; if there is none it changes nothing. -/
theorem queueFirst_spec (hd : d.Consistent) (hi : i.Fresh d) {candidates : List (ID × Snapshot)}
    (h : ∀ x ∈ candidates, d.snapshots.get x.1 = some x.2 ∧ x.2.state = .ready) :
    (∃ x ∈ candidates, d.deletable x = true ∧ ∃ d', queueFirst i candidates d = (.ok true, d') ∧
    Queued i x d d') ∨
    (∀ x ∈ candidates, d.deletable x = false) ∧ queueFirst i candidates d = (.ok false, d) := by
  induction candidates with
  | nil => exact .inr ⟨nofun, rfl⟩
  | cons x candidates ih =>
    obtain ⟨hx, h⟩ := List.forall_mem_cons.1 h
    have hwp := deleteSnapshot_wp hd hi hx
    simp only [wp] at hwp
    split at hwp
    · next d' hrun =>
      have hfirst : queueFirst i (x :: candidates) d = (.ok true, d') := by
        simp only [queueFirst, hrun]
      exact .inl ⟨x, List.mem_cons_self, hwp.1, d', hfirst, hwp.2⟩
    · next e hrun =>
      -- a Snapshot in use is passed over
      obtain ⟨hblocked, rfl⟩ := hwp
      have hnext : queueFirst i (x :: candidates) d = queueFirst i candidates d := by
        simp only [queueFirst, hrun]
      rw [hnext]
      obtain ⟨y, hy, hqueued⟩ | ⟨hnone, hfalse⟩ := ih h
      · exact .inl ⟨y, List.mem_cons_of_mem x hy, hqueued⟩
      · exact .inr ⟨List.forall_mem_cons.2 ⟨hblocked, hnone⟩, hfalse⟩

theorem of_mem_expired {now : Time} (h : x ∈ d.expired now) :
    d.snapshots.get x.1 = some x.2 ∧ x.2.state = .ready := by
  simp only [DB.expired, List.mem_insertionSort, List.mem_filter, Bool.and_eq_true, beq_iff_eq] at h
  exact ⟨Table.get_eq_some.2 h.1, h.2.1⟩

/-- If one of the first 32 expired Snapshots is deletable, a deletable one is queued; otherwise nothing changes. -/
theorem queueExpiredSnapshotDelete_progress (hd : d.Consistent) (hi : i.Fresh d) :
    ((∃ x ∈ (d.expired i.now).take 32, d.deletable x = true) → ∃ x ∈ (d.expired i.now).take 32,
      d.deletable x = true ∧ ∃ d', queueExpiredSnapshotDelete i d = (.ok true, d') ∧
        Queued i x d d') ∧
    ((∀ x ∈ (d.expired i.now).take 32, d.deletable x = false) → queueExpiredSnapshotDelete i d =
      (.ok false, d)) := by
  have hloop : queueExpiredSnapshotDelete i d = queueFirst i ((d.expired i.now).take 32) d := by
    simp [queueExpiredSnapshotDelete, hi.operationID, hi.effectID, hi.commandID,
      hi.requestID, hi.fence]
  rw [hloop]
  obtain ⟨x, hx, hdeletable, hqueued⟩ | ⟨hnone, hfalse⟩ :=
    queueFirst_spec hd hi fun x hx => of_mem_expired (List.mem_of_mem_take hx)
  · exact ⟨fun _ => ⟨x, hx, hdeletable, hqueued⟩, fun h => by simp [h x hx] at hdeletable⟩
  · exact ⟨fun ⟨x, hx, h⟩ => by simp [hnone x hx] at h, fun _ => hfalse⟩

end Retention

/-! ## A queue of blocked Snapshots -/

/-- Of the Snapshots `0, ..., n` all but the last are of a Workspace under a mutation. -/
def queue (n k : ℕ) : ID × Snapshot :=
  let owner := if k < n then "busy" else "free"
  (String.ofList (List.replicate k 's'), ⟨"t", "s", owner, owner, "r", "created", "",
    .ready, some k⟩)

theorem queue_nodup (n : ℕ) : (((List.range (n + 1)).map (queue n)).map Prod.fst).Nodup := by
  rw [List.map_map]
  refine List.nodup_range.map fun k k' h => ?_
  simpa [queue] using congrArg String.length h

/-- `n` expired Snapshots that cannot go yet, before one that can. -/
def blocked (n : ℕ) : DB where
  tenantQuotas := Table.empty.insertNew "t" ()
  subjectQuotas := Table.empty.insertNew ("t", "s") ()
  sandboxes :=
    let sandbox (id : ID) : Sandbox :=
      ⟨⟨id, "", none, .stopped, .stopped, 1, "", .none, "", "", 0, 0, 0, ""⟩, "t", "s"⟩
    (Table.empty.insertNew "busy" (sandbox "busy")).insertNew "free" (sandbox "free")
  workspaces :=
    (Table.empty.insertNew "busy" ⟨"busy", "r", .ready, 0, 1, { state := .queued }⟩).insertNew
    "free" ⟨"free", "r", .ready, 0, 1, {}⟩
  snapshots := ⟨(List.range (n + 1)).map (queue n), queue_nodup n⟩

/-- The input of a round. -/
def input : SnapshotRetentionInput := ⟨"o", "e", "c", "q", List.replicate 32 0, 100⟩

theorem blocked_consistent (n : ℕ) : (blocked n).Consistent := by
  intro id s hrow _
  obtain ⟨k, -, heq⟩ := List.mem_map.1 (Table.get_eq_some.1 hrow)
  obtain ⟨-, rfl⟩ := Prod.mk.inj heq
  by_cases hk : k < n
  · simp only [hk]
    exact ⟨_, _, rfl, rfl, rfl, rfl, rfl, rfl, by decide, rfl, rfl, rfl, rfl⟩
  · simp only [hk]
    exact ⟨_, _, rfl, rfl, rfl, rfl, rfl, rfl, by decide, rfl, rfl, rfl, rfl⟩

theorem input_fresh (n : ℕ) : input.Fresh (blocked n) := by
  refine ⟨by decide, by decide, by decide, by decide, by decide, rfl, fun id s hrow => ?_, rfl, rfl⟩
  obtain ⟨k, -, heq⟩ := List.mem_map.1 (Table.get_eq_some.1 hrow)
  obtain ⟨-, rfl⟩ := Prod.mk.inj heq
  exact show "created" ≠ "o" by decide

/-- The 33rd expired Snapshot is deletable, and is not reached. -/
theorem queueExpiredSnapshotDelete_stalls :
    (blocked 32).Consistent ∧ input.Fresh (blocked 32) ∧
      (∃ x ∈ (blocked 32).expired input.now, (blocked 32).deletable x = true) ∧
      (queueExpiredSnapshotDelete input (blocked 32)).1 = .ok false :=
  ⟨blocked_consistent 32, input_fresh 32, by decide +kernel, by decide +kernel⟩

theorem queueExpiredSnapshotDelete_behind_31 :
    ∃ d', queueExpiredSnapshotDelete input (blocked 31) = (.ok true, d') := by
  obtain ⟨x, -, -, d', h, -⟩ :=
    (queueExpiredSnapshotDelete_progress (blocked_consistent 31) (input_fresh 31)).1
      (by decide +kernel)
  exact ⟨d', h⟩

end SecondBox.Snapshots

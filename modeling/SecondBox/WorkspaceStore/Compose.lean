/-
  What each operation is made of.

  A property that composes holds of an operation as soon as it holds of the
  steps of the operation that change the disk, whichever branch is taken.  The
  frame of an operation, the removals and the invariants of the tree are such
  properties.
-/
import SecondBox.WorkspaceStore.Store

namespace SecondBox.WorkspaceStore

open Crash Crash.Prog

/-- A property of the programs of the store that composes. -/
abbrev Composes (Φ : (α : Type) → Op α → Prop) : Prop := Compositional Φ

namespace Composes
variable {Φ : (α : Type) → Op α → Prop} (h : Composes Φ) {w op : ID} {env : Env}
include h

theorem sync : Φ _ sync := h.idle _

theorem requireDir (p : Dir) : Φ _ (requireDir p) := h.bind (h.asking _) fun _ => h.require _ _

theorem syncDir (p : Dir) : Φ _ (syncDir p) := h.bind (h.requireDir p) fun _ => h.sync

theorem removeDir {p : Dir} (hp : Φ _ (removePresentDir p)) : Φ _ (removeDir p) := by
  refine h.bind (h.asking _) fun present => ?_
  cases present
  · exact h.ret _
  · exact hp

theorem cloneImage {source final : ImageFile} {dir : Dir} {mode : Nat} {capacity : Int}
    {uuid : Option FsUUID} (hp : ∀ i, Φ _ (publishClone dir final mode op uuid i)) :
    Φ _ (cloneImage source dir final mode capacity op uuid) := by
  refine h.bind (h.asking _) fun found => ?_
  cases found with
  | some _ => exact h.require_bind fun _ => h.reading _
  | none =>
    refine h.bind (h.asking _) fun found => ?_
    cases found with
    | none => exact h.fail _
    | some i => exact h.bind (hp i) fun _ => h.reading _

theorem lockWorkspace (env : Env) (w : ID) : Φ _ (lockWorkspace env w) :=
  h.reading_bind fun _ => h.require _ _

theorem replay (request : Json) (m : Mutation) (kind : ReceiptKind) : Φ _ (replay request m kind) :=
  h.reading_bind fun _ => h.reading_bind fun _ => h.reading _

theorem mutate {request : Json} {m : Mutation} {kind : ReceiptKind} {apply : Op Receipt}
    (ha : Φ _ apply) (hr : ∀ r : Receipt, r.workspaceID = m.workspaceID →
      r.operationID = m.operationID → r.kind = kind →
      Φ _ (recordReceipt env r)) : Φ _ (mutate env request m kind apply) := by
  refine h.reading_bind fun _ => h.reading_bind fun _ => h.reading_bind fun found => ?_
  cases found with
  | some _ => exact h.ret _
  | none =>
    refine h.bind (h.lockWorkspace env _) fun _ => h.reading_bind fun found => ?_
    cases found with
    | some _ => exact h.ret _
    | none => exact h.bind ha fun _ => hr _ rfl rfl rfl

/-! ## The operations -/

theorem create {r : CreateWorkspaceRequest}
    (hm : Φ _ (WorkspaceStore.mutate env r.json r.toMutation .workspaceCreate (createApply r))) :
    Φ _ (create env r) := by
  refine h.bind (h.require_bind fun _ => h.replay _ _ _) fun found => ?_
  cases found with
  | some _ => exact h.ret _
  | none => exact hm

theorem cloneFromSnapshot {r : CloneWorkspaceRequest}
    (hm : Φ _ (WorkspaceStore.mutate env r.json r.toMutation .workspaceClone (cloneApply r))) :
    Φ _ (cloneFromSnapshot env r) := by
  refine h.bind (h.require_bind fun _ => h.reading_bind fun _ => h.replay _ _ _) fun found => ?_
  cases found with
  | some _ => exact h.ret _
  | none => exact hm

theorem openWorkspace (env : Env) (w : ID) (g : UInt64) : Φ _ (openWorkspace env w g) :=
  h.reading_bind fun _ => h.bind (h.lockWorkspace env w) fun _ => h.reading_bind fun _ =>
    h.require_bind fun _ => h.require_bind fun _ => h.bind (h.asking _) fun _ =>
      h.require_bind fun _ => h.reading_bind fun _ => h.ret _

theorem reclaimFreeBlocks (w : ID) (m : CurrentManifest) : Φ _ (reclaimFreeBlocks w m) := by
  unfold WorkspaceStore.reclaimFreeBlocks
  split
  · exact h.ret _
  · refine h.bind (h.asking _) fun found => ?_
    cases found with
    | none => exact h.fail _
    | some i => exact h.require_bind fun _ => h.sync

theorem createSnapshotApply {r : CreateSnapshotRequest} (hd : Φ _ (mkdir (.snapshot r.snapshotID)))
    (hc : ∀ {source mode capacity}, Φ _ (WorkspaceStore.cloneImage source (.snapshot r.snapshotID)
      (.snapshot r.snapshotID) mode capacity r.operationID none))
    (hj : ∀ s, Φ _ (atomicJSON (.snapshot r.snapshotID) (Disk.setSnapshot r.snapshotID s))) :
    Φ _ (createSnapshotApply r) := by
  refine h.reading_bind fun m => h.require_bind fun _ => h.bind (h.asking _) fun _ =>
    h.require_bind fun _ => h.bind (h.asking _) fun found => ?_
  split
  · exact h.require_bind fun _ => h.reading_bind fun _ => h.ret _
  · exact h.bind hd fun _ => h.bind hc fun _ => h.bind (hj _) fun _ => h.bind (h.syncDir _) fun _ =>
      h.bind h.sync fun _ => h.ret _
  · exact h.fail _

theorem deleteSnapshotApply {r : DeleteSnapshotRequest}
    (hi : Φ _ (removeExactFile (.image (.snapshot r.snapshotID))))
    (hs : Φ _ (removeExactFile (.record (.snapshot r.snapshotID))))
    (hd : Φ _ (removePresentDir (.snapshot r.snapshotID))) :
    Φ _ (deleteSnapshotApply r) := by
  refine h.bind (h.asking _) fun found => ?_
  split
  · exact h.ret _
  · exact h.fail _
  · exact h.require_bind fun _ => h.reading_bind fun _ => h.require_bind fun _ =>
      h.bind h.sync fun _ => h.bind hi fun _ => h.bind hs fun _ => h.bind (h.removeDir hd) fun _ =>
        h.bind h.sync fun _ => h.ret _

theorem prepareRestoreApply {r : PrepareRestoreRequest}
    (hc : ∀ {source mode capacity}, Φ _ (WorkspaceStore.cloneImage source (.part r.workspaceID .staged)
      (.staged r.workspaceID r.operationID) mode capacity r.operationID none))
    (hj : ∀ s, Φ _ (atomicJSON (.staged r.workspaceID r.operationID)
    (Disk.setStaged r.workspaceID r.operationID s))) :
    Φ _ (prepareRestoreApply r) := by
  refine h.reading_bind fun m => h.require_bind fun _ => h.reading_bind fun _ =>
    h.require_bind fun _ => h.bind (h.asking _) fun found => ?_
  split
  · exact h.fail _
  · exact h.fail _
  · refine h.reading_bind fun _ => h.require_bind fun _ => h.bind (h.asking _) fun found => ?_
    split
    · exact h.require_bind fun _ => h.reading_bind fun _ => h.ret _
    · exact h.bind hc fun _ => h.bind (hj _) fun _ => h.bind (h.syncDir _) fun _ => h.ret _
    · exact h.fail _

theorem publishRestoreVersion {image : ImageName}
    (hm : ∀ i, Φ _ (sys .io fun d => (d.removeImage (.staged w op)).setImage (.version w image) i)) :
    Φ _ (publishRestoreVersion w op image) := by
  refine h.bind (h.asking _) fun found => ?_
  cases found with
  | some _ => exact h.ret _
  | none =>
    refine h.bind (h.asking _) fun found => ?_
    cases found with
    | none => exact h.fail _
    | some i =>
      exact h.bind (h.requireDir _) fun _ => h.bind (hm i) fun _ => h.bind (h.syncDir _) fun _ =>
        h.syncDir _

theorem swapRestoreApply {r : SwapRestoreRequest}
    (hv : ∀ image, Φ _ (WorkspaceStore.publishRestoreVersion r.workspaceID r.operationID image))
    (hj : ∀ rb, Φ _ (atomicJSON (.rollback r.workspaceID r.operationID)
    (Disk.setRollback r.workspaceID r.operationID rb)))
    (hm : ∀ m, Φ _ (publishCurrentManifest r.workspaceID m)) : Φ _ (swapRestoreApply r) := by
  refine h.bind (h.asking _) fun found => ?_
  split
  · exact h.fail _
  · refine h.require_bind fun _ => h.reading_bind fun m => ?_
    split
    · refine h.bind (h.asking _) fun found => ?_
      split
      · exact h.fail _
      · exact h.ret _
    · exact h.require_bind fun _ => h.bind (hv _) fun _ => h.reading_bind fun _ =>
        h.bind (hj _) fun _ => h.bind (h.syncDir _) fun _ => h.bind (hm _) fun _ => h.ret _

theorem finalizeRestoreApply {m : RestoreMutation}
    (hv : ∀ image, Φ _ (removeExactFile (.image (.version m.workspaceID image))))
    (hi : Φ _ (removeExactFile (.image (.staged m.workspaceID m.operationID))))
    (hs : Φ _ (removeExactFile (.record (.staged m.workspaceID m.operationID))))
    (hr : Φ _ (removeExactFile (.record (.rollback m.workspaceID m.operationID)))) :
    Φ _ (finalizeRestoreApply m) := by
  refine h.bind (h.asking _) fun found => ?_
  split
  · refine h.reading_bind fun found => ?_
    cases found with
    | none => exact h.fail _
    | some r => exact h.ret _
  · exact h.fail _
  · exact h.reading_bind fun _ => h.require_bind fun _ => h.require_bind fun _ =>
      h.bind (hv _) fun _ => h.bind hi fun _ => h.bind hs fun _ => h.bind hr fun _ =>
        h.bind (h.syncDir _) fun _ =>
        h.bind (h.syncDir _) fun _ => h.bind (h.syncDir _) fun _ => h.ret _

theorem abortRestoreApply {m : RestoreMutation}
    (hi : Φ _ (removeExactFile (.image (.staged m.workspaceID m.operationID))))
    (hs : Φ _ (removeExactFile (.record (.staged m.workspaceID m.operationID)))) :
    Φ _ (abortRestoreApply m) := by
  refine h.bind (h.asking _) fun found => ?_
  split
  · exact h.fail _
  · refine h.bind (h.asking _) fun found => ?_
    split
    · exact h.ret _
    · exact h.fail _
    · exact h.bind hi fun _ => h.bind hs fun _ => h.bind (h.syncDir _) fun _ => h.ret _
  · exact h.fail _

/-! ## Removing a Workspace -/

theorem deleteWorkspaceSnapshots (w : ID) (hi : ∀ s, Φ _ (removeExactFile (.image (.snapshot s))))
    (hs : ∀ s, Φ _ (removeExactFile (.record (.snapshot s))))
    (hd : ∀ s, Φ _ (removePresentDir (.snapshot s))) :
    Φ _ (deleteWorkspaceSnapshots w) := by
  refine h.bind (h.asking _) fun entries => h.bind (h.forEach fun s _ => ?_) fun _ => h.sync
  refine h.require_bind fun _ => h.reading_bind fun m => ?_
  split
  · exact h.ret _
  · exact h.bind h.sync fun _ => h.bind (hi s) fun _ => h.bind (hs s) fun _ => hd s

theorem removeWorkspacePart {part : Part}
    (hf : ∀ d : Disk, ∀ f ∈ d.readDir (.part w part), Φ _ (removeExactFile f))
    (hd : Φ _ (removePresentDir (.part w part))) : Φ _ (removeWorkspacePart w part) := by
  refine h.bind (h.asking _) fun present => ?_
  cases present
  · exact h.ret _
  · exact h.asking_bind fun d => h.bind (h.forEach (hf d)) fun _ => h.removeDir hd

theorem removeWorkspaceTree (hp : ∀ part, Φ _ (WorkspaceStore.removeWorkspacePart w part))
    (hd : Φ _ (removePresentDir (.workspace w))) : Φ _ (removeWorkspaceTree w) :=
  h.bind (hp _) fun _ => h.bind (hp _) fun _ => h.bind (hp _) fun _ => h.bind (hp _) fun _ =>
    h.removeDir hd

theorem deleteWorkspaceReceipts
    (hf : ∀ d : Disk, ∀ e ∈ d.receiptFiles w, Φ _ (removeExactFile e.2)) :
    Φ _ (deleteWorkspaceReceipts w) := by
  refine h.reading_bind fun _ => h.asking_bind fun d => h.bind (h.forEach fun e he => ?_) fun _ =>
    h.sync
  refine h.require_bind fun _ => ?_
  split
  · exact h.fail _
  · exact hf d e he

theorem deleteWorkspaceApply {r : DeleteWorkspaceRequest}
    (hs : Φ _ (WorkspaceStore.deleteWorkspaceSnapshots r.workspaceID))
    (ht : Φ _ (WorkspaceStore.removeWorkspaceTree r.workspaceID))
    (hr : Φ _ (WorkspaceStore.deleteWorkspaceReceipts r.workspaceID)) :
    Φ _ (deleteWorkspaceApply r) := by
  refine h.bind (h.asking _) fun found => ?_
  split
  · refine h.bind (h.asking _) fun present => ?_
    cases present
    · exact h.bind hr fun _ => h.ret _
    · exact h.bind hs fun _ => h.bind ht fun _ => h.bind h.sync fun _ => h.bind hr fun _ => h.ret _
  · exact h.fail _
  · exact h.require_bind fun _ => h.reading_bind fun _ => h.require_bind fun _ =>
      h.bind hs fun _ => h.bind ht fun _ => h.bind h.sync fun _ => h.bind hr fun _ => h.ret _

/-! ## Relocation -/

theorem openRelocationExport {r : RelocationExportRequest}
    (hm : Φ _ (WorkspaceStore.mutate env r.json r.toMutation .relocationExport (exportApply r))) :
    Φ _ (openRelocationExport env r) :=
  h.bind hm fun _ => h.bind (h.lockWorkspace env _) fun _ => h.reading_bind fun _ =>
    h.require_bind fun _ => h.reading_bind fun _ => h.ret _

theorem beginRelocationImport {r : RelocationImportRequest}
    (ht : Φ _ (WorkspaceStore.removeWorkspaceTree r.workspaceID)) (hs : Φ _ (stageImport r)) :
    Φ _ (beginRelocationImport env r) := by
  refine h.require_bind fun _ => h.reading_bind fun _ => h.reading_bind fun _ =>
    h.reading_bind fun found => ?_
  cases found with
  | some _ => exact h.reading_bind fun _ => h.ret _
  | none =>
    refine h.bind (h.lockWorkspace env _) fun _ => h.bind (h.asking _) fun found => ?_
    split
    · exact h.require_bind fun _ => h.bind ht fun _ => h.bind hs fun _ => h.ret _
    · exact h.bind hs fun _ => h.ret _
    · exact h.fail _

variable {i : RelocationImport}

theorem writeChunk (hs : ∀ image, Φ _ (sys .io (Disk.setImage i.request.staging image)))
    (offset : Nat) (c : Chunk) :
    Φ _ (writeChunk i offset c) := by
  refine h.require_bind fun _ => h.require_bind fun _ => h.bind (h.asking _) fun found => ?_
  cases found with
  | none => exact h.fail _
  | some _ => exact h.bind (hs _) fun _ => h.ret _

theorem complete (hp : Φ _ (publishImport env i)) (hc : Φ _ (cleanupStaging i)) (size : Nat)
    (checksum : Checksum) :
    Φ _ (complete env i size checksum) := by
  unfold WorkspaceStore.complete
  split
  · exact h.ret _
  split
  · exact h.ret _
  split
  · exact h.ret _
  refine h.bind (h.attempt h.sync) fun synced => ?_
  split
  · exact h.ret _
  refine h.bind (h.asking _) fun checked => ?_
  split
  · exact h.ret _
  refine h.bind (h.attempt hp) fun published => ?_
  split
  · exact h.ret _
  · exact h.bind (h.attempt hc) fun _ => h.ret _

theorem abort (ht : Φ _ (WorkspaceStore.removeWorkspaceTree i.request.workspaceID))
    (hc : Φ _ (cleanupStaging i)) :
    Φ _ (abort i) := by
  unfold WorkspaceStore.abort
  split
  · exact h.ret _
  refine h.bind (h.attempt ?_) fun _ => h.bind (h.attempt hc) fun _ => h.ret _
  split
  · exact h.bind ht fun _ => h.sync
  · exact h.ret _

end Composes

theorem keeping {P : Disk → Prop} : Composes fun _ p => p.Keeps P := Keeps.compositional P

end SecondBox.WorkspaceStore

/-
  What the readers of the store tell: each read succeeds exactly on a record that
  is present and well formed, and the scans for pending restores see exactly the
  staged and rollback records of the Workspace.
-/
import SecondBox.WorkspaceStore.Disk

namespace SecondBox.WorkspaceStore

variable {d : Disk} {w op : ID}

/-! ## Records -/

/-- What `readCurrentManifest` checks. -/
def CurrentManifest.Readable (m : CurrentManifest) (w : ID) : Prop :=
  m.formatVersion = currentManifestFormatVersion ∧ m.workspaceID = w ∧ 1 ≤ m.generation ∧
    legacyMinimumExt4Bytes ≤ m.capacityBytes

/-- `readStagedRestore` accepts it. -/
def StagedRestore.Readable (s : StagedRestore) (w op : ID) : Prop :=
  s.formatVersion = currentManifestFormatVersion ∧ s.workspaceID = w ∧ s.operationID = op ∧
    validID s.snapshotID = true ∧ s.nextGeneration = s.expectedGeneration + 1 ∧
    legacyMinimumExt4Bytes ≤ s.capacityBytes

/-- `readRollback` accepts it. -/
def RollbackManifest.Readable (r : RollbackManifest) (w op : ID) : Prop :=
  r.formatVersion = currentManifestFormatVersion ∧ r.workspaceID = w ∧ r.operationID = op ∧
    r.nextGeneration = r.previousGeneration + 1 ∧ legacyMinimumExt4Bytes ≤ r.capacityBytes

theorem checked_eq_ok {α : Type} {bad : Prop} [Decidable bad] {e : StoreErr} {x a : α} :
    (if bad then .error e else .ok x : Except StoreErr α) = .ok a ↔ x = a ∧ ¬ bad := by
  by_cases h : bad <;> simp [h]

theorem readCurrentManifest_iff {m : CurrentManifest} :
    readCurrentManifest w d = .ok m ↔ d.manifests.lookup w = some m ∧ m.Readable w := by
  unfold readCurrentManifest
  cases d.manifests.lookup w with
  | none => simp
  | some found =>
    rw [checked_eq_ok, Option.some.injEq]
    refine and_congr_right ?_
    rintro rfl
    simp only [CurrentManifest.Readable, not_or, not_not, UInt64.not_lt, Int.not_lt]

theorem readStagedRestore_iff {s : StagedRestore} :
    readStagedRestore w op d = .ok s ↔ d.staged.lookup (w, op) = some s ∧ s.Readable w op := by
  unfold readStagedRestore
  cases d.staged.lookup (w, op) with
  | none => simp
  | some found =>
    rw [checked_eq_ok, Option.some.injEq]
    refine and_congr_right ?_
    rintro rfl
    simp only [StagedRestore.Readable, not_or, not_not, Int.not_lt]

theorem readRollback_iff {r : RollbackManifest} :
    readRollback w op d = .ok r ↔ d.rollbacks.lookup (w, op) = some r ∧ r.Readable w op := by
  unfold readRollback
  cases d.rollbacks.lookup (w, op) with
  | none => simp
  | some found =>
    rw [checked_eq_ok, Option.some.injEq]
    refine and_congr_right ?_
    rintro rfl
    simp only [RollbackManifest.Readable, not_or, not_not, Int.not_lt]

theorem readStagedRestore_notExist : readStagedRestore w op d = .error .notExist ↔
    d.staged.lookup (w, op) = none := by
  unfold readStagedRestore
  cases d.staged.lookup (w, op) with
  | none => simp
  | some m => simp only [reduceCtorEq, iff_false]; split <;> simp

theorem readRollback_notExist : readRollback w op d = .error .notExist ↔
    d.rollbacks.lookup (w, op) = none := by
  unfold readRollback
  cases d.rollbacks.lookup (w, op) with
  | none => simp
  | some m => simp only [reduceCtorEq, iff_false]; split <;> simp

/-! ## Images -/

theorem validateExt4Image_iff {f : ImageFile} {capacity : Int} :
    validateExt4Image f capacity d = .ok () ↔ ∃ i, d.images.lookup f = some i ∧ i.size = capacity ∧
      i.ext4 = true := by
  unfold validateExt4Image
  cases d.images.lookup f with
  | none => simp
  | some i =>
    simp only [Option.some.injEq, exists_eq_left']
    split
    · rename_i h; simp [h]
    · rename_i h
      split
      · rename_i h'; simp [h']
      · rename_i h'; simp only [true_iff]; exact ⟨not_not.1 h, by simpa using h'⟩

theorem validateExt4ImageUUID_iff {f : ImageFile} {capacity : Int} {u : FsUUID} :
    validateExt4ImageUUID f capacity u d = .ok () ↔
      ∃ i, d.images.lookup f = some i ∧ i.size = capacity ∧ i.ext4 = true ∧ i.uuid = u := by
  unfold validateExt4ImageUUID
  cases hv : validateExt4Image f capacity d with
  | error e =>
    simp only [reduceCtorEq, false_iff, not_exists, not_and]
    intro i hi hs he
    rw [validateExt4Image_iff.2 ⟨i, hi, hs, he⟩] at hv
    cases hv
  | ok _ =>
    obtain ⟨i, hi, hs, he⟩ := validateExt4Image_iff.1 hv
    rw [hi]
    simp only [Option.some.injEq, exists_eq_left']
    split
    · rename_i h; simp [h]
    · rename_i h; simp [not_not.1 h, hs, he]

/-! ## Pending restores -/

/-- The operations of `w` in a table, in any order. -/
theorem mem_operations {V : Type} {t : Table (ID × ID) V} {r : ID → ID → Prop} [DecidableRel r] :
    op ∈ (t.keys.filterMap fun k => if k.1 = w then some k.2 else none).insertionSort r ↔
      (t.lookup (w, op)).isSome := by
  simp only [List.mem_insertionSort, List.mem_filterMap, AList.lookup_isSome, AList.mem_keys]
  constructor
  · rintro ⟨⟨v, op'⟩, hk, hw⟩
    split at hw
    · rename_i hv
      cases hw
      exact hv ▸ hk
    · cases hw
  · exact fun h => ⟨(w, op), h, by simp⟩

theorem mem_stagedOperations : op ∈ d.stagedOperations w ↔ (d.staged.lookup (w, op)).isSome :=
  mem_operations

theorem mem_rollbackOperations :
    op ∈ d.rollbackOperations w ↔ (d.rollbacks.lookup (w, op)).isSome :=
  mem_operations

theorem stagedRestorePending_eq_false : stagedRestorePending w d = false ↔
    ∀ op, d.staged.lookup (w, op) = none := by
  have h : stagedRestorePending w d = false ↔ d.stagedOperations w = [] := by
    simp [stagedRestorePending]
  rw [h, List.eq_nil_iff_forall_not_mem]
  exact forall_congr' fun op => by rw [mem_stagedOperations]; simp

/-- The restore scan finds nothing exactly when there is no record. -/
theorem pendingRestoreOperation_none :
    pendingRestoreOperation w d = .ok none ↔
      (∀ op, d.staged.lookup (w, op) = none) ∧ ∀ op, d.rollbacks.lookup (w, op) = none := by
  have hs : (∀ op, d.staged.lookup (w, op) = none) ↔ d.stagedOperations w = [] := by
    rw [List.eq_nil_iff_forall_not_mem]
    exact forall_congr' fun op => by rw [mem_stagedOperations]; simp
  have hr : (∀ op, d.rollbacks.lookup (w, op) = none) ↔ d.rollbackOperations w = [] := by
    rw [List.eq_nil_iff_forall_not_mem]
    exact forall_congr' fun op => by rw [mem_rollbackOperations]; simp
  rw [hs, hr, ← List.append_eq_nil_iff, pendingRestoreOperation]
  cases d.stagedOperations w ++ d.rollbackOperations w with
  | nil => simp
  | cons op ops =>
    simp only [List.head?_cons, reduceCtorEq, iff_false]
    split <;> simp

theorem restorePending_eq_false :
    restorePending w d = .ok false ↔
      (∀ op, d.staged.lookup (w, op) = none) ∧ ∀ op, d.rollbacks.lookup (w, op) = none := by
  rw [← pendingRestoreOperation_none, restorePending]
  cases pendingRestoreOperation w d with
  | error e => simp [Except.map]
  | ok found => cases found <;> simp [Except.map]

theorem pendingRestoreOperation_single (h : ∀ op', (d.staged.lookup (w, op')).isSome ↔ op' = op)
    (hv : validID op = true) : pendingRestoreOperation w d = .ok (some op) := by
  have hmem : ∀ op', op' ∈ d.stagedOperations w ↔ op' = op :=
    fun op' => mem_stagedOperations.trans (h op')
  unfold pendingRestoreOperation
  cases hs : d.stagedOperations w with
  | nil => exact absurd ((hmem op).2 rfl) (by simp [hs])
  | cons o os =>
    have ho : o = op := (hmem o).1 (by simp [hs])
    simp [ho, hv]

/-- An operation the scan reports has a record, and staged records come first. -/
theorem pendingRestoreOperation_some (h : pendingRestoreOperation w d = .ok (some op)) :
    (d.staged.lookup (w, op)).isSome ∨
      (∀ op, d.staged.lookup (w, op) = none) ∧ (d.rollbacks.lookup (w, op)).isSome := by
  unfold pendingRestoreOperation at h
  split at h
  · cases h
  · rename_i op' hop
    split at h
    · cases h
      cases hs : d.stagedOperations w with
      | cons o os =>
        rw [hs] at hop
        simp only [List.cons_append, List.head?_cons, Option.some.injEq] at hop
        left
        rw [← mem_stagedOperations, hs, hop]
        exact List.mem_cons_self
      | nil =>
        rw [hs] at hop
        right
        refine ⟨stagedRestorePending_eq_false.1 (by simp [stagedRestorePending, hs]), ?_⟩
        rw [← mem_rollbackOperations]
        exact List.mem_of_mem_head? (by simpa using hop)
    · cases h

end SecondBox.WorkspaceStore

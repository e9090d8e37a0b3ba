/-
  What each operation can touch: the frame of every program of the store.

  `Within S I D d d'` says that only the records of `S`, the images of `I` and
  the directories of `D` differ between `d` and `d'`, and that temporary files
  appear only beside those.  Each operation stays within what belongs to its own
  Workspace and operation, on every branch and at every step.
-/
import SecondBox.WorkspaceStore.Compose

namespace SecondBox.WorkspaceStore

open Crash Crash.Prog

/-- The record at a path is the same on both disks. -/
def SameRecord (d d' : Disk) : Record → Prop
  | .current w => d'.manifests.lookup w = d.manifests.lookup w
  | .snapshot s => d'.snapshots.lookup s = d.snapshots.lookup s
  | .staged w op => d'.staged.lookup (w, op) = d.staged.lookup (w, op)
  | .rollback w op => d'.rollbacks.lookup (w, op) = d.rollbacks.lookup (w, op)
  | .receipt w op k => d'.receipts.lookup (w, op, k) = d.receipts.lookup (w, op, k)

/-- The temporary files made while publishing a record of `S` or an image of `I`. -/
def Temp.Beside (S : Record → Prop) (I : ImageFile → Prop) : Temp → Prop
  | .json target _ => S target
  | .reflinking dir _ => ∃ f, I f ∧ f.dir = some dir
  | .formatting capacity => I (.template capacity)

/-- Only what is in `S`, `I` and `D` differs. -/
structure Within (S : Record → Prop) (I : ImageFile → Prop) (D : Dir → Prop) (d d' : Disk) :
    Prop where
  records : ∀ r, ¬ S r → SameRecord d d' r
  images : ∀ f, ¬ I f → d'.images.lookup f = d.images.lookup f
  dirs : ∀ p, ¬ D p → (p ∈ d'.dirs ↔ p ∈ d.dirs)
  temps : ∀ t, t ∈ d'.temps → t ∈ d.temps ∨ t.Beside S I

variable {S : Record → Prop} {I : ImageFile → Prop} {D : Dir → Prop} {d d' d'' : Disk}

theorem SameRecord.refl (d : Disk) (r : Record) : SameRecord d d r := by cases r <;> rfl

variable {r : Record}

theorem SameRecord.trans (h : SameRecord d d' r) (h' : SameRecord d' d'' r) :
    SameRecord d d'' r := by
  cases r <;> exact Eq.trans h' h

theorem Within.refl (d : Disk) : Within S I D d d :=
  ⟨fun r _ => .refl d r, fun _ _ => rfl, fun _ _ => .rfl, fun _ => .inl⟩

theorem Within.trans (h : Within S I D d d') (h' : Within S I D d' d'') : Within S I D d d'' :=
  ⟨fun r hr => (h.records r hr).trans (h'.records r hr),
    fun f hf => (h'.images f hf).trans (h.images f hf),
    fun p hp => (h'.dirs p hp).trans (h.dirs p hp),
    fun t ht => (h'.temps t ht).elim (h.temps t) .inr⟩

theorem Within.of_chain (h : Relation.ReflTransGen (Within S I D) d d') : Within S I D d d' := by
  induction h with
  | refl => exact .refl d
  | tail _ hs ih => exact ih.trans hs

/-! ## Single steps -/

variable {p : Dir}

theorem within_addDir (h : D p) : Within S I D d (d.addDir p) := by
  refine ⟨fun r _ => .refl d r, fun _ _ => rfl, fun q hq => ?_, fun _ => .inl⟩
  have hne : q ≠ p := fun e => hq (e ▸ h)
  simp [Disk.addDir, hne]

theorem within_removeDir (h : D p) : Within S I D d (d.removeDir p) := by
  refine ⟨fun r _ => .refl d r, fun _ _ => rfl, fun q hq => ?_, fun _ => .inl⟩
  have hne : q ≠ p := fun e => hq (e ▸ h)
  simp [Disk.removeDir, hne]

theorem within_addTemp {t : Temp} (h : t.Beside S I) : Within S I D d (d.addTemp t) :=
  ⟨fun r _ => .refl d r, fun _ _ => rfl, fun _ _ => .rfl, fun _ hu =>
    (List.mem_insert_iff.1 hu).elim (fun e => .inr (e ▸ h)) .inl⟩

theorem within_removeTemp (t : Temp) : Within S I D d (d.removeTemp t) :=
  ⟨fun r _ => .refl d r, fun _ _ => rfl, fun _ _ => .rfl, fun _ hu => .inl (List.mem_filter.1 hu).1⟩

variable {f : ImageFile}

theorem within_setImage (h : I f) (i : Image) : Within S I D d (d.setImage f i) :=
  ⟨fun r _ => .refl d r, fun _ hg => AList.lookup_insert_ne fun e => hg (e ▸ h),
    fun _ _ => .rfl, fun _ => .inl⟩

theorem within_removeImage (h : I f) : Within S I D d (d.removeImage f) :=
  ⟨fun r _ => .refl d r, fun _ hg => AList.lookup_erase_ne fun e => hg (e ▸ h),
    fun _ _ => .rfl, fun _ => .inl⟩

variable {w : ID}

theorem within_setManifest (h : S (.current w)) (m : CurrentManifest) :
    Within S I D d (d.setManifest w m) := by
  refine ⟨fun r hr => ?_, fun _ _ => rfl, fun _ _ => .rfl, fun _ => .inl⟩
  cases r with
  | current v => exact AList.lookup_insert_ne fun e => hr (e ▸ h)
  | _ => rfl

theorem within_setSnapshot {s : ID} (h : S (.snapshot s)) (m : SnapshotManifest) :
    Within S I D d (d.setSnapshot s m) := by
  refine ⟨fun r hr => ?_, fun _ _ => rfl, fun _ _ => .rfl, fun _ => .inl⟩
  cases r with
  | snapshot v => exact AList.lookup_insert_ne fun e => hr (e ▸ h)
  | _ => rfl

variable {op : ID}

theorem within_setStaged (h : S (.staged w op)) (m : StagedRestore) :
    Within S I D d (d.setStaged w op m) := by
  refine ⟨fun r hr => ?_, fun _ _ => rfl, fun _ _ => .rfl, fun _ => .inl⟩
  cases r with
  | staged v o => exact AList.lookup_insert_ne fun e => hr (by cases e; exact h)
  | _ => rfl

theorem within_setRollback (h : S (.rollback w op)) (m : RollbackManifest) :
    Within S I D d (d.setRollback w op m) := by
  refine ⟨fun r hr => ?_, fun _ _ => rfl, fun _ _ => .rfl, fun _ => .inl⟩
  cases r with
  | rollback v o => exact AList.lookup_insert_ne fun e => hr (by cases e; exact h)
  | _ => rfl

theorem within_setReceipt {k : ReceiptKind} (h : S (.receipt w op k)) (m : Receipt) :
    Within S I D d (d.setReceipt w op k m) := by
  refine ⟨fun r hr => ?_, fun _ _ => rfl, fun _ _ => .rfl, fun _ => .inl⟩
  cases r with
  | receipt v o l => exact AList.lookup_insert_ne fun e => hr (by cases e; exact h)
  | _ => rfl

theorem within_removeRecord (h : S r) : Within S I D d (d.removeRecord r) := by
  cases r <;> refine ⟨fun q hq => ?_, fun _ _ => rfl, fun _ _ => .rfl, fun _ => .inl⟩ <;>
    cases q <;>
    first
    | rfl
    | exact AList.lookup_erase_ne fun e => hq (by cases e; exact h)

theorem within_removeFile {f : File} (hr : ∀ r, f = .record r → S r)
    (hi : ∀ g, f = .image g → I g) :
    Within S I D d (d.removeFile f) := by
  cases f with
  | record r => exact within_removeRecord (hr r rfl)
  | image g => exact within_removeImage (hi g rfl)
  | temp t => exact within_removeTemp t

/-! ## The filesystem calls -/

/-- `p` touches only the records of `S`, the images of `I` and the directories of `D`. -/
abbrev Touches (S : Record → Prop) (I : ImageFile → Prop) (D : Dir → Prop) {α : Type} (p : Op α) :
    Prop :=
  p.Moves (Within S I D)

namespace Touches
variable {α : Type}

theorem composes : Composes fun _ p => Touches S I D p := Moves.compositional Within.refl

theorem sync : Touches S I D sync := composes.sync

theorem mkdir (h : D p) : Touches S I D (mkdir p) := .sys fun _ => within_addDir h

theorem removePresentDir (h : D p) : Touches S I D (removePresentDir p) :=
  .bind (.asking _) fun _ => .bind (.require _ _) fun _ => .sys fun _ => within_removeDir h

theorem removeExactFile {f : File} (hr : ∀ r, f = .record r → S r) (hi : ∀ g, f = .image g → I g) :
    Touches S I D (removeExactFile f) :=
  .sys fun _ => within_removeFile hr hi

theorem removeRecord (h : S r) : Touches S I D (WorkspaceStore.removeExactFile (.record r)) :=
  .sys fun _ => within_removeRecord h

theorem removeImage (h : I f) : Touches S I D (WorkspaceStore.removeExactFile (.image f)) :=
  .sys fun _ => within_removeImage h

theorem requireRecordDir (target : Record) : Touches S I D (requireRecordDir target) := by
  unfold WorkspaceStore.requireRecordDir
  split
  · trivial
  · exact composes.requireDir _

/-- Publishing a record touches what renaming it into place touches. -/
theorem atomicJSON {target : Record} {publish : Disk → Disk} (ht : S target)
    (h : ∀ d, Within S I D d (publish d)) : Touches S I D (atomicJSON target publish) :=
  .bind (requireRecordDir _) fun _ => .bind (.asking _) fun _ =>
    .bind (.sys fun _ => within_addTemp ht) fun _ =>
      .bind (composes.onError (.bind sync fun _ => .sys fun _ => (within_removeTemp _).trans (h _))
        (.sys fun _ => within_removeTemp _)) fun _ => sync

theorem ensureTemplate {capacity : Int} (h : I (.template capacity)) :
    Touches S I D (ensureTemplate capacity) := by
  refine .bind (.require _ _) fun _ => .bind (.asking _) fun i => ?_
  cases i with
  | some _ => exact .reading _
  | none =>
    exact .bind (.sys fun _ => within_removeTemp _) fun _ =>
      .bind (.sys fun _ => within_addTemp h) fun _ => .bind sync fun _ =>
        .bind (.sys fun _ => (within_removeTemp _).trans (within_setImage h _)) fun _ =>
          .bind sync fun _ => .reading _

theorem publishClone {dir : Dir} {final : ImageFile} (h : I final) (hd : final.dir = some dir)
    (mode : Nat) (op : ID) (uuid : Option FsUUID) (source : Image) :
    Touches S I D (publishClone dir final mode op uuid source) :=
  .bind (.sys fun _ => within_removeTemp _) fun _ => .bind (composes.requireDir _) fun _ =>
    .bind (.sys fun _ => within_addTemp ⟨final, h, hd⟩) fun _ =>
      .bind (composes.onError (.bind (.sys fun d => .refl d) fun _ => .bind sync fun _ =>
        .sys fun _ => (within_removeTemp _).trans (within_setImage h _))
        (.sys fun _ => within_removeTemp _)) fun _ => sync

theorem cloneImage (source : ImageFile) {dir : Dir} {final : ImageFile} (h : I final)
    (hd : final.dir = some dir) (mode : Nat) (capacity : Int) (op : ID) (uuid : Option FsUUID) :
    Touches S I D (cloneImage source dir final mode capacity op uuid) :=
  composes.cloneImage fun i => publishClone h hd mode op uuid i

theorem ensureWorkspaceLayout (hw : D (.workspace w)) (hp : ∀ part, D (.part w part)) :
    Touches S I D (ensureWorkspaceLayout w) :=
  .bind (mkdir hw) fun _ => .bind (mkdir (hp _)) fun _ => .bind (mkdir (hp _)) fun _ =>
    .bind (mkdir (hp _)) fun _ => .bind (mkdir (hp _)) fun _ => composes.syncDir _

theorem publishCurrentManifest (h : S (.current w)) (m : CurrentManifest) :
    Touches S I D (publishCurrentManifest w m) :=
  .bind (.require _ _) fun _ => atomicJSON h fun _ => within_setManifest h m

theorem recordReceipt (env : Env) {r : Receipt}
    (h : S (.receipt r.workspaceID r.operationID r.kind)) :
    Touches S I D (recordReceipt env r) :=
  .bind (.reading _) fun _ => .bind (atomicJSON h fun _ => within_setReceipt h _) fun _ => trivial

theorem mutate (env : Env) (request : Json) {m : Mutation} {kind : ReceiptKind} {apply : Op Receipt}
    (h : S (.receipt m.workspaceID m.operationID kind)) (ha : Touches S I D apply) :
    Touches S I D (mutate env request m kind apply) :=
  composes.mutate ha fun _ hw ho hk => recordReceipt env (hw ▸ ho ▸ hk ▸ h)

/-! ## The operations -/

theorem createApply {r : CreateWorkspaceRequest} (hc : S (.current r.workspaceID))
    (ht : I (.template r.capacityBytes))
    (hv : I (.version r.workspaceID (generationImageName 1 .create)))
    (hw : D (.workspace r.workspaceID)) (hp : ∀ part, D (.part r.workspaceID part)) :
    Touches S I D (createApply r) := by
  refine .bind (ensureWorkspaceLayout hw hp) fun _ => .bind (.asking _) fun m => ?_
  split
  · exact .bind (.require _ _) fun _ => .bind (.reading _) fun _ => trivial
  · exact .bind (ensureTemplate ht) fun _ => .bind (cloneImage _ hv rfl _ _ _ _) fun _ =>
      .bind (publishCurrentManifest hc _) fun _ => trivial
  · trivial

theorem cloneApply {r : CloneWorkspaceRequest} (hc : S (.current r.workspaceID))
    (hv : I (.version r.workspaceID (generationImageName 1 .clone)))
    (hw : D (.workspace r.workspaceID)) (hp : ∀ part, D (.part r.workspaceID part)) :
    Touches S I D (cloneApply r) := by
  refine .bind (.reading _) fun _ => .bind (.require _ _) fun _ => .bind (.reading _) fun _ =>
    .bind (ensureWorkspaceLayout hw hp) fun _ => .bind (.asking _) fun m => ?_
  split
  · exact .bind (.require _ _) fun _ => .bind (.reading _) fun _ => trivial
  · exact .bind (cloneImage _ hv rfl _ _ _ _) fun _ =>
      .bind (publishCurrentManifest hc _) fun _ => trivial
  · trivial

theorem advanceApply {r : AdvanceGenerationRequest} (hc : S (.current r.workspaceID)) :
    Touches S I D (advanceApply r) := by
  refine .bind (.reading _) fun m => ?_
  dsimp only
  split
  · trivial
  · exact .bind (.require _ _) fun _ => .bind (.asking _) fun _ => .bind (.require _ _) fun _ =>
      .bind (composes.reclaimFreeBlocks _ _) fun _ => .bind (publishCurrentManifest hc _) fun _ =>
        trivial

theorem prepareRestoreApply {r : PrepareRestoreRequest}
    (hs : S (.staged r.workspaceID r.operationID)) (hi : I (.staged r.workspaceID r.operationID)) :
    Touches S I D (prepareRestoreApply r) :=
  composes.prepareRestoreApply (cloneImage _ hi rfl _ _ _ _) fun _ => atomicJSON hs fun _ =>
    within_setStaged hs _

theorem publishRestoreVersion {image : ImageName} (hi : I (.staged w op))
    (hv : I (.version w image)) : Touches S I D (publishRestoreVersion w op image) :=
  composes.publishRestoreVersion fun i => .sys fun _ =>
    (within_removeImage hi).trans (within_setImage hv i)

theorem abortRestoreApply {m : RestoreMutation} (hs : S (.staged m.workspaceID m.operationID))
    (hi : I (.staged m.workspaceID m.operationID)) : Touches S I D (abortRestoreApply m) :=
  composes.abortRestoreApply (removeImage hi) (removeRecord hs)

/-! ## Removing a Workspace -/

theorem dir_of_mem_readDir {d : Disk} {f : File} (h : f ∈ d.readDir p) : f.dir = some p := by
  rw [Disk.readDir, List.mem_insertionSort, List.mem_filter] at h
  simpa using h.2

/-- The tree of a Workspace lies in `S`, `I` and `D`. -/
structure Owns (S : Record → Prop) (I : ImageFile → Prop) (D : Dir → Prop) (w : ID) : Prop where
  records : ∀ r part, r.dir = some (.part w part) → S r
  images : ∀ f part, f.dir = some (.part w part) → I f
  dir : D (.workspace w)
  parts : ∀ part, D (.part w part)

theorem removeWorkspaceTree (h : Owns S I D w) : Touches S I D (removeWorkspaceTree w) := by
  refine composes.removeWorkspaceTree (fun part => composes.removeWorkspacePart (fun d f hf => ?_)
    (removePresentDir (h.parts part))) (removePresentDir h.dir)
  have hdir := dir_of_mem_readDir hf
  exact removeExactFile (fun r e => h.records r part (by rw [← hdir, e]; rfl))
    fun g e => h.images g part (by rw [← hdir, e]; rfl)

theorem receipt_of_mem_receiptFiles {d : Disk} {e : ID × File} (h : e ∈ d.receiptFiles w)
    (he : e.2 = .record r) : ∃ op k, r = .receipt w op k := by
  rw [Disk.receiptFiles, List.mem_insertionSort, List.mem_append, List.mem_filterMap,
    List.mem_filterMap] at h
  rcases h with ⟨k, -, hk⟩ | ⟨t, -, ht⟩
  · split at hk
    · rename_i hw
      cases hk
      cases he
      exact ⟨_, _, by rw [hw]⟩
    · cases hk
  · split at ht
    · split at ht
      · cases ht
        cases he
      · cases ht
    · cases ht

theorem image_not_mem_receiptFiles {d : Disk} {e : ID × File} (h : e ∈ d.receiptFiles w)
    (f : ImageFile) : e.2 ≠ .image f := by
  rw [Disk.receiptFiles, List.mem_insertionSort, List.mem_append, List.mem_filterMap,
    List.mem_filterMap] at h
  rcases h with ⟨k, -, hk⟩ | ⟨t, -, ht⟩
  · split at hk <;> cases hk
    exact fun he => by cases he
  · split at ht
    · split at ht <;> cases ht
      exact fun he => by cases he
    · cases ht

theorem deleteWorkspaceReceipts (hS : ∀ op k, S (.receipt w op k)) :
    Touches S I D (deleteWorkspaceReceipts w) := by
  refine composes.deleteWorkspaceReceipts fun d e he => removeExactFile (fun r hr => ?_) fun f hf =>
    absurd hf (image_not_mem_receiptFiles he f)
  obtain ⟨op, k, rfl⟩ := receipt_of_mem_receiptFiles he hr
  exact hS op k

theorem deleteWorkspaceApply {r : DeleteWorkspaceRequest} (h : Owns S I D r.workspaceID)
    (hs : ∀ s, S (.snapshot s)) (hi : ∀ s, I (.snapshot s)) (hd : ∀ s, D (.snapshot s))
    (hr : ∀ op k, S (.receipt r.workspaceID op k)) : Touches S I D (deleteWorkspaceApply r) :=
  composes.deleteWorkspaceApply (composes.deleteWorkspaceSnapshots _ (fun _ => removeImage (hi _))
    (fun _ => removeRecord (hs _)) fun _ => removePresentDir (hd _)) (removeWorkspaceTree h)
    (deleteWorkspaceReceipts hr)

/-! ## Relocation -/

theorem exportApply {r : RelocationExportRequest} (hc : S (.current r.workspaceID)) :
    Touches S I D (exportApply r) :=
  .bind (.reading _) fun _ => .bind (.require _ _) fun _ => .bind (.reading _) fun _ =>
    .bind (.require _ _) fun _ => .bind (publishCurrentManifest hc _) fun _ => trivial

theorem abortRelocationApply {r : RelocationExportRequest} (hc : S (.current r.workspaceID)) :
    Touches S I D (abortRelocationApply r) :=
  .bind (.reading _) fun _ => .bind (.require _ _) fun _ =>
    .bind (publishCurrentManifest hc _) fun _ => trivial

theorem stageImport {r : RelocationImportRequest} (hs : I r.staging)
    (ht : I (.template r.capacityBytes)) :
    Touches S I D (stageImport r) :=
  .bind (removeImage hs) fun _ => .bind (ensureTemplate ht) fun _ =>
    .bind (.sys fun _ => within_setImage hs _) fun _ =>
      composes.onError (.bind (.sys fun _ => within_setImage hs _) fun _ => .sys fun _ =>
        within_setImage hs _)
        (removeImage hs)

variable {h : RelocationImport}

theorem cleanupStaging (hs : I h.request.staging) : Touches S I D (cleanupStaging h) :=
  .bind (removeImage hs) fun _ => sync

theorem publishImport (env : Env) (hs : I h.request.staging)
    (hv : I (.version h.request.workspaceID h.request.image))
    (hc : S (.current h.request.workspaceID))
    (hr : S (.receipt h.request.workspaceID h.request.operationID .relocationImport))
    (hw : D (.workspace h.request.workspaceID))
    (hp : ∀ part, D (.part h.request.workspaceID part)) :
    Touches S I D (publishImport env h) := by
  refine .bind (ensureWorkspaceLayout hw hp) fun _ => .bind (.asking _) fun i => ?_
  cases i with
  | none => trivial
  | some i =>
    exact .bind (.sys fun _ => (within_removeImage hs).trans (within_setImage hv i)) fun _ =>
      .bind sync fun _ => .bind (publishCurrentManifest hc _) fun _ => recordReceipt env hr

/-- A program keeps what does not depend on what it touches. -/
theorem wp {α : Type} {C : Disk → Prop} {Q : Except StoreErr α → Disk → Prop} {p : Op α} {d : Disk}
    (h : Touches S I D p) (hC : ∀ d', Within S I D d d' → C d')
    (hQ : ∀ r d', Within S I D d d' → Q r d') :
    p.wp C Q d :=
  Moves.wp h (fun d' hd => hC d' (.of_chain hd)) fun r d' hd => hQ r d' (.of_chain hd)

end Touches

theorem Within.receipt {S : Record → Prop} {I : ImageFile → Prop} {D : Dir → Prop} {d d' : Disk}
    {k : ReceiptKind} (h : Within S I D d d') (hS : ¬ S (.receipt w op k)) :
    d'.receipts.lookup (w, op, k) = d.receipts.lookup (w, op, k) :=
  h.records (.receipt w op k) hS

theorem Within.staged {S : Record → Prop} {I : ImageFile → Prop} {D : Dir → Prop} {d d' : Disk}
    (h : Within S I D d d') (hS : ¬ S (.staged w op)) :
    d'.staged.lookup (w, op) = d.staged.lookup (w, op) :=
  h.records _ hS

theorem Within.rollback {S : Record → Prop} {I : ImageFile → Prop} {D : Dir → Prop} {d d' : Disk}
    (h : Within S I D d d') (hS : ¬ S (.rollback w op)) :
    d'.rollbacks.lookup (w, op) = d.rollbacks.lookup (w, op) :=
  h.records _ hS

/-! ## Removals -/

/-- `d'` is `d` with some records, images, directories or temporary files gone. -/
structure Shrinks (d d' : Disk) : Prop where
  records : ∀ r, SameRecord d d' r ∨ d'.hasRecord r = false
  images : ∀ f, d'.images.lookup f = d.images.lookup f ∨ d'.images.lookup f = none
  dirs : d'.dirs ⊆ d.dirs
  temps : d'.temps ⊆ d.temps

theorem SameRecord.hasRecord {d d' : Disk} (h : SameRecord d d' r) :
    d'.hasRecord r = d.hasRecord r := by
  cases r <;> exact congrArg Option.isSome h

theorem Shrinks.refl (d : Disk) : Shrinks d d :=
  ⟨fun r => .inl (.refl d r), fun _ => .inl rfl, fun _ => id, fun _ => id⟩

theorem Shrinks.trans {d d' d'' : Disk} (h : Shrinks d d') (h' : Shrinks d' d'') :
    Shrinks d d'' where
  records r := by
    rcases h'.records r with hr | hr
    · exact (h.records r).imp (·.trans hr) fun h0 => hr.hasRecord.trans h0
    · exact .inr hr
  images f := by
    rcases h'.images f with hf | hf
    · exact (h.images f).imp hf.trans fun h0 => hf.trans h0
    · exact .inr hf
  dirs := fun _ hp => h.dirs (h'.dirs hp)
  temps := fun _ ht => h.temps (h'.temps ht)

theorem Shrinks.of_chain {d d' : Disk} (h : Relation.ReflTransGen Shrinks d d') : Shrinks d d' := by
  induction h with
  | refl => exact .refl _
  | tail _ h ih => exact ih.trans h

theorem shrinks_removeRecord (d : Disk) (r : Record) : Shrinks d (d.removeRecord r) where
  records q := by
    by_cases h : q = r
    · subst h
      right
      cases q <;> simp [Disk.removeRecord, Disk.hasRecord]
    · exact .inl ((within_removeRecord (S := (· = r)) (I := fun _ => False) (D := fun _ => False) rfl).records
        q h)
  images f := by cases r <;> exact .inl rfl
  dirs := by cases r <;> exact fun _ => id
  temps := by cases r <;> exact fun _ => id

theorem shrinks_removeImage (d : Disk) (f : ImageFile) : Shrinks d (d.removeImage f) where
  records r := .inl (by cases r <;> rfl)
  images g := by
    by_cases h : g = f
    · exact .inr (by rw [h]; exact AList.lookup_erase _ _)
    · exact .inl (AList.lookup_erase_ne h)
  dirs := fun _ => id
  temps := fun _ => id

theorem shrinks_removeFile (d : Disk) (f : File) : Shrinks d (d.removeFile f) := by
  cases f with
  | record r => exact shrinks_removeRecord d r
  | image f => exact shrinks_removeImage d f
  | temp t =>
    exact ⟨fun r => .inl (by cases r <;> rfl), fun _ => .inl rfl, fun _ => id,
      fun _ ht => (List.mem_filter.1 ht).1⟩

theorem shrinks_removeDir (d : Disk) (p : Dir) : Shrinks d (d.removeDir p) :=
  ⟨fun r => .inl (by cases r <;> rfl), fun _ => .inl rfl, fun _ hq => (List.mem_filter.1 hq).1,
    fun _ => id⟩

/-- Every change `p` makes is a removal. -/
abbrev Removes {α : Type} (p : Op α) : Prop := Moves Shrinks p

namespace Removes

theorem wp {α : Type} {C : Disk → Prop} {Q : Except StoreErr α → Disk → Prop} {p : Op α} {d : Disk}
    (h : Removes p) (hC : ∀ d', Shrinks d d' → C d') (hQ : ∀ r d', Shrinks d d' → Q r d') :
    p.wp C Q d :=
  Moves.wp h (fun d' hd => hC d' (.of_chain hd)) fun r d' hd => hQ r d' (.of_chain hd)

theorem composes : Composes fun _ p => Removes p := Moves.compositional Shrinks.refl

theorem removeExactFile (f : File) : Removes (removeExactFile f) :=
  .sys fun d => shrinks_removeFile d f

theorem removePresentDir (p : Dir) : Removes (removePresentDir p) :=
  .bind (.asking _) fun _ => .bind (.require _ _) fun _ => .sys fun d => shrinks_removeDir d p

theorem removeWorkspaceTree (w : ID) : Removes (removeWorkspaceTree w) :=
  composes.removeWorkspaceTree (fun _ => composes.removeWorkspacePart (fun _ f _ => removeExactFile f)
    (removePresentDir _)) (removePresentDir _)

theorem deleteWorkspaceSnapshots (w : ID) : Removes (deleteWorkspaceSnapshots w) :=
  composes.deleteWorkspaceSnapshots w (fun _ => removeExactFile _) (fun _ => removeExactFile _)
    fun _ => removePresentDir _

theorem deleteWorkspaceReceipts (w : ID) : Removes (deleteWorkspaceReceipts w) :=
  composes.deleteWorkspaceReceipts fun _ _ _ => removeExactFile _

theorem deleteWorkspaceApply (r : DeleteWorkspaceRequest) : Removes (deleteWorkspaceApply r) :=
  composes.deleteWorkspaceApply (deleteWorkspaceSnapshots _) (removeWorkspaceTree _)
    (deleteWorkspaceReceipts _)

end Removes

end SecondBox.WorkspaceStore

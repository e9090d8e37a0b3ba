/-
  The footprint of a call: the records, images and directories it can change.

  `Call.touches` collects the frames of the operations into one statement, so
  that an invariant about one file only has to look at the calls whose footprint
  contains it.
-/
import SecondBox.WorkspaceStore.Rules

namespace SecondBox.WorkspaceStore

open Crash Crash.Prog

/-- What a call may write. -/
structure Footprint where
  records : Record → Prop
  images : ImageFile → Prop
  dirs : Dir → Prop

/-- Nothing. -/
def Footprint.none : Footprint := ⟨fun _ => False, fun _ => False, fun _ => False⟩

/-- The files and directories of the tree of a Workspace. -/
def Footprint.tree (w : ID) : Footprint where
  records x := ∃ part, x.dir = some (.part w part)
  images f := ∃ part, f.dir = some (.part w part)
  dirs p := p = .workspace w ∨ ∃ part, p = .part w part

/-- What each call may write. -/
def Call.footprint (s : Store) : Call → Footprint
  | .create r => {
      records x :=
        x = .current r.workspaceID ∨ x = .receipt r.workspaceID r.operationID .workspaceCreate
      images f := f = .template r.capacityBytes ∨
        f = .version r.workspaceID (generationImageName 1 .create)
      dirs := (Footprint.tree r.workspaceID).dirs }
  | .cloneFromSnapshot r => {
      records x :=
        x = .current r.workspaceID ∨ x = .receipt r.workspaceID r.operationID .workspaceClone
      images f := f = .version r.workspaceID (generationImageName 1 .clone)
      dirs := (Footprint.tree r.workspaceID).dirs }
  | .guestWrite w _ => {
      records _ := False
      images f := ∃ a ∈ s.attachments, a.1 = w ∧ f = .version w a.2
      dirs _ := False }
  | .advanceGeneration r => {
      records x := x = .current r.workspaceID ∨
        x = .receipt r.workspaceID r.operationID .generationAdvance
      images _ := False
      dirs _ := False }
  | .createSnapshot r => {
      records x :=
        x = .snapshot r.snapshotID ∨ x = .receipt r.workspaceID r.operationID .snapshotCreate
      images f := f = .snapshot r.snapshotID
      dirs p := p = .snapshot r.snapshotID }
  | .deleteSnapshot r => {
      records x :=
        x = .snapshot r.snapshotID ∨ x = .receipt r.workspaceID r.operationID .snapshotDelete
      images f := f = .snapshot r.snapshotID
      dirs p := p = .snapshot r.snapshotID }
  | .prepareRestore r => {
      records x := x = .staged r.workspaceID r.operationID ∨
        x = .receipt r.workspaceID r.operationID .restorePrepare
      images f := f = .staged r.workspaceID r.operationID
      dirs _ := False }
  | .swapRestore r => {
      records x := x = .current r.workspaceID ∨ x = .rollback r.workspaceID r.operationID ∨
        x = .receipt r.workspaceID r.operationID .restoreSwap
      images f :=
        f = .staged r.workspaceID r.operationID ∨ ∃ image, f = .version r.workspaceID image
      dirs _ := False }
  | .finalizeRestore m => {
      records x :=
        x = .staged m.workspaceID m.operationID ∨ x = .rollback m.workspaceID m.operationID ∨
        x = .receipt m.workspaceID m.operationID .restoreFinalize
      images f :=
        f = .staged m.workspaceID m.operationID ∨ ∃ image, f = .version m.workspaceID image
      dirs _ := False }
  | .abortRestore m => {
      records x := x = .staged m.workspaceID m.operationID ∨
        x = .receipt m.workspaceID m.operationID .restoreAbort
      images f := f = .staged m.workspaceID m.operationID
      dirs _ := False }
  | .deleteWorkspace r => {
      records x := (Footprint.tree r.workspaceID).records x ∨ (∃ id, x = .snapshot id) ∨
        ∃ op k, x = .receipt r.workspaceID op k
      images f := (Footprint.tree r.workspaceID).images f ∨ ∃ id, f = .snapshot id
      dirs p := (Footprint.tree r.workspaceID).dirs p ∨ ∃ id, p = .snapshot id }
  | .openRelocationExport r => {
      records x :=
        x = .current r.workspaceID ∨ x = .receipt r.workspaceID r.operationID .relocationExport
      images _ := False
      dirs _ := False }
  | .abortRelocation r => {
      records x :=
        x = .current r.workspaceID ∨ x = .receipt r.workspaceID r.operationID .relocationAbort
      images _ := False
      dirs _ := False }
  | .beginRelocationImport r => {
      records := (Footprint.tree r.workspaceID).records
      images f :=
        (Footprint.tree r.workspaceID).images f ∨ f = r.staging ∨ f = .template r.capacityBytes
      dirs := (Footprint.tree r.workspaceID).dirs }
  | .writeChunk i _ _ => {
      records _ := False
      images f := ∃ h, s.imports[i]? = some h ∧ f = h.request.staging
      dirs _ := False }
  | .complete i _ _ => {
      records x := ∃ h, s.imports[i]? = some h ∧ (x = .current h.request.workspaceID ∨
        x = .receipt h.request.workspaceID h.request.operationID .relocationImport)
      images f := ∃ h, s.imports[i]? = some h ∧ (f = h.request.staging ∨
        f = .version h.request.workspaceID h.request.image)
      dirs p := ∃ h, s.imports[i]? = some h ∧ (Footprint.tree h.request.workspaceID).dirs p }
  | .abortImport i => {
      records x := ∃ h, s.imports[i]? = some h ∧ (Footprint.tree h.request.workspaceID).records x
      images f := ∃ h, s.imports[i]? = some h ∧ (f = h.request.staging ∨
        (Footprint.tree h.request.workspaceID).images f)
      dirs p := ∃ h, s.imports[i]? = some h ∧ (Footprint.tree h.request.workspaceID).dirs p }
  | .openWorkspace .. | .closeAttachment _ | .closeExport _ | .inspect _ | .reconcile | .kill =>
    .none

theorem Call.touches (s : Store) (env : Env) (c : Call) :
    Touches (c.footprint s).records (c.footprint s).images (c.footprint s).dirs (c.prog s env) := by
  have ret : ∀ {S I D} (f : Store → Store), Touches S I D (pure f) := fun _ => trivial
  cases c with
  | create r =>
    exact .bind (Touches.composes.create (.mutate env _ (.inr rfl) (.createApply (.inl rfl) (.inl rfl) (.inr rfl)
      (.inl rfl) fun part => .inr ⟨part, rfl⟩))) fun _ => ret _
  | cloneFromSnapshot r =>
    exact .bind (Touches.composes.cloneFromSnapshot (.mutate env _ (.inr rfl) (.cloneApply (.inl rfl) rfl (.inl rfl)
      fun part => .inr ⟨part, rfl⟩))) fun _ => ret _
  | openWorkspace w g => exact .bind (Touches.composes.openWorkspace env w g) fun _ => ret _
  | closeAttachment | closeExport => exact ret _
  | guestWrite w i =>
    simp only [Call.prog]
    split
    · exact ret _
    · rename_i a ha
      refine .bind (.asking _) fun found => ?_
      split
      · exact ret _
      · exact .bind (.sys fun _ => within_setImage
          ⟨_, List.mem_of_find?_eq_some ha, by simpa using List.find?_some ha, rfl⟩ _) fun _ =>
          ret _
  | advanceGeneration r =>
    exact .bind (.bind (.require _ _) fun _ => Touches.mutate env _ (.inr rfl) (.advanceApply (.inl rfl)))
      fun _ => ret _
  | createSnapshot r =>
    exact .bind (.bind (.reading _) fun _ => Touches.mutate env _ (.inr rfl)
      (Touches.composes.createSnapshotApply (.mkdir rfl) (.cloneImage _ (by rfl) rfl _ _ _ _) fun _ =>
        .atomicJSON (.inl rfl) fun _ => within_setSnapshot (.inl rfl) _)) fun _ => ret _
  | deleteSnapshot r =>
    exact .bind (.bind (.reading _) fun _ => Touches.mutate env _ (.inr rfl)
      (Touches.composes.deleteSnapshotApply (.removeImage rfl) (.removeRecord (.inl rfl))
        (.removePresentDir rfl)))
      fun _ => ret _
  | prepareRestore r =>
    exact .bind (.bind (.reading _) fun _ => Touches.mutate env _ (.inr rfl)
      (.prepareRestoreApply (.inl rfl) rfl)) fun _ => ret _
  | swapRestore r =>
    exact .bind (.bind (.reading _) fun _ => Touches.mutate env _ (.inr (.inr rfl))
      (Touches.composes.swapRestoreApply (fun i => .publishRestoreVersion (.inl rfl) (.inr ⟨i, rfl⟩))
        (fun _ => .atomicJSON (.inr (.inl rfl)) fun _ => within_setRollback (.inr (.inl rfl)) _)
        (.publishCurrentManifest (.inl rfl)))) fun _ => ret _
  | finalizeRestore m =>
    exact .bind (Touches.mutate env _ (.inr (.inr rfl))
      (Touches.composes.finalizeRestoreApply (fun i => .removeImage (.inr ⟨i, rfl⟩)) (.removeImage (.inl rfl))
        (.removeRecord (.inl rfl)) (.removeRecord (.inr (.inl rfl))))) fun _ => ret _
  | abortRestore m =>
    exact .bind (Touches.mutate env _ (.inr rfl) (.abortRestoreApply (.inl rfl) rfl)) fun _ => ret _
  | deleteWorkspace r =>
    refine .bind (Touches.mutate env _ (.inr (.inr ⟨_, _, rfl⟩)) (.deleteWorkspaceApply ?_
      (fun id => .inr (.inl ⟨id, rfl⟩)) (fun id => .inr ⟨id, rfl⟩) (fun id => .inr ⟨id, rfl⟩)
      fun op k => .inr (.inr ⟨op, k, rfl⟩))) fun _ => ret _
    exact ⟨fun _ part hx => .inl ⟨part, hx⟩, fun _ part hf => .inl ⟨part, hf⟩, .inl (.inl rfl),
      fun part => .inl (.inr ⟨part, rfl⟩)⟩
  | openRelocationExport r =>
    exact .bind (Touches.composes.openRelocationExport
      (.mutate env _ (.inr rfl) (.exportApply (.inl rfl)))) fun _ => ret _
  | abortRelocation r =>
    exact .bind (Touches.mutate env _ (.inr rfl) (.abortRelocationApply (.inl rfl))) fun _ => ret _
  | beginRelocationImport r =>
    refine .bind (Touches.composes.beginRelocationImport (.removeWorkspaceTree ?_)
      (.stageImport (.inr (.inl rfl)) (.inr (.inr rfl)))) fun _ => ret _
    exact ⟨fun _ part hx => ⟨part, hx⟩, fun _ part hf => .inl ⟨part, hf⟩, .inl rfl,
      fun part => .inr ⟨part, rfl⟩⟩
  | writeChunk i offset c =>
    simp only [Call.prog]
    split
    · exact ret _
    · rename_i h hi
      exact .bind (Touches.composes.writeChunk (fun _ => .sys fun _ => within_setImage ⟨h, hi, rfl⟩ _) offset c)
        fun _ => ret _
  | complete i size checksum =>
    simp only [Call.prog]
    split
    · exact ret _
    · rename_i h hi
      exact .bind (Touches.composes.complete (.publishImport env ⟨h, hi, .inl rfl⟩ ⟨h, hi, .inr rfl⟩
        ⟨h, hi, .inl rfl⟩
        ⟨h, hi, .inr rfl⟩ ⟨h, hi, .inl rfl⟩ fun part => ⟨h, hi, .inr ⟨part, rfl⟩⟩)
          (.cleanupStaging ⟨h, hi, .inl rfl⟩)
        size checksum) fun _ => ret _
  | abortImport i =>
    simp only [Call.prog]
    split
    · exact ret _
    · rename_i h hi
      refine .bind (Touches.composes.abort (.removeWorkspaceTree ?_)
        (.cleanupStaging ⟨h, hi, .inl rfl⟩)) fun _ => ret _
      exact ⟨fun _ part hx => ⟨h, hi, part, hx⟩, fun _ part hf => ⟨h, hi, .inr ⟨part, hf⟩⟩,
        ⟨h, hi, .inl rfl⟩, fun part => ⟨h, hi, .inr ⟨part, rfl⟩⟩⟩
  | inspect w =>
    exact .bind (.bind (.reading _) fun _ => .bind (Touches.composes.lockWorkspace env w) fun _ =>
      .reading _)
      fun _ => ret _
  | reconcile => exact .bind (.reading _) fun _ => ret _
  | kill => exact .bind (.sys Within.refl) fun _ => ret _

/-- The disk a step leaves differs from the one before within the footprint of the call. -/
theorem Store.step_within (s : Store) (c : Call) (t : Moment) :
    Within (c.footprint s).records (c.footprint s).images (c.footprint s).dirs s.disk
      (s.step c t).disk :=
  Store.step_disk_of_wp ((c.touches s (s.env t)).wp (fun _ => id) fun _ _ => id)

/-! ## Workspaces -/

/-- The Workspace of a record. -/
def Record.workspace : Record → Option ID
  | .current w | .staged w _ | .rollback w _ | .receipt w _ _ => some w
  | .snapshot _ => none

/-- The Workspace of an image. -/
def ImageFile.workspace : ImageFile → Option ID
  | .version w _ | .staged w _ | .relocation w _ => some w
  | .snapshot _ | .template _ => none

/-- The Workspace of a directory. -/
def Dir.workspaceID : Dir → Option ID
  | .workspace w | .part w _ => some w
  | .snapshot _ => none

/-- The Workspace a call is about. -/
def Call.workspace (s : Store) : Call → Option ID
  | .create r => some r.workspaceID
  | .cloneFromSnapshot r => some r.workspaceID
  | .openWorkspace w _ | .closeAttachment w | .guestWrite w _ | .closeExport w | .inspect w =>
    some w
  | .advanceGeneration r => some r.workspaceID
  | .createSnapshot r => some r.workspaceID
  | .deleteSnapshot r => some r.workspaceID
  | .prepareRestore r | .swapRestore r => some r.workspaceID
  | .finalizeRestore m | .abortRestore m => some m.workspaceID
  | .deleteWorkspace r => some r.workspaceID
  | .openRelocationExport r | .abortRelocation r => some r.workspaceID
  | .beginRelocationImport r => some r.workspaceID
  | .writeChunk i _ _ | .complete i _ _ | .abortImport i =>
    (s.imports[i]?).map (·.request.workspaceID)
  | .reconcile | .kill => none

/-- Everything that belongs to the Workspace `w` is the same on both disks. -/
structure Agree (w : ID) (d d' : Disk) : Prop where
  records : ∀ x, x.workspace = some w → SameRecord d d' x
  images : ∀ f, f.workspace = some w → d'.images.lookup f = d.images.lookup f
  dirs : ∀ p, p.workspaceID = some w → (p ∈ d'.dirs ↔ p ∈ d.dirs)

variable {x : Record} {w : ID}

theorem Record.workspace_of_dir {part : Part} (h : x.dir = some (.part w part)) :
    x.workspace = some w := by
  cases x <;> simp_all [Record.dir, Record.workspace]

variable {f : ImageFile}

theorem ImageFile.workspace_of_dir {part : Part} (h : f.dir = some (.part w part)) :
    f.workspace = some w := by
  cases f <;> simp_all [ImageFile.dir, ImageFile.workspace]

theorem Footprint.tree_records (h : (Footprint.tree w).records x) : x.workspace = some w :=
  h.elim fun _ => Record.workspace_of_dir

theorem Footprint.tree_images (h : (Footprint.tree w).images f) : f.workspace = some w :=
  h.elim fun _ => ImageFile.workspace_of_dir

theorem Footprint.tree_dirs {p : Dir} (h : (Footprint.tree w).dirs p) : p.workspaceID = some w := by
  rcases h with rfl | ⟨part, rfl⟩ <;> rfl

variable {s : Store} {c : Call}

theorem Call.workspace_of_record
    (h : (c.footprint s).records x) (hx : x.workspace = some w) : c.workspace s = some w := by
  have tree : ∀ {v}, (Footprint.tree v).records x → some v = some w := fun ht =>
    (Footprint.tree_records ht).symm.trans hx
  cases c with
  | create r | cloneFromSnapshot r | advanceGeneration r | openRelocationExport r
  | abortRelocation r
  | prepareRestore r | abortRestore r =>
    rcases h with rfl | rfl <;> exact hx
  | createSnapshot r | deleteSnapshot r =>
    rcases h with rfl | rfl
    · cases hx
    · exact hx
  | swapRestore r | finalizeRestore r => rcases h with rfl | rfl | rfl <;> exact hx
  | deleteWorkspace r =>
    rcases h with ht | ⟨id, rfl⟩ | ⟨op, k, rfl⟩
    · exact tree ht
    · cases hx
    · exact hx
  | beginRelocationImport r => exact tree h
  | complete i size checksum =>
    obtain ⟨g, hg, rfl | rfl⟩ := h <;> exact (congrArg (Option.map _) hg).trans hx
  | abortImport i =>
    obtain ⟨g, hg, ht⟩ := h
    exact (congrArg (Option.map _) hg).trans (tree ht)
  | _ => exact h.elim

theorem Call.workspace_of_image
    (h : (c.footprint s).images f) (hf : f.workspace = some w) : c.workspace s = some w := by
  have tree : ∀ {v}, (Footprint.tree v).images f → some v = some w := fun ht =>
    (Footprint.tree_images ht).symm.trans hf
  cases c with
  | create r =>
    rcases h with rfl | rfl
    · cases hf
    · exact hf
  | cloneFromSnapshot r | prepareRestore r | abortRestore r =>
    obtain rfl := h
    exact hf
  | createSnapshot r | deleteSnapshot r =>
    obtain rfl := h
    cases hf
  | guestWrite v i =>
    obtain ⟨a, -, -, rfl⟩ := h
    exact hf
  | swapRestore r | finalizeRestore r => rcases h with rfl | ⟨i, rfl⟩ <;> exact hf
  | deleteWorkspace r =>
    rcases h with ht | ⟨id, rfl⟩
    · exact tree ht
    · cases hf
  | beginRelocationImport r =>
    rcases h with ht | rfl | rfl
    · exact tree ht
    · exact hf
    · cases hf
  | writeChunk i =>
    obtain ⟨g, hg, rfl⟩ := h
    exact (congrArg (Option.map _) hg).trans hf
  | complete i size checksum =>
    obtain ⟨g, hg, rfl | rfl⟩ := h <;> exact (congrArg (Option.map _) hg).trans hf
  | abortImport i =>
    obtain ⟨g, hg, rfl | ht⟩ := h
    · exact (congrArg (Option.map _) hg).trans hf
    · exact (congrArg (Option.map _) hg).trans (tree ht)
  | _ => exact h.elim

theorem Call.workspace_of_dir {p : Dir}
    (h : (c.footprint s).dirs p) (hp : p.workspaceID = some w) : c.workspace s = some w := by
  have tree : ∀ {v}, (Footprint.tree v).dirs p → some v = some w := fun ht =>
    (Footprint.tree_dirs ht).symm.trans hp
  cases c with
  | create r | cloneFromSnapshot r | beginRelocationImport r => exact tree h
  | createSnapshot r | deleteSnapshot r =>
    obtain rfl := h
    cases hp
  | deleteWorkspace r =>
    rcases h with ht | ⟨id, rfl⟩
    · exact tree ht
    · cases hp
  | complete i | abortImport i =>
    obtain ⟨g, hg, ht⟩ := h
    exact (congrArg (Option.map _) hg).trans (tree ht)
  | _ => exact h.elim

theorem Store.step_agree (s : Store) (c : Call) (t : Moment) (h : c.workspace s ≠ some w) :
    Agree w s.disk (s.step c t).disk := by
  have hw := s.step_within c t
  exact ⟨fun x hx => hw.records x fun hf => h (Call.workspace_of_record hf hx),
    fun f hf => hw.images f fun hi => h (Call.workspace_of_image hi hf),
    fun p hp => hw.dirs p fun hd => h (Call.workspace_of_dir hd hp)⟩

end SecondBox.WorkspaceStore

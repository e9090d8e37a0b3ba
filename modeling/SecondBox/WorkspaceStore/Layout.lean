/-
  Every file lies in a directory that is there, and a Workspace with a manifest
  has its staged and rollback parts (`Disk.Rooted`).

  Files are only published into directories that were just checked or made, and
  directories only go once they are empty; the manifest goes before the parts.
-/
import SecondBox.WorkspaceStore.Handles

namespace SecondBox.WorkspaceStore

open Crash Crash.Prog

variable {α β : Type} {L : Dir → Prop} {d d' : Disk} {w : ID}

/-- The tree holds together, and the directories of `L` are there. -/
structure Disk.Rooted (L : Dir → Prop) (d : Disk) : Prop where
  records : ∀ r p, r.dir = some p → d.hasRecord r = true → p ∈ d.dirs
  images : ∀ f p, f.dir = some p → (d.images.lookup f).isSome = true → p ∈ d.dirs
  parts : ∀ w, d.hasRecord (.current w) = true → .part w .staged ∈ d.dirs ∧
    .part w .rollback ∈ d.dirs
  dirs : ∀ p, L p → p ∈ d.dirs

namespace Disk.Rooted

variable (h : d.Rooted L)
include h

theorem withTemps (ts : List Temp) : (d.withTemps ts).Rooted L := by
  refine ⟨fun r p hr hd => h.records r p hr ?_, h.images, h.parts, h.dirs⟩
  cases r <;> exact hd

theorem weaken : d.Rooted fun _ => False :=
  ⟨h.records, h.images, h.parts, fun _ hp => hp.elim⟩

theorem addDir (p : Dir) : (d.addDir p).Rooted L := by
  have hmem : ∀ q, q ∈ d.dirs → q ∈ (d.addDir p).dirs := fun q hq => List.mem_insert_of_mem hq
  refine ⟨fun r q hr hd => hmem q (h.records r q hr ?_),
    fun f q hf hi => hmem q (h.images f q hf hi), fun w hw => (h.parts w hw).imp (hmem _) (hmem _),
    fun q hq => hmem q (h.dirs q hq)⟩
  cases r <;> exact hd

theorem shrinks (hs : Shrinks d d') (hd : d'.dirs = d.dirs) : d'.Rooted L := by
  have back : ∀ r, d'.hasRecord r = true → d.hasRecord r = true := fun r hr =>
    (hs.records r).elim (fun same => same.hasRecord ▸ hr) fun gone => by simp [gone] at hr
  refine ⟨fun r p hr hp => hd ▸ h.records r p hr (back r hp),
    fun f p hf hi => hd ▸ h.images f p hf ?_, fun w hw => hd ▸ h.parts w (back _ hw),
    fun p hp => hd ▸ h.dirs p hp⟩
  rcases hs.images f with same | gone
  · rwa [← same]
  · simp [gone] at hi

theorem removeFile (f : File) : (d.removeFile f).Rooted L :=
  h.shrinks (shrinks_removeFile d f) (by
    cases f with
    | record r => cases r <;> rfl
    | image f => rfl
    | temp t => rfl)

theorem setImage {f : ImageFile} (hf : ∀ p, f.dir = some p → p ∈ d.dirs) (i : Image) :
    (d.setImage f i).Rooted L := by
  refine ⟨fun r p hr hd => h.records r p hr ?_, fun g p hg hi => ?_, h.parts, h.dirs⟩
  · cases r <;> exact hd
  · by_cases hgf : g = f
    · exact hf p (hgf ▸ hg)
    · exact h.images g p hg (by rwa [Disk.setImage, AList.lookup_insert_ne hgf] at hi)

theorem publish (target : Record)
    (hw : Within (· = target) (fun _ => False) (fun _ => False) d d')
    (hdir : ∀ p, target.dir = some p → p ∈ d.dirs)
    (hcur : ∀ w, target = .current w → .part w .staged ∈ d.dirs ∧ .part w .rollback ∈ d.dirs) :
    d'.Rooted L := by
  have hd : ∀ p, p ∈ d'.dirs ↔ p ∈ d.dirs := fun p => hw.dirs p id
  refine ⟨fun r p hr hp => (hd p).2 ?_, fun f p hf hi => (hd p).2 (h.images f p hf ?_),
    fun w hp => ?_, fun p hp => (hd p).2 (h.dirs p hp)⟩
  · by_cases ht : r = target
    · exact hdir p (ht ▸ hr)
    · exact h.records r p hr ((hw.records r ht).hasRecord ▸ hp)
  · rwa [← hw.images f id]
  · rw [hd, hd]
    by_cases ht : Record.current w = target
    · exact hcur w ht.symm
    · exact h.parts w ((hw.records _ ht).hasRecord ▸ hp)

end Disk.Rooted

theorem record_mem_files {r : Record} (h : d.hasRecord r = true) : .record r ∈ d.files := by
  cases r <;> simpa [Disk.files, Disk.records, Disk.hasRecord, AList.lookup_isSome,
    AList.mem_keys] using h

theorem image_mem_files {f : ImageFile} (h : (d.images.lookup f).isSome = true) :
    .image f ∈ d.files := by
  simpa [Disk.files, AList.lookup_isSome, AList.mem_keys] using h

/-- An empty directory can go, except the parts of a Workspace with a manifest. -/
theorem Disk.Rooted.removeDir (h : d.Rooted L) {p : Dir} (he : d.isEmptyDir p = true) (hL : ¬ L p)
    (hp : ∀ w, p = .part w .staged ∨ p = .part w .rollback → d.hasRecord (.current w) = false) :
    (d.removeDir p).Rooted L := by
  have empty : ∀ f ∈ d.files, f.dir ≠ some p := by
    simpa using List.all_eq_true.1 (Bool.and_eq_true_iff.1 he).1
  have stay : ∀ q, q ∈ d.dirs → q ≠ p → q ∈ (d.removeDir p).dirs := fun q hq hne => by
    simp [Disk.removeDir, hq, hne]
  refine ⟨fun r q hr hd => ?_, fun f q hf hi => ?_, fun w hw => ?_, fun q hq => ?_⟩
  · have hd : d.hasRecord r = true := by cases r <;> exact hd
    exact stay q (h.records r q hr hd) fun e => empty _ (record_mem_files hd) (e ▸ hr)
  · exact stay q (h.images f q hf hi) fun e => empty _ (image_mem_files hi) (e ▸ hf)
  · have hw : d.hasRecord (.current w) = true := hw
    have ne : ∀ q, q = Dir.part w .staged ∨ q = .part w .rollback → q ≠ p := fun q hq e => by
      have := hp w (e ▸ hq)
      simp [hw] at this
    exact (h.parts w hw).imp (stay _ · (ne _ (.inl rfl))) (stay _ · (ne _ (.inr rfl)))
  · exact stay q (h.dirs q hq) fun e => hL (e ▸ hq)

/-! ## The building blocks -/

section
variable {P : Disk → Prop}

theorem keeps_finalizeRestoreApply (m : RestoreMutation) (h : ∀ f, (removeExactFile f).Keeps P) :
    (finalizeRestoreApply m).Keeps P :=
  keeping.finalizeRestoreApply (fun _ => h _) (h _) (h _) (h _)

theorem keeps_abortRestoreApply (m : RestoreMutation) (h : ∀ f, (removeExactFile f).Keeps P) :
    (abortRestoreApply m).Keeps P := keeping.abortRestoreApply (h _) (h _)

end

namespace Rooted

theorem keeps_removeFile (f : File) : (removeExactFile f).Keeps (Disk.Rooted L) :=
  .sys fun _ h => h.removeFile f

theorem keeps_atomicJSON {target : Record} {publish : Disk → Disk}
    (comm : ∀ d ts, publish (Disk.withTemps d ts) = (publish d).withTemps ts)
    (hw : ∀ d, Within (· = target) (fun _ => False) (fun _ => False) d (publish d))
    (hcur : ∀ w, target ≠ .current w) : (atomicJSON target publish).Keeps (Disk.Rooted L) := by
  intro d h
  have new : (∀ p, target.dir = some p → p ∈ d.dirs) → ∀ ts, ((publish d).withTemps ts).Rooted L :=
    fun hdir ts => (h.publish target (hw d) hdir fun w e => absurd e (hcur w)).withTemps ts
  exact wp_atomicJSON (comm d) h.withTemps (fun _ => h.withTemps) new new new

theorem keeps_recordReceipt (env : Env) (r : Receipt) :
    (recordReceipt env r).Keeps (Disk.Rooted L) :=
  .bind (.reading _) fun _ =>
    .bind (keeps_atomicJSON (fun _ _ => rfl) (fun _ => within_setReceipt (S := (· = _)) rfl _)
    (by simp)) fun _ => .ret _

/-- The manifest of a Workspace that has its parts. -/
theorem always_publish (h : d.Rooted L) (hp : .part w .staged ∈ d.dirs ∧ .part w .rollback ∈ d.dirs)
    (m : CurrentManifest) : Always (Disk.Rooted L) (publishCurrentManifest w m) d := by
  have new : 1 ≤ m.generation → .part w .manifest ∈ d.dirs → ∀ ts,
      ((d.setManifest w m).withTemps ts).Rooted L := fun _ hdir ts =>
    (h.publish (.current w) (within_setManifest (S := (· = _)) rfl m) (fun p e => by cases e; exact hdir)
      fun v e => by cases e; exact hp).withTemps ts
  exact wp_publishCurrentManifest h.withTemps (fun _ => h.withTemps) new new new

theorem keeps_ensureTemplate (capacity : Int) :
    (ensureTemplate capacity).Keeps (Disk.Rooted L) := by
  have temps : ∀ f : Disk → Disk, (∀ d, ∃ ts, f d = d.withTemps ts) →
      ∀ d, d.Rooted L → (f d).Rooted L := fun f hf d h => by
    obtain ⟨ts, e⟩ := hf d
    exact e ▸ h.withTemps ts
  refine .bind (.require _ _) fun _ => .bind (.asking _) fun found => ?_
  cases found with
  | some i => exact .reading _
  | none =>
    exact .bind (.sys (temps _ fun d => ⟨_, rfl⟩)) fun _ =>
      .bind (.sys (temps _ fun d => ⟨_, rfl⟩)) fun _ =>
      .bind keeping.sync fun _ =>
        .bind (.sys fun d h => (h.withTemps _).setImage (by simp [ImageFile.dir]) _)
        fun _ => .bind keeping.sync fun _ => .reading _

theorem keeps_publishClone {dir : Dir} {final : ImageFile} (hf : final.dir = some dir) (mode : Nat)
    (op : ID) (uuid : Option FsUUID) (source : Image) :
    (publishClone dir final mode op uuid source).Keeps (Disk.Rooted L) := by
  intro d h
  unfold publishClone
  simp only [onError, bind_eq, wp_bind, wp_attempt, wp_sys, wp_sync, wp_requireDir, andThen_ok,
    andThen_error, wp_ret, wp_fail, id_eq]
  have here : ∀ ts, (d.withTemps ts).Rooted L := h.withTemps
  refine ⟨h, ⟨fun hdir => ?_, fun _ => here _⟩, h⟩
  have new : ∀ ts i, (Disk.setImage final i (d.withTemps ts)).Rooted L := fun ts i =>
    (here ts).setImage (fun p hp => by rw [hf] at hp; cases hp; exact hdir) i
  exact ⟨here _, ⟨here _, ⟨here _, ⟨here _, ⟨new _ _, new _ _, new _ _⟩, here _, here _, here _⟩, here _, here _,
    here _⟩, here _, here _, here _⟩, here _⟩

theorem keeps_cloneImage (source : ImageFile) {dir : Dir} {final : ImageFile}
    (hf : final.dir = some dir) (mode : Nat) (capacity : Int) (op : ID) (uuid : Option FsUUID) :
    (cloneImage source dir final mode capacity op uuid).Keeps (Disk.Rooted L) :=
  keeping.cloneImage fun i => keeps_publishClone hf mode op uuid i

/-! ## Removing directories -/

/-- A directory goes only when it is empty, and then it is gone. -/
theorem wp_removeDir {p : Dir} {Q : Except StoreErr Unit → Disk → Prop} {C : Disk → Prop} (hd : C d)
    (he : ∀ e, Q (.error e) d) (absent : p ∉ d.dirs → Q (.ok ()) d)
    (gone : d.isEmptyDir p = true → Q (.ok ()) (d.removeDir p)) : (removeDir p).wp C Q d := by
  refine wp_asking_bind ?_
  split
  · exact wp_asking_bind (wp_require_bind (fun _ => he _) fun h => ⟨hd, gone h, he _⟩)
  · rename_i h
    exact absent (by simpa using h)

theorem keeps_removePresentDir {p : Dir} (hL : ¬ L p)
    (hp : ∀ w, p ≠ .part w .staged ∧ p ≠ .part w .rollback) :
    (removePresentDir p).Keeps (Disk.Rooted L) := fun _ h =>
  wp_asking_bind (wp_require_bind (fun _ => h) fun he => ⟨h, h.removeDir he hL fun w hw =>
    hw.elim (fun e => absurd e (hp w).1) fun e => absurd e (hp w).2, h⟩)

/-- The parts of a Workspace whose manifest is gone. -/
theorem keeps_removeDir_part (hL : ∀ p, ¬ L p) (part : Part) :
    (removeDir (.part w part)).Keeps fun d => d.Rooted L ∧ d.hasRecord (.current w) = false := by
  intro d h
  refine wp_removeDir h (fun _ => h) (fun _ => h) fun he =>
    ⟨h.1.removeDir he (hL _) fun v hv => ?_, h.2⟩
  rcases hv with e | e <;> cases e <;> exact h.2

theorem keeps_removeWorkspacePart_bare (hL : ∀ p, ¬ L p) (part : Part) :
    (removeWorkspacePart w part).Keeps fun d => d.Rooted L ∧ d.hasRecord (.current w) = false := by
  refine .bind (.asking _) fun present => ?_
  cases present
  · exact .ret ()
  · refine .bind (.asking _) fun entries =>
      .bind (keeping.forEach fun f _ => .sys fun d h => ?_) fun _ =>
      keeps_removeDir_part hL part
    refine ⟨h.1.removeFile f, ?_⟩
    rcases (shrinks_removeFile d f).records (.current w) with same | gone
    · exact same.hasRecord.trans h.2
    · exact gone

/-- `removeWorkspaceTree`: once the manifest part is gone, so is the manifest. -/
theorem keeps_removeWorkspaceTree (hL : ∀ p, ¬ L p) (w : ID) :
    (removeWorkspaceTree w).Keeps (Disk.Rooted L) := by
  have remove : ∀ part, part ≠ .staged → part ≠ .rollback →
      ∀ d : Disk, d.Rooted L → (removeWorkspacePart w part).wp (Disk.Rooted L)
        (fun r d' => d'.Rooted L ∧ (r = .ok () → .part w part ∉ d'.dirs)) d := by
    intro part hs hr d h
    refine wp_asking_bind ?_
    split
    · refine wp_asking_bind ((wp_bind _ _ _ _).2 (wp_mono (fun r d' h' => ?_)
        (keeping.forEach (fun f _ => keeps_removeFile f) d h)))
      cases r with
      | error e => exact ⟨h', fun e => by cases e⟩
      | ok _ =>
        refine wp_removeDir h' (fun _ => ⟨h', fun e => by cases e⟩) (fun ha => ⟨h', fun _ => ha⟩)
          fun he => ?_
        refine ⟨h'.removeDir he (hL _) fun v hv => ?_, fun _ => by simp [Disk.removeDir]⟩
        rcases hv with e | e <;> cases e <;> contradiction
    · rename_i ha
      exact ⟨h, fun _ => by simpa using ha⟩
  intro d h
  refine (wp_bind _ _ _ _).2 (wp_mono (fun r d' h' => ?_) (remove .versions (by simp) (by simp) d h))
  cases r with
  | error e => exact h'.1
  | ok _ =>
    refine (wp_bind _ _ _ _).2 (wp_mono (fun r d' h' => ?_) (remove .manifest (by simp) (by simp) d' h'.1))
    cases r with
    | error e => exact h'.1
    | ok _ =>
      have bare : d'.hasRecord (.current w) = false := by
        by_contra hc
        exact h'.2 rfl (h'.1.records (.current w) _ rfl (by simpa using hc))
      refine Keeps.stronger (.bind (keeps_removeWorkspacePart_bare hL .staged) fun _ =>
        .bind (keeps_removeWorkspacePart_bare hL .rollback) fun _ => ?_) ⟨h'.1, bare⟩ fun _ h => h.1
      intro d h
      refine wp_removeDir h (fun _ => h) (fun _ => h) fun he =>
        ⟨h.1.removeDir he (hL _) fun v hv => ?_, h.2⟩
      rcases hv with e | e <;> cases e

/-! ## The operations -/

theorem keeps_publish (hL : L (.part w .staged) ∧ L (.part w .rollback)) (m : CurrentManifest) :
    (publishCurrentManifest w m).Keeps (Disk.Rooted L) :=
  fun _ h => always_publish h ⟨h.dirs _ hL.1, h.dirs _ hL.2⟩ m

/-- The parts of a Workspace. -/
def partsOf (w : ID) (p : Dir) : Prop := ∃ part, p = .part w part

theorem layout_bind {g : Unit → Op β} (h : d.Rooted L)
    (hg : (g ()).Keeps (Disk.Rooted (partsOf w))) :
    Always (Disk.Rooted fun _ => False) ((ensureWorkspaceLayout w).bind g) d := by
  rw [Always, wp_bind]
  unfold ensureWorkspaceLayout mkdir
  simp only [bind_eq, wp_bind, wp_sys, andThen_ok, andThen_error, wp_syncDir]
  have h₁ := h.addDir (.workspace w)
  have h₂ := h₁.addDir (.part w .versions)
  have h₃ := h₂.addDir (.part w .manifest)
  have h₄ := h₃.addDir (.part w .staged)
  have h₅ := h₄.addDir (.part w .rollback)
  refine ⟨h.weaken, ⟨h₁.weaken,
    ⟨h₂.weaken, ⟨h₃.weaken, ⟨h₄.weaken, ⟨fun _ => ⟨h₅.weaken, ?_, h₅.weaken⟩, fun _ => h₅.weaken⟩,
    h₄.weaken⟩, h₃.weaken⟩, h₂.weaken⟩, h₁.weaken⟩, h.weaken⟩
  refine Keeps.stronger hg ⟨h₅.records, h₅.images, h₅.parts, fun p hp => ?_⟩ fun _ => .weaken
  obtain ⟨part, rfl⟩ := hp
  cases part <;> simp [Disk.addDir]

theorem read_bind {g : CurrentManifest → Op β} (h : d.Rooted L)
    (hg : ∀ m, readCurrentManifest w d = .ok m →
      (g m).Keeps (Disk.Rooted fun p => p = .part w .staged ∨ p = .part w .rollback)) :
    Always (Disk.Rooted fun _ => False) ((reading (readCurrentManifest w)).bind g) d := by
  refine always_reading_bind (h.weaken) fun m hm => ?_
  have hp := h.parts w (by simp [Disk.hasRecord, readCurrentManifest_ok hm])
  refine Keeps.stronger (hg m hm) ⟨h.records, h.images, h.parts, fun p e => ?_⟩ fun _ => .weaken
  rcases e with rfl | rfl
  · exact hp.1
  · exact hp.2

theorem keeps_createApply (r : CreateWorkspaceRequest) :
    (createApply r).Keeps (Disk.Rooted fun _ => False) := by
  refine fun d h => layout_bind h (.bind (.asking _) fun found => ?_)
  split
  · exact .bind (.require _ _) fun _ => .bind (.reading _) fun _ => .ret _
  · exact .bind (keeps_ensureTemplate _) fun _ => .bind (keeps_cloneImage _ rfl _ _ _ _) fun _ =>
      .bind (keeps_publish ⟨⟨_, rfl⟩, ⟨_, rfl⟩⟩ _) fun _ => .ret _
  · exact .fail _

theorem keeps_cloneApply (r : CloneWorkspaceRequest) :
    (cloneApply r).Keeps (Disk.Rooted fun _ => False) := by
  refine .bind (.reading _) fun source => .bind (.require _ _) fun _ => .bind (.reading _) fun _ =>
    ?_
  refine fun d h => layout_bind h (.bind (.asking _) fun found => ?_)
  split
  · exact .bind (.require _ _) fun _ => .bind (.reading _) fun _ => .ret _
  · exact .bind (keeps_cloneImage _ rfl _ _ _ _) fun _ =>
      .bind (keeps_publish ⟨⟨_, rfl⟩, ⟨_, rfl⟩⟩ _) fun _ =>
      .ret _
  · exact .fail _

theorem keeps_advanceApply (r : AdvanceGenerationRequest) :
    (advanceApply r).Keeps (Disk.Rooted fun _ => False) := by
  refine fun d h => read_bind h fun m _ => ?_
  split
  · exact .ret _
  · exact .bind (.require _ _) fun _ => .bind (.asking _) fun _ => .bind (.require _ _) fun _ =>
      .bind (keeping.reclaimFreeBlocks _ _) fun _ => .bind (keeps_publish ⟨.inl rfl, .inr rfl⟩ _)
        fun _ => .ret _

theorem keeps_prepareRestoreApply (r : PrepareRestoreRequest) :
    (prepareRestoreApply r).Keeps (Disk.Rooted L) :=
  keeping.prepareRestoreApply (keeps_cloneImage _ rfl _ _ _ _) fun _ =>
    keeps_atomicJSON (fun _ _ => rfl) (fun _ => within_setStaged (S := (· = _)) rfl _) (by simp)

theorem keeps_publishRestoreVersion (w op : ID) (image : ImageName) :
    (publishRestoreVersion w op image).Keeps (Disk.Rooted L) := by
  refine .bind (.asking _) fun found => ?_
  cases found with
  | some i => exact .ret _
  | none =>
    refine .bind (.asking _) fun found => ?_
    cases found with
    | none => exact .fail _
    | some i =>
      intro d h
      refine always_requireDir_bind h fun hdir => always_sys_bind h ?_
      refine Keeps.bind (keeping.syncDir _) (fun _ => keeping.syncDir _) _ ?_
      exact (h.removeFile (.image (.staged w op))).setImage (fun p e => by cases e; exact hdir) i

theorem keeps_swapRestoreApply (r : SwapRestoreRequest) :
    (swapRestoreApply r).Keeps (Disk.Rooted fun _ => False) := by
  refine .bind (.asking _) fun found => ?_
  cases found with
  | error e => exact .fail _
  | ok staged =>
    refine .bind (.require _ _) fun _ => fun d h => read_bind h fun m _ => ?_
    split
    · refine .bind (.asking _) fun found => ?_
      cases found with
      | error e => exact .fail _
      | ok rb => exact .ret _
    · exact .bind (.require _ _) fun _ => .bind (keeps_publishRestoreVersion _ _ _) fun _ =>
        .bind (.reading _) fun _ => .bind (keeps_atomicJSON (fun _ _ => rfl)
          (fun _ => within_setRollback (S := (· = _)) rfl _) (by simp)) fun _ =>
          .bind (keeping.syncDir _) fun _ =>
            .bind (keeps_publish ⟨.inl rfl, .inr rfl⟩ _) fun _ => .ret _

/-- The staging file of an import lies outside the Workspace directories. -/
theorem keeps_setStaging (r : RelocationImportRequest) (e : StoreErr) (i : Image) :
    (sys e (Disk.setImage r.staging i) : Op Unit).Keeps (Disk.Rooted L) :=
  .sys fun _ h => h.setImage (by simp [RelocationImportRequest.staging, ImageFile.dir]) i

theorem keeps_stageImport (r : RelocationImportRequest) : (stageImport r).Keeps (Disk.Rooted L) :=
  .bind (keeps_removeFile _) fun _ => .bind (keeps_ensureTemplate _) fun _ =>
    .bind (keeps_setStaging r _ _)
    fun _ => keeping.onError (.bind (keeps_setStaging r _ _) fun _ => keeps_setStaging r _ _)
      (keeps_removeFile _)

theorem keeps_publishImport (env : Env) (h : RelocationImport) :
    (publishImport env h).Keeps (Disk.Rooted fun _ => False) := by
  refine fun d hd => layout_bind hd (.bind (.asking _) fun found => ?_)
  cases found with
  | none => exact .fail _
  | some i =>
    refine .bind (.sys fun d hd => ?_) fun _ => .bind keeping.sync fun _ =>
      .bind (keeps_publish ⟨⟨_, rfl⟩, ⟨_, rfl⟩⟩ _) fun _ => keeps_recordReceipt _ _
    exact (hd.removeFile (.image h.request.staging)).setImage
      (fun p e => by cases e; exact hd.dirs _ ⟨_, rfl⟩) i

theorem keeps_cleanupStaging (h : RelocationImport) : (cleanupStaging h).Keeps (Disk.Rooted L) :=
  .bind (keeps_removeFile _) fun _ => keeping.sync

theorem keeps_mutation {env : Env} {request : Json} {m : Mutation} {kind : ReceiptKind}
    {apply : Op Receipt} (h : apply.Keeps (Disk.Rooted L)) :
    (mutate env request m kind apply).Keeps (Disk.Rooted L) :=
  keeping.mutate h fun r _ _ _ => keeps_recordReceipt env r

theorem keeps_call (s : Store) (env : Env) (c : Call) :
    (c.prog s env).Keeps (Disk.Rooted fun _ => False) := by
  cases c with
  | create r => exact .bind (keeping.create (keeps_mutation (keeps_createApply r))) fun _ => .ret _
  | cloneFromSnapshot r =>
    exact .bind (keeping.cloneFromSnapshot (keeps_mutation (keeps_cloneApply r))) fun _ => .ret _
  | openWorkspace w g => exact .bind (keeping.openWorkspace env w g) fun _ => .ret _
  | closeAttachment | closeExport => exact .ret _
  | guestWrite w written =>
    simp only [Call.prog]
    split
    · exact .ret _
    · rename_i image _
      intro d h
      refine always_asking_bind ?_
      split
      · exact h
      · rename_i i hi
        exact always_sys_bind h (h.setImage (fun p e => h.images _ p e (by simp [hi])) _)
  | advanceGeneration r =>
    exact .bind (.bind (.require _ _) fun _ => keeps_mutation (keeps_advanceApply r)) fun _ =>
      .ret _
  | createSnapshot r =>
    exact .bind (.bind (.reading _) fun _ =>
      keeps_mutation (keeping.createSnapshotApply (.sys fun _ h => h.addDir _)
      (keeps_cloneImage _ rfl _ _ _ _) fun _ => keeps_atomicJSON (fun _ _ => rfl)
        (fun _ => within_setSnapshot (S := (· = _)) rfl _) (by simp))) fun _ => .ret _
  | deleteSnapshot r =>
    exact .bind (.bind (.reading _) fun _ => keeps_mutation (keeping.deleteSnapshotApply (keeps_removeFile _)
      (keeps_removeFile _) (keeps_removePresentDir id (by simp)))) fun _ => .ret _
  | prepareRestore r =>
    exact .bind (.bind (.reading _) fun _ => keeps_mutation (keeps_prepareRestoreApply r)) fun _ =>
      .ret _
  | swapRestore r =>
    exact .bind (.bind (.reading _) fun _ => keeps_mutation (keeps_swapRestoreApply r)) fun _ =>
      .ret _
  | finalizeRestore m =>
    exact .bind (keeps_mutation (keeps_finalizeRestoreApply m keeps_removeFile)) fun _ => .ret _
  | abortRestore m =>
    exact .bind (keeps_mutation (keeps_abortRestoreApply m keeps_removeFile)) fun _ => .ret _
  | deleteWorkspace r =>
    exact .bind (keeps_mutation (keeping.deleteWorkspaceApply (keeping.deleteWorkspaceSnapshots _
      (fun _ => keeps_removeFile _) (fun _ => keeps_removeFile _) fun _ =>
      keeps_removePresentDir id (by simp))
      (keeps_removeWorkspaceTree (fun _ => id) _) (keeping.deleteWorkspaceReceipts fun _ _ _ =>
        keeps_removeFile _)))
      fun _ => .ret _
  | openRelocationExport r =>
    exact .bind (keeping.openRelocationExport (keeps_mutation fun _ h => read_bind h fun _ _ => .bind (.require _ _)
      fun _ => .bind (.reading _) fun _ => .bind (.require _ _) fun _ =>
      .bind (keeps_publish ⟨.inl rfl, .inr rfl⟩ _)
        fun _ => .ret _)) fun _ => .ret _
  | abortRelocation r =>
    exact .bind (keeps_mutation fun _ h => read_bind h fun _ _ => .bind (.require _ _) fun _ =>
      .bind (keeps_publish ⟨.inl rfl, .inr rfl⟩ _) fun _ => .ret _) fun _ => .ret _
  | beginRelocationImport r =>
    exact .bind (keeping.beginRelocationImport (keeps_removeWorkspaceTree (fun _ => id) _)
      (keeps_stageImport r)) fun _ => .ret _
  | writeChunk i offset c =>
    simp only [Call.prog]
    split
    · exact .ret _
    · exact .bind (keeping.writeChunk (fun _ => keeps_setStaging _ _ _) offset c) fun _ => .ret _
  | complete i size checksum =>
    simp only [Call.prog]
    split
    · exact .ret _
    · exact .bind (keeping.complete (keeps_publishImport env _) (keeps_cleanupStaging _) size
        checksum) fun _ => .ret _
  | abortImport i =>
    simp only [Call.prog]
    split
    · exact .ret _
    · exact .bind (keeping.abort (keeps_removeWorkspaceTree (fun _ => id) _)
        (keeps_cleanupStaging _)) fun _ => .ret _
  | inspect w =>
    exact .bind (.bind (.reading _) fun _ => .bind (keeping.lockWorkspace _ _) fun _ => .reading _)
      fun _ => .ret _
  | reconcile => exact .bind (.reading _) fun _ => .ret _
  | kill => exact .bind (.sys fun _ => id) fun _ => .ret _

end Rooted

theorem Store.rooted_after (hist : List (Call × Moment)) :
    (Store.init.after hist).disk.Rooted fun _ => False := by
  refine Store.after_keeps Rooted.keeps_call hist ⟨fun r _ _ hr => ?_, fun f _ _ hf => ?_,
    fun w hw => ?_, fun _ => False.elim⟩
  · cases r <;> simp [Store.init, Disk.empty, Disk.hasRecord] at hr
  · simp [Store.init, Disk.empty] at hf
  · simp [Store.init, Disk.empty, Disk.hasRecord] at hw

end SecondBox.WorkspaceStore

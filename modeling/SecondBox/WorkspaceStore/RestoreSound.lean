/-
  Rollback records, operation by operation.

  SwapRestore leaves a rollback record that only FinalizeRestore of the same
  operation removes, and while it is there PrepareRestore and DeleteWorkspace
  refuse the Workspace.  A record can be finalized once the manifest selects the
  version it leads to, and swapped first while the manifest still selects the
  version it comes from (`Disk.RollbackSound`).  Here: which operations keep
  that, wherever they stop.
-/
import SecondBox.WorkspaceStore.Converge

namespace SecondBox.WorkspaceStore

open Crash Crash.Prog

variable {α β : Type} {d d' : Disk} {w op : ID} {rb : RollbackManifest} {m : CurrentManifest}

/-- The manifest selects the version the rollback record leads to. -/
structure Disk.AtNext (d : Disk) (w : ID) (rb : RollbackManifest) (m : CurrentManifest) : Prop where
  manifest : readCurrentManifest w d = .ok m
  generation : m.generation = rb.nextGeneration
  image : m.image = rb.nextImage

/-- The manifest selects the version the rollback record comes from, and
    SwapRestore finds everything it needs to go on. -/
structure Disk.AtPrevious (d : Disk) (w op : ID) (rb : RollbackManifest) (m : CurrentManifest)
    (s : StagedRestore) : Prop where
  manifest : readCurrentManifest w d = .ok m
  generation : m.generation = rb.previousGeneration
  image : m.image = rb.previousImage
  staged : readStagedRestore w op d = .ok s
  expected : s.expectedGeneration = rb.previousGeneration
  next : s.nextGeneration = rb.nextGeneration
  target : s.image = rb.nextImage
  restored : ∃ i, d.images.lookup (.version w rb.nextImage) = some i ∧ i.size = m.capacityBytes ∧
    i.ext4 = true ∧ i.uuid = deterministicUUID w
  unswapped : d.receipts.lookup (w, op, .restoreSwap) = none

/-- A rollback record that can be finalized, if need be after its swap is run again. -/
structure Disk.RollbackSound (d : Disk) (w op : ID) (rb : RollbackManifest) : Prop where
  readable : rb.Readable w op
  workspaceID : validID w = true
  operationID : validID op = true
  snapshotID : validID rb.snapshotID = true
  positive : 1 ≤ rb.nextGeneration
  /-- the image being replaced is older than the restored one -/
  older : rb.previousImage.generation < rb.nextGeneration
  nextImage : rb.nextImage = generationImageName rb.nextGeneration (.restore op)
  present : (d.images.lookup (.version w rb.nextImage)).isSome
  unfinalized : d.receipts.lookup (w, op, .restoreFinalize) = none
  position : (∃ m, d.AtNext w rb m) ∨ ∃ m s, d.AtPrevious w op rb m s

/-- `op` has a restore record in `w`. -/
def Disk.restores (d : Disk) (w op : ID) : Prop :=
  (d.staged.lookup (w, op)).isSome ∨ (d.rollbacks.lookup (w, op)).isSome

/-- What the restores of `w` rest on. -/
structure Disk.RestoreSound (w : ID) (d : Disk) : Prop where
  age : ∀ m, d.manifests.lookup w = some m → m.image.generation ≤ m.generation
  staged : ∀ op s, d.staged.lookup (w, op) = some s → validID w = true ∧ validID op = true ∧
    s.image = generationImageName s.nextGeneration (.restore op)
  single : ∀ op op', d.restores w op → d.restores w op' → op = op'
  rollback : ∀ op rb, d.rollbacks.lookup (w, op) = some rb → d.RollbackSound w op rb

/-- `w` is sound and has no rollback record. -/
def Disk.Unrolled (w : ID) (d : Disk) : Prop :=
  d.RestoreSound w ∧ ∀ op, d.rollbacks.lookup (w, op) = none

/-! ## Frames -/

/-- Nothing the soundness of `w` depends on differs between `d` and `d'`. -/
structure SameRestore (w : ID) (d d' : Disk) : Prop where
  manifest : d'.manifests.lookup w = d.manifests.lookup w
  staged : ∀ op, d'.staged.lookup (w, op) = d.staged.lookup (w, op)
  rollback : ∀ op, d'.rollbacks.lookup (w, op) = d.rollbacks.lookup (w, op)
  swaps : ∀ op, d'.receipts.lookup (w, op, .restoreSwap) = d.receipts.lookup (w, op, .restoreSwap)
  finals : ∀ op, d'.receipts.lookup (w, op, .restoreFinalize) = d.receipts.lookup (w, op,
    .restoreFinalize)
  images : ∀ op rb i, d.rollbacks.lookup (w, op) = some rb →
    d.images.lookup (.version w rb.nextImage) = some i →
    d'.images.lookup (.version w rb.nextImage) = some i

theorem readCurrentManifest_same (h : d'.manifests.lookup w = d.manifests.lookup w) :
    readCurrentManifest w d' = readCurrentManifest w d := by
  simp only [readCurrentManifest, h]

theorem readStagedRestore_same (h : d'.staged.lookup (w, op) = d.staged.lookup (w, op)) :
    readStagedRestore w op d' = readStagedRestore w op d := by
  simp only [readStagedRestore, h]

theorem Disk.AtNext.same (h : d.AtNext w rb m) (hm : d'.manifests.lookup w = d.manifests.lookup w) :
    d'.AtNext w rb m :=
  ⟨(readCurrentManifest_same hm).trans h.manifest, h.generation, h.image⟩

theorem SameRestore.refl (w : ID) (d : Disk) : SameRestore w d d :=
  ⟨rfl, fun _ => rfl, fun _ => rfl, fun _ => rfl, fun _ => rfl, fun _ _ _ _ h => h⟩

theorem SameRestore.withTemps (w : ID) (d : Disk) (ts : List Temp) :
    SameRestore w d (d.withTemps ts) :=
  ⟨rfl, fun _ => rfl, fun _ => rfl, fun _ => rfl, fun _ => rfl, fun _ _ _ _ h => h⟩

theorem SameRestore.removeImage {f : ImageFile}
    (hf : ∀ op rb, d.rollbacks.lookup (w, op) = some rb → f ≠ .version w rb.nextImage) :
    SameRestore w d (d.removeImage f) := by
  refine ⟨rfl, fun _ => rfl, fun _ => rfl, fun _ => rfl, fun _ => rfl, fun op rb i hrb hi => ?_⟩
  rwa [Disk.removeImage, AList.lookup_erase_ne (hf op rb hrb).symm]

/-- Of the receipts, only those of operations with a rollback record matter; that of a swap only before it is done. -/
theorem Disk.RestoreSound.of_same (h : d.RestoreSound w)
    (hm : d'.manifests.lookup w = d.manifests.lookup w)
    (hst : ∀ op, d'.staged.lookup (w, op) = d.staged.lookup (w, op))
    (hrb : ∀ op, d'.rollbacks.lookup (w, op) = d.rollbacks.lookup (w, op))
    (hswap : ∀ op rb, d.rollbacks.lookup (w, op) = some rb → (∃ m, d.AtNext w rb m) ∨
      d'.receipts.lookup (w, op, .restoreSwap) = d.receipts.lookup (w, op, .restoreSwap))
    (hfinal : ∀ op rb, d.rollbacks.lookup (w, op) = some rb →
      d'.receipts.lookup (w, op, .restoreFinalize) = d.receipts.lookup (w, op, .restoreFinalize))
    (himages : ∀ op rb i, d.rollbacks.lookup (w, op) = some rb →
      d.images.lookup (.version w rb.nextImage) = some i →
        d'.images.lookup (.version w rb.nextImage) = some i) :
    d'.RestoreSound w where
  age m hl := h.age m (hm ▸ hl)
  staged op s hs := h.staged op s (hst op ▸ hs)
  single op op' ho ho' := by
    unfold Disk.restores at ho ho'
    rw [hst, hrb] at ho ho'
    exact h.single op op' ho ho'
  rollback op rb hl := by
    rw [hrb] at hl
    have hr := h.rollback op rb hl
    obtain ⟨i, hi⟩ := Option.isSome_iff_exists.1 hr.present
    refine { hr with
      present := by simp [himages op rb i hl hi], unfinalized := (hfinal op rb hl).trans hr.unfinalized
      position := ?_ }
    rcases hr.position with ⟨m, hn⟩ | ⟨m, s, hp⟩
    · exact .inl ⟨m, hn.same hm⟩
    rcases hswap op rb hl with ⟨m, hn⟩ | hsw
    · exact .inl ⟨m, hn.same hm⟩
    · obtain ⟨j, hj, hv⟩ := hp.restored
      exact .inr ⟨m, s, { hp with
        manifest := (readCurrentManifest_same hm).trans hp.manifest
        staged := (readStagedRestore_same (hst op)).trans hp.staged
        restored := ⟨j, himages op rb j hl hj, hv⟩, unswapped := hsw.trans hp.unswapped }⟩

theorem SameRestore.sound (hs : SameRestore w d d') (h : d.RestoreSound w) : d'.RestoreSound w :=
  h.of_same hs.manifest hs.staged hs.rollback (fun op _ _ => .inr (hs.swaps op))
    (fun op _ _ => hs.finals op) hs.images

theorem Disk.RestoreSound.withTemps (h : d.RestoreSound w) (ts : List Temp) :
    (d.withTemps ts).RestoreSound w :=
  (SameRestore.withTemps w d ts).sound h

theorem SameRestore.unrolled (hs : SameRestore w d d') (h : d.Unrolled w) : d'.Unrolled w :=
  ⟨hs.sound h.1, fun op => (hs.rollback op).trans (h.2 op)⟩

/-- Records that the soundness of `w` depends on. -/
def Record.restores (w : ID) : Record → Prop
  | .current v => v = w
  | .staged v _ | .rollback v _ => v = w
  | .receipt v _ k => v = w ∧ (k = .restoreSwap ∨ k = .restoreFinalize)
  | .snapshot _ => False

variable {S : Record → Prop} {I : ImageFile → Prop} {D : Dir → Prop}

theorem SameRestore.of_within (h : Within S I D d d') (hS : ∀ x, S x → ¬ x.restores w)
    (hI : ∀ g op, ¬ I (.version w ⟨g, .restore op⟩)) (hs : d.RestoreSound w) :
    SameRestore w d d' where
  manifest := h.records (.current w) fun hx => hS _ hx rfl
  staged op := h.records (.staged w op) fun hx => hS _ hx rfl
  rollback op := h.records (.rollback w op) fun hx => hS _ hx rfl
  swaps op := h.records (.receipt w op .restoreSwap) fun hx => hS _ hx ⟨rfl, .inl rfl⟩
  finals op := h.records (.receipt w op .restoreFinalize) fun hx => hS _ hx ⟨rfl, .inr rfl⟩
  images op rb i hrb hi := by
    rw [h.images _ ?_, hi]
    rw [(hs.rollback op rb hrb).nextImage]
    exact hI _ _

variable {p : Op α}

theorem Touches.keepsRestore (h : Touches S I D p) (hS : ∀ x, S x → ¬ x.restores w)
    (hI : ∀ g op, ¬ I (.version w ⟨g, .restore op⟩)) : p.Keeps (Disk.RestoreSound w) :=
  fun _ hs => Touches.always h fun _ hd => (SameRestore.of_within hd hS hI hs).sound hs

theorem SameRestore.of_agree (h : Agree w d d') : SameRestore w d d' where
  manifest := h.records (.current w) rfl
  staged op := h.records (.staged w op) rfl
  rollback op := h.records (.rollback w op) rfl
  swaps op := h.records (.receipt w op .restoreSwap) rfl
  finals op := h.records (.receipt w op .restoreFinalize) rfl
  images _ _ _ _ hi := (h.images _ rfl).trans hi

/-! ## Updates -/

theorem lt_succ_of_pos {a : UInt64} (h : 1 ≤ a + 1) : a < a + 1 := by
  rw [UInt64.le_iff_toNat_le] at h
  rw [UInt64.lt_iff_toNat_lt]
  simp only [UInt64.toNat_add, UInt64.reduceToNat] at *
  have := a.toNat_lt
  omega

theorem lookup_of_lookup_erase {κ ν : Type} [DecidableEq κ] {s : AList fun _ : κ => ν} {k k' : κ}
    {v : ν} (h : (s.erase k).lookup k' = some v) : s.lookup k' = some v := by
  by_cases he : k' = k
  · subst he
    rw [AList.lookup_erase] at h
    cases h
  · rwa [AList.lookup_erase_ne he] at h

namespace Disk.RestoreSound

variable (h : d.RestoreSound w)
include h

theorem manifest_of_rollback (hrb : d.rollbacks.lookup (w, op) = some rb) :
    ∃ m, readCurrentManifest w d = .ok m := by
  rcases (h.rollback op rb hrb).position with ⟨m, hn⟩ | ⟨m, s, hp⟩
  · exact ⟨m, hn.manifest⟩
  · exact ⟨m, hp.manifest⟩

theorem unrolled (hm : ∀ m, readCurrentManifest w d ≠ .ok m) : d.Unrolled w := by
  refine ⟨h, fun op => ?_⟩
  cases hrb : d.rollbacks.lookup (w, op) with
  | none => rfl
  | some rb =>
    obtain ⟨m, hm'⟩ := h.manifest_of_rollback hrb
    exact absurd hm' (hm m)

theorem reseal (hm : readCurrentManifest w d = .ok m) (b : Bool) :
    (d.setManifest w { m with relocationSealed := b }).RestoreSound w := by
  obtain ⟨hl, hread⟩ := readCurrentManifest_iff.1 hm
  have hm' : readCurrentManifest w (d.setManifest w { m with relocationSealed := b }) =
      .ok { m with relocationSealed := b } :=
    readCurrentManifest_iff.2 ⟨AList.lookup_insert _, hread⟩
  refine ⟨fun m' hl' => ?_, h.staged, h.single, fun op rb hrb => ?_⟩
  · rw [Disk.setManifest, AList.lookup_insert] at hl'
    cases hl'
    exact h.age m hl
  · have hr := h.rollback op rb hrb
    refine { hr with position := ?_ }
    rcases hr.position with ⟨m₀, hn⟩ | ⟨m₀, s, hp⟩
    · cases hm.symm.trans hn.manifest
      exact .inl ⟨_, hm', hn.generation, hn.image⟩
    · cases hm.symm.trans hp.manifest
      exact .inr ⟨_, s, { hp with manifest := hm' }⟩

/-- A staged record goes only once its rollback record, if any, is at its next version. -/
theorem dropStaged (op : ID)
    (hn : ∀ rb, d.rollbacks.lookup (w, op) = some rb → ∃ m, d.AtNext w rb m) :
    (d.removeRecord (.staged w op)).RestoreSound w := by
  have back : ∀ o, (d.removeRecord (.staged w op)).restores w o → d.restores w o := fun o ho =>
    ho.imp_left fun hs => by
      obtain ⟨s, hs⟩ := Option.isSome_iff_exists.1 hs
      exact Option.isSome_of_mem (lookup_of_lookup_erase hs)
  refine ⟨h.age, fun op' s hs => h.staged op' s (lookup_of_lookup_erase hs),
    fun o o' ho ho' => h.single o o' (back o ho) (back o' ho'), fun op' rb hrb => ?_⟩
  have hr := h.rollback op' rb hrb
  refine { hr with position := ?_ }
  by_cases he : op' = op
  · subst he
    obtain ⟨m, hm⟩ := hn rb hrb
    exact .inl ⟨m, hm.same rfl⟩
  · rcases hr.position with ⟨m, hm⟩ | ⟨m, s, hp⟩
    · exact .inl ⟨m, hm.same rfl⟩
    · have hs : readStagedRestore w op' (d.removeRecord (.staged w op)) = .ok s :=
        (readStagedRestore_same (AList.lookup_erase_ne (by simp [he]))).trans hp.staged
      exact .inr ⟨m, s, { hp with staged := hs }⟩

theorem dropRollback (op : ID) : (d.removeRecord (.rollback w op)).RestoreSound w := by
  have back : ∀ o, (d.removeRecord (.rollback w op)).restores w o → d.restores w o := fun o ho =>
    ho.imp_right fun hs => by
      obtain ⟨rb, hrb⟩ := Option.isSome_iff_exists.1 hs
      exact Option.isSome_of_mem (lookup_of_lookup_erase hrb)
  refine ⟨h.age, h.staged, fun o o' ho ho' => h.single o o' (back o ho) (back o' ho'),
    fun op' rb hrb => ?_⟩
  have hr := h.rollback op' rb (lookup_of_lookup_erase hrb)
  refine { hr with position := ?_ }
  rcases hr.position with ⟨m, hm⟩ | ⟨m, s, hp⟩
  · exact .inl ⟨m, hm.same rfl⟩
  · exact .inr ⟨m, s, { hp with }⟩

/-- A receipt of a swap is recorded at the next version, one of a finalize after the rollback record is gone. -/
theorem recorded {k : ReceiptKind}
    (hw : Within (· = .receipt w op k) (fun _ => False) (fun _ => False) d d')
    (hswap : k = .restoreSwap → ∀ rb, d.rollbacks.lookup (w, op) = some rb → ∃ m, d.AtNext w rb m)
    (hfin : k = .restoreFinalize → d.rollbacks.lookup (w, op) = none) : d'.RestoreSound w := by
  refine h.of_same (hw.manifest (by simp)) (fun _ => hw.staged (by simp))
    (fun _ => hw.rollback (by simp)) ?_ ?_
    fun _ rb _ _ hi => (hw.images (.version w rb.nextImage) id).trans hi
  · intro op' rb hl
    by_cases he : op' = op ∧ k = .restoreSwap
    · obtain ⟨rfl, rfl⟩ := he
      exact .inl (hswap rfl rb hl)
    · exact .inr (hw.receipt fun e => he (by cases e; exact ⟨rfl, rfl⟩))
  · intro op' rb hl
    refine hw.receipt ?_
    rintro ⟨⟩
    rw [hfin rfl] at hl
    cases hl

/-- The first staged record of a Workspace, or one under the operation of its rollback record. -/
theorem setStaged {s : StagedRestore} (hn : d.staged.lookup (w, op) = none)
    (hop : ∀ op', d.restores w op' → op' = op) (hw : validID w = true) (ho : validID op = true)
    (hs : s.image = generationImageName s.nextGeneration (.restore op)) :
    (d.setStaged w op s).RestoreSound w := by
  have back : ∀ o, (d.setStaged w op s).restores w o → o = op := by
    rintro o (hst | hrb)
    · by_contra he
      rw [Disk.setStaged, AList.lookup_insert_ne (by simp [he])] at hst
      exact he (hop o (.inl hst))
    · exact hop o (.inr hrb)
  refine ⟨h.age, fun o s' hs' => ?_, fun o o' h₁ h₂ => (back o h₁).trans (back o' h₂).symm,
    fun o rb hrb => ?_⟩
  · by_cases he : o = op
    · subst he
      rw [Disk.setStaged, AList.lookup_insert] at hs'
      cases hs'
      exact ⟨hw, ho, hs⟩
    · rw [Disk.setStaged, AList.lookup_insert_ne (by simp [he])] at hs'
      exact h.staged o s' hs'
  · have hr := h.rollback o rb hrb
    obtain rfl : o = op := hop o (.inr (Option.isSome_of_mem hrb))
    refine { hr with position := ?_ }
    rcases hr.position with ⟨m, hn⟩ | ⟨m, s', hp⟩
    · exact .inl ⟨m, hn.same rfl⟩
    · rw [(readStagedRestore_iff.1 hp.staged).1] at hn
      cases hn

omit h

section
variable {r : SwapRestoreRequest} {s : StagedRestore}

/-- The record a swap goes by is the one its request names. -/
theorem staged_of_swap (h : d.RestoreSound r.workspaceID) (hc : SwapChecks r d s m) :
    s.expectedGeneration = r.expectedGeneration ∧ s.nextGeneration = r.nextGeneration ∧
      s.image = generationImageName r.nextGeneration (.restore r.operationID) := by
  have hm := hc.same
  simp only [stagedMatches, Bool.and_eq_true, beq_iff_eq] at hm
  refine ⟨hm.1.2, hm.2, ?_⟩
  rw [(h.staged _ s (readStagedRestore_iff.1 hc.staged).1).2.2, hm.2]

/-- While there is a staged record, no other operation has a restore record. -/
theorem only_swap (h : d.RestoreSound r.workspaceID) (hc : SwapChecks r d s m) (o : ID)
    (ho : d.restores r.workspaceID o) : o = r.operationID :=
  h.single o _ ho (.inl (by simp [(readStagedRestore_iff.1 hc.staged).1]))

/-- The rollback record of a swap, at its previous version. -/
theorem setRollback (h : d.RestoreSound r.workspaceID) (hc : SwapChecks r d s m) (hr : r.Valid)
    (hpos : 1 ≤ r.nextGeneration)
    (hv : validateExt4ImageUUID (.version r.workspaceID s.image) m.capacityBytes
      (deterministicUUID r.workspaceID) d = .ok ())
    (hsw : d.receipts.lookup (r.workspaceID, r.operationID, .restoreSwap) = none)
    (hf : d.receipts.lookup (r.workspaceID, r.operationID, .restoreFinalize) = none) :
    (d.setRollback r.workspaceID r.operationID (rollbackRecord r s m)).RestoreSound
      r.workspaceID := by
  obtain ⟨hexp, hnext, himg⟩ := h.staged_of_swap hc
  obtain ⟨hl, hread⟩ := readCurrentManifest_iff.1 hc.manifest
  obtain ⟨i, hi, hvalid⟩ := validateExt4ImageUUID_iff.1 hv
  have back : ∀ o, (d.setRollback r.workspaceID r.operationID (rollbackRecord r s m)).restores
      r.workspaceID o →
      o = r.operationID := by
    rintro o (hst | hrb)
    · exact h.only_swap hc o (.inl hst)
    · by_contra he
      rw [Disk.setRollback, AList.lookup_insert_ne (by simp [he])] at hrb
      exact he (h.only_swap hc o (.inr hrb))
  refine ⟨h.age, h.staged, fun o o' ho ho' => (back o ho).trans (back o' ho').symm,
    fun o rb hrb => ?_⟩
  obtain rfl : o = r.operationID := back o (.inr (Option.isSome_of_mem hrb))
  rw [Disk.setRollback, AList.lookup_insert] at hrb
  cases hrb
  have hgen : r.nextGeneration = m.generation + 1 := by rw [hc.generation, hr.nextGeneration]
  have hold : m.image.generation < r.nextGeneration :=
    UInt64.lt_of_le_of_lt (h.age m hl) (hgen ▸ lt_succ_of_pos (hgen ▸ hpos))
  exact {
    readable := ⟨rfl, rfl, rfl, hgen, hread.2.2.2⟩
    workspaceID := hr.workspaceID, operationID := hr.operationID, snapshotID := hr.snapshotID
    positive := hpos, older := hold, nextImage := himg
    present := Option.isSome_of_mem hi
    unfinalized := hf
    position :=
      .inr ⟨m, s, hc.manifest, rfl, rfl, hc.staged, hexp.trans hc.generation.symm, hnext, rfl,
      ⟨i, hi, hvalid⟩, hsw⟩ }

/-- The manifest a swap selects is the next version of its record. -/
theorem select (h : d.RestoreSound r.workspaceID) (hc : SwapChecks r d s m)
    (hpos : 1 ≤ r.nextGeneration)
    (hrb : d.rollbacks.lookup (r.workspaceID, r.operationID) = some (rollbackRecord r s m)) :
    (d.setManifest r.workspaceID (swappedManifest r s m)).RestoreSound r.workspaceID ∧
      (d.setManifest r.workspaceID (swappedManifest r s m)).AtNext r.workspaceID
        (rollbackRecord r s m) (swappedManifest r s m) := by
  have hcap := (readCurrentManifest_iff.1 hc.manifest).2.2.2.2
  have hnext : (d.setManifest r.workspaceID (swappedManifest r s m)).AtNext r.workspaceID
    (rollbackRecord r s m)
      (swappedManifest r s m) :=
    ⟨readCurrentManifest_iff.2 ⟨AList.lookup_insert _, rfl, rfl, hpos, hcap⟩, rfl, rfl⟩
  refine ⟨⟨fun m' hm' => ?_, h.staged, h.single, fun o rb hl => ?_⟩, hnext⟩
  · rw [Disk.setManifest, AList.lookup_insert] at hm'
    cases hm'
    simp only [swappedManifest, (h.staged_of_swap hc).2.2, generationImageName, UInt64.le_refl]
  · obtain rfl : o = r.operationID := h.only_swap hc o (.inr (Option.isSome_of_mem hl))
    cases hrb.symm.trans hl
    exact { h.rollback _ _ hl with position := .inl ⟨_, hnext⟩ }

end

end Disk.RestoreSound

/-- The manifest moves only where no rollback record looks at it. -/
theorem Disk.Unrolled.setManifest (h : d.Unrolled w) (hm : m.image.generation ≤ m.generation) :
    (d.setManifest w m).Unrolled w := by
  refine ⟨⟨fun m' hm' => ?_, h.1.staged, h.1.single, fun op rb hrb => ?_⟩, h.2⟩
  · rw [Disk.setManifest, AList.lookup_insert] at hm'
    cases hm'
    exact hm
  · rw [show (d.setManifest w m).rollbacks = d.rollbacks from rfl, h.2 op] at hrb
    cases hrb

theorem Disk.Unrolled.shrinks (h : d.Unrolled w) (hs : Shrinks d d') : d'.Unrolled w := by
  have hrb : ∀ op, d'.rollbacks.lookup (w, op) = none := fun op => by
    rcases hs.records (.rollback w op) with same | gone
    · exact Eq.trans same (h.2 op)
    · simpa [Disk.hasRecord] using gone
  have hst : ∀ op s, d'.staged.lookup (w, op) = some s → d.staged.lookup (w, op) = some s :=
    fun op s hl => by
    rcases hs.records (.staged w op) with same | gone
    · exact same ▸ hl
    · simp [Disk.hasRecord, hl] at gone
  have some_back : ∀ o, d'.restores w o → d.restores w o := fun o ho => by
    rcases ho with ho | ho
    · obtain ⟨s, hl⟩ := Option.isSome_iff_exists.1 ho
      exact .inl (by simp [hst o s hl])
    · simp [hrb o] at ho
  refine ⟨⟨fun m hm => h.1.age m ?_, fun op s hl => h.1.staged op s (hst op s hl),
    fun o o' ho ho' => h.1.single o o' (some_back o ho) (some_back o' ho'), fun op rb hl => ?_⟩,
    hrb⟩
  · rcases hs.manifest w with same | gone
    · exact same ▸ hm
    · rw [gone] at hm
      cases hm
  · rw [hrb op] at hl
    cases hl

/-! ## Workspaces without a rollback record -/

theorem Touches.keepsUnrolled (h : Touches S I D p) (hS : ∀ x, S x → ¬ x.restores w)
    (hI : ∀ g op, ¬ I (.version w ⟨g, .restore op⟩)) : p.Keeps (Disk.Unrolled w) :=
  fun _ hs => Touches.always h fun _ hd => (SameRestore.of_within hd hS hI hs.1).unrolled hs

theorem Touches.keepsUnrolled_images (h : Touches (fun _ => False) I D p)
    (hI : ∀ g op, ¬ I (.version w ⟨g, .restore op⟩)) : p.Keeps (Disk.Unrolled w) :=
  h.keepsUnrolled (fun _ => False.elim) hI

theorem Removes.keepsUnrolled (h : Removes p) : p.Keeps (Disk.Unrolled w) :=
  fun _ hs => Removes.wp h (fun _ => hs.shrinks) fun _ _ => hs.shrinks

variable (env : Env)

namespace Unrolled

theorem keeps_publish (hm : 1 ≤ m.generation → m.image.generation ≤ m.generation) :
    (publishCurrentManifest w m).Keeps (Disk.Unrolled w) := by
  intro d h
  have old : ∀ ts, (d.withTemps ts).Unrolled w :=
    fun ts => (SameRestore.withTemps w d ts).unrolled h
  have new : 1 ≤ m.generation → ∀ ts, ((d.setManifest w m).withTemps ts).Unrolled w := fun hg ts =>
    (SameRestore.withTemps w _ ts).unrolled (h.setManifest (hm hg))
  exact wp_publishCurrentManifest old (fun _ => old) (fun hg _ => new hg) (fun hg _ => new hg)
    fun hg _ => new hg

theorem keeps_recordReceipt {r : Receipt} (hk : r.kind ≠ .restoreSwap ∧ r.kind ≠ .restoreFinalize) :
    (recordReceipt env r).Keeps (Disk.Unrolled w) := by
  refine Touches.keepsUnrolled (S := (· = .receipt r.workspaceID r.operationID r.kind)) (I :=
    fun _ => False)
    (D := fun _ => False) (.recordReceipt env rfl) ?_ fun _ _ => id
  rintro _ rfl ⟨-, hr⟩
  exact hr.elim hk.1 hk.2

theorem keeps_layout (w v : ID) : (ensureWorkspaceLayout v).Keeps (Disk.Unrolled w) :=
  Touches.keepsUnrolled_images (I := fun _ => False) (D := fun _ => True)
    (.ensureWorkspaceLayout trivial fun _ => trivial) fun _ _ => id

theorem keeps_ensureTemplate (w : ID) (capacity : Int) :
    (ensureTemplate capacity).Keeps (Disk.Unrolled w) :=
  Touches.keepsUnrolled_images (I := (· = .template capacity)) (D := fun _ => False)
    (.ensureTemplate rfl) (by simp)

theorem keeps_cloneImage (source : ImageFile) {dir : Dir} {final : ImageFile}
    (hdir : final.dir = some dir) (mode : Nat) (capacity : Int) (op : ID) (uuid : Option FsUUID)
    (hf : ∀ g op, final ≠ .version w ⟨g, .restore op⟩) :
    (cloneImage source dir final mode capacity op uuid).Keeps (Disk.Unrolled w) :=
  Touches.keepsUnrolled_images (D := fun _ => False)
    (.cloneImage (I := (· = final)) _ rfl hdir _ _ _ _)
    fun g op e => hf g op e.symm

theorem keeps_stageImport (w : ID) (r : RelocationImportRequest) :
    (stageImport r).Keeps (Disk.Unrolled w) :=
  Touches.keepsUnrolled_images (I := fun f => f = r.staging ∨ f = .template r.capacityBytes) (D :=
    fun _ => False)
    (.stageImport (.inl rfl) (.inr rfl)) (by simp [RelocationImportRequest.staging])

theorem keeps_publishImport (h : RelocationImport) :
    (publishImport env h).Keeps (Disk.Unrolled h.request.workspaceID) := by
  refine .bind (keeps_layout _ _) fun _ => .bind (.asking _) fun found => ?_
  cases found with
  | none => exact .fail _
  | some i =>
    refine .bind (Touches.keepsUnrolled_images (I := fun f => f = h.request.staging ∨
        f = .version h.request.workspaceID h.request.image) (D := fun _ => False)
      (.sys fun _ => (within_removeImage (.inl rfl)).trans (within_setImage (.inr rfl) i))
      (by simp [RelocationImportRequest.staging, RelocationImportRequest.image, generationImageName])) fun _ => ?_
    exact .bind keeping.sync fun _ => .bind (keeps_publish fun _ => UInt64.le_refl _) fun _ =>
      keeps_recordReceipt env (by simp)

theorem keeps_cleanupStaging (w : ID) (h : RelocationImport) :
    (cleanupStaging h).Keeps (Disk.Unrolled w) :=
  Removes.keepsUnrolled (.bind (Removes.removeExactFile _) fun _ => Removes.composes.sync)

theorem keeps_complete (h : RelocationImport) (size : Nat) (checksum : Checksum) :
    (complete env h size checksum).Keeps (Disk.Unrolled h.request.workspaceID) :=
  keeping.complete (keeps_publishImport env h) (keeps_cleanupStaging _ h) size checksum

end Unrolled

/-! ## The calls that move a manifest -/

/-- A mutation whose receipt no restore depends on. -/
theorem mutate_restoreSound {env : Env} {request : Json} {mu : Mutation} {kind : ReceiptKind}
    {apply : Op Receipt} (h : d.RestoreSound w) (hk : kind ≠ .restoreSwap ∧ kind ≠ .restoreFinalize)
    (ha : d.receipts.lookup (mu.workspaceID, mu.operationID, kind) = none → env.held mu.workspaceID = false →
      Always (Disk.RestoreSound w) apply d) :
        Always (Disk.RestoreSound w) (mutate env request mu kind apply) d := by
  refine always_mutate h (fun hl _ => ha (loadReceipt_none hl)) fun d' d'' hd hw => ?_
  refine (SameRestore.of_within hw ?_ (fun _ _ => id) hd).sound hd
  rintro _ rfl ⟨-, hr⟩
  exact hr.elim hk.1 hk.2

theorem always_unrolled (h : p.Keeps (Disk.Unrolled w)) (hd : d.Unrolled w) :
    Always (Disk.RestoreSound w) p d :=
  h.stronger hd fun _ hs => hs.1

/-- The shared part of Create and CloneFromSnapshot: a manifest is published only
    where there is none. -/
theorem publishFirst_restoreSound {p : CurrentManifest → Op β} {q : Op β} {e : StoreErr → Op β}
    (h : d.RestoreSound w) (hp : ∀ m, (p m).Keeps (Disk.RestoreSound w))
    (hq : q.Keeps (Disk.Unrolled w)) (he : ∀ x, (e x).Keeps (Disk.RestoreSound w)) :
    Always (Disk.RestoreSound w) (do
      ensureWorkspaceLayout w
      match ← asking (readCurrentManifest w) with
      | .ok m => p m
      | .error .workspaceNotFound => q
      | .error x => e x) d := by
  have layout : ∀ d', Within (fun _ => False) (fun _ => False) (fun _ => True) d d' →
      d'.RestoreSound w :=
    fun d' hd => (SameRestore.of_within hd (fun _ => False.elim) (fun _ _ => id) h).sound h
  refine Touches.always_bind (.ensureWorkspaceLayout trivial fun _ => trivial) layout fun _ d' hd =>
    ?_
  have h' := layout d' hd
  refine always_asking_bind ?_
  split
  · exact hp _ d' h'
  · rename_i hm
    exact always_unrolled hq (h'.unrolled fun m hm' => by rw [hm] at hm'; cases hm')
  · exact he _ d' h'

theorem createApply_restoreSound (r : CreateWorkspaceRequest) (h : d.RestoreSound r.workspaceID) :
    Always (Disk.RestoreSound r.workspaceID) (createApply r) d := by
  refine publishFirst_restoreSound h (fun m => .bind (.require _ _) fun _ => .bind (.reading _)
    fun _ => .ret _)
    (.bind (Unrolled.keeps_ensureTemplate _ _) fun _ => .bind (Unrolled.keeps_cloneImage _ rfl _ _ _ _ ?_) fun _ =>
      .bind (Unrolled.keeps_publish fun _ => UInt64.le_refl _) fun _ => .ret _) fun _ => .fail _
  simp [generationImageName]

theorem cloneApply_restoreSound (r : CloneWorkspaceRequest) (h : d.RestoreSound r.workspaceID) :
    Always (Disk.RestoreSound r.workspaceID) (cloneApply r) d := by
  refine always_reading_bind h fun _ _ => always_require_bind h fun _ =>
    always_reading_bind h fun _ _ => ?_
  refine publishFirst_restoreSound h (fun m => .bind (.require _ _) fun _ => .bind (.reading _)
    fun _ => .ret _)
    (.bind (Unrolled.keeps_cloneImage _ rfl _ _ _ _ ?_) fun _ =>
      .bind (Unrolled.keeps_publish fun _ => UInt64.le_refl _) fun _ => .ret _) fun _ => .fail _
  simp [generationImageName]

theorem advanceApply_restoreSound (r : AdvanceGenerationRequest)
    (hn : r.nextGeneration = r.expectedGeneration + 1) (h : d.RestoreSound r.workspaceID)
    (hrb : ∀ m, d.manifests.lookup r.workspaceID = some m → m.generation = r.expectedGeneration →
      stagedRestorePending r.workspaceID d = false →
        ∀ op, d.rollbacks.lookup (r.workspaceID, op) = none) :
    Always (Disk.RestoreSound r.workspaceID) (advanceApply r) d := by
  refine always_reading_bind h fun m hm => ?_
  split
  · exact h
  refine always_require_bind h fun hg => always_asking_bind (always_require_bind h fun hp => ?_)
  refine always_unrolled (.bind ?_ fun _ => .bind (Unrolled.keeps_publish fun hpos => ?_) fun _ =>
    .ret _) ⟨h, hrb m (readCurrentManifest_ok hm) hg hp⟩
  · exact Touches.keepsUnrolled_images (I := fun _ => False) (D := fun _ => False)
      (Touches.composes.reclaimFreeBlocks _ _) fun _ _ => id
  · have hage := h.age m (readCurrentManifest_iff.1 hm).1
    simp only [hn] at hpos ⊢
    rw [hg] at hage
    exact UInt64.le_trans hage (UInt64.le_of_lt (lt_succ_of_pos hpos))

theorem exportApply_restoreSound (r : RelocationExportRequest) (h : d.RestoreSound r.workspaceID) :
    Always (Disk.RestoreSound r.workspaceID) (exportApply r) d := by
  refine always_reading_bind h fun m hm => always_require_bind h fun _ =>
    always_reading_bind h fun p hp =>
    always_require_bind h fun hpending => ?_
  subst hpending
  exact always_unrolled (.bind (Unrolled.keeps_publish fun _ => h.age m (readCurrentManifest_iff.1 hm).1) fun _ =>
    .ret _) ⟨h, (restorePending_eq_false.1 hp).2⟩

theorem abortRelocationApply_restoreSound (r : RelocationExportRequest)
    (h : d.RestoreSound r.workspaceID) :
    Always (Disk.RestoreSound r.workspaceID) (abortRelocationApply r) d := by
  refine always_reading_bind h fun m hm => always_require_bind h fun _ => ?_
  have resealed : ∀ ts,
    ((d.setManifest r.workspaceID { m with relocationSealed := false }).withTemps ts).RestoreSound
      r.workspaceID := (h.reseal hm false).withTemps
  exact always_publish_bind h.withTemps (fun _ _ => resealed) fun _ _ ts => resealed ts

theorem deleteWorkspaceApply_restoreSound (r : DeleteWorkspaceRequest)
    (h : d.RestoreSound r.workspaceID) :
    Always (Disk.RestoreSound r.workspaceID) (deleteWorkspaceApply r) d := by
  cases hm : readCurrentManifest r.workspaceID d with
  | error e =>
    exact always_unrolled (Removes.keepsUnrolled (.deleteWorkspaceApply r))
      (h.unrolled (by simp [hm]))
  | ok m =>
    refine always_asking_bind ?_
    rw [hm]
    refine always_require_bind h fun _ => always_reading_bind h fun p hp =>
      always_require_bind h fun hpending => ?_
    subst hpending
    refine always_unrolled (Removes.keepsUnrolled ?_) ⟨h, (restorePending_eq_false.1 hp).2⟩
    exact .bind (Removes.deleteWorkspaceSnapshots _) fun _ =>
      .bind (Removes.removeWorkspaceTree _) fun _ =>
      .bind Removes.composes.sync fun _ => .bind (Removes.deleteWorkspaceReceipts _) fun _ =>
        trivial

/-! ## The restore operations -/

theorem SameRestore.restores (h : SameRestore w d d') (op : ID) :
    d'.restores w op ↔ d.restores w op := by
  unfold Disk.restores
  rw [h.staged, h.rollback]

theorem prepareRestoreApply_restoreSound {r : PrepareRestoreRequest} (hr : r.Valid)
    (h : d.RestoreSound r.workspaceID) :
    Always (Disk.RestoreSound r.workspaceID) (prepareRestoreApply r) d := by
  refine always_prepareRestoreApply (V := SameRestore r.workspaceID d) h
    (fun _ ts h => h.withTemps ts) (fun _ _ _ => ?_)
    fun m _ X hc hn hs => ⟨hs.sound h, ?_⟩
  · exact Touches.always (.cloneImage (I := (· = .staged r.workspaceID r.operationID)) _ rfl rfl _ _
      _ _) fun _ hd =>
      .of_within (S := fun _ => False) (D := fun _ => False) hd (fun _ => False.elim) (by simp) h
  · obtain ⟨pending, hp, hown⟩ := hc.pending
    have only : ∀ o, d.restores r.workspaceID o → o = r.operationID := by
      intro o ho
      rcases hown with rfl | rfl
      · obtain ⟨hst, hrb⟩ := pendingRestoreOperation_none.1 hp
        simp [Disk.restores, hst, hrb] at ho
      · exact h.single o _ ho ((pendingRestoreOperation_some hp).imp_right (·.2))
    exact (hs.sound h).setStaged ((hs.staged _).trans hn)
      (fun o ho => only o ((hs.restores o).1 ho)) hr.workspaceID
      hr.operationID rfl

/-- Moving the staged image to its version path overwrites nothing. -/
theorem publishRestoreVersion_same (w op : ID) (image : ImageName) :
    Always (SameRestore w d) (publishRestoreVersion w op image) d := by
  have here : SameRestore w d d := .refl w d
  refine always_asking_bind ?_
  cases hv : d.images.lookup (.version w image) with
  | some i => exact here
  | none =>
    refine always_asking_bind ?_
    cases d.images.lookup (.staged w op) with
    | none => exact here
    | some i =>
      have moved : SameRestore w d (d.moveStaged w op image i) := by
        refine ⟨rfl, fun _ => rfl, fun _ => rfl, fun _ => rfl, fun _ => rfl, fun o rb j _ hj => ?_⟩
        have hne : ImageFile.version w rb.nextImage ≠ .version w image := fun e => by
          rw [e, hv] at hj
          cases hj
        rwa [Disk.moveStaged, Disk.setImage, AList.lookup_insert_ne hne, Disk.removeImage,
          AList.lookup_erase_ne (by simp)]
      exact always_requireDir_bind here fun _ => always_sys_bind here
        (Keeps.bind (keeping.syncDir _) (fun _ => keeping.syncDir _) _ moved)

/-- The swap of `r` is done: its rollback record, if any, is at its next version. -/
def Disk.Selected (r : SwapRestoreRequest) (d : Disk) : Prop :=
  d.RestoreSound r.workspaceID ∧
    ∀ rb, d.rollbacks.lookup (r.workspaceID, r.operationID) = some rb →
    ∃ m, d.AtNext r.workspaceID rb m

variable {r : SwapRestoreRequest}

/-- A swapped manifest is at the next version of the rollback record. -/
theorem Disk.RestoreSound.swapped {s : StagedRestore} (h : d.RestoreSound r.workspaceID)
    (hs : readStagedRestore r.workspaceID r.operationID d = .ok s)
    (hsame : stagedMatches s r = true)
    (hm : readCurrentManifest r.workspaceID d = .ok m) (hgen : m.generation = r.nextGeneration) :
    d.Selected r := by
  refine ⟨h, fun rb hrb => ?_⟩
  rcases (h.rollback _ rb hrb).position with hn | ⟨m', s', hp⟩
  · exact hn
  · cases hm.symm.trans hp.manifest
    cases hs.symm.trans hp.staged
    simp only [stagedMatches, Bool.and_eq_true, beq_iff_eq] at hsame
    -- the staged record would lead from a generation to itself
    have hloop : s.expectedGeneration + 1 = s.expectedGeneration := by
      rw [← (readStagedRestore_iff.1 hs).2.2.2.2.2.1, hsame.2, ← hgen, hp.generation, hp.expected]
    exact absurd hloop (by simp)

theorem swapRestoreApply_restoreSound (hr : r.Valid) (h : d.RestoreSound r.workspaceID)
    (hsw : d.receipts.lookup (r.workspaceID, r.operationID, .restoreSwap) = none)
    (hfree : ∀ s m, SwapChecks r d s m → r.nextGeneration ≠ 0 ∧
      d.receipts.lookup (r.workspaceID, r.operationID, .restoreFinalize) = none) :
    (swapRestoreApply r).wp (Disk.RestoreSound r.workspaceID)
      (fun res d' => d'.RestoreSound r.workspaceID ∧ ∀ rc, res = .ok rc → d'.Selected r) d := by
  refine wp_swapRestoreApply (V := fun _ _ => SameRestore r.workspaceID d) h
    (fun _ ts h => h.withTemps ts)
    (fun s m _ hs hsame hm hdone _ => h.swapped hs hsame hm hdone.1)
    (fun s _ _ => publishRestoreVersion_same r.workspaceID r.operationID s.image)
    fun s m X hc hX => ⟨hX.sound h, fun hv => ?_⟩
  obtain ⟨hne, hf⟩ := hfree s m hc
  have hpos : 1 ≤ r.nextGeneration := by
    rw [UInt64.le_iff_toNat_le]
    exact Nat.pos_of_ne_zero fun e => hne (UInt64.toNat_inj.1 e)
  have hc' : SwapChecks r X s m := ⟨(readStagedRestore_same (hX.staged _)).trans hc.staged, hc.same,
    (readCurrentManifest_same hX.manifest).trans hc.manifest, hc.unswapped, hc.generation⟩
  have recorded :=
    (hX.sound h).setRollback hc' hr hpos hv ((hX.swaps _).trans hsw) ((hX.finals _).trans hf)
  have hrb : (X.setRollback r.workspaceID r.operationID (rollbackRecord r s m)).rollbacks.lookup
      (r.workspaceID, r.operationID) = some (rollbackRecord r s m) := AList.lookup_insert _
  obtain ⟨hsel, hnext⟩ := recorded.select { hc' with } hpos hrb
  refine ⟨recorded, hsel, fun ts => ⟨hsel.withTemps ts, fun rb hl => ?_⟩⟩
  cases hrb.symm.trans hl
  exact ⟨_, hnext.same rfl⟩

theorem swapRestore_restoreSound (h : d.RestoreSound r.workspaceID)
    (hfree : d.receipts.lookup (r.workspaceID, r.operationID, .restoreSwap) = none →
      env.held r.workspaceID = false →
      ∀ s m, SwapChecks r d s m → r.nextGeneration ≠ 0 ∧
        d.receipts.lookup (r.workspaceID, r.operationID, .restoreFinalize) = none) :
    Always (Disk.RestoreSound r.workspaceID) (swapRestore env r) d := by
  refine always_reading_bind h fun _ hv => wp_mutate (fun _ => h) (fun _ _ _ => h) fun hl _ hh => ?_
  have hn := loadReceipt_none hl
  refine wp_mono (fun res d' hd => ?_)
    (swapRestoreApply_restoreSound (validRestoreRequest hv) h hn (hfree hn hh))
  cases res with
  | error e => exact hd.1
  | ok rc =>
    exact Touches.always (S := (· = .receipt r.workspaceID r.operationID .restoreSwap))
      (.recordReceipt env rfl)
      fun d'' hw => hd.1.recorded hw (fun _ => (hd.2 rc rfl).2) nofun

variable (mu : RestoreMutation)

theorem finalizeRestoreApply_restoreSound (h : d.RestoreSound mu.workspaceID) :
    (finalizeRestoreApply mu).wp (Disk.RestoreSound mu.workspaceID)
      (fun res d' => d'.RestoreSound mu.workspaceID ∧
        ∀ rc, res = .ok rc → d'.rollbacks.lookup (mu.workspaceID, mu.operationID) = none) d := by
  have err : ∀ {d' : Disk} (e : StoreErr), d'.RestoreSound mu.workspaceID →
      d'.RestoreSound mu.workspaceID ∧ ∀ rc, (Except.error e : Except StoreErr Receipt) = .ok rc →
        d'.rollbacks.lookup (mu.workspaceID, mu.operationID) = none :=
    fun e hd => ⟨hd, fun rc he => by cases he⟩
  refine wp_asking_bind ?_
  split
  · rename_i hn
    refine wp_reading_bind (fun e _ => err e h) fun found _ => ?_
    cases found with
    | none => exact err _ h
    | some rc => exact ⟨h, fun _ _ => readRollback_notExist.1 hn⟩
  · exact err _ h
  · rename_i rb hrb
    obtain ⟨hl, -⟩ := readRollback_iff.1 hrb
    refine wp_reading_bind (fun e _ => err e h) fun m hm =>
      wp_require_bind (fun _ => err _ h) fun hnext =>
      wp_require_bind (fun _ => err _ h) fun hprev => ?_
    -- the version it removes is not the one its record leads to, and there is no other record
    have h₁ := (SameRestore.removeImage (d := d) (f := .version mu.workspaceID rb.previousImage)
        fun o rb' ho => by
      obtain rfl : o = mu.operationID :=
        h.single o _ (.inr (Option.isSome_of_mem ho)) (.inr (Option.isSome_of_mem hl))
      cases hl.symm.trans ho
      simpa [← hnext.2] using hprev).sound h
    have h₂ :=
      (SameRestore.removeImage (f := .staged mu.workspaceID mu.operationID) (by simp)).sound h₁
    have h₃ := h₂.dropStaged mu.operationID fun rb' hrb' => by
      cases hl.symm.trans hrb'
      exact ⟨m, hm, hnext.1, hnext.2⟩
    have h₄ := h₃.dropRollback mu.operationID
    refine wp_sys_bind h (err _ h)
      (wp_sys_bind h₁ (err _ h₁) (wp_sys_bind h₂ (err _ h₂) (wp_sys_bind h₃ (err _ h₃) ?_)))
    have tail : ∀ rc : Receipt, (do
        syncDir (.part mu.workspaceID .versions)
        syncDir (.part mu.workspaceID .staged)
        syncDir (.part mu.workspaceID .rollback)
        pure rc : Op Receipt).Keeps fun d' => d'.RestoreSound mu.workspaceID ∧
          d'.rollbacks.lookup (mu.workspaceID, mu.operationID) = none := fun rc =>
      .bind (keeping.syncDir _) fun _ => .bind (keeping.syncDir _) fun _ =>
        .bind (keeping.syncDir _) fun _ => .ret _
    exact wp_crash_mono (fun _ hd => hd.1) (wp_mono (fun _ _ hd => ⟨hd.1, fun _ _ => hd.2⟩)
      (tail _ _ ⟨h₄, AList.lookup_erase _ _⟩))

theorem finalizeRestore_restoreSound (h : d.RestoreSound mu.workspaceID) :
    Always (Disk.RestoreSound mu.workspaceID) (finalizeRestore env mu) d := by
  refine wp_mutate (fun _ => h) (fun _ _ _ => h) fun hl _ _ => ?_
  refine wp_mono (fun res d' hd => ?_) (finalizeRestoreApply_restoreSound mu h)
  cases res with
  | error e => exact hd.1
  | ok rc =>
    exact Touches.always (S := (· = .receipt mu.workspaceID mu.operationID .restoreFinalize))
      (.recordReceipt env rfl)
      fun d'' hw => hd.1.recorded hw nofun fun _ => hd.2 rc rfl

theorem abortRestoreApply_restoreSound (h : d.RestoreSound mu.workspaceID) :
    Always (Disk.RestoreSound mu.workspaceID) (abortRestoreApply mu) d := by
  refine always_asking_bind ?_
  split
  · exact h
  · rename_i hn
    refine always_asking_bind ?_
    split
    · exact h
    · exact h
    · have h₁ :=
        (SameRestore.removeImage (f := .staged mu.workspaceID mu.operationID) (by simp)).sound h
      have h₂ := h₁.dropStaged mu.operationID fun rb hrb => by
        have hnone := readRollback_notExist.1 hn
        cases hnone.symm.trans hrb
      exact always_sys_bind h (always_sys_bind h₁ (always_syncDir_bind h₂ h₂))
  · exact h

end SecondBox.WorkspaceStore

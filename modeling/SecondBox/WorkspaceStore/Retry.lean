/-
  Taking up a restore operation after a crash.

  Each of the four restore operations is cut only on disks from which running it
  again ends like the run that was cut: with the same result, the same manifests
  and the same images (`Retried`).  The exceptions are the two operations that
  remove the record they answer from: AbortRestore its staged record, and
  FinalizeRestore its rollback record, where SwapRestore left no receipt.
-/
import SecondBox.WorkspaceStore.Reads
import SecondBox.WorkspaceStore.Runs

namespace SecondBox.WorkspaceStore

open Crash Crash.Prog

variable {d D D' X : Disk}

/-- How the answer of a run taken up on a disk may differ from that of the uncut
    run: the disk, the uncut answer, the answer. -/
abbrev Loss : Type := Disk → Except StoreErr Receipt → Except StoreErr Receipt → Prop

/-- Run again on `X`, `p` ends as it does on `d`, up to what is `lost`. -/
structure Retried (p : Op Receipt) (lost : Loss) (d X : Disk) : Prop where
  receipts : X.receipts = d.receipts
  manifests : (p.run X).2.manifests = (p.run d).2.manifests
  images : (p.run X).2.images = (p.run d).2.images
  result : (p.run X).1 = (p.run d).1 ∨ lost X (p.run d).1 (p.run X).1

section
variable {p : Op Receipt} {lost : Loss} {r r' : Except StoreErr Receipt}

theorem Retried.refl (p : Op Receipt) (lost : Loss) (d : Disk) :
    Retried p lost d d := ⟨rfl, rfl, rfl, .inl rfl⟩

theorem Retried.of_ends (hd : Ends p d r D) (hX : Ends p X r' D') (hr : X.receipts = d.receipts)
    (hm : D'.manifests = D.manifests) (hi : D'.images = D.images) (h : r' = r ∨ lost X r r') :
    Retried p lost d X := by
  obtain ⟨ts, hd⟩ := hd.run_eq
  obtain ⟨us, hX⟩ := hX.run_eq
  exact ⟨hr, by rw [hd, hX]; exact hm, by rw [hd, hX]; exact hi, by rw [hd, hX]; exact h⟩

/-- A cut run of `p` on `d` can be taken up again, also after `p` has returned. -/
def Resumable (p : Op Receipt) (lost : Loss) (d : Disk) : Prop :=
  Walk (Retried p lost d) p d fun receipt D => Ends p d (.ok receipt) D ∧ Retried p lost d D

end

/-! ## PrepareRestore -/

/-- What `PrepareRestore` has checked before it stages anything. -/
structure PrepareChecks (r : PrepareRestoreRequest) (d : Disk) (m : CurrentManifest)
    (source : Image) :
    Prop where
  manifest : readCurrentManifest r.workspaceID d = .ok m
  generation : m.generation = r.expectedGeneration
  snapshot : ∃ sm, readSnapshotManifest r.snapshotID d = .ok sm ∧ sm.workspaceID = r.workspaceID ∧
    sm.capacityBytes = m.capacityBytes
  present : d.images.lookup (.snapshot r.snapshotID) = some source
  valid : source.size = m.capacityBytes ∧ source.ext4 = true ∧
    source.uuid = deterministicUUID r.workspaceID
  pending : ∃ found, pendingRestoreOperation r.workspaceID d = .ok found ∧
    (found = none ∨ found = some r.operationID)

variable {V : Disk → Prop} {R : Receipt → Disk → Prop}

section
variable {r : PrepareRestoreRequest} {m : CurrentManifest} {source : Image}
  {res : Except StoreErr Receipt}

theorem PrepareChecks.ends (h : PrepareChecks r d m source) (hs : Ends (stageRestore r m) d res D) :
    Ends (prepareRestoreApply r) d res D := by
  obtain ⟨sm, hsm, hw, hc⟩ := h.snapshot
  obtain ⟨found, hp, hf⟩ := h.pending
  refine .bind (.reading_ok h.manifest) (.bind (.require_ok h.generation)
    (.bind (.reading_ok hsm) (.bind (.require_ok ⟨hw, hc⟩) ?_)))
  refine .asking_bind ?_
  rw [hc, validateExt4ImageUUID_iff.2 ⟨source, h.present, h.valid⟩]
  exact .bind (.reading_ok hp) (.bind (.require_ok hf) hs)

/-- `PrepareRestore` is cut only after its checks, where staging is. -/
theorem PrepareChecks.walk
    (h : ∀ m source, PrepareChecks r d m source → Walk V (stageRestore r m) d R) :
    Walk V (prepareRestoreApply r) d R := by
  refine .reading_bind fun m hm => .require_bind fun hg =>
    .reading_bind fun sm hsm => .require_bind fun hw => .asking_bind ?_
  cases hv : validateExt4ImageUUID (.snapshot r.snapshotID) sm.capacityBytes
      (deterministicUUID r.workspaceID) d with
  | error e => cases e <;> exact .fail _
  | ok u =>
    obtain ⟨source, hs, hsize, hext, huuid⟩ := validateExt4ImageUUID_iff.1 hv
    exact .reading_bind fun found hp => .require_bind fun hf =>
      h m source ⟨hm, hg, ⟨sm, hsm, hw⟩, hs, ⟨hw.2 ▸ hsize, hext, huuid⟩, found, hp, hf⟩

/-- What `PrepareRestore` can do: nothing, or clone the Snapshot (`V`) and stage it. -/
theorem always_prepareRestoreApply {P V : Disk → Prop} (here : P d)
    (temps : ∀ X ts, P X → P (X.withTemps ts)) (clone : ∀ m source, PrepareChecks r d m source →
      Always V (cloneImage (.snapshot r.snapshotID)
      (.part r.workspaceID .staged) (.staged r.workspaceID r.operationID) writableImageMode
      m.capacityBytes r.operationID none) d)
    (stage : ∀ m source X, PrepareChecks r d m source → d.staged.lookup (r.workspaceID, r.operationID) = none →
      V X → P X ∧ P (X.setStaged r.workspaceID r.operationID (stagedRecord r m))) :
    Always P (prepareRestoreApply r) d := by
  refine always_reading_bind here fun m hm => always_require_bind here fun hg =>
    always_reading_bind here fun sm hsm =>
    always_require_bind here fun hsame => always_asking_bind ?_
  split
  · exact here
  · exact here
  rename_i hv
  obtain ⟨source, hs, hvalid⟩ := validateExt4ImageUUID_iff.1 hv
  refine always_reading_bind here fun pending hp => always_require_bind here fun hown =>
    always_asking_bind ?_
  have hc : PrepareChecks r d m source :=
    ⟨hm, hg, ⟨sm, hsm, hsame⟩, hs, hsame.2 ▸ hvalid, pending, hp, hown⟩
  split
  · exact Keeps.bind (.require _ _) (fun _ => .bind (.reading _) fun _ => .ret _) d here
  · rename_i hn
    have hn := readStagedRestore_notExist.1 hn
    refine (wp_bind _ _ _ _).2 (wp_crash_mono (fun X hX => (stage m source X hc hn hX).1)
      (wp_mono (fun res X hX => ?_) (clone m source hc)))
    obtain ⟨hP, hstaged⟩ := stage m source X hc hn hX
    cases res with
    | error e => exact hP
    | ok u =>
      exact always_atomicJSON_bind (fun _ => rfl) (fun ts => temps X ts hP)
        (fun _ ts => temps _ ts hstaged)
        fun _ ts => Keeps.bind (keeping.syncDir _) (fun _ => .ret _) _ (temps _ ts hstaged)
  · exact here

variable (h : PrepareChecks r d m source)
include h

theorem PrepareChecks.setImage (i : Image) :
    PrepareChecks r (d.setImage (.staged r.workspaceID r.operationID) i) m source where
  manifest := h.manifest
  generation := h.generation
  snapshot := h.snapshot
  present := (AList.lookup_insert_ne (by simp)).trans h.present
  valid := h.valid
  pending := h.pending

/-- Where the operation has no staged record yet, no other has one either. -/
theorem PrepareChecks.unstaged (hn : d.staged.lookup (r.workspaceID, r.operationID) = none)
    (op : ID) :
    d.staged.lookup (r.workspaceID, op) = none := by
  obtain ⟨found, hp, rfl | rfl⟩ := h.pending
  · exact (pendingRestoreOperation_none.1 hp).1 op
  · rcases pendingRestoreOperation_some hp with hs | ⟨hs, -⟩
    · simp [hn] at hs
    · exact hs op

theorem PrepareChecks.setStaged (hv : validID r.operationID = true)
    (hn : d.staged.lookup (r.workspaceID, r.operationID) = none) (s : StagedRestore) :
    PrepareChecks r (d.setStaged r.workspaceID r.operationID s) m source where
  manifest := h.manifest
  generation := h.generation
  snapshot := h.snapshot
  present := h.present
  valid := h.valid
  pending := by
    refine ⟨some r.operationID, pendingRestoreOperation_single (fun op => ?_) hv, .inr rfl⟩
    by_cases ho : op = r.operationID
    · subst ho
      simp [Disk.setStaged]
    · simp only [ho, iff_false, Disk.setStaged]
      rw [AList.lookup_insert_ne (by simp [ho]), h.unstaged hn op]
      simp

omit h

/-- The answer of `PrepareRestore`. -/
def preparedReceipt (r : PrepareRestoreRequest) (m : CurrentManifest) : Receipt where
  snapshotID := r.snapshotID
  previousGeneration := r.expectedGeneration
  generation := r.nextGeneration
  capacityBytes := m.capacityBytes

/-- The clone of a Snapshot a restore stages. -/
def stagedClone (source : Image) : Image := { source with mode := writableImageMode }

theorem stageRestore_recorded {s : StagedRestore}
    (hs : readStagedRestore r.workspaceID r.operationID d = .ok s) (hm : stagedMatches s r = true)
    (hv : validateExt4ImageUUID (.staged r.workspaceID r.operationID) m.capacityBytes
      (deterministicUUID r.workspaceID) d = .ok ()) :
      Ends (stageRestore r m) d (.ok (preparedReceipt r m)) d := by
  refine .asking_bind ?_
  rw [hs]
  exact .bind (.require_ok hm) (.bind (.reading_ok hv) (.ret _))

variable (hn : readStagedRestore r.workspaceID r.operationID d = .error .notExist)
include hn

/-- Once the image is there, the staged record is published. -/
theorem stageRestore_of_clone {D : Disk}
    (hdir : .part r.workspaceID .staged ∈ D.dirs)
    (clone : Ends (cloneImage (.snapshot r.snapshotID) (.part r.workspaceID .staged)
      (.staged r.workspaceID r.operationID) writableImageMode m.capacityBytes r.operationID none)
        d (.ok ()) D) :
    Ends (stageRestore r m) d (.ok (preparedReceipt r m))
      (D.setStaged r.workspaceID r.operationID (stagedRecord r m)) := by
  refine .asking_bind ?_
  rw [hn]
  exact .bind clone (.bind (.atomicJSON (fun _ => rfl) fun p hp => by cases hp; exact hdir)
    (.bind (.syncDir hdir) (.ret _)))

theorem stageRestore_cloned {i : Image}
    (hi : d.images.lookup (.staged r.workspaceID r.operationID) = some i)
    (hv : i.size = m.capacityBytes ∧ i.ext4 = true) (hdir : .part r.workspaceID .staged ∈ d.dirs) :
    Ends (stageRestore r m) d (.ok (preparedReceipt r m))
      (d.setStaged r.workspaceID r.operationID (stagedRecord r m)) := by
  refine stageRestore_of_clone hn hdir (.asking_bind ?_)
  rw [hi]
  exact .bind (.require_ok hv.1) (.reading_ok (validateExt4Image_iff.2 ⟨i, hi, hv⟩))

theorem stageRestore_fresh
    (hi : d.images.lookup (.staged r.workspaceID r.operationID) = none)
    (hs : d.images.lookup (.snapshot r.snapshotID) = some source)
    (hv : source.size = m.capacityBytes ∧ source.ext4 = true)
    (hdir : .part r.workspaceID .staged ∈ d.dirs) :
    Ends (stageRestore r m) d (.ok (preparedReceipt r m))
      ((d.setImage (.staged r.workspaceID r.operationID) (stagedClone source)).setStaged
        r.workspaceID r.operationID (stagedRecord r m)) := by
  refine stageRestore_of_clone hn hdir (.asking_bind ?_)
  rw [hi]
  refine .asking_bind ?_
  rw [hs]
  refine .bind (.publishClone hdir) (.reading_ok ?_ fun _ => rfl)
  exact validateExt4Image_iff.2 ⟨stagedClone source, AList.lookup_insert _, hv⟩

omit hn

/-- A restore request that passed `validateRestoreRequest`. -/
structure PrepareRestoreRequest.Valid (r : PrepareRestoreRequest) : Prop where
  operationID : validID r.operationID = true
  workspaceID : validID r.workspaceID = true
  snapshotID : validID r.snapshotID = true
  nextGeneration : r.nextGeneration = r.expectedGeneration + 1

theorem PrepareChecks.recorded (h : PrepareChecks r d m source) (hr : r.Valid) {i : Image}
    (hn : d.staged.lookup (r.workspaceID, r.operationID) = none)
    (hi : d.images.lookup (.staged r.workspaceID r.operationID) = some i)
    (hv : i.size = m.capacityBytes ∧ i.ext4 = true ∧ i.uuid = deterministicUUID r.workspaceID) :
    Ends (prepareRestoreApply r) (d.setStaged r.workspaceID r.operationID (stagedRecord r m))
      (.ok (preparedReceipt r m)) (d.setStaged r.workspaceID r.operationID (stagedRecord r m)) := by
  have hcap := (readCurrentManifest_iff.1 h.manifest).2.2.2.2
  refine (h.setStaged hr.operationID hn _).ends
    (stageRestore_recorded (s := stagedRecord r m) ?_ ?_ ?_)
  · exact readStagedRestore_iff.2 ⟨AList.lookup_insert _, rfl, rfl, rfl, hr.snapshotID,
      hr.nextGeneration, hcap⟩
  · simp [stagedMatches, stagedRecord]
  · exact validateExt4ImageUUID_iff.2 ⟨i, hi, hv⟩

/-- Recording the staged restore, once its image is in place on `D`. -/
theorem recordStaged_walk (hV : V D)
    (hn : .part r.workspaceID .staged ∈ D.dirs →
      V (D.setStaged r.workspaceID r.operationID (stagedRecord r m)) ∧
        R (preparedReceipt r m) (D.setStaged r.workspaceID r.operationID (stagedRecord r m))) :
    Walk V (do
      atomicJSON (.staged r.workspaceID r.operationID)
        (Disk.setStaged r.workspaceID r.operationID (stagedRecord r m))
      syncDir (.part r.workspaceID .staged)
      pure (preparedReceipt r m)) D R :=
  .atomicJSON_bind (fun _ => rfl) hV (fun hdir => (hn (hdir _ rfl)).1) fun hdir =>
    .syncDir_bind (hn (hdir _ rfl)).1 fun _ => .ret (hn (hdir _ rfl)).2

theorem prepareRestoreApply_resumable (hr : r.Valid)
    (hu : ∀ i, d.images.lookup (.staged r.workspaceID r.operationID) = some i →
      i.uuid = deterministicUUID r.workspaceID) (lost : Loss) :
    Resumable (prepareRestoreApply r) lost d := by
  have here : Retried (prepareRestoreApply r) lost d d := .refl _ _ _
  refine PrepareChecks.walk fun m source h => .asking_bind ?_
  cases hs : readStagedRestore r.workspaceID r.operationID d with
  | ok s =>
    exact .require_bind fun hm => .reading_bind fun _ hv =>
      .ret ⟨h.ends (stageRestore_recorded hs hm hv), here⟩
  | error e =>
    by_cases he : e = .notExist
    swap
    · cases e <;> first | exact .fail _ | exact absurd rfl he
    subst he
    have hn := readStagedRestore_notExist.1 hs
    cases hi : d.images.lookup (.staged r.workspaceID r.operationID) with
    | some i =>
      refine .bind (R := fun _ D => d = D ∧ i.size = m.capacityBytes ∧ i.ext4 = true) ?_ ?_
      · refine .asking_bind ?_
        rw [hi]
        refine .require_bind fun hsize => .reading fun _ hv => ?_
        obtain ⟨j, hj, hv⟩ := validateExt4Image_iff.1 hv
        cases hi.symm.trans hj
        exact ⟨rfl, hv⟩
      · rintro _ _ ⟨rfl, hv⟩
        refine recordStaged_walk here fun hdir => ?_
        have hd := h.ends (stageRestore_cloned hs hi hv hdir)
        have hX : Retried (prepareRestoreApply r) lost d _ :=
          .of_ends hd (h.recorded hr hn hi ⟨hv.1, hv.2, hu i hi⟩) rfl rfl rfl (.inl rfl)
        exact ⟨hX, hd, hX⟩
    | none =>
      have fresh :=
        fun hdir => h.ends (stageRestore_fresh hs hi h.present ⟨h.valid.1, h.valid.2.1⟩ hdir)
      have cloned : .part r.workspaceID .staged ∈ d.dirs → Retried (prepareRestoreApply r) lost d
          (d.setImage (.staged r.workspaceID r.operationID) (stagedClone source)) := fun hdir =>
        .of_ends (fresh hdir) ((h.setImage _).ends
          (stageRestore_cloned hs (AList.lookup_insert _) ⟨h.valid.1, h.valid.2.1⟩ hdir)) rfl rfl
          rfl (.inl rfl)
      refine .bind (R := fun _ D => .part r.workspaceID .staged ∈ d.dirs ∧
        D = d.setImage (.staged r.workspaceID r.operationID) (stagedClone source)) ?_ ?_
      · refine .asking_bind ?_
        rw [hi]
        refine .asking_bind ?_
        rw [h.present]
        exact .publishClone_bind here cloned fun hdir => .reading fun _ _ => ⟨hdir, rfl⟩
      · rintro _ _ ⟨hdir, rfl⟩
        refine recordStaged_walk (cloned hdir) fun _ => ?_
        have hX : Retried (prepareRestoreApply r) lost d _ :=
          .of_ends (fresh hdir) ((h.setImage (stagedClone source)).recorded hr hn (AList.lookup_insert _) h.valid)
            rfl rfl rfl (.inl rfl)
        exact ⟨hX, fresh hdir, hX⟩

end

/-! ## SwapRestore -/

/-- The disk after the staged image became a version. -/
def Disk.moveStaged (w op : ID) (image : ImageName) (i : Image) (d : Disk) : Disk :=
  (d.removeImage (.staged w op)).setImage (.version w image) i

theorem publishRestoreVersion_moves {w op : ID} {image : ImageName} {i : Image}
    (hn : d.images.lookup (.version w image) = none) (hi : d.images.lookup (.staged w op) = some i)
    (hv : Dir.part w .versions ∈ d.dirs) (hs : Dir.part w .staged ∈ d.dirs) :
    Ends (publishRestoreVersion w op image) d (.ok ()) (d.moveStaged w op image i) := by
  refine .asking_bind ?_
  rw [hn]
  refine .asking_bind ?_
  rw [hi]
  exact .bind (.requireDir hv) (.bind (D := d.moveStaged w op image i) (.sys fun ts => ⟨ts, rfl⟩)
    (.bind (.syncDir hs) (.syncDir hv)))

theorem publishRestoreVersion_moved {w op : ID} {image : ImageName} {i : Image}
    (hi : d.images.lookup (.version w image) = some i) :
    Ends (publishRestoreVersion w op image) d (.ok ()) d := by
  refine .asking_bind ?_
  rw [hi]
  exact .ret ()

/-- What `SwapRestore` has checked before it moves anything. -/
structure SwapChecks (r : SwapRestoreRequest) (d : Disk) (s : StagedRestore) (m : CurrentManifest) :
    Prop where
  staged : readStagedRestore r.workspaceID r.operationID d = .ok s
  same : stagedMatches s r = true
  manifest : readCurrentManifest r.workspaceID d = .ok m
  unswapped : ¬ (m.generation = r.nextGeneration ∧ m.image = s.image)
  generation : m.generation = r.expectedGeneration

section
variable {r : SwapRestoreRequest} {s : StagedRestore} {m : CurrentManifest}
  {res : Except StoreErr Receipt}

/-- The answer of `SwapRestore`. -/
def swappedReceipt (r : SwapRestoreRequest) (m : CurrentManifest) : Receipt where
  snapshotID := r.snapshotID
  previousGeneration := r.expectedGeneration
  generation := r.nextGeneration
  capacityBytes := m.capacityBytes

/-- `SwapRestore` from the new manifest on. -/
def selectSwap (r : SwapRestoreRequest) (s : StagedRestore) (m : CurrentManifest) : Op Receipt := do
  syncDir (.part r.workspaceID .rollback)
  publishCurrentManifest r.workspaceID (swappedManifest r s m)
  pure (swappedReceipt r m)

/-- `SwapRestore` from the rollback evidence on. -/
def recordSwap (r : SwapRestoreRequest) (s : StagedRestore) (m : CurrentManifest) : Op Receipt := do
  reading (validateExt4ImageUUID (.version r.workspaceID s.image) m.capacityBytes
    (deterministicUUID r.workspaceID))
  atomicJSON (.rollback r.workspaceID r.operationID)
    (Disk.setRollback r.workspaceID r.operationID (rollbackRecord r s m))
  selectSwap r s m

theorem selectSwap_steady : Steady (selectSwap r s m) :=
  .bind (.syncDir _) fun _ => .bind (.publishCurrentManifest _ _) fun _ => .ret _

theorem recordSwap_steady : Steady (recordSwap r s m) :=
  .bind (.reading fun _ _ => rfl) fun _ => .bind (.atomicJSON fun _ _ => rfl) fun _ =>
    selectSwap_steady

theorem SwapChecks.ends (h : SwapChecks r d s m)
    (hp : Ends (publishRestoreVersion r.workspaceID r.operationID s.image) d (.ok ()) D)
    (hr : Ends (recordSwap r s m) D res D') : Ends (swapRestoreApply r) d res D' := by
  refine .asking_bind ?_
  rw [h.staged]
  refine .bind (.require_ok h.same) (.bind (.reading_ok h.manifest) ?_)
  simp only [if_neg h.unswapped]
  exact .bind (.require_ok h.generation) (.bind hp hr)

/-- `SwapRestore` answers at once, or is cut only while it publishes. -/
theorem SwapChecks.walk
    (done : ∀ rc, Ends (swapRestoreApply r) d (.ok rc) d → R rc d)
    (h : ∀ s m, SwapChecks r d s m → Walk V (do
      publishRestoreVersion r.workspaceID r.operationID s.image
      recordSwap r s m) d R) :
    Walk V (swapRestoreApply r) d R := by
  refine .asking_bind ?_
  cases hs : readStagedRestore r.workspaceID r.operationID d with
  | error e => exact .fail _
  | ok s =>
    refine .require_bind fun hm => .reading_bind fun m hman => ?_
    split
    · rename_i hsw
      refine .asking_bind ?_
      cases hrb : readRollback r.workspaceID r.operationID d with
      | error e => exact .fail _
      | ok rb =>
        refine .ret (done _ ?_)
        refine .asking_bind ?_
        rw [hs]
        refine .bind (.require_ok hm) (.bind (.reading_ok hman) ?_)
        simp only [if_pos hsw]
        refine .asking_bind ?_
        rw [hrb]
        exact .ret _
    · rename_i hsw
      exact .require_bind fun hg => h s m ⟨hs, hm, hman, hsw, hg⟩

/-- Recording the rollback evidence a second time changes nothing. -/
theorem Disk.setRollback_setRollback (w op : ID) (rb : RollbackManifest) (d : Disk) :
    (d.setRollback w op rb).setRollback w op rb = d.setRollback w op rb := by
  simp [Disk.setRollback]

/-- The disk with the rollback evidence and the new manifest. -/
def Disk.selectRestored (r : SwapRestoreRequest) (s : StagedRestore) (m : CurrentManifest)
    (d : Disk) : Disk :=
  (d.setRollback r.workspaceID r.operationID (rollbackRecord r s m)).setManifest r.workspaceID
    (swappedManifest r s m)

/-- The answer of a `SwapRestore` that finds the manifest swapped. -/
def replacedReceipt (r : SwapRestoreRequest) (rb : RollbackManifest) : Receipt where
  snapshotID := r.snapshotID
  previousGeneration := rb.previousGeneration
  generation := rb.nextGeneration
  capacityBytes := rb.capacityBytes

/-- What `SwapRestore` can do: nothing, or publish the version (`V`), the rollback
    record and the manifest.  `P` holds wherever it stops, `Q` of its answers. -/
theorem wp_swapRestoreApply {P : Disk → Prop} {Q : Receipt → Disk → Prop}
    {V : StagedRestore → CurrentManifest → Disk → Prop} (here : P d)
    (temps : ∀ X ts, P X → P (X.withTemps ts))
    (again : ∀ s m rb, readStagedRestore r.workspaceID r.operationID d = .ok s →
      stagedMatches s r = true →
      readCurrentManifest r.workspaceID d = .ok m → m.generation = r.nextGeneration ∧
      m.image = s.image →
      readRollback r.workspaceID r.operationID d = .ok rb → Q (replacedReceipt r rb) d)
    (move : ∀ s m, SwapChecks r d s m →
      Always (V s m) (publishRestoreVersion r.workspaceID r.operationID s.image) d)
    (moved : ∀ s m X, SwapChecks r d s m → V s m X → P X ∧
      (validateExt4ImageUUID (.version r.workspaceID s.image) m.capacityBytes (deterministicUUID r.workspaceID) X =
        .ok () → P (X.setRollback r.workspaceID r.operationID (rollbackRecord r s m)) ∧
        P (X.selectRestored r s m) ∧
          ∀ ts, Q (swappedReceipt r m) ((X.selectRestored r s m).withTemps ts))) :
    (swapRestoreApply r).wp P (fun res X => P X ∧ ∀ receipt, res = .ok receipt → Q receipt X)
      d := by
  have err : ∀ {X : Disk} (e : StoreErr), P X →
      P X ∧ ∀ receipt, (Except.error e : Except StoreErr Receipt) = .ok receipt → Q receipt X :=
    fun e hX => ⟨hX, fun _ he => by cases he⟩
  refine wp_asking_bind ?_
  cases hs : readStagedRestore r.workspaceID r.operationID d with
  | error e => exact err _ here
  | ok s =>
    refine wp_require_bind (fun _ => err _ here) fun hsame =>
      wp_reading_bind (fun e _ => err e here) fun m hm => ?_
    split
    · rename_i hdone
      refine wp_asking_bind ?_
      cases hrb : readRollback r.workspaceID r.operationID d with
      | error e => exact err _ here
      | ok rb => exact ⟨here, fun _ he => by cases he; exact again s m rb hs hsame hm hdone hrb⟩
    · rename_i hnot
      refine wp_require_bind (fun _ => err _ here) fun hg => (wp_bind _ _ _ _).2 ?_
      have hc : SwapChecks r d s m := ⟨hs, hsame, hm, hnot, hg⟩
      refine wp_crash_mono (fun X hX => (moved s m X hc hX).1)
        (wp_mono (fun res X hX => ?_) (move s m hc))
      obtain ⟨hP, publish⟩ := moved s m X hc hX
      cases res with
      | error e => exact err e hP
      | ok u =>
        rw [andThen_ok]
        refine wp_reading_bind (fun e _ => err e hP) fun _ hv => ?_
        obtain ⟨hrecorded, hselected, hanswer⟩ := publish hv
        have recorded : ∀ ts,
            P ((X.setRollback r.workspaceID r.operationID (rollbackRecord r s m)).withTemps ts) :=
          fun ts => temps _ ts hrecorded
        have selected : ∀ ts, P ((X.selectRestored r s m).withTemps ts) :=
          fun ts => temps _ ts hselected
        refine (wp_bind _ _ _ _).2 (wp_atomicJSON (fun _ => rfl) (fun ts => temps X ts hP)
          (fun e ts => err e (temps X ts hP)) (fun _ => recorded) (fun _ ts => err _ (recorded ts))
          fun _ ts => ?_)
        refine (wp_bind _ _ _ _).2 ((wp_syncDir _ _).2 ⟨fun _ => ⟨recorded ts, ?_, err _ (recorded ts)⟩,
          fun _ => err _ (recorded ts)⟩)
        exact (wp_bind _ _ _ _).2 (wp_publishCurrentManifest (fun us => recorded us)
          (fun e us => err e (recorded us))
          (fun _ _ us => selected us) (fun _ _ us => err _ (selected us))
          fun _ _ us => ⟨selected us, fun _ he => by cases he; exact hanswer us⟩)

/-- Once the new manifest is selected, `SwapRestore` answers from the rollback evidence. -/
theorem swapRestoreApply_selected (h : SwapChecks r d s m) (hr : r.Valid)
    (hg : 1 ≤ r.nextGeneration) :
    Ends (swapRestoreApply r) (d.selectRestored r s m) (.ok (swappedReceipt r m))
      (d.selectRestored r s m) := by
  have hcap := (readCurrentManifest_iff.1 h.manifest).2.2.2.2
  have hs : readStagedRestore r.workspaceID r.operationID (d.selectRestored r s m) = .ok s :=
    h.staged
  have hman : readCurrentManifest r.workspaceID (d.selectRestored r s m) =
      .ok (swappedManifest r s m) :=
    readCurrentManifest_iff.2 ⟨AList.lookup_insert _, rfl, rfl, hg, hcap⟩
  have hrb : readRollback r.workspaceID r.operationID (d.selectRestored r s m) =
      .ok (rollbackRecord r s m) := by
    refine readRollback_iff.2 ⟨AList.lookup_insert _, rfl, rfl, rfl, ?_, hcap⟩
    simp only [rollbackRecord, h.generation, hr.nextGeneration]
  refine .asking_bind ?_
  rw [hs]
  refine .bind (.require_ok h.same) (.bind (.reading_ok hman) ?_)
  simp only [swappedManifest, and_self, if_true]
  refine .asking_bind ?_
  rw [hrb]
  simp only [rollbackRecord, h.generation]
  exact .ret _

variable {lost : Loss} {i : Image}

/-- A swap cut after the move finds the image in place. -/
theorem SwapChecks.retried_moved (h : SwapChecks r d s m) (h' : SwapChecks r D s m)
    (hrc : D.receipts = d.receipts)
    (hp : Ends (publishRestoreVersion r.workspaceID r.operationID s.image) d (.ok ()) D)
    (hi : D.images.lookup (.version r.workspaceID s.image) = some i) :
    Retried (swapRestoreApply r) lost d D :=
  .of_ends (h.ends hp (recordSwap_steady.ends D))
    (h'.ends (publishRestoreVersion_moved hi) (recordSwap_steady.ends D)) hrc rfl rfl (.inl rfl)

theorem recordSwap_ends (hm : readCurrentManifest r.workspaceID d = .ok m)
    (hv : validateExt4ImageUUID (.version r.workspaceID s.image) m.capacityBytes (deterministicUUID r.workspaceID)
      D = .ok ()) (hrb : Dir.part r.workspaceID .rollback ∈ D.dirs) (hg : 1 ≤ r.nextGeneration)
    (hmd : Dir.part r.workspaceID .manifest ∈ D.dirs) :
    Ends (recordSwap r s m) D (.ok (swappedReceipt r m)) (D.selectRestored r s m) := by
  have hcap := (readCurrentManifest_iff.1 hm).2.2.2.2
  exact .bind (.reading_ok hv) (.bind (.atomicJSON (fun _ => rfl) fun p hp => by cases hp; exact hrb)
    (.bind (.syncDir hrb) (.bind (.publishCurrentManifest ⟨rfl, rfl, hg, hcap⟩ hmd) (.ret _))))

/-- From the moved image on. -/
theorem recordSwap_walk (hr : r.Valid) (h : SwapChecks r d s m) (h' : SwapChecks r D s m)
    (hrc : D.receipts = d.receipts)
    (hp : Ends (publishRestoreVersion r.workspaceID r.operationID s.image) d (.ok ()) D)
    (hi : D.images.lookup (.version r.workspaceID s.image) = some i) :
    Walk (Retried (swapRestoreApply r) lost d) (recordSwap r s m) D fun receipt D =>
      Ends (swapRestoreApply r) d (.ok receipt) D ∧ Retried (swapRestoreApply r) lost d D := by
  refine .reading_bind fun _ hv => ?_
  have recorded : (∀ p, (Record.rollback r.workspaceID r.operationID).dir = some p → p ∈ D.dirs) →
      Retried (swapRestoreApply r) lost d
        (D.setRollback r.workspaceID r.operationID (rollbackRecord r s m)) := fun hdir => by
    have again : Ends (atomicJSON (.rollback r.workspaceID r.operationID)
        (Disk.setRollback r.workspaceID r.operationID (rollbackRecord r s m)))
        (D.setRollback r.workspaceID r.operationID (rollbackRecord r s m)) (.ok ()) _ :=
      .atomicJSON (fun _ => rfl) hdir
    rw [Disk.setRollback_setRollback] at again
    have h₂ : SwapChecks r (D.setRollback r.workspaceID r.operationID (rollbackRecord r s m)) s m :=
      ⟨h'.staged, h'.same, h'.manifest, h'.unswapped, h'.generation⟩
    exact .of_ends
      (h.ends hp (.bind (.reading_ok hv)
        (.bind (.atomicJSON (fun _ => rfl) hdir) (selectSwap_steady.ends _))))
      (h₂.ends (publishRestoreVersion_moved hi) (.bind (.reading_ok hv)
        (.bind again (selectSwap_steady.ends _)))) hrc rfl rfl (.inl rfl)
  refine .atomicJSON_bind (fun _ => rfl) (h.retried_moved h' hrc hp hi) recorded fun hdir => ?_
  refine .syncDir_bind (recorded hdir) fun hrb => ?_
  have selected : 1 ≤ r.nextGeneration → Dir.part r.workspaceID .manifest ∈ D.dirs →
      Ends (swapRestoreApply r) d (.ok (swappedReceipt r m)) (D.selectRestored r s m) ∧
        Retried (swapRestoreApply r) lost d (D.selectRestored r s m) := fun hg hmd => by
    have hd := h.ends hp (recordSwap_ends h.manifest hv hrb hg hmd)
    exact ⟨hd, .of_ends hd (swapRestoreApply_selected h' hr hg) hrc rfl rfl (.inl rfl)⟩
  exact .publishCurrentManifest_bind (recorded hdir) (fun hg hmd => (selected hg hmd).2)
    fun hg hmd => .ret (selected hg hmd)

theorem swapRestoreApply_resumable (hr : r.Valid)
    (hroot : (d.images.lookup (.staged r.workspaceID r.operationID)).isSome →
      Dir.part r.workspaceID .staged ∈ d.dirs) (lost : Loss) :
    Resumable (swapRestoreApply r) lost d := by
  have here : Retried (swapRestoreApply r) lost d d := .refl _ _ _
  refine SwapChecks.walk (fun rc hd => ⟨hd, here⟩) fun s m h => ?_
  cases hn : d.images.lookup (.version r.workspaceID s.image) with
  | some i =>
    refine .bind (R := fun _ D => d = D) ?_ ?_
    · refine .asking_bind ?_
      rw [hn]
      exact .ret rfl
    · rintro _ _ rfl
      exact recordSwap_walk hr h h rfl (publishRestoreVersion_moved hn) hn
  | none =>
    cases hi : d.images.lookup (.staged r.workspaceID r.operationID) with
    | none =>
      refine .bind (R := fun _ _ => False) ?_ fun _ _ => False.elim
      refine .asking_bind ?_
      rw [hn]
      refine .asking_bind ?_
      rw [hi]
      exact .fail _
    | some i =>
      have hsd := hroot (by simp [hi])
      have h' : SwapChecks r (d.moveStaged r.workspaceID r.operationID s.image i) s m :=
        ⟨h.staged, h.same, h.manifest, h.unswapped, h.generation⟩
      have hi' : (d.moveStaged r.workspaceID r.operationID s.image i).images.lookup
          (.version r.workspaceID s.image) = some i := AList.lookup_insert _
      refine .bind (R := fun _ D => Dir.part r.workspaceID .versions ∈ d.dirs ∧
        d.moveStaged r.workspaceID r.operationID s.image i = D) ?_ ?_
      · refine .asking_bind ?_
        rw [hn]
        refine .asking_bind ?_
        rw [hi]
        refine .requireDir_bind fun hvd => ?_
        have moved : Retried (swapRestoreApply r) lost d _ :=
          h.retried_moved h' rfl (publishRestoreVersion_moves hn hi hvd hsd) hi'
        exact .sys_bind here (fun ts => ⟨ts, rfl⟩) (.syncDir_bind moved fun _ =>
          .syncDir moved ⟨hvd, rfl⟩)
      · rintro _ _ ⟨hvd, rfl⟩
        exact recordSwap_walk hr h h' rfl (publishRestoreVersion_moves hn hi hvd hsd) hi'

end

/-! ## FinalizeRestore -/

theorem erase_erase_self {K V : Type} [DecidableEq K] (k : K) (t : Table K V) :
    (t.erase k).erase k = t.erase k :=
  AList.ext (List.kerase_of_notMem_keys (List.notMem_keys_kerase k t.nodupKeys))

theorem erase_pair {K V : Type} [DecidableEq K] (k k' : K) (t : Table K V) :
    (((t.erase k).erase k').erase k).erase k' = (t.erase k).erase k' := by
  rw [AList.erase_erase k' k (t.erase k), erase_erase_self, erase_erase_self]

/-- Syncing directories is all that is left to do. -/
def syncDirs : List Dir → Receipt → Op Receipt
  | [], receipt => pure receipt
  | p :: ps, receipt => do
    syncDir p
    syncDirs ps receipt

theorem syncDirs_steady : ∀ (ps : List Dir) (receipt : Receipt), Steady (syncDirs ps receipt)
  | [], _ => .ret _
  | p :: ps, receipt => .bind (.syncDir p) fun _ => syncDirs_steady ps receipt

theorem syncDirs_idle : ∀ (ps : List Dir) (receipt : Receipt), (syncDirs ps receipt).Moves Eq
  | [], _ => trivial
  | _ :: ps, receipt =>
    .bind (.bind (.bind (.asking _) fun _ => .require _ _) fun _ => .sys fun _ => rfl) fun _ =>
      syncDirs_idle ps receipt

theorem syncDirs_walk (hV : V d) : ∀ (ps : List Dir)
    (receipt : Receipt), (Ends (syncDirs ps receipt) d (.ok receipt) d → R receipt d) →
      Walk V (syncDirs ps receipt) d R
  | [], _, h => .ret (h (.ret _))
  | _ :: ps, receipt, h =>
    .syncDir_bind hV fun hp => syncDirs_walk hV ps receipt fun he => h (.bind (.syncDir hp) he)

theorem syncDirs_ends : ∀ (ps : List Dir) (receipt : Receipt), (∀ p ∈ ps, p ∈ d.dirs) →
    Ends (syncDirs ps receipt) d (.ok receipt) d
  | [], _, _ => .ret _
  | p :: ps, receipt, h =>
    .bind (.syncDir (h p (by simp))) (syncDirs_ends ps receipt fun q hq => h q (by simp [hq]))

theorem syncDirs_answer (ps : List Dir) (receipt : Receipt) :
    ((syncDirs ps receipt).run d).1 = .ok receipt ∨ ∃ e, ((syncDirs ps receipt).run d).1 =
      .error e := by
  have hy : (syncDirs ps receipt).Yields (· = receipt) := by
    induction ps with
    | nil => rfl
    | cons p ps ih => exact .bind fun _ => ih
  have hr := wp_run (hy.wp_ok (s := d))
  cases h : ((syncDirs ps receipt).run d).1 with
  | ok a => exact .inl (by rw [hr a h])
  | error e => exact .inr ⟨e, rfl⟩

/-- The disk `FinalizeRestore` leaves. -/
def Disk.clearRestore (w op : ID) (image : ImageName) (d : Disk) : Disk :=
  (((d.removeImage (.version w image)).removeImage (.staged w op)).removeRecord (.staged w op)).removeRecord
    (.rollback w op)

/-- The answer of a `FinalizeRestore` that finds no rollback record. -/
def swapAnswer (m : RestoreMutation) (d : Disk) : Except StoreErr Receipt :=
  match loadAnyReceipt m .restoreSwap d with
  | .error e => .error e
  | .ok none => .error (.corruptState "restore swap receipt is absent")
  | .ok (some receipt) => .ok {
      snapshotID := receipt.snapshotID, previousGeneration := receipt.previousGeneration,
      generation := receipt.generation, capacityBytes := receipt.capacityBytes }

section
variable {m : RestoreMutation} {rb : RollbackManifest} {cm : CurrentManifest}

/-- What `FinalizeRestore` has checked before it removes anything. -/
structure FinalizeChecks (m : RestoreMutation) (d : Disk) (rb : RollbackManifest)
    (cm : CurrentManifest) :
    Prop where
  rollback : readRollback m.workspaceID m.operationID d = .ok rb
  manifest : readCurrentManifest m.workspaceID d = .ok cm
  next : cm.generation = rb.nextGeneration ∧ cm.image = rb.nextImage
  previous : rb.previousImage ≠ cm.image

/-- The receipt of a finalized restore. -/
def finalizedReceipt (rb : RollbackManifest) : Receipt where
  snapshotID := rb.snapshotID
  previousGeneration := rb.previousGeneration
  generation := rb.nextGeneration
  capacityBytes := rb.capacityBytes

/-- `FinalizeRestore` once everything is removed. -/
def finishFinalize (w : ID) (rb : RollbackManifest) : Op Receipt :=
  syncDirs [.part w .versions, .part w .staged, .part w .rollback] (finalizedReceipt rb)

theorem FinalizeChecks.ends (h : FinalizeChecks m d rb cm) :
    Ends (finalizeRestoreApply m) d
      ((finishFinalize m.workspaceID rb).run (d.clearRestore m.workspaceID m.operationID rb.previousImage)).1
      (d.clearRestore m.workspaceID m.operationID rb.previousImage) := by
  have hend := (syncDirs_steady [.part m.workspaceID .versions, .part m.workspaceID .staged,
    .part m.workspaceID .rollback] (finalizedReceipt rb)).ends
      (d.clearRestore m.workspaceID m.operationID rb.previousImage)
  rw [(syncDirs_idle _ _).run_idle] at hend
  refine .asking_bind ?_
  rw [h.rollback]
  exact .bind (.reading_ok h.manifest) (.bind (.require_ok h.next) (.bind (.require_ok h.previous)
    (.bind (.removeImage _) (.bind (.removeImage _) (.bind (.removeRecord _) (.bind (.removeRecord _) hend))))))

/-- Without its rollback record `FinalizeRestore` only answers. -/
theorem finalizeRestoreApply_settles
    (h : d.rollbacks.lookup (m.workspaceID, m.operationID) = none) :
    (finalizeRestoreApply m).Settles d (swapAnswer m d) := by
  refine .asking_bind ?_
  rw [readRollback_notExist.2 h]
  unfold swapAnswer
  cases hl : loadAnyReceipt m .restoreSwap d with
  | error e => exact .bind_error (.reading_error hl)
  | ok found =>
    refine .bind (.reading_ok hl) ?_
    cases found with
    | none => exact .fail _
    | some receipt => exact .ret _

theorem finalizeRestoreApply_cleared
    (h : d.rollbacks.lookup (m.workspaceID, m.operationID) = none) :
    Ends (finalizeRestoreApply m) d (swapAnswer m d) d :=
  .of_settles fun ts => finalizeRestoreApply_settles (d := d.withTemps ts) h

/-- The rollback record of a restore is unlinked and its SwapRestore left no receipt. -/
def Disk.unproven (m : RestoreMutation) (X : Disk) : Prop :=
  X.rollbacks.lookup (m.workspaceID, m.operationID) = none ∧
    X.receipts.lookup (m.workspaceID, m.operationID, .restoreSwap) = none

/-- There `FinalizeRestore` cannot answer; nor does it answer alike where the
    uncut run fails to sync. -/
def finalizeLost (m : RestoreMutation) : Loss := fun X uncut res =>
  X.unproven m ∧ res = .error (.corruptState "restore swap receipt is absent") ∨
    ∃ e, uncut = .error e

theorem swapAnswer_unproven (h : d.unproven m) :
    swapAnswer m d = .error (.corruptState "restore swap receipt is absent") := by
  simp [swapAnswer, loadAnyReceipt, h.2]

/-- Cut before the rollback record goes, `FinalizeRestore` removes the rest. -/
theorem FinalizeChecks.retried (h : FinalizeChecks m d rb cm) {lost : Loss}
    (hc : X.clearRestore m.workspaceID m.operationID rb.previousImage =
      d.clearRestore m.workspaceID m.operationID rb.previousImage) (hm : X.manifests = d.manifests)
    (hr : X.rollbacks = d.rollbacks) (hrc : X.receipts = d.receipts) :
    Retried (finalizeRestoreApply m) lost d X := by
  have h' : FinalizeChecks m X rb cm := by
    refine ⟨?_, ?_, h.next, h.previous⟩
    · rw [← h.rollback, readRollback, readRollback, hr]
    · rw [← h.manifest, readCurrentManifest, readCurrentManifest, hm]
  have hX := h'.ends
  rw [hc] at hX
  exact .of_ends h.ends hX hrc rfl rfl (.inl rfl)

theorem finalizeRestoreApply_resumable (m : RestoreMutation) (d : Disk)
    (hp : ∀ rb, d.rollbacks.lookup (m.workspaceID, m.operationID) = some rb →
      (d.receipts.lookup (m.workspaceID, m.operationID, .restoreSwap)).isSome →
        swapAnswer m d = .ok (finalizedReceipt rb)) :
    Resumable (finalizeRestoreApply m) (finalizeLost m) d := by
  have here : Retried (finalizeRestoreApply m) (finalizeLost m) d d := .refl _ _ _
  refine .asking_bind ?_
  cases hrb : readRollback m.workspaceID m.operationID d with
  | error e =>
    by_cases he : e = .notExist
    swap
    · cases e <;> first | exact .fail _ | exact absurd rfl he
    subst he
    have hend := finalizeRestoreApply_cleared (m := m) (readRollback_notExist.1 hrb)
    refine .reading_bind fun found hl => ?_
    unfold swapAnswer at hend
    rw [hl] at hend
    cases found with
    | none => exact .fail _
    | some receipt => exact .ret ⟨hend, here⟩
  | ok rb =>
    refine .reading_bind fun cm hcm => .require_bind fun hn => .require_bind fun hprev => ?_
    have h : FinalizeChecks m d rb cm := ⟨hrb, hcm, hn, hprev⟩
    have gone : Retried (finalizeRestoreApply m) (finalizeLost m) d
        (d.clearRestore m.workspaceID m.operationID rb.previousImage) := by
      have hl := AList.lookup_erase (m.workspaceID, m.operationID) d.rollbacks
      refine .of_ends h.ends (finalizeRestoreApply_cleared hl) rfl rfl rfl ?_
      by_cases hr : (d.receipts.lookup (m.workspaceID, m.operationID, .restoreSwap)).isSome
      · exact (syncDirs_answer _ _).imp (fun e => (hp rb (readRollback_iff.1 hrb).1 hr).trans e.symm) .inr
      · have hu : (d.clearRestore m.workspaceID m.operationID rb.previousImage).unproven m :=
          ⟨hl, Option.not_isSome_iff_eq_none.1 hr⟩
        exact .inr (.inl ⟨hu, swapAnswer_unproven hu⟩)
    refine .removeImage_bind here (.removeImage_bind (h.retried ?_ rfl rfl rfl)
      (.removeRecord_bind (h.retried ?_ rfl rfl rfl) (.removeRecord_bind (h.retried ?_ rfl rfl rfl)
        (syncDirs_walk gone [.part m.workspaceID .versions, .part m.workspaceID .staged,
          .part m.workspaceID .rollback] (finalizedReceipt rb) fun hend => ⟨?_, gone⟩))))
    · simp only [Disk.clearRestore, Disk.removeImage, Disk.removeRecord, erase_erase_self]
    · simp only [Disk.clearRestore, Disk.removeImage, Disk.removeRecord, erase_pair]
    · simp only [Disk.clearRestore, Disk.removeImage, Disk.removeRecord, erase_pair,
        erase_erase_self]
    · obtain ⟨ts, hrun⟩ := hend.run_eq
      have hd := h.ends
      rw [finishFinalize, hrun] at hd
      exact hd

end

/-! ## AbortRestore -/

section
variable {m : RestoreMutation} {s : StagedRestore}

/-- The disk `AbortRestore` leaves. -/
def Disk.clearStaged (w op : ID) (d : Disk) : Disk :=
  (d.removeImage (.staged w op)).removeRecord (.staged w op)

/-- The receipt of an aborted restore. -/
def abortedReceipt (s : StagedRestore) : Receipt where
  snapshotID := s.snapshotID
  previousGeneration := s.expectedGeneration
  generation := s.nextGeneration
  capacityBytes := s.capacityBytes

theorem abortRestoreApply_ends (hr : readRollback m.workspaceID m.operationID d = .error .notExist)
    (hs : readStagedRestore m.workspaceID m.operationID d = .ok s) :
    Ends (abortRestoreApply m) d
      ((syncDirs [.part m.workspaceID .staged] (abortedReceipt s)).run
        (d.clearStaged m.workspaceID m.operationID)).1
          (d.clearStaged m.workspaceID m.operationID) := by
  have hend := (syncDirs_steady [.part m.workspaceID .staged] (abortedReceipt s)).ends
    (d.clearStaged m.workspaceID m.operationID)
  rw [(syncDirs_idle _ _).run_idle] at hend
  refine .asking_bind ?_
  rw [hr]
  refine .asking_bind ?_
  rw [hs]
  exact .bind (.removeImage _) (.bind (.removeRecord _) hend)

theorem abortRestoreApply_settles (hr : d.rollbacks.lookup (m.workspaceID, m.operationID) = none)
    (hs : d.staged.lookup (m.workspaceID, m.operationID) = none) :
    (abortRestoreApply m).Settles d (.ok {}) := by
  refine .asking_bind ?_
  rw [readRollback_notExist.2 hr]
  refine .asking_bind ?_
  rw [readStagedRestore_notExist.2 hs]
  exact .ret _

theorem abortRestoreApply_cleared (hr : d.rollbacks.lookup (m.workspaceID, m.operationID) = none)
    (hs : d.staged.lookup (m.workspaceID, m.operationID) = none) :
    Ends (abortRestoreApply m) d (.ok {}) d :=
  .of_settles fun ts => abortRestoreApply_settles (d := d.withTemps ts) hr hs

/-- What an `AbortRestore` answers that finds its staged record unlinked. -/
def abortLost (m : RestoreMutation) : Loss := fun X _ res =>
  X.rollbacks.lookup (m.workspaceID, m.operationID) = none ∧
    X.staged.lookup (m.workspaceID, m.operationID) = none ∧ res = .ok {}

theorem abortRestoreApply_resumable (m : RestoreMutation) (d : Disk) :
    Resumable (abortRestoreApply m) (abortLost m) d := by
  have here : Retried (abortRestoreApply m) (abortLost m) d d := .refl _ _ _
  refine .asking_bind ?_
  cases hrb : readRollback m.workspaceID m.operationID d with
  | ok rb => exact .fail _
  | error e =>
    by_cases he : e = .notExist
    swap
    · cases e <;> first | exact .fail _ | exact absurd rfl he
    subst he
    refine .asking_bind ?_
    cases hs : readStagedRestore m.workspaceID m.operationID d with
    | error e =>
      by_cases he : e = .notExist
      swap
      · cases e <;> first | exact .fail _ | exact absurd rfl he
      subst he
      exact .ret ⟨abortRestoreApply_cleared (readRollback_notExist.1 hrb) (readStagedRestore_notExist.1 hs), here⟩
    | ok s =>
      have hend := abortRestoreApply_ends hrb hs
      have half : Retried (abortRestoreApply m) (abortLost m) d
          (d.removeImage (.staged m.workspaceID m.operationID)) := by
        have hX :=
          abortRestoreApply_ends (d := d.removeImage (.staged m.workspaceID m.operationID)) hrb hs
        rw [show (d.removeImage (.staged m.workspaceID m.operationID)).clearStaged m.workspaceID
          m.operationID = d.clearStaged m.workspaceID m.operationID from by
            simp only [Disk.clearStaged, Disk.removeImage, Disk.removeRecord,
              erase_erase_self]] at hX
        exact .of_ends hend hX rfl rfl rfl (.inl rfl)
      have gone : Retried (abortRestoreApply m) (abortLost m) d
          (d.clearStaged m.workspaceID m.operationID) := by
        have hl := AList.lookup_erase (m.workspaceID, m.operationID) d.staged
        exact .of_ends hend (abortRestoreApply_cleared (readRollback_notExist.1 hrb) hl) rfl rfl rfl
          (.inr ⟨readRollback_notExist.1 hrb, hl, rfl⟩)
      refine .removeImage_bind here (.removeRecord_bind half
        (syncDirs_walk gone [.part m.workspaceID .staged] (abortedReceipt s) fun hsync => ⟨?_, gone⟩))
      obtain ⟨ts, hrun⟩ := hsync.run_eq
      rw [hrun] at hend
      exact hend

end

/-! ## Temporary files do not matter -/

theorem prepareRestoreApply_steady (r : PrepareRestoreRequest) :
    Steady (prepareRestoreApply r) := by
  refine .bind (.reading fun _ _ => rfl) fun m => .bind (.require _ _) fun _ =>
    .bind (.reading fun _ _ => rfl) fun _ => .bind (.require _ _) fun _ =>
      .bind (.asking fun _ _ => rfl) fun found => ?_
  split
  · exact .fail _
  · exact .fail _
  · refine .bind (.reading fun _ _ => rfl) fun _ => .bind (.require _ _) fun _ =>
      .bind (.asking fun _ _ => rfl) fun found => ?_
    split
    · exact .bind (.require _ _) fun _ => .bind (.reading fun _ _ => rfl) fun _ => .ret _
    · exact .bind (.cloneImage _ _ _ _ _ _ _) fun _ => .bind (.atomicJSON fun _ _ => rfl) fun _ =>
        .bind (.syncDir _) fun _ => .ret _
    · exact .fail _

theorem publishRestoreVersion_steady (w op : ID) (image : ImageName) :
    Steady (publishRestoreVersion w op image) := by
  refine .bind (.asking fun _ _ => rfl) fun found => ?_
  cases found with
  | some i => exact .ret _
  | none =>
    refine .bind (.asking fun _ _ => rfl) fun found => ?_
    cases found with
    | none => exact .fail _
    | some i =>
      exact .bind (.requireDir _) fun _ => .bind (.sys fun _ ts => ⟨ts, rfl⟩) fun _ =>
        .bind (.syncDir _) fun _ => .syncDir _

theorem swapRestoreApply_steady (r : SwapRestoreRequest) : Steady (swapRestoreApply r) := by
  refine .bind (.asking fun _ _ => rfl) fun found => ?_
  cases found with
  | error e => exact .fail _
  | ok s =>
    refine .bind (.require _ _) fun _ => .bind (.reading fun _ _ => rfl) fun m => ?_
    split
    · refine .bind (.asking fun _ _ => rfl) fun found => ?_
      cases found with
      | error e => exact .fail _
      | ok rb => exact .ret _
    · exact .bind (.require _ _) fun _ => .bind (publishRestoreVersion_steady _ _ _) fun _ =>
        recordSwap_steady

theorem finalizeRestoreApply_steady (m : RestoreMutation) : Steady (finalizeRestoreApply m) := by
  refine .bind (.asking fun _ _ => rfl) fun found => ?_
  split
  · refine .bind (.reading fun _ _ => rfl) fun found => ?_
    cases found with
    | none => exact .fail _
    | some r => exact .ret _
  · exact .fail _
  · exact .bind (.reading fun _ _ => rfl) fun _ => .bind (.require _ _) fun _ =>
      .bind (.require _ _) fun _ =>
      .bind (.removeExactFile _) fun _ => .bind (.removeExactFile _) fun _ =>
        .bind (.removeExactFile _) fun _ =>
        .bind (.removeExactFile _) fun _ => .bind (.syncDir _) fun _ => .bind (.syncDir _) fun _ =>
          .bind (.syncDir _) fun _ => .ret _

theorem abortRestoreApply_steady (m : RestoreMutation) : Steady (abortRestoreApply m) := by
  refine .bind (.asking fun _ _ => rfl) fun found => ?_
  split
  · exact .fail _
  · refine .bind (.asking fun _ _ => rfl) fun found => ?_
    split
    · exact .ret _
    · exact .fail _
    · exact .bind (.removeExactFile _) fun _ => .bind (.removeExactFile _) fun _ =>
        .bind (.syncDir _) fun _ => .ret _
  · exact .fail _

end SecondBox.WorkspaceStore

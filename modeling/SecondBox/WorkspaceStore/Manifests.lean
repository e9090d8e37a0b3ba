/-
  What a call can do to the current manifest of a Workspace: `step_manifest`.

  Every manifest a step leaves behind, finished, failed or cut by a crash, is the
  one before the step or comes about by one of the moves of `ManifestMove`, each
  with the checks the source makes before it publishes or removes the manifest.
  The invariants about manifests are read off this list.
-/
import SecondBox.WorkspaceStore.Footprint

namespace SecondBox.WorkspaceStore

open Crash Crash.Prog

/-- The manifests a call on `s` can leave for the Workspace `w`. -/
inductive ManifestMove (s : Store) (w : ID) : Call → Option CurrentManifest → Prop where
  | keep (c : Call) : ManifestMove s w c (s.disk.manifests.lookup w)
  | create {r : CreateWorkspaceRequest} : r.workspaceID = w → s.held w = false →
      s.disk.manifests.lookup w = none →
      ManifestMove s w (.create r)
        (some (firstManifest w (generationImageName 1 .create) r.capacityBytes))
  | clone {r : CloneWorkspaceRequest} : r.workspaceID = w → s.held w = false →
      s.disk.manifests.lookup w = none →
      ManifestMove s w (.cloneFromSnapshot r)
        (some (firstManifest w (generationImageName 1 .clone) r.capacityBytes))
  | advance {r : AdvanceGenerationRequest} {m : CurrentManifest} : r.workspaceID = w →
      s.held w = false → s.disk.manifests.lookup w = some m → m.generation = r.expectedGeneration →
      r.nextGeneration = r.expectedGeneration + 1 → 1 ≤ r.nextGeneration →
      stagedRestorePending w s.disk = false →
      s.disk.receipts.lookup (w, r.operationID, .generationAdvance) = none →
      ManifestMove s w (.advanceGeneration r) (some { m with generation := r.nextGeneration })
  | swap {r : SwapRestoreRequest} {m : CurrentManifest} {staged : StagedRestore} :
      r.workspaceID = w → s.held w = false → s.disk.manifests.lookup w = some m →
      m.generation = r.expectedGeneration →
      s.disk.staged.lookup (w, r.operationID) = some staged → 1 ≤ r.nextGeneration →
      s.disk.receipts.lookup (w, r.operationID, .restoreSwap) = none →
      ManifestMove s w (.swapRestore r) (some (swappedManifest r staged m))
  | sealed {r : RelocationExportRequest} {m : CurrentManifest} : r.workspaceID = w →
      s.held w = false → s.disk.manifests.lookup w = some m → m.generation = r.expectedGeneration →
      ManifestMove s w (.openRelocationExport r) (some { m with relocationSealed := true })
  | unsealed {r : RelocationExportRequest} {m : CurrentManifest} : r.workspaceID = w →
      s.held w = false → s.disk.manifests.lookup w = some m → m.generation = r.expectedGeneration →
      ManifestMove s w (.abortRelocation r) (some { m with relocationSealed := false })
  | deleted {r : DeleteWorkspaceRequest} : r.workspaceID = w → s.held w = false →
      ManifestMove s w (.deleteWorkspace r) none
  | tornDown {r : RelocationImportRequest} {m : CurrentManifest} : r.workspaceID = w →
      s.held w = false → s.disk.manifests.lookup w = some m →
      m.image = r.image → m.generation = r.generation → m.capacityBytes = r.capacityBytes →
      s.disk.receipts.lookup (w, r.operationID, .relocationImport) = none →
      ManifestMove s w (.beginRelocationImport r) none
  | imported {i size : Nat} {checksum : Checksum} {h : RelocationImport} :
      s.imports[i]? = some h → h.fileOpen = true → h.receipt = none → h.request.workspaceID = w →
      1 ≤ h.request.generation →
      ManifestMove s w (.complete i size checksum) (some h.request.manifest)
  | dropped {i : Nat} {h : RelocationImport} : s.imports[i]? = some h → h.receipt = none →
      h.created = true → h.request.workspaceID = w → ManifestMove s w (.abortImport i) none

/-! ## Reading manifests -/

section
variable {S : Record → Prop} {I : ImageFile → Prop} {D : Dir → Prop} {d d' : Disk} {w : ID}
  {m : CurrentManifest}

theorem readCurrentManifest_ok (h : readCurrentManifest w d = .ok m) :
    d.manifests.lookup w = some m := by
  unfold readCurrentManifest at h
  split at h
  · cases h
  · split at h
    · cases h
    · cases h; assumption

theorem readCurrentManifest_absent (h : readCurrentManifest w d = .error .workspaceNotFound) :
    d.manifests.lookup w = none := by
  unfold readCurrentManifest at h
  split at h
  · assumption
  · split at h <;> cases h

theorem loadReceipt_none {m : Mutation} {digest : Digest} {kind : ReceiptKind} {d : Disk}
    (h : loadReceipt m digest kind d = .ok none) :
    d.receipts.lookup (m.workspaceID, m.operationID, kind) = none := by
  unfold loadReceipt loadAnyReceipt at h
  split at h
  · cases h
  · rename_i he
    split at he
    · assumption
    · split at he
      · cases he
      · split at he <;> cases he
  · split at h
    · cases h
    · split at h <;> cases h

theorem readStagedRestore_ok {op : ID} {staged : StagedRestore}
    (h : readStagedRestore w op d = .ok staged) :
    d.staged.lookup (w, op) = some staged := by
  unfold readStagedRestore at h
  split at h
  · cases h
  · split at h
    · cases h
    · cases h; assumption

theorem Within.manifest (h : Within S I D d d') (hS : ¬ S (.current w)) :
    d'.manifests.lookup w = d.manifests.lookup w :=
  h.records (.current w) hS

theorem lookup_setManifest (d : Disk) (w : ID) (m : CurrentManifest) (ts : List Temp) :
    ((d.setManifest w m).withTemps ts).manifests.lookup w = some m :=
  AList.lookup_insert _

end

/-! ## Programs -/

section
variable {α : Type} {S : Record → Prop} {I : ImageFile → Prop} {D : Dir → Prop} {d : Disk}
  {w : ID} {M : Option CurrentManifest → Prop} {env : Env}

/-- Wherever `p` stops when started on `d`, `M` holds of the manifest of `w`. -/
abbrev ManifestWp (M : Option CurrentManifest → Prop) (w : ID) (p : Op α) (d : Disk) : Prop :=
  Always (fun d => M (d.manifests.lookup w)) p d

variable {p : Op α}

theorem Touches.manifestWp (h : Touches S I D p) (hS : ¬ S (.current w))
    (h0 : M (d.manifests.lookup w)) : ManifestWp M w p d :=
  h.always fun d' hd => by rw [hd.manifest hS]; exact h0

variable {β : Type}

theorem Touches.manifestWp_bind {g : α → Op β} (h : Touches S I D p)
    (hS : ¬ S (.current w)) (h0 : M (d.manifests.lookup w))
    (hg : ∀ a d', d'.manifests.lookup w = d.manifests.lookup w → M (d'.manifests.lookup w) →
    ManifestWp M w (g a) d') :
    ManifestWp M w (p.bind g) d := by
  have hM : ∀ d', Within S I D d d' → M (d'.manifests.lookup w) := fun d' hd => by
    rw [hd.manifest hS]; exact h0
  exact h.always_bind hM fun a d' hd => hg a d' (hd.manifest hS) (hM d' hd)

theorem manifestWp_publish {m : CurrentManifest} {b : β} (h0 : M (d.manifests.lookup w))
    (h1 : 1 ≤ m.generation → M (some m)) :
    ManifestWp M w ((publishCurrentManifest w m).bind fun _ => ret b) d := by
  refine always_publish_bind (fun _ => h0) (fun hm _ ts => ?_) fun hm _ ts => ?_
  · rw [lookup_setManifest]; exact h1 hm
  · rw [Always, wp_ret, lookup_setManifest]; exact h1 hm

theorem manifestWp_mutate {request : Json} {m : Mutation} {kind : ReceiptKind} {apply : Op Receipt}
    (h0 : M (d.manifests.lookup w))
      (ha : d.receipts.lookup (m.workspaceID, m.operationID, kind) = none →
      env.held m.workspaceID = false → ManifestWp M w apply d) :
        ManifestWp M w (mutate env request m kind apply) d :=
  always_mutate h0 (fun hl _ => ha (loadReceipt_none hl)) fun d' d'' hd hw => by
    rw [hw.manifest (by simp)]; exact hd

theorem Quiet.manifestWp_bind {g : α → Op β} (h : Quiet p) (h0 : M (d.manifests.lookup w))
    (hg : ∀ a d', d'.manifests.lookup w = d.manifests.lookup w → M (d'.manifests.lookup w) →
    ManifestWp M w (g a) d') :
    ManifestWp M w (p.bind g) d :=
  Touches.manifestWp_bind h id h0 hg

theorem Shrinks.manifest {d d' : Disk} (h : Shrinks d d') (w : ID) :
    d'.manifests.lookup w = d.manifests.lookup w ∨ d'.manifests.lookup w = none :=
  (h.records (.current w)).imp id fun hr => by simpa [Disk.hasRecord] using hr

theorem Removes.manifestWp (h : Removes p) (h0 : M (d.manifests.lookup w)) (h1 : M none) :
    ManifestWp M w p d := by
  have key : ∀ d', Shrinks d d' → M (d'.manifests.lookup w) := fun d' hd => by
    rcases hd.manifest w with e | e <;> rw [e] <;> assumption
  exact h.wp key fun _ => key

variable {h : RelocationImport}

theorem cleanup_manifest {g : Except StoreErr Unit → β} (h0 : M (d.manifests.lookup w)) :
    ManifestWp M w ((attempt (cleanupStaging h)).bind fun cleaned => ret (g cleaned)) d :=
  Touches.manifestWp (S := fun _ => False) (I := fun _ => True) (D := fun _ => True)
    (.bind (.attempt (Touches.cleanupStaging trivial)) fun _ => trivial) id h0

end

/-! ## Calls -/

section
variable {s : Store} {env : Env} (henv : ∀ w, env.held w = false → s.held w = false)

/-- Wherever `p` stops when started on the disk of `s`, the manifest of `w` is one `c` can leave. -/
abbrev Leaves {α : Type} (s : Store) (c : Call) (w : ID) (p : Op α) : Prop :=
  ManifestWp (ManifestMove s w c) w p s.disk

include henv

theorem create_leaves (r : CreateWorkspaceRequest) :
    Leaves s (.create r) r.workspaceID (create env r) := by
  refine Quiet.manifestWp_bind (.bind (.require _ _) fun _ => Touches.composes.replay _ _ _)
    (.keep _) fun found d₁ hd₁ h0 => ?_
  cases found with
  | some _ => exact h0
  | none =>
    refine manifestWp_mutate h0 fun _ hh => ?_
    refine Quiet.manifestWp_bind (.ensureWorkspaceLayout trivial fun _ => trivial) h0 fun _
      d₂ hd₂ h0 => ?_
    refine always_asking_bind ?_
    split
    · exact always_require_bind h0 fun _ => always_reading_bind h0 fun _ _ => h0
    · rename_i hm
      have habsent := hd₁.symm.trans (hd₂.symm.trans (readCurrentManifest_absent hm))
      refine Quiet.manifestWp_bind (.ensureTemplate trivial) h0 fun _ _ _ h0 => ?_
      refine Quiet.manifestWp_bind (.cloneImage _ trivial rfl _ _ _ _) h0 fun _ _ _ h0 => ?_
      exact manifestWp_publish h0 fun _ => .create rfl (henv _ hh) habsent
    · exact h0

theorem cloneFromSnapshot_leaves (r : CloneWorkspaceRequest) :
    Leaves s (.cloneFromSnapshot r) r.workspaceID (cloneFromSnapshot env r) := by
  refine Quiet.manifestWp_bind (.bind (.require _ _) fun _ => .bind (.reading _) fun _ =>
    Touches.composes.replay _ _ _)
    (.keep _) fun found d₁ hd₁ h0 => ?_
  cases found with
  | some _ => exact h0
  | none =>
    refine manifestWp_mutate h0 fun _ hh => always_reading_bind h0 fun _ _ =>
      always_require_bind h0 fun _ =>
      always_reading_bind h0 fun _ _ => ?_
    refine Quiet.manifestWp_bind (.ensureWorkspaceLayout trivial fun _ => trivial) h0 fun _
      d₂ hd₂ h0 => ?_
    refine always_asking_bind ?_
    split
    · exact always_require_bind h0 fun _ => always_reading_bind h0 fun _ _ => h0
    · rename_i hm
      have habsent := hd₁.symm.trans (hd₂.symm.trans (readCurrentManifest_absent hm))
      refine Quiet.manifestWp_bind (.cloneImage _ trivial rfl _ _ _ _) h0 fun _ _ _ h0 => ?_
      exact manifestWp_publish h0 fun _ => .clone rfl (henv _ hh) habsent
    · exact h0

theorem advanceGeneration_leaves (r : AdvanceGenerationRequest) :
    Leaves s (.advanceGeneration r) r.workspaceID (advanceGeneration env r) := by
  have h0 := ManifestMove.keep (s := s) (w := r.workspaceID) (.advanceGeneration r)
  refine always_require_bind h0 fun hnext => manifestWp_mutate h0 fun hn hh => ?_
  refine always_reading_bind h0 fun m hm => ?_
  dsimp only
  split
  · exact h0
  · refine always_require_bind h0 fun hg => always_asking_bind (always_require_bind h0 fun hp => ?_)
    refine Quiet.manifestWp_bind (Touches.composes.reclaimFreeBlocks _ _) h0 fun _ _ _ h0 => ?_
    exact manifestWp_publish h0 fun hpos =>
      .advance rfl (henv _ hh) (readCurrentManifest_ok hm) hg hnext hpos hp hn

theorem swapRestore_leaves (r : SwapRestoreRequest) :
    Leaves s (.swapRestore r) r.workspaceID (swapRestore env r) := by
  have h0 := ManifestMove.keep (s := s) (w := r.workspaceID) (.swapRestore r)
  refine always_reading_bind h0 fun _ _ => manifestWp_mutate h0 fun hn hh => always_asking_bind ?_
  split
  · exact h0
  · rename_i staged hs
    refine always_require_bind h0 fun _ => always_reading_bind h0 fun m hm => ?_
    split
    · refine always_asking_bind ?_
      split <;> exact h0
    · refine always_require_bind h0 fun hg => ?_
      refine Quiet.manifestWp_bind (.publishRestoreVersion trivial trivial) h0 fun _ _ _ h0 => ?_
      refine always_reading_bind h0 fun _ _ => ?_
      refine Touches.manifestWp_bind (S := (· = .rollback r.workspaceID r.operationID))
        (I := fun _ => False) (D := fun _ => False)
        (.atomicJSON (by rfl) fun _ => within_setRollback (by rfl) _) (by simp) h0 fun _ _ _ h0 =>
          ?_
      refine Quiet.manifestWp_bind (Touches.composes.syncDir _) h0 fun _ _ _ h0 => ?_
      exact manifestWp_publish h0 fun hpos =>
        .swap rfl (henv _ hh) (readCurrentManifest_ok hm) hg (readStagedRestore_ok hs) hpos hn

theorem openRelocationExport_leaves (r : RelocationExportRequest) :
    Leaves s (.openRelocationExport r) r.workspaceID (openRelocationExport env r) := by
  have h0 := ManifestMove.keep (s := s) (w := r.workspaceID) (.openRelocationExport r)
  refine always_bind_keeps (manifestWp_mutate h0 fun _ hh => always_reading_bind h0 fun m hm =>
    always_require_bind h0 fun hg => always_reading_bind h0 fun _ _ =>
      always_require_bind h0 fun _ =>
      manifestWp_publish h0 fun _ => .sealed rfl (henv _ hh) (readCurrentManifest_ok hm) hg)
        fun _ => ?_
  exact keeping.bind (keeping.lockWorkspace env _) fun _ => .bind (.reading _) fun _ =>
    .bind (.require _ _) fun _ =>
    .bind (.reading _) fun _ => .ret _

theorem beginRelocationImport_leaves (r : RelocationImportRequest) :
    Leaves s (.beginRelocationImport r) r.workspaceID (beginRelocationImport env r) := by
  have h0 := ManifestMove.keep (s := s) (w := r.workspaceID) (.beginRelocationImport r)
  have stage : ∀ {d'}, ManifestMove s r.workspaceID (.beginRelocationImport r)
      (d'.manifests.lookup r.workspaceID) →
      ∀ b : RelocationImport, ManifestWp _ r.workspaceID ((stageImport r).bind fun _ => ret b) d' :=
        fun h b =>
    Quiet.manifestWp_bind (.stageImport trivial trivial) h fun _ _ _ h => h
  refine always_require_bind h0 fun _ => always_reading_bind h0 fun _ _ =>
    always_reading_bind h0 fun _ _ => always_reading_bind h0 fun found hl => ?_
  cases found with
  | some _ => exact always_reading_bind h0 fun _ _ => h0
  | none =>
    refine always_lock_bind h0 fun hh => always_asking_bind ?_
    split
    · rename_i m hm
      refine always_require_bind h0 fun hc => ?_
      have hnone :=
        ManifestMove.tornDown rfl (henv _ hh) (readCurrentManifest_ok hm) hc.1 hc.2.1 hc.2.2
        (loadReceipt_none hl)
      refine (wp_bind _ _ _ _).2 (wp_mono (fun res d' hd => ?_)
        ((Removes.removeWorkspaceTree r.workspaceID).manifestWp h0 hnone))
      cases res with
      | error e => exact hd
      | ok _ => exact stage hd _
    · exact stage h0 _
    · exact h0

omit henv

variable {i : Nat} {h : RelocationImport} (hi : s.imports[i]? = some h)
include hi

theorem complete_leaves (size : Nat) (checksum : Checksum) :
    Leaves s (.complete i size checksum) h.request.workspaceID (complete env h size checksum) := by
  have h0 := ManifestMove.keep (s := s) (w := h.request.workspaceID) (.complete i size checksum)
  unfold complete
  split
  · exact h0
  rename_i hr
  split
  · exact h0
  rename_i hc
  split
  · exact h0
  refine Quiet.manifestWp_bind (.attempt Touches.sync) h0 fun synced d' _ h0 => ?_
  split
  · exact h0
  refine always_asking_bind ?_
  split
  · exact h0
  have hopen : h.fileOpen = true := by simpa using (not_or.1 hc).1
  have hpublish : ManifestWp (ManifestMove s h.request.workspaceID (.complete i size checksum))
    h.request.workspaceID
      (publishImport env h) d' := by
    refine Quiet.manifestWp_bind (.ensureWorkspaceLayout trivial fun _ => trivial) h0
      fun _ _ _ h0 => ?_
    refine always_asking_bind ?_
    split
    · exact h0
    · refine always_sys_bind h0 ?_
      refine Quiet.manifestWp_bind .sync h0 fun _ _ _ h0 => ?_
      refine always_publish_bind (fun _ => h0) (fun hm _ ts => ?_) fun hm _ ts => ?_
      · rw [lookup_setManifest]; exact .imported hi hopen hr rfl hm
      · refine Touches.manifestWp
          (S := (· = .receipt h.request.workspaceID h.request.operationID .relocationImport))
          (I := fun _ => False) (D := fun _ => False) (.recordReceipt env rfl) (by simp) ?_
        rw [lookup_setManifest]; exact .imported hi hopen hr rfl hm
  refine (wp_bind _ _ _ _).2 ((wp_attempt _ _ _).2 (wp_mono (fun res d'' hd => ?_) hpublish))
  cases res with
  | error e => exact hd
  | ok receipt => exact cleanup_manifest hd

theorem abort_leaves : Leaves s (.abortImport i) h.request.workspaceID (abort h) := by
  have h0 := ManifestMove.keep (s := s) (w := h.request.workspaceID) (.abortImport i)
  unfold abort
  split
  · exact h0
  rename_i hr
  cases hc : h.created with
  | false => exact cleanup_manifest h0
  | true =>
    have hrem : Removes (do removeWorkspaceTree h.request.workspaceID; sync) :=
      .bind (Removes.removeWorkspaceTree _) fun _ => Removes.composes.sync
    exact (wp_bind _ _ _ _).2 ((wp_attempt _ _ _).2 (wp_mono (fun res d'' hd => cleanup_manifest hd)
      (hrem.manifestWp h0 (.dropped hi (by simpa using hr) hc rfl))))

end

/-! ## Steps -/

/-- A call whose footprint leaves out the manifest of `w` keeps it. -/
theorem ManifestMove.of_footprint {s : Store} {c : Call} {t : Moment} {w : ID}
    (h : ¬ (c.footprint s).records (.current w)) :
    ManifestMove s w c ((s.step c t).disk.manifests.lookup w) := by
  rw [(s.step_within c t).manifest h]
  exact .keep c

/-- A program that only finds the handle to return. -/
theorem ManifestMove.of_wp {s : Store} {c : Call} {t : Moment} {w : ID} {α : Type} {p : Op α}
    {g : α → Store → Store} (hp : c.prog s (s.env t) = p.bind fun a => ret (g a))
    (h : ManifestWp (ManifestMove s w c) w p s.disk) :
    ManifestMove s w c ((s.step c t).disk.manifests.lookup w) := by
  refine Store.step_disk_of_wp (P := fun d => ManifestMove s w c (d.manifests.lookup w)) ?_
  rw [hp, wp_bind]
  refine wp_mono (fun r d hd => ?_) h
  cases r <;> exact hd

theorem step_manifest (s : Store) (c : Call) (t : Moment) (w : ID) :
    ManifestMove s w c ((s.step c t).disk.manifests.lookup w) := by
  by_cases hw : c.workspace s = some w
  swap
  · exact .of_footprint fun hx => hw (Call.workspace_of_record hx rfl)
  have henv : ∀ w, (s.env t).held w = false → s.held w = false := fun _ hh => hh
  cases c with
  | create r =>
    cases hw
    exact .of_wp rfl (create_leaves henv r)
  | cloneFromSnapshot r =>
    cases hw
    exact .of_wp rfl (cloneFromSnapshot_leaves henv r)
  | advanceGeneration r =>
    cases hw
    exact .of_wp rfl (advanceGeneration_leaves henv r)
  | swapRestore r =>
    cases hw
    exact .of_wp rfl (swapRestore_leaves henv r)
  | openRelocationExport r =>
    cases hw
    exact .of_wp rfl (openRelocationExport_leaves henv r)
  | abortRelocation r =>
    cases hw
    refine .of_wp rfl (manifestWp_mutate (.keep _) fun _ hh => always_reading_bind (.keep _) fun m hm =>
      always_require_bind (.keep _) fun hg => manifestWp_publish (.keep _) fun _ => ?_)
    exact .unsealed rfl hh (readCurrentManifest_ok hm) hg
  | deleteWorkspace r =>
    cases hw
    exact .of_wp rfl (manifestWp_mutate (.keep _) fun _ hh =>
      (Removes.deleteWorkspaceApply r).manifestWp (.keep _) (.deleted rfl hh))
  | beginRelocationImport r =>
    cases hw
    exact .of_wp rfl (beginRelocationImport_leaves henv r)
  | complete i size checksum =>
    obtain ⟨h, hi, rfl⟩ := Option.map_eq_some_iff.1 hw
    exact .of_wp (by simp only [Call.prog, hi]; rfl) (complete_leaves hi size checksum)
  | abortImport i =>
    obtain ⟨h, hi, rfl⟩ := Option.map_eq_some_iff.1 hw
    exact .of_wp (by simp only [Call.prog, hi]; rfl) (abort_leaves hi)
  | _ => exact .of_footprint (by simp [Call.footprint, Footprint.none])

end SecondBox.WorkspaceStore

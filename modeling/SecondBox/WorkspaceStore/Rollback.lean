/-
  Rollback records along histories.

  Four calls can move the manifest away from a rollback record, or publish one
  that nothing can finalize: AdvanceGeneration once the staged record beside it
  is gone, the tear-down of BeginRelocationImport, and a SwapRestore under an
  operation that was finalized before, or to generation zero.  In every history
  without them each record stays sound and can be cleared
  (`rollback_recoverable`).
-/
import SecondBox.WorkspaceStore.RestoreSound

namespace SecondBox.WorkspaceStore

open Crash Crash.Prog

variable {α : Type} {d d' : Disk} {w op : ID} {rb : RollbackManifest} {m : CurrentManifest}

/-! ## Who makes restore records -/

section
variable {S : Record → Prop} {I : ImageFile → Prop} {D : Dir → Prop} {x : Record}

theorem Removes.keepsUnrecorded {p : Op α} (h : Removes p) :
    p.Keeps fun d => d.hasRecord x = false := by
  intro d hd
  have key : ∀ d', Shrinks d d' → d'.hasRecord x = false := fun d' hs =>
    (hs.records x).elim (fun same => same.hasRecord.trans hd) id
  exact Removes.wp h key fun _ => key

theorem Touches.keepsUnrecorded {p : Op α} (h : Touches S I D p) (hx : ¬ S x) :
    p.Keeps fun d => d.hasRecord x = false :=
  fun _ hd => Touches.always h fun _ hw => (hw.records x hx).hasRecord.trans hd

/-- Only PrepareRestore and SwapRestore make restore records. -/
theorem Call.keepsUnrecorded (s : Store) (env : Env) (hx : x = .staged w op ∨ x = .rollback w op)
    (c : Call) (hp : ∀ r, c ≠ .prepareRestore r) (hs : ∀ r, c ≠ .swapRestore r) :
    (c.prog s env).Keeps fun d => d.hasRecord x = false := by
  have mutation : ∀ {request m kind} {apply : Op Receipt},
      (apply.Keeps fun d => d.hasRecord x = false) →
      (mutate env request m kind apply).Keeps fun d => d.hasRecord x = false :=
        fun h => keeping.mutate h fun r _ _ _ =>
    Touches.keepsUnrecorded (S := (· = .receipt r.workspaceID r.operationID r.kind)) (I :=
      fun _ => False)
      (D := fun _ => False) (.recordReceipt env rfl) (by rcases hx with rfl | rfl <;> simp)
  have removed : ∀ f, (removeExactFile f).Keeps fun d => d.hasRecord x = false := fun f =>
    Removes.keepsUnrecorded (.removeExactFile f)
  have tree : ∀ v, (removeWorkspaceTree v).Keeps fun d => d.hasRecord x = false := fun v =>
    Removes.keepsUnrecorded (.removeWorkspaceTree v)
  cases c with
  | prepareRestore r => exact absurd rfl (hp r)
  | swapRestore r => exact absurd rfl (hs r)
  | finalizeRestore m =>
    exact .bind (mutation (keeps_finalizeRestoreApply m removed)) fun _ => .ret _
  | abortRestore m =>
    exact .bind (mutation (keeps_abortRestoreApply m removed)) fun _ => .ret _
  | deleteWorkspace r =>
    exact .bind (mutation (Removes.keepsUnrecorded (.deleteWorkspaceApply r))) fun _ => .ret _
  | beginRelocationImport r =>
    exact .bind (keeping.beginRelocationImport (tree _) (Touches.keepsUnrecorded (S := fun _ => False)
      (I := fun _ => True) (D := fun _ => False) (.stageImport trivial trivial) id)) fun _ => .ret _
  | abortImport i =>
    simp only [Call.prog]
    split
    · exact .ret _
    · rename_i h _
      exact .bind (keeping.abort (tree _) (Removes.keepsUnrecorded (.bind (Removes.removeExactFile _) fun _ =>
        Removes.composes.sync))) fun _ => .ret _
  | _ =>
    refine Touches.keepsUnrecorded (Call.touches s env _) ?_
    rcases hx with rfl | rfl <;> simp [Call.footprint, Footprint.none]

/-- While a handle holds a Workspace, it gets no restore record. -/
theorem Store.step_unrecorded {s : Store} (hh : s.held w = true)
    (hx : x = .staged w op ∨ x = .rollback w op) (h : s.disk.hasRecord x = false) (c : Call)
    (t : Moment) : (s.step c t).disk.hasRecord x = false := by
  have locked : ∀ {r : PrepareRestoreRequest} {kind : ReceiptKind} {apply : Op Receipt},
      r.workspaceID = w →
      Always (fun d => d.hasRecord x = false) (mutate (s.env t) r.json r.toMutation kind apply)
        s.disk := by
    intro r kind apply hw
    refine always_mutate h (fun _ _ hfree => ?_) fun d' d'' hd hw => ?_
    · have hheld : s.held r.workspaceID = false := hfree
      rw [hw, hh] at hheld
      cases hheld
    · exact (hw.records x (by rcases hx with rfl | rfl <;> simp)).hasRecord.trans hd
  cases c with
  | prepareRestore r | swapRestore r =>
    by_cases hw : r.workspaceID = w
    · refine Store.step_disk_of_wp (P := fun d => d.hasRecord x = false) ?_
      exact always_ret_bind (always_reading_bind h fun _ _ => locked hw)
    · refine ((s.step_within _ t).records x ?_).hasRecord.trans h
      rcases hx with rfl | rfl <;> simp [Call.footprint, Ne.symm hw]
  | _ => exact Store.step_disk_of_wp (Call.keepsUnrecorded s _ hx _ (by simp) (by simp) _ h)

end

/-! ## Attachments -/

theorem Call.prog_attachments (s : Store) (env : Env) (c : Call)
    (hc : ∀ w g, c ≠ .openWorkspace w g) :
    (c.prog s env).Yields fun f => ∀ s', ∀ a ∈ (f s').attachments, a ∈ s'.attachments := by
  cases c with
  | openWorkspace w g => exact absurd rfl (hc w g)
  | guestWrite w i =>
    simp only [Call.prog]
    split
    · exact fun _ _ => id
    · refine .bind fun i => ?_
      split
      · exact fun _ _ => id
      · exact .bind fun _ _ _ => id
  | writeChunk i | complete i | abortImport i =>
    simp only [Call.prog]
    split
    · exact fun _ _ => id
    · exact .bind fun _ _ _ => id
  | closeAttachment w => exact fun _ _ ha => (List.mem_filter.1 ha).1
  | closeExport => exact fun _ _ => id
  | _ => exact .bind fun _ _ _ => id

theorem openWorkspace_unstaged (env : Env) (w : ID) (g : UInt64) (d : Disk) :
    (openWorkspace env w g).wp (fun _ => True)
      (fun r _ => ∀ m, r = .ok m → stagedRestorePending w d = false) d := by
  have err : ∀ (e : StoreErr) (m : CurrentManifest), Except.error e = .ok m →
      stagedRestorePending w d = false :=
    fun e m he => by cases he
  refine wp_reading_bind (fun e _ => err e) fun _ _ => wp_lock_bind err fun _ =>
    wp_reading_bind (fun e _ => err e) fun m _ => wp_require_bind (fun _ => err _) fun _ =>
      wp_require_bind (fun _ => err _) fun _ =>
        wp_asking_bind (wp_require_bind (fun _ => err _) fun hp =>
        wp_reading_bind (fun e _ => err e) fun _ _ _ _ => hp)

theorem Store.step_attachments {s : Store} {c : Call} {t : Moment} {a : ID × ImageName}
    (ha : a ∈ (s.step c t).attachments) :
    a ∈ s.attachments ∨ (∃ g, c = .openWorkspace a.1 g) ∧
      stagedRestorePending a.1 s.disk = false := by
  revert a
  have crash : ∀ d, ∀ a ∈ (s.crash t d).attachments, a ∈ s.attachments ∨
      (∃ g, c = .openWorkspace a.1 g) ∧ stagedRestorePending a.1 s.disk = false :=
    fun d a ha => .inl (List.mem_filter.1 ha).1
  refine Store.step_of_wp (P := fun s' => ∀ a ∈ s'.attachments, a ∈ s.attachments ∨
    (∃ g, c = .openWorkspace a.1 g) ∧ stagedRestorePending a.1 s.disk = false) ?_
  by_cases hc : ∃ w g, c = .openWorkspace w g
  · obtain ⟨w, g, rfl⟩ := hc
    refine (wp_bind _ _ _ _).2 (wp_crash_mono (fun d _ => crash d) (wp_mono (fun res d hr => ?_)
      (openWorkspace_unstaged (s.env t) w g s.disk)))
    cases res with
    | error e => exact fun a ha => .inl ha
    | ok m =>
      intro a ha
      rcases List.mem_cons.1 ha with rfl | ha
      · exact .inr ⟨⟨g, rfl⟩, hr m rfl⟩
      · exact .inl ha
  · push Not at hc
    refine wp_crash_mono (fun d _ => crash d)
      (wp_mono (fun res d hr => ?_) (c.prog_attachments s (s.env t) hc).wp_ok)
    cases res with
    | error e => exact fun a ha => .inl ha
    | ok f => exact fun a ha => .inl (hr f rfl { s with disk := d } a ha)

/-! ## The invariant -/

/-- Calls that leave the rollback records of a Workspace alone: the generation is
    not advanced while there is one without its staged record, the tree is not
    torn down while there is one, and no swap publishes one that could not be
    finalized. -/
def Call.SparesRollback (s : Store) (c : Call) : Prop :=
  match c with
  | .advanceGeneration r => (c.reached s).isSome → s.disk.rollbackOperations r.workspaceID = []
  | .beginRelocationImport r => (c.reached s).isSome → s.disk.rollbackOperations r.workspaceID = []
  | .swapRestore r => (c.reached s).isSome → r.nextGeneration ≠ 0 ∧
      s.disk.receipts.lookup (r.workspaceID, r.operationID, .restoreFinalize) = none
  | _ => True

instance (s : Store) (c : Call) : Decidable (c.SparesRollback s) := by
  cases c <;> unfold Call.SparesRollback <;> infer_instance

/-- What every call keeps. -/
structure Store.RestoreInvariant (s : Store) : Prop where
  handles : s.Handles
  sound : ∀ w, s.disk.RestoreSound w
  attached : ∀ a ∈ s.attachments, ∀ op, s.disk.staged.lookup (a.1, op) = none
  importing : ∀ (i : Nat) h, s.imports[i]? = some h → h.locked = true →
    ∀ op, s.disk.rollbacks.lookup (h.request.workspaceID, op) = none

theorem rollbackOperations_nil : d.rollbackOperations w = [] ↔
    ∀ op, d.rollbacks.lookup (w, op) = none := by
  rw [List.eq_nil_iff_forall_not_mem]
  exact forall_congr' fun op => by rw [mem_rollbackOperations]; simp

/-- Compute only writes where nothing is staged. -/
theorem Disk.RestoreSound.written (h : d.RestoreSound w)
    (hst : ∀ op, d.staged.lookup (w, op) = none) (f : ImageFile) (i : Image) :
    (d.setImage f i).RestoreSound w := by
  refine ⟨h.age, h.staged, h.single, fun op rb hrb => ?_⟩
  have hr := h.rollback op rb hrb
  refine { hr with present := ?_, position := ?_ }
  · by_cases hf : ImageFile.version w rb.nextImage = f
    · rw [hf, Disk.setImage, AList.lookup_insert]
      rfl
    · rw [Disk.setImage, AList.lookup_insert_ne hf]
      exact hr.present
  · rcases hr.position with ⟨m, hn⟩ | ⟨m, s, hp⟩
    · exact .inl ⟨m, hn.same rfl⟩
    · have := (readStagedRestore_iff.1 hp.staged).1
      rw [hst op] at this
      cases this

namespace Store.RestoreInvariant

theorem init : Store.init.RestoreInvariant where
  handles := .init
  sound w := by
    refine ⟨fun m hm => ?_, fun op s hs => ?_, fun o o' ho => ?_, fun op rb hrb => ?_⟩
    · simp [Store.init, Disk.empty] at hm
    · simp [Store.init, Disk.empty] at hs
    · simp [Store.init, Disk.empty, Disk.restores] at ho
    · simp [Store.init, Disk.empty] at hrb
  attached := by simp [Store.init]
  importing := by simp [Store.init]

theorem prog_sound {s : Store} (hs : s.RestoreInvariant) {c : Call} (hc : c.SparesRollback s)
    (t : Moment) (hw : c.workspace s = some w) :
    Always (Disk.RestoreSound w) (c.prog s (s.env t)) s.disk := by
  have h := hs.sound w
  have reached := fun {x m} => Call.reached_eq (s := s) (c := c) (x := x) (m := m)
  -- calls that touch nothing the soundness of `w` depends on
  have framed : (∀ x, (c.footprint s).records x → ¬ x.restores w) →
      (∀ g op, ¬ (c.footprint s).images (.version w ⟨g, .restore op⟩)) →
      Always (Disk.RestoreSound w) (c.prog s (s.env t)) s.disk := fun hS hI =>
    (c.touches s (s.env t)).keepsRestore hS hI _ h
  cases c with
  | create r =>
    obtain rfl := Option.some.inj hw
    exact always_ret_bind (keeping.create (fun d hd => mutate_restoreSound hd (by simp) fun _ _ =>
      createApply_restoreSound r hd) _ h)
  | cloneFromSnapshot r =>
    obtain rfl := Option.some.inj hw
    exact always_ret_bind (keeping.cloneFromSnapshot (fun d hd => mutate_restoreSound hd (by simp) fun _ _ =>
      cloneApply_restoreSound r hd) _ h)
  | openWorkspace | closeAttachment | closeExport | inspect | reconcile | kill =>
    exact framed (by simp [Call.footprint, Footprint.none])
      (by simp [Call.footprint, Footprint.none])
  | createSnapshot r | deleteSnapshot r =>
    refine framed ?_ (by simp [Call.footprint])
    rintro _ (rfl | rfl) <;> simp [Record.restores]
  | writeChunk i offset chunk =>
    exact framed (by simp [Call.footprint]) (by simp [Call.footprint, RelocationImportRequest.staging])
  | guestWrite v written =>
    obtain rfl := Option.some.inj hw
    simp only [Call.prog]
    split
    · exact h
    · rename_i a image ha
      refine always_asking_bind ?_
      split
      · exact h
      · have hst := hs.attached _ (List.mem_of_find?_eq_some ha)
        rw [show a = v by simpa using List.find?_some ha] at hst
        exact always_sys_bind h (h.written hst _ _)
  | advanceGeneration r =>
    obtain rfl := Option.some.inj hw
    exact always_ret_bind (always_require_bind h fun hn => mutate_restoreSound h (by simp) fun hl hh =>
      advanceApply_restoreSound r hn h fun m hm hg hp => rollbackOperations_nil.1
        (hc (Option.isSome_of_mem (reached rfl hh hl hm (by simp [hg, hn, hp])))))
  | prepareRestore r =>
    obtain rfl := Option.some.inj hw
    exact always_ret_bind (always_reading_bind h fun _ hv => mutate_restoreSound h (by simp) fun _ _ =>
      prepareRestoreApply_restoreSound (validRestoreRequest hv) h)
  | swapRestore r =>
    obtain rfl := Option.some.inj hw
    exact always_ret_bind (swapRestore_restoreSound _ h fun hl hh st m hchecks =>
      hc (Option.isSome_of_mem (reached rfl hh hl (readCurrentManifest_ok hchecks.manifest)
        (by simp [hchecks.generation, readStagedRestore_ok hchecks.staged]))))
  | finalizeRestore mu =>
    obtain rfl := Option.some.inj hw
    exact always_ret_bind (finalizeRestore_restoreSound _ mu h)
  | abortRestore mu =>
    obtain rfl := Option.some.inj hw
    exact always_ret_bind (mutate_restoreSound h (by simp) fun _ _ => abortRestoreApply_restoreSound mu h)
  | deleteWorkspace r =>
    obtain rfl := Option.some.inj hw
    exact always_ret_bind (mutate_restoreSound h (by simp) fun _ _ => deleteWorkspaceApply_restoreSound r h)
  | openRelocationExport r =>
    obtain rfl := Option.some.inj hw
    refine always_ret_bind (always_bind_keeps (mutate_restoreSound h (by simp) fun _ _ =>
      exportApply_restoreSound r h) fun _ => ?_)
    exact .bind (keeping.lockWorkspace _ _) fun _ => .bind (.reading _) fun _ =>
      .bind (.require _ _) fun _ =>
      .bind (.reading _) fun _ => .ret _
  | abortRelocation r =>
    obtain rfl := Option.some.inj hw
    exact always_ret_bind (mutate_restoreSound h (by simp) fun _ _ => abortRelocationApply_restoreSound r h)
  | beginRelocationImport r =>
    obtain rfl := Option.some.inj hw
    refine always_ret_bind ?_
    by_cases hn : s.disk.rollbackOperations r.workspaceID = []
    · exact always_unrolled (keeping.beginRelocationImport (Removes.keepsUnrolled (.removeWorkspaceTree _))
        (Unrolled.keeps_stageImport _ r)) ⟨h, rollbackOperations_nil.1 hn⟩
    -- the import is refused, or answered from its receipt
    refine always_require_bind h fun _ => always_reading_bind h fun _ _ =>
      always_reading_bind h fun _ _ =>
      always_reading_bind h fun found hl => ?_
    cases found with
    | some _ => exact always_reading_bind h fun _ _ => h
    | none =>
      refine always_lock_bind h fun hh => always_asking_bind ?_
      split
      · rename_i m hm
        exact always_require_bind h fun hsame => absurd (hc (Option.isSome_of_mem
          (reached rfl hh (loadReceipt_none hl) (readCurrentManifest_ok hm) (by simp [hsame])))) hn
      · rename_i hm
        exact absurd (rollbackOperations_nil.2 (h.unrolled (by simp [hm])).2) hn
      · exact h
  | complete i size checksum =>
    simp only [Call.prog]
    split
    · exact h
    · rename_i im hi
      obtain rfl : im.request.workspaceID = w := by simpa [Call.workspace, hi] using hw
      refine always_ret_bind ?_
      by_cases ho : im.fileOpen = true
      · exact always_unrolled (Unrolled.keeps_complete _ im size checksum)
          ⟨h, hs.importing i im hi ((hs.handles.sound i im hi).fileOpen ho)⟩
      · exact complete_idle (by simpa using ho) h
  | abortImport i =>
    simp only [Call.prog]
    split
    · exact h
    · rename_i im hi
      obtain rfl : im.request.workspaceID = w := by simpa [Call.workspace, hi] using hw
      refine always_ret_bind ?_
      by_cases hl : im.locked = true
      · exact always_unrolled (keeping.abort (Removes.keepsUnrolled (.removeWorkspaceTree _))
          (Unrolled.keeps_cleanupStaging _ im)) ⟨h, hs.importing i im hi hl⟩
      · unfold WorkspaceStore.abort
        split
        · exact h
        · rename_i hr
          -- an import that gave up its lock has no tree of its own
          have hcr : im.created = false := by
            by_contra hcr
            exact hl ((hs.handles.sound i im hi).created (by simpa using hr) (by simpa using hcr))
          rw [hcr]
          exact Keeps.bind (.ret _) (fun _ => .bind (.attempt (Touches.keepsRestore (S := fun _ => False)
            (I := (· = im.request.staging)) (D := fun _ => False) (.cleanupStaging rfl)
            (fun _ => False.elim)
            (by simp [RelocationImportRequest.staging]))) fun _ => .ret _) _ h

theorem step {s : Store} (hs : s.RestoreInvariant) {c : Call} (t : Moment)
    (hc : c.SparesRollback s) :
    (s.step c t).RestoreInvariant where
  handles := hs.handles.step c t
  sound w := by
    by_cases hw : c.workspace s = some w
    · exact Store.step_disk_of_wp (hs.prog_sound hc t hw)
    · exact (SameRestore.of_agree (s.step_agree c t hw)).sound (hs.sound w)
  attached a ha op := by
    rcases Store.step_attachments ha with ha | ⟨⟨g, rfl⟩, hp⟩
    · have hheld : s.held a.1 = true := by
        have : s.attachments.any (·.1 == a.1) = true := List.any_eq_true.2 ⟨a, ha, by simp⟩
        simp [Store.held, this]
      have hn := Store.step_unrecorded (x := .staged a.1 op) hheld (.inl rfl)
        (by simp [Disk.hasRecord, hs.attached a ha op]) c t
      simpa [Disk.hasRecord] using hn
    · rw [(s.step_within _ t).staged (by simp [Call.footprint, Footprint.none])]
      exact stagedRestorePending_eq_false.1 hp op
  importing i h hi hl op := by
    have unrecorded : ∀ {x : Disk}, x.hasRecord (.rollback h.request.workspaceID op) = false ↔
        x.rollbacks.lookup (h.request.workspaceID, op) = none := by simp [Disk.hasRecord]
    cases step_imports s c t i h hi with
    | moved hi0 hb =>
      obtain ⟨hl0, -⟩ := hb.locked hl
      rw [← unrecorded, hb.request]
      refine Store.step_unrecorded (Store.held_of_locked hi0 hl0) (.inr rfl) ?_ c t
      rw [← hb.request, unrecorded, hb.request]
      exact hs.importing i _ hi0 hl0 op
    | begun _ hr hb =>
      subst hr
      rw [← unrecorded]
      refine Store.step_disk_of_wp (P :=
        fun d => d.hasRecord (.rollback h.request.workspaceID op) = false) ?_
      refine Call.keepsUnrecorded s _ (.inr rfl) _ (by simp) (by simp) _ (unrecorded.2 ?_)
      obtain ⟨hh, hn, hsame⟩ := hb.locked hl
      cases hm : s.disk.manifests.lookup h.request.workspaceID with
      | none => exact ((hs.sound _).unrolled fun m hok => by cases hm.symm.trans (readCurrentManifest_ok hok)).2 op
      | some m =>
        exact rollbackOperations_nil.1
          (hc (Option.isSome_of_mem (Call.reached_eq rfl hh hn hm (by simp [hsame m hm])))) op

end Store.RestoreInvariant

/-! ## Clearing a record -/

/-- Run to its end on `d`, FinalizeRestore succeeds and leaves no restore pending. -/
def Finalizes (env : Env) (mu : RestoreMutation) (d : Disk) : Prop :=
  ∃ receipt d', (finalizeRestore env mu).run d = (.ok receipt, d') ∧
    restorePending mu.workspaceID d' = .ok false

theorem validateMutation_valid {fence : List UInt8} (hw : validID w = true) (ho : validID op = true)
    (hf : 32 ≤ fence.length) : validateMutation ⟨op, w, fence⟩ = .ok () := by
  simp only [validateMutation, validateID, hw, ho, if_true, if_neg (Nat.not_lt.2 hf)]
  rfl

theorem loadReceipt_absent {mu : Mutation} {digest : Digest} {kind : ReceiptKind}
    (h : d.receipts.lookup (mu.workspaceID, mu.operationID, kind) = none) :
    loadReceipt mu digest kind d = .ok none := by
  simp [loadReceipt, loadAnyReceipt, h]

section
variable {env : Env} {fence : List UInt8} {L : Dir → Prop}

/-- The manifest keeps the parts of its Workspace, the restored image the versions. -/
theorem Disk.RestoreSound.dirs (h : d.RestoreSound w) (hroot : d.Rooted L)
    (hrb : d.rollbacks.lookup (w, op) = some rb) (part : Part) : .part w part ∈ d.dirs := by
  obtain ⟨m, hm⟩ := h.manifest_of_rollback hrb
  have hman : d.hasRecord (.current w) = true :=
    Option.isSome_of_mem (readCurrentManifest_iff.1 hm).1
  cases part with
  | versions => exact hroot.images _ _ rfl (h.rollback op rb hrb).present
  | manifest => exact hroot.records (.current w) _ rfl hman
  | staged => exact (hroot.parts w hman).1
  | rollback => exact (hroot.parts w hman).2

theorem Disk.AtNext.finalizes (hn : d.AtNext w rb m) (h : d.RestoreSound w) (hroot : d.Rooted L)
    (hrb : d.rollbacks.lookup (w, op) = some rb) (hh : env.held w = false)
    (hf : 32 ≤ fence.length) :
    Finalizes env ⟨op, w, fence⟩ d := by
  have hr := h.rollback op rb hrb
  have hc : FinalizeChecks ⟨op, w, fence⟩ d rb m := by
    refine ⟨readRollback_iff.2 ⟨hrb, hr.readable⟩, hn.manifest, ⟨hn.generation, hn.image⟩,
      fun e => ?_⟩
    have hold := hr.older
    rw [e, hn.image, hr.nextImage] at hold
    exact absurd hold (UInt64.lt_irrefl _)
  have hdirs := h.dirs hroot hrb
  have hsync : Ends (finishFinalize w rb) (d.clearRestore w op rb.previousImage)
      (.ok (finalizedReceipt rb)) _ :=
    syncDirs_ends _ _ (by
      intro p hp
      simp only [List.mem_cons, List.not_mem_nil, or_false] at hp
      rcases hp with rfl | rfl | rfl
      · exact hdirs .versions
      · exact hdirs .staged
      · exact hdirs .rollback)
  have happly := hc.ends
  obtain ⟨ts, hrun⟩ := hsync.run_eq
  rw [hrun] at happly
  have hsnap : ¬ ((finalizedReceipt rb).snapshotID ≠ "" ∧
      ¬ validID (finalizedReceipt rb).snapshotID) := by
    simp [finalizedReceipt, hr.snapshotID]
  have hmutate : Ends (finalizeRestore env ⟨op, w, fence⟩) d _ _ :=
    mutate_ends_ok (validateMutation_valid hr.workspaceID hr.operationID hf) hh
      (loadReceipt_absent hr.unfinalized)
      happly hsnap
  obtain ⟨us, hend⟩ := hmutate.run_eq
  refine ⟨_, _, hend, restorePending_eq_false.2 ⟨fun o => ?_, fun o => ?_⟩⟩
  · by_cases ho : o = op
    · subst ho
      exact AList.lookup_erase _ _
    · refine (AList.lookup_erase_ne (by simp [ho])).trans ?_
      by_contra hs
      exact ho (h.single o op (.inl (Option.ne_none_iff_isSome.1 hs)) (.inr (Option.isSome_of_mem hrb)))
  · by_cases ho : o = op
    · subst ho
      exact AList.lookup_erase _ _
    · refine (AList.lookup_erase_ne (by simp [ho])).trans ?_
      by_contra hs
      exact ho (h.single o op (.inr (Option.ne_none_iff_isSome.1 hs)) (.inr (Option.isSome_of_mem hrb)))

theorem validateRestoreRequest_valid {r : PrepareRestoreRequest}
    (hm : validateMutation r.toMutation = .ok ()) (hs : validID r.snapshotID = true)
    (hg : 1 ≤ r.expectedGeneration)
    (hn : r.nextGeneration = r.expectedGeneration + 1) : validateRestoreRequest r = .ok () := by
  simp only [validateRestoreRequest, hm, validateID, hs, if_true]
  exact if_neg (not_or.2 ⟨UInt64.not_lt.2 hg, not_not.2 hn⟩)

/-- The request that takes up the swap of a staged record. -/
def StagedRestore.request (s : StagedRestore) (mu : Mutation) : SwapRestoreRequest :=
  { mu with snapshotID := s.snapshotID, expectedGeneration := s.expectedGeneration, nextGeneration := s.nextGeneration }

theorem Disk.AtPrevious.swapChecks {s : StagedRestore} (hp : d.AtPrevious w op rb m s) :
    SwapChecks (s.request ⟨op, w, fence⟩) d s m := by
  obtain ⟨-, hsw, hso, -, hnext, -⟩ := (readStagedRestore_iff.1 hp.staged).2
  refine ⟨hp.staged, by simp [stagedMatches, StagedRestore.request, hsw, hso], hp.manifest, fun e => ?_,
    hp.generation.trans hp.expected.symm⟩
  have hloop : s.expectedGeneration + 1 = s.expectedGeneration := by
    rw [← hnext, show s.nextGeneration = m.generation from e.1.symm, hp.generation, hp.expected]
  exact absurd hloop (by simp)

/-- At the previous version, the swap is run again and then finalized. -/
theorem Disk.AtPrevious.finalizes {s : StagedRestore} (hp : d.AtPrevious w op rb m s)
    (h : d.RestoreSound w) (hroot : d.Rooted fun _ => False)
    (hrb : d.rollbacks.lookup (w, op) = some rb) (hh : env.held w = false)
    (hf : 32 ≤ fence.length) :
    ∃ receipt d', (swapRestore env (s.request ⟨op, w, fence⟩)).run d = (.ok receipt, d') ∧
      ∀ env' : Env, env'.held w = false → Finalizes env' ⟨op, w, fence⟩ d' := by
  have hr := h.rollback op rb hrb
  have hdirs := h.dirs hroot hrb
  obtain ⟨-, -, -, hsnap, hsnext, -⟩ := (readStagedRestore_iff.1 hp.staged).2
  obtain ⟨-, -, hpos, -⟩ := (readCurrentManifest_iff.1 hp.manifest).2
  obtain ⟨i, hi, hv⟩ := hp.restored
  have hnext : 1 ≤ s.nextGeneration := hp.next ▸ hr.positive
  have hmu := validateMutation_valid hr.workspaceID hr.operationID hf
  have hexp : 1 ≤ s.expectedGeneration := by
    rw [hp.expected, ← hp.generation]
    exact hpos
  have happly : Ends (swapRestoreApply (s.request ⟨op, w, fence⟩)) d _ _ :=
    hp.swapChecks.ends (publishRestoreVersion_moved (hp.target ▸ hi)) (recordSwap_ends hp.manifest
      (validateExt4ImageUUID_iff.2 ⟨i, hp.target ▸ hi, hv⟩) (hdirs .rollback) hnext
      (hdirs .manifest))
  have hmutate : Ends (swapRestore env (s.request ⟨op, w, fence⟩)) d _ _ :=
    .bind (.reading_ok (validateRestoreRequest_valid hmu hsnap hexp hsnext))
      (mutate_ends_ok hmu hh (loadReceipt_absent hp.unswapped) happly
        (by simp [swappedReceipt, StagedRestore.request, hsnap]))
  obtain ⟨us, hend⟩ := hmutate.run_eq
  refine ⟨_, _, hend, fun env' hh' => ?_⟩
  have hne : s.nextGeneration ≠ 0 := by
    intro e
    rw [e] at hnext
    exact absurd hnext (by decide)
  -- the disk the swap leaves is sound and rooted like any other
  have hsound : ((swapRestore env (s.request ⟨op, w, fence⟩)).run d).2.RestoreSound w :=
    wp_run (swapRestore_restoreSound (r := s.request ⟨op, w, fence⟩) env h fun _ _ _ _ _ =>
      ⟨hne, hr.unfinalized⟩)
  have hkeeps : (swapRestore env (s.request ⟨op, w, fence⟩)).Keeps (Disk.Rooted fun _ => False) :=
    .bind (.reading _) fun _ => Rooted.keeps_mutation (Rooted.keeps_swapRestoreApply _)
  have hrooted := wp_run (hkeeps d hroot)
  rw [hend] at hsound hrooted
  have hcap := (readCurrentManifest_iff.1 hp.manifest).2.2.2.2
  refine Disk.AtNext.finalizes (m := swappedManifest (s.request ⟨op, w, fence⟩) s m) ?_
    hsound hrooted
    (AList.lookup_insert _) hh' hf
  exact ⟨readCurrentManifest_iff.2 ⟨AList.lookup_insert _, rfl, rfl, hnext, hcap⟩, rfl, rfl⟩

end

/-! ## Every history -/

theorem Store.RestoreInvariant.after {hist : List (Call × Moment)}
    (h : Store.init.Along (fun s c => c.SparesRollback s) hist) :
    (Store.init.after hist).RestoreInvariant :=
  Store.Along.invariant (fun _ _ t hs hc => hs.step t hc) .init h

/-- In every history of calls that spare rollback records, the manifest of a
    Workspace with such a record selects the version the record leads to, and
    FinalizeRestore clears the record, or the one it comes from, and SwapRestore
    succeeds and FinalizeRestore after it: no restore stays pending for ever. -/
theorem rollback_recoverable (hist : List (Call × Moment))
    (hspare : Store.init.Along (fun s c => c.SparesRollback s) hist) (w op : ID)
    (rb : RollbackManifest)
    (hrb : (Store.init.after hist).disk.rollbacks.lookup (w, op) = some rb) :
    ∃ m, readCurrentManifest w (Store.init.after hist).disk = .ok m ∧
      ((m.generation = rb.nextGeneration ∧ m.image = rb.nextImage ∧
          ∀ (env : Env) fence, env.held w = false → 32 ≤ fence.length →
            Finalizes env ⟨op, w, fence⟩ (Store.init.after hist).disk) ∨
        (m.generation = rb.previousGeneration ∧ m.image = rb.previousImage ∧
          ∀ (env : Env) fence, env.held w = false → 32 ≤ fence.length → ∃ r receipt d',
            r.toMutation = ⟨op, w, fence⟩ ∧ (swapRestore env r).run (Store.init.after hist).disk =
              (.ok receipt, d') ∧
              ∀ env' : Env, env'.held w = false → Finalizes env' ⟨op, w, fence⟩ d')) := by
  have hinv := Store.RestoreInvariant.after hspare
  have hroot := Store.rooted_after hist
  rcases ((hinv.sound w).rollback op rb hrb).position with ⟨m, hn⟩ | ⟨m, s, hp⟩
  · exact ⟨m, hn.manifest, .inl ⟨hn.generation, hn.image, fun env fence hh hf =>
      hn.finalizes (hinv.sound w) hroot hrb hh hf⟩⟩
  · refine ⟨m, hp.manifest, .inr ⟨hp.generation, hp.image, fun env fence hh hf => ?_⟩⟩
    obtain ⟨receipt, d', hrun, hfin⟩ := hp.finalizes (hinv.sound w) hroot hrb hh hf
    exact ⟨s.request ⟨op, w, fence⟩, receipt, d', rfl, hrun, hfin⟩

/-- A restore whose FinalizeRestore was cut with the staged record unlinked and the rollback record left. -/
def cutHistory : List (Call × Moment) := preparedHistory ++
  [(.swapRestore { Mutation.plain "w" "r" with
      snapshotID := "s", expectedGeneration := 1, nextGeneration := 2 }, .calm),
    (.finalizeRestore (.plain "w" "r"), { Moment.calm with fates := [.ok, .ok, .ok, .crash] })]

theorem rollback_recoverable_cutHistory :
    Finalizes (Store.init.env .calm) (.plain "w" "r") (Store.init.after cutHistory).disk := by
  obtain ⟨m, hm, ⟨-, -, hfin⟩ | ⟨hgen, -⟩⟩ := rollback_recoverable cutHistory (by decide) "w" "r" {
      formatVersion := 1, operationID := "r", workspaceID := "w", snapshotID := "s", previousGeneration := 1
      previousImage := generationImageName 1 .create, nextGeneration := 2
      nextImage := generationImageName 2 (.restore "r"), capacityBytes := minimumExt4Bytes } (by decide)
  · exact hfin _ _ rfl (by decide)
  · have hm' : (readCurrentManifest "w" (Store.init.after cutHistory).disk).map (·.generation) =
      .ok 2 := by decide
    rw [hm] at hm'
    cases hgen.symm.trans (Except.ok.inj hm')

/-- AdvanceGeneration only looks at staged records.  After it the manifest is at
    neither version of the rollback record: FinalizeRestore and AbortRestore
    refuse to remove the record, and it blocks every other PrepareRestore and
    DeleteWorkspace. -/
theorem advanceGeneration_orphans_rollback :
    let s := Store.init.after (cutHistory ++ [(.advanceGeneration { Mutation.plain "w" "g" with
      expectedGeneration := 2, nextGeneration := 3 }, .calm)])
    let env := Store.init.env .calm
    (s.disk.rollbacks.lookup ("w", "r")).map (fun rb => (rb.previousGeneration,
    rb.nextGeneration)) = some (1, 2) ∧ (s.disk.manifests.lookup "w").map (·.generation) = some 3 ∧
    ((finalizeRestore env (.plain "w" "r")).run s.disk).1 = .error .staleGeneration ∧
    ((abortRestore env (.plain "w" "r")).run s.disk).1 = .error .restorePending ∧
    ((prepareRestore env { Mutation.plain "w" "p" with
      snapshotID := "s", expectedGeneration := 3, nextGeneration := 4 }).run s.disk).1 = .error .restorePending ∧
    ((deleteWorkspace env { Mutation.plain "w" "d" with expectedGeneration := 3 }).run s.disk).1 =
      .error .restorePending := by
  decide

end SecondBox.WorkspaceStore

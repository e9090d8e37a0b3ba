/-
  What the records of a restore say of each other.

  FinalizeRestore answers from the rollback record it unlinks, and once that is
  gone from the receipt of SwapRestore.  `Store.evident_after`: on every disk of
  a history a recorded receipt says what the rollback record says.  A repeated
  SwapRestore takes the Snapshot from its request, so a manifest that selects
  the staged image must have been published with the rollback record that is
  there.
-/
import SecondBox.WorkspaceStore.Layout
import SecondBox.WorkspaceStore.Requests
import SecondBox.WorkspaceStore.Retry

namespace SecondBox.WorkspaceStore

open Crash Crash.Prog

variable {α : Type} {d X : Disk} {w op : ID}

theorem validID_of_validateID {id : ID} (h : validateID id = .ok ()) : validID id = true := by
  unfold validateID at h
  split at h
  · assumption
  · cases h

theorem validRestoreRequest {r : PrepareRestoreRequest} (h : validateRestoreRequest r = .ok ()) :
    r.Valid := by
  unfold validateRestoreRequest at h
  cases hm : validateMutation r.toMutation with
  | error e => rw [hm] at h; cases h
  | ok u =>
    cases hs : validateID r.snapshotID with
    | error e => rw [hm, hs] at h; cases h
    | ok u =>
      obtain ⟨ho, hw, -⟩ := validateMutation_ok hm
      rw [hm, hs] at h
      refine ⟨validID_of_validateID ho, validID_of_validateID hw, validID_of_validateID hs, ?_⟩
      change (if r.expectedGeneration < 1 ∨ r.nextGeneration ≠ r.expectedGeneration + 1 then
        Except.error StoreErr.staleGeneration else .ok ()) = .ok () at h
      split at h
      · cases h
      · rename_i hn
        simpa using (not_or.1 hn).2

/-! ## Evidence -/

/-- What FinalizeRestore answers from the receipt of SwapRestore. -/
def Receipt.restored (receipt : Receipt) : Receipt where
  snapshotID := receipt.snapshotID
  previousGeneration := receipt.previousGeneration
  generation := receipt.generation
  capacityBytes := receipt.capacityBytes

/-- The receipt FinalizeRestore loads for `op` has the answer of the rollback record. -/
structure Receipt.Proves (w op : ID) (rb : RollbackManifest) (receipt : Receipt) : Prop where
  valid : validateReceipt receipt = .ok ()
  kind : receipt.kind = .restoreSwap
  operationID : receipt.operationID = op
  workspaceID : receipt.workspaceID = w
  answer : receipt.restored = finalizedReceipt rb

/-- The manifest `m` of `w`, and of its restore `op` the staged image and the
    records: staged, rollback, and the receipt of the swap. -/
structure Evidence (w op : ID) (m : Option CurrentManifest) (i : Option Image)
    (s : Option StagedRestore) (b : Option RollbackManifest) (r : Option Receipt) : Prop where
  /-- a staged image is the clone of a Snapshot of the Workspace -/
  image : ∀ image, i = some image → image.uuid = deterministicUUID w
  staged : ∀ st ∈ s, st.image.suffix = .restore op
  selected : ∀ st ∈ s, ∀ rb ∈ b, ∀ cm ∈ m, cm.generation = st.nextGeneration → cm.image = st.image →
    rb.snapshotID = st.snapshotID
  recorded : ∀ rb ∈ b, ∀ receipt ∈ r, receipt.Proves w op rb

/-- Records may go; the manifest may select another image, unless that is a
    restored one, or move to another generation while nothing is staged. -/
theorem Evidence.less {m m' : Option CurrentManifest} {i i' : Option Image}
    {s s' : Option StagedRestore} {b b' : Option RollbackManifest} {r r' : Option Receipt}
    (h : Evidence w op m i s b r) (hi : ∀ x ∈ i', x ∈ i)
    (hs : ∀ x ∈ s', x ∈ s) (hb : ∀ x ∈ b', x ∈ b) (hr : ∀ x ∈ r', x ∈ r)
    (hm : ∀ cm' ∈ m', cm'.image.suffix = .restore op → ∃ cm ∈ m, cm.image = cm'.image ∧
      (cm.generation = cm'.generation ∨ s' = none)) : Evidence w op m' i' s' b' r' where
  image x hx := h.image x (hi x hx)
  staged st hst := h.staged st (hs st hst)
  selected st hst rb hrb cm' hcm hg hsel := by
    obtain ⟨cm, hcm, himage, hgen | hnone⟩ := hm cm' hcm (hsel ▸ h.staged st (hs st hst))
    · exact h.selected st (hs st hst) rb (hb rb hrb) cm hcm (hgen.trans hg) (himage.trans hsel)
    · simp [hnone] at hst
  recorded rb hrb x hx := h.recorded rb (hb rb hrb) x (hr x hx)

/-- The evidence of every restore on a disk. -/
def Disk.Evident (d : Disk) : Prop := ∀ w op,
  Evidence w op (d.manifests.lookup w) (d.images.lookup (.staged w op)) (d.staged.lookup (w, op))
    (d.rollbacks.lookup (w, op)) (d.receipts.lookup (w, op, .restoreSwap))

namespace Evident

theorem of_shrinks (h : d.Evident) (hs : Shrinks d X) : X.Evident := fun w op => by
  have back : ∀ {β : Type} {x y : Option β}, x = y ∨ x.isSome = false → ∀ a ∈ x, a ∈ y := by
    rintro β _ y hx a rfl
    simpa [eq_comm] using hx
  exact (h w op).less (back ((hs.images (.staged w op)).imp_right fun hn => by rw [hn]; rfl))
    (back (hs.records (.staged w op))) (back (hs.records (.rollback w op)))
    (back (hs.records (.receipt w op .restoreSwap)))
    fun cm hcm _ => ⟨cm, back (hs.records (.current w)) cm hcm, rfl, .inl rfl⟩

theorem of_removes {p : Op α} (h : Removes p) : p.Keeps Disk.Evident := fun _ hd =>
  h.wp (fun _ => of_shrinks hd) fun _ _ => of_shrinks hd

theorem keeps_removeFile (f : File) : (removeExactFile f).Keeps Disk.Evident :=
  of_removes (.removeExactFile f)

section
variable {S : Record → Prop} {I : ImageFile → Prop} {D : Dir → Prop}

/-- Records that are evidence, the manifests apart. -/
def restoreRecord : Record → Prop
  | .staged .. | .rollback .. => True
  | .receipt _ _ k => k = .restoreSwap
  | .current _ | .snapshot _ => False

theorem of_within (h : d.Evident) (hw : Within S I D d X) (hS : ∀ x, S x → ¬ restoreRecord x)
    (hI : ∀ w op, ¬ I (.staged w op)) (hm : ∀ w op, ∀ cm' ∈ X.manifests.lookup w,
      cm'.image.suffix = .restore op → ∃ cm ∈ d.manifests.lookup w, cm.image = cm'.image ∧
        (cm.generation = cm'.generation ∨ d.staged.lookup (w, op) = none)) : X.Evident :=
  fun w op => by
    rw [hw.images _ (hI w op), hw.staged fun hx => hS _ hx trivial,
      hw.rollback fun hx => hS _ hx trivial, hw.receipt fun hx => hS _ hx rfl]
    exact (h w op).less (fun _ => id) (fun _ => id) (fun _ => id) (fun _ => id) (hm w op)

/-- Other images, directories and temporary files are no evidence. -/
theorem of_quiet {p : Op α} (h : Touches (fun _ => False) I D p) (hI : ∀ w op, ¬ I (.staged w op)) :
    p.Keeps Disk.Evident := fun _ hd => h.always fun _ hw =>
      of_within hd hw (fun _ => False.elim) hI
  fun _ _ cm hcm _ => ⟨cm, by rwa [hw.manifest id] at hcm, rfl, .inl rfl⟩

end

theorem keeps_mutation {env : Env} {request : Json} {m : Mutation} {kind : ReceiptKind}
    {apply : Op Receipt} (hk : kind ≠ .restoreSwap) (h : apply.Keeps Disk.Evident) :
    (mutate env request m kind apply).Keeps Disk.Evident :=
  fun d hd => always_mutate hd (fun _ _ _ => h d hd) fun _ _ h hw =>
    of_within h hw (by rintro _ rfl; exact hk)
    (by simp) fun _ _ cm hcm _ => ⟨cm, by rwa [hw.manifest (by simp)] at hcm, rfl, .inl rfl⟩

/-! ## The restore operations -/

theorem setStaged {st : StagedRestore} (h : d.Evident) (hst : st.image.suffix = .restore op)
    (hm : ∀ cm ∈ d.manifests.lookup w, cm.generation ≠ st.nextGeneration) :
    (d.setStaged w op st).Evident := by
  intro w' op'
  by_cases e : (w', op') = (w, op)
  · cases e
    refine { h w op with staged := ?_, selected := ?_ } <;>
      simp only [Disk.setStaged, AList.lookup_insert]
    · rintro _ ⟨⟩
      exact hst
    · rintro _ ⟨⟩ rb _ cm hcm hg
      exact absurd hg (hm cm hcm)
  · simp only [Disk.setStaged, AList.lookup_insert_ne e]
    exact h w' op'

theorem setImage (h : d.Evident) {f : ImageFile} {i : Image}
    (hf : ∀ w op, f = .staged w op → i.uuid = deterministicUUID w) : (d.setImage f i).Evident :=
    fun w op => by
  refine { h w op with image := fun j hj => ?_ }
  by_cases e : ImageFile.staged w op = f
  · subst e
    rw [Disk.setImage, AList.lookup_insert] at hj
    cases hj
    exact hf w op rfl
  · exact (h w op).image j (by rwa [Disk.setImage, AList.lookup_insert_ne e] at hj)

/-- Evident, with the records of `d`: how an image is cloned or moved. -/
def Beside (d X : Disk) : Prop := X.Evident ∧ ∀ x, SameRecord d X x

theorem keeps_publishClone {source : Image} (hu : source.uuid = deterministicUUID w) (dir : Dir)
    (mode : Nat) (op' : ID) :
    (publishClone dir (.staged w op) mode op' none source).Keeps (Beside d) :=
  .bind (.sys fun _ => id) fun _ => .bind (keeping.requireDir _) fun _ =>
    .bind (.sys fun _ => id) fun _ =>
    .bind (keeping.onError (.bind (.sys fun _ => id) fun _ => .bind keeping.sync fun _ => .sys fun X h =>
      ⟨setImage (d := X.removeTemp _) h.1 fun _ _ e => by cases e; exact hu, h.2⟩)
        (.sys fun _ => id))
      fun _ => keeping.sync

theorem keeps_prepareRestore (env : Env) (r : PrepareRestoreRequest) :
    (prepareRestore env r).Keeps Disk.Evident := by
  refine fun d h => always_reading_bind h fun _ hvalid =>
    keeps_mutation (by simp) (fun d h => ?_) d h
  refine always_prepareRestoreApply (V := Beside d) h (fun _ _ h => h)
    (fun m source hc => always_asking_bind ?_)
    fun m _ X hc _ hX => ⟨hX.1, setStaged hX.1 rfl fun cm hcm hn => ?_⟩
  · have here : Beside d d := ⟨h, SameRecord.refl d⟩
    split
    · exact Keeps.bind (.require _ _) (fun _ => .reading _) d here
    · refine always_asking_bind ?_
      rw [hc.present]
      exact Keeps.bind (keeps_publishClone hc.valid.2.2 _ _ _) (fun _ => .reading _) d here
  rw [hX.2 (.current r.workspaceID), readCurrentManifest_ok hc.manifest] at hcm
  cases hcm
  -- the staged record leads on from the current generation
  have hnext : r.expectedGeneration = r.expectedGeneration + 1 :=
    hc.generation.symm.trans (hn.trans (validRestoreRequest hvalid).nextGeneration)
  simp at hnext

theorem setReceipt {receipt : Receipt} (h : d.Evident)
    (hp : ∀ rb ∈ d.rollbacks.lookup (w, op), receipt.Proves w op rb) :
    (d.setReceipt w op .restoreSwap receipt).Evident := by
  intro w' op'
  by_cases e : (w', op', ReceiptKind.restoreSwap) = (w, op, .restoreSwap)
  · cases e
    refine { h w op with recorded := fun rb hrb => ?_ }
    simp only [Disk.setReceipt, AList.lookup_insert]
    rintro _ ⟨⟩
    exact hp rb hrb
  · simp only [Disk.setReceipt, AList.lookup_insert_ne e]
    exact h w' op'

section
variable {r : SwapRestoreRequest} {st : StagedRestore} {cm : CurrentManifest} (h : d.Evident)
  (hst : d.staged.lookup (r.workspaceID, r.operationID) = some st)
  (hs : st.snapshotID = r.snapshotID)
include h hst hs

theorem setRollback (hn : d.receipts.lookup (r.workspaceID, r.operationID, .restoreSwap) = none) :
    (d.setRollback r.workspaceID r.operationID (rollbackRecord r st cm)).Evident := by
  intro w op
  by_cases e : (w, op) = (r.workspaceID, r.operationID)
  · cases e
    simp only [Disk.setRollback, AList.lookup_insert]
    refine { h _ _ with selected := fun x hx rb hrb _ _ _ _ => ?_, recorded := by simp [hn] }
    cases hrb
    cases hst.symm.trans hx
    exact hs.symm
  · simp only [Disk.setRollback, AList.lookup_insert_ne e]
    exact h w op

/-- Only the restore itself speaks of the image it selects. -/
theorem selectRestored
    (hn : d.receipts.lookup (r.workspaceID, r.operationID, .restoreSwap) = none) :
    (d.selectRestored r st cm).Evident := by
  intro w op
  have hr :=
    (setRollback h hst hs hn : Disk.Evident (d.setRollback _ _ (rollbackRecord r st cm))) w op
  by_cases e : (w, op) = (r.workspaceID, r.operationID)
  · cases e
    refine { hr with selected := fun x hx rb hrb _ _ _ _ => ?_ }
    simp only [Disk.selectRestored, Disk.setManifest, Disk.setRollback,
      AList.lookup_insert] at hx hrb
    cases hrb
    cases hst.symm.trans hx
    exact hs.symm
  · refine hr.less (fun _ => id) (fun _ => id) (fun _ => id) (fun _ => id) fun cm' hcm hi => ?_
    by_cases hw : w = r.workspaceID
    · subst hw
      simp only [Disk.selectRestored, Disk.setManifest, AList.lookup_insert] at hcm
      cases hcm
      cases ((h r.workspaceID r.operationID).staged st hst).symm.trans hi
      exact absurd rfl e
    · rw [Disk.selectRestored, Disk.setManifest, AList.lookup_insert_ne hw] at hcm
      exact ⟨cm', hcm, rfl, .inl rfl⟩

end

/-- The answer of a swap is that of the rollback record it leaves. -/
theorem swapRestoreApply_answers {r : SwapRestoreRequest} (h : d.Evident)
    (hn : d.receipts.lookup (r.workspaceID, r.operationID, .restoreSwap) = none) :
    (swapRestoreApply r).wp Disk.Evident (fun res X => X.Evident ∧ ∀ receipt, res = .ok receipt →
      ∀ rb ∈ X.rollbacks.lookup (r.workspaceID, r.operationID),
        receipt.restored = finalizedReceipt rb) d := by
  refine wp_swapRestoreApply (V := fun _ _ => Beside d) h (fun _ _ h => h)
    (fun s m rb hs hsame hm hdone hrb rb' hrb' => ?_)
    (fun _ _ _ => keeping.publishRestoreVersion (fun i => .sys fun X hX => ⟨setImage (of_removes
      (.removeExactFile (.image (.staged r.workspaceID r.operationID))) X hX.1).2.1 (by simp),
      hX.2⟩)
      d ⟨h, SameRecord.refl d⟩)
    fun s m X hc hX => ⟨hX.1, fun _ => ?_⟩
  · simp only [stagedMatches, Bool.and_eq_true, beq_iff_eq] at hsame
    have hrb := (readRollback_iff.1 hrb).1
    cases hrb.symm.trans hrb'
    have hsnap := (h _ _).selected s (readStagedRestore_ok hs) rb hrb m (readCurrentManifest_ok hm)
      (hdone.1.trans hsame.2.symm) hdone.2
    simp [Receipt.restored, finalizedReceipt, replacedReceipt, hsnap, hsame]
  · have hsame := hc.same
    simp only [stagedMatches, Bool.and_eq_true, beq_iff_eq] at hsame
    have hst := Eq.trans (hX.2 (.staged ..)) (readStagedRestore_ok hc.staged)
    have hn := Eq.trans (hX.2 (.receipt ..)) hn
    refine ⟨setRollback hX.1 hst hsame.1.1.2 hn, selectRestored hX.1 hst hsame.1.1.2 hn,
      fun ts rb hrb => ?_⟩
    simp only [Disk.withTemps, Disk.selectRestored, Disk.setManifest, Disk.setRollback,
      AList.lookup_insert] at hrb
    cases hrb
    simp [Receipt.restored, finalizedReceipt, swappedReceipt, rollbackRecord, hc.generation]

theorem keeps_swapRestore (env : Env) (r : SwapRestoreRequest) :
    (swapRestore env r).Keeps Disk.Evident := by
  refine fun d h => always_reading_bind h fun _ _ =>
    wp_mutate (fun _ => h) (fun _ _ _ => h) fun hl _ _ =>
    wp_mono (fun res X hX => ?_) (swapRestoreApply_answers h (loadReceipt_none hl))
  cases res with
  | error e => exact hX.1
  | ok receipt =>
    rw [andThen_ok]
    refine always_reading_bind hX.1 fun _ hvalid => ?_
    have new := setReceipt hX.1 fun rb hrb => ⟨hvalid, rfl, rfl, rfl, hX.2 receipt rfl rb hrb⟩
    exact always_atomicJSON_bind (fun _ => rfl) (fun _ => hX.1) (fun _ _ => new) fun _ _ => new

/-! ## Histories -/

/-- Of the other calls, those that publish a manifest select no restored image
    they did not find selected, and advance only where nothing is staged. -/
theorem step_framed {s : Store} {c : Call} (t : Moment) (h : s.disk.Evident)
    (hS : ∀ x, (c.footprint s).records x → ¬ restoreRecord x)
    (hI : ∀ w op, ¬ (c.footprint s).images (.staged w op)) : (s.step c t).disk.Evident := by
  refine of_within h (s.step_within c t) hS hI fun w op cm' hcm hi => ?_
  have hmove := step_manifest s c t w
  generalize (s.step c t).disk.manifests.lookup w = found at hmove hcm
  cases hmove with
  | keep => exact ⟨cm', hcm, rfl, .inl rfl⟩
  | create | clone | imported =>
    cases hcm
    cases hi
  | advance _ _ hm _ _ _ hp =>
    cases hcm
    exact ⟨_, hm, rfl, .inr (stagedRestorePending_eq_false.1 hp op)⟩
  | swap => exact absurd trivial (hS (.rollback _ _) (.inr (.inl rfl)))
  | sealed _ _ hm | unsealed _ _ hm =>
    cases hcm
    exact ⟨_, hm, rfl, .inl rfl⟩
  | deleted | tornDown | dropped => cases hcm

theorem step {s : Store} (h : s.disk.Evident) (c : Call) (t : Moment) :
    (s.step c t).disk.Evident := by
  have of_keeps : (c.prog s (s.env t)).Keeps Disk.Evident → (s.step c t).disk.Evident := fun hk =>
    Store.step_disk_of_wp (hk s.disk h)
  cases c with
  | prepareRestore r => exact of_keeps (.bind (keeps_prepareRestore _ r) fun _ => .ret _)
  | swapRestore r => exact of_keeps (.bind (keeps_swapRestore _ r) fun _ => .ret _)
  | finalizeRestore m =>
    exact of_keeps (.bind (keeps_mutation (by simp) (keeps_finalizeRestoreApply m keeps_removeFile))
      fun _ => .ret _)
  | abortRestore m =>
    exact of_keeps (.bind (keeps_mutation (by simp) (keeps_abortRestoreApply m keeps_removeFile))
      fun _ => .ret _)
  | deleteWorkspace r =>
    exact of_keeps (.bind (keeps_mutation (by simp) (of_removes (.deleteWorkspaceApply r))) fun _ =>
      .ret _)
  | beginRelocationImport r =>
    exact of_keeps (.bind (keeping.beginRelocationImport (of_removes (.removeWorkspaceTree _))
      (of_quiet (I := fun f => f = r.staging ∨ f = .template r.capacityBytes) (D := fun _ => False)
        (.stageImport (.inl rfl) (.inr rfl)) (by simp [RelocationImportRequest.staging]))) fun _ =>
        .ret _)
  | abortImport i =>
    refine of_keeps ?_
    simp only [Call.prog]
    split
    · exact .ret _
    · rename_i h hi
      exact .bind (keeping.abort (of_removes (.removeWorkspaceTree _)) (of_quiet (I := (· = h.request.staging))
        (D := fun _ => False) (.cleanupStaging rfl) (by simp [RelocationImportRequest.staging])))
        fun _ => .ret _
  | complete i =>
    refine step_framed t h (by rintro _ ⟨_, -, rfl | rfl⟩ <;> simp [restoreRecord]) ?_
    simp [Call.footprint, RelocationImportRequest.staging]
  | _ =>
    refine step_framed t h (by rintro _ (rfl | rfl) <;> simp [restoreRecord]) ?_
    simp [Call.footprint, Footprint.none, RelocationImportRequest.staging]

theorem after (hist : List (Call × Moment)) {s : Store} (h : s.disk.Evident) :
    (s.after hist).disk.Evident := by
  induction hist generalizing s with
  | nil => exact h
  | cons e hist ih => exact ih (step h e.1 e.2)

end Evident

theorem Store.evident_after (hist : List (Call × Moment)) : (Store.init.after hist).disk.Evident :=
  Evident.after hist fun w op => by constructor <;> simp [Store.init, Disk.empty]

end SecondBox.WorkspaceStore

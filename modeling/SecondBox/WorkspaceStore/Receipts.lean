/-
  Receipts make the mutations of the store idempotent.

  A mutation that returned a receipt has recorded it (`Succeeds.found`), and the
  receipt outlives every history that does not delete its Workspace
  (`Store.ReceiptInvariant.after_receipt`).  `mutation_idempotent` puts the two
  together with `Request.issue_settles`.
-/
import SecondBox.WorkspaceStore.Requests

namespace SecondBox.WorkspaceStore

open Crash Crash.Prog

variable {request : Json}

section
variable {env : Env} {d : Disk}

/-! ## Recording -/

variable {m : Mutation} {kind : ReceiptKind}

theorem loadReceipt_setReceipt {digest : Digest} {receipt : Receipt}
    (hv : validateReceipt receipt = .ok ()) (hk : receipt.kind = kind)
    (ho : receipt.operationID = m.operationID) (hw : receipt.workspaceID = m.workspaceID)
    (hd : receipt.inputDigest = digest) (ts : List Temp) :
    loadReceipt m digest kind
      ((d.setReceipt receipt.workspaceID receipt.operationID receipt.kind receipt).withTemps ts) =
      .ok (some receipt) := by
  have hl : ((d.setReceipt receipt.workspaceID receipt.operationID receipt.kind receipt).withTemps
    ts).receipts.lookup
      (m.workspaceID, m.operationID, kind) = some receipt := by
    rw [← hk, ← ho, ← hw]
    exact AList.lookup_insert _
  unfold loadReceipt loadAnyReceipt
  rw [hl]
  simp [hv, hk, ho, hw, hd]

/-- A receipt that was recorded is found again. -/
theorem recordReceipt_found {digest : Digest} {receipt : Receipt}
    (hk : receipt.kind = kind) (ho : receipt.operationID = m.operationID)
    (hw : receipt.workspaceID = m.workspaceID) (hd : receipt.inputDigest = digest) :
    (recordReceipt env receipt).wp (fun _ => True)
      (fun res d' => ∀ r, res = .ok r → loadReceipt m digest kind d' = .ok (some r)) d := by
  have err : ∀ (e : StoreErr) (d' : Disk) (r : Receipt), Except.error e = .ok r →
      loadReceipt m digest kind d' = .ok (some r) := fun e d' r he => by cases he
  subst hk
  refine wp_reading_bind (fun e _ => err e d) fun _ hv => ?_
  refine (wp_bind _ _ _ _).2 (wp_atomicJSON (fun _ => rfl) (fun _ => trivial) (fun e ts => err e _)
    (fun _ _ => trivial) (fun _ ts => err _ _) fun _ ts r hr => ?_)
  cases hr
  exact loadReceipt_setReceipt hv rfl ho hw hd ts

/-- A mutation that returned a receipt answers with it from then on. -/
theorem mutate_found {apply : Op Receipt} :
    (mutate env request m kind apply).wp (fun _ => True)
      (fun res d' => ∀ r, res = .ok r → mutateAnswer request m kind d' = some (.ok r)) d := by
  have err : ∀ (e : StoreErr) (d' : Disk) (r : Receipt), Except.error e = .ok r →
      mutateAnswer request m kind d' = some (.ok r) := fun e d' r he => by cases he
  refine wp_mutate (fun e => err e d) (fun r hv hl r' hr => ?_) fun _ hv _ => ?_
  · cases hr
    simp [mutateAnswer, hv, hl]
  · refine wp_mono (fun res d' _ => ?_) (wp_true apply d)
    cases res with
    | error e => exact err e d'
    | ok r =>
      refine wp_mono (fun res d'' h r' hr => ?_) (recordReceipt_found (m := m) rfl rfl rfl rfl)
      simp [mutateAnswer, hv, h r' hr]

variable {p : Op Receipt} {R : Receipt → Disk → Prop}

theorem found_some (h : p.wp (fun _ => True) (fun res d' => ∀ r, res = .ok r → R r d') d) :
    (p.bind fun receipt => ret (some receipt)).wp (fun _ => True)
      (fun res d' => ∀ r, res = .ok (some r) → R r d') d := by
  refine (wp_bind _ _ _ _).2 (wp_mono (fun res d' hr => ?_) h)
  cases res with
  | error e => exact fun r he => by cases he
  | ok r => exact fun r' he => by cases he; exact hr r rfl

theorem found_guarded {g : Op Unit} {static : Except StoreErr Unit} (hg : g.Settles d static)
    (h : p.wp (fun _ => True) (fun res d' => ∀ r, res = .ok r → R r d') d) :
    ((g.bind fun _ => p).bind fun receipt => ret (some receipt)).wp (fun _ => True)
      (fun res d' => ∀ r, res = .ok (some r) → static = .ok () ∧ R r d') d :=
  found_some (R := fun r d' => static = .ok () ∧ R r d') (hg.wp_bind (fun _ _ _ he => by cases he)
    fun _ hs => wp_mono (fun _ _ hr r he => ⟨hs, hr r he⟩) h)

theorem found_replayed {replayed : Op (Option Receipt)} {static : Except StoreErr Unit}
    {found : Except StoreErr (Option Receipt)}
    (hr : replayed.Settles d found) (hs : ∀ a, found = .ok a → static = .ok ())
    (hf : ∀ r, found = .ok (some r) → R r d)
    (h : p.wp (fun _ => True) (fun res d' => ∀ r, res = .ok r → R r d') d) :
    ((replayed.bind fun
      | some receipt => ret receipt
      | none => p).bind fun receipt => ret (some receipt)).wp (fun _ => True)
      (fun res d' => ∀ r, res = .ok (some r) → static = .ok () ∧ R r d') d := by
  refine found_some (R := fun r d' => static = .ok () ∧ R r d') (hr.wp_bind (fun _ _ _ he => by cases he)
    fun a ha => ?_)
  cases a with
  | some receipt => exact fun r he => by cases he; exact ⟨hs _ ha, hf _ ha⟩
  | none => exact wp_mono (fun _ _ hr r he => ⟨hs _ ha, hr r he⟩) h

/-- The result of `replay`. -/
def replayResult (request : Json) (m : Mutation) (kind : ReceiptKind) (d : Disk) :
    Except StoreErr (Option Receipt) :=
  match mutateAnswer request m kind d with
  | some a => a.map some
  | none => .ok none

theorem replay_result (request : Json) (m : Mutation) (kind : ReceiptKind) :
    (replay request m kind).Settles d (replayResult request m kind d) := by
  unfold replayResult
  cases h : mutateAnswer request m kind d with
  | some a => exact replay_settles h
  | none =>
    unfold mutateAnswer at h
    split at h
    · cases h
    · rename_i hv
      split at h
      · cases h
      · rename_i hl
        exact .bind (.reading_ok hv) (.bind (.reading_ok (inputDigest_ok hv request)) (.reading_ok hl))
      · cases h

theorem replayResult_some {r : Receipt}
    (h : replayResult request m kind d = .ok (some r)) :
    mutateAnswer request m kind d = some (.ok r) := by
  unfold replayResult at h
  split at h
  · rename_i a ha
    rw [ha]
    cases a with
    | error e => cases h
    | ok r' => cases h; rfl
  · cases h

theorem export_found (r : RelocationExportRequest) :
    (openRelocationExport env r).wp (fun _ => True)
      (fun res d' => ∀ receipt, res = .ok receipt →
        mutateAnswer r.json r.toMutation .relocationExport d' = some (.ok receipt)) d := by
  refine (wp_bind _ _ _ _).2 (wp_mono (fun res d' hr => ?_) mutate_found)
  cases res with
  | error e => exact fun receipt he => by cases he
  | ok receipt =>
    have hf := hr receipt rfl
    refine (exportTail_settles env _ r receipt (validateMutation_ok (mutateAnswer_ok hf).1).2.1).wp
      fun receipt' he => ?_
    cases hs : Request.exportStillSealed env r d' with
    | error e => rw [hs] at he; cases he
    | ok _ => rw [hs] at he; cases he; exact hf

theorem import_found (r : RelocationImportRequest) :
    (beginRelocationImport env r).wp (fun _ => True)
      (fun res d' => ∀ h receipt, res = .ok h → h.receipt = some receipt →
        (Request.relocationImport r).static = .ok () ∧
        mutateAnswer r.json r.toMutation .relocationImport d' = some (.ok receipt)) d := by
  have err : ∀ (e : StoreErr) (d' : Disk) (h : RelocationImport) (receipt : Receipt),
      Except.error e = .ok h → h.receipt = some receipt →
      (Request.relocationImport r).static = .ok () ∧
        mutateAnswer r.json r.toMutation .relocationImport d' = some (.ok receipt) :=
    fun e d' h receipt he => by cases he
  refine wp_require_bind (fun _ => err _ d) fun hc =>
    wp_reading_bind (fun e _ => err e d) fun _ hv =>
    wp_reading_bind (fun e _ => err e d) fun digest hd => wp_reading_bind (fun e _ => err e d)
      fun found hl => ?_
  cases (inputDigest_ok hv r.json).symm.trans hd
  cases found with
  | some receipt =>
    refine wp_reading_bind (fun e _ => err e d) fun _ _ h receipt' he hr => ?_
    cases he
    cases hr
    refine ⟨if_pos hc, ?_⟩
    unfold mutateAnswer
    rw [hv]
    dsimp only
    rw [hl]
  | none =>
    refine wp_mono (fun res d' hy h receipt he hr => ?_)
      (Yields.wp_ok (R := fun h : RelocationImport => h.receipt = none) ?_)
    · rw [hy h he] at hr
      cases hr
    · refine .bind fun _ => .bind fun m => ?_
      split
      · exact .bind fun _ => .bind fun _ => .bind fun _ => rfl
      · exact .bind fun _ => rfl
      · trivial

theorem Request.issue_found (q : Request) (env : Env) (d : Disk) :
    (q.issue env).wp (fun _ => True) (fun res d' => ∀ r, res = .ok (some r) →
      q.static = .ok () ∧ mutateAnswer q.json q.mutation q.kind d' = some (.ok r)) d := by
  cases q with
  | create r =>
    by_cases hc : minimumExt4Bytes ≤ r.capacityBytes
    · exact found_replayed (.bind (.require_ok hc) (replay_result _ _ _)) (fun _ _ => if_pos hc)
        (fun _ => replayResult_some) mutate_found
    · exact found_replayed (.bind_error (.require_error hc)) nofun nofun mutate_found
  | cloneFromSnapshot r =>
    by_cases hc : minimumExt4Bytes ≤ r.capacityBytes
    · cases hv : validateID r.sourceSnapshot with
      | error e =>
        exact found_replayed (.bind (.require_ok hc) (.bind_error (.reading_error hv))) nofun nofun
          mutate_found
      | ok _ =>
        exact found_replayed (.bind (.require_ok hc) (.bind (.reading_ok hv) (replay_result _ _ _)))
          (fun _ _ => (if_pos hc).trans hv) (fun _ => replayResult_some) mutate_found
    · exact found_replayed (.bind_error (.require_error hc)) nofun nofun mutate_found
  | advanceGeneration r => exact found_guarded (.require _ _) mutate_found
  | createSnapshot | deleteSnapshot | prepareRestore | swapRestore =>
    exact found_guarded (.reading _) mutate_found
  | finalizeRestore | abortRestore | deleteWorkspace | abortRelocation =>
    exact found_some (wp_mono (fun _ _ h r hr => ⟨rfl, h r hr⟩) mutate_found)
  | openRelocationExport r =>
    exact found_some (wp_mono (fun _ _ h r hr => ⟨rfl, h r hr⟩) (export_found r))
  | relocationImport r =>
    refine (wp_bind _ _ _ _).2 (wp_mono (fun res d' hr => ?_) (import_found r))
    cases res with
    | error e => exact fun receipt he => by cases he
    | ok h => exact fun receipt he => hr h receipt rfl (by simpa using he)

end

/-! ## Keeping -/

/-- It deletes Workspace `w`. -/
def Call.deletes (w : ID) : Call → Bool
  | .deleteWorkspace r => r.workspaceID = w
  | _ => false

/-- The call of a request. -/
def Request.call : Request → Call
  | .create r => .create r
  | .cloneFromSnapshot r => .cloneFromSnapshot r
  | .advanceGeneration r => .advanceGeneration r
  | .createSnapshot r => .createSnapshot r
  | .deleteSnapshot r => .deleteSnapshot r
  | .prepareRestore r => .prepareRestore r
  | .swapRestore r => .swapRestore r
  | .finalizeRestore m => .finalizeRestore m
  | .abortRestore m => .abortRestore m
  | .deleteWorkspace r => .deleteWorkspace r
  | .openRelocationExport r => .openRelocationExport r
  | .abortRelocation r => .abortRelocation r
  | .relocationImport r => .beginRelocationImport r

theorem Store.step_call_disk (s : Store) (q : Request) (t : Moment) :
    (s.step q.call t).disk = ((q.issue (s.env t)).exec t.fates s.disk).2 := by
  rw [Store.step_disk]
  cases q <;> exact (exec_bind_ret_snd _ _ _ _).trans (exec_bind_ret_snd _ _ _ _).symm

variable {receipt : Receipt} {s : Store} {q : Request}

/-- Where there is a receipt already, a request changes nothing. -/
theorem Store.step_call_idle (t : Moment)
    (hr : s.disk.receipts.lookup (q.mutation.workspaceID, q.mutation.operationID, q.kind) = some receipt) :
    (s.step q.call t).disk = s.disk := by
  obtain ⟨a, ha⟩ : ∃ a, q.answer (s.env t) s.disk = some a := by
    unfold Request.answer answerOf
    split
    · exact ⟨_, rfl⟩
    · obtain ⟨b, hb⟩ : ∃ b, mutateAnswer q.json q.mutation q.kind s.disk = some b := by
        unfold mutateAnswer
        split
        · exact ⟨_, rfl⟩
        · split
          · exact ⟨_, rfl⟩
          · rename_i hl
            rw [loadReceipt_none hl] at hr
            cases hr
          · exact ⟨_, rfl⟩
      exact ⟨_, by rw [hb]; rfl⟩
  rw [Store.step_call_disk, (Request.issue_settles ha).exec]

variable {w op : ID} {k : ReceiptKind}

/-- The only receipt a request other than a deletion can write is its own. -/
theorem Request.receipt_footprint (h : (q.call.footprint s).records (.receipt w op k))
    (hd : q.call.deletes w = false) :
    w = q.mutation.workspaceID ∧ op = q.mutation.operationID ∧ k = q.kind := by
  cases q <;>
    simp only [Request.call, Call.footprint, Footprint.tree, Record.dir, reduceCtorEq, false_or,
      Record.receipt.injEq, exists_false] at h
  case deleteWorkspace r =>
    obtain ⟨op', k', rfl, -, -⟩ := h
    simp [Request.call, Call.deletes] at hd
  all_goals exact h

/-- No import with an open staging file has a receipt. -/
structure Store.ReceiptInvariant (s : Store) : Prop where
  handles : s.Handles
  imports : ∀ (i : Nat) h, s.imports[i]? = some h → h.fileOpen = true →
    s.disk.receipts.lookup (h.request.workspaceID, h.request.operationID, .relocationImport) = none

variable {d : Disk}

theorem complete_idle {env : Env} {P : Disk → Prop} {h : RelocationImport} {size : Nat}
    {checksum : Checksum} (ho : h.fileOpen = false) (hd : P d) :
    Always P (complete env h size checksum) d := by
  unfold complete
  split
  · exact hd
  · rw [if_pos (.inl ho)]
    exact hd

theorem Store.ReceiptInvariant.step_receipt (hs : s.ReceiptInvariant) {c : Call} (t : Moment)
    (hr : s.disk.receipts.lookup (w, op, k) = some receipt) (hc : c.deletes w = false) :
    (s.step c t).disk.receipts.lookup (w, op, k) = some receipt := by
  by_cases hf : (c.footprint s).records (.receipt w op k)
  · -- the call is the mutation the receipt is about
    have idle : ∀ q : Request, q.call = c →
        (s.step c t).disk.receipts.lookup (w, op, k) = some receipt := by
      rintro q rfl
      obtain ⟨rfl, rfl, rfl⟩ := Request.receipt_footprint hf hc
      rw [Store.step_call_idle t hr]
      exact hr
    cases c with
    | create r => exact idle (.create r) rfl
    | cloneFromSnapshot r => exact idle (.cloneFromSnapshot r) rfl
    | advanceGeneration r => exact idle (.advanceGeneration r) rfl
    | createSnapshot r => exact idle (.createSnapshot r) rfl
    | deleteSnapshot r => exact idle (.deleteSnapshot r) rfl
    | prepareRestore r => exact idle (.prepareRestore r) rfl
    | swapRestore r => exact idle (.swapRestore r) rfl
    | finalizeRestore m => exact idle (.finalizeRestore m) rfl
    | abortRestore m => exact idle (.abortRestore m) rfl
    | openRelocationExport r => exact idle (.openRelocationExport r) rfl
    | abortRelocation r => exact idle (.abortRelocation r) rfl
    | deleteWorkspace r => exact idle (.deleteWorkspace r) rfl
    | beginRelocationImport r => exact idle (.relocationImport r) rfl
    | complete i size checksum =>
      obtain ⟨h, hi, rfl, rfl, rfl⟩ : ∃ h, s.imports[i]? = some h ∧ w = h.request.workspaceID ∧
          op = h.request.operationID ∧ k = .relocationImport := by
        simpa [Call.footprint] using hf
      have ho : h.fileOpen = false := by
        by_contra ho
        rw [hs.imports i h hi (by simpa using ho)] at hr
        cases hr
      refine Store.step_disk_of_wp (P := fun d => d.receipts.lookup _ = some receipt) ?_
      simp only [Call.prog, hi]
      exact always_ret_bind (complete_idle ho hr)
    | _ => simp [Call.footprint, Footprint.none, Footprint.tree, Record.dir] at hf
  · rw [(s.step_within c t).receipt hf]
    exact hr

/-- `Complete` always returns, and if it leaves the staging file open it has recorded nothing. -/
theorem complete_open {env : Env} (h : RelocationImport) (size : Nat) (checksum : Checksum) :
    (complete env h size checksum).wp (fun _ => True)
      (fun res d' => ∃ x, res = .ok x ∧ (x.1.fileOpen = true → d'.receipts = d.receipts)) d := by
  unfold complete
  split
  · exact ⟨_, rfl, fun _ => rfl⟩
  split
  · exact ⟨_, rfl, fun _ => rfl⟩
  split
  · exact ⟨_, rfl, fun _ => rfl⟩
  refine (wp_bind _ _ _ _).2 ((wp_attempt _ _ _).2 ((wp_sync _).2 ⟨trivial, ?_, _, rfl, fun _ => rfl⟩))
  refine wp_asking_bind ?_
  split
  · exact ⟨_, rfl, fun ho => by cases ho⟩
  refine (wp_bind _ _ _ _).2 ((wp_attempt _ _ _).2 (wp_mono (fun res d' _ => ?_) (wp_true _ _)))
  cases res with
  | error e => exact ⟨_, rfl, fun ho => by cases ho⟩
  | ok receipt =>
    exact (wp_bind _ _ _ _).2 ((wp_attempt _ _ _).2
      (wp_mono (fun _ _ _ => ⟨_, rfl, fun ho => by cases ho⟩) (wp_true _ _)))

/-- An absent import receipt is only written by completing that import. -/
theorem Store.step_import_receipt {c : Call} (t : Moment)
    (hn : s.disk.receipts.lookup (w, op, .relocationImport) = none)
    (hc : ∀ i size checksum h, c = .complete i size checksum → s.imports[i]? = some h →
      h.fileOpen = true → (h.request.workspaceID, h.request.operationID) ≠ (w, op)) :
    (s.step c t).disk.receipts.lookup (w, op, .relocationImport) = none := by
  by_cases hf : (c.footprint s).records (.receipt w op .relocationImport)
  · cases c with
    | deleteWorkspace r =>
      refine Store.step_disk_of_wp (P :=
        fun d => d.receipts.lookup (w, op, .relocationImport) = none) ?_
      refine always_ret_bind (always_mutate hn (fun _ _ _ => ?_) fun d' d'' hd hw => ?_)
      · have key : ∀ d', Shrinks s.disk d' →
            d'.receipts.lookup (w, op, .relocationImport) = none := by
          intro d' hd
          rcases hd.records (.receipt w op .relocationImport) with h | h
          · exact Eq.trans h hn
          · simpa [Disk.hasRecord] using h
        exact (Removes.deleteWorkspaceApply r).wp key fun _ => key
      · rw [hw.receipt (by simp)]
        exact hd
    | complete i size checksum =>
      obtain ⟨h, hi, rfl, rfl⟩ : ∃ h, s.imports[i]? = some h ∧ w = h.request.workspaceID ∧
          op = h.request.operationID := by
        simpa [Call.footprint] using hf
      have ho : h.fileOpen = false := by
        by_contra ho
        exact hc i size checksum h rfl hi (by simpa using ho) rfl
      refine Store.step_disk_of_wp (P := fun d => d.receipts.lookup _ = none) ?_
      simp only [Call.prog, hi]
      exact always_ret_bind (complete_idle ho hn)
    | _ => simp [Call.footprint, Footprint.none, Footprint.tree, Record.dir] at hf
  · rw [(s.step_within c t).receipt hf]
    exact hn

theorem Store.ReceiptInvariant.step (hs : s.ReceiptInvariant) (c : Call) (t : Moment) :
    (s.step c t).ReceiptInvariant where
  handles := hs.handles.step c t
  imports i h hi ho := by
    cases step_imports s c t i h hi with
    | @moved _ h0 _ hi0 hb =>
      have ho0 := (hb.fileOpen ho).1
      rw [hb.request]
      by_cases hc : ∃ size checksum, c = .complete i size checksum
      · obtain ⟨size, checksum, rfl⟩ := hc
        have key : ∀ h', (s.step (.complete i size checksum) t).imports[i]? = some h' →
            h'.fileOpen = true →
            (s.step (.complete i size checksum) t).disk.receipts = s.disk.receipts := by
          refine Store.step_of_wp (P := fun s' => ∀ h', s'.imports[i]? = some h' →
            h'.fileOpen = true →
            s'.disk.receipts = s.disk.receipts) ?_
          simp only [Call.prog, hi0]
          refine (wp_bind _ _ _ _).2 (wp_crash_mono (fun d _ h' hi' => by simp [Store.crash] at hi')
            (wp_mono (fun res d' hr => ?_) (complete_open h0 size checksum)))
          obtain ⟨x, rfl, hx⟩ := hr
          intro h' hi' ho'
          have hset : (s.imports.set i x.1)[i]? = some h' := hi'
          rw [List.getElem?_set_self (List.getElem?_eq_some_iff.1 hi0).1] at hset
          cases hset
          exact hx ho'
        rw [key h hi ho]
        exact hs.imports i h0 hi0 ho0
      · refine Store.step_import_receipt t (hs.imports i h0 hi0 ho0) ?_
        rintro j size checksum g rfl hj hg he
        obtain rfl : i = j :=
          hs.handles.exclusive i j h0 g hi0 hj ((hs.handles.sound i h0 hi0).fileOpen ho0)
          ((hs.handles.sound j g hj).fileOpen hg)
            (by simp only [Prod.mk.injEq] at he; exact he.1.symm)
        exact hc ⟨size, checksum, rfl⟩
    | begun _ hr hb =>
      subst hr
      exact Store.step_import_receipt t (hb.locked (hb.sound.fileOpen ho)).2.1
        (fun _ _ _ _ he => by cases he)

theorem Store.ReceiptInvariant.init : Store.init.ReceiptInvariant := ⟨.init, by simp [Store.init]⟩

theorem Store.ReceiptInvariant.after {s : Store} (hs : s.ReceiptInvariant) :
    ∀ hist, (s.after hist).ReceiptInvariant
  | [] => hs
  | (c, t) :: hist => (hs.step c t).after hist

/-- A receipt outlives every history that does not delete its Workspace. -/
theorem Store.ReceiptInvariant.after_receipt :
    ∀ {hist : List (Call × Moment)} {s : Store}, s.ReceiptInvariant →
    s.disk.receipts.lookup (w, op, k) = some receipt → (∀ e ∈ hist, e.1.deletes w = false) →
    (s.after hist).disk.receipts.lookup (w, op, k) = some receipt
  | [], _, _, hr, _ => hr
  | (c, t) :: _, s, hs, hr, hd =>
    (hs.step c t).after_receipt (hs.step_receipt t hr (hd (c, t) (by simp))) fun e he =>
      hd e (by simp [he])

/-! ## Re-issuing -/

theorem publishImport_found {env : Env} (h : RelocationImport) :
    (publishImport env h).wp (fun _ => True) (fun res d' => ∀ r, res = .ok r →
      loadReceipt h.request.toMutation h.digest .relocationImport d' = .ok (some r)) d := by
  refine wp_last fun _ d1 => wp_asking_bind ?_
  split
  · exact fun r he => by cases he
  · exact wp_last fun _ _ => wp_last fun _ _ => wp_last fun _ _ =>
      recordReceipt_found rfl rfl rfl rfl

theorem complete_found (env : Env) (d : Disk) {h : RelocationImport} (hs : h.Sound)
    (hr : h.receipt = none) (size : Nat) (checksum : Checksum) :
    (complete env h size checksum).wp (fun _ => True) (fun res d' => ∀ x, res = .ok x →
      ∀ r, x.2 = .ok r → mutateAnswer h.request.json h.request.toMutation .relocationImport d' =
        some (.ok r)) d := by
  unfold complete
  rw [hr]
  dsimp only
  split
  · exact fun x he r hx => by cases he; cases hx
  split
  · exact fun x he r hx => by cases he; cases hx
  refine wp_last fun synced d1 => ?_
  split
  · exact fun x he r hx => by cases he; cases hx
  refine wp_asking_bind ?_
  split
  · exact fun x he r hx => by cases he; cases hx
  refine (wp_bind _ _ _ _).2 ((wp_attempt _ _ _).2 (wp_mono (fun res d2 hp => ?_) (publishImport_found h)))
  cases res with
  | error e => exact fun x he r hx => by cases he; cases hx
  | ok receipt =>
    have hf : mutateAnswer h.request.json h.request.toMutation .relocationImport d2 =
        some (.ok receipt) := by
      have hl := hp receipt rfl
      rw [hs.digest] at hl
      simp [mutateAnswer, hs.valid, hl]
    refine (wp_bind _ _ _ _).2 ((wp_attempt _ _ _).2 (Touches.wp (S := fun _ => False) (I := fun _ => True)
      (D := fun _ => True) (Touches.cleanupStaging trivial) (fun _ _ => trivial)
      fun cleaned d3 hd => ?_))
    intro x he r hx
    cases he
    cases cleaned with
    | error e => cases hx
    | ok _ =>
      cases hx
      rw [← hf]
      exact mutateAnswer_congr _ (hd.receipt id)

/-- `q` returns `receipt` when issued on `s`, which becomes the last store: at
    once, or for an import when it is completed. -/
inductive Succeeds (s : Store) (t : Moment) (q : Request) (receipt : Receipt) : Store → Prop where
  | issued : ((q.issue (s.env t)).exec t.fates s.disk).1 = .done (.ok (some receipt)) →
      Succeeds s t q receipt (s.step q.call t)
  | completed {i size : Nat} {checksum : Checksum} {h h' : RelocationImport} :
      q = .relocationImport h.request → s.imports[i]? = some h → h.receipt = none →
      ((complete (s.env t) h size checksum).exec t.fates s.disk).1 = .done (.ok (h', .ok receipt)) →
      Succeeds s t q receipt (s.step (.complete i size checksum) t)

theorem Succeeds.found {s' : Store} {t : Moment} (hs : s.Handles)
    (h : Succeeds s t q receipt s') : q.static = .ok () ∧
      mutateAnswer q.json q.mutation q.kind s'.disk = some (.ok receipt) := by
  cases h with
  | issued he =>
    have hx := wp_exec (q.issue_found (s.env t) s.disk) t.fates
    rw [Store.step_call_disk]
    revert hx he
    generalize (q.issue (s.env t)).exec t.fates s.disk = res
    rcases res with ⟨_ | _, d⟩
    · intro he hx
      exact hx receipt (by simpa using he)
    · intro he
      cases he
  | @completed i size checksum h h' hq hi hr he =>
    subst hq
    have hsound := hs.sound i h hi
    have hx := wp_exec (complete_found (s.env t) s.disk hsound hr size checksum) t.fates
    have hd : (s.step (.complete i size checksum) t).disk =
        ((complete (s.env t) h size checksum).exec t.fates s.disk).2 := by
      rw [Store.step_disk]
      simp only [Call.prog, hi]
      exact exec_bind_ret_snd _ _ _ _
    rw [hd]
    revert hx he
    generalize (complete (s.env t) h size checksum).exec t.fates s.disk = res
    rcases res with ⟨_ | _, d⟩
    · intro he hx
      exact ⟨if_pos hsound.statics, hx (h', .ok receipt) (by simpa using he) receipt rfl⟩
    · intro he
      cases he

variable {kind : ReceiptKind}

theorem loadReceipt_some {m : Mutation} {digest : Digest} {r : Receipt}
    (h : loadReceipt m digest kind d = .ok (some r)) :
    loadAnyReceipt m kind d = .ok (some r) ∧
      d.receipts.lookup (m.workspaceID, m.operationID, kind) = some r ∧ r.inputDigest = digest := by
  unfold loadReceipt at h
  split at h
  · cases h
  · cases h
  · rename_i r' hr'
    split at h
    · cases h
    split at h
    · cases h
    rename_i hd
    cases h
    refine ⟨hr', ?_, by simpa using hd⟩
    unfold loadAnyReceipt at hr'
    split at hr'
    · cases hr'
    · split at hr'
      · cases hr'
      · split at hr'
        · cases hr'
        · cases hr'
          assumption

/-- Requests of one kind and mutation with the same canonical JSON are the same. -/
theorem Request.json_injective {q' : Request} (hk : q'.kind = q.kind)
    (hm : q'.mutation = q.mutation) (hj : q'.json = q.json) : q' = q := by
  cases q <;> cases q' <;> first | (cases hk; done) | skip
  all_goals
    rename_i r r'
    cases r
    cases r'
    simp only [Request.mutation] at hm
    cases hm
    simp_all [Request.json, CreateWorkspaceRequest.json, CloneWorkspaceRequest.json,
      AdvanceGenerationRequest.json, CreateSnapshotRequest.json, DeleteSnapshotRequest.json,
      PrepareRestoreRequest.json, DeleteWorkspaceRequest.json, RelocationExportRequest.json,
      RelocationImportRequest.json]

/-- Another fence is stale, whether it is too short or only different. -/
theorem mutateAnswer_staleFence {m m' : Mutation}
    (hv : validateMutation m = .ok ()) (hany : loadAnyReceipt m kind d = .ok (some receipt))
    (hd : receipt.inputDigest.fence = m.fencingToken) (hw : m'.workspaceID = m.workspaceID)
    (ho : m'.operationID = m.operationID) (hf : m'.fencingToken ≠ m.fencingToken) :
    mutateAnswer request m' kind d = some (.error .staleFence) := by
  obtain ⟨hvo, hvw, -⟩ := validateMutation_ok hv
  have hany' : loadAnyReceipt m' kind d = .ok (some receipt) := by
    rw [← hany]
    unfold loadAnyReceipt
    rw [hw, ho]
  have hv' : validateMutation m' =
      if m'.fencingToken.length < 32 then .error .staleFence else .ok () := by
    unfold validateMutation
    rw [ho, hw, hvo, hvw]
    rfl
  unfold mutateAnswer
  rw [hv']
  split_ifs
  · rfl
  · simp [loadReceipt, hany', hd, Ne.symm hf]

theorem mutateAnswer_conflict {m : Mutation}
    (hv : validateMutation m = .ok ()) (hany : loadAnyReceipt m kind d = .ok (some receipt))
    (hd : receipt.inputDigest.fence = m.fencingToken) (hj : receipt.inputDigest.request ≠ request) :
    mutateAnswer request m kind d = some (.error .conflictingReplay) := by
  have hne : receipt.inputDigest ≠ ⟨m.fencingToken, request⟩ := fun he => hj (by rw [he])
  simp [mutateAnswer, hv, loadReceipt, hany, hd, hne]

/-- A mutation that succeeded is idempotent: after any history that does not
    delete its Workspace, issuing it again changes nothing on disk and returns
    the same receipt, or, for an export or import, the error of its re-check; the
    same operation under another fence is stale, with other inputs a conflict. -/
theorem mutation_idempotent (hist₀ : List (Call × Moment)) (t : Moment) (q : Request)
    (receipt : Receipt) (s₁ : Store) (hok : Succeeds (Store.init.after hist₀) t q receipt s₁)
    (hist : List (Call × Moment))
    (hdel : ∀ e ∈ hist, e.1.deletes q.mutation.workspaceID = false) (t' : Moment) :
    (q.issue ((s₁.after hist).env t')).exec t'.fates (s₁.after hist).disk =
      (.done ((q.recheck ((s₁.after hist).env t') (s₁.after hist).disk).map fun _ => some receipt),
        (s₁.after hist).disk) ∧
    (∀ q' : Request, q'.kind = q.kind → q'.mutation.workspaceID = q.mutation.workspaceID →
      q'.mutation.operationID = q.mutation.operationID →
      q'.mutation.fencingToken ≠ q.mutation.fencingToken →
      q'.static = .ok () ∨ q'.static = .error .staleFence →
      (q'.issue ((s₁.after hist).env t')).exec t'.fates (s₁.after hist).disk =
        (.done (.error .staleFence), (s₁.after hist).disk)) ∧
    ∀ q' : Request, q'.kind = q.kind → q'.mutation = q.mutation → q' ≠ q → q'.static = .ok () →
      (q'.issue ((s₁.after hist).env t')).exec t'.fates (s₁.after hist).disk =
        (.done (.error .conflictingReplay), (s₁.after hist).disk) := by
  have hinv : (Store.init.after hist₀).ReceiptInvariant := Store.ReceiptInvariant.init.after hist₀
  obtain ⟨hstatic, hfound⟩ := hok.found hinv.handles
  have hinv₁ : s₁.ReceiptInvariant := by cases hok <;> exact hinv.step _ _
  have hlook := (loadReceipt_some (mutateAnswer_ok hfound).2).2.1
  have hafter := mutateAnswer_congr q.json
    ((hinv₁.after_receipt hlook hdel).trans hlook.symm)
  rw [hfound] at hafter
  obtain ⟨hvalid, hload⟩ := mutateAnswer_ok hafter
  obtain ⟨hany, -, hdigest⟩ := loadReceipt_some hload
  refine ⟨(Request.issue_settles ?_).exec _,
    fun q' hk hw ho hf hs => (Request.issue_settles ?_).exec _, fun q' hk hm hne hs =>
    (Request.issue_settles ?_).exec _⟩
  · simp [Request.answer, answerOf, hstatic, hafter]
  · rcases hs with hs | hs
    · rw [Request.answer, hk, mutateAnswer_staleFence hvalid hany (by rw [hdigest]) hw ho hf]
      simp [answerOf, hs]
    · simp [Request.answer, answerOf, hs]
  · have hj : q.json ≠ q'.json := fun he => hne (Request.json_injective hk hm he.symm)
    rw [Request.answer, hk, hm, mutateAnswer_conflict hvalid hany (by rw [hdigest]) (by rw [hdigest]; exact hj)]
    simp [answerOf, hs]

/-- A request, and the receipt it returns on an empty store. -/
def sampleCreate : Request :=
  .create { Mutation.plain "w" "a" with capacityBytes := minimumExt4Bytes }

/-- The receipt of `sampleCreate`. -/
def sampleReceipt : Receipt where
  formatVersion := receiptFormatVersion
  kind := .workspaceCreate
  operationID := "a"
  workspaceID := "w"
  inputDigest := sampleCreate.digest
  generation := 1
  capacityBytes := minimumExt4Bytes
  recordedAt := 1

/-- Create answers with its receipt although the Workspace has moved on. -/
theorem mutation_idempotent_create :
    let s := (Store.init.step sampleCreate.call .calm).after [(.advanceGeneration
      { Mutation.plain "w" "b" with expectedGeneration := 1, nextGeneration := 2 }, .calm)]
    ((sampleCreate.issue (s.env .calm)).exec [] s.disk).1 = .done (.ok (some sampleReceipt)) :=
  congrArg Prod.fst (mutation_idempotent [] .calm sampleCreate sampleReceipt _ (.issued rfl)
    [(.advanceGeneration { Mutation.plain "w" "b" with expectedGeneration := 1, nextGeneration := 2 }, .calm)]
    (by decide) .calm).1

/-- An export that succeeded answers with an error once its relocation was aborted. -/
theorem export_refused_after_abort :
    let r : RelocationExportRequest := { Mutation.plain "w" "b" with expectedGeneration := 1 }
    let s := Store.init.step sampleCreate.call .calm
    let s' := (s.step (.openRelocationExport r) .calm).after [(.closeExport "w", .calm),
      (.abortRelocation { Mutation.plain "w" "c" with expectedGeneration := 1 }, .calm)]
    (((Request.openRelocationExport r).issue (s.env .calm)).run s.disk).1.isOk = true ∧
    (((Request.openRelocationExport r).issue (s'.env .calm)).run s'.disk).1 =
      .error .staleGeneration := by
  decide

end SecondBox.WorkspaceStore

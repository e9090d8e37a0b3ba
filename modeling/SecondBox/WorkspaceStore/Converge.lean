/-
  Restore operations cut by crashes converge.

  `restore_converges`: cut any number of times and then run to its end, a restore
  operation leaves the manifests and images of one uncut run and returns its
  receipt, up to the time of recording.  Two answers are not repeated: that of
  AbortRestore, read from the staged record it unlinks, and that of
  FinalizeRestore once its rollback record is unlinked, if SwapRestore was cut
  before its receipt.
-/
import SecondBox.WorkspaceStore.Evidence
import SecondBox.WorkspaceStore.Receipts

namespace SecondBox.WorkspaceStore

open Crash Crash.Prog

variable {α : Type} {d X Y : Disk}

/-! ## Mutations -/

/-- A receipt without its time of recording. -/
def Receipt.unstamped (receipt : Receipt) : Receipt := { receipt with recordedAt := 0 }

/-- The receipt a mutation makes of the answer of its body. -/
def recordedAs (request : Json) (m : Mutation) (kind : ReceiptKind) (receipt : Receipt) : Receipt :=
  { receipt with
    formatVersion := receiptFormatVersion, kind := kind, operationID := m.operationID,
    workspaceID := m.workspaceID, inputDigest := ⟨m.fencingToken, request⟩, recordedAt := 0 }

/-- What recording a receipt answers. -/
def recordAnswer (request : Json) (m : Mutation) (kind : ReceiptKind) :
    Except StoreErr Receipt → Except StoreErr Receipt
  | .error e => .error e
  | .ok receipt =>
    if receipt.snapshotID ≠ "" ∧ ¬ validID receipt.snapshotID then
      .error (.corruptState "invalid receipt Snapshot ID")
    else .ok (recordedAs request m kind receipt)

section
variable {env env' : Env} {D : Disk} {request : Json} {m : Mutation} {kind : ReceiptKind}
  {apply : Op Receipt}
  {res : Except StoreErr Receipt} {receipt : Receipt}

/-- The receipt `mutate` records for the answer of its body. -/
def stampedAs (env : Env) (request : Json) (m : Mutation) (kind : ReceiptKind) (receipt : Receipt) :
    Receipt :=
  { recordedAs request m kind receipt with recordedAt := env.now }

theorem validate_stampedAs (env : Env) (request : Json) (kind : ReceiptKind) (receipt : Receipt)
    (hv : validateMutation m = .ok ()) : validateReceipt (stampedAs env request m kind receipt) =
      if receipt.snapshotID ≠ "" ∧ ¬ validID receipt.snapshotID then
        .error (.corruptState "invalid receipt Snapshot ID") else .ok () := by
  obtain ⟨ho, hw, -⟩ := validateMutation_ok hv
  have ho := validID_of_validateID ho
  have hw := validID_of_validateID hw
  have hn := env.now_pos.ne'
  simp [validateReceipt, stampedAs, recordedAs, ho, hw, hn]

/-- Without a receipt `mutate` runs its body and records the answer. -/
theorem mutate_body_ends {D' : Disk} {res' : Except StoreErr Receipt}
    (hv : validateMutation m = .ok ()) (hh : env.held m.workspaceID = false)
    (hl : loadReceipt m ⟨m.fencingToken, request⟩ kind d = .ok none)
    (h : Ends (apply.bind fun receipt => recordReceipt env { receipt with
      kind := kind, operationID := m.operationID, workspaceID := m.workspaceID,
      inputDigest := ⟨m.fencingToken, request⟩ }) d res' D') : Ends
      (mutate env request m kind apply) d res' D' := by
  obtain ⟨-, hw, -⟩ := validateMutation_ok hv
  exact .bind (.reading_ok hv) (.bind (.reading_ok (inputDigest_ok hv request))
    (.bind (.reading_ok hl) (.bind (.bind (.reading_ok hw) (.require_ok hh))
      (.bind (.reading_ok hl) h))))

theorem mutate_ends_ok (hv : validateMutation m = .ok ()) (hh : env.held m.workspaceID = false)
    (hl : loadReceipt m ⟨m.fencingToken, request⟩ kind d = .ok none)
    (ha : Ends apply d (.ok receipt) D)
    (hs : ¬ (receipt.snapshotID ≠ "" ∧ ¬ validID receipt.snapshotID)) :
    Ends (mutate env request m kind apply) d (.ok (stampedAs env request m kind receipt))
      (D.setReceipt m.workspaceID m.operationID kind (stampedAs env request m kind receipt)) := by
  have hvalid := validate_stampedAs env request kind receipt hv
  rw [if_neg hs] at hvalid
  exact mutate_body_ends hv hh hl (.bind ha (.bind (.reading_ok hvalid)
    (.bind (.atomicJSON (fun _ => rfl) fun p hp => by cases hp) (.ret _))))

theorem mutate_ends (hv : validateMutation m = .ok ()) (hh : env.held m.workspaceID = false)
    (hl : loadReceipt m ⟨m.fencingToken, request⟩ kind d = .ok none) (ha : Ends apply d res D) :
    ∃ res' D', Ends (mutate env request m kind apply) d res' D' ∧
      res'.map Receipt.unstamped = recordAnswer request m kind res ∧ D'.manifests = D.manifests ∧
        D'.images = D.images := by
  cases res with
  | error e => exact ⟨_, _, mutate_body_ends hv hh hl (.bind_error ha), rfl, rfl, rfl⟩
  | ok receipt =>
    simp only [recordAnswer]
    by_cases hbad : receipt.snapshotID ≠ "" ∧ ¬ validID receipt.snapshotID
    · have hvalid := validate_stampedAs env request kind receipt hv
      rw [if_pos hbad] at hvalid ⊢
      exact ⟨_, _, mutate_body_ends hv hh hl (.bind ha (.bind_error (.reading_error hvalid))), rfl,
        rfl, rfl⟩
    · rw [if_neg hbad]
      exact ⟨_, _, mutate_ends_ok hv hh hl ha hbad, rfl, rfl, rfl⟩

/-- Run to its end on `X`, `p'` does what `p` does on `d`, up to the time of
    recording and what is `lost` of the answer. -/
structure Converged (p p' : Op Receipt) (lost : Loss) (d X : Disk) : Prop where
  manifests : (p'.run X).2.manifests = (p.run d).2.manifests
  images : (p'.run X).2.images = (p.run d).2.images
  answer : (p'.run X).1.map Receipt.unstamped = (p.run d).1.map Receipt.unstamped ∨
    lost X ((p.run d).1.map Receipt.unstamped) ((p'.run X).1.map Receipt.unstamped)

/-- What is lost of the answer of a mutation whose body loses `lost`. -/
def Loss.recorded (request : Json) (m : Mutation) (kind : ReceiptKind) (lost : Loss) : Loss :=
  fun X uncut a =>
  ∃ r, lost X uncut r ∧ a = recordAnswer request m kind r

/-- Neither temporary files nor the recording of the uncut answer matter to `lost`. -/
def Loss.Stable (lost : Loss) : Prop := ∀ X ts request m kind uncut r, lost X uncut r →
  lost (X.withTemps ts) (recordAnswer request m kind uncut) r

variable {lost : Loss}

/-- A mutation cut in its body or before its receipt is recorded. -/
theorem Retried.converged (hs : Steady apply) (stable : lost.Stable)
    (hv : validateMutation m = .ok ())
    (hl : loadReceipt m ⟨m.fencingToken, request⟩ kind d = .ok none)
    (h : Retried apply lost d X) (ts : List Temp) (hh : env.held m.workspaceID = false)
    (hh' : env'.held m.workspaceID = false) :
    Converged (mutate env request m kind apply) (mutate env' request m kind apply)
      (lost.recorded request m kind) d (X.withTemps ts) := by
  have hlX : loadReceipt m ⟨m.fencingToken, request⟩ kind X = .ok none := by
    rw [← hl, loadReceipt, loadReceipt, loadAnyReceipt, loadAnyReceipt, h.receipts]
  obtain ⟨r₁, D₁, e₁, a₁, m₁, i₁⟩ := mutate_ends hv hh hl (hs.ends d)
  obtain ⟨r₂, D₂, e₂, a₂, m₂, i₂⟩ := mutate_ends hv hh' hlX (hs.ends X)
  obtain ⟨us, run₁⟩ := e₁.run_eq
  obtain ⟨vs, run₂⟩ := e₂ ts
  refine ⟨?_, ?_, ?_⟩
  · rw [run₁, run₂]
    exact m₂.trans (h.manifests.trans m₁.symm)
  · rw [run₁, run₂]
    exact i₂.trans (h.images.trans i₁.symm)
  · rw [run₁, run₂, a₁, a₂]
    exact h.result.imp (fun e => by rw [e]) fun hlost => ⟨_, stable X ts _ _ _ _ _ hlost, rfl⟩

/-- A mutation cut after its receipt is in place replays it. -/
theorem recorded_converged (hs : Steady apply) (hv : validateMutation m = .ok ())
    (hl : loadReceipt m ⟨m.fencingToken, request⟩ kind d = .ok none)
    (hd : Ends apply d (.ok receipt) D)
    {env₀ : Env} (hvalid : validateReceipt (stampedAs env₀ request m kind receipt) = .ok ())
    (hh : env.held m.workspaceID = false) (ts : List Temp) (lost : Loss) :
    Converged (mutate env request m kind apply) (mutate env' request m kind apply) lost d
      ((D.setReceipt m.workspaceID m.operationID kind (stampedAs env₀ request m kind receipt)).withTemps ts) := by
  have hfound : loadReceipt m ⟨m.fencingToken, request⟩ kind
      ((D.setReceipt m.workspaceID m.operationID kind
      (stampedAs env₀ request m kind receipt)).withTemps ts) =
      .ok (some (stampedAs env₀ request m kind receipt)) :=
    loadReceipt_setReceipt hvalid rfl rfl rfl rfl ts
  have hanswer : mutateAnswer request m kind ((D.setReceipt m.workspaceID m.operationID kind
      (stampedAs env₀ request m kind receipt)).withTemps ts) =
      some (.ok (stampedAs env₀ request m kind receipt)) := by
    simp only [mutateAnswer, hv, hfound]
  have hset : (mutate env' request m kind apply).Settles _ _ := mutate_settles hanswer
  have run₂ := hset.run
  obtain ⟨r₁, D₁, e₁, a₁, m₁, i₁⟩ := mutate_ends hv hh hl (hs.ends d)
  obtain ⟨us, run₁⟩ := e₁.run_eq
  obtain ⟨vs, hrun⟩ := hd.run_eq
  rw [hrun] at a₁ m₁ i₁
  refine ⟨?_, ?_, .inl ?_⟩
  · rw [run₁, run₂]
    exact m₁.symm
  · rw [run₁, run₂]
    exact i₁.symm
  · rw [validate_stampedAs _ _ _ _ hv] at hvalid
    rw [run₁, run₂, a₁]
    simp only [recordAnswer]
    split at hvalid
    · cases hvalid
    · rw [if_neg (by assumption)]
      rfl

/-- Wherever a mutation with a resumable body is cut, running it again converges. -/
theorem mutate_converges (hs : Steady apply) (stable : lost.Stable)
    (hr : validateMutation m = .ok () → Resumable apply lost d) (env₀ : Env) :
    (mutate env₀ request m kind apply).wp
      (fun X => ∀ env env' : Env, env.held m.workspaceID = false →
      env'.held m.workspaceID = false → Converged (mutate env request m kind apply)
        (mutate env' request m kind apply) (lost.recorded request m kind) d X)
      (fun _ _ => True) d := by
  refine wp_mutate (fun _ => trivial) (fun _ _ _ => trivial) fun hl hv _ => ?_
  refine wp_crash_mono ?_ (wp_mono (fun res d' hres => ?_) (hr hv d.temps))
  · rintro _ ⟨X, ts, hX, rfl⟩ env env' hh hh'
    exact hX.converged hs stable hv hl ts hh hh'
  · cases res with
    | error e => trivial
    | ok receipt =>
      obtain ⟨D, us, ⟨hend, hret⟩, rfl⟩ := hres receipt rfl
      rw [andThen_ok]
      refine wp_reading_bind (fun _ _ => trivial) fun _ hvalid => (wp_bind _ _ _ _).2 ?_
      exact wp_atomicJSON (fun _ => rfl) (fun ts env env' hh hh' => hret.converged hs stable
        hv hl ts hh hh')
        (fun _ _ => trivial) (fun _ ts env env' hh _ => recorded_converged hs hv hl hend
          hvalid hh ts _)
        (fun _ _ => trivial) fun _ _ => trivial

end

/-! ## The four restore operations -/

/-- What the restore operations rely on, on every disk of a history. -/
structure Disk.Restorable (d : Disk) : Prop where
  rooted : d.Rooted fun _ => False
  evident : d.Evident

/-- With a receipt of its SwapRestore, FinalizeRestore has the answer of the rollback record. -/
theorem Disk.Evident.swapAnswer {m : RestoreMutation} {rb : RollbackManifest} (h : d.Evident)
    (hrb : d.rollbacks.lookup (m.workspaceID, m.operationID) = some rb)
    (hr : (d.receipts.lookup (m.workspaceID, m.operationID, .restoreSwap)).isSome) :
    swapAnswer m d = .ok (finalizedReceipt rb) := by
  obtain ⟨receipt, hr⟩ := Option.isSome_iff_exists.1 hr
  have hp := (h _ _).recorded rb hrb receipt hr
  simp only [WorkspaceStore.swapAnswer, loadAnyReceipt, hr, hp.valid, hp.kind, hp.operationID,
    hp.workspaceID, ne_eq, not_true_eq_false, or_self, if_false, ← hp.answer, Receipt.restored]

/-- The calls of a restore. -/
inductive RestoreCall where
  | prepare (r : PrepareRestoreRequest)
  | swap (r : SwapRestoreRequest)
  | finalize (m : RestoreMutation)
  | abort (m : RestoreMutation)

namespace RestoreCall

/-- The common part of the request. -/
def mutation : RestoreCall → Mutation
  | .prepare r | .swap r => r.toMutation
  | .finalize m | .abort m => m

/-- The request as digested. -/
def json : RestoreCall → Json
  | .prepare r | .swap r => r.json
  | .finalize m | .abort m => m.json

/-- The kind of its receipt. -/
def kind : RestoreCall → ReceiptKind
  | .prepare _ => .restorePrepare
  | .swap _ => .restoreSwap
  | .finalize _ => .restoreFinalize
  | .abort _ => .restoreAbort

/-- What the call does before its receipt. -/
def body : RestoreCall → Op Receipt
  | .prepare r => prepareRestoreApply r
  | .swap r => swapRestoreApply r
  | .finalize m => finalizeRestoreApply m
  | .abort m => abortRestoreApply m

/-- What the operation checks of its request. -/
def valid : RestoreCall → Except StoreErr Unit
  | .prepare r | .swap r => validateRestoreRequest r
  | .finalize _ | .abort _ => .ok ()

/-- The call. -/
def prog (env : Env) : RestoreCall → Op Receipt
  | .prepare r => prepareRestore env r
  | .swap r => swapRestore env r
  | .finalize m => finalizeRestore env m
  | .abort m => abortRestore env m

/-- How the answer of the body may differ once the record it is read from is unlinked. -/
def lost : RestoreCall → Loss
  | .prepare _ | .swap _ => fun _ _ _ => False
  | .finalize m => finalizeLost m
  | .abort m => abortLost m

theorem lost_stable (q : RestoreCall) : q.lost.Stable := by
  intro X ts request m kind uncut r h
  cases q with
  | finalize m =>
    refine h.imp_right ?_
    rintro ⟨e, rfl⟩
    exact ⟨e, rfl⟩
  | _ => exact h

theorem steady (q : RestoreCall) : Steady q.body := by
  cases q with
  | prepare r => exact prepareRestoreApply_steady r
  | swap r => exact swapRestoreApply_steady r
  | finalize m => exact finalizeRestoreApply_steady m
  | abort m => exact abortRestoreApply_steady m

theorem resumable (q : RestoreCall) (hd : d.Restorable) (hq : q.valid = .ok ()) :
    Resumable q.body q.lost d := by
  cases q with
  | prepare r =>
    exact prepareRestoreApply_resumable (validRestoreRequest hq) (hd.evident _ _).image _
  | swap r =>
    exact swapRestoreApply_resumable (validRestoreRequest hq) (hd.rooted.images (.staged _ _) _ rfl)
      _
  | finalize m => exact finalizeRestoreApply_resumable m d fun _ => hd.evident.swapAnswer
  | abort m => exact abortRestoreApply_resumable m d

variable {q : RestoreCall}

theorem wp_prog {C : Disk → Prop} {Q : Except StoreErr Receipt → Disk → Prop} {env : Env}
    (he : ∀ e, q.valid = .error e → Q (.error e) d)
    (h : q.valid = .ok () → (mutate env q.json q.mutation q.kind q.body).wp C Q d) :
    (q.prog env).wp C Q d := by
  cases q with
  | prepare r | swap r => exact wp_reading_bind he fun _ => h
  | finalize m | abort m => exact h rfl

theorem run_prog {env : Env} (hq : q.valid = .ok ()) :
    (q.prog env).run d = (mutate env q.json q.mutation q.kind q.body).run d := by
  cases q with
  | prepare r =>
    rw [prog, prepareRestore, bind_eq, run_bind, run_reading,
      show validateRestoreRequest r = .ok () from hq]
    rfl
  | swap r =>
    rw [prog, swapRestore, bind_eq, run_bind, run_reading,
      show validateRestoreRequest r = .ok () from hq]
    rfl
  | finalize m | abort m => rfl

/-- How the answer of the operation may differ once the record it is read from is unlinked. -/
def forgotten (q : RestoreCall) : Loss := q.lost.recorded q.json q.mutation q.kind

/-- A run of the operation on `d` is cut and leaves `X`. -/
def Cut (q : RestoreCall) (d X : Disk) : Prop :=
  ∃ (env : Env) (φ : List Fate), (q.prog env).exec φ d = (.crashed, X)

theorem Cut.of_wp {C : Disk → Prop} {Q : Except StoreErr Receipt → Disk → Prop}
    (h : q.Cut d X) (hw : ∀ env, (q.prog env).wp C Q d) : C X := by
  obtain ⟨env, φ, he⟩ := h
  have hx := wp_exec (hw env) φ
  rwa [he] at hx

theorem Cut.converged (h : q.Cut d X) (hd : d.Restorable) {env env' : Env}
    (hh : env.held q.mutation.workspaceID = false)
    (hh' : env'.held q.mutation.workspaceID = false) :
    Converged (q.prog env) (q.prog env') q.forgotten d X := by
  have hc : q.valid = .ok () ∧ Converged (mutate env q.json q.mutation q.kind q.body)
      (mutate env' q.json q.mutation q.kind q.body) q.forgotten d X := by
    refine h.of_wp (C := fun X => q.valid = .ok () ∧
      Converged (mutate env q.json q.mutation q.kind q.body)
      (mutate env' q.json q.mutation q.kind q.body) q.forgotten d X) (Q := fun _ _ => True)
      fun env₀ => wp_prog (fun _ _ => trivial) fun hq => ?_
    exact wp_crash_mono (fun X hX => ⟨hq, hX env env' hh hh'⟩)
      (mutate_converges q.steady q.lost_stable (fun _ => q.resumable hd hq) env₀)
  obtain ⟨hq, hc⟩ := hc
  exact ⟨by rw [run_prog hq, run_prog hq]; exact hc.manifests, by rw [run_prog hq, run_prog hq]; exact hc.images,
    by rw [run_prog hq, run_prog hq]; exact hc.answer⟩

theorem Cut.rooted (h : q.Cut d X) (hd : d.Rooted fun _ => False) : X.Rooted fun _ => False := by
  cases q with
  | prepare r => exact h.of_wp fun env => (wp_bind _ _ _ _).1 (Rooted.keeps_call .init env (.prepareRestore r) d hd)
  | swap r => exact h.of_wp fun env => (wp_bind _ _ _ _).1 (Rooted.keeps_call .init env (.swapRestore r) d hd)
  | finalize m => exact h.of_wp fun env => (wp_bind _ _ _ _).1 (Rooted.keeps_call .init env (.finalizeRestore m) d hd)
  | abort m => exact h.of_wp fun env => (wp_bind _ _ _ _).1 (Rooted.keeps_call .init env (.abortRestore m) d hd)

theorem Cut.evident (h : q.Cut d X) (hd : d.Evident) : X.Evident := by
  cases q with
  | prepare r => exact h.of_wp fun env => Evident.keeps_prepareRestore env r d hd
  | swap r => exact h.of_wp fun env => Evident.keeps_swapRestore env r d hd
  | finalize m =>
    exact h.of_wp fun _ =>
      Evident.keeps_mutation (by simp) (keeps_finalizeRestoreApply m Evident.keeps_removeFile) d hd
  | abort m =>
    exact h.of_wp fun _ =>
      Evident.keeps_mutation (by simp) (keeps_abortRestoreApply m Evident.keeps_removeFile) d hd

theorem Cut.restorable (h : q.Cut d X) (hd : d.Restorable) : X.Restorable :=
  ⟨h.rooted hd.rooted, h.evident hd.evident⟩

/-- A FinalizeRestore with nothing to answer from makes no step, so it is not cut. -/
theorem Cut.finalize_failed {m : RestoreMutation} {uncut r : Except StoreErr Receipt}
    (h : (finalize m).Cut X Y) (hl : finalizeLost m X uncut r) : ∃ e, uncut = .error e := by
  refine hl.elim (fun ⟨hu, _⟩ => ?_) id
  refine (h.of_wp (C := fun _ => False) (Q := fun _ _ => True) fun env =>
    wp_mutate (fun _ => trivial)
    (fun _ _ _ => trivial) fun _ _ _ => (finalizeRestoreApply_settles hu.1).wp ?_).elim
  rw [swapAnswer_unproven hu]
  trivial

/-- Once its staged record is unlinked AbortRestore only records its receipt. -/
theorem Cut.lost {uncut r : Except StoreErr Receipt} (h : q.Cut X Y) (hl : q.lost X uncut r) :
    q.lost Y uncut r := by
  cases q with
  | prepare | swap => exact hl.elim
  | finalize m => exact .inr (h.finalize_failed hl)
  | abort m =>
    exact h.of_wp (C := fun Y => abortLost m Y uncut r) fun env =>
      always_mutate (P := fun Y => abortLost m Y uncut r) hl
      (fun _ _ _ => (abortRestoreApply_settles hl.1 hl.2.1).wp hl) fun d' d'' hd hw =>
        ⟨(hw.rollback (by simp)).trans hd.1, (hw.staged (by simp)).trans hd.2.1, hd.2.2⟩

/-- Runs of the operation, one after the other, are cut and leave `X`. -/
abbrev Interrupted (q : RestoreCall) : Disk → Disk → Prop := Relation.TransGen q.Cut

theorem Interrupted.restorable (h : q.Interrupted d X) (hd : d.Restorable) : X.Restorable := by
  induction h with
  | single h => exact h.restorable hd
  | tail _ h ih => exact h.restorable ih

theorem Interrupted.converged (h : q.Interrupted d X) (hd : d.Restorable) {env env' : Env}
    (hh : env.held q.mutation.workspaceID = false)
    (hh' : env'.held q.mutation.workspaceID = false) :
    Converged (q.prog env) (q.prog env') q.forgotten d X := by
  induction h with
  | single h => exact h.converged hd hh hh'
  | tail hX hcut ih =>
    have hc := hcut.converged (Interrupted.restorable hX hd) hh' hh'
    refine ⟨hc.manifests.trans ih.manifests, hc.images.trans ih.images, ?_⟩
    rcases ih.answer with same | ⟨r, hl, hr⟩
    · exact hc.answer.imp (·.trans same) fun hf => by rwa [same] at hf
    · rcases hc.answer with same | ⟨r', hl', hr'⟩
      · exact .inr ⟨r, hcut.lost hl, same.trans hr⟩
      · refine .inr ⟨r', ?_, hr'⟩
        cases q with
        | prepare | swap => exact hl.elim
        | finalize m => exact .inr (hcut.finalize_failed hl)
        | abort m => exact hl'

end RestoreCall

/-! ## The selected image -/

/-- The manifest of `w` is the one on `d`, and so is its image. -/
structure Disk.Kept (w : ID) (d X : Disk) : Prop where
  manifest : X.manifests.lookup w = d.manifests.lookup w
  image : ∀ m i, d.manifests.lookup w = some m → d.images.lookup (.version w m.image) = some i →
    X.images.lookup (.version w m.image) = some i

namespace Disk.Kept
variable {w : ID} {S : Record → Prop} {I : ImageFile → Prop} {D : Dir → Prop}

theorem refl (w : ID) (d : Disk) : d.Kept w d := ⟨rfl, fun _ _ _ => id⟩

theorem trans (h : d.Kept w X) (h' : X.Kept w Y) : d.Kept w Y :=
  ⟨h'.manifest.trans h.manifest, fun m i hm hi => h'.image m i (h.manifest.trans hm) (h.image m i hm hi)⟩

theorem of_within (h : Within S I D d X) (hS : ¬ S (.current w)) (hI : ∀ n, ¬ I (.version w n)) :
    d.Kept w X :=
  ⟨h.manifest hS, fun m _ _ hi => (h.images _ (hI m.image)).trans hi⟩

theorem of_touches {p : Op α} (h : Touches S I D p) (hS : ¬ S (.current w))
    (hI : ∀ n, ¬ I (.version w n)) (d : Disk) : Always (d.Kept w) p d :=
  h.always fun _ hw => of_within hw hS hI

/-- A step that removes one file, other than the manifest and its image. -/
theorem removeFile (h : d.Kept w X) {f : File} (hf : f ≠ .record (.current w))
    (hi : ∀ m, d.manifests.lookup w = some m → f ≠ .image (.version w m.image)) :
    d.Kept w (X.removeFile f) := by
  have hw : Within (fun r => f = .record r) (fun g => f = .image g) (fun _ => False) X
      (X.removeFile f) :=
    within_removeFile (fun _ e => e) fun _ e => e
  exact ⟨(hw.manifest hf).trans h.manifest,
    fun m i hm hd => (hw.images _ (hi m hm)).trans (h.image m i hm hd)⟩

end Disk.Kept

/-- `FinalizeRestore` never removes the image of the current manifest. -/
theorem finalizeRestore_kept (env : Env) (m : RestoreMutation) (d : Disk) :
    Always (d.Kept m.workspaceID) (finalizeRestore env m) d := by
  have here : d.Kept m.workspaceID d := .refl _ d
  refine always_mutate here (fun _ _ _ => always_asking_bind ?_) fun d' d'' hd hw =>
    hd.trans (.of_within hw (by simp) (by simp))
  split
  · refine always_reading_bind here fun found _ => ?_
    cases found with
    | none => exact here
    | some r => exact here
  · exact here
  · rename_i rb _
    refine always_reading_bind here fun cm hcm => always_require_bind here fun _ =>
      always_require_bind here fun hp => ?_
    have hcm := readCurrentManifest_ok hcm
    have h₁ := here.removeFile (f := .image (.version m.workspaceID rb.previousImage)) (by simp)
        fun cm' hcm' => by
      cases hcm.symm.trans hcm'
      simpa using hp
    have h₂ := h₁.removeFile (f := .image (.staged m.workspaceID m.operationID)) (by simp) (by simp)
    have h₃ :=
      h₂.removeFile (f := .record (.staged m.workspaceID m.operationID)) (by simp) (by simp)
    have h₄ :=
      h₃.removeFile (f := .record (.rollback m.workspaceID m.operationID)) (by simp) (by simp)
    refine always_sys_bind here (always_sys_bind h₁ (always_sys_bind h₂ (always_sys_bind h₃ ?_)))
    exact Keeps.bind (keeping.syncDir _) (fun _ => .bind (keeping.syncDir _) fun _ =>
      .bind (keeping.syncDir _) fun _ => .ret _)
      _ h₄

theorem abortRestore_kept (env : Env) (m : RestoreMutation) (d : Disk) :
    Always (d.Kept m.workspaceID) (abortRestore env m) d :=
  Disk.Kept.of_touches (S := (Call.footprint .init (.abortRestore m)).records)
    (I := (· = .staged m.workspaceID m.operationID)) (D := fun _ => False)
    (Touches.mutate env _ (.inr rfl) (.abortRestoreApply (.inl rfl) rfl)) (by simp [Call.footprint])
      (by simp) d

theorem prepareRestore_kept (env : Env) (r : PrepareRestoreRequest) (d : Disk) :
    Always (d.Kept r.workspaceID) (prepareRestore env r) d :=
  Disk.Kept.of_touches (S := (Call.footprint .init (.prepareRestore r)).records)
    (I := (· = .staged r.workspaceID r.operationID)) (D := fun _ => False)
    (.bind (.reading _) fun _ => Touches.mutate env _ (.inr rfl) (.prepareRestoreApply (.inl rfl) rfl))
    (by simp [Call.footprint]) (by simp) d

/-- `SwapRestore` keeps every version, and its manifest is the old one or one
    that selects the staged image, which is then a version. -/
structure Disk.Swapped (r : SwapRestoreRequest) (d X : Disk) : Prop where
  staged : X.staged.lookup (r.workspaceID, r.operationID) = d.staged.lookup (r.workspaceID,
    r.operationID)
  versions : ∀ n i, d.images.lookup (.version r.workspaceID n) = some i →
    X.images.lookup (.version r.workspaceID n) = some i
  manifest : X.manifests.lookup r.workspaceID = d.manifests.lookup r.workspaceID ∨
    ∃ s m, d.staged.lookup (r.workspaceID, r.operationID) = some s ∧
      X.manifests.lookup r.workspaceID = some m ∧ m.image = s.image ∧
      (X.images.lookup (.version r.workspaceID s.image)).isSome

theorem Disk.Swapped.refl (r : SwapRestoreRequest) (d : Disk) :
    d.Swapped r d := ⟨rfl, fun _ _ => id, .inl rfl⟩

theorem Disk.Swapped.trans {r : SwapRestoreRequest} (h : d.Swapped r X) (h' : X.Swapped r Y) :
    d.Swapped r Y := by
  refine ⟨h'.staged.trans h.staged, fun n i hi => h'.versions n i (h.versions n i hi), ?_⟩
  rcases h'.manifest with same | ⟨s, m, hs, hm, hi, hv⟩
  · rcases h.manifest with same' | ⟨s, m, hs, hm, hi, hv⟩
    · exact .inl (same.trans same')
    · obtain ⟨i, hv⟩ := Option.isSome_iff_exists.1 hv
      exact .inr ⟨s, m, hs, same.trans hm, hi, by simp [h'.versions _ i hv]⟩
  · exact .inr ⟨s, m, h.staged.symm.trans hs, hm, hi, hv⟩

theorem publishRestoreVersion_swapped {r : SwapRestoreRequest} (h : d.Swapped r X)
    (image : ImageName) :
    Always (d.Swapped r) (publishRestoreVersion r.workspaceID r.operationID image) X := by
  refine always_asking_bind ?_
  cases hv : X.images.lookup (.version r.workspaceID image) with
  | some i => exact h
  | none =>
    refine always_asking_bind ?_
    cases X.images.lookup (.staged r.workspaceID r.operationID) with
    | none => exact h
    | some i =>
      have moved : X.Swapped r (X.moveStaged r.workspaceID r.operationID image i) := by
        refine ⟨rfl, fun n j hj => ?_, .inl rfl⟩
        have hn : ImageFile.version r.workspaceID n ≠ .version r.workspaceID image := fun e => by
          rw [e, hv] at hj
          cases hj
        have hs : ImageFile.version r.workspaceID n ≠ .staged r.workspaceID r.operationID := by simp
        rwa [Disk.moveStaged, Disk.setImage, AList.lookup_insert_ne hn, Disk.removeImage,
          AList.lookup_erase_ne hs]
      exact always_requireDir_bind h fun _ => always_sys_bind h
        (Keeps.bind (keeping.syncDir _) (fun _ => keeping.syncDir _) _ (h.trans moved))

theorem swapRestore_swapped (env : Env) (r : SwapRestoreRequest) (d : Disk) :
    Always (d.Swapped r) (swapRestore env r) d := by
  have here : d.Swapped r d := .refl r d
  have body : Always (d.Swapped r) (swapRestoreApply r) d := by
    refine wp_mono (fun _ _ h => h.1) (wp_swapRestoreApply (Q := fun _ _ => True) (V :=
      fun _ _ => d.Swapped r) here
      (fun _ _ h => ⟨h.staged, h.versions, h.manifest⟩) (fun _ _ _ _ _ _ _ _ => trivial)
      (fun s _ _ => publishRestoreVersion_swapped here s.image) fun s m X hc hX =>
        ⟨hX, fun hv => ?_⟩)
    obtain ⟨i, hi, -⟩ := validateExt4ImageUUID_iff.1 hv
    have selected : (X.selectRestored r s m).manifests.lookup r.workspaceID =
        some (swappedManifest r s m) :=
      AList.lookup_insert _
    exact ⟨⟨hX.staged, hX.versions, hX.manifest⟩,
      ⟨hX.staged, hX.versions, .inr ⟨s, _, readStagedRestore_ok hc.staged, selected, rfl,
      Option.isSome_of_mem hi⟩⟩, fun _ => trivial⟩
  exact always_reading_bind here fun _ _ => always_mutate here (fun _ _ _ => body)
    fun d' d'' hd hw =>
    hd.trans ⟨hw.staged (by simp), fun n i hi => (hw.images _ id).trans hi,
      .inl (hw.manifest (by simp))⟩

/-! ## Convergence -/

namespace RestoreCall

/-- On `X` the Workspace selects the image it selected on `d`, or the restored one. -/
def Selects (q : RestoreCall) (d X : Disk) : Prop :=
  d.Kept q.mutation.workspaceID X ∨
    ∃ s m, q.kind = .restoreSwap ∧ d.staged.lookup (q.mutation.workspaceID,
    q.mutation.operationID) = some s ∧
      X.manifests.lookup q.mutation.workspaceID = some m ∧ m.image = s.image ∧
      (X.images.lookup (.version q.mutation.workspaceID s.image)).isSome

theorem Interrupted.of_always {q : RestoreCall} {R : Disk → Disk → Prop} (h : q.Interrupted d X)
    (trans : ∀ {d X Y}, R d X → R X Y → R d Y) (run : ∀ env d, Always (R d) (q.prog env) d) :
    R d X := by
  induction h with
  | single h => exact h.of_wp fun env => run env _
  | tail _ h ih => exact trans ih (h.of_wp fun env => run env _)

theorem Interrupted.selects {q : RestoreCall} (h : q.Interrupted d X) : q.Selects d X := by
  cases q with
  | prepare r => exact .inl (h.of_always .trans fun env d => prepareRestore_kept env r d)
  | finalize m => exact .inl (h.of_always .trans fun env d => finalizeRestore_kept env m d)
  | abort m => exact .inl (h.of_always .trans fun env d => abortRestore_kept env m d)
  | swap r =>
    have hs : d.Swapped r X := h.of_always .trans fun env d => swapRestore_swapped env r d
    rcases hs.manifest with same | ⟨s, m, hst, hm, hi, hv⟩
    · exact .inl ⟨same, fun m i _ hi => hs.versions _ i hi⟩
    · exact .inr ⟨s, m, rfl, hst, hm, hi, hv⟩

/-- FinalizeRestore and AbortRestore. -/
def cleans : RestoreCall → Bool
  | .prepare _ | .swap _ => false
  | .finalize _ | .abort _ => true

theorem cleans_kept {q : RestoreCall} (hq : q.cleans = true) (env : Env)
    (φ : List Fate) (d : Disk) :
    d.Kept q.mutation.workspaceID ((q.prog env).exec φ d).2 := by
  have stop : ∀ {p : Op Receipt} {P : Disk → Prop}, Always P p d → P (p.exec φ d).2 := fun h => by
    have hx := wp_exec h φ
    revert hx
    rcases exec _ φ d with ⟨_ | _, X⟩ <;> exact id
  cases q with
  | prepare | swap => cases hq
  | finalize m => exact stop (finalizeRestore_kept env m d)
  | abort m => exact stop (abortRestore_kept env m d)

end RestoreCall

/-- From any state a history leaves, a restore operation cut any number of times
    leaves the old or the restored image selected, and run again to its end
    converges to the uncut run; its answer is only lost when the record it is
    read from was unlinked before the cut, of FinalizeRestore only without the
    receipt of SwapRestore.  Cleaning up never touches the selected image. -/
theorem restore_converges (hist : List (Call × Moment)) (q : RestoreCall) (X : Disk)
    (env env' : Env) (hcut : q.Interrupted (Store.init.after hist).disk X)
    (hh : env.held q.mutation.workspaceID = false)
    (hh' : env'.held q.mutation.workspaceID = false) :
    q.Selects (Store.init.after hist).disk X ∧
    Converged (q.prog env) (q.prog env') q.forgotten (Store.init.after hist).disk X ∧
    (q.cleans = true → ∀ env φ d, Disk.Kept q.mutation.workspaceID d ((q.prog env).exec φ d).2) :=
  ⟨hcut.selects, hcut.converged ⟨Store.rooted_after hist, Store.evident_after hist⟩ hh hh',
    RestoreCall.cleans_kept⟩

/-- A prepared restore. -/
def preparedHistory : List (Call × Moment) :=
  [(.create { Mutation.plain "w" "a" with capacityBytes := minimumExt4Bytes }, .calm),
    (.createSnapshot { Mutation.plain "w" "b" with snapshotID := "s", expectedGeneration := 1 },
    .calm), (.prepareRestore { Mutation.plain "w" "r" with
      snapshotID := "s", expectedGeneration := 1, nextGeneration := 2 }, .calm)]

/-- The disk after AbortRestore was cut with its staged record unlinked. -/
def abortedDisk : Disk :=
  ((abortRestore (Store.init.env .calm) (.plain "w" "r")).exec [.ok, .ok, .crash]
    (Store.init.after preparedHistory).disk).2

theorem restore_converges_preparedHistory :
    (((RestoreCall.abort (.plain "w" "r")).prog (Store.init.env .calm)).run abortedDisk).2.images =
      (((RestoreCall.abort (.plain "w" "r")).prog (Store.init.env .calm)).run
        (Store.init.after preparedHistory).disk).2.images :=
  (restore_converges preparedHistory (.abort (.plain "w" "r")) abortedDisk (Store.init.env .calm)
    (Store.init.env .calm) (.single ⟨_, [.ok, .ok, .crash], Prod.ext rfl rfl⟩) rfl rfl).2.1.images

/-- The restore is swapped, but SwapRestore was cut before it recorded its receipt. -/
def unrecordedHistory : List (Call × Moment) :=
  preparedHistory ++ [(.swapRestore { Mutation.plain "w" "r" with
      snapshotID := "s", expectedGeneration := 1, nextGeneration := 2 },
    { Moment.calm with fates := List.replicate 12 .ok ++ [.crash] })]

/-- The disk after FinalizeRestore was then cut with its rollback record unlinked. -/
def finalizedDisk : Disk :=
  ((finalizeRestore (Store.init.env .calm) (.plain "w" "r")).exec [.ok, .ok, .ok, .ok, .crash]
    (Store.init.after unrecordedHistory).disk).2

/-- Cut there, AbortRestore answers with an empty receipt where the uncut run
    names the Snapshot; so does the uncut FinalizeRestore, which fails once cut. -/
theorem restore_answers_lost :
    (((abortRestore (Store.init.env .calm) (.plain "w" "r")).exec [.ok, .ok, .crash]
      (Store.init.after preparedHistory).disk).1 = .crashed ∧
    ((abortRestore (Store.init.env .calm) (.plain "w" "r")).run (Store.init.after preparedHistory).disk).1.map
      Receipt.snapshotID = .ok "s" ∧
    ((abortRestore (Store.init.env .calm) (.plain "w" "r")).run abortedDisk).1.map
    Receipt.snapshotID = .ok "") ∧
    ((finalizeRestore (Store.init.env .calm) (.plain "w" "r")).exec [.ok, .ok, .ok, .ok, .crash]
      (Store.init.after unrecordedHistory).disk).1 = .crashed ∧
    ((finalizeRestore (Store.init.env .calm) (.plain "w" "r")).run (Store.init.after unrecordedHistory).disk).1.map
      Receipt.snapshotID = .ok "s" ∧
    ((finalizeRestore (Store.init.env .calm) (.plain "w" "r")).run finalizedDisk).1.map
      Receipt.snapshotID = .error (.corruptState "restore swap receipt is absent") := by
  refine ⟨⟨rfl, by decide, by decide⟩, rfl, by decide, by decide⟩

end SecondBox.WorkspaceStore

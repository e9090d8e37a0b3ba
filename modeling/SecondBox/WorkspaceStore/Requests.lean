/-
  The mutations of the store, and how they are answered.

  Every mutation is checked, looked up among the receipts, and only then applied.
  `Request.answer` says how a request is answered when it is not applied: by the
  error of a check, or by its receipt.  Two requests look at the Workspace once
  more before they hand the receipt out (`Request.recheck`): an export must still
  find its seal and the lock free, an import the image it imported.
  `Request.issue_settles`: such an answer takes no step.
-/
import SecondBox.WorkspaceStore.Handles

namespace SecondBox.WorkspaceStore

open Crash Crash.Prog

/-! ## Requests -/

/-- The mutations of the store.  An import is begun, streamed and completed. -/
inductive Request where
  | create (r : CreateWorkspaceRequest)
  | cloneFromSnapshot (r : CloneWorkspaceRequest)
  | advanceGeneration (r : AdvanceGenerationRequest)
  | createSnapshot (r : CreateSnapshotRequest)
  | deleteSnapshot (r : DeleteSnapshotRequest)
  | prepareRestore (r : PrepareRestoreRequest)
  | swapRestore (r : SwapRestoreRequest)
  | finalizeRestore (m : RestoreMutation)
  | abortRestore (m : RestoreMutation)
  | deleteWorkspace (r : DeleteWorkspaceRequest)
  | openRelocationExport (r : RelocationExportRequest)
  | abortRelocation (r : RelocationExportRequest)
  | relocationImport (r : RelocationImportRequest)

namespace Request

/-- The kind of its receipt. -/
def kind : Request → ReceiptKind
  | .create _ => .workspaceCreate
  | .cloneFromSnapshot _ => .workspaceClone
  | .advanceGeneration _ => .generationAdvance
  | .createSnapshot _ => .snapshotCreate
  | .deleteSnapshot _ => .snapshotDelete
  | .prepareRestore _ => .restorePrepare
  | .swapRestore _ => .restoreSwap
  | .finalizeRestore _ => .restoreFinalize
  | .abortRestore _ => .restoreAbort
  | .deleteWorkspace _ => .workspaceDelete
  | .openRelocationExport _ => .relocationExport
  | .abortRelocation _ => .relocationAbort
  | .relocationImport _ => .relocationImport

/-- The common part. -/
def mutation : Request → Mutation
  | .create r => r.toMutation
  | .cloneFromSnapshot r => r.toMutation
  | .advanceGeneration r => r.toMutation
  | .createSnapshot r => r.toMutation
  | .deleteSnapshot r => r.toMutation
  | .prepareRestore r => r.toMutation
  | .swapRestore r => r.toMutation
  | .finalizeRestore m => m
  | .abortRestore m => m
  | .deleteWorkspace r => r.toMutation
  | .openRelocationExport r => r.toMutation
  | .abortRelocation r => r.toMutation
  | .relocationImport r => r.toMutation

/-- The request as digested. -/
def json : Request → Json
  | .create r => r.json
  | .cloneFromSnapshot r => r.json
  | .advanceGeneration r => r.json
  | .createSnapshot r => r.json
  | .deleteSnapshot r => r.json
  | .prepareRestore r => r.json
  | .swapRestore r => r.json
  | .finalizeRestore m => m.json
  | .abortRestore m => m.json
  | .deleteWorkspace r => r.json
  | .openRelocationExport r => r.json
  | .abortRelocation r => r.json
  | .relocationImport r => r.json

/-- Its digest. -/
def digest (q : Request) : Digest := ⟨q.mutation.fencingToken, q.json⟩

/-- What a request is checked for before its mutation. -/
def static : Request → Except StoreErr Unit
  | .create r => if minimumExt4Bytes ≤ r.capacityBytes then .ok () else .error .capacityTooSmall
  | .cloneFromSnapshot r =>
    if minimumExt4Bytes ≤ r.capacityBytes then
      validateID r.sourceSnapshot else .error .capacityTooSmall
  | .advanceGeneration r =>
    if r.nextGeneration = r.expectedGeneration + 1 then .ok () else .error .staleGeneration
  | .createSnapshot r => validateID r.snapshotID
  | .deleteSnapshot r => validateID r.snapshotID
  | .prepareRestore r | .swapRestore r => validateRestoreRequest r
  | .relocationImport r =>
    if r.generation ≠ 0 ∧ legacyMinimumExt4Bytes ≤ r.capacityBytes then .ok ()
    else .error .storageIncompatible
  | _ => .ok ()

/-- Issuing a request.  The receipt of an import is the one its handle carries:
    `none` while the import is under way. -/
def issue (env : Env) : Request → Op (Option Receipt)
  | .create r => do pure (some (← WorkspaceStore.create env r))
  | .cloneFromSnapshot r => do pure (some (← WorkspaceStore.cloneFromSnapshot env r))
  | .advanceGeneration r => do pure (some (← WorkspaceStore.advanceGeneration env r))
  | .createSnapshot r => do pure (some (← WorkspaceStore.createSnapshot env r))
  | .deleteSnapshot r => do pure (some (← WorkspaceStore.deleteSnapshot env r))
  | .prepareRestore r => do pure (some (← WorkspaceStore.prepareRestore env r))
  | .swapRestore r => do pure (some (← WorkspaceStore.swapRestore env r))
  | .finalizeRestore m => do pure (some (← WorkspaceStore.finalizeRestore env m))
  | .abortRestore m => do pure (some (← WorkspaceStore.abortRestore env m))
  | .deleteWorkspace r => do pure (some (← WorkspaceStore.deleteWorkspace env r))
  | .openRelocationExport r => do pure (some (← WorkspaceStore.openRelocationExport env r))
  | .abortRelocation r => do pure (some (← WorkspaceStore.abortRelocation env r))
  | .relocationImport r => do pure (← beginRelocationImport env r).receipt

/-- The check an export passes before its reader is returned. -/
def exportStillSealed (env : Env) (r : RelocationExportRequest) (d : Disk) : Except StoreErr Unit :=
  if env.held r.workspaceID = false then
    match readCurrentManifest r.workspaceID d with
    | .error e => .error e
    | .ok m =>
      if m.generation = r.expectedGeneration ∧ m.relocationSealed = true then
        validateImage r.workspaceID m.image m.capacityBytes d
      else .error .staleGeneration
  else .error .activeWriter

/-- What a request whose receipt was found still checks. -/
def recheck (env : Env) (d : Disk) : Request → Except StoreErr Unit
  | .openRelocationExport r => exportStillSealed env r d
  | .relocationImport r => importStillCurrent r d
  | _ => .ok ()

end Request

/-! ## Answers -/

section
variable {env : Env} {d : Disk}

variable {m : Mutation}

theorem validateMutation_ok (h : validateMutation m = .ok ()) :
    validateID m.operationID = .ok () ∧ validateID m.workspaceID = .ok () ∧
      32 ≤ m.fencingToken.length := by
  unfold validateMutation at h
  cases ho : validateID m.operationID with
  | error e => rw [ho] at h; cases h
  | ok u =>
    cases hw : validateID m.workspaceID with
    | error e => rw [ho, hw] at h; cases h
    | ok u =>
      rw [ho, hw] at h
      refine ⟨rfl, rfl, ?_⟩
      change (if m.fencingToken.length < 32 then Except.error StoreErr.staleFence else .ok ()) =
        .ok () at h
      split at h
      · cases h
      · omega

theorem inputDigest_ok (h : validateMutation m = .ok ()) (request : Json) :
    inputDigest request m.fencingToken = .ok ⟨m.fencingToken, request⟩ := by
  simp [inputDigest, Nat.not_lt.2 (validateMutation_ok h).2.2]

/-- How `mutate` answers without applying its body. -/
def mutateAnswer (request : Json) (m : Mutation) (kind : ReceiptKind) (d : Disk) :
    Option (Except StoreErr Receipt) :=
  match validateMutation m with
  | .error e => some (.error e)
  | .ok () =>
    match loadReceipt m ⟨m.fencingToken, request⟩ kind d with
    | .error e => some (.error e)
    | .ok none => none
    | .ok (some receipt) => some (.ok receipt)

variable {request : Json} {kind : ReceiptKind}

theorem mutate_settles {apply : Op Receipt} {a : Except StoreErr Receipt}
    (h : mutateAnswer request m kind d = some a) :
    (mutate env request m kind apply).Settles d a := by
  unfold mutateAnswer at h
  split at h
  · cases h
    exact .bind_error (.reading_error (by assumption))
  · rename_i hv
    refine .bind (.reading_ok hv) (.bind (.reading_ok (inputDigest_ok hv request)) ?_)
    split at h
    · cases h
      exact .bind_error (.reading_error (by assumption))
    · cases h
    · rename_i receipt hl
      cases h
      exact .bind (.reading_ok hl) (.ret receipt)

theorem replay_settles {a : Except StoreErr Receipt} (h : mutateAnswer request m kind d = some a) :
    (replay request m kind).Settles d (a.map some) := by
  unfold mutateAnswer at h
  split at h
  · cases h
    exact .bind_error (.reading_error (by assumption))
  · rename_i hv
    refine .bind (.reading_ok hv) (.bind (.reading_ok (inputDigest_ok hv request)) ?_)
    split at h
    · cases h
      exact .reading_error (by assumption)
    · cases h
    · cases h
      exact .reading_ok (by assumption)

/-- A static check, the answer of the mutation behind it, and the check after it. -/
def answerOf (static : Except StoreErr Unit) (found : Option (Except StoreErr Receipt))
    (recheck : Except StoreErr Unit) : Option (Except StoreErr (Option Receipt)) :=
  match static with
  | .error e => some (.error e)
  | .ok () => found.map fun
    | .error e => .error e
    | .ok receipt => recheck.map fun _ => some receipt

/-- How a request is answered without being applied. -/
def Request.answer (env : Env) (d : Disk) (q : Request) :
    Option (Except StoreErr (Option Receipt)) :=
  answerOf q.static (mutateAnswer q.json q.mutation q.kind d) (q.recheck env d)

variable {p : Op Receipt} {found : Option (Except StoreErr Receipt)}
  {a : Except StoreErr (Option Receipt)}

theorem settles_mutation (hp : ∀ {x}, found = some x → p.Settles d x)
    (h : answerOf (.ok ()) found (.ok ()) = some a) :
    (p.bind fun receipt => ret (some receipt)).Settles d a := by
  obtain ⟨x, hx, rfl⟩ := Option.map_eq_some_iff.1 h
  cases x with
  | error e => exact .bind_error (hp hx)
  | ok receipt => exact .bind (hp hx) (.ret _)

theorem settles_guarded {g : Op Unit} {static : Except StoreErr Unit}
    (hg : g.Settles d static) (hp : ∀ {x}, found = some x → p.Settles d x)
    (h : answerOf static found (.ok ()) = some a) :
    ((g.bind fun _ => p).bind fun receipt => ret (some receipt)).Settles d a := by
  cases static with
  | error e =>
    cases h
    exact .bind_error (.bind_error hg)
  | ok _ => exact settles_mutation (fun hx => .bind hg (hp hx)) h

/-- Create and Clone look for their receipt before they mutate. -/
theorem settles_replayed {replayed : Op (Option Receipt)}
    {static : Except StoreErr Unit} (he : ∀ e, static = .error e → replayed.Settles d (.error e))
    (hp : static = .ok () → ∀ {x}, found = some x → replayed.Settles d (x.map some))
    (h : answerOf static found (.ok ()) = some a) :
    ((replayed.bind fun
      | some receipt => ret receipt
      | none => p).bind fun receipt => ret (some receipt)).Settles d a := by
  cases static with
  | error e =>
    cases h
    exact .bind_error (.bind_error (he e rfl))
  | ok _ =>
    refine settles_mutation (fun {x} hx => ?_) h
    cases x with
    | error e => exact .bind_error (hp rfl hx)
    | ok receipt => exact .bind (hp rfl hx) (.ret receipt)

theorem replayCreate_settles (r : CreateWorkspaceRequest)
    (h : (Request.create r).answer env d = some a) :
    (Request.issue env (.create r)).Settles d a := by
  refine settles_replayed (fun e he => ?_) (fun hs {x} hx => ?_) h
  · have hc : ¬ minimumExt4Bytes ≤ r.capacityBytes := fun hc => by simp [Request.static, hc] at he
    simp only [Request.static, hc, if_false, Except.error.injEq] at he
    exact he ▸ .bind_error (.require_error hc)
  · have hc : minimumExt4Bytes ≤ r.capacityBytes := by
      by_contra hc
      simp [Request.static, hc] at hs
    exact .bind (.require_ok hc) (replay_settles hx)

theorem replayClone_settles (r : CloneWorkspaceRequest)
    (h : (Request.cloneFromSnapshot r).answer env d = some a) :
    (Request.issue env (.cloneFromSnapshot r)).Settles d a := by
  refine settles_replayed (fun e he => ?_) (fun hs {x} hx => ?_) h
  · by_cases hc : minimumExt4Bytes ≤ r.capacityBytes
    · simp only [Request.static, hc, if_true] at he
      exact .bind (.require_ok hc) (.bind_error (.reading_error he))
    · simp only [Request.static, hc, if_false, Except.error.injEq] at he
      exact he ▸ .bind_error (.require_error hc)
  · by_cases hc : minimumExt4Bytes ≤ r.capacityBytes
    · simp only [Request.static, hc, if_true] at hs
      exact .bind (.require_ok hc) (.bind (.reading_ok hs) (replay_settles hx))
    · simp [Request.static, hc] at hs

/-- The check after the receipt of an export. -/
theorem exportTail_settles (env : Env) (d : Disk) (r : RelocationExportRequest) (receipt : Receipt)
    (hw : validateID r.workspaceID = .ok ()) :
    Settles d (do
      lockWorkspace env r.workspaceID
      let m ← reading (readCurrentManifest r.workspaceID)
      require (m.generation = r.expectedGeneration ∧ m.relocationSealed = true) .staleGeneration
      reading (validateImage r.workspaceID m.image m.capacityBytes)
      pure receipt : Op Receipt) ((Request.exportStillSealed env r d).map fun _ => receipt) := by
  unfold Request.exportStillSealed
  by_cases hh : env.held r.workspaceID = false
  · rw [if_pos hh]
    refine .bind (.bind (.reading_ok hw) (.require_ok hh)) ?_
    cases hm : readCurrentManifest r.workspaceID d with
    | error e => exact .bind_error (.reading_error hm)
    | ok m =>
      refine .bind (.reading_ok hm) ?_
      dsimp only
      by_cases hc : m.generation = r.expectedGeneration ∧ m.relocationSealed = true
      · rw [if_pos hc]
        refine .bind (.require_ok hc) ?_
        cases hv : validateImage r.workspaceID m.image m.capacityBytes d with
        | error e => exact .bind_error (.reading_error hv)
        | ok _ => exact .bind (.reading_ok hv) (.ret receipt)
      · rw [if_neg hc]
        exact .bind_error (.require_error hc)
  · rw [if_neg hh]
    exact .bind_error (.bind (.reading_ok hw) (.require_error hh))

theorem mutateAnswer_ok {receipt : Receipt}
    (h : mutateAnswer request m kind d = some (.ok receipt)) :
    validateMutation m = .ok () ∧ loadReceipt m ⟨m.fencingToken, request⟩ kind d =
      .ok (some receipt) := by
  unfold mutateAnswer at h
  split at h
  · cases h
  · rename_i hv
    split at h
    · cases h
    · cases h
    · cases h
      exact ⟨hv, by assumption⟩

theorem mutateAnswer_congr (request : Json) {d' : Disk}
    (h : d'.receipts.lookup (m.workspaceID, m.operationID, kind) =
      d.receipts.lookup (m.workspaceID, m.operationID, kind)) :
    mutateAnswer request m kind d' = mutateAnswer request m kind d := by
  simp only [mutateAnswer, loadReceipt, loadAnyReceipt, h]

theorem export_settles (r : RelocationExportRequest)
    (h : (Request.openRelocationExport r).answer env d = some a) :
    (Request.issue env (.openRelocationExport r)).Settles d a := by
  obtain ⟨x, hx, rfl⟩ := Option.map_eq_some_iff.1 h
  cases x with
  | error e => exact .bind_error (.bind_error (mutate_settles hx))
  | ok receipt =>
    have htail := exportTail_settles env d r receipt
      (validateMutation_ok (mutateAnswer_ok hx).1).2.1
    have hall : (openRelocationExport env r).Settles d
        ((Request.exportStillSealed env r d).map fun _ => receipt) :=
          .bind (mutate_settles hx) htail
    simp only [Request.recheck]
    cases hs : Request.exportStillSealed env r d with
    | error e =>
      rw [hs] at hall
      exact .bind_error hall
    | ok _ =>
      rw [hs] at hall
      exact .bind hall (.ret _)

theorem import_settles (r : RelocationImportRequest)
    (h : (Request.relocationImport r).answer env d = some a) :
    (Request.issue env (.relocationImport r)).Settles d a := by
  unfold Request.answer at h
  by_cases hc : r.generation ≠ 0 ∧ legacyMinimumExt4Bytes ≤ r.capacityBytes
  · rw [show (Request.relocationImport r).static = .ok () from if_pos hc] at h
    obtain ⟨x, hx, rfl⟩ := Option.map_eq_some_iff.1 h
    unfold mutateAnswer at hx
    split at hx
    · cases hx
      exact .bind_error (.bind (.require_ok hc) (.bind_error (.reading_error (by assumption))))
    · rename_i hv
      have hd := inputDigest_ok hv r.json
      split at hx
      · cases hx
        exact .bind_error (.bind (.require_ok hc) (.bind (.reading_ok hv) (.bind (.reading_ok hd)
          (.bind_error (.reading_error (by assumption))))))
      · cases hx
      · rename_i receipt hl
        cases hx
        simp only [Request.recheck]
        cases hi : importStillCurrent r d with
        | error e =>
          exact .bind_error (.bind (.require_ok hc) (.bind (.reading_ok hv) (.bind (.reading_ok hd)
            (.bind (.reading_ok hl) (.bind_error (.reading_error hi))))))
        | ok _ =>
          exact .bind (.bind (.require_ok hc) (.bind (.reading_ok hv) (.bind (.reading_ok hd)
            (.bind (.reading_ok hl) (.bind (.reading_ok hi) (.ret _)))))) (.ret _)
  · rw [show (Request.relocationImport r).static = .error .storageIncompatible from if_neg hc] at h
    cases h
    exact .bind_error (.bind_error (.require_error hc))

theorem Request.issue_settles {q : Request} (h : q.answer env d = some a) :
    (q.issue env).Settles d a := by
  cases q with
  | create r => exact replayCreate_settles r h
  | cloneFromSnapshot r => exact replayClone_settles r h
  | advanceGeneration r => exact settles_guarded (.require _ _) mutate_settles h
  | createSnapshot | deleteSnapshot | prepareRestore | swapRestore =>
    exact settles_guarded (.reading _) mutate_settles h
  | finalizeRestore | abortRestore | deleteWorkspace | abortRelocation =>
    exact settles_mutation mutate_settles h
  | openRelocationExport r => exact export_settles r h
  | relocationImport r => exact import_settles r h

end

end SecondBox.WorkspaceStore

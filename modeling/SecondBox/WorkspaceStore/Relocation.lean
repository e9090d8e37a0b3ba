/-
  Relocation of a Workspace between Runners: the sealed export of the source and
  the staged import of the target (runner/internal/workspacestore/relocation.go).

  An import is a handle that outlives the call that opened it: it holds the
  writer lock, the open staging file and the stream hashed so far.  `complete`
  and `abort` return the handle as the source leaves it, also when they fail.
-/
import SecondBox.WorkspaceStore.Ops

namespace SecondBox.WorkspaceStore

open Crash Crash.Prog

/-! ## Export -/

/-- The body of `OpenRelocationExport`. -/
def exportApply (r : RelocationExportRequest) : Op Receipt := do
  let m ← reading (readCurrentManifest r.workspaceID)
  require (m.generation = r.expectedGeneration) .staleGeneration
  let pending ← reading (restorePending r.workspaceID)
  require (pending = false) .restorePending
  publishCurrentManifest r.workspaceID { m with relocationSealed := true }
  pure { generation := m.generation, capacityBytes := m.capacityBytes }

/-- `OpenRelocationExport` up to the returned reader, which holds the writer lock. -/
def openRelocationExport (env : Env) (r : RelocationExportRequest) : Op Receipt := do
  let receipt ← mutate env r.json r.toMutation .relocationExport (exportApply r)
  lockWorkspace env r.workspaceID
  let m ← reading (readCurrentManifest r.workspaceID)
  require (m.generation = r.expectedGeneration ∧ m.relocationSealed = true) .staleGeneration
  reading (validateImage r.workspaceID m.image m.capacityBytes)
  pure receipt

/-- The body of `AbortRelocation`. -/
def abortRelocationApply (r : RelocationExportRequest) : Op Receipt := do
  let m ← reading (readCurrentManifest r.workspaceID)
  require (m.generation = r.expectedGeneration) .staleGeneration
  publishCurrentManifest r.workspaceID { m with relocationSealed := false }
  pure { generation := m.generation, capacityBytes := m.capacityBytes }

/-- `AbortRelocation`. -/
def abortRelocation (env : Env) (r : RelocationExportRequest) : Op Receipt :=
  mutate env r.json r.toMutation .relocationAbort (abortRelocationApply r)

/-! ## Import -/

/-- `relocationImport`. -/
structure RelocationImport where
  request : RelocationImportRequest
  digest : Digest
  fileOpen : Bool
  locked : Bool
  hash : Checksum
  written : Nat
  /-- present once the import is committed -/
  receipt : Option Receipt
  created : Bool

variable (r : RelocationImportRequest)

/-- The image a committed import selects. -/
def RelocationImportRequest.image : ImageName :=
  generationImageName r.generation (.relocation r.operationID)

/-- The staging file of an import. -/
def RelocationImportRequest.staging : ImageFile :=
  .relocation r.workspaceID r.operationID

/-- The check a committed import passes before its receipt is replayed. -/
def importStillCurrent (d : Disk) : Except StoreErr Unit :=
  match readCurrentManifest r.workspaceID d with
  | .error _ => .error (.corruptState "relocation import receipt lacks its image")
  | .ok m =>
    if m.generation ≠ r.generation ∨ m.capacityBytes ≠ r.capacityBytes ∨ m.relocationSealed then
      .error (.corruptState "relocation import receipt lacks its image")
    else validateImage r.workspaceID m.image r.capacityBytes d

/-- The image file `O_EXCL` creates, the template it is cloned from, and the
    zeroes left by `ResetSparse`. -/
def blankImage (capacity : Int) : Image :=
  { size := capacity, ext4 := false, uuid := .other 0, mode := writableImageMode, data := 0 }

/-- The fresh staging file of an import. -/
def stageImport : Op Unit := do
  removeExactFile (.image r.staging)
  ensureTemplate r.capacityBytes
  sys .io (Disk.setImage r.staging (blankImage 0))
  onError (do
      sys .storageIncompatible (Disk.setImage r.staging {
        size := r.capacityBytes, ext4 := true, uuid := deterministicTemplateUUID r.capacityBytes,
        mode := writableImageMode, data := 0 })
      sys .storageIncompatible (Disk.setImage r.staging (blankImage r.capacityBytes)))
    (removeExactFile (.image r.staging))

/-- `BeginRelocationImport`. -/
def beginRelocationImport (env : Env) (r : RelocationImportRequest) : Op RelocationImport := do
  require (r.generation ≠ 0 ∧ legacyMinimumExt4Bytes ≤ r.capacityBytes) .storageIncompatible
  reading fun _ => validateMutation r.toMutation
  let digest ← reading fun _ => inputDigest r.json r.fencingToken
  match ← reading (loadReceipt r.toMutation digest .relocationImport) with
  | some receipt =>
    reading (importStillCurrent r)
    pure ⟨r, digest, false, false, [], 0, some receipt, false⟩
  | none =>
    lockWorkspace env r.workspaceID
    match ← asking (readCurrentManifest r.workspaceID) with
    | .ok m =>
      -- a manifest this import published before it could record its receipt
      require (m.image = r.image ∧ m.generation = r.generation ∧ m.capacityBytes = r.capacityBytes)
        .conflictingReplay
      removeWorkspaceTree r.workspaceID
      stageImport r
      pure ⟨r, digest, true, true, [], 0, none, false⟩
    | .error .workspaceNotFound =>
      stageImport r
      pure ⟨r, digest, true, true, [], 0, none, false⟩
    | .error e => fail e

/-- The staging file after a chunk was written to it. -/
def Image.write (i : Image) (c : Chunk) : Image :=
  match c.superblock with
  | some (ext4, uuid) => { i with ext4 := ext4, uuid := uuid, data := i.data + c.data }
  | none => { i with data := i.data + c.data }

/-- `WriteChunk`. -/
def writeChunk (h : RelocationImport) (offset : Nat) (c : Chunk) : Op RelocationImport := do
  require (h.fileOpen = true ∧ offset = h.written ∧ c.length ≠ 0) .conflictingReplay
  require ((h.written + c.length : Int) ≤ h.request.capacityBytes) .storageIncompatible
  match ← asking fun d => d.images.lookup h.request.staging with
  | none => fail .io
  | some i =>
    sys .io (Disk.setImage h.request.staging (i.write c))
    pure { h with hash := h.hash ++ [c], written := h.written + c.length }

/-- `cleanupStaging`. -/
def cleanupStaging (h : RelocationImport) : Op Unit := do
  removeExactFile (.image h.request.staging)
  sync

/-- The manifest of an imported Workspace. -/
def RelocationImportRequest.manifest : CurrentManifest where
  formatVersion := currentManifestFormatVersion
  workspaceID := r.workspaceID
  generation := r.generation
  image := r.image
  capacityBytes := r.capacityBytes
  relocationSealed := false

/-- The part of `Complete` from the Workspace layout to the durable receipt. -/
def publishImport (env : Env) (h : RelocationImport) : Op Receipt := do
  let r := h.request
  ensureWorkspaceLayout r.workspaceID
  match ← asking fun d => d.images.lookup r.staging with
  | none => fail .notExist
  | some i =>
    sys .io fun d => (d.removeImage r.staging).setImage (.version r.workspaceID r.image) i
    sync
    publishCurrentManifest r.workspaceID r.manifest
    recordReceipt env {
      kind := .relocationImport, operationID := r.operationID, workspaceID := r.workspaceID,
      inputDigest := h.digest, generation := r.generation, capacityBytes := r.capacityBytes,
      checksum := some h.hash }

/-- `Complete`. -/
def complete (env : Env) (h : RelocationImport) (size : Nat) (checksum : Checksum) :
    Op (RelocationImport × Except StoreErr Receipt) :=
  match h.receipt with
  | some receipt => pure (h, .ok receipt)
  | none =>
    if h.fileOpen = false ∨ size ≠ h.written ∨ (size : Int) ≠ h.request.capacityBytes then
      pure (h, .error .storageIncompatible)
    else if checksum ≠ h.hash then
      pure (h, .error (.corruptState "relocation checksum mismatch"))
    else do
      match ← attempt sync with -- truncate, compact, fsync, close
      | .error e => pure (h, .error e)
      | .ok () =>
        match ← asking (validateExt4ImageUUID h.request.staging h.request.capacityBytes
            (deterministicUUID h.request.workspaceID)) with
        | .error e => pure ({ h with fileOpen := false }, .error e)
        | .ok () =>
          match ← attempt (publishImport env h) with
          | .error e => pure ({ h with fileOpen := false, created := true }, .error e)
          | .ok receipt =>
            let cleaned ← attempt (cleanupStaging h)
            pure ({ h with fileOpen := false, created := true, locked := false,
                           receipt := some receipt }, cleaned.map fun _ => receipt)

/-- `Abort`. -/
def abort (h : RelocationImport) : Op (RelocationImport × Except StoreErr Unit) :=
  if h.receipt.isSome then pure (h, .ok ()) else do
    let removed ← attempt (do
      if h.created then
        removeWorkspaceTree h.request.workspaceID
        sync
      else pure ())
    let cleaned ← attempt (cleanupStaging h)
    pure ({ h with fileOpen := false, created := false, locked := false },
      match removed with
      | .error e => .error e
      | .ok () => cleaned)

end SecondBox.WorkspaceStore

/-
  The WorkspaceStore operations on the current disk, as crash-interruptible
  programs (runner/internal/workspacestore/store.go).

  Each filesystem call that changes the tree is one step; a call that only makes
  earlier ones durable (fsync, chmod, truncate of a temporary file) is a step
  that changes nothing but can fail, which is where the source's error paths
  differ.  Operations of one sequence run one after the other, so the writer
  locks an operation sees are those of the handles open when it starts.
-/
import SecondBox.Base.Prog
import SecondBox.WorkspaceStore.Disk

namespace SecondBox.WorkspaceStore

open Crash Crash.Prog

/-- An operation on the disk. -/
abbrev Op := Prog Disk StoreErr

/-- What an operation sees besides the disk: the clock, which never reads the
    zero time, and the writer locks held through open handles. -/
structure Env where
  now : Nat
  now_pos : 0 < now
  held : ID → Bool

/-! ## Filesystem calls -/

/-- A call that makes earlier ones durable, or prepares a temporary file. -/
def sync : Op Unit := sys .io id

/-- The directory exists. -/
def requireDir (p : Dir) : Op Unit := do
  let present ← asking fun d => decide (p ∈ d.dirs)
  require (present = true) .notExist

/-- `syncDir` of a directory that may be absent. -/
def syncDir (p : Dir) : Op Unit := do
  requireDir p
  sync

/-- `os.Mkdir` and `os.MkdirAll`: an existing directory is no error. -/
def mkdir (p : Dir) : Op Unit := sys .io (Disk.addDir p)

/-- `removeExactFile`: an absent file is no error. -/
def removeExactFile (f : File) : Op Unit := sys .io (Disk.removeFile f)

/-- The directory above. -/
def Dir.parent : Dir → Option Dir
  | .part w _ => some (.workspace w)
  | .workspace _ | .snapshot _ => none

/-- The directory is empty. -/
def Disk.isEmptyDir (d : Disk) (p : Dir) : Bool :=
  d.files.all (fun f => f.dir ≠ some p) && d.dirs.all fun q => q.parent ≠ some p

/-- `os.Remove` of a directory that is present: it must be empty. -/
def removePresentDir (p : Dir) : Op Unit := do
  let empty ← asking fun d => d.isEmptyDir p
  require (empty = true) .io
  sys .io (Disk.removeDir p)

/-- `os.Remove` of a directory; `os.ErrNotExist` is ignored. -/
def removeDir (p : Dir) : Op Unit := do
  let present ← asking fun d => decide (p ∈ d.dirs)
  if present then removePresentDir p else pure ()

/-- The number `os.CreateTemp` gives a new temporary file: one not in use. -/
def Disk.freshTmp (target : Record) (d : Disk) : Nat :=
  ((List.range (d.temps.length + 1)).find? fun n => Temp.json target n ∉ d.temps).getD 0

/-- The record's directory exists. -/
def requireRecordDir (target : Record) : Op Unit :=
  match target.dir with
  | none => pure ()
  | some p => requireDir p

/-- `atomicJSON`: write a temporary file, rename it over the target, fsync the
    directory; a failure before the rename removes the temporary file. -/
def atomicJSON (target : Record) (publish : Disk → Disk) : Op Unit := do
  requireRecordDir target
  let n ← asking (Disk.freshTmp target)
  sys .io (Disk.addTemp (.json target n))
  onError (do
      sync
      sys .io fun d => publish (d.removeTemp (.json target n)))
    (sys .io (Disk.removeTemp (.json target n)))
  sync

/-! ## Images -/

/-- `ensureTemplate`. -/
def ensureTemplate (capacity : Int) : Op Unit := do
  require (minimumExt4Bytes ≤ capacity) .capacityTooSmall
  match ← asking fun d => d.images.lookup (.template capacity) with
  | some _ => reading (validateExt4Template capacity)
  | none =>
    sys .io (Disk.removeTemp (.formatting capacity))
    sys .io (Disk.addTemp (.formatting capacity))
    sync -- truncate, format, chmod, fsync
    sys .io fun d => (d.removeTemp (.formatting capacity)).setImage (.template capacity)
      { size := capacity, ext4 := true, uuid := deterministicTemplateUUID capacity,
        mode := snapshotImageMode, data := 0 }
    sync
    reading (validateExt4Template capacity)

/-- The check of a clone. -/
def validateClone (final : ImageFile) (capacity : Int) (uuid : Option FsUUID) (d : Disk) :
    Except StoreErr Unit :=
  match uuid with
  | some u => validateExt4ImageUUID final capacity u d
  | none => validateExt4Image final capacity d

/-- The part of `cloneImage` after the target was found absent. -/
def publishClone (dir : Dir) (final : ImageFile) (mode : Nat) (operationID : ID)
    (uuid : Option FsUUID) (source : Image) : Op Unit := do
  sys .io (Disk.removeTemp (.reflinking dir operationID))
  requireDir dir
  sys .io (Disk.addTemp (.reflinking dir operationID))
  onError (do
      sys .storageIncompatible id -- FICLONE
      sync -- chmod, UUID rewrite, fsync
      sys .io fun d => (d.removeTemp (.reflinking dir operationID)).setImage final
        { source with mode := mode, uuid := uuid.getD source.uuid })
    (sys .io (Disk.removeTemp (.reflinking dir operationID)))
  sync

/-- `cloneImage`; `dir` is the directory of `final`. -/
def cloneImage (source : ImageFile) (dir : Dir) (final : ImageFile) (mode : Nat) (capacity : Int)
    (operationID : ID) (uuid : Option FsUUID) : Op Unit := do
  match ← asking fun d => d.images.lookup final with
  | some info =>
    require (info.size = capacity) .conflictingReplay
    reading (validateClone final capacity uuid)
  | none =>
    match ← asking fun d => d.images.lookup source with
    | none => fail .notExist
    | some i =>
      publishClone dir final mode operationID uuid i
      reading (validateClone final capacity uuid)

/-! ## Publishing records -/

/-- `ensureWorkspaceLayout`. -/
def ensureWorkspaceLayout (w : ID) : Op Unit := do
  mkdir (.workspace w)
  mkdir (.part w .versions)
  mkdir (.part w .manifest)
  mkdir (.part w .staged)
  mkdir (.part w .rollback)
  syncDir (.workspace w)

/-- `publishCurrentManifest`. -/
def publishCurrentManifest (w : ID) (m : CurrentManifest) : Op Unit := do
  require (m.formatVersion = currentManifestFormatVersion ∧ m.workspaceID = w ∧ 1 ≤ m.generation ∧
    legacyMinimumExt4Bytes ≤ m.capacityBytes) (.corruptState "invalid current manifest")
  atomicJSON (.current w) (Disk.setManifest w m)

/-- `recordReceipt`. -/
def recordReceipt (env : Env) (receipt : Receipt) : Op Receipt := do
  let receipt := { receipt with formatVersion := receiptFormatVersion, recordedAt := env.now }
  reading fun _ => validateReceipt receipt
  atomicJSON (.receipt receipt.workspaceID receipt.operationID receipt.kind)
    (Disk.setReceipt receipt.workspaceID receipt.operationID receipt.kind receipt)
  pure receipt

/-- `lockWorkspace`. -/
def lockWorkspace (env : Env) (w : ID) : Op Unit := do
  reading fun _ => validateID w
  require (env.held w = false) .activeWriter

/-- `mutate`: replay the receipt if there is one, else lock the Workspace, apply
    the operation and record its receipt.  The receipt directory prepared
    alongside `apply` is implied by the receipt. -/
def mutate (env : Env) (request : Json) (m : Mutation) (kind : ReceiptKind) (apply : Op Receipt) :
    Op Receipt := do
  reading fun _ => validateMutation m
  let digest ← reading fun _ => inputDigest request m.fencingToken
  match ← reading (loadReceipt m digest kind) with
  | some receipt => pure receipt
  | none =>
    lockWorkspace env m.workspaceID
    match ← reading (loadReceipt m digest kind) with
    | some receipt => pure receipt
    | none =>
      let receipt ← apply
      recordReceipt env { receipt with
        kind := kind, operationID := m.operationID, workspaceID := m.workspaceID,
        inputDigest := digest }

/-- `replay`. -/
def replay (request : Json) (m : Mutation) (kind : ReceiptKind) : Op (Option Receipt) := do
  reading fun _ => validateMutation m
  let digest ← reading fun _ => inputDigest request m.fencingToken
  reading (loadReceipt m digest kind)

/-! ## Creating Workspaces -/

/-- `ReplayCreate`. -/
def replayCreate (r : CreateWorkspaceRequest) : Op (Option Receipt) := do
  require (minimumExt4Bytes ≤ r.capacityBytes) .capacityTooSmall
  replay r.json r.toMutation .workspaceCreate

/-- The generation-one manifest of a new Workspace. -/
def firstManifest (w : ID) (image : ImageName) (capacity : Int) : CurrentManifest where
  formatVersion := currentManifestFormatVersion
  workspaceID := w
  generation := 1
  image := image
  capacityBytes := capacity
  relocationSealed := false

/-- The body of `Create`. -/
def createApply (r : CreateWorkspaceRequest) : Op Receipt := do
  ensureWorkspaceLayout r.workspaceID
  match ← asking (readCurrentManifest r.workspaceID) with
  | .ok m =>
    require (m.generation = 1 ∧ m.capacityBytes = r.capacityBytes) .conflictingReplay
    reading (validateImage r.workspaceID m.image r.capacityBytes)
    pure { generation := 1, capacityBytes := r.capacityBytes }
  | .error .workspaceNotFound =>
    let image := generationImageName 1 .create
    ensureTemplate r.capacityBytes
    cloneImage (.template r.capacityBytes) (.part r.workspaceID .versions)
      (.version r.workspaceID image) writableImageMode r.capacityBytes r.operationID
      (some (deterministicUUID r.workspaceID))
    publishCurrentManifest r.workspaceID (firstManifest r.workspaceID image r.capacityBytes)
    pure { generation := 1, capacityBytes := r.capacityBytes }
  | .error e => fail e

/-- `Create`. -/
def create (env : Env) (r : CreateWorkspaceRequest) : Op Receipt := do
  match ← replayCreate r with
  | some receipt => pure receipt
  | none => mutate env r.json r.toMutation .workspaceCreate (createApply r)

/-- `ReplayCloneFromSnapshot`. -/
def replayCloneFromSnapshot (r : CloneWorkspaceRequest) : Op (Option Receipt) := do
  require (minimumExt4Bytes ≤ r.capacityBytes) .capacityTooSmall
  reading fun _ => validateID r.sourceSnapshot
  replay r.json r.toMutation .workspaceClone

/-- The body of `CloneFromSnapshot`. -/
def cloneApply (r : CloneWorkspaceRequest) : Op Receipt := do
  let source ← reading (readSnapshotManifest r.sourceSnapshot)
  require (source.capacityBytes = r.capacityBytes) .storageIncompatible
  reading (validateExt4ImageUUID (.snapshot r.sourceSnapshot) r.capacityBytes
    (deterministicUUID source.workspaceID))
  ensureWorkspaceLayout r.workspaceID
  match ← asking (readCurrentManifest r.workspaceID) with
  | .ok m =>
    require (m.generation = 1 ∧ m.capacityBytes = r.capacityBytes) .conflictingReplay
    reading (validateImage r.workspaceID m.image r.capacityBytes)
    pure { snapshotID := r.sourceSnapshot, generation := 1, capacityBytes := r.capacityBytes }
  | .error .workspaceNotFound =>
    let image := generationImageName 1 .clone
    cloneImage (.snapshot r.sourceSnapshot) (.part r.workspaceID .versions)
      (.version r.workspaceID image) writableImageMode r.capacityBytes r.operationID
      (some (deterministicUUID r.workspaceID))
    publishCurrentManifest r.workspaceID (firstManifest r.workspaceID image r.capacityBytes)
    pure { snapshotID := r.sourceSnapshot, generation := 1, capacityBytes := r.capacityBytes }
  | .error e => fail e

/-- `CloneFromSnapshot`. -/
def cloneFromSnapshot (env : Env) (r : CloneWorkspaceRequest) : Op Receipt := do
  match ← replayCloneFromSnapshot r with
  | some receipt => pure receipt
  | none => mutate env r.json r.toMutation .workspaceClone (cloneApply r)

/-! ## Attaching and advancing -/

/-- `Open` up to the returned attachment, which holds the writer lock. -/
def openWorkspace (env : Env) (w : ID) (expectedGeneration : UInt64) : Op CurrentManifest := do
  reading fun _ => validateID w
  lockWorkspace env w
  let m ← reading (readCurrentManifest w)
  require (m.generation = expectedGeneration) .staleGeneration
  require (m.relocationSealed = false) .relocationSealed
  let pending ← asking (stagedRestorePending w)
  require (pending = false) .restorePending
  reading (validateImage w m.image m.capacityBytes)
  pure m

/-- `reclaimFreeBlocks`: punching freed blocks changes no data the store can
    tell; a sealed Workspace is left alone. -/
def reclaimFreeBlocks (w : ID) (m : CurrentManifest) : Op Unit := do
  if m.relocationSealed then pure () else
    match ← asking fun d => d.images.lookup (.version w m.image) with
    | none => fail .notExist
    | some i =>
      require (i.size = m.capacityBytes) (.corruptState "Workspace image size or type is invalid")
      sync

/-- The body of `AdvanceGeneration`. -/
def advanceApply (r : AdvanceGenerationRequest) : Op Receipt := do
  let m ← reading (readCurrentManifest r.workspaceID)
  let receipt : Receipt := {
    previousGeneration := r.expectedGeneration, generation := r.nextGeneration,
    capacityBytes := m.capacityBytes }
  if m.generation = r.nextGeneration then pure receipt else
    require (m.generation = r.expectedGeneration) .staleGeneration
    let pending ← asking (stagedRestorePending r.workspaceID)
    require (pending = false) .restorePending
    reclaimFreeBlocks r.workspaceID m
    publishCurrentManifest r.workspaceID { m with generation := r.nextGeneration }
    pure receipt

/-- `AdvanceGeneration`. -/
def advanceGeneration (env : Env) (r : AdvanceGenerationRequest) : Op Receipt := do
  require (r.nextGeneration = r.expectedGeneration + 1) .staleGeneration
  mutate env r.json r.toMutation .generationAdvance (advanceApply r)

/-! ## Snapshots -/

/-- The body of `CreateSnapshot`. -/
def createSnapshotApply (r : CreateSnapshotRequest) : Op Receipt := do
  let m ← reading (readCurrentManifest r.workspaceID)
  require (m.generation = r.expectedGeneration) .staleGeneration
  let pending ← asking (stagedRestorePending r.workspaceID)
  require (pending = false) .restorePending
  let receipt : Receipt := {
    snapshotID := r.snapshotID, generation := m.generation, capacityBytes := m.capacityBytes }
  match ← asking (readSnapshotManifest r.snapshotID) with
  | .ok existing =>
    require (existing.workspaceID = r.workspaceID ∧ existing.generation = r.expectedGeneration ∧
      existing.capacityBytes = m.capacityBytes) .conflictingReplay
    reading (validateExt4ImageUUID (.snapshot r.snapshotID) m.capacityBytes
      (deterministicUUID r.workspaceID))
    pure receipt
  | .error .snapshotNotFound =>
    mkdir (.snapshot r.snapshotID)
    cloneImage (.version r.workspaceID m.image) (.snapshot r.snapshotID) (.snapshot r.snapshotID)
      snapshotImageMode m.capacityBytes r.operationID none
    atomicJSON (.snapshot r.snapshotID) (Disk.setSnapshot r.snapshotID {
      formatVersion := currentManifestFormatVersion, snapshotID := r.snapshotID,
      workspaceID := r.workspaceID, generation := m.generation, capacityBytes := m.capacityBytes })
    syncDir (.snapshot r.snapshotID)
    sync
    pure receipt
  | .error e => fail e

/-- `CreateSnapshot`. -/
def createSnapshot (env : Env) (r : CreateSnapshotRequest) : Op Receipt := do
  reading fun _ => validateID r.snapshotID
  mutate env r.json r.toMutation .snapshotCreate (createSnapshotApply r)

/-- The body of `DeleteSnapshot`. -/
def deleteSnapshotApply (r : DeleteSnapshotRequest) : Op Receipt := do
  match ← asking (readSnapshotManifest r.snapshotID) with
  | .error .snapshotNotFound => pure { snapshotID := r.snapshotID }
  | .error e => fail e
  | .ok snapshot =>
    require (snapshot.workspaceID = r.workspaceID) .conflictingReplay
    let inUse ← reading (snapshotReferencedByRestore r.workspaceID r.snapshotID)
    require (inUse = false) .snapshotInUse
    sync -- chmod
    removeExactFile (.image (.snapshot r.snapshotID))
    removeExactFile (.record (.snapshot r.snapshotID))
    removeDir (.snapshot r.snapshotID)
    sync
    pure { snapshotID := r.snapshotID, generation := snapshot.generation,
           capacityBytes := snapshot.capacityBytes }

/-- `DeleteSnapshot`. -/
def deleteSnapshot (env : Env) (r : DeleteSnapshotRequest) : Op Receipt := do
  reading fun _ => validateID r.snapshotID
  mutate env r.json r.toMutation .snapshotDelete (deleteSnapshotApply r)

/-! ## Restores -/

/-- The record `PrepareRestore` stages. -/
def stagedRecord (r : PrepareRestoreRequest) (m : CurrentManifest) : StagedRestore where
  formatVersion := currentManifestFormatVersion
  operationID := r.operationID
  workspaceID := r.workspaceID
  snapshotID := r.snapshotID
  expectedGeneration := r.expectedGeneration
  nextGeneration := r.nextGeneration
  image := generationImageName r.nextGeneration (.restore r.operationID)
  capacityBytes := m.capacityBytes

/-- The part of `PrepareRestore` after its checks: clone the Snapshot next to the
    Workspace and record what it is for. -/
def stageRestore (r : PrepareRestoreRequest) (m : CurrentManifest) : Op Receipt := do
  let receipt : Receipt := {
    snapshotID := r.snapshotID, previousGeneration := r.expectedGeneration,
    generation := r.nextGeneration, capacityBytes := m.capacityBytes }
  match ← asking (readStagedRestore r.workspaceID r.operationID) with
  | .ok staged =>
    require (stagedMatches staged r = true) .conflictingReplay
    reading (validateExt4ImageUUID (.staged r.workspaceID r.operationID) m.capacityBytes
      (deterministicUUID r.workspaceID))
    pure receipt
  | .error .notExist =>
    cloneImage (.snapshot r.snapshotID) (.part r.workspaceID .staged)
      (.staged r.workspaceID r.operationID) writableImageMode m.capacityBytes r.operationID none
    atomicJSON (.staged r.workspaceID r.operationID)
      (Disk.setStaged r.workspaceID r.operationID (stagedRecord r m))
    syncDir (.part r.workspaceID .staged)
    pure receipt
  | .error e => fail e

/-- The body of `PrepareRestore`. -/
def prepareRestoreApply (r : PrepareRestoreRequest) : Op Receipt := do
  let m ← reading (readCurrentManifest r.workspaceID)
  require (m.generation = r.expectedGeneration) .staleGeneration
  let snapshot ← reading (readSnapshotManifest r.snapshotID)
  require (snapshot.workspaceID = r.workspaceID ∧ snapshot.capacityBytes = m.capacityBytes)
    .conflictingReplay
  match ← asking (validateExt4ImageUUID (.snapshot r.snapshotID) snapshot.capacityBytes
      (deterministicUUID r.workspaceID)) with
  | .error .notExist => fail .snapshotNotFound
  | .error e => fail e
  | .ok () =>
    let pending ← reading (pendingRestoreOperation r.workspaceID)
    require (pending = none ∨ pending = some r.operationID) .restorePending
    stageRestore r m

/-- `PrepareRestore`. -/
def prepareRestore (env : Env) (r : PrepareRestoreRequest) : Op Receipt := do
  reading fun _ => validateRestoreRequest r
  mutate env r.json r.toMutation .restorePrepare (prepareRestoreApply r)

/-- Move the staged image to its version path, unless it is already there. -/
def publishRestoreVersion (w op : ID) (image : ImageName) : Op Unit := do
  match ← asking fun d => d.images.lookup (.version w image) with
  | some _ => pure ()
  | none =>
    match ← asking fun d => d.images.lookup (.staged w op) with
    | none => fail .notExist
    | some i =>
      requireDir (.part w .versions)
      sys .io fun d => (d.removeImage (.staged w op)).setImage (.version w image) i
      syncDir (.part w .staged)
      syncDir (.part w .versions)

/-- The evidence `SwapRestore` leaves for `FinalizeRestore`. -/
def rollbackRecord (r : SwapRestoreRequest) (staged : StagedRestore) (m : CurrentManifest) :
    RollbackManifest where
  formatVersion := currentManifestFormatVersion
  operationID := r.operationID
  workspaceID := r.workspaceID
  snapshotID := r.snapshotID
  previousGeneration := m.generation
  previousImage := m.image
  nextGeneration := r.nextGeneration
  nextImage := staged.image
  capacityBytes := m.capacityBytes

/-- The manifest a swap selects: a fresh one, so that the seal of the old one is
    not carried over. -/
def swappedManifest (r : SwapRestoreRequest) (staged : StagedRestore) (m : CurrentManifest) :
    CurrentManifest where
  formatVersion := currentManifestFormatVersion
  workspaceID := r.workspaceID
  generation := r.nextGeneration
  image := staged.image
  capacityBytes := m.capacityBytes
  relocationSealed := false

/-- The part of `SwapRestore` that selects the staged image. -/
def publishSwap (r : SwapRestoreRequest) (staged : StagedRestore) (m : CurrentManifest) :
    Op Receipt := do
  require (m.generation = r.expectedGeneration) .staleGeneration
  publishRestoreVersion r.workspaceID r.operationID staged.image
  reading (validateExt4ImageUUID (.version r.workspaceID staged.image) m.capacityBytes
    (deterministicUUID r.workspaceID))
  atomicJSON (.rollback r.workspaceID r.operationID)
    (Disk.setRollback r.workspaceID r.operationID (rollbackRecord r staged m))
  syncDir (.part r.workspaceID .rollback)
  publishCurrentManifest r.workspaceID (swappedManifest r staged m)
  pure {
    snapshotID := r.snapshotID, previousGeneration := r.expectedGeneration,
    generation := r.nextGeneration, capacityBytes := m.capacityBytes }

/-- The body of `SwapRestore`. -/
def swapRestoreApply (r : SwapRestoreRequest) : Op Receipt := do
  match ← asking (readStagedRestore r.workspaceID r.operationID) with
  | .error _ => fail (.corruptState "staged restore")
  | .ok staged =>
    require (stagedMatches staged r = true) .conflictingReplay
    let m ← reading (readCurrentManifest r.workspaceID)
    if m.generation = r.nextGeneration ∧ m.image = staged.image then
      match ← asking (readRollback r.workspaceID r.operationID) with
      | .error _ => fail (.corruptState "swapped restore lacks rollback evidence")
      | .ok rollback => pure {
          snapshotID := r.snapshotID, previousGeneration := rollback.previousGeneration,
          generation := rollback.nextGeneration, capacityBytes := rollback.capacityBytes }
    else publishSwap r staged m

/-- `SwapRestore`. -/
def swapRestore (env : Env) (r : SwapRestoreRequest) : Op Receipt := do
  reading fun _ => validateRestoreRequest r
  mutate env r.json r.toMutation .restoreSwap (swapRestoreApply r)

/-- The body of `FinalizeRestore`. -/
def finalizeRestoreApply (m : RestoreMutation) : Op Receipt := do
  match ← asking (readRollback m.workspaceID m.operationID) with
  | .error .notExist =>
    match ← reading (loadAnyReceipt m .restoreSwap) with
    | none => fail (.corruptState "restore swap receipt is absent")
    | some swapReceipt => pure {
        snapshotID := swapReceipt.snapshotID, previousGeneration := swapReceipt.previousGeneration,
        generation := swapReceipt.generation, capacityBytes := swapReceipt.capacityBytes }
  | .error e => fail e
  | .ok rollback =>
    let manifest ← reading (readCurrentManifest m.workspaceID)
    require (manifest.generation = rollback.nextGeneration ∧ manifest.image = rollback.nextImage)
      .staleGeneration
    require (rollback.previousImage ≠ manifest.image) (.corruptState "rollback image is current")
    removeExactFile (.image (.version m.workspaceID rollback.previousImage))
    removeExactFile (.image (.staged m.workspaceID m.operationID))
    removeExactFile (.record (.staged m.workspaceID m.operationID))
    removeExactFile (.record (.rollback m.workspaceID m.operationID))
    syncDir (.part m.workspaceID .versions)
    syncDir (.part m.workspaceID .staged)
    syncDir (.part m.workspaceID .rollback)
    pure {
      snapshotID := rollback.snapshotID, previousGeneration := rollback.previousGeneration,
      generation := rollback.nextGeneration, capacityBytes := rollback.capacityBytes }

/-- `FinalizeRestore`. -/
def finalizeRestore (env : Env) (m : RestoreMutation) : Op Receipt :=
  mutate env m.json m .restoreFinalize (finalizeRestoreApply m)

/-- The body of `AbortRestore`. -/
def abortRestoreApply (m : RestoreMutation) : Op Receipt := do
  match ← asking (readRollback m.workspaceID m.operationID) with
  | .ok _ => fail .restorePending
  | .error .notExist =>
    match ← asking (readStagedRestore m.workspaceID m.operationID) with
    | .error .notExist => pure {}
    | .error e => fail e
    | .ok staged =>
      removeExactFile (.image (.staged m.workspaceID m.operationID))
      removeExactFile (.record (.staged m.workspaceID m.operationID))
      syncDir (.part m.workspaceID .staged)
      pure {
        snapshotID := staged.snapshotID, previousGeneration := staged.expectedGeneration,
        generation := staged.nextGeneration, capacityBytes := staged.capacityBytes }
  | .error e => fail e

/-- `AbortRestore`. -/
def abortRestore (env : Env) (m : RestoreMutation) : Op Receipt :=
  mutate env m.json m .restoreAbort (abortRestoreApply m)

/-! ## Deleting Workspaces -/

/-- One entry of `deleteWorkspaceSnapshots`: every Snapshot of the store is
    read, those of other Workspaces are skipped. -/
def deleteSnapshotOf (w s : ID) : Op Unit := do
  require (validID s = true) (.corruptState "invalid Snapshot directory")
  let m ← reading (readSnapshotManifest s)
  if m.workspaceID ≠ w then pure () else
    sync -- chmod
    removeExactFile (.image (.snapshot s))
    removeExactFile (.record (.snapshot s))
    removePresentDir (.snapshot s)

/-- `deleteWorkspaceSnapshots`. -/
def deleteWorkspaceSnapshots (w : ID) : Op Unit := do
  let entries ← asking Disk.snapshotDirs
  forEach entries (deleteSnapshotOf w)
  sync

/-- One directory of `removeWorkspaceTree`. -/
def removeWorkspacePart (w : ID) (part : Part) : Op Unit := do
  let present ← asking fun d => decide (Dir.part w part ∈ d.dirs)
  if present then
    let entries ← asking fun d => d.readDir (.part w part)
    forEach entries removeExactFile
    removeDir (.part w part)
  else pure ()

/-- `removeWorkspaceTree`. -/
def removeWorkspaceTree (w : ID) : Op Unit := do
  removeWorkspacePart w .versions
  removeWorkspacePart w .manifest
  removeWorkspacePart w .staged
  removeWorkspacePart w .rollback
  removeDir (.workspace w)

/-- The files of the receipt directories of a Workspace, by operation and name. -/
def Disk.receiptFiles (d : Disk) (w : ID) : List (ID × File) :=
  (d.receipts.keys.filterMap (fun k =>
      if k.1 = w then some (k.2.1, File.record (.receipt k.1 k.2.1 k.2.2)) else none) ++
    d.temps.filterMap fun
      | .json (.receipt v op k) n =>
        if v = w then some (op, File.temp (.json (.receipt v op k) n)) else none
      | _ => none).insertionSort
    fun a b => a.1 < b.1 ∨ a.1 = b.1 ∧ a.2.name ≤ b.2.name

/-- One entry of `deleteWorkspaceReceipts`. -/
def deleteReceiptFile (e : ID × File) : Op Unit := do
  require (validID e.1 = true) (.corruptState "invalid Workspace receipt directory")
  match e.2 with
  | .temp _ => fail (.corruptState "invalid Workspace receipt file")
  | f => removeExactFile f

/-- `deleteWorkspaceReceipts`. -/
def deleteWorkspaceReceipts (w : ID) : Op Unit := do
  reading fun _ => validateID w
  let entries ← asking fun d => d.receiptFiles w
  forEach entries deleteReceiptFile
  sync

/-- The body of `DeleteWorkspace`. -/
def deleteWorkspaceApply (r : DeleteWorkspaceRequest) : Op Receipt := do
  match ← asking (readCurrentManifest r.workspaceID) with
  | .error .workspaceNotFound =>
    let present ← asking fun d => decide (Dir.workspace r.workspaceID ∈ d.dirs)
    if present then
      deleteWorkspaceSnapshots r.workspaceID
      removeWorkspaceTree r.workspaceID
      sync
      deleteWorkspaceReceipts r.workspaceID
      pure { generation := r.expectedGeneration }
    else
      deleteWorkspaceReceipts r.workspaceID
      pure { generation := r.expectedGeneration }
  | .error e => fail e
  | .ok m =>
    require (m.generation = r.expectedGeneration) .staleGeneration
    let pending ← reading (restorePending r.workspaceID)
    require (pending = false) .restorePending
    deleteWorkspaceSnapshots r.workspaceID
    removeWorkspaceTree r.workspaceID
    sync
    deleteWorkspaceReceipts r.workspaceID
    pure { generation := m.generation, capacityBytes := m.capacityBytes }

/-- `DeleteWorkspace`. -/
def deleteWorkspace (env : Env) (r : DeleteWorkspaceRequest) : Op Receipt :=
  mutate env r.json r.toMutation .workspaceDelete (deleteWorkspaceApply r)

/-! ## Reconciling -/

/-- `Inspect`. -/
def inspect (env : Env) (w : ID) : Op WorkspaceInspection := do
  reading fun _ => validateID w
  lockWorkspace env w
  reading (inspectLocked w)

/-- The Workspace half of `Reconcile`. -/
def reconcileWorkspaces (env : Env) (d : Disk) :
    List ID → Except StoreErr (List WorkspaceInspection)
  | [] => .ok []
  | w :: ws =>
    if ¬ validID w then .error (.corruptState "invalid Workspace directory") else
      match inspectLocked w d with
      | .error e => .error e
      | .ok i =>
        match reconcileWorkspaces env d ws with
        | .error e => .error e
        | .ok is => .ok ({ i with activeWriter := env.held w } :: is)

/-- All receipt files, by Workspace, operation and name. -/
def Disk.allReceiptFiles (d : Disk) : List ((ID × ID) × File) :=
  (d.receipts.keys.map (fun k => ((k.1, k.2.1), File.record (.receipt k.1 k.2.1 k.2.2))) ++
    d.temps.filterMap fun
      | .json (.receipt w op k) n => some ((w, op), File.temp (.json (.receipt w op k) n))
      | _ => none).insertionSort
    fun a b => a.1.1 < b.1.1 ∨ a.1.1 = b.1.1 ∧ (a.1.2 < b.1.2 ∨ a.1.2 = b.1.2 ∧ a.2.name ≤ b.2.name)

/-- The receipt half of `Reconcile`. -/
def reconcileReceipts (d : Disk) : List ((ID × ID) × File) → Except StoreErr (List Receipt)
  | [] => .ok []
  | ((w, op), f) :: fs =>
    if ¬ validID w then .error (.corruptState "invalid receipt directory")
    else if ¬ validID op then .error (.corruptState "invalid receipt operation directory")
    else match f with
      | .record (.receipt _ _ kind) =>
        match d.receipts.lookup (w, op, kind) with
        | none => .error .notExist
        | some receipt =>
          match validateReceipt receipt with
          | .error e => .error e
          | .ok () =>
            if receipt.workspaceID ≠ w ∨ receipt.operationID ≠ op ∨ receipt.kind ≠ kind then
              .error (.corruptState "receipt path disagrees with content")
            else match reconcileReceipts d fs with
              | .error e => .error e
              | .ok rs => .ok (receipt :: rs)
      | _ => .error (.corruptState "invalid receipt entry")

/-- `Reconcile`. -/
def reconcile (env : Env) (d : Disk) : Except StoreErr ReconcileReport :=
  match reconcileWorkspaces env d d.workspaceDirs with
  | .error e => .error e
  | .ok workspaces =>
    match reconcileReceipts d d.allReceiptFiles with
    | .error e => .error e
    | .ok receipts => .ok ⟨workspaces, receipts⟩

end SecondBox.WorkspaceStore

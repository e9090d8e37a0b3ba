/-
  The store's directory tree and everything the store reads from it
  (the path helpers, `read*`, `load*Receipt`, the pending-restore scans and the
  image checks of store.go).

  The tree is kept by kind of file, so that a path only ever holds the document
  its name promises: images, the five JSON records, and left-over temporary
  files, whose contents nothing reads.  Directories are recorded where some
  function depends on them: the Workspace directories with their four parts, and
  the Snapshot directories.  A receipt or relocation directory is implied by its
  files: no function tells an empty one from an absent one.
-/
import SecondBox.WorkspaceStore.Types

namespace SecondBox.WorkspaceStore

/-! ## Paths -/

/-- The four parts of a Workspace directory. -/
inductive Part where
  | versions
  | manifest
  | staged
  | rollback
deriving DecidableEq

/-- The directories of the store. -/
inductive Dir where
  /-- `workspaceDir` -/
  | workspace (workspaceID : ID)
  /-- `versionsDir`, `manifestDir`, `stagedDir`, `rollbackDir` -/
  | part (workspaceID : ID) (part : Part)
  /-- `snapshotDir` -/
  | snapshot (snapshotID : ID)
deriving DecidableEq

/-- The JSON documents. -/
inductive Record where
  | current (workspaceID : ID)
  | snapshot (snapshotID : ID)
  | staged (workspaceID operationID : ID)
  | rollback (workspaceID operationID : ID)
  | receipt (workspaceID operationID : ID) (kind : ReceiptKind)
deriving DecidableEq

/-- The image files. -/
inductive ImageFile where
  | version (workspaceID : ID) (image : ImageName)
  | staged (workspaceID operationID : ID)
  | snapshot (snapshotID : ID)
  | relocation (workspaceID operationID : ID)
  | template (capacityBytes : Int)
deriving DecidableEq

/-- The temporary files of `atomicJSON`, `cloneImage` and `ensureTemplate`. -/
inductive Temp where
  /-- `.<name>.tmp-<n>` beside a record -/
  | json (target : Record) (n : Nat)
  /-- `.<operation>.reflinking` -/
  | reflinking (dir : Dir) (operationID : ID)
  /-- `.capacity-<n>.ext4.formatting` -/
  | formatting (capacityBytes : Int)
deriving DecidableEq

/-- The directory of a record. -/
def Record.dir : Record → Option Dir
  | .current w => some (.part w .manifest)
  | .snapshot s => some (.snapshot s)
  | .staged w _ => some (.part w .staged)
  | .rollback w _ => some (.part w .rollback)
  | .receipt .. => none

/-- The directory of an image. -/
def ImageFile.dir : ImageFile → Option Dir
  | .version w _ => some (.part w .versions)
  | .staged w _ => some (.part w .staged)
  | .snapshot s => some (.snapshot s)
  | .relocation .. | .template _ => none

/-- The directory of a temporary file. -/
def Temp.dir : Temp → Option Dir
  | .json target _ => target.dir
  | .reflinking dir _ => some dir
  | .formatting _ => none

/-- Its file name. -/
def Record.name : Record → String
  | .current _ => "current.json"
  | .snapshot _ => "snapshot.json"
  | .staged _ op | .rollback _ op => op ++ ".json"
  | .receipt _ _ kind => kind.text ++ ".json"

/-- Its file name. -/
def ImageFile.name : ImageFile → String
  | .version _ image => image.text
  | .staged _ op => op ++ ".ext4"
  | .snapshot _ | .relocation .. => "image.ext4"
  | .template capacity => "capacity-" ++ toString capacity ++ ".ext4"

/-- Its file name. -/
def Temp.name : Temp → String
  | .json target n => "." ++ target.name ++ ".tmp-" ++ toString n
  | .reflinking _ op => "." ++ op ++ ".reflinking"
  | .formatting capacity => ".capacity-" ++ toString capacity ++ ".ext4.formatting"

/-! ## The disk -/

/-- What is on the disk. -/
structure Disk where
  dirs : List Dir
  images : Table ImageFile Image
  /-- `current.json` by Workspace -/
  manifests : Table ID CurrentManifest
  /-- `snapshot.json` by Snapshot -/
  snapshots : Table ID SnapshotManifest
  /-- `staged/<operation>.json` -/
  staged : Table (ID × ID) StagedRestore
  /-- `rollback/<operation>.json` -/
  rollbacks : Table (ID × ID) RollbackManifest
  receipts : Table (ID × ID × ReceiptKind) Receipt
  temps : List Temp

/-- The tree `initialize` leaves behind. -/
def Disk.empty : Disk := ⟨[], ∅, ∅, ∅, ∅, ∅, ∅, []⟩

namespace Disk

/-- Make a directory. -/
def addDir (p : Dir) (d : Disk) : Disk := { d with dirs := d.dirs.insert p }

/-- Remove a directory. -/
def removeDir (p : Dir) (d : Disk) : Disk := { d with dirs := d.dirs.filter (· ≠ p) }

/-- Add a temporary file. -/
def addTemp (t : Temp) (d : Disk) : Disk := { d with temps := d.temps.insert t }

/-- Remove a temporary file. -/
def removeTemp (t : Temp) (d : Disk) : Disk := { d with temps := d.temps.filter (· ≠ t) }

/-- Write an image. -/
def setImage (f : ImageFile) (i : Image) (d : Disk) : Disk :=
  { d with images := d.images.insert f i }

/-- Unlink an image. -/
def removeImage (f : ImageFile) (d : Disk) : Disk := { d with images := d.images.erase f }

/-- Write a manifest. -/
def setManifest (w : ID) (m : CurrentManifest) (d : Disk) : Disk :=
  { d with manifests := d.manifests.insert w m }

/-- Write a Snapshot's manifest. -/
def setSnapshot (s : ID) (m : SnapshotManifest) (d : Disk) : Disk :=
  { d with snapshots := d.snapshots.insert s m }

/-- Write a staged restore. -/
def setStaged (w op : ID) (s : StagedRestore) (d : Disk) : Disk :=
  { d with staged := d.staged.insert (w, op) s }

/-- Write a rollback record. -/
def setRollback (w op : ID) (r : RollbackManifest) (d : Disk) : Disk :=
  { d with rollbacks := d.rollbacks.insert (w, op) r }

/-- Write a receipt. -/
def setReceipt (w op : ID) (k : ReceiptKind) (r : Receipt) (d : Disk) : Disk :=
  { d with receipts := d.receipts.insert (w, op, k) r }

/-- Unlink a record. -/
def removeRecord : Record → Disk → Disk
  | .current w, d => { d with manifests := d.manifests.erase w }
  | .snapshot s, d => { d with snapshots := d.snapshots.erase s }
  | .staged w op, d => { d with staged := d.staged.erase (w, op) }
  | .rollback w op, d => { d with rollbacks := d.rollbacks.erase (w, op) }
  | .receipt w op k, d => { d with receipts := d.receipts.erase (w, op, k) }

/-- The record is there. -/
def hasRecord (d : Disk) : Record → Bool
  | .current w => (d.manifests.lookup w).isSome
  | .snapshot s => (d.snapshots.lookup s).isSome
  | .staged w op => (d.staged.lookup (w, op)).isSome
  | .rollback w op => (d.rollbacks.lookup (w, op)).isSome
  | .receipt w op k => (d.receipts.lookup (w, op, k)).isSome

end Disk

/-! ## Directory listings -/

/-- A regular file of the tree. -/
inductive File where
  | record (r : Record)
  | image (f : ImageFile)
  | temp (t : Temp)

/-- The directory of a file. -/
def File.dir : File → Option Dir
  | .record r => r.dir
  | .image f => f.dir
  | .temp t => t.dir

/-- The name of a file. -/
def File.name : File → String
  | .record r => r.name
  | .image f => f.name
  | .temp t => t.name

namespace Disk

/-- The records there are. -/
def records (d : Disk) : List Record :=
  d.manifests.keys.map .current ++ d.snapshots.keys.map .snapshot ++
    d.staged.keys.map (fun k => .staged k.1 k.2) ++ d.rollbacks.keys.map
    (fun k => .rollback k.1 k.2) ++ d.receipts.keys.map fun k => .receipt k.1 k.2.1 k.2.2

/-- The files there are. -/
def files (d : Disk) : List File :=
  d.records.map .record ++ d.images.keys.map .image ++ d.temps.map .temp

/-- `os.ReadDir` of a directory of the tree: its files in name order. -/
def readDir (d : Disk) (p : Dir) : List File :=
  (d.files.filter fun f => f.dir = some p).insertionSort fun f g => f.name ≤ g.name

/-- Unlink a file. -/
def removeFile : File → Disk → Disk
  | .record r, d => d.removeRecord r
  | .image f, d => d.removeImage f
  | .temp t, d => d.removeTemp t

/-- The Workspace directories, in name order. -/
def workspaceDirs (d : Disk) : List ID :=
  (d.dirs.filterMap fun | .workspace w => some w | _ => none).dedup.insertionSort (· ≤ ·)

/-- The Snapshot directories, in name order. -/
def snapshotDirs (d : Disk) : List ID :=
  (d.dirs.filterMap fun | .snapshot s => some s | _ => none).dedup.insertionSort (· ≤ ·)

/-- The operations with a record in a part of a Workspace, in file-name order. -/
def stagedOperations (d : Disk) (w : ID) : List ID :=
  (d.staged.keys.filterMap fun k => if k.1 = w then some k.2 else none).insertionSort
    fun a b => a ++ ".json" ≤ b ++ ".json"

/-- The operations with a rollback record, by file name. -/
def rollbackOperations (d : Disk) (w : ID) : List ID :=
  (d.rollbacks.keys.filterMap fun k => if k.1 = w then some k.2 else none).insertionSort
    fun a b => a ++ ".json" ≤ b ++ ".json"

end Disk

/-! ## Reading records -/

/-- `readCurrentManifest`. -/
def readCurrentManifest (w : ID) (d : Disk) : Except StoreErr CurrentManifest :=
  match d.manifests.lookup w with
  | none => .error .workspaceNotFound
  | some m =>
    if m.formatVersion ≠ currentManifestFormatVersion ∨ m.workspaceID ≠ w ∨ m.generation < 1 ∨
        m.capacityBytes < legacyMinimumExt4Bytes then
      .error (.corruptState "invalid current manifest")
    else .ok m

/-- `readSnapshotManifest`. -/
def readSnapshotManifest (s : ID) (d : Disk) : Except StoreErr SnapshotManifest :=
  match d.snapshots.lookup s with
  | none => .error .snapshotNotFound
  | some m =>
    if m.formatVersion ≠ currentManifestFormatVersion ∨ m.snapshotID ≠ s ∨ ¬ validID m.workspaceID ∨
        m.generation < 1 ∨ m.capacityBytes < legacyMinimumExt4Bytes then
      .error (.corruptState "invalid Snapshot manifest")
    else .ok m

/-- `readStagedRestore`. -/
def readStagedRestore (w op : ID) (d : Disk) : Except StoreErr StagedRestore :=
  match d.staged.lookup (w, op) with
  | none => .error .notExist
  | some s =>
    if s.formatVersion ≠ currentManifestFormatVersion ∨ s.workspaceID ≠ w ∨ s.operationID ≠ op ∨
        ¬ validID s.snapshotID ∨ s.nextGeneration ≠ s.expectedGeneration + 1 ∨
        s.capacityBytes < legacyMinimumExt4Bytes then
      .error (.corruptState "invalid staged restore")
    else .ok s

/-- `readRollback`. -/
def readRollback (w op : ID) (d : Disk) : Except StoreErr RollbackManifest :=
  match d.rollbacks.lookup (w, op) with
  | none => .error .notExist
  | some r =>
    if r.formatVersion ≠ currentManifestFormatVersion ∨ r.workspaceID ≠ w ∨ r.operationID ≠ op ∨
        r.nextGeneration ≠ r.previousGeneration + 1 ∨ r.capacityBytes < legacyMinimumExt4Bytes then
      .error (.corruptState "invalid rollback manifest")
    else .ok r

/-- `loadAnyReceipt`: `none` when there is no receipt. -/
def loadAnyReceipt (m : Mutation) (kind : ReceiptKind) (d : Disk) :
    Except StoreErr (Option Receipt) :=
  match d.receipts.lookup (m.workspaceID, m.operationID, kind) with
  | none => .ok none
  | some r =>
    match validateReceipt r with
    | .error e => .error e
    | .ok () =>
      if r.kind ≠ kind ∨ r.operationID ≠ m.operationID ∨ r.workspaceID ≠ m.workspaceID then
        .error .conflictingReplay
      else .ok (some r)

/-- `loadReceipt`: the fence is compared before the inputs. -/
def loadReceipt (m : Mutation) (digest : Digest) (kind : ReceiptKind) (d : Disk) :
    Except StoreErr (Option Receipt) :=
  match loadAnyReceipt m kind d with
  | .error e => .error e
  | .ok none => .ok none
  | .ok (some r) =>
    if r.inputDigest.fence ≠ digest.fence then .error .staleFence
    else if r.inputDigest ≠ digest then .error .conflictingReplay
    else .ok (some r)

/-! ## Pending restores -/

/-- `stagedRestorePending`: only the staged records count. -/
def stagedRestorePending (w : ID) (d : Disk) : Bool := (d.stagedOperations w).length ≠ 0

/-- `pendingRestoreOperation`: the first staged record, else the first rollback
    record; `none` is the source's empty string. -/
def pendingRestoreOperation (w : ID) (d : Disk) : Except StoreErr (Option ID) :=
  match (d.stagedOperations w ++ d.rollbackOperations w).head? with
  | none => .ok none
  | some op =>
    if validID op then .ok (some op) else .error (.corruptState "invalid restore operation file")

/-- `restorePending`. -/
def restorePending (w : ID) (d : Disk) : Except StoreErr Bool :=
  (pendingRestoreOperation w d).map Option.isSome

/-- `snapshotReferencedByRestore`. -/
def snapshotReferencedByRestore (w s : ID) (d : Disk) : Except StoreErr Bool :=
  go (d.stagedOperations w)
where
  go : List ID → Except StoreErr Bool
    | [] => .ok false
    | op :: ops =>
      match readStagedRestore w op d with
      | .error e => .error e
      | .ok staged => if staged.snapshotID = s then .ok true else go ops

/-! ## Checking images -/

/-- `validateExt4Image`. -/
def validateExt4Image (f : ImageFile) (capacity : Int) (d : Disk) : Except StoreErr Unit :=
  match d.images.lookup f with
  | none => .error .notExist
  | some i =>
    if i.size ≠ capacity then .error (.corruptState "Workspace image size or type is invalid")
    else if ¬ i.ext4 then .error (.corruptState "Workspace image is not ext4")
    else .ok ()

/-- `validateExt4ImageUUID`. -/
def validateExt4ImageUUID (f : ImageFile) (capacity : Int) (expected : FsUUID) (d : Disk) :
    Except StoreErr Unit :=
  match validateExt4Image f capacity d with
  | .error e => .error e
  | .ok () =>
    match d.images.lookup f with
    | none => .error .notExist
    | some i =>
      if i.uuid ≠ expected then .error (.corruptState "Workspace image UUID is invalid") else .ok ()

/-- `validateExt4Template`. -/
def validateExt4Template (capacity : Int) (d : Disk) : Except StoreErr Unit :=
  match d.images.lookup (.template capacity) with
  | none => .error .notExist
  | some i =>
    if i.mode ≠ snapshotImageMode then
      .error (.corruptState "ext4 template type or mode is invalid")
    else validateExt4ImageUUID (.template capacity) capacity (deterministicTemplateUUID capacity) d

/-- `validateImage`. -/
def validateImage (w : ID) (image : ImageName) (capacity : Int) (d : Disk) : Except StoreErr Unit :=
  validateExt4ImageUUID (.version w image) capacity (deterministicUUID w) d

/-- `inspectLocked`. -/
def inspectLocked (w : ID) (d : Disk) : Except StoreErr WorkspaceInspection :=
  match readCurrentManifest w d with
  | .error e => .error e
  | .ok m =>
    match restorePending w d with
    | .error e => .error e
    | .ok pending =>
      .ok {
        workspaceID := w
        generation := m.generation
        capacityBytes := m.capacityBytes
        formatted := (validateImage w m.image m.capacityBytes d).isOk
        restorePending := pending
        activeWriter := false
        relocationSealed := m.relocationSealed }

end SecondBox.WorkspaceStore

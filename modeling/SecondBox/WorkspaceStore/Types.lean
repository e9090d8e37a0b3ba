/-
  The Runner's WorkspaceStore: identifiers, requests, records and errors
  (runner/internal/workspacestore/types.go and the record types of store.go).

  Identifiers stay strings, checked by `validateID`.  Version image names are
  structured: `generationImageName` prints them injectively, and every name it
  prints passes `validatedVersionPath`.  SHA-256 is ideal: a digest is the data
  it was computed from, so equal digests mean equal inputs.
-/
import Mathlib.Data.List.AList
import Mathlib.Data.List.Sort

namespace SecondBox.WorkspaceStore

/-- An identifier. -/
abbrev ID := String

/-- Records by key. -/
abbrev Table (K V : Type) := AList fun _ : K => V

/-- The sentinel errors of types.go, with the detail a wrapping site adds to
    `ErrCorruptState`; `notExist` and `io` are operating-system errors. -/
inductive StoreErr where
  | invalidID
  | workspaceNotFound
  | snapshotNotFound
  | activeWriter
  | staleGeneration
  | staleFence
  | conflictingReplay
  | restorePending
  | snapshotInUse
  | storageIncompatible
  | corruptState (detail : String)
  | relocationSealed
  /-- "logical capacity must be at least minimumExt4Bytes" -/
  | capacityTooSmall
  | notExist
  | io
deriving DecidableEq

/-- `minimumExt4Bytes`, the floor of new capacity requests. -/
def minimumExt4Bytes : Int := 67108864

/-- `legacyMinimumExt4Bytes`, the floor of recorded manifests. -/
def legacyMinimumExt4Bytes : Int := 16777216

/-- The format of manifests. -/
def currentManifestFormatVersion : Nat := 1

/-- The format of receipts. -/
def receiptFormatVersion : Nat := 1

/-- A character class of `logicalIDPattern`. -/
def idFirst (c : Char) : Bool :=
  ('A' ≤ c && c ≤ 'Z') || ('a' ≤ c && c ≤ 'z') || ('0' ≤ c && c ≤ '9')

/-- A later character of an id. -/
def idRest (c : Char) : Bool := idFirst c || c == '.' || c == '_' || c == '-'

/-- `^[A-Za-z0-9][A-Za-z0-9._-]{0,127}$`; the pattern already excludes "." and "..". -/
def validID (id : ID) : Bool :=
  match id.toList with
  | [] => false
  | c :: cs => idFirst c && cs.all idRest && cs.length ≤ 127

/-- `validateID` -/
def validateID (id : ID) : Except StoreErr Unit :=
  if validID id then .ok () else .error .invalidID

/-! ## Requests -/

/-- The values of a canonical JSON encoding. -/
inductive JsonValue where
  | text (s : String)
  | bytes (b : List UInt8)
  | uint (n : UInt64)
  | int (n : Int)
deriving DecidableEq

/-- A request as `json.Marshal` writes it: its fields in declaration order. -/
abbrev Json := List (String × JsonValue)

/-- Identifies one idempotent runner-local command. -/
structure Mutation where
  operationID : ID
  workspaceID : ID
  fencingToken : List UInt8

/-- Its fields. -/
def Mutation.json (m : Mutation) : Json :=
  [("OperationID", .text m.operationID), ("WorkspaceID", .text m.workspaceID),
    ("FencingToken", .bytes m.fencingToken)]

/-- An operation under the fence of 32 zero bytes, for concrete histories. -/
def Mutation.plain (w op : ID) : Mutation := ⟨op, w, List.replicate 32 0⟩

/-- The request of `Create`. -/
structure CreateWorkspaceRequest extends Mutation where
  capacityBytes : Int

/-- Its fields. -/
def CreateWorkspaceRequest.json (r : CreateWorkspaceRequest) : Json :=
  r.toMutation.json ++ [("CapacityBytes", .int r.capacityBytes)]

/-- The request of `CloneFromSnapshot`. -/
structure CloneWorkspaceRequest extends Mutation where
  sourceSnapshot : ID
  capacityBytes : Int

/-- Its fields. -/
def CloneWorkspaceRequest.json (r : CloneWorkspaceRequest) : Json :=
  r.toMutation.json ++
    [("SourceSnapshot", .text r.sourceSnapshot), ("CapacityBytes", .int r.capacityBytes)]

/-- The request of `AdvanceGeneration`. -/
structure AdvanceGenerationRequest extends Mutation where
  expectedGeneration : UInt64
  nextGeneration : UInt64

/-- Its fields. -/
def AdvanceGenerationRequest.json (r : AdvanceGenerationRequest) : Json :=
  r.toMutation.json ++
    [("ExpectedGeneration", .uint r.expectedGeneration), ("NextGeneration", .uint r.nextGeneration)]

/-- The request of `CreateSnapshot`. -/
structure CreateSnapshotRequest extends Mutation where
  snapshotID : ID
  expectedGeneration : UInt64

/-- Its fields. -/
def CreateSnapshotRequest.json (r : CreateSnapshotRequest) : Json :=
  r.toMutation.json ++
    [("SnapshotID", .text r.snapshotID), ("ExpectedGeneration", .uint r.expectedGeneration)]

/-- The request of `DeleteSnapshot`. -/
structure DeleteSnapshotRequest extends Mutation where
  snapshotID : ID

/-- Its fields. -/
def DeleteSnapshotRequest.json (r : DeleteSnapshotRequest) : Json :=
  r.toMutation.json ++ [("SnapshotID", .text r.snapshotID)]

/-- The request of a restore. -/
structure PrepareRestoreRequest extends Mutation where
  snapshotID : ID
  expectedGeneration : UInt64
  nextGeneration : UInt64

/-- Its fields. -/
def PrepareRestoreRequest.json (r : PrepareRestoreRequest) : Json :=
  r.toMutation.json ++ [("SnapshotID", .text r.snapshotID),
    ("ExpectedGeneration", .uint r.expectedGeneration), ("NextGeneration", .uint r.nextGeneration)]

/-- The source converts one request type to the other, field by field. -/
abbrev SwapRestoreRequest := PrepareRestoreRequest

/-- Identifies finalize or abort cleanup for one restore. -/
abbrev RestoreMutation := Mutation

/-- The request of `DeleteWorkspace`. -/
structure DeleteWorkspaceRequest extends Mutation where
  expectedGeneration : UInt64

/-- Its fields. -/
def DeleteWorkspaceRequest.json (r : DeleteWorkspaceRequest) : Json :=
  r.toMutation.json ++ [("ExpectedGeneration", .uint r.expectedGeneration)]

/-- The request of an export. -/
structure RelocationExportRequest extends Mutation where
  expectedGeneration : UInt64

/-- Its fields. -/
def RelocationExportRequest.json (r : RelocationExportRequest) : Json :=
  r.toMutation.json ++ [("ExpectedGeneration", .uint r.expectedGeneration)]

/-- The request of an import. -/
structure RelocationImportRequest extends Mutation where
  generation : UInt64
  capacityBytes : Int

/-- Its fields. -/
def RelocationImportRequest.json (r : RelocationImportRequest) : Json :=
  r.toMutation.json ++ [("Generation", .uint r.generation), ("CapacityBytes", .int r.capacityBytes)]

/-- `inputDigest`: the fence digest and the request digest. -/
structure Digest where
  fence : List UInt8
  request : Json
deriving DecidableEq

/-- `inputDigest` -/
def inputDigest (request : Json) (fencingToken : List UInt8) : Except StoreErr Digest :=
  if fencingToken.length < 32 then .error .staleFence else .ok ⟨fencingToken, request⟩

/-- `validateMutation` -/
def validateMutation (m : Mutation) : Except StoreErr Unit := do
  validateID m.operationID
  validateID m.workspaceID
  if m.fencingToken.length < 32 then .error .staleFence else .ok ()

/-- `validateRestoreRequest` -/
def validateRestoreRequest (r : PrepareRestoreRequest) : Except StoreErr Unit := do
  validateMutation r.toMutation
  validateID r.snapshotID
  if r.expectedGeneration < 1 ∨ r.nextGeneration ≠ r.expectedGeneration + 1 then
    .error .staleGeneration
  else .ok ()

/-! ## Images -/

/-- The origin part of a version image name. -/
inductive ImageSuffix where
  | create
  | clone
  | restore (operationID : ID)
  | relocation (operationID : ID)
deriving DecidableEq

/-- The name of an image version. -/
structure ImageName where
  generation : UInt64
  suffix : ImageSuffix
deriving DecidableEq

/-- `generationImageName`. -/
def generationImageName (generation : UInt64) (suffix : ImageSuffix) : ImageName :=
  ⟨generation, suffix⟩

/-- The end of the name. -/
def ImageSuffix.text : ImageSuffix → String
  | .create => "create"
  | .clone => "clone"
  | .restore op => "restore-" ++ op
  | .relocation op => "relocation-" ++ op

/-- `g%020d-%s.ext4`. -/
def ImageName.text (image : ImageName) : String :=
  let digits := toString image.generation.toNat
  "g" ++ String.ofList (List.replicate (20 - digits.length) '0') ++ digits ++ "-" ++
    image.suffix.text ++ ".ext4"

/-- Filesystem UUIDs: the two namespaces of `deterministicNamespacedUUID`, and
    whatever a guest or an imported stream wrote. -/
inductive FsUUID where
  | workspace (workspaceID : ID)
  | template (capacityBytes : Int)
  | other (n : Nat)
deriving DecidableEq

/-- `deterministicUUID` -/
def deterministicUUID (workspaceID : ID) : FsUUID := .workspace workspaceID

/-- `deterministicTemplateUUID` -/
def deterministicTemplateUUID (capacityBytes : Int) : FsUUID := .template capacityBytes

/-- The mode of a version. -/
def writableImageMode : Nat := 0o600

/-- The mode of a Snapshot. -/
def snapshotImageMode : Nat := 0o400

/-- What the store can tell about an image file: its size, the ext4 magic, the
    filesystem UUID, the file mode, and which data it holds. -/
structure Image where
  size : Int
  ext4 : Bool
  uuid : FsUUID
  mode : Nat
  data : Nat

/-! ## Records -/

/-- `current.json` -/
structure CurrentManifest where
  formatVersion : Nat
  workspaceID : ID
  generation : UInt64
  image : ImageName
  capacityBytes : Int
  relocationSealed : Bool
deriving DecidableEq

/-- `snapshot.json` -/
structure SnapshotManifest where
  formatVersion : Nat
  snapshotID : ID
  workspaceID : ID
  generation : UInt64
  capacityBytes : Int

/-- The record of a prepared restore. -/
structure StagedRestore where
  formatVersion : Nat
  operationID : ID
  workspaceID : ID
  snapshotID : ID
  expectedGeneration : UInt64
  nextGeneration : UInt64
  image : ImageName
  capacityBytes : Int

/-- The record of a swapped restore. -/
structure RollbackManifest where
  formatVersion : Nat
  operationID : ID
  workspaceID : ID
  snapshotID : ID
  previousGeneration : UInt64
  previousImage : ImageName
  nextGeneration : UInt64
  nextImage : ImageName
  capacityBytes : Int
deriving DecidableEq

/-- `stagedMatches` -/
def stagedMatches (staged : StagedRestore) (r : PrepareRestoreRequest) : Bool :=
  staged.operationID == r.operationID && staged.workspaceID == r.workspaceID &&
    staged.snapshotID == r.snapshotID && staged.expectedGeneration == r.expectedGeneration &&
    staged.nextGeneration == r.nextGeneration

/-- The kinds of receipts. -/
inductive ReceiptKind where
  | workspaceCreate
  | workspaceClone
  | generationAdvance
  | snapshotCreate
  | snapshotDelete
  | restorePrepare
  | restoreSwap
  | restoreFinalize
  | restoreAbort
  | workspaceDelete
  | relocationExport
  | relocationImport
  | relocationAbort
deriving DecidableEq

/-- The name of a kind. -/
def ReceiptKind.text : ReceiptKind → String
  | .workspaceCreate => "workspace_create"
  | .workspaceClone => "workspace_clone"
  | .generationAdvance => "generation_advance"
  | .snapshotCreate => "snapshot_create"
  | .snapshotDelete => "snapshot_delete"
  | .restorePrepare => "restore_prepare"
  | .restoreSwap => "restore_swap"
  | .restoreFinalize => "restore_finalize"
  | .restoreAbort => "restore_abort"
  | .workspaceDelete => "workspace_delete"
  | .relocationExport => "relocation_export"
  | .relocationImport => "relocation_import"
  | .relocationAbort => "relocation_abort"

/-- A chunk of a relocation stream: its length, the superblock it carries if it
    covers one, and which data it holds. -/
structure Chunk where
  length : Nat
  superblock : Option (Bool × FsUUID)
  data : Nat
deriving DecidableEq

/-- `sha256` of a stream: the chunks hashed so far. -/
abbrev Checksum := List Chunk

/-- Immutable replay evidence.  The empty `snapshotID` stands for an absent one,
    and `recordedAt = 0` for the zero time. -/
structure Receipt where
  formatVersion : Nat := 0
  kind : ReceiptKind := .workspaceCreate
  operationID : ID := ""
  workspaceID : ID := ""
  snapshotID : ID := ""
  inputDigest : Digest := ⟨[], []⟩
  generation : UInt64 := 0
  previousGeneration : UInt64 := 0
  capacityBytes : Int := 0
  checksum : Option Checksum := none
  recordedAt : Nat := 0
deriving DecidableEq

/-- `validateReceipt`; the kind and the digest are well formed by their types. -/
def validateReceipt (r : Receipt) : Except StoreErr Unit :=
  if r.formatVersion ≠ receiptFormatVersion ∨ ¬ validID r.operationID ∨ ¬ validID r.workspaceID ∨
      r.recordedAt = 0 then
    .error (.corruptState "invalid operation receipt")
  else if r.snapshotID ≠ "" ∧ ¬ validID r.snapshotID then
    .error (.corruptState "invalid receipt Snapshot ID")
  else .ok ()

/-- The answer of `Inspect`. -/
structure WorkspaceInspection where
  workspaceID : ID
  generation : UInt64
  capacityBytes : Int
  formatted : Bool
  restorePending : Bool
  activeWriter : Bool
  relocationSealed : Bool

/-- The answer of `Reconcile`. -/
structure ReconcileReport where
  workspaces : List WorkspaceInspection
  receipts : List Receipt

end SecondBox.WorkspaceStore

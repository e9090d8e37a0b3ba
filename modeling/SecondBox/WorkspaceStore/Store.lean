/-
  The store as a state machine: the disk together with the handles the Runner
  process holds, and the calls that move it.

  A call runs its program against the fates of one `Moment`.  A crash loses the
  handles, except attachments whose lock a compute helper inherited (`keep`);
  the disk stays as the crash left it.
-/
import SecondBox.WorkspaceStore.Relocation

namespace SecondBox.WorkspaceStore

open Crash Crash.Prog

/-- The disk and the open handles. -/
structure Store where
  disk : Disk
  /-- open attachments, each with the image it writes to -/
  attachments : List (ID × ImageName)
  /-- open relocation readers -/
  exports : List ID
  /-- relocation imports, in the order they were begun -/
  imports : List RelocationImport

/-- A new store. -/
def Store.init : Store := ⟨.empty, [], [], []⟩

/-- Whether an open handle holds the writer lock of `w`. -/
def Store.held (s : Store) (w : ID) : Bool :=
  s.attachments.any (·.1 == w) || s.exports.contains w ||
    s.imports.any fun h => h.locked && h.request.workspaceID == w

/-- The circumstances of one call: the clock, the fate of each of its steps, and
    the attachments that would outlive a crash of the process. -/
structure Moment where
  now : Nat
  now_pos : 0 < now
  fates : List Fate
  keep : ID → Bool

/-- The environment of a call. -/
def Store.env (s : Store) (t : Moment) : Env := ⟨t.now, t.now_pos, s.held⟩

/-- A moment in which nothing goes wrong. -/
def Moment.calm : Moment := ⟨1, by decide, [], fun _ => false⟩

/-- The calls. -/
inductive Call where
  | create (r : CreateWorkspaceRequest)
  | cloneFromSnapshot (r : CloneWorkspaceRequest)
  | openWorkspace (w : ID) (expectedGeneration : UInt64)
  | closeAttachment (w : ID)
  /-- compute writes to the image of an attachment -/
  | guestWrite (w : ID) (written : Image)
  | advanceGeneration (r : AdvanceGenerationRequest)
  | createSnapshot (r : CreateSnapshotRequest)
  | deleteSnapshot (r : DeleteSnapshotRequest)
  | prepareRestore (r : PrepareRestoreRequest)
  | swapRestore (r : SwapRestoreRequest)
  | finalizeRestore (m : RestoreMutation)
  | abortRestore (m : RestoreMutation)
  | deleteWorkspace (r : DeleteWorkspaceRequest)
  | openRelocationExport (r : RelocationExportRequest)
  | closeExport (w : ID)
  | abortRelocation (r : RelocationExportRequest)
  | beginRelocationImport (r : RelocationImportRequest)
  | writeChunk (i : Nat) (offset : Nat) (c : Chunk)
  | complete (i : Nat) (size : Nat) (checksum : Checksum)
  | abortImport (i : Nat)
  | inspect (w : ID)
  | reconcile
  /-- the process dies between two operations -/
  | kill

/-- Replace an import. -/
def Store.setImport (i : Nat) (h : RelocationImport) (s : Store) : Store :=
  { s with imports := s.imports.set i h }

/-- The program of a call, and what it does to the handles when it succeeds. -/
def Call.prog (s : Store) (env : Env) : Call → Op (Store → Store)
  | .create r => do
    let _ ← WorkspaceStore.create env r
    pure id
  | .cloneFromSnapshot r => do
    let _ ← WorkspaceStore.cloneFromSnapshot env r
    pure id
  | .openWorkspace w g => do
    let m ← WorkspaceStore.openWorkspace env w g
    pure fun s => { s with attachments := (w, m.image) :: s.attachments }
  | .closeAttachment w => pure fun s => { s with attachments := s.attachments.filter (·.1 ≠ w) }
  | .guestWrite w written =>
    match s.attachments.find? (·.1 == w) with
    | none => pure id
    | some (_, image) => do
      match ← asking fun d => d.images.lookup (.version w image) with
      | none => pure id
      | some i =>
        sys .io (Disk.setImage (.version w image) { written with size := i.size, mode := i.mode })
        pure id
  | .advanceGeneration r => do
    let _ ← WorkspaceStore.advanceGeneration env r
    pure id
  | .createSnapshot r => do
    let _ ← WorkspaceStore.createSnapshot env r
    pure id
  | .deleteSnapshot r => do
    let _ ← WorkspaceStore.deleteSnapshot env r
    pure id
  | .prepareRestore r => do
    let _ ← WorkspaceStore.prepareRestore env r
    pure id
  | .swapRestore r => do
    let _ ← WorkspaceStore.swapRestore env r
    pure id
  | .finalizeRestore m => do
    let _ ← WorkspaceStore.finalizeRestore env m
    pure id
  | .abortRestore m => do
    let _ ← WorkspaceStore.abortRestore env m
    pure id
  | .deleteWorkspace r => do
    let _ ← WorkspaceStore.deleteWorkspace env r
    pure id
  | .openRelocationExport r => do
    let _ ← WorkspaceStore.openRelocationExport env r
    pure fun s => { s with exports := r.workspaceID :: s.exports }
  | .closeExport w => pure fun s => { s with exports := s.exports.filter (· ≠ w) }
  | .abortRelocation r => do
    let _ ← WorkspaceStore.abortRelocation env r
    pure id
  | .beginRelocationImport r => do
    let h ← WorkspaceStore.beginRelocationImport env r
    pure fun s => { s with imports := s.imports ++ [h] }
  | .writeChunk i offset c =>
    match s.imports[i]? with
    | none => pure id
    | some h => do
      let h' ← WorkspaceStore.writeChunk h offset c
      pure (Store.setImport i h')
  | .complete i size checksum =>
    match s.imports[i]? with
    | none => pure id
    | some h => do
      let (h', _) ← WorkspaceStore.complete env h size checksum
      pure (Store.setImport i h')
  | .abortImport i =>
    match s.imports[i]? with
    | none => pure id
    | some h => do
      let (h', _) ← WorkspaceStore.abort h
      pure (Store.setImport i h')
  | .inspect w => do
    let _ ← WorkspaceStore.inspect env w
    pure id
  | .reconcile => do
    let _ ← reading (WorkspaceStore.reconcile env)
    pure id
  | .kill => sys .io id >>= fun _ => pure id

/-- The store after a crash that left `d` on disk. -/
def Store.crash (s : Store) (t : Moment) (d : Disk) : Store :=
  ⟨d, s.attachments.filter fun a => t.keep a.1, [], []⟩

/-- One call, whatever becomes of it. -/
def Store.step (s : Store) (c : Call) (t : Moment) : Store :=
  match (c.prog s (s.env t)).exec t.fates s.disk with
  | (.done (.ok f), d) => f { s with disk := d }
  | (.done (.error _), d) => { s with disk := d }
  | (.crashed, d) => s.crash t d

end SecondBox.WorkspaceStore

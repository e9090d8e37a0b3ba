/-
  A Workspace relocation between two Runners: `handleWorkspaceRelocationExport`
  at the source, `handleWorkspaceTransferFrame` at the target, and the frames
  between them, which the control plane passes on in order.

  The source sends a chunk for credit only; the target grants a window when it
  opens and what it has written afterwards.  A frame stays in its channel until
  the other side has handled it.  `takeCredit` and `addCredit` are sections of a
  mutex and so single steps; the source sends in a later step with the credit it
  has taken.

  `targetLost` is the loss of the target's connection.  When both connections
  are new (`restart`), the frames and the state both sides kept in memory are
  gone, and the control plane has the sealed source export again; an image that
  the target has published stays.  A source that reconnects alone, to a target
  with a half import, is left out.
-/
import SecondBox.Runner.SparseImport
import SecondBox.Base.History

namespace SecondBox.Runner

/-- The bytes of a chunk. -/
def workspaceRelocationChunkBytes : ℕ := 64 * 1024

/-- The credit a target begins with. -/
def workspaceRelocationWindowBytes : ℕ := 1024 * 1024

namespace Relocation

/-! ## State -/

/-- What the export command says, and the image it finds sealed. -/
structure Export where
  operationId : String
  sandboxId : String
  workspaceId : String
  expectedGeneration : ℕ
  logicalCapacityBytes : ℕ
  fencingToken : Bytes
  image : Bytes

/-- SHA-256, and the form a checksum in a Commit must have. -/
structure Digests where
  sha256 : Bytes → String
  wellFormed : String → Bool

/-- How far the source is. -/
inductive Stage where
  | closed
  /-- in the loop over the image -/
  | sending
  /-- the Commit is sent -/
  | waiting
  | ended
deriving DecidableEq

/-- `workspaceRelocationSource` and the local variables of the export. -/
structure Source where
  stage : Stage := .closed
  credit : ℕ := 0
  /-- taken by `takeCredit` and not used yet -/
  taken : Option ℕ := none
  failure : Bool := false
  offset : ℕ := 0
  sequence : ℕ := 0
  hashed : Bytes := []

/-- `workspaceRelocationTarget`. -/
structure Target where
  importer : RelocationImport
  inboundSequence : ℕ
  outboundSequence : ℕ := 0

/-- Both ends and the frames between them. -/
structure State where
  source : Source := {}
  toTarget : List WorkspaceTransferFrame := []
  target : Option Target := none
  toSource : List WorkspaceTransferFrame := []
  /-- what the target has published for this operation -/
  store : Option ImportedImage := none
  /-- every frame of this export so far -/
  sent : List WorkspaceTransferFrame := []
  /-- every frame the target has ever sent -/
  reports : List WorkspaceTransferFrame := []

/-- How `io.ReadFull` ends: full, or with an error after some bytes. -/
inductive ReadResult where
  | full
  | endOfFile (bytes : ℕ)
  | failed (bytes : ℕ)
deriving DecidableEq

/-- How many bytes were read of `limit`. -/
def ReadResult.bytes (r : ReadResult) (limit : ℕ) : ℕ :=
  match r with
  | .full => limit
  | .endOfFile bytes | .failed bytes => min bytes limit

/-- How the target's file system answers. -/
structure Answers where
  /-- a step of the import fails -/
  fault : Bool := false
  /-- the length of the file that `ResetSparse` leaves -/
  resetBytes : ℕ := 0
  /-- the receipt is recorded and its clean-up fails -/
  cleanupFault : Bool := false

/-- The actions of both ends. -/
inductive Action where
  /-- the export command reaches the source -/
  | start
  | takeCredit
  | sendChunk (r : ReadResult)
  | commit
  /-- `takeCredit` or the final wait ends with an error -/
  | giveUp
  | receiveAtSource
  | receiveAtTarget (a : Answers)
  /-- the target's connection ends, and so many frames are lost -/
  | targetLost (towards back : ℕ)
  /-- both connections are new -/
  | restart

/-! ## The source -/

variable (digests : Digests) (e : Export)

/-- A frame of this transfer. -/
def frame (sequence : ℕ) (payload : WorkspaceTransferPayload) : WorkspaceTransferFrame where
  operationId := e.operationId
  sandboxId := e.sandboxId
  workspaceId := e.workspaceId
  generation := e.expectedGeneration
  sequence := sequence
  payload := payload

variable (s : State)

namespace State

/-- The source sends the frame after the last. -/
def sendToTarget (payload : WorkspaceTransferPayload) : State :=
  let f := frame e (s.source.sequence + 1) payload
  { s with
    source := { s.source with sequence := s.source.sequence + 1 }
    toTarget := s.toTarget ++ [f]
    sent := s.sent ++ [f] }

/-- `sendWorkspaceRelocationFailure`, with which the export returns. -/
def sendFailure (detail : String) : State :=
  let s := s.sendToTarget e (.result .runnerFailed 0 "" detail)
  { s with source := { s.source with stage := .ended } }

/-- `handleWorkspaceRelocationExport` up to its loop. -/
def start : State :=
  if s.source.stage ≠ .closed ∨ e.expectedGeneration = 0 ∨ e.logicalCapacityBytes = 0 ∨
    e.fencingToken = [] then s
  else if e.image.length ≠ e.logicalCapacityBytes then
    s.sendFailure e "source Workspace size changed after sealing"
  else
    let s := s.sendToTarget e (.opens e.logicalCapacityBytes e.fencingToken)
    { s with source := { s.source with stage := .sending } }

/-- `takeCredit` -/
def takeCredit : State :=
  if s.source.stage = .sending ∧ s.source.taken = none ∧ s.source.offset < e.image.length ∧
    0 < s.source.credit then
    let granted := min s.source.credit workspaceRelocationChunkBytes
    { s with source := { s.source with credit := s.source.credit - granted, taken := some granted } }
  else s

/-- The rest of the loop body: read, hash and send. -/
def sendChunk (r : ReadResult) : State :=
  match s.source.taken with
  | none => s
  | some credit =>
    let limit := min credit (e.image.length - s.source.offset)
    let read := r.bytes limit
    let chunk := (e.image.drop s.source.offset).take read
    let s := { s with source := { s.source with taken := none } }
    let s :=
      if 0 < read then
        let s := s.sendToTarget e (.chunk s.source.offset chunk)
        { s with
          source := { s.source with offset := s.source.offset + read, hashed := s.source.hashed ++ chunk } }
      else s
    match r with
    | .failed _ => s.sendFailure e "source Workspace read failed"
    | _ => if read = 0 then s.sendFailure e "source Workspace ended before its logical size" else s

/-- The source sends its Commit. -/
def commit : State :=
  if s.source.stage = .sending ∧ s.source.taken = none ∧ e.image.length ≤ s.source.offset then
    let s := s.sendToTarget e (.commit s.source.offset (digests.sha256 s.source.hashed))
    { s with source := { s.source with stage := .waiting } }
  else s

/-- A frame for the source; without an export it is an error. -/
def receiveAtSource : State :=
  match s.toSource with
  | [] => s
  | f :: rest =>
    let s := { s with toSource := rest }
    if s.source.stage = .sending ∨ s.source.stage = .waiting then
      match f.payload with
      | .credit byteCount =>
        { s with source := { s.source with credit := s.source.credit + byteCount } }
      | .result .. | .cancel _ => { s with source := { s.source with failure := true } }
      | _ => s
    else s

/-! ## The target -/

/-- A frame the target sends back, numbered by `t`. -/
def sendToSource (t : Target) (f : WorkspaceTransferFrame) (payload : WorkspaceTransferPayload) :
    State :=
  let f := { f with sequence := t.outboundSequence + 1, payload := payload }
  { s with toSource := s.toSource ++ [f], reports := s.reports ++ [f] }

/-- `failWorkspaceRelocationTarget`. -/
def failTarget (t : Target) (f : WorkspaceTransferFrame) (detail : String) : State :=
  { s with target := none }.sendToSource t f (.result .runnerFailed 0 "" detail)

/-- `sendWorkspaceRelocationCredit`. -/
def sendCredit (t : Target) (f : WorkspaceTransferFrame) (credit : ℕ) : State :=
  { s with target := some { t with outboundSequence := t.outboundSequence + 1 } }.sendToSource t f
    (.credit credit)

/-- `sendWorkspaceRelocationTargetResult`. -/
def sendTargetResult (t : Target) (f : WorkspaceTransferFrame) (image : ImportedImage) : State :=
  s.sendToSource t f (.result .succeeded image.capacityBytes image.checksum "")

/-- `beginWorkspaceRelocationImport`: an import that has its receipt is only reported again. -/
def beginImport (f : WorkspaceTransferFrame) (capacity : ℕ) (token : Bytes) (a : Answers) : State :=
  if f.sequence ≠ 1 ∨ capacity = 0 ∨ token = [] then s
  else
    let s := { s with target := none }
    let importer : RelocationImport :=
      { capacityBytes := capacity, content := List.replicate a.resetBytes 0 }
    let t : Target := { importer, inboundSequence := f.sequence }
    if a.fault then s.failTarget t f "target Workspace import could not start"
    else match s.store with
    | some image => s.sendTargetResult t f image
    | none => s.sendCredit t f workspaceRelocationWindowBytes

/-- `validateWorkspaceTransferFrame`, but for the identities, which are the command's. -/
def admitted (f : WorkspaceTransferFrame) : Bool :=
  f.generation ≠ 0 && f.sequence ≠ 0 &&
  match f.payload with
  | .unset => false
  | .credit byteCount => byteCount ≠ 0
  | .result terminal .. => terminal ≠ .unspecified
  | _ => true

/-- `handleWorkspaceTransferFrame` at the target. -/
def handleAtTarget (f : WorkspaceTransferFrame) (a : Answers) : State :=
  if !admitted f then s
  else match f.payload with
  | .opens capacity token => s.beginImport f capacity token a
  | payload =>
    match s.target with
    | none => s
    | some t =>
      if f.sequence ≠ t.inboundSequence + 1 then s
      else
        let t := { t with inboundSequence := f.sequence }
        let s := { s with target := some t }
        match payload with
        | .chunk offset data =>
          if data = [] ∨ workspaceRelocationChunkBytes < data.length then s
          else match t.importer.writeChunk offset data a.fault with
          | none => s.failTarget t f "target Workspace write failed"
          | some importer => s.sendCredit { t with importer } f data.length
        | .commit size checksum =>
          if !digests.wellFormed checksum then s
          else match t.importer.complete digests.sha256 size checksum a.fault with
          | none => s.failTarget t f "target Workspace import failed"
          | some image =>
            if a.cleanupFault then { s with store := some image }
            else { s with store := some image, target := none }.sendTargetResult t f image
        | .result .. | .cancel _ => { s with target := none }
        | _ => s

/-- The next frame reaches the target. -/
def receiveAtTarget (a : Answers) : State :=
  match s.toTarget with
  | [] => s
  | f :: rest => { s with toTarget := rest }.handleAtTarget digests f a

end State

/-- One action. -/
def next : Action → State
  | .start => s.start e
  | .takeCredit => s.takeCredit e
  | .sendChunk r => s.sendChunk e r
  | .commit => s.commit digests e
  | .giveUp =>
    if s.source.taken = none ∧ s.source.stage ≠ .closed then
      { s with source := { s.source with stage := .ended } } else s
  | .receiveAtSource => s.receiveAtSource
  | .receiveAtTarget a => s.receiveAtTarget digests a
  | .targetLost towards back =>
    { s with target := none, toTarget := s.toTarget.drop towards, toSource := s.toSource.drop back }
  | .restart => { store := s.store, reports := s.reports }

end Relocation

end SecondBox.Runner

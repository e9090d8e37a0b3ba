/-
  File operations as a registry.
-/
import SecondBox.Runner.Refine

namespace SecondBox.Runner

open Relational Once

/-! ## Operations -/

/-- What an ended File operation answers. -/
def FileOperationState.lastWord (op : FileOperationState) : Message :=
  match op.terminalFrame with
  | some frame => .file frame
  | none => .drainState .active []

/-- No worker will be started for the operation any more. -/
def FileOperationState.spent (op : FileOperationState) : Bool :=
  match op.stage with
  | .opening _ | .uploading => false
  | _ => true

/-- An operation stands under its own key, and its terminal is the one it keeps. -/
structure FileOk (key : String) (op : FileOperationState) : Prop where
  stands : runnerDataPlaneOperationKey op.identity = key
  stage : op.stage = .ended ↔ op.terminal = true
  waiting : op.started = false → op.stage = .uploading ∨ op.stage = .ended ∨
    ∃ atCapacity, op.stage = .opening atCapacity
  silent : op.terminal = false → op.terminalFrame = none
  kept : op.terminal = true → ∃ frame, op.terminalFrame = some frame
  last : op.terminal = true → op.lastWord.terminalOf = some (.file, key)

/-- Nothing that matters for the end of an operation has changed. -/
structure SameFile (op op' : FileOperationState) : Prop where
  identity : op'.identity = op.identity := by rfl
  stage : op'.stage = op.stage := by rfl
  started : op'.started = false → op.started = false := by simp
  terminal : op'.terminal = op.terminal := by rfl
  terminalFrame : op'.terminalFrame = op.terminalFrame := by rfl

/-- File operations, for the argument about their ends. -/
def fileShape : Shape FileOperationState where
  kind := .file
  terminal := FileOperationState.terminal
  lastWord := FileOperationState.lastWord
  spent := FileOperationState.spent
  Ok := FileOk
  last hok := hok.last
  spent_of_terminal hok ht := by rw [FileOperationState.spent, hok.stage.2 ht]

section Same
variable {op op' : FileOperationState} {key : String}

theorem SameFile.lastWord (h : SameFile op op') : op'.lastWord = op.lastWord := by
  rw [FileOperationState.lastWord, FileOperationState.lastWord, h.terminalFrame]

theorem SameFile.answer (h : SameFile op op') : fileShape.answer op' = fileShape.answer op := by
  change (if op'.terminal then some op'.lastWord else none) = if op.terminal then
    some op.lastWord else none
  rw [h.terminal, h.lastWord]

theorem SameFile.spent (h : SameFile op op') : op'.spent = op.spent := by
  rw [FileOperationState.spent, FileOperationState.spent, h.stage]

theorem SameFile.ok (h : SameFile op op') (hok : FileOk key op) : FileOk key op' where
  stands := by rw [h.identity, hok.stands]
  stage := by rw [h.stage, h.terminal, hok.stage]
  waiting hstarted := by rw [h.stage]; exact hok.waiting (h.started hstarted)
  silent := by rw [h.terminal, h.terminalFrame]; exact hok.silent
  kept := by rw [h.terminal, h.terminalFrame]; exact hok.kept
  last := by rw [h.terminal, h.lastWord]; exact hok.last

end Same

/-! ## Steps on File operations -/

/-- The File operations are in order. -/
abbrev Service.FileSound (s : Service) : Prop := fileShape.Sound s.fileOperations

/-- The result is a sequence of moves on File operations and touches nothing of the other kinds. -/
structure FileRefines (s : Service) (r : Result) : Prop where
  run : fileShape.Run (fun _ => False) s.fileOperations r.events r.service.fileOperations
  exec : r.service.execOperations = s.execOperations
  port : r.service.portOperations = s.portOperations
  direct : r.service.directPorts = s.directPorts

section Refines
variable {s : Service} {key : String} {op op' : FileOperationState} {es : List Event}
  {err : Option Error}

theorem known_file {r : Registry String FileOperationState} {ev : Event} (stream : Stream)
    (hk : r.get key = some op) (h : op.terminal = true ∧ ev = .sent stream op.lastWord) :
    fileShape.Known r ev := .inr ⟨stream, key, op, hk, h.1, h.2⟩

variable (config : Config) (enabled : Features) (hs : s.FileSound)
include hs

theorem FileRefines.still (hes : ∀ ev ∈ es, fileShape.Known s.fileOperations ev) :
    FileRefines s { service := s, events := es, error := err } := ⟨.still hs hes, rfl, rfl, rfl⟩

theorem FileRefines.fail (err : Option Error) : FileRefines s { service := s, error := err } :=
  ⟨.none hs, rfl, rfl, rfl⟩

theorem FileRefines.put (hk : s.fileOperations.get key = some op) (hok : FileOk key op')
    (ha : fileShape.answer op' = fileShape.answer op) (hsp : op.spent = true → op'.spent = true)
    (err : Option Error) : FileRefines s { service := s.putFile key op', error := err } :=
  ⟨.put hs hk hok ha hsp, rfl, rfl, rfl⟩

theorem FileRefines.touch (hk : s.fileOperations.get key = some op) (h : SameFile op op')
    (err : Option Error) : FileRefines s { service := s.putFile key op', error := err } :=
  .put hs hk (h.ok (hs.ok key op hk)) h.answer (fun hsp => h.spent.trans hsp) err

theorem FileRefines.record (hk : s.fileOperations.get key = none) (hok : FileOk key op')
    (ht' : op'.terminal = true) (hes : Sends op'.lastWord es) :
    FileRefines s { service := s.retainFileTerminal key op',
                    events :=
                      [.entered .file key, .retained .file key, .absent .file key] ++ es } := by
  have hblank : fileShape.terminal { op' with terminal := false } = false := rfl
  exact ⟨.record hs hk hok ht' hes hblank, rfl, rfl, rfl⟩

omit hs in
/-- An operation with a terminal frame has ended, and the frame is what it answers. -/
theorem FileOk.lastWord_of_frame (hok : FileOk key op) {frame : FileFrame}
    (h : op.terminalFrame = some frame) :
    op.terminal = true ∧ op.lastWord = .file frame := by
  refine ⟨?_, by rw [FileOperationState.lastWord, h]⟩
  by_contra hf
  rw [hok.silent (Bool.not_eq_true _ ▸ hf)] at h
  cases h

theorem sendFileTerminal_refines (hk : s.fileOperations.get key = some op) (t : FileTerminal) :
    FileRefines s (sendFileTerminal s key op t) := by
  have hok := hs.ok key op hk
  rw [sendFileTerminal]
  cases ht : op.terminal with
  | true =>
    obtain ⟨frame, hframe⟩ := hok.kept ht
    rw [if_pos rfl, hframe]
    refine .still hs fun ev hev => known_file op.stream hk ⟨ht, ?_⟩
    rw [(hok.lastWord_of_frame hframe).2]
    exact List.mem_singleton.1 hev
  | false =>
    rw [if_neg Bool.false_ne_true]
    refine ⟨.finish_sends hs hk ht ?_ rfl (sends_sendOperationTerminal s _ _ _), rfl, rfl, rfl⟩
    refine ⟨hok.stands, by simp, fun _ => .inr (.inl rfl), by simp, by simp, fun _ => ?_⟩
    simp [FileOperationState.lastWord, Message.terminalOf, FileOperationState.frame, outgoing,
      Frame.key, hok.stands]

/-- A worker is started for an operation that none was started for. -/
theorem startFile_refines (hk : s.fileOperations.get key = some op) (hsp : op.spent = false)
    (hrunning : op'.stage = .running) (hstarted : op'.started = true)
    (hidentity : op'.identity = op.identity) (hterminal : op'.terminal = op.terminal)
    (hframe : op'.terminalFrame = op.terminalFrame) :
    FileRefines s { service := s.putFile key op', events := [.started .file key] } := by
  have hok := hs.ok key op hk
  -- but for the stage nothing that matters has changed
  have hsame : SameFile op { op' with stage := op.stage } :=
    ⟨hidentity, rfl, by simp [hstarted], hterminal, hframe⟩
  have hok₀ := hsame.ok hok
  have ht : op'.terminal = false := by
    refine Bool.eq_false_iff.2 fun ht => ?_
    have hended := hok.stage.2 (hterminal.symm.trans ht)
    rw [FileOperationState.spent, hended] at hsp
    cases hsp
  have hok' : FileOk key op' :=
    ⟨hok₀.stands, by simp [ht, hrunning], by simp [hstarted], hok₀.silent, hok₀.kept, hok₀.last⟩
  have hsp' : op'.spent = true := by rw [FileOperationState.spent, hrunning]
  exact ⟨.start hs hk hok' hsame.answer hsp hsp', rfl, rfl, rfl⟩

/-! ## Frames of a File stream -/

theorem decideFileOpen_refines (key : String) : FileRefines s (decideFileOpen config s key) := by
  rw [decideFileOpen]
  split
  · exact .fail hs none
  next op hk =>
  split
  · next atCapacity o hst ho =>
    have hsp : op.spent = false := by rw [FileOperationState.spent, hst]
    split
    · exact sendFileTerminal_refines hs hk _
    split
    · exact sendFileTerminal_refines hs hk _
    split
    · exact sendFileTerminal_refines hs hk _
    split
    · exact startFile_refines hs hk hsp rfl rfl rfl rfl rfl
    · have hok := hs.ok key op hk
      have ht : op.terminal = false := Bool.eq_false_iff.2 fun ht => by
        have h := hok.stage.2 ht
        rw [hst] at h
        cases h
      have hok' : FileOk key { op with stage := .uploading } :=
        ⟨hok.stands, by simp [ht], fun _ => .inl rfl, hok.silent, hok.kept, hok.last⟩
      refine .put hs hk hok' rfl (fun h => ?_) none
      rw [hsp] at h
      cases h
  · exact .fail hs none

theorem continueFile_refines (hk : s.fileOperations.get key = some op) (stream : Stream)
    (frame : FileFrame) : FileRefines s (continueFile s stream key op frame) := by
  have hok := hs.ok key op hk
  have htouch : ∀ {op' : FileOperationState} (err : Option Error), SameFile op op' →
      FileRefines s { service := s.putFile key op', error := err } :=
        fun err h => .touch hs hk h err
  rw [continueFile]
  split
  · exact .fail hs _
  split
  · refine .still hs fun ev hev => known_file stream hk ?_
    cases hframe : op.terminalFrame with
    | none => simp [hframe] at hev
    | some terminal =>
      obtain ⟨ht, hword⟩ := hok.lastWord_of_frame hframe
      refine ⟨ht, ?_⟩
      rw [hword]
      simpa [hframe] using hev
  · exact .fail hs _
  · dsimp only
    split
    · exact htouch _ {}
    split
    · split <;> exact htouch _ {}
    · exact htouch _ {}
    · split
      · exact htouch _ {}
      split
      · exact htouch _ {}
      split
      · exact htouch _ {}
      split
      · exact htouch _ {}
      split
      · split
        · next hst =>
          -- the last chunk of a write that waits for it
          refine startFile_refines hs hk ?_ rfl rfl rfl rfl rfl
          rw [FileOperationState.spent, hst]
        · exact htouch _ {}
      · exact htouch _ {}
    · exact htouch _ {}

theorem handleFileFrame_refines (stream : Stream)
    (frame : FileFrame) : FileRefines s (handleFileFrame config enabled s stream frame) := by
  rw [handleFileFrame]
  split
  · exact .fail hs _
  split
  · exact .fail hs _
  dsimp only
  split
  · next op hk => exact continueFile_refines hs hk stream frame
  next hk =>
  split
  · split
    · exact .fail hs _
    split
    · exact .fail hs _
    split
    · exact .fail hs _
    · refine ⟨.enter hs hk ⟨rfl, by simp, ?_, by simp, by simp, by simp⟩ rfl, rfl, rfl, rfl⟩
      exact fun _ => .inr (.inr ⟨_, rfl⟩)
  · exact .fail hs _

/-! ## The worker of a File operation -/

theorem uploadCancelled_refines (key : String) : FileRefines s (uploadCancelled s key) := by
  rw [uploadCancelled]
  split
  · exact .fail hs none
  next op hk =>
  split
  · next hwait =>
    have hok := hs.ok key op hk
    have ht : op.terminal = false := by
      cases ht : op.terminal with
      | false => rfl
      | true => simp [ht] at hwait
    have hok' : FileOk key { op with started := true, content := [], stage := .aborting } :=
      ⟨hok.stands, by simp [ht], by simp, hok.silent, hok.kept, hok.last⟩
    exact .put hs hk hok' rfl (fun _ => rfl) none
  · exact .fail hs none

theorem uploadAborted_refines (key : String) : FileRefines s (uploadAborted s key) := by
  rw [uploadAborted]
  split
  · exact .fail hs none
  next op hk =>
  split
  · exact sendFileTerminal_refines hs hk _
  · exact .fail hs none

theorem fileReturns_refines (key : String) (r : FileReturn) :
    FileRefines s (fileReturns s key r) := by
  rw [fileReturns]
  split
  · exact .fail hs none
  next op hk =>
  split
  · exact sendFileTerminal_refines hs hk _
  · exact .fail hs none

theorem fileOutput_refines (key : String) (payload : FilePayload) :
    FileRefines s (fileOutput s key payload) := by
  rw [fileOutput]
  split
  · exact .fail hs none
  next op hk =>
  have hsend : ∀ (used : ℕ) (payload : FilePayload),
      (Message.file (op.frame payload)).terminalOf = none →
      FileRefines s
        { service := s.putFile key { op with nextOutgoing := op.nextOutgoing + 1, credit := op.credit - used }
          events := [.sent op.stream (.file (op.frame payload))] } := by
    intro used payload hnone
    have hsame : SameFile op { op with nextOutgoing := op.nextOutgoing + 1, credit := op.credit - used } := {}
    have htouch := FileRefines.touch hs hk hsame none
    refine ⟨htouch.run.sending fun ev hev => .inl fun k => ?_, htouch.exec, htouch.port,
      htouch.direct⟩
    rw [List.mem_singleton.1 hev]
    exact of_sent_none hnone k
  dsimp only
  split
  · exact hsend 0 _ rfl
  · split
    · exact .fail hs none
    · exact hsend _ _ rfl
  · exact .fail hs none

end Refines

end SecondBox.Runner

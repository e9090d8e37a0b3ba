/-
  Exec and PTY operations as a registry.
-/
import SecondBox.Runner.Refine

namespace SecondBox.Runner

open Relational Once

/-! ## Operations -/

/-- What an ended Exec answers. -/
def ExecOperation.lastWord (op : ExecOperation) : Message :=
  match op.ptyTerminalFrame, op.terminalFrame with
  | some frame, _ => .pty frame
  | none, some frame => .exec frame
  | none, none => .drainState .active []

/-- No worker will be started for the operation any more. -/
def ExecOperation.spent (op : ExecOperation) : Bool :=
  match op.stage with
  | .opening _ _ _ => false
  | _ => true

/-- An operation stands under its own key, and its terminal is the one it keeps. -/
structure ExecOk (key : String) (op : ExecOperation) : Prop where
  stands : runnerDataPlaneOperationKey op.identity = key
  stage : op.stage = .ended ↔ op.terminal = true
  opened : ∀ atCapacity o ptyEnabled, op.stage = .opening atCapacity o ptyEnabled →
    op.pty = o.allocatePty
  silent : op.terminal = false → op.ptyTerminalFrame = none ∧ op.terminalFrame = none
  pty : op.terminal = true → op.pty = true → op.terminalFrame = none ∧
    ∃ frame, op.ptyTerminalFrame = some frame
  exec : op.terminal = true → op.pty = false → op.ptyTerminalFrame = none ∧
    ∃ frame, op.terminalFrame = some frame
  last : op.terminal = true → op.lastWord.terminalOf = some (.exec, key)
  replay : ∀ frame ∈ op.ptyReplay, (Message.pty frame).terminalOf = none ∨
    op.terminal = true ∧ op.lastWord = .pty frame

/-- Nothing that matters for the end of an operation has changed. -/
structure SameExec (op op' : ExecOperation) : Prop where
  identity : op'.identity = op.identity := by rfl
  stage : op'.stage = op.stage := by rfl
  terminal : op'.terminal = op.terminal := by rfl
  ptyTerminalFrame : op'.ptyTerminalFrame = op.ptyTerminalFrame := by rfl
  terminalFrame : op'.terminalFrame = op.terminalFrame := by rfl
  pty : op'.pty = op.pty := by rfl
  ptyReplay : op'.ptyReplay = op.ptyReplay := by rfl

section Same
variable {op op' : ExecOperation} {key : String}

theorem SameExec.lastWord (h : SameExec op op') : op'.lastWord = op.lastWord := by
  rw [ExecOperation.lastWord, ExecOperation.lastWord, h.ptyTerminalFrame, h.terminalFrame]

theorem SameExec.spent (h : SameExec op op') : op'.spent = op.spent := by
  rw [ExecOperation.spent, ExecOperation.spent, h.stage]

theorem SameExec.ok (h : SameExec op op') (hok : ExecOk key op) : ExecOk key op' where
  stands := by rw [h.identity, hok.stands]
  stage := by rw [h.stage, h.terminal, hok.stage]
  opened := by rw [h.stage, h.pty]; exact hok.opened
  silent := by rw [h.terminal, h.ptyTerminalFrame, h.terminalFrame]; exact hok.silent
  pty := by rw [h.terminal, h.pty, h.ptyTerminalFrame, h.terminalFrame]; exact hok.pty
  exec := by rw [h.terminal, h.pty, h.ptyTerminalFrame, h.terminalFrame]; exact hok.exec
  last := by rw [h.terminal, h.lastWord]; exact hok.last
  replay := by rw [h.terminal, h.lastWord, h.ptyReplay]; exact hok.replay

end Same

/-- Exec operations, for the argument about their ends. -/
def execShape : Shape ExecOperation where
  kind := .exec
  terminal := ExecOperation.terminal
  lastWord := ExecOperation.lastWord
  spent := ExecOperation.spent
  Ok := ExecOk
  last hok := hok.last
  spent_of_terminal hok ht := by rw [ExecOperation.spent, hok.stage.2 ht]

theorem SameExec.answer {op op' : ExecOperation} (h : SameExec op op') :
    execShape.answer op' = execShape.answer op := by
  change (if op'.terminal then some op'.lastWord else none) = if op.terminal then
    some op.lastWord else none
  rw [h.terminal, h.lastWord]

/-! ## Steps on Exec operations -/

/-- The Exec operations are in order. -/
abbrev Service.ExecSound (s : Service) : Prop := execShape.Sound s.execOperations

/-- The result is a sequence of moves on Exec operations and touches nothing of the other kinds. -/
structure ExecRefines (s : Service) (r : Result) : Prop where
  run : execShape.Run (fun _ => False) s.execOperations r.events r.service.execOperations
  file : r.service.fileOperations = s.fileOperations
  port : r.service.portOperations = s.portOperations
  direct : r.service.directPorts = s.directPorts

section Refines
variable {s : Service} {key : String} {op op' : ExecOperation} {es : List Event}
  {err : Option Error}

theorem known_exec {r : Registry String ExecOperation} {ev : Event} (stream : Stream)
    (hk : r.get key = some op) (h : op.terminal = true ∧ ev = .sent stream op.lastWord) :
    execShape.Known r ev := .inr ⟨stream, key, op, hk, h.1, h.2⟩

variable (config : Config) (enabled : Features) (hs : s.ExecSound)
include hs

theorem ExecRefines.still (hes : ∀ ev ∈ es, execShape.Known s.execOperations ev) :
    ExecRefines s { service := s, events := es, error := err } := ⟨.still hs hes, rfl, rfl, rfl⟩

theorem ExecRefines.fail (err : Option Error) : ExecRefines s { service := s, error := err } :=
  ⟨.none hs, rfl, rfl, rfl⟩

theorem ExecRefines.put (hk : s.execOperations.get key = some op) (hok : ExecOk key op')
    (ha : execShape.answer op' = execShape.answer op) (hsp : op.spent = true → op'.spent = true)
    (err : Option Error) : ExecRefines s { service := s.putExec key op', error := err } :=
  ⟨.put hs hk hok ha hsp, rfl, rfl, rfl⟩

theorem ExecRefines.touch (hk : s.execOperations.get key = some op) (h : SameExec op op')
    (err : Option Error) : ExecRefines s { service := s.putExec key op', error := err } :=
  .put hs hk (h.ok (hs.ok key op hk)) h.answer (fun hsp => h.spent.trans hsp) err

omit hs in
theorem ExecRefines.sending {r : Result} (h : ExecRefines s r)
    (hes : ∀ ev ∈ es, execShape.Known r.service.execOperations ev) :
    ExecRefines s { r with events := r.events ++ es } :=
  ⟨h.run.sending hes, h.file, h.port, h.direct⟩

omit hs in
theorem retainExecTerminal_eq (s : Service) (key : String) (op : ExecOperation) :
    ∃ sessions, s.retainExecTerminal key op = { s with
      execOperations := ((s.execOperations.put key op).retain maxRunnerDataPlaneTerminalTombstones
        ExecOperation.terminal key).1
      sessions := sessions } := by
  have hfold : ∀ (l : List ExecOperation) (s : Service), ∃ sessions,
      l.foldl (fun s e => s.completeSession e.identity.operationId) s =
      { s with sessions := sessions } := by
    intro l
    induction l with
    | nil => exact fun s => ⟨s.sessions, rfl⟩
    | cons e l ih => exact fun s => ih (s.completeSession e.identity.operationId)
  exact hfold _ _

theorem ExecRefines.finish (hk : s.execOperations.get key = some op) (ht : op.terminal = false)
    (hok : ExecOk key op') (ht' : op'.terminal = true) (hes : Sends op'.lastWord es) :
    ExecRefines s { service := s.retainExecTerminal key op', events := .retained .exec key :: es } := by
  obtain ⟨sessions, heq⟩ := retainExecTerminal_eq s key op'
  rw [heq]
  exact ⟨.finish_sends hs hk ht hok ht' hes, rfl, rfl, rfl⟩

theorem ExecRefines.record (hk : s.execOperations.get key = none) (hok : ExecOk key op')
    (ht' : op'.terminal = true) (hes : Sends op'.lastWord es) :
    ExecRefines s { service := s.retainExecTerminal key op',
                    events :=
                      [.entered .exec key, .retained .exec key, .absent .exec key] ++ es } := by
  obtain ⟨sessions, heq⟩ := retainExecTerminal_eq s key op'
  have hblank : execShape.terminal { op' with terminal := false } = false := rfl
  rw [heq]
  exact ⟨.record hs hk hok ht' hes hblank, rfl, rfl, rfl⟩

/-! ## The end of an Exec -/

theorem finishExec_refines (hk : s.execOperations.get key = some op) (hpty : op.pty = false)
    (stdout stderr : Bytes) (t : ExecTerminal) :
    ExecRefines s (finishExec s key op stdout stderr t) := by
  have hok := hs.ok key op hk
  rw [finishExec]
  cases ht : op.terminal with
  | true =>
    obtain ⟨hnone, frame, hframe⟩ := hok.exec ht hpty
    have hword : op.lastWord = .exec frame := by rw [ExecOperation.lastWord, hnone, hframe]
    rw [if_pos rfl, hframe]
    refine .still hs fun ev hev => known_exec op.stream hk ⟨ht, ?_⟩
    rw [hword]
    exact List.mem_singleton.1 hev
  | false =>
    rw [if_neg Bool.false_ne_true]
    obtain ⟨hnone, -⟩ := hok.silent ht
    refine .finish hs hk ht ?_ rfl ?_
    · refine ⟨hok.stands, by simp, by simp, by simp, by simp [hpty], by simp [hnone], ?_, ?_⟩
      · intro _
        simp [ExecOperation.lastWord, hnone, Message.terminalOf, ExecOperation.execFrame, outgoing,
          Frame.key, hok.stands]
      · intro frame hframe
        exact .inl ((hok.replay frame hframe).resolve_right fun h => by rw [ht] at h; cases h.1)
    · simp only [ExecOperation.lastWord, hnone]
      exact sends_sendOperationTerminal s _ _ _

omit hs in
theorem mem_trimReplay {window bytes : ℕ} {frames : List PtyFrame} {frame : PtyFrame}
    (h : frame ∈ (trimReplay window bytes frames).2) : frame ∈ frames := by
  induction frames generalizing bytes with
  | nil => exact h
  | cons f frames ih =>
    cases frames with
    | nil => exact h
    | cons g rest =>
      rw [trimReplay] at h
      split at h
      · exact List.mem_cons_of_mem _ (ih h)
      · exact h

omit hs in
theorem mem_replay_retainAndSend {payload : PtyPayload} {frame : PtyFrame}
    (h : frame ∈ (op.retainAndSendPTYFrame payload).1.ptyReplay) :
    frame ∈ op.ptyReplay ∨ frame = op.ptyFrame payload := by
  rw [ExecOperation.retainAndSendPTYFrame] at h
  have hmem := mem_trimReplay h
  rwa [List.mem_append, List.mem_singleton] at hmem

omit hs in
theorem sends_retainAndSend (op : ExecOperation) (payload : PtyPayload) :
    Sends (.pty (op.ptyFrame payload)) (op.retainAndSendPTYFrame payload).2 := by
  rw [ExecOperation.retainAndSendPTYFrame]
  dsimp only
  split
  · exact .one _ _
  · exact fun ev hev => by cases hev

theorem sendPTYTerminal_refines (hk : s.execOperations.get key = some op) (hpty : op.pty = true)
    (t : ExecTerminal) : ExecRefines s (sendPTYTerminal s key op t) := by
  have hok := hs.ok key op hk
  rw [sendPTYTerminal]
  cases ht : op.terminal with
  | true => exact .fail hs none
  | false =>
    rw [if_neg Bool.false_ne_true]
    obtain ⟨-, hnone⟩ := hok.silent ht
    refine .finish hs hk ht ?_ rfl ?_
    · refine ⟨hok.stands, ?_, ?_, ?_, ?_, ?_, ?_, ?_⟩
      · simp [ExecOperation.retainAndSendPTYFrame]
      · simp [ExecOperation.retainAndSendPTYFrame]
      · simp [ExecOperation.retainAndSendPTYFrame]
      · simp [ExecOperation.retainAndSendPTYFrame, hnone]
      · simp [ExecOperation.retainAndSendPTYFrame, hpty]
      · intro _
        simp [ExecOperation.lastWord, ExecOperation.retainAndSendPTYFrame, Message.terminalOf,
          ExecOperation.ptyFrame, outgoing, Frame.key, hok.stands]
      · intro frame hframe
        rcases mem_replay_retainAndSend hframe with hmem | rfl
        · exact .inl ((hok.replay frame hmem).resolve_right fun h => by rw [ht] at h; cases h.1)
        · exact .inr ⟨rfl, rfl⟩
    · have hsends := sends_retainAndSend { op with
        terminal := true, ptyTerminalFrame := some (op.ptyFrame (.terminal t)), stage := .ended } (.terminal t)
      intro ev hev
      rcases List.mem_append.1 hev with hev | hev
      · exact hsends ev hev
      · split at hev
        · exact sends_report s _ ev hev
        · cases hev

theorem sendRunnerExecOperationTerminal_refines (hk : s.execOperations.get key = some op)
    (t : ExecTerminal) : ExecRefines s (sendRunnerExecOperationTerminal s key op t) := by
  rw [sendRunnerExecOperationTerminal]
  cases hpty : op.pty with
  | true => exact sendPTYTerminal_refines hs hk hpty t
  | false => exact finishExec_refines hs hk hpty _ _ t

/-! ## Frames of an Exec -/

omit hs in
/-- A stream that has just been opened has not ended, and no worker has been started for it. -/
theorem ExecOk.opening {atCapacity ptyEnabled : Bool} {o : ExecOpen} (hok : ExecOk key op)
    (hst : op.stage = .opening atCapacity o ptyEnabled) :
    op.terminal = false ∧ op.spent = false := by
  refine ⟨Bool.eq_false_iff.2 fun ht => ?_, by rw [ExecOperation.spent, hst]⟩
  have h := hok.stage.2 ht
  rw [hst] at h
  cases h

theorem start_refines {atCapacity ptyEnabled : Bool} {o : ExecOpen}
    (hk : s.execOperations.get key = some op) (hst : op.stage = .opening atCapacity o ptyEnabled)
    (streaming : Bool) :
    ExecRefines s
      { service := s.putExec key { op with stage := .running streaming }, events := [.started .exec key] } := by
  have hok := hs.ok key op hk
  obtain ⟨ht, hsp⟩ := hok.opening hst
  exact ⟨.start hs hk ⟨hok.stands, by simp [ht], by simp, hok.silent, hok.pty, hok.exec, hok.last, hok.replay⟩ rfl hsp rfl,
    rfl, rfl, rfl⟩

theorem decideExecOpen_refines (key : String) : ExecRefines s (decideExecOpen config s key) := by
  rw [decideExecOpen]
  split
  · exact .fail hs none
  · next op hk =>
    split
    · next atCapacity o ptyEnabled hst =>
      dsimp only
      split
      · exact sendRunnerExecOperationTerminal_refines hs hk _
      split
      · exact sendRunnerExecOperationTerminal_refines hs hk _
      split
      · exact sendRunnerExecOperationTerminal_refines hs hk _
      split
      · exact start_refines hs hk hst o.streaming
      · next hpty =>
        have hpty' : op.pty = true := by
          rw [(hs.ok key op hk).opened _ _ _ hst]
          simpa using hpty
        split
        · exact sendPTYTerminal_refines hs hk hpty' _
        split
        · exact sendPTYTerminal_refines hs hk hpty' _
        split
        · exact sendPTYTerminal_refines hs hk hpty' _
        · exact start_refines hs hk hst o.streaming
    · exact .fail hs none

omit hs in
theorem ExecOk.replay_sends (hok : ExecOk key op) (stream : Stream) :
    ∀ ev ∈ op.replay stream, op.terminal = true ∧ ev = .sent stream op.lastWord := by
  intro ev hev
  cases ht : op.terminal with
  | false =>
    obtain ⟨hpty, hexec⟩ := hok.silent ht
    simp [ExecOperation.replay, hpty, hexec] at hev
  | true =>
    refine ⟨rfl, ?_⟩
    cases hp : op.pty with
    | true =>
      obtain ⟨hexec, frame, hframe⟩ := hok.pty ht hp
      simpa [ExecOperation.replay, ExecOperation.lastWord, hp, hframe, hexec] using hev
    | false =>
      obtain ⟨hpty, frame, hframe⟩ := hok.exec ht hp
      simpa [ExecOperation.replay, ExecOperation.lastWord, hp, hframe, hpty] using hev

theorem continueExec_refines (hk : s.execOperations.get key = some op) (stream : Stream)
    (frame : ExecFrame) : ExecRefines s (continueExec s stream key op frame) := by
  have htouch : ∀ {op' : ExecOperation} (err : Option Error), SameExec op op' →
      ExecRefines s { service := s.putExec key op', error := err } :=
        fun err h => .touch hs hk h err
  rw [continueExec]
  split
  · exact .fail hs _
  split
  · refine .still hs fun ev hev => known_exec stream hk ?_
    exact (hs.ok key op hk).replay_sends stream ev hev
  · exact .fail hs _
  · dsimp only
    split
    · exact htouch _ {}
    split
    · split
      · exact htouch _ {}
      split
      · exact htouch _ {}
      · exact htouch _ {}
    · split
      · exact htouch _ {}
      · exact htouch _ {}
    · exact htouch _ {}
    · exact htouch _ {}

theorem handleExecFrame_refines (stream : Stream)
    (frame : ExecFrame) : ExecRefines s (handleExecFrame config enabled s stream frame) := by
  rw [handleExecFrame]
  split
  · exact .fail hs _
  split
  · exact .fail hs _
  next identity _ =>
  dsimp only
  split
  · next op hk => exact continueExec_refines hs hk stream frame
  next hk =>
  split
  · next o _ =>
    split
    · exact .fail hs _
    split
    · exact .fail hs _
    · refine ⟨.enter hs hk ⟨rfl, by simp, ?_, by simp, by simp, by simp, by simp, by simp⟩ rfl, rfl, rfl, rfl⟩
      rintro atCapacity o' ptyEnabled heq
      cases heq
      rfl
  · exact .fail hs _

/-! ## Frames of a PTY -/

omit hs in
theorem of_attachResult (op : ExecOperation) (afterSequence : Int) (kind : PtyAttachResultKind)
    (detail : String) (stream : Stream) (k : Kind) :
    (Event.sent stream (op.attachResult afterSequence kind detail)).of k = none :=
  of_sent_none rfl k

theorem attachPTYStream_refines (stream : Stream) (key reconnectId : String) (afterSequence : Int)
    (window : ℕ) :
    ExecRefines s (attachPTYStream s stream key reconnectId afterSequence window) := by
  rw [attachPTYStream]
  split
  · exact .fail hs _
  next op hk =>
  split
  · exact .fail hs _
  split
  · exact .fail hs _
  split
  · refine .still hs fun ev hev => .inl ?_
    rw [List.mem_singleton.1 hev]
    exact of_attachResult op _ _ _ _
  split
  · refine .still hs fun ev hev => .inl ?_
    rw [List.mem_singleton.1 hev]
    exact of_attachResult op _ _ _ _
  split
  · exact .fail hs _
  have hsame : SameExec op { op with ptyWindowBytes := window, ptyAttachment := some ⟨stream,
    reconnectId⟩ } := {}
  have hput := ExecRefines.touch hs hk hsame none
  refine hput.sending fun ev hev => ?_
  -- the replay holds no terminal but the one that is kept
  rcases List.mem_cons.1 hev with rfl | hev
  · exact .inl (of_attachResult op _ _ _ _)
  · obtain ⟨frame, hframe, rfl⟩ := List.mem_map.1 hev
    rcases (hs.ok key op hk).replay frame (List.mem_of_mem_filter hframe) with hnone | ⟨ht, hword⟩
    · exact .inl (of_sent_none hnone)
    · refine known_exec stream (Registry.get_put_self _ _ _) ⟨ht, ?_⟩
      rw [hsame.lastWord, hword]

theorem detachPTYAttachment_refines (key reconnectId : String) :
    ExecRefines s (detachPTYAttachment s key reconnectId) := by
  rw [detachPTYAttachment]
  split
  · exact .fail hs _
  split
  · exact .fail hs _
  next op hk =>
  split
  · exact .fail hs _
  split
  · exact .fail hs _
  split
  · exact .touch hs hk {} _
  · exact .fail hs _

theorem continuePTY_refines (hk : s.execOperations.get key = some op) (stream : Stream)
    (frame : PtyFrame) : ExecRefines s (continuePTY s stream key op frame) := by
  have hok := hs.ok key op hk
  have htouch : ∀ {op' : ExecOperation} (err : Option Error), SameExec op op' →
      ExecRefines s { service := s.putExec key op', error := err } :=
        fun err h => .touch hs hk h err
  rw [continuePTY]
  split
  · exact .fail hs _
  split
  · refine .still hs fun ev hev => known_exec stream hk ?_
    cases hframe : op.ptyTerminalFrame with
    | none => simp [hframe] at hev
    | some terminal =>
      have ht : op.terminal = true := by
        by_contra hf
        rw [Bool.not_eq_true] at hf
        rw [(hok.silent hf).1] at hframe
        cases hframe
      refine ⟨ht, ?_⟩
      simpa [hframe, ExecOperation.lastWord] using hev
  · exact .fail hs _
  · dsimp only
    split
    · exact htouch _ {}
    split
    · split <;> exact htouch _ {}
    · split <;> exact htouch _ {}
    · split <;> exact htouch _ {}
    · exact htouch _ {}

theorem handlePTYFrame_refines (stream : Stream) (frame : PtyFrame) :
    ExecRefines s (handlePTYFrame enabled s stream frame) := by
  rw [handlePTYFrame]
  split
  · exact .fail hs _
  split
  · exact .fail hs _
  dsimp only
  split
  · exact attachPTYStream_refines hs _ _ _ _ _
  · exact detachPTYAttachment_refines hs _ _
  · split
    · exact .fail hs _
    next op hk =>
    split
    · exact .fail hs _
    · exact continuePTY_refines hs hk stream frame

/-! ## The worker of an Exec -/

theorem execReturns_refines (key : String) (r : ExecReturn) :
    ExecRefines s (execReturns s key r) := by
  rw [execReturns]
  split
  · exact .fail hs _
  next op hk =>
  split
  · cases hpty : op.pty with
    | true => exact sendPTYTerminal_refines hs hk hpty _
    | false =>
      rw [if_neg Bool.false_ne_true]
      split
      · exact finishExec_refines hs hk hpty _ _ _
      · exact finishExec_refines hs hk hpty _ _ _
  · exact .fail hs _

/-- A PTY has sent output: the replay has one more frame that is no terminal. -/
theorem ptyOutput_refines (hk : s.execOperations.get key = some op) (channel : ExecOutputChannel)
    (data : Bytes) :
    ExecRefines s { service := s.putExec key (op.retainAndSendPTYFrame (.output channel data)).1,
                    events := (op.retainAndSendPTYFrame (.output channel data)).2 } := by
  have hok := hs.ok key op hk
  have hreplay : ∀ frame ∈ (op.retainAndSendPTYFrame (.output channel data)).1.ptyReplay,
      (Message.pty frame).terminalOf = none ∨ op.terminal = true ∧ op.lastWord = .pty frame := by
    intro frame hframe
    rcases mem_replay_retainAndSend hframe with hmem | rfl
    · exact hok.replay frame hmem
    · exact .inl rfl
  have hok' : ExecOk key (op.retainAndSendPTYFrame (.output channel data)).1 :=
    ⟨hok.stands, hok.stage, hok.opened, hok.silent, hok.pty, hok.exec, hok.last, hreplay⟩
  refine (ExecRefines.put hs hk hok' rfl (fun h => h) none).sending fun ev hev => .inl fun k => ?_
  obtain ⟨stream, rfl⟩ := sends_retainAndSend op _ ev hev
  exact of_sent_none rfl k

theorem execOutput_refines (key : String) (channel : ExecOutputChannel) (data : Bytes) :
    ExecRefines s (execOutput s key channel data) := by
  rw [execOutput]
  split
  · exact .fail hs _
  next op hk =>
  split
  · split
    · exact .fail hs _
    split
    · split
      · exact .fail hs _
      · exact ptyOutput_refines hs hk _ data
    split
    · exact .fail hs _
    dsimp only
    split
    · exact .fail hs _
    · refine (ExecRefines.touch hs hk {} none).sending fun ev hev => .inl fun k => ?_
      rw [List.mem_singleton.1 hev]
      exact of_sent_none rfl k
  · exact .fail hs _

omit hs in
theorem sameExec_detachFrom (stream : Stream) (op : ExecOperation) :
    SameExec op (op.detachFrom stream) := by
  rw [ExecOperation.detachFrom]
  split <;> exact {}

theorem detachStream_refines (stream : Stream) :
    ExecRefines s { service := detachPTYAttachmentsForStream s stream } := by
  have hsame := sameExec_detachFrom stream
  have hget : ∀ key, (detachPTYAttachmentsForStream s stream).execOperations.get key =
      (s.execOperations.get key).map ((fun _ op => op.detachFrom stream) key) :=
    fun key => s.execOperations.entries.get_update _ key
  have hmove : Move maxRunnerDataPlaneTerminalTombstones execShape.answer execShape.spent
    (fun _ => False)
      s.execOperations none (detachPTYAttachmentsForStream s stream).execOperations := by
    refine .touch rfl hget (fun _ op _ => (hsame op).answer) fun _ op _ h => ?_
    exact (hsame op).spent.trans h
  refine ⟨⟨hmove.moves, ⟨?_, ?_⟩, .nil, Nat.zero_le 1⟩, rfl, rfl, rfl⟩
  · exact hs.wf.touch rfl hget fun _ op _ => (hsame op).terminal
  · intro key op' hop'
    rw [hget, Option.map_eq_some_iff] at hop'
    obtain ⟨op, hop, rfl⟩ := hop'
    exact (hsame op).ok (hs.ok key op hop)

end Refines

end SecondBox.Runner

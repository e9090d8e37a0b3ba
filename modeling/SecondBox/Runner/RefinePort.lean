/-
  Port operations as a registry.

  A Port that is admitted for the direct transport never enters the map of
  Port operations; what is seen of it counts as happening elsewhere, and
  `foreign` says which keys may be used that way.
-/
import SecondBox.Runner.Refine

namespace SecondBox.Runner

open Relational Once

/-! ## Operations -/

/-- What an ended Port operation answers. -/
def PortOperation.lastWord (op : PortOperation) : Message :=
  match op.terminalFrame with
  | some frame => .port frame
  | none => .drainState .active []

/-- The Open of the operation has been handled, and with it the call of the backend. -/
def PortOperation.spent (op : PortOperation) : Bool := op.lastIncoming.isSome

/-- An operation stands under its own key, and its terminal is the one it keeps. -/
structure PortOk (key : String) (op : PortOperation) : Prop where
  stands : runnerDataPlaneOperationKey op.identity = key
  stage : op.stage = .ended ↔ op.terminal = true
  opened : op.lastIncoming.isSome = true
  silent : op.terminal = false → op.terminalFrame = none
  kept : op.terminal = true → ∃ frame, op.terminalFrame = some frame
  last : op.terminal = true → op.lastWord.terminalOf = some (.port, key)

/-- Nothing that matters for the end of an operation has changed. -/
structure SamePort (op op' : PortOperation) : Prop where
  opened : op'.lastIncoming.isSome = true := by rfl
  identity : op'.identity = op.identity := by rfl
  stage : op'.stage = .ended ↔ op.stage = .ended := by rfl
  terminal : op'.terminal = op.terminal := by rfl
  terminalFrame : op'.terminalFrame = op.terminalFrame := by rfl

/-- Port operations, for the argument about their ends. -/
def portShape : Shape PortOperation where
  kind := .port
  terminal := PortOperation.terminal
  lastWord := PortOperation.lastWord
  spent := PortOperation.spent
  Ok := PortOk
  last hok := hok.last
  spent_of_terminal hok _ := hok.opened

section Same
variable {op op' : PortOperation} {key : String}

theorem SamePort.lastWord (h : SamePort op op') : op'.lastWord = op.lastWord := by
  rw [PortOperation.lastWord, PortOperation.lastWord, h.terminalFrame]

theorem SamePort.answer (h : SamePort op op') : portShape.answer op' = portShape.answer op := by
  change (if op'.terminal then some op'.lastWord else none) = if op.terminal then
    some op.lastWord else none
  rw [h.terminal, h.lastWord]

theorem SamePort.ok (h : SamePort op op') (hok : PortOk key op) : PortOk key op' where
  stands := by rw [h.identity, hok.stands]
  stage := by rw [h.stage, h.terminal, hok.stage]
  opened := h.opened
  silent := by rw [h.terminal, h.terminalFrame]; exact hok.silent
  kept := by rw [h.terminal, h.terminalFrame]; exact hok.kept
  last := by rw [h.terminal, h.lastWord]; exact hok.last

end Same

/-! ## Steps on Port operations -/

/-- The Port operations are in order, and every direct session has a key of the direct transport. -/
structure Service.PortSound (foreign : String → Prop) (s : Service) : Prop where
  sound : portShape.Sound s.portOperations
  direct : ∀ digest x, s.directPorts.get digest = some x →
    foreign (runnerDataPlaneOperationKey x.identity)

/-- The result is a sequence of moves on Port operations and touches nothing of the other kinds. -/
structure PortRefines (foreign : String → Prop) (s : Service) (r : Result) : Prop where
  run : portShape.Run foreign s.portOperations r.events r.service.portOperations
  direct : ∀ digest x, r.service.directPorts.get digest = some x →
    foreign (runnerDataPlaneOperationKey x.identity)
  exec : r.service.execOperations = s.execOperations
  file : r.service.fileOperations = s.fileOperations

section Refines
variable {foreign : String → Prop} {s : Service} {key : String} {op op' : PortOperation}
  {es : List Event}
  {err : Option Error}

theorem PortRefines.trans {r r' : Result} (h : PortRefines foreign s r)
    (h' : PortRefines foreign r.service r') (hquiet : Quiet r'.events) : PortRefines foreign s
    { service := r'.service, events := r.events ++ r'.events, error := r'.error } where
  run := h.run.trans h'.run hquiet
  direct := h'.direct
  exec := h'.exec.trans h.exec
  file := h'.file.trans h.file

theorem known_port {r : Registry String PortOperation} {ev : Event} (stream : Stream)
    (hk : r.get key = some op) (h : op.terminal = true ∧ ev = .sent stream op.lastWord) :
    portShape.Known r ev := .inr ⟨stream, key, op, hk, h.1, h.2⟩

variable (config : Config) (answers : PortAnswers) (hs : s.PortSound foreign)
include hs

theorem PortRefines.still (hes : ∀ ev ∈ es, portShape.Known s.portOperations ev) :
    PortRefines foreign s { service := s, events := es, error := err } :=
      ⟨.still hs.sound hes, hs.direct, rfl, rfl⟩

theorem PortRefines.fail (err : Option Error) :
    PortRefines foreign s { service := s, error := err } := ⟨.none hs.sound, hs.direct, rfl, rfl⟩

theorem PortRefines.touch (hk : s.portOperations.get key = some op) (h : SamePort op op')
    (err : Option Error) : PortRefines foreign s { service := s.putPort key op', error := err } :=
  ⟨.put hs.sound hk (h.ok (hs.sound.ok key op hk)) h.answer (fun _ => h.opened),
    hs.direct, rfl, rfl⟩

omit hs in
theorem PortRefines.sending {r : Result} (h : PortRefines foreign s r)
    (hes : ∀ ev ∈ es, ∀ k, ev.of k = none) :
    PortRefines foreign s { r with events := r.events ++ es } :=
  ⟨h.run.sending fun ev hev => .inl (hes ev hev), h.direct, h.exec, h.file⟩

omit hs in
/-- An operation with a terminal frame has ended, and the frame is what it answers. -/
theorem PortOk.lastWord_of_frame (hok : PortOk key op) {frame : PortFrame}
    (h : op.terminalFrame = some frame) :
    op.terminal = true ∧ op.lastWord = .port frame := by
  refine ⟨?_, by rw [PortOperation.lastWord, h]⟩
  by_contra hf
  rw [hok.silent (Bool.not_eq_true _ ▸ hf)] at h
  cases h

theorem sendPortTerminal_refines (hk : s.portOperations.get key = some op)
    (h : SamePort op op') (stream : Stream) {t : PortTerminal} {closes : Bool} :
    PortRefines foreign s (sendPortTerminal s stream key op' t closes) := by
  have hok := hs.sound.ok key op hk
  have hok' := h.ok hok
  rw [sendPortTerminal]
  cases ht : op'.terminal with
  | true =>
    obtain ⟨frame, hframe⟩ := hok'.kept ht
    rw [if_pos rfl, hframe]
    refine .still hs fun ev hev => known_port stream hk ⟨h.terminal.symm.trans ht, ?_⟩
    rw [← h.lastWord, (hok'.lastWord_of_frame hframe).2]
    exact List.mem_singleton.1 hev
  | false =>
    rw [if_neg Bool.false_ne_true]
    refine ⟨.finish_sends hs.sound hk (h.terminal.symm.trans ht) ?_ rfl (.one _ _),
      hs.direct, rfl, rfl⟩
    refine ⟨hok'.stands, by simp, hok'.opened, by simp, by simp, fun _ => ?_⟩
    simp [PortOperation.lastWord, Message.terminalOf, PortOperation.frame, outgoing,
      Frame.key, hok'.stands]

theorem sendPortCredit_refines (hk : s.portOperations.get key = some op)
    (h : SamePort op op') (stream : Stream) (credit : ℕ) :
    PortRefines foreign s (sendPortCredit s stream key op' credit) := by
  rw [sendPortCredit]
  split
  · exact .touch hs hk h none
  · have h' : SamePort op { op' with nextOutgoing := op'.nextOutgoing + 1 } :=
      ⟨h.opened, h.identity, h.stage, h.terminal, h.terminalFrame⟩
    refine (PortRefines.touch hs hk h' none).sending fun ev hev k => ?_
    rw [List.mem_singleton.1 hev]
    exact of_sent_none rfl k

/-! ## Direct Port sessions -/

omit hs in
theorem PortRefines.direct_sent {r : Result} (h : PortRefines foreign s r)
    (hes : ∀ ev ∈ es, ∃ stream i n c t, foreign (runnerDataPlaneOperationKey i) ∧
      ev = .sent stream (.port (outgoing i n c (.terminal t)))) :
    PortRefines foreign s { r with events := r.events ++ es } := by
  refine ⟨h.run.trans (.elsewhere h.run.sound ?_ ?_) ?_, h.direct, h.exec, h.file⟩
  · intro k hk
    rw [seen, List.filterMap_eq_nil_iff]
    intro ev hev
    obtain ⟨stream, i, n, c, t, -, rfl⟩ := hes ev hev
    exact of_sent_ne rfl k hk
  · intro ev hev
    obtain ⟨e, he, hofe⟩ := List.mem_filterMap.1 hev
    obtain ⟨stream, i, n, c, t, hforeign, rfl⟩ := hes e he
    rw [of_sent rfl] at hofe
    cases hofe
    exact ⟨hforeign, rfl⟩
  · intro ev hev
    obtain ⟨stream, i, n, c, t, -, rfl⟩ := hes ev hev
    exact .inr ⟨stream, _, rfl⟩

omit hs in
theorem mem_report {m : Message} {ev : Event} (h : ev ∈ s.reportCancelledOperationTerminal m) :
    ∃ stream, ev = .sent stream m := sends_report s m ev h

theorem PortRefines.revoke (p : Bytes → DirectPortSession → Bool) :
    PortRefines foreign s { service := { s with directPorts := s.directPorts.deleteWhere p } } := by
  refine ⟨.none hs.sound, fun digest x hx => hs.direct digest x ?_, rfl, rfl⟩
  have hget : (s.directPorts.deleteWhere p).get digest = some x := hx
  rw [Table.get_deleteWhere, Option.filter_eq_some_iff] at hget
  exact hget.1

theorem closeDirectPorts_refines (t : PortTerminal) (selects : DirectPortSession → Bool) :
    PortRefines foreign s (closeDirectPorts s t selects) := by
  rw [closeDirectPorts]
  refine (PortRefines.revoke hs fun _ x => selects x).direct_sent fun ev hev => ?_
  obtain ⟨x, hx, hev⟩ := List.mem_flatMap.1 hev
  obtain ⟨stream, rfl⟩ := mem_report hev
  exact ⟨stream, x.2.identity, 1, x.2.correlation, t,
    hs.direct x.1 x.2 (Table.get_eq_some.2 (List.mem_of_mem_filter hx)), rfl⟩

theorem sendUntrackedPortTerminal_refines (stream : Stream) {i : Identity}
    (hforeign : foreign (runnerDataPlaneOperationKey i)) (c : Option Correlation)
    (t : PortTerminal) :
    PortRefines foreign s (sendUntrackedPortTerminal s stream i c t) := by
  refine (PortRefines.fail hs none).direct_sent fun ev hev => ?_
  exact ⟨stream, i, 1, c, t, hforeign, List.mem_singleton.1 hev⟩

theorem registerDirectPortSession_refines {i : Identity}
    (hforeign : foreign (runnerDataPlaneOperationKey i)) (c : Option Correlation)
    (o : PortDirectOpen) :
    PortRefines foreign s (registerDirectPortSession s i c o) := by
  rw [registerDirectPortSession]
  split
  · exact .fail hs _
  · refine ⟨.none hs.sound, fun digest x hx => ?_, rfl, rfl⟩
    have hget : (s.directPorts.insertNew o.credentialDigest { identity := i, correlation := c }).get
      digest = some x := hx
    rw [Table.get_insertNew] at hget
    split at hget
    · cases hold : s.directPorts.get o.credentialDigest with
      | none =>
        rw [hold] at hget
        cases hget
        exact hforeign
      | some y =>
        rw [hold] at hget
        cases hget
        exact hs.direct _ _ hold
    · exact hs.direct digest x hget

theorem bridgeDirectPort_refines (digest : Bytes) (opens : Bool) :
    PortRefines foreign s (bridgeDirectPort s digest opens) := by
  rw [bridgeDirectPort]
  split
  · exact .fail hs none
  next session hsession =>
  have hforeign := hs.direct digest session hsession
  split
  · exact .fail hs none
  dsimp only
  have hstarted : portShape.Run foreign s.portOperations
    [.started .port (runnerDataPlaneOperationKey session.identity)]
      s.portOperations := by
    refine .elsewhere hs.sound (.cons (of_started _) .nil) fun ev hev => ?_
    rw [List.mem_singleton.1 hev]
    exact ⟨hforeign, rfl⟩
  split
  · refine ⟨hstarted, fun d x hx => ?_, rfl, rfl⟩
    have hget : (s.directPorts.put digest { session with bridged := true }).get d = some x := hx
    rw [Table.get_put] at hget
    split at hget
    · cases hget
      exact hforeign
    · exact hs.direct d x hget
  · have hrevoke := PortRefines.revoke hs fun d _ => d == digest
    have hrun : PortRefines foreign s
        { service := { s with directPorts := s.directPorts.deleteWhere fun d _ => d == digest }
          events := [.started .port (runnerDataPlaneOperationKey session.identity)] } :=
      ⟨hstarted, hrevoke.direct, rfl, rfl⟩
    refine hrun.direct_sent fun ev hev => ?_
    obtain ⟨stream, rfl⟩ := mem_report hev
    exact ⟨stream, _, _, _, _, hforeign, rfl⟩

theorem endDirectPort_refines (digest : Bytes) (t : PortTerminal) :
    PortRefines foreign s (endDirectPort s digest t) := by
  rw [endDirectPort]
  split
  · exact .fail hs none
  next session hsession =>
  split
  · refine (PortRefines.revoke hs fun d _ => d == digest).direct_sent fun ev hev => ?_
    obtain ⟨stream, rfl⟩ := mem_report hev
    exact ⟨stream, _, _, _, _, hs.direct digest session hsession, rfl⟩
  · exact .fail hs none

/-! ## Frames of a Port stream -/

theorem continuePort_refines (hk : s.portOperations.get key = some op) (stream : Stream)
    (frame : PortFrame) :
    PortRefines foreign s (continuePort answers s stream key op frame) := by
  have hok := hs.sound.ok key op hk
  have hsame : SamePort op { op with nextIncoming := op.nextIncoming + 1, lastIncoming := some frame } :=
    {}
  have htouch : ∀ {op' : PortOperation} (err : Option Error), SamePort op op' →
      PortRefines foreign s { service := s.putPort key op', error := err } :=
        fun err h => .touch hs hk h err
  rw [continuePort]
  split
  · refine .still hs fun ev hev => known_port stream hk ?_
    cases hframe : op.terminalFrame with
    | none => simp [hframe] at hev
    | some terminal =>
      obtain ⟨ht, hword⟩ := hok.lastWord_of_frame hframe
      refine ⟨ht, ?_⟩
      rw [hword]
      simpa [hframe] using hev
  · exact .fail hs _
  · dsimp only
    split
    · exact htouch _ {}
    split
    · split
      · exact htouch _ {}
      split
      · exact sendPortCredit_refines hs hk hsame _ _
      · exact sendPortTerminal_refines hs hk hsame _
    · split <;> exact htouch _ {}
    · exact sendPortTerminal_refines hs hk {} _
    · exact htouch _ {}

theorem openPort_refines (stream : Stream)
    (i : Identity) (frame : PortFrame)
    (hk : s.portOperations.get (runnerDataPlaneOperationKey i) = none) :
    PortRefines foreign s (openPort config answers s stream (runnerDataPlaneOperationKey i) i frame) := by
  have hok : ∀ (connected : Bool) (refusal : Option PortTerminal),
    PortOk (runnerDataPlaneOperationKey i)
      { identity := i, correlation := frame.correlation, stream, nextIncoming := 2, lastIncoming := some frame
        nextOutgoing := 1, connected, stage := .opening refusal } :=
    fun connected refusal => ⟨rfl, by simp, rfl, by simp, by simp, by simp⟩
  rw [openPort]
  dsimp only
  split
  · exact ⟨.enter hs.sound hk (hok _ _) rfl, hs.direct, rfl, rfl⟩
  split
  · exact ⟨.enter hs.sound hk (hok _ _) rfl, hs.direct, rfl, rfl⟩
  split
  · exact ⟨.enter hs.sound hk (hok _ _) rfl, hs.direct, rfl, rfl⟩
  · have hunspent : portShape.terminal { identity := i, correlation := none, stream, nextIncoming := 1, lastIncoming := none
                                         nextOutgoing := 1, connected := false, stage := .pumping } = false ∧
        portShape.spent { identity := i, correlation := none, stream, nextIncoming := 1, lastIncoming := none
                          nextOutgoing := 1, connected := false, stage := .pumping } = false := ⟨rfl, rfl⟩
    split
    · exact ⟨.enter_start hs.sound hk (hok _ _) rfl rfl hunspent, hs.direct, rfl, rfl⟩
    · exact ⟨.enter_start hs.sound hk (hok _ _) rfl rfl hunspent, hs.direct, rfl, rfl⟩

theorem trackPortFrame_refines (stream : Stream) (i : Identity) (frame : PortFrame) :
    PortRefines foreign s (trackPortFrame config answers s stream (runnerDataPlaneOperationKey i) i frame) := by
  rw [trackPortFrame]
  split
  · next op hk => exact continuePort_refines answers hs hk stream frame
  next hk =>
  split
  · split
    · exact .fail hs _
    split
    · exact .fail hs _
    · exact openPort_refines config answers hs stream i frame hk
  · exact .fail hs _

omit hs in
theorem handlePortFrame_refines (enabled : Features) (answers : PortAnswers) (listenerReady : Bool)
    (hs : s.PortSound foreign) (stream : Stream) (frame : PortFrame)
    (hdirect : ∀ o key, frame.payload = .directOpen o → frame.key = some key → foreign key) :
    PortRefines foreign s (handlePortFrame config enabled answers listenerReady s stream frame) := by
  rw [handlePortFrame]
  split
  · exact .fail hs _
  split
  · exact .fail hs _
  next i hi =>
  dsimp only
  split
  · split
    · exact closeDirectPorts_refines hs _ _
    · exact trackPortFrame_refines config answers hs stream i frame
  · next o ho =>
    have hforeign := hdirect o _ ho (key_of_identity hi)
    split
    · exact .fail hs _
    split
    · exact .fail hs _
    split
    · exact sendUntrackedPortTerminal_refines hs stream hforeign _ _
    split
    · exact sendUntrackedPortTerminal_refines hs stream hforeign _ _
    split
    · exact sendUntrackedPortTerminal_refines hs stream hforeign _ _
    · exact registerDirectPortSession_refines hs hforeign _ o
  · exact trackPortFrame_refines config answers hs stream i frame

/-! ## The pump of a Port -/

theorem decidePortOpen_refines (key : String) : PortRefines foreign s (decidePortOpen s key) := by
  rw [decidePortOpen]
  split
  · exact .fail hs none
  next op hk =>
  have hopened := (hs.sound.ok key op hk).opened
  split
  · exact sendPortTerminal_refines hs hk ⟨hopened, rfl, .rfl, rfl, rfl⟩ _
  · next hst =>
    refine sendPortCredit_refines hs hk ?_ _ _
    exact ⟨hopened, rfl, by simp [hst], rfl, rfl⟩
  · exact .fail hs none

theorem portRead_refines (key : String) (data : Bytes) :
    PortRefines foreign s (portRead s key data) := by
  rw [portRead]
  split
  · exact .fail hs none
  next op hk =>
  split
  · have h : SamePort op { op with nextOutgoing := op.nextOutgoing + 1, credit := op.credit - data.length } :=
      ⟨(hs.sound.ok key op hk).opened, rfl, .rfl, rfl, rfl⟩
    refine (PortRefines.touch hs hk h none).sending fun ev hev k => ?_
    rw [List.mem_singleton.1 hev]
    exact of_sent_none rfl k
  · exact .fail hs none

theorem finishPortPump_refines (key : String) (exit : PumpExit) (closes : Bool) :
    PortRefines foreign s (finishPortPump s key exit closes) := by
  rw [finishPortPump]
  split
  · exact .fail hs none
  next op hk =>
  split
  · exact sendPortTerminal_refines hs hk ⟨(hs.sound.ok key op hk).opened, rfl, .rfl, rfl, rfl⟩ _
  · exact .fail hs none

end Refines

end SecondBox.Runner

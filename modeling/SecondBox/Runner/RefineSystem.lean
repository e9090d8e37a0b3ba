/-
  Every step of the Runner is a sequence of moves on its three registries.
-/
import SecondBox.Runner.RefineExec
import SecondBox.Runner.RefineFile
import SecondBox.Runner.RefinePort

namespace SecondBox.Runner

open Relational Once

/-- The operations of all kinds are in order. -/
structure Service.Sound (foreign : String → Prop) (s : Service) : Prop where
  exec : s.ExecSound
  file : s.FileSound
  port : s.PortSound foreign

/-- The result is a sequence of moves on each registry, in which at most one operation of each kind ends. -/
structure Refines (foreign : String → Prop) (s : Service) (r : Result) : Prop where
  exec : Moves maxRunnerDataPlaneTerminalTombstones execShape.answer execShape.spent
    (fun _ => False)
    s.execOperations (seen .exec r.events) r.service.execOperations
  file : Moves maxRunnerDataPlaneTerminalTombstones fileShape.answer fileShape.spent
    (fun _ => False)
    s.fileOperations (seen .file r.events) r.service.fileOperations
  port : Moves maxRunnerDataPlaneTerminalTombstones portShape.answer portShape.spent foreign
    s.portOperations (seen .port r.events) r.service.portOperations
  few : ∀ kind, ends kind r.events ≤ 1
  sound : r.service.Sound foreign

section
variable {foreign : String → Prop} {s : Service} {r : Result} {es : List Event} {err : Option Error}
  {s' : Service}

theorem Service.Sound.mk' (hexec : execShape.Sound s'.execOperations)
    (hfile : fileShape.Sound s'.fileOperations) (hport : portShape.Sound s'.portOperations)
    (hdirect : ∀ digest x, s'.directPorts.get digest = some x → foreign (runnerDataPlaneOperationKey x.identity)) :
    s'.Sound foreign := ⟨hexec, hfile, hport, hdirect⟩

theorem few_of_only {kind : Kind} (honly : Only kind es) (hfew : ends kind es ≤ 1) (k : Kind) :
    ends k es ≤ 1 := by
  by_cases hk : k = kind
  · rw [hk]
    exact hfew
  · rw [ends, honly k hk]
    exact Nat.zero_le 1

theorem ExecRefines.refines (h : ExecRefines s r) (hs : s.Sound foreign) : Refines foreign s r where
  exec := h.run.moves
  file := by
    rw [h.file, h.run.only .file (by decide)]
    exact .refl _
  port := by
    rw [h.port, h.run.only .port (by decide)]
    exact .refl _
  few := few_of_only h.run.only h.run.few
  sound := .mk' h.run.sound (h.file ▸ hs.file) (h.port ▸ hs.port.sound) (h.direct ▸ hs.port.direct)

theorem FileRefines.refines (h : FileRefines s r) (hs : s.Sound foreign) : Refines foreign s r where
  exec := by
    rw [h.exec, h.run.only .exec (by decide)]
    exact .refl _
  file := h.run.moves
  port := by
    rw [h.port, h.run.only .port (by decide)]
    exact .refl _
  few := few_of_only h.run.only h.run.few
  sound := .mk' (h.exec ▸ hs.exec) h.run.sound (h.port ▸ hs.port.sound) (h.direct ▸ hs.port.direct)

theorem PortRefines.refines (h : PortRefines foreign s r) (hs : s.Sound foreign) :
    Refines foreign s r where
  exec := by
    rw [h.exec, h.run.only .exec (by decide)]
    exact .refl _
  file := by
    rw [h.file, h.run.only .file (by decide)]
    exact .refl _
  port := h.run.moves
  few := few_of_only h.run.only h.run.few
  sound := .mk' (h.exec ▸ hs.exec) (h.file ▸ hs.file) h.run.sound h.direct

theorem Refines.frame (h : Refines foreign s r)
    (hexec : s'.execOperations = r.service.execOperations)
    (hfile : s'.fileOperations = r.service.fileOperations)
    (hport : s'.portOperations = r.service.portOperations)
    (hdirect : s'.directPorts = r.service.directPorts) :
    Refines foreign s { service := s', events := r.events, error := err } where
  exec := hexec ▸ h.exec
  file := hfile ▸ h.file
  port := hport ▸ h.port
  few := h.few
  sound := .mk' (hexec ▸ h.sound.exec) (hfile ▸ h.sound.file) (hport ▸ h.sound.port.sound)
    (hdirect ▸ h.sound.port.direct)

variable (config : Config) (hs : s.Sound foreign)
include hs

theorem Refines.still (hes : ∀ ev ∈ es, ∀ k, ev.of k = none)
    (hexec : s'.execOperations = s.execOperations) (hfile : s'.fileOperations = s.fileOperations)
    (hport : s'.portOperations = s.portOperations) (hdirect : s'.directPorts = s.directPorts) :
    Refines foreign s { service := s', events := es, error := err } := by
  have h : ExecRefines s { service := s, events := es, error := err } :=
    .still hs.exec fun ev hev => .inl (hes ev hev)
  exact (h.refines hs).frame hexec hfile hport hdirect

theorem Refines.fail (err : Option Error) : Refines foreign s { service := s, error := err } :=
  .still hs (fun _ hev => by cases hev) rfl rfl rfl rfl

/-! ## Cancellation -/

section Absent
variable (stream : Stream) (session : DirectSession)

omit hs in
/-- What is recorded for an operation that is not there has ended, and its terminal is what is sent. -/
theorem recordAbsent_cases (s : Service) (key : String)
    (hkey : runnerDataPlaneOperationKey session.identity = key) :
    (session.kind.operationKind = .file ∧ ∃ op, FileOk key op ∧ op.terminal = true ∧
      recordAbsentOperationTerminal s stream key session =
        (s.retainFileTerminal key op, op.lastWord)) ∨
    (session.kind.operationKind = .exec ∧ ∃ op, ExecOk key op ∧ op.terminal = true ∧
      recordAbsentOperationTerminal s stream key session =
        (s.retainExecTerminal key op, op.lastWord)) := by
  subst hkey
  rw [recordAbsentOperationTerminal]
  cases session.kind with
  | file =>
    refine .inl ⟨rfl, absentFile stream session _,
      ⟨rfl, ?_, ?_, ?_, fun _ => ⟨_, rfl⟩, fun _ => rfl⟩, rfl, rfl⟩ <;>
      simp [absentFile]
  | pty =>
    refine .inr ⟨rfl, absentExec stream session (.inr _),
      ⟨rfl, ?_, ?_, ?_, fun _ _ => ⟨rfl, _, rfl⟩, ?_, fun _ => rfl, ?_⟩, rfl, rfl⟩ <;>
      simp [absentExec, ExecOperation.lastWord]
  | _ =>
    refine .inr ⟨rfl, absentExec stream session (.inl _),
      ⟨rfl, ?_, ?_, ?_, ?_, fun _ _ => ⟨rfl, _, rfl⟩, fun _ => rfl, ?_⟩, rfl, rfl⟩ <;>
      simp [absentExec]

end Absent

variable (stream : Stream)

theorem recordAbsent_refines (session : DirectSession) {key : String}
    (hkey : runnerDataPlaneOperationKey session.identity = key) (hnone : s.holdsNone key = true)
    (hes : Sends (recordAbsentOperationTerminal s stream key session).2 es) :
    Refines foreign s
      { service := (recordAbsentOperationTerminal s stream key session).1
        events :=
          [.entered session.kind.operationKind key, .retained session.kind.operationKind key,
          .absent session.kind.operationKind key] ++ es } := by
  rw [Service.holdsNone, Bool.and_eq_true, Option.isNone_iff_eq_none,
    Option.isNone_iff_eq_none] at hnone
  obtain ⟨hexec, hfile⟩ := hnone
  rcases recordAbsent_cases stream session s key hkey with ⟨hkind, op, hok, ht, heq⟩ | ⟨hkind,
    op, hok, ht, heq⟩
  · rw [heq] at hes
    rw [heq, hkind]
    exact (FileRefines.record hs.file hfile hok ht hes).refines hs
  · rw [heq] at hes
    rw [heq, hkind]
    exact (ExecRefines.record hs.exec hexec hok ht hes).refines hs

theorem retainUnopened_refines {stream : Stream} {session : DirectSession}
    {m : Message} (h : retainUnopenedDirectOperation s stream session = some (s', m, es))
    {sent : List Event}
    (hsent : Sends m sent) : Refines foreign s { service := s', events := es ++ sent } := by
  rw [retainUnopenedDirectOperation] at h
  dsimp only at h
  split at h
  · next hnone =>
    cases h
    exact recordAbsent_refines hs stream session rfl hnone hsent
  · cases h

omit hs in
/-- What a cancellation finds of an Exec; only a running one changes, and not in what matters. -/
theorem cancelExec_cases (hs : s.ExecSound) (key : String) :
    (cancelExec s key = (s, .nothing)) ∨
    (∃ op, s.execOperations.get key = some op ∧ cancelExec s key =
      (s.putExec key { op with confirmCancel := true, cancelled := true }, .running)) ∨
    ∃ op absent, s.execOperations.get key = some op ∧ op.terminal = true ∧
      cancelExec s key = (s, .retained op.lastWord absent) := by
  rw [cancelExec]
  split
  · exact .inl rfl
  next op hk =>
  have hok := hs.ok key op hk
  have hterminal : op.ptyTerminalFrame ≠ none ∨ op.terminalFrame ≠ none → op.terminal = true := by
    intro h
    by_contra hf
    obtain ⟨hpty, hexec⟩ := hok.silent (Bool.not_eq_true _ ▸ hf)
    simp [hpty, hexec] at h
  split
  · next frame hframe =>
    have hword : op.lastWord = .pty frame := by rw [ExecOperation.lastWord, hframe]
    exact .inr (.inr ⟨op, _, hk, hterminal (.inl (by simp [hframe])), by rw [hword]⟩)
  · next frame hnone hframe =>
    have hword : op.lastWord = .exec frame := by rw [ExecOperation.lastWord, hnone, hframe]
    exact .inr (.inr ⟨op, _, hk, hterminal (.inr (by simp [hframe])), by rw [hword]⟩)
  · split
    · exact .inl rfl
    · exact .inr (.inl ⟨op, hk, rfl⟩)

omit hs in
theorem cancelFile_cases (hs : s.FileSound) (key : String) :
    (cancelFile s key = (s, .nothing)) ∨
    (∃ op, s.fileOperations.get key = some op ∧ cancelFile s key =
      (s.putFile key { op with confirmCancel := true, cancelled := true }, .running)) ∨
    ∃ op absent, s.fileOperations.get key = some op ∧ op.terminal = true ∧
      cancelFile s key = (s, .retained op.lastWord absent) := by
  rw [cancelFile]
  split
  · exact .inl rfl
  next op hk =>
  split
  · next frame hframe =>
    obtain ⟨ht, hword⟩ := (hs.ok key op hk).lastWord_of_frame hframe
    exact .inr (.inr ⟨op, _, hk, ht, by rw [hword]⟩)
  · split
    · exact .inl rfl
    · exact .inr (.inl ⟨op, hk, rfl⟩)

omit hs in
theorem Shape.Run.confirm {σ : Type} {S : Shape σ} {reg : Registry String σ} {key : String} {op : σ}
    (hs : S.Sound reg) (hk : reg.get key = some op) (ht : S.terminal op = true) (absent : Bool)
    (hes : Sends (S.lastWord op) es) :
    S.Run foreign reg ((if absent then [.absent S.kind key] else []) ++ es) reg := by
  refine Shape.Run.sending ?_ (known_of_sends hk ht hes)
  cases absent with
  | false => exact .none hs
  | true =>
    refine ⟨?_, hs, .cons (of_absent key) .nil, by simp [ends, seen, Event.of, Once.Event.isRetained]⟩
    rw [if_pos rfl, seen_cons, Event.of, if_pos rfl]
    refine Move.moves (.confirm hk ?_)
    rw [S.ended_answer, ht]

theorem cancelTracked_refines (i : Identity) (kind : SessionKind) :
    Refines foreign s (cancelTracked s stream i kind) := by
  rw [cancelTracked]
  dsimp only
  split
  · next hnone =>
    have h := recordAbsent_refines hs stream { identity := i, correlation := none, kind } rfl hnone
      (sends_report s _)
    exact h.frame rfl rfl rfl rfl
  · by_cases hkind : kind = .file
    · subst hkind
      rw [if_pos rfl]
      rcases cancelFile_cases hs.file (runnerDataPlaneOperationKey i) with h | ⟨op, hk, h⟩ | ⟨op,
        absent, hk, ht, h⟩
      · rw [h]
        exact .still hs (fun _ hev => by cases hev) rfl rfl rfl rfl
      · rw [h]
        exact (FileRefines.touch hs.file hk {} none).refines hs
      · rw [h]
        have hrun : FileRefines s { service := s, events := _ } :=
          ⟨.confirm hs.file hk ht absent (sends_report s op.lastWord), rfl, rfl, rfl⟩
        exact (hrun.refines hs).frame rfl rfl rfl rfl
    · have hoperation : kind.operationKind = .exec := by
        cases kind with
        | file => exact absurd rfl hkind
        | _ => rfl
      rw [if_neg hkind, hoperation]
      rcases cancelExec_cases hs.exec (runnerDataPlaneOperationKey i) with h | ⟨op, hk, h⟩ | ⟨op,
        absent, hk, ht, h⟩
      · rw [h]
        exact .still hs (fun _ hev => by cases hev) rfl rfl rfl rfl
      · rw [h]
        exact (ExecRefines.touch hs.exec hk {} none).refines hs
      · rw [h]
        have hrun : ExecRefines s { service := s, events := _ } :=
          ⟨.confirm hs.exec hk ht absent (sends_report s op.lastWord), rfl, rfl, rfl⟩
        exact (hrun.refines hs).frame rfl rfl rfl rfl

omit hs in
theorem cancelPort_refines (hs : s.PortSound foreign) (key : String) :
    PortRefines foreign s { service := cancelPort s key } := by
  rw [cancelPort]
  split
  · exact .fail hs none
  next op hk =>
  split
  · exact .fail hs none
  · refine .touch hs hk ?_ none
    exact ⟨(hs.sound.ok key op hk).opened, rfl, .rfl, rfl, rfl⟩

theorem handleDataPlaneCancel_refines (command : CancelCommand)
    (found : Option DirectSession) :
    Refines foreign s (handleDataPlaneCancel s stream command found) := by
  rw [handleDataPlaneCancel]
  split
  · exact .fail hs _
  dsimp only
  split
  · exact .fail hs _
  split
  · have hclosed := closeDirectPorts_refines hs.port ⟨.cancelled, command.reason⟩
      fun x => x.identity.operationId == command.operationId
    have hsound := (hclosed.refines hs).sound
    exact (hclosed.trans (cancelPort_refines hsound.port _) .nil).refines hs
  · split
    · next s' m es h =>
      rw [Option.bind_eq_some_iff] at h
      obtain ⟨session, -, h⟩ := h
      split at h
      · exact (retainUnopened_refines hs h (sends_report s m)).frame rfl rfl rfl rfl
      · cases h
    · exact cancelTracked_refines hs stream _ _

/-! ## Messages -/

/-- The key under which a step admits a Port for the direct transport. -/
def Step.directPort : Step → Option String
  | .command _ _ _ (.port frame) =>
    match frame.payload with
    | .directOpen _ => frame.key
    | _ => none
  | .command _ _ _ (.dataPlaneDirectOpen o) =>
    if o.kind = .port then o.fence.map fun fence => runnerDataPlaneOperationKey ⟨fence,
      o.operationId, o.streamId⟩
    else none
  | _ => none

theorem registerDirectDataPlaneSession_refines (expired : Bool)
    (o : DirectOpenCommand) (hdirect : ∀ fence, o.kind = .port → o.fence = some fence →
      foreign (runnerDataPlaneOperationKey ⟨fence, o.operationId, o.streamId⟩)) :
    Refines foreign s (registerDirectDataPlaneSession config s expired o) := by
  rw [registerDirectDataPlaneSession]
  split
  · exact .fail hs _
  next fence hfence =>
  dsimp only
  split
  · exact .fail hs _
  split
  · exact .fail hs _
  split
  · exact .fail hs _
  split
  · next hkind =>
    split
    · exact .fail hs _
    split
    · exact .fail hs _
    · exact (registerDirectPortSession_refines hs.port (hdirect fence hkind hfence) _ _).refines hs
  · exact .still hs (fun _ hev => by cases hev) rfl rfl rfl rfl

omit hs in
theorem handleFence_refines (answers : Answers) (hs : s.Sound foreign) (stream : Stream)
    (fence : Option Fence) (correlation : Option Correlation) :
    Refines foreign s (handleFence config answers s stream fence correlation) := by
  cases fence with
  | none => exact .fail hs _
  | some fence =>
    rw [handleFence]
    dsimp only
    split
    · exact .fail hs _
    have hclosed := closeDirectPorts_refines hs.port ⟨.fenced, "assignment fenced"⟩
      fun x => x.identity.fence.assignmentId == fence.assignmentId
    have hunseen : ∀ ev ∈ [Event.sent stream (.fenceResult fence answers.backendFences)],
        ∀ k, ev.of k = none := by
      intro ev hev k
      rw [List.mem_singleton.1 hev]
      exact of_sent_none rfl k
    have hsent := (hclosed.sending hunseen).refines hs
    split
    · exact hsent.frame rfl rfl rfl rfl
    · exact hsent.frame rfl rfl rfl rfl

theorem handleDrain_refines : Refines foreign s (handleDrain s stream) := by
  rw [handleDrain]
  dsimp only
  have hclosed := closeDirectPorts_refines hs.port ⟨.fenced, "runner draining"⟩ fun _ => true
  refine ((hclosed.sending fun ev hev k => ?_).refines hs).frame rfl rfl rfl rfl
  rw [List.mem_singleton.1 hev]
  exact of_sent_none rfl k

omit hs in
theorem handleAssignment_refines (answers : Answers) (hs : s.Sound foreign) (stream : Stream)
    (fence : Fence) :
    Refines foreign s (handleAssignment answers s stream fence) := by
  have hsent : ∀ ev ∈ [Event.sent stream (.assignmentResult fence answers.backendStarts)],
      ∀ k, ev.of k = none := by
    intro ev hev k
    rw [List.mem_singleton.1 hev]
    exact of_sent_none rfl k
  rw [handleAssignment]
  split
  · exact .fail hs none
  split
  · exact .still hs hsent rfl rfl rfl rfl
  · exact .still hs hsent rfl rfl rfl rfl

omit hs in
theorem handleCommand_refines (enabled : Features) (answers : Answers) (hs : s.Sound foreign)
    (stream : Stream) (command : Command)
    (hdirect : ∀ key, (Step.command stream enabled answers command).directPort = some key →
    foreign key) :
    Refines foreign s (handleCommand config enabled answers s stream command) := by
  cases command with
  | assignment fence => exact handleAssignment_refines answers hs stream fence
  | fence fence correlation => exact handleFence_refines config answers hs stream fence correlation
  | drain => exact handleDrain_refines hs stream
  | exec frame => exact (handleExecFrame_refines config enabled hs.exec stream frame).refines hs
  | pty frame => exact (handlePTYFrame_refines enabled hs.exec stream frame).refines hs
  | file frame => exact (handleFileFrame_refines config enabled hs.file stream frame).refines hs
  | port frame =>
    refine (handlePortFrame_refines config enabled answers.port answers.listenerReady hs.port stream
      frame ?_).refines hs
    intro o key hpayload hkey
    refine hdirect key ?_
    simp only [Step.directPort, hpayload, hkey]
  | portDirectAdmission => exact .fail hs none
  | dataPlaneDirectOpen o =>
    refine registerDirectDataPlaneSession_refines config hs answers.expired o fun fence
      hkind hfence => ?_
    refine hdirect _ ?_
    simp only [Step.directPort, hkind, hfence, if_true, Option.map_some]
  | dataPlaneDirectAdmission => exact .fail hs none
  | dataPlaneCancel command => exact handleDataPlaneCancel_refines hs stream command answers.found
  | localWorkspace =>
    rw [handleCommand]
    split
    · exact .fail hs none
    · exact .fail hs _
  | unsupported => exact .fail hs _

theorem contextDone_refines (kind : Kind) (key : String) :
    Refines foreign s { service := contextDone s kind key } := by
  cases kind with
  | exec =>
    rw [contextDone]
    split
    · exact .fail hs none
    · next op hk => exact (ExecRefines.touch hs.exec hk {} none).refines hs
  | file =>
    rw [contextDone]
    split
    · exact .fail hs none
    · next op hk => exact (FileRefines.touch hs.file hk {} none).refines hs
  | port =>
    rw [contextDone]
    split
    · exact .fail hs none
    · next op hk =>
      refine (PortRefines.touch hs.port hk ?_ none).refines hs
      exact ⟨(hs.port.sound.ok key op hk).opened, rfl, .rfl, rfl, rfl⟩

/-! ## Steps -/

theorem step_refines {t : Step} (ht : ∀ key, t.directPort = some key → foreign key) :
    Refines foreign s (s.step config t) := by
  cases t with
  | command stream enabled answers command =>
    exact handleCommand_refines config enabled answers hs stream command ht
  | decide kind key =>
    cases kind with
    | exec => exact (decideExecOpen_refines config hs.exec key).refines hs
    | file => exact (decideFileOpen_refines config hs.file key).refines hs
    | port => exact (decidePortOpen_refines hs.port key).refines hs
  | contextDone kind key => exact contextDone_refines hs kind key
  | execOutput key channel data => exact (execOutput_refines hs.exec key channel data).refines hs
  | execReturns key r => exact (execReturns_refines hs.exec key r).refines hs
  | uploadCancelled key => exact (uploadCancelled_refines hs.file key).refines hs
  | uploadAborted key => exact (uploadAborted_refines hs.file key).refines hs
  | fileOutput key payload => exact (fileOutput_refines hs.file key payload).refines hs
  | fileReturns key r => exact (fileReturns_refines hs.file key r).refines hs
  | portRead key data => exact (portRead_refines hs.port key data).refines hs
  | portPumpEnds key exit closes =>
    exact (finishPortPump_refines hs.port key exit closes).refines hs
  | connected stream => exact .still hs (fun _ hev => by cases hev) rfl rfl rfl rfl
  | detachStream stream => exact (detachStream_refines hs.exec stream).refines hs
  | unopened stream session =>
    rw [Service.step]
    split
    · next s' m es h =>
      have hnone : Sends m [] := fun _ hev => by cases hev
      have hrec := retainUnopened_refines hs h hnone
      rwa [List.append_nil] at hrec
    · exact .fail hs none
  | directPortBridged digest opens =>
    exact (bridgeDirectPort_refines hs.port digest opens).refines hs
  | directPortEnds digest t => exact (endDirectPort_refines hs.port digest t).refines hs

end

end SecondBox.Runner

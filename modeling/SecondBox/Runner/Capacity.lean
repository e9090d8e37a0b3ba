/-
  How many operations a Runner keeps.

  An Open is recorded before it is decided, and so is a refused one, and a
  cancellation records the terminal of an operation that is not there; the
  check against 1024 only decides what becomes of an Open.  A step is a
  sequence of moves on each registry (`step_refines`), and of these only a new
  entry makes it grow; `Step.records` says from the step and the state before
  it which operation that is.
-/
import SecondBox.Runner.Keys

namespace SecondBox.Runner

open Relational Once History

/-- How many operations of a kind a Runner keeps. -/
def Service.tracked (s : Service) : Kind → ℕ
  | .exec => s.execOperations.entries.size
  | .file => s.fileOperations.entries.size
  | .port => s.portOperations.entries.size

/-- The key of an Open that passes the checks of its identity and correlation. -/
def Frame.openKey {P : Type} (config : Config) (frame : Frame P) : Option String :=
  (validateRunnerDataPlaneFrameIdentity frame).bind fun i =>
    if frame.sequence = 1 ∧ validateOperationCorrelation config.runnerId i frame.correlation =
      true then
      some (runnerDataPlaneOperationKey i)
    else none

/-- The kind of the operation that a step records anew: of an Open that passes
    validation under a key that is not tracked, or of a cancellation that finds
    nothing under its key. -/
def Step.records (config : Config) (s : Service) : Step → Option Kind
  | .command _ enabled _ (.exec frame) =>
    match frame.payload with
    | .opens _ =>
      if enabled.execStreaming && (frame.openKey config).any fun key =>
        (s.execOperations.get key).isNone then
        some .exec
      else none
    | _ => none
  | .command _ enabled _ (.file frame) =>
    match frame.payload with
    | .opens o =>
      if enabled.fileStreaming && o.complete &&
          (frame.openKey config).any fun key => (s.fileOperations.get key).isNone then some .file
      else none
    | _ => none
  | .command _ enabled _ (.port frame) =>
    match frame.payload with
    | .opens _ =>
      if enabled.portProxy && (frame.openKey config).any fun key =>
        (s.portOperations.get key).isNone then some .port
      else none
    | _ => none
  | .command _ _ _ (.dataPlaneCancel c) =>
    if c.operationId = "" ∨ c.streamId = "" ∨ c.reason = "" ∨ c.kind = .unspecified ∨
      c.kind = .port then none
    else if c.fence.any fun fence =>
      s.holdsNone (runnerDataPlaneOperationKey ⟨fence, c.operationId, c.streamId⟩) then
      some c.kind.operationKind
    else none
  | .unopened _ session =>
    if s.holdsNone (runnerDataPlaneOperationKey session.identity) then
      some session.kind.operationKind else none
  | _ => none

/-- How many operations of a kind the events record. -/
def entries (kind : Kind) (events : List Event) : ℕ :=
  (seen kind events).countP Once.Event.isEntered

/-- Nothing is recorded anew. -/
def Plain (es : List Event) : Prop := ∀ kind key, .entered kind key ∉ es

variable {s : Service}

/-! ## What the handlers record anew -/

section
variable {config : Config} {kind : Kind} {key : String}

@[simp] theorem plain_nil : Plain [] := fun _ _ => List.not_mem_nil

@[simp] theorem plain_cons {e : Event} {es : List Event} :
    Plain (e :: es) ↔ (∀ kind key, e ≠ .entered kind key) ∧ Plain es := by
  simp only [Plain, List.mem_cons, not_or, forall_and, ne_comm, Ne]

@[simp] theorem plain_append {es es' : List Event} : Plain (es ++ es') ↔ Plain es ∧ Plain es' := by
  simp only [Plain, List.mem_append, not_or, forall_and]

theorem plain_of_sends {m : Message} {es : List Event} (h : Sends m es) : Plain es := by
  intro kind key hev
  obtain ⟨stream, heq⟩ := h _ hev
  cases heq

@[simp] theorem plain_report (m : Message) : Plain (s.reportCancelledOperationTerminal m) :=
  plain_of_sends (sends_report s m)

@[simp] theorem plain_sendOperationTerminal (stream : Stream) (m : Message) (confirm : Bool) :
    Plain (s.sendOperationTerminal stream m confirm) :=
      plain_of_sends (sends_sendOperationTerminal s stream m confirm)

@[simp] theorem plain_retainAndSendPTYFrame (op : ExecOperation) (p : PtyPayload) :
    Plain (op.retainAndSendPTYFrame p).2 := by
  unfold ExecOperation.retainAndSendPTYFrame
  dsimp only
  split <;> simp

@[simp] theorem plain_sendPTYTerminal (op t) : Plain (sendPTYTerminal s key op t).events := by
  unfold sendPTYTerminal
  repeat' split
  all_goals simp

@[simp] theorem plain_finishExec (op a b t) : Plain (finishExec s key op a b t).events := by
  unfold finishExec
  repeat' split
  all_goals simp

@[simp] theorem plain_sendRunnerExecOperationTerminal (op t) :
    Plain (sendRunnerExecOperationTerminal s key op t).events := by
  unfold sendRunnerExecOperationTerminal sendExecTerminal
  repeat' split
  all_goals simp

@[simp] theorem plain_sendFileTerminal (op t) : Plain (sendFileTerminal s key op t).events := by
  unfold sendFileTerminal
  repeat' split
  all_goals simp

@[simp] theorem plain_sendPortTerminal (stream op t c) :
    Plain (sendPortTerminal s stream key op t c).events := by
  unfold sendPortTerminal
  repeat' split
  all_goals simp

@[simp] theorem plain_sendPortCredit (stream op c) :
    Plain (sendPortCredit s stream key op c).events := by
  unfold sendPortCredit
  repeat' split
  all_goals simp

@[simp] theorem plain_continueExec (stream op f) :
    Plain (continueExec s stream key op f).events := by
  unfold continueExec ExecOperation.replay
  dsimp only
  repeat' split
  all_goals simp

@[simp] theorem plain_handlePTYFrame (enabled stream f) :
    Plain (handlePTYFrame enabled s stream f).events := by
  unfold handlePTYFrame attachPTYStream detachPTYAttachment continuePTY
  dsimp only
  repeat' split
  all_goals simp [Plain]

@[simp] theorem plain_continueFile (stream op f) :
    Plain (continueFile s stream key op f).events := by
  unfold continueFile
  dsimp only
  repeat' split
  all_goals simp

@[simp] theorem plain_continuePort (answers stream op f) :
    Plain (continuePort answers s stream key op f).events := by
  unfold continuePort
  dsimp only
  repeat' split
  all_goals simp

@[simp] theorem plain_closeDirectPorts (t sel) : Plain (closeDirectPorts s t sel).events := by
  intro kind key h
  unfold closeDirectPorts at h
  dsimp only at h
  simp only [List.mem_flatMap] at h
  obtain ⟨x, -, hx⟩ := h
  exact plain_report _ kind key hx


theorem entries_of_plain {es : List Event} (h : Plain es) (kind : Kind) : entries kind es = 0 := by
  rw [entries, List.countP_eq_zero]
  intro e he henters
  obtain ⟨ev, hev, hof⟩ := List.mem_filterMap.1 he
  cases ev with
  | entered k key => exact h k key hev
  | started k key | retained k key | absent k key =>
    rw [Event.of] at hof
    split at hof
    · cases hof
      cases henters
    · cases hof
  | sent stream m =>
    rw [Event.of] at hof
    repeat' split at hof
    all_goals cases hof
    cases henters

theorem entries_entered {es : List Event} (h : Plain es) (k : Kind) (key : String) (kind : Kind) :
    entries kind (.entered k key :: es) = if k = kind then 1 else 0 := by
  have hes := entries_of_plain h kind
  rw [entries] at hes ⊢
  rw [seen_cons, List.countP_append, hes, Event.of]
  split <;> rfl

/-- What the events of a step record anew is no more than `Step.records` says. -/
def Declared (t : Step) (config : Config) (s : Service) (es : List Event) : Prop :=
  ∀ kind, entries kind es ≤ if t.records config s = some kind then 1 else 0

variable {t : Step} {es : List Event}

theorem Declared.plain (h : Plain es) : Declared t config s es := by
  intro kind
  rw [entries_of_plain h]
  exact Nat.zero_le _

theorem Declared.entered {k : Kind} (ht : t.records config s = some k) (h : Plain es) :
    Declared t config s (.entered k key :: es) := by
  intro kind
  rw [entries_entered h, ht]
  simp

theorem command_declared (stream : Stream) (enabled : Features) (answers : Answers) (c : Command) :
    Declared (.command stream enabled answers c) config s
      (handleCommand config enabled answers s stream c).events := by
  cases c with
  | exec frame | file frame =>
    -- the branch that records is the one `Step.records` asks for
    simp only [handleCommand, handleExecFrame, handleFileFrame]
    repeat' split
    all_goals first
      | (refine .plain ?_; simp; done)
      | (refine .entered ?_ plain_nil; simp_all [Step.records, Frame.openKey])
  | port frame =>
    simp only [handleCommand, handlePortFrame, trackPortFrame, openPort, sendUntrackedPortTerminal,
      registerDirectPortSession]
    repeat' split
    all_goals first
      | (refine .plain ?_; simp; done)
      | (refine .entered ?_ ?_ <;> simp_all [Step.records, Frame.openKey])
  | dataPlaneCancel c =>
    simp only [handleCommand, handleDataPlaneCancel]
    split
    · exact .plain plain_nil
    next fence hfence =>
    split
    · exact .plain plain_nil
    split
    · exact .plain (by simp [Result.andThen])
    have hrecords : s.holdsNone (runnerDataPlaneOperationKey ⟨fence, c.operationId, c.streamId⟩) =
        true →
        (Step.command stream enabled answers (.dataPlaneCancel c)).records config s =
          some c.kind.operationKind := by
      intro hnone
      rw [Step.records, if_neg (by tauto), hfence, Option.any_some, if_pos hnone]
    split
    next hfound =>
      obtain ⟨session, -, hfound⟩ := Option.bind_eq_some_iff.1 hfound
      split at hfound
      next hsame =>
        simp only [retainUnopenedDirectOperation, hsame.1, hsame.2] at hfound
        split at hfound
        next hnone =>
          cases hfound
          exact .entered (hrecords hnone) (by simp)
        · cases hfound
      · cases hfound
    · simp only [cancelTracked]
      split
      next hnone => exact .entered (hrecords hnone) (by simp)
      · refine .plain ?_
        repeat' split
        all_goals simp
  | _ =>
    refine .plain ?_
    simp only [handleCommand, handleAssignment, handleFence, handleDrain,
      registerDirectDataPlaneSession, registerDirectPortSession]
    repeat' split
    all_goals simp

theorem step_declared (t : Step) : Declared t config s (s.step config t).events := by
  cases t with
  | command stream enabled answers c => exact command_declared stream enabled answers c
  | decide k key =>
    refine .plain ?_
    cases k
    all_goals
      simp only [Service.step, decideExecOpen, decideFileOpen, decidePortOpen]
      repeat' split
      all_goals simp
  | contextDone | connected | detachStream => exact .plain plain_nil
  | unopened stream session =>
    simp only [Service.step, retainUnopenedDirectOperation]
    split
    next h =>
      split at h
      next hnone =>
        cases h
        exact .entered (by rw [Step.records, if_pos hnone]) (by simp)
      · cases h
    · exact .plain plain_nil
  | _ =>
    refine .plain ?_
    simp only [Service.step, execOutput, execReturns, sendExecTerminal, uploadCancelled,
      uploadAborted, fileOutput, fileReturns, portRead, finishPortPump, bridgeDirectPort,
      endDirectPort]
    repeat' split
    all_goals simp
end

/-! ## The bound -/

/-- An operation is recorded anew only while fewer than 1024 of its kind are tracked. -/
def HasRoom (config : Config) (w : World) (t : Step) : Prop :=
  ∀ kind ∈ t.records config w.service, w.service.tracked kind < maxRunnerDataPlaneOperationStates

/-- No map holds more than 1024 operations. -/
def Bounded (w : World) : Prop := ∀ kind, w.service.tracked kind ≤ maxRunnerDataPlaneOperationStates

/-- A map grows by what the step records at most: what else a step does to an
    operation keeps its key, or takes it away. -/
theorem tracked_step_le (config : Config) (hs : s.Sound fun _ => True) (t : Step) (kind : Kind) :
    (s.step config t).service.tracked kind ≤ s.tracked kind + entries kind
      (s.step config t).events := by
  have hrefines := step_refines config hs (t := t) fun _ _ => trivial
  cases kind with
  | exec => exact hrefines.exec.size_le
  | file => exact hrefines.file.size_le
  | port => exact hrefines.port.size_le

theorem HasRoom.bounded_step {config : Config} {w : World} {t : Step} (hroom : HasRoom config w t)
    (hs : w.service.Sound fun _ => True) (hbound : Bounded w) : Bounded (w.step config t) := by
  intro kind
  have hle : (w.step config t).service.tracked kind ≤ _ := tracked_step_le config hs t kind
  have hentries := (step_declared t : Declared t config w.service _) kind
  split at hentries
  next hrecords =>
    have hlt := hroom kind hrecords
    omega
  next => exact (hle.trans (Nat.add_le_add_left hentries _)).trans (hbound kind)

namespace Sample

/-- The n-th of a row of operation IDs. -/
def execId (n : ℕ) : String := String.ofList (List.replicate (n + 1) 'x')

/-- The identity of Exec `n`. -/
def execIdentity (n : ℕ) : Identity := ⟨fence, execId n, "stream"⟩

/-- Its Open. -/
def execFrame (n : ℕ) : ExecFrame := frame (execId n) 1 (.opens ⟨[], 16, false, true, none⟩)

/-- Its Open arrives. -/
def execOpen (n : ℕ) : Step := command (.exec (execFrame n))

/-- An Assignment, and `n` Execs that are opened and started on it. -/
def execs : ℕ → List Step
  | 0 => [command (.assignment fence)]
  | n + 1 => execs n ++ [execOpen n, .decide .exec (runnerDataPlaneOperationKey (execIdentity n))]

variable {n : ℕ}

theorem execKey_injective {m : ℕ}
    (h : runnerDataPlaneOperationKey (execIdentity m) = runnerDataPlaneOperationKey (execIdentity n)) : m = n := by
  have hnuls : ∀ k, nuls (execId k) = 0 := by
    intro k
    rw [nuls, execId, String.toList_ofList, List.count_replicate]
    rfl
  have hid := congrArg Identity.operationId (eq_of_key_eq h ⟨rfl, rfl, rfl, rfl, (hnuls m).trans (hnuls n).symm⟩)
  have hlist := congrArg (fun id => id.toList.length) hid
  simpa [execIdentity, execId] using hlist

theorem identity_execFrame (n : ℕ) :
    validateRunnerDataPlaneFrameIdentity (execFrame n) = some (execIdentity n) := by
  have hblank : blank (execId n) = false := by
    rw [blank, execId, String.toList_ofList, List.replicate_succ, List.all_cons]
    rfl
  have hcomplete : (execIdentity n).complete = true := by
    rw [Identity.complete]
    simp only [execIdentity, hblank]
    decide
  have hvalid : ((execIdentity n).complete && (1 : ℕ) != 0) = true := by
    rw [hcomplete]
    rfl
  exact if_pos hvalid

theorem correlation_execFrame (n : ℕ) :
    validateOperationCorrelation config.runnerId (execIdentity n) (execFrame n).correlation =
      true := by
  simp only [validateOperationCorrelation, execFrame, frame, correlation, execIdentity,
    beq_self_eq_true, Bool.and_true]
  decide

/-- The Exec that is recorded for the n-th Open. -/
def execOp (n : ℕ) (stage : ExecStage) : ExecOperation where
  identity := execIdentity n
  correlation := some (correlation (execId n))
  stream := .control 0
  nextIncoming := 2
  lastIncoming := some (.inl (execFrame n))
  nextOutgoing := 1
  pty := false
  outputLimitBytes := 16
  stage := stage

/-- `n` Execs are tracked and the next ones are not known. -/
structure Holds (n : ℕ) (s : Service) : Prop where
  tracked : s.execOperations.entries.size = n
  unknown : ∀ m, n ≤ m → s.execOperations.get (runnerDataPlaneOperationKey (execIdentity m)) = none
  active : s.hasActiveFence fence = true

theorem Holds.opens (h : Holds n s) :
    (s.step config (execOpen n)).service = s.putExec (runnerDataPlaneOperationKey (execIdentity n))
      (execOp n (.opening (decide (maxRunnerDataPlaneOperationStates ≤ n)) ⟨[], 16, false, true, none⟩ true)) := by
  have hkey := h.unknown n le_rfl
  simp only [Service.step, execOpen, command, handleCommand, handleExecFrame, identity_execFrame,
    hkey, h.tracked, correlation_execFrame]
  rfl

theorem Holds.tracked_opens (h : Holds n s) :
    (s.step config (execOpen n)).service.tracked .exec = n + 1 := by
  rw [h.opens]
  exact (Table.size_put_of_none _ _ (h.unknown n le_rfl)).trans (congrArg (· + 1) h.tracked)

theorem decideExecOpen_starts {key : String} {op : ExecOperation} {o : ExecOpen} {enabled : Bool}
    (hk : s.execOperations.get key = some op) (hstage : op.stage = .opening false o enabled)
    (hactive : s.hasActiveFence op.identity.fence = true) (hpty : o.allocatePty = false) :
    (decideExecOpen config s key).service = s.putExec key
      { op with stage := .running o.streaming } := by
  rw [decideExecOpen, hk]
  dsimp only
  rw [hstage]
  simp [hactive, hpty, config]

theorem Holds.starts (h : Holds n s) (hn : n < maxRunnerDataPlaneOperationStates) :
    Holds (n + 1) ((s.step config (execOpen n)).service.step config
      (.decide .exec (runnerDataPlaneOperationKey (execIdentity n)))).service := by
  have hroom : decide (maxRunnerDataPlaneOperationStates ≤ n) = false :=
    decide_eq_false (Nat.not_le.2 hn)
  have hstep : ((s.step config (execOpen n)).service.step config
      (.decide .exec (runnerDataPlaneOperationKey (execIdentity n)))).service =
      s.putExec (runnerDataPlaneOperationKey (execIdentity n)) (execOp n (.running true)) := by
    rw [h.opens, hroom]
    have hstage : (execOp n (.opening false ⟨[], 16, false, true, none⟩ true)).stage =
        .opening false ⟨[], 16, false, true, none⟩ true := rfl
    have hkey : (s.putExec (runnerDataPlaneOperationKey (execIdentity n)) (execOp n
        (.opening false ⟨[], 16, false, true, none⟩ true))).execOperations.get
          (runnerDataPlaneOperationKey (execIdentity n)) = some (execOp n _) :=
            Registry.get_put_self ..
    refine (decideExecOpen_starts hkey hstage h.active rfl).trans ?_
    simp only [Service.putExec, Registry.put_put]
    rfl
  rw [hstep]
  refine ⟨?_, fun m hm => ?_, h.active⟩
  · exact (Table.size_put_of_none _ _ (h.unknown n le_rfl)).trans (congrArg (· + 1) h.tracked)
  · have hne : runnerDataPlaneOperationKey (execIdentity m) ≠ runnerDataPlaneOperationKey
        (execIdentity n) := by
      intro heq
      have := execKey_injective heq
      omega
    rw [Service.putExec, Registry.get_put_of_ne _ _ hne]
    exact h.unknown m (by omega)

theorem holds_execs (hn : n ≤ maxRunnerDataPlaneOperationStates) :
    Holds n (after (World.step config) {} (execs n)).service := by
  induction n with
  | zero => exact ⟨rfl, fun _ _ => rfl, by decide⟩
  | succ n ih =>
    rw [execs, after_append]
    exact (ih (by omega)).starts (by omega)

theorem lt_tracked_opens (hn : n ≤ maxRunnerDataPlaneOperationStates) :
    n < (after (World.step config) {} (execs n ++ [execOpen n])).service.tracked .exec := by
  have htracked := (holds_execs hn).tracked_opens
  rw [after_append]
  exact Nat.lt_of_lt_of_eq (Nat.lt_succ_self n) htracked.symm

end Sample

instance (config : Config) (w : World) (t : Step) : Decidable (HasRoom config w t) :=
  inferInstanceAs (Decidable (∀ kind ∈ t.records config w.service, _))

end SecondBox.Runner

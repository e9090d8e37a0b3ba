/-
  At most one execution of an operation, whatever the interleaving.

  In every run the three registries keep the invariant of operations that run
  at most once (`World.Ok`), by the steps of `RefineSystem`.
-/
import SecondBox.Base.History
import SecondBox.Runner.RefineSystem

namespace SecondBox.Runner

open Relational Once History

/-- The invariant of every run in which the direct transport uses only the keys in `foreign`. -/
structure World.Ok (foreign : String → Prop) (w : World) : Prop where
  sound : w.service.Sound foreign
  exec : Inv maxRunnerDataPlaneTerminalTombstones execShape.answer execShape.spent (fun _ => False)
    (seen .exec w.events) w.service.execOperations
  file : Inv maxRunnerDataPlaneTerminalTombstones fileShape.answer fileShape.spent (fun _ => False)
    (seen .file w.events) w.service.fileOperations
  port : Inv maxRunnerDataPlaneTerminalTombstones portShape.answer portShape.spent foreign
    (seen .port w.events) w.service.portOperations

section
variable {foreign : String → Prop} {w : World} {t : Step}

theorem World.ok_empty : World.Ok foreign {} where
  sound := .mk' ⟨.empty, by simp⟩ ⟨.empty, by simp⟩ ⟨.empty, by simp⟩ (by simp)
  exec := .empty
  file := .empty
  port := .empty

variable (config : Config)

theorem World.step_ok (ht : ∀ key, t.directPort = some key → foreign key) (h : w.Ok foreign) :
    (w.step config t).Ok foreign := by
  have hstep := step_refines config h.sound ht
  refine ⟨hstep.sound, ?_, ?_, ?_⟩
  · rw [World.step, seen_append]
    exact hstep.exec.inv Shape.tombstones_pos h.exec
  · rw [World.step, seen_append]
    exact hstep.file.inv Shape.tombstones_pos h.file
  · rw [World.step, seen_append]
    exact hstep.port.inv Shape.tombstones_pos h.port

theorem World.run_ok (foreign : String → Prop) (steps : List Step)
    (h : ∀ t ∈ steps, ∀ key, t.directPort = some key → foreign key) :
    (after (World.step config) {} steps).Ok foreign :=
  Along.invariant (fun _ _ ht hw => World.step_ok config ht hw) (along_of_forall h _) World.ok_empty

/-- Whether there is an operation under a key, and whether it has ended. -/
def Service.terminalAt (s : Service) (kind : Kind) (key : String) : Option Bool :=
  match kind with
  | .exec => (s.execOperations.get key).map ExecOperation.terminal
  | .file => (s.fileOperations.get key).map FileOperationState.terminal
  | .port => (s.portOperations.get key).map PortOperation.terminal

/-- How many operations of a kind ended after the one under `key`. -/
def laterTerminals (kind : Kind) (key : String) (events : List Event) : ℕ :=
  later key (seen kind events)

/-- What the history of an operation shows when it runs at most once. -/
structure RunsOnce (kind : Kind) (key : String) (events : List Event) : Prop where
  /-- the backend is called at most once -/
  once : events.countP (· == .started kind key) ≤ 1
  /-- and not at all after the operation was confirmed as absent -/
  barrier : ∀ before after, events = before ++ .absent kind key :: after → .started kind key ∉ after
  /-- all terminals sent for it are the same -/
  answer : ∀ stream m stream' m', .sent stream m ∈ events → m.terminalOf = some (kind, key) →
    .sent stream' m' ∈ events → m'.terminalOf = some (kind, key) → m = m'

variable {kind : Kind} {key : String}

theorem mem_seen_answered {events : List Event} {stream : Stream} {m : Message}
    (h : .sent stream m ∈ events) (hm : m.terminalOf = some (kind, key)) :
    .answered key m ∈ seen kind events :=
  List.mem_filterMap.2 ⟨_, h, of_sent hm⟩

/-- An event that is not the call of the backend is not seen as one. -/
theorem countP_of {ev : Event} (h : ev ≠ .started kind key) :
    (ev.of kind).toList.countP (Once.Event.starts key) = 0 := by
  rw [List.countP_eq_zero]
  intro e he hstarts
  rw [Option.mem_toList] at he
  rw [Once.Event.starts_eq_true] at hstarts
  subst hstarts
  cases ev with
  | started k key' =>
    rw [Event.of] at he
    split at he
    · next hk =>
      cases he
      exact h (by rw [hk])
    · cases he
  | sent stream m =>
    rw [Event.of] at he
    split at he
    · split at he
      · cases he
      · cases he
    · cases he
  | _ =>
    rw [Event.of] at he
    split at he
    · cases he
    · cases he

theorem countP_started (kind : Kind) (key : String) (events : List Event) :
    events.countP (· == .started kind key) = (seen kind events).countP (Once.Event.starts key) := by
  induction events with
  | nil => rfl
  | cons ev events ih =>
    rw [seen_cons, List.countP_cons, List.countP_append, ih]
    by_cases hev : ev = .started kind key
    · subst hev
      simp [Event.of, Once.Event.starts, Nat.add_comm]
    · rw [countP_of hev]
      simp [hev]

/-- A recent operation has run at most once. -/
theorem runsOnce_of_recent {σ : Type} {answer : σ → Option Message} {spent : σ → Bool} {limit : ℕ}
    {foreign : String → Prop} {r : Registry String σ} {events : List Event}
    (hinv : Inv limit answer spent foreign (seen kind events) r) (hforeign : ¬foreign key)
    (hlater : laterTerminals kind key events < limit) : RunsOnce kind key events := by
  have hrecent := hinv.recent key hforeign hlater
  refine ⟨?_, ?_, ?_⟩
  · rw [countP_started]
    exact hrecent.once
  · rintro before after rfl hstarted
    have hseen : seen kind (before ++ .absent kind key :: after) = seen kind before ++ .absent
        key :: seen kind after := by
      rw [seen_append, seen_cons, Event.of, if_pos rfl]
      rfl
    refine hrecent.barrier _ _ hseen (List.mem_filterMap.2 ⟨_, hstarted, ?_⟩)
    rw [Event.of, if_pos rfl]
  · intro stream m stream' m' hsent hm hsent' hm'
    have hanswered := mem_seen_answered hsent hm
    obtain ⟨e, he⟩ := hrecent.present (hinv.known _ hanswered hforeign)
    have h := hrecent.answered e m he hanswered
    rw [hrecent.answered e m' he (mem_seen_answered hsent' hm')] at h
    exact (Option.some.inj h).symm

theorem step_keeps (h : w.Ok fun _ => True) (t : Step)
    (hk : w.service.terminalAt kind key = some false) :
    ((w.step config t).service.terminalAt kind key).isSome = true := by
  have hstep := step_refines config (t := t) h.sound fun _ _ => trivial
  cases kind with
  | exec =>
    obtain ⟨op, hop, ht⟩ := Option.map_eq_some_iff.1 hk
    obtain ⟨op', hop'⟩ := hstep.exec.keeps Shape.tombstones_pos h.exec (hstep.few .exec) hop
      (by rw [Shape.ended_answer]; exact ht)
    rw [Service.terminalAt, Option.isSome_map, World.step, hop']
    rfl
  | file =>
    obtain ⟨op, hop, ht⟩ := Option.map_eq_some_iff.1 hk
    obtain ⟨op', hop'⟩ := hstep.file.keeps Shape.tombstones_pos h.file (hstep.few .file) hop
      (by rw [Shape.ended_answer]; exact ht)
    rw [Service.terminalAt, Option.isSome_map, World.step, hop']
    rfl
  | port =>
    obtain ⟨op, hop, ht⟩ := Option.map_eq_some_iff.1 hk
    obtain ⟨op', hop'⟩ := hstep.port.keeps Shape.tombstones_pos h.port (hstep.few .port) hop
      (by rw [Shape.ended_answer]; exact ht)
    rw [Service.terminalAt, Option.isSome_map, World.step, hop']
    rfl

end

/-- In every run, an Exec, PTY or File operation, and a Port that was never
    admitted for the direct transport, runs at most once as long as fewer than
    256 operations of its kind have ended after it; and no operation leaves its
    map before it has ended. -/
theorem operations_run_at_most_once (config : Config) (steps : List Step) (kind : Kind)
    (key : String) :
    ((kind = .port → ∀ t ∈ steps, t.directPort ≠ some key) →
      laterTerminals kind key (after (World.step config) {} steps).events <
      maxRunnerDataPlaneTerminalTombstones →
      RunsOnce kind key (after (World.step config) {} steps).events) ∧
    ∀ before t rest, steps = before ++ t :: rest →
      (after (World.step config) {} before).service.terminalAt kind key = some false →
      ((after (World.step config) {} (before ++ [t])).service.terminalAt kind key).isSome =
        true := by
  constructor
  · intro hdirect hlater
    cases kind with
    | exec =>
      have hok := World.run_ok config (fun _ => True) steps fun _ _ _ _ => trivial
      exact runsOnce_of_recent hok.exec (fun h => h) hlater
    | file =>
      have hok := World.run_ok config (fun _ => True) steps fun _ _ _ _ => trivial
      exact runsOnce_of_recent hok.file (fun h => h) hlater
    | port =>
      -- the direct transport uses other keys only
      have hok :=
        World.run_ok config (· ≠ key) steps fun t ht k hk heq => hdirect rfl t ht (heq ▸ hk)
      exact runsOnce_of_recent hok.port (fun h => h rfl) hlater
  · rintro before t rest - hk
    have hok := World.run_ok config (fun _ => True) before fun _ _ _ _ => trivial
    rw [after_append]
    exact step_keeps config hok t hk

/-- A Port that is served on the direct transport first and opened on the control connection then. -/
def portTwice : List Step :=
  [ Sample.command (.assignment Sample.fence),
    Sample.command (.port (Sample.frame "port" 1 (.directOpen ⟨80, "tcp", "web", 1, Sample.digest, "lease"⟩))),
    .directPortBridged Sample.digest true,
    Sample.command (.port (Sample.frame "port" 1 (.opens ⟨80, "tcp", 0⟩))) ]

/-- The direct transport keeps no tombstones: a Port may run once on it and once more as a stream. -/
theorem direct_port_runs_again : ∃ config steps kind key,
    laterTerminals kind key (after (World.step config) {} steps).events <
    maxRunnerDataPlaneTerminalTombstones ∧
    ¬RunsOnce kind key (after (World.step config) {} steps).events := by
  refine ⟨Sample.config, portTwice, .port,
    runnerDataPlaneOperationKey ⟨Sample.fence, "port", "stream"⟩, by decide +kernel, fun h => ?_⟩
  have htwice : (after (World.step Sample.config) {} portTwice).events.countP
      (· == .started .port (runnerDataPlaneOperationKey ⟨Sample.fence, "port", "stream"⟩)) = 2 := by
        decide +kernel
  have honce := h.once
  rw [htwice] at honce
  exact absurd honce (by decide)

/-- An Exec that is opened, opened once more, started, cancelled and ended. -/
def execTwice : List Step :=
  [ Sample.command (.assignment Sample.fence),
    Sample.command (.exec (Sample.frame "exec" 1 (.opens ⟨[], 16, false, false, none⟩))),
    Sample.command (.exec (Sample.frame "exec" 1 (.opens ⟨[], 16, false, false, none⟩))),
    .decide .exec (runnerDataPlaneOperationKey ⟨Sample.fence, "exec", "stream"⟩),
    Sample.command (.dataPlaneCancel ⟨some Sample.fence, "exec", "stream", .exec, "stop"⟩),
    .execReturns (runnerDataPlaneOperationKey ⟨Sample.fence, "exec", "stream"⟩) ⟨none, none,
    none, [], []⟩,
    Sample.command (.exec (Sample.frame "exec" 1 (.opens ⟨[], 16, false, false, none⟩))) ]

/-- It is started once, and its terminal is sent twice. -/
theorem execTwice_runs_once :
    RunsOnce .exec (runnerDataPlaneOperationKey ⟨Sample.fence, "exec", "stream"⟩)
      (after (World.step Sample.config) {} execTwice).events ∧
    (after (World.step Sample.config) {} execTwice).events.countP
      (· == .started .exec (runnerDataPlaneOperationKey ⟨Sample.fence, "exec", "stream"⟩)) = 1 :=
  ⟨(operations_run_at_most_once Sample.config execTwice .exec _).1 (fun h => by cases h) (by decide +kernel),
    by decide +kernel⟩

end SecondBox.Runner

/-
  The control queue of an Exec or PTY operation.

  A receive loop that has sequenced an input, credit or resize frame puts it
  into the operation's channel of 256 controls and, while the channel is full,
  waits: for room, for the end of its own connection and, in `sendExecControl`
  only, for the operation's terminal.  Until then it takes no further command,
  so a loop that waits on an operation nobody serves any more is lost.
-/
import SecondBox.Base.History
import SecondBox.Runner.Operations

namespace SecondBox.Runner

open History

/-- The capacity of `controls` and `ptyControls`. -/
def controlQueueCapacity : ℕ := 256

/-- An operation, its worker, and the receive loops that stand at its queue.
    What a control says (`ExecControl`, `PtyControl`) does not matter here. -/
structure ControlQueue (α : Type) where
  pty : Bool
  /-- the terminal is set, and `done` is closed -/
  terminal : Bool
  /-- the worker takes controls: the backend reads the channel -/
  consuming : Bool
  queue : List α
  /-- the connections whose receive loop waits, each with the control it brings -/
  waiting : List (ℕ × α)
  /-- connections that have ended -/
  ended : List ℕ

namespace ControlQueue

variable {α : Type}

/-- An operation that was just started; the worker of a buffered Exec never takes a control. -/
def started (pty consuming : Bool) : ControlQueue α where
  pty := pty
  terminal := false
  consuming := consuming
  queue := []
  waiting := []
  ended := []

/-- What happens to an operation's queue. -/
inductive Event (α : Type) where
  /-- a control frame with the next sequence arrives on a connection -/
  | frame (connection : ℕ) (control : α)
  /-- the loop of a connection leaves its `select`, by a case that is ready -/
  | select (connection : ℕ)
  /-- the worker takes the oldest control -/
  | consume
  /-- the backend reads the channel no more: it has returned, or its sender has failed -/
  | stop
  /-- `sendExecTerminal`, `sendExecBufferedResult`, `sendPTYTerminal` -/
  | finish
  /-- a connection ends -/
  | lose (connection : ℕ)
deriving DecidableEq

variable (s : ControlQueue α)

/-- The loop of `c` waits to send. -/
def isWaiting (c : ℕ) : Bool := s.waiting.any fun x => x.1 == c

/-- The channel has room. -/
def hasRoom : Bool := s.queue.length < controlQueueCapacity

/-- `<-done` is ready; only `sendExecControl` has this case. -/
def isReleased : Bool := !s.pty && s.terminal

/-- The loop of `c` no longer waits. -/
def leave (c : ℕ) : ControlQueue α := { s with waiting := s.waiting.filter fun x => x.1 != c }

/-- One event. -/
def step : Event α → ControlQueue α
  | .frame c control =>
    -- a frame after the terminal is sequenced and discarded
    if s.isWaiting c || s.ended.contains c || s.terminal then s
    else { s with waiting := s.waiting ++ [(c, control)] }
  | .select c =>
    match s.waiting.find? fun x => x.1 == c with
    | none => s
    | some (_, control) =>
      if s.isReleased || s.ended.contains c then s.leave c
      else if s.hasRoom then { s.leave c with queue := s.queue ++ [control] }
      else s
  | .consume => if s.consuming then { s with queue := s.queue.tail } else s
  | .stop => { s with consuming := false }
  | .finish => if s.consuming then s else { s with terminal := true }
  | .lose c => { s with ended := c :: s.ended }

/-- The loop of the connection waits, and no case of its `select` is ready. -/
def Blocked (c : ℕ) : Prop :=
  s.isWaiting c = true ∧ s.hasRoom = false ∧ s.isReleased = false ∧ s.ended.contains c = false

/-- Nobody takes controls any more: the operation has ended or its worker has stopped. -/
def Deserted : Prop := s.terminal = true ∨ s.consuming = false

instance (c : ℕ) : Decidable (s.Blocked c) :=
  inferInstanceAs (Decidable (_ ∧ _ ∧ _ ∧ _))

/-! ## What the terminal releases -/

variable {s : ControlQueue α}

/-- The terminal of an Exec releases every loop. -/
theorem exec_terminal_releases (hpty : s.pty = false) (hterminal : s.terminal = true) (c : ℕ) :
    ¬ s.Blocked c := by
  rintro ⟨-, -, hreleased, -⟩
  simp [isReleased, hpty, hterminal] at hreleased

variable {c : ℕ}

theorem isWaiting_append (h : s.isWaiting c = true) (x : ℕ × α) :
    isWaiting { s with waiting := s.waiting ++ [x] } c = true := by
  simp only [isWaiting, List.any_append, Bool.or_eq_true]
  exact .inl h

theorem isWaiting_leave {d : ℕ} (h : s.isWaiting c = true) (hne : c ≠ d) :
    (s.leave d).isWaiting c = true := by
  obtain ⟨x, hx, hxc⟩ := List.any_eq_true.1 h
  refine List.any_eq_true.2 ⟨x, List.mem_filter.2 ⟨hx, ?_⟩, hxc⟩
  rw [beq_iff_eq] at hxc
  rw [hxc]
  exact bne_iff_ne.2 hne

/-- A loop that waits on a PTY whose worker has stopped waits until its own connection ends. -/
theorem pty_blocked_step (hpty : s.pty = true) (hstopped : s.consuming = false)
    (hblocked : s.Blocked c) {e : Event α} (he : e ≠ .lose c) :
    (s.step e).pty = true ∧ (s.step e).consuming = false ∧ (s.step e).Blocked c := by
  obtain ⟨hwaiting, hfull, hreleased, hended⟩ := hblocked
  cases e with
  | frame d control =>
    rw [step]
    split
    · exact ⟨hpty, hstopped, hwaiting, hfull, hreleased, hended⟩
    · exact ⟨hpty, hstopped, isWaiting_append hwaiting _, hfull, hreleased, hended⟩
  | select d =>
    rw [step]
    split
    · exact ⟨hpty, hstopped, hwaiting, hfull, hreleased, hended⟩
    · split
      · rename_i hready
        have hne : c ≠ d := by
          rintro rfl
          rw [hreleased, hended] at hready
          cases hready
        exact ⟨hpty, hstopped, isWaiting_leave hwaiting hne, hfull, hreleased, hended⟩
      · rw [if_neg (by rw [hfull]; exact Bool.false_ne_true)]
        exact ⟨hpty, hstopped, hwaiting, hfull, hreleased, hended⟩
  | consume =>
    rw [step, hstopped]
    exact ⟨hpty, hstopped, hwaiting, hfull, hreleased, hended⟩
  | stop => exact ⟨hpty, rfl, hwaiting, hfull, hreleased, hended⟩
  | finish =>
    rw [step, if_neg (by rw [hstopped]; exact Bool.false_ne_true)]
    refine ⟨hpty, hstopped, hwaiting, hfull, ?_, hended⟩
    simp [isReleased, hpty]
  | lose d =>
    refine ⟨hpty, hstopped, hwaiting, hfull, hreleased, ?_⟩
    have hne : c ≠ d := by
      rintro rfl
      exact he rfl
    rw [step, List.contains_cons, hended, Bool.or_false]
    exact beq_false_of_ne hne

theorem pty_blocked_for_good (hpty : s.pty = true) (hstopped : s.consuming = false)
    (hblocked : s.Blocked c) {events : List (Event α)} (he : .lose c ∉ events) :
    (after step s events).Blocked c := by
  induction events generalizing s with
  | nil => exact hblocked
  | cons e events ih =>
    rw [List.mem_cons, not_or] at he
    obtain ⟨hpty', hstopped', hblocked'⟩ := pty_blocked_step hpty hstopped hblocked (Ne.symm he.1)
    exact ih hpty' hstopped' hblocked' he.2

/-! ## Room for every control -/

/-- The loops that wait on a connection that has not ended. -/
def live (s : ControlQueue α) : List (ℕ × α) := s.waiting.filter fun x => !s.ended.contains x.1

/-- What is in the channel and on its way into it. -/
def pending (s : ControlQueue α) : ℕ := s.queue.length + s.live.length

/-- When the worker stops, the channel has room for every control that is on
    its way, and so it has for each that comes after this, unless the terminal
    releases them. -/
def Fits (s : ControlQueue α) : Event α → Prop
  | .frame c _ => s.consuming = false → s.terminal = false → s.isWaiting c = false →
      s.ended.contains c = false →
      s.pending < controlQueueCapacity
  | .stop => s.consuming = true → s.isReleased = false → s.pending ≤ controlQueueCapacity
  | _ => True

instance (s : ControlQueue α) (e : Event α) : Decidable (s.Fits e) :=
  match e with
  | .frame _ _ => inferInstanceAs (Decidable (_ → _ → _ → _ → _))
  | .stop => inferInstanceAs (Decidable (_ → _ → _))
  | .select _ | .consume | .finish | .lose _ => isTrue trivial

/-- The bound that keeps a deserted queue from blocking. -/
def Inv (s : ControlQueue α) : Prop :=
  s.Deserted → s.isReleased = true ∨ s.pending ≤ controlQueueCapacity

theorem live_leave : (s.leave c).live = s.live.filter fun x => x.1 != c := by
  simp [live, leave, List.filter_filter, Bool.and_comm]

theorem length_live_leave_lt {x : ℕ × α} (h : s.waiting.find? (fun x => x.1 == c) = some x)
    (hended : s.ended.contains c = false) : (s.leave c).live.length < s.live.length := by
  have hx := List.find?_some h
  rw [beq_iff_eq] at hx
  rw [live_leave]
  refine List.length_filter_lt_length_iff_exists.2 ⟨x,
    List.mem_filter.2 ⟨List.mem_of_find?_eq_some h, ?_⟩, by simp [hx]⟩
  rw [hx, hended]
  rfl

theorem inv_step (s : ControlQueue α) (e : Event α) (hfits : s.Fits e) (hinv : Inv s) :
    Inv (s.step e) := by
  cases e with
  | frame c control =>
    rw [step]
    split
    · exact hinv
    · rename_i hopen
      simp only [Bool.or_eq_true, not_or, Bool.not_eq_true] at hopen
      intro hdeserted
      have hstopped : s.consuming = false := by
        rcases hdeserted with hset | hstopped
        · rw [hopen.2] at hset
          cases hset
        · exact hstopped
      have hroom := hfits hstopped hopen.2 hopen.1.1 hopen.1.2
      have hlive : live { s with waiting := s.waiting ++ [(c, control)] } = s.live ++
          [(c, control)] := by
        rw [live, List.filter_append, List.filter_singleton, hopen.1.2]
        rfl
      right
      simp only [pending, hlive, List.length_append, List.length_singleton] at hroom ⊢
      omega
  | select c =>
    rw [step]
    split
    · exact hinv
    · rename_i x control hfind
      split
      · intro hdeserted
        refine (hinv hdeserted).imp_right fun hle => ?_
        have hshorter : (s.leave c).live.length ≤ s.live.length := by
          rw [live_leave]
          exact List.length_filter_le _ _
        simp only [pending, leave] at hle hshorter ⊢
        omega
      · rename_i hready
        simp only [Bool.or_eq_true, not_or, Bool.not_eq_true] at hready
        have hlt := length_live_leave_lt hfind hready.2
        split
        · intro hdeserted
          refine (hinv hdeserted).imp_right fun hle => ?_
          simp only [pending, live, leave, List.length_append, List.length_singleton] at hle hlt ⊢
          omega
        · exact hinv
  | consume =>
    rw [step]
    split
    · intro hdeserted
      refine (hinv hdeserted).imp_right fun hle => ?_
      simp only [pending, live, List.length_tail] at hle ⊢
      omega
    · exact hinv
  | stop =>
    intro _
    cases hstopped : s.consuming with
    | false => exact hinv (.inr hstopped)
    | true =>
      cases hreleased : s.isReleased with
      | true => exact .inl hreleased
      | false => exact .inr (hfits hstopped hreleased)
  | finish =>
    rw [step]
    split
    · exact hinv
    · rename_i hstopped
      intro _
      rcases hinv (.inr (Bool.not_eq_true _ ▸ hstopped)) with hreleased | hle
      · left
        simp only [isReleased, Bool.and_eq_true] at hreleased ⊢
        exact ⟨hreleased.1, trivial⟩
      · exact .inr hle
  | lose c =>
    intro hdeserted
    refine (hinv hdeserted).imp_right fun hle => ?_
    have hshorter : (live { s with ended := c :: s.ended }).length ≤ s.live.length := by
      refine (List.monotone_filter_right s.waiting fun x hx => ?_).length_le
      simp only [List.contains_cons, Bool.not_or, Bool.and_eq_true] at hx
      exact hx.2
    simp only [pending, step] at hle hshorter ⊢
    omega

/-- `n` controls that are put into the channel one after the other. -/
def filled (n : ℕ) : List (Event PtyControl) :=
  (List.replicate n [.frame 0 (.credit 1), .select 0]).flatten

end ControlQueue

end SecondBox.Runner

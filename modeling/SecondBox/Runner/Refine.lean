/-
  The Runner's maps as registries of operations that run at most once.

  What is seen of the Runner is projected to the events of one kind of
  operation (`seen`), and a step of the Runner is shown to be a sequence of
  moves on each of its three registries (`Refines`).  This module has what the
  three kinds share; the steps themselves follow in one module for each kind.
-/
import SecondBox.Runner.System

namespace SecondBox.Runner

open Relational Once

/-! ## What is seen of one kind of operation -/

/-- The key of the operation a frame belongs to. -/
def Frame.key {P : Type} (frame : Frame P) : Option String :=
  frame.fence.map fun fence => runnerDataPlaneOperationKey ⟨fence, frame.operationId,
    frame.streamId⟩

theorem key_of_identity {P : Type} {frame : Frame P} {i : Identity}
    (h : validateRunnerDataPlaneFrameIdentity frame = some i) :
    frame.key = some (runnerDataPlaneOperationKey i) := by
  rw [validateRunnerDataPlaneFrameIdentity] at h
  split at h
  · cases h
  next fence hfence =>
  dsimp only at h
  split at h
  · cases h
    rw [Frame.key, hfence]
    rfl
  · cases h

/-- The operation a message is the terminal of. -/
def Message.terminalOf : Message → Option (Kind × String)
  | .exec frame =>
    match frame.payload with
    | .bufferedResult _ _ _ | .terminal _ => frame.key.map (Prod.mk .exec)
    | _ => none
  | .pty frame =>
    match frame.payload with
    | .terminal _ => frame.key.map (Prod.mk .exec)
    | _ => none
  | .file frame =>
    match frame.payload with
    | .terminal _ => frame.key.map (Prod.mk .file)
    | _ => none
  | .port frame =>
    match frame.payload with
    | .terminal _ => frame.key.map (Prod.mk .port)
    | _ => none
  | _ => none

/-- An event of the Runner as an event of the registry of one kind. -/
def Event.of (kind : Kind) : Event → Option (Once.Event String Message)
  | .entered k key => if k = kind then some (.entered key) else none
  | .started k key => if k = kind then some (.started key) else none
  | .retained k key => if k = kind then some (.retained key) else none
  | .absent k key => if k = kind then some (.absent key) else none
  | .sent _ message =>
    match message.terminalOf with
    | some (k, key) => if k = kind then some (.answered key message) else none
    | none => none

/-- What is seen of one kind of operation. -/
def seen (kind : Kind) (events : List Event) : List (Once.Event String Message) :=
  events.filterMap (Event.of kind)

@[simp] theorem seen_append (kind : Kind) (es es' : List Event) :
    seen kind (es ++ es') = seen kind es ++ seen kind es' :=
  List.filterMap_append

theorem seen_cons (kind : Kind) (e : Event) (es : List Event) :
    seen kind (e :: es) = (e.of kind).toList ++ seen kind es := by
  rw [seen, List.filterMap_cons]
  cases e.of kind <;> rfl

/-- Every event is of one kind of operation, or of none. -/
def Only (kind : Kind) (events : List Event) : Prop := ∀ k ≠ kind, seen k events = []

section Only
variable {kind : Kind} {es es' : List Event}

theorem Only.nil : Only kind [] := fun _ _ => rfl

theorem Only.append (h : Only kind es) (h' : Only kind es') : Only kind (es ++ es') := by
  intro k hk
  rw [seen_append, h k hk, h' k hk]
  rfl

theorem Only.cons {e : Event} (h : ∀ k ≠ kind, e.of k = none) (h' : Only kind es) :
    Only kind (e :: es) := by
  intro k hk
  rw [seen_cons, h k hk, h' k hk]
  rfl

theorem of_entered (key : String) : ∀ k ≠ kind, (Event.entered kind key).of k = none :=
  fun _ hk => if_neg hk.symm
theorem of_started (key : String) : ∀ k ≠ kind, (Event.started kind key).of k = none :=
  fun _ hk => if_neg hk.symm
theorem of_retained (key : String) : ∀ k ≠ kind, (Event.retained kind key).of k = none :=
  fun _ hk => if_neg hk.symm
theorem of_absent (key : String) : ∀ k ≠ kind, (Event.absent kind key).of k = none :=
  fun _ hk => if_neg hk.symm

theorem of_sent_none {stream : Stream} {m : Message} (h : m.terminalOf = none) (k : Kind) :
    (Event.sent stream m).of k = none := by
  rw [Event.of, h]

theorem of_sent {stream : Stream} {m : Message} {key : String}
    (h : m.terminalOf = some (kind, key)) :
    (Event.sent stream m).of kind = some (.answered key m) := by
  rw [Event.of, h]
  exact if_pos rfl

theorem of_sent_ne {stream : Stream} {m : Message} {key : String}
    (h : m.terminalOf = some (kind, key)) :
    ∀ k ≠ kind, (Event.sent stream m).of k = none := by
  intro k hk
  rw [Event.of, h]
  exact if_neg hk.symm

end Only

/-! ## Sending a terminal -/

/-- The events are that `m` is sent, any number of times. -/
def Sends (m : Message) (es : List Event) : Prop := ∀ ev ∈ es, ∃ stream, ev = .sent stream m

theorem sends_report (s : Service) (m : Message) :
    Sends m (s.reportCancelledOperationTerminal m) := by
  intro ev hev
  rw [Service.reportCancelledOperationTerminal] at hev
  split at hev
  · exact ⟨_, List.mem_singleton.1 hev⟩
  · cases hev

theorem sends_sendOperationTerminal (s : Service) (stream : Stream) (m : Message) (confirm : Bool) :
    Sends m (s.sendOperationTerminal stream m confirm) := by
  intro ev hev
  rw [Service.sendOperationTerminal, List.mem_cons] at hev
  rcases hev with rfl | hev
  · exact ⟨stream, rfl⟩
  · split at hev
    · exact sends_report s m ev hev
    · cases hev

theorem Sends.one (stream : Stream) (m : Message) : Sends m [.sent stream m] := by
  intro ev hev
  exact ⟨stream, List.mem_singleton.1 hev⟩

/-! ## Ends -/

/-- Nothing ends: every event is a message, or is not seen at all. -/
def Quiet (es : List Event) : Prop :=
  ∀ ev ∈ es, (∀ k, ev.of k = none) ∨ ∃ stream m, ev = .sent stream m

theorem Quiet.nil : Quiet [] := fun _ hev => by cases hev

/-- How many operations of one kind end. -/
def ends (kind : Kind) (es : List Event) : ℕ := (seen kind es).countP Once.Event.isRetained

theorem ends_append (kind : Kind) (es es' : List Event) :
    ends kind (es ++ es') = ends kind es + ends kind es' := by
  rw [ends, seen_append, List.countP_append]
  rfl

theorem Quiet.ends {es : List Event} (h : Quiet es) (kind : Kind) : ends kind es = 0 := by
  rw [Runner.ends, List.countP_eq_zero]
  intro e he
  obtain ⟨ev, hev, hof⟩ := List.mem_filterMap.1 he
  rcases h ev hev with hnone | ⟨stream, m, rfl⟩
  · rw [hnone] at hof
    cases hof
  · rw [Event.of] at hof
    split at hof
    · split at hof
      · cases hof
        exact Bool.false_ne_true
      · cases hof
    · cases hof

/-! ## Registries of one kind -/

/-- What the argument needs to know of the operations of one kind. -/
structure Shape (σ : Type) where
  kind : Kind
  terminal : σ → Bool
  /-- what an ended operation answers -/
  lastWord : σ → Message
  /-- the backend will not be called for the operation any more -/
  spent : σ → Bool
  /-- the operation is in order under its key -/
  Ok : String → σ → Prop
  last : ∀ {key op}, Ok key op → terminal op = true → (lastWord op).terminalOf = some (kind, key)
  spent_of_terminal : ∀ {key op}, Ok key op → terminal op = true → spent op = true

namespace Shape

variable {σ : Type} (S : Shape σ)

/-- The last word of an ended operation. -/
def answer (op : σ) : Option Message := if S.terminal op then some (S.lastWord op) else none

theorem ended_answer : ended S.answer = S.terminal := by
  funext op
  rw [ended, answer]
  cases S.terminal op <;> rfl

variable {S}

theorem answer_of_terminal {op : σ} (h : S.terminal op = true) :
    S.answer op = some (S.lastWord op) := by
  rw [answer, if_pos h]

theorem answer_of_not_terminal {op : σ} (h : S.terminal op = false) : S.answer op = none := by
  rw [answer, h]
  rfl

variable (S)

/-- The operations are in order. -/
structure Sound (r : Registry String σ) : Prop where
  wf : r.Wf maxRunnerDataPlaneTerminalTombstones S.terminal
  ok : ∀ key op, r.get key = some op → S.Ok key op

/-- A sequence of moves that is seen as `events`. -/
structure Run (foreign : String → Prop) (r : Registry String σ) (events : List Event)
    (r' : Registry String σ) : Prop where
  moves : Moves maxRunnerDataPlaneTerminalTombstones S.answer S.spent foreign r
    (seen S.kind events) r'
  sound : S.Sound r'
  only : Only S.kind events
  few : ends S.kind events ≤ 1

variable {S} {foreign : String → Prop} {r r' r'' : Registry String σ} {key : String} {op op' : σ}
  {es es' : List Event}

theorem Run.trans (h : S.Run foreign r es r') (h' : S.Run foreign r' es' r'') (hquiet : Quiet es') :
    S.Run foreign r (es ++ es') r'' where
  moves := by
    rw [seen_append]
    exact h.moves.trans h'.moves
  sound := h'.sound
  only := h.only.append h'.only
  few := by
    rw [ends_append, hquiet.ends, Nat.add_zero]
    exact h.few

theorem Run.none (hs : S.Sound r) : S.Run foreign r [] r := ⟨.refl r, hs, .nil, Nat.zero_le 1⟩

/-- An event that is not seen, or that sends the answer of an operation that has ended. -/
def Known (S : Shape σ) (r : Registry String σ) (ev : Event) : Prop :=
  (∀ k, ev.of k = .none) ∨
    ∃ stream key op, r.get key = some op ∧ S.terminal op = true ∧ ev = .sent stream (S.lastWord op)

theorem quiet_of_known (hes : ∀ ev ∈ es, S.Known r ev) : Quiet es := by
  intro ev hev
  rcases hes ev hev with hnone | ⟨stream, key, op, -, -, rfl⟩
  · exact .inl hnone
  · exact .inr ⟨stream, S.lastWord op, rfl⟩

theorem Run.still (hs : S.Sound r) (hes : ∀ ev ∈ es, S.Known r ev) : S.Run foreign r es r := by
  refine ⟨?_, hs, ?_, ((quiet_of_known hes).ends _).le.trans (Nat.zero_le 1)⟩
  · induction es with
    | nil => exact .refl r
    | cons ev es ih =>
      rw [seen_cons]
      refine Moves.trans ?_ (ih fun ev hev => hes ev (List.mem_cons_of_mem _ hev))
      rcases hes ev List.mem_cons_self with hnone | ⟨stream, key, op, hk, ht, rfl⟩
      · rw [hnone]
        exact .refl r
      · rw [of_sent (S.last (hs.ok key op hk) ht)]
        exact Move.moves (.reply hk (answer_of_terminal ht))
  · induction es with
    | nil => exact .nil
    | cons ev es ih =>
      refine .cons ?_ (ih fun ev hev => hes ev (List.mem_cons_of_mem _ hev))
      rcases hes ev List.mem_cons_self with hnone | ⟨stream, key, op, hk, ht, rfl⟩
      · exact fun k _ => hnone k
      · exact of_sent_ne (S.last (hs.ok key op hk) ht)

/-- What is sent besides is not seen, or is the answer of an operation that has ended. -/
theorem Run.sending (h : S.Run foreign r es r') (hes : ∀ ev ∈ es', S.Known r' ev) :
    S.Run foreign r (es ++ es') r' := h.trans (.still h.sound hes) (quiet_of_known hes)

theorem known_of_sends (hk : r.get key = some op) (ht : S.terminal op = true)
    (hes : Sends (S.lastWord op) es) :
    ∀ ev ∈ es, S.Known r ev := by
  intro ev hev
  obtain ⟨stream, rfl⟩ := hes ev hev
  exact .inr ⟨stream, key, op, hk, ht, rfl⟩

variable (hs : S.Sound r)
include hs

theorem ok_put (hok : S.Ok key op') : ∀ k e, (r.put key op').get k = some e → S.Ok k e := by
  intro k e he
  by_cases hk : k = key
  · subst hk
    rw [Registry.get_put_self] at he
    cases he
    exact hok
  · rw [Registry.get_put_of_ne _ _ hk] at he
    exact hs.ok k e he

theorem Sound.put (hk : r.get key = some op) (hok : S.Ok key op')
    (ha : S.answer op' = S.answer op) :
    S.Sound (r.put key op') := by
  have ht : S.terminal op' = S.terminal op := by
    rw [← S.ended_answer, ended, ha]
    rfl
  exact ⟨hs.wf.put (by simp [hk, ht]), ok_put hs hok⟩

theorem Run.put (hk : r.get key = some op) (hok : S.Ok key op') (ha : S.answer op' = S.answer op)
    (hsp : S.spent op = true → S.spent op' = true) : S.Run foreign r [] (r.put key op') :=
  ⟨.put hk ha hsp, hs.put hk hok ha, .nil, Nat.zero_le 1⟩

theorem Run.enter (hk : r.get key = .none) (hok : S.Ok key op') (ht : S.terminal op' = false) :
    S.Run foreign r [.entered S.kind key] (r.put key op') := by
  refine ⟨?_, ⟨hs.wf.put (by simp [hk, ht]), ok_put hs hok⟩, .cons (of_entered key) .nil, ?_⟩
  · rw [seen_cons, Event.of, if_pos rfl]
    exact Move.moves (.enter hk (answer_of_not_terminal ht))
  · simp [ends, seen, Event.of, Once.Event.isRetained]

/-- A new operation is recorded, and the backend is called for it within the same critical section. -/
theorem Run.enter_start (hk : r.get key = .none) (hok : S.Ok key op') (ht : S.terminal op' = false)
    (hsp' : S.spent op' = true) {unspent : σ}
    (hunspent : S.terminal unspent = false ∧ S.spent unspent = false) :
    S.Run foreign r [.entered S.kind key, .started S.kind key] (r.put key op') := by
  refine ⟨?_, ⟨hs.wf.put (by simp [hk, ht]), ok_put hs hok⟩,
    .cons (of_entered key) (.cons (of_started key) .nil), ?_⟩
  · have henter : Moves maxRunnerDataPlaneTerminalTombstones S.answer S.spent foreign r
        [.entered key] (r.put key unspent) :=
      Move.moves (.enter hk (answer_of_not_terminal hunspent.1))
    have hstart : Moves maxRunnerDataPlaneTerminalTombstones S.answer S.spent foreign
      (r.put key unspent) [.started key]
        (r.put key op') := by
      rw [← r.put_put key unspent op']
      refine Move.moves (.start (r.get_put_self key unspent) hunspent.2 ?_ hsp')
      rw [answer_of_not_terminal ht, answer_of_not_terminal hunspent.1]
    have hseen : seen S.kind [.entered S.kind key, .started S.kind key] = [.entered key] ++
        [.started key] := by
      simp [seen, Event.of]
    rw [hseen]
    exact henter.trans hstart
  · simp [ends, seen, Event.of, Once.Event.isRetained]

theorem Run.elsewhere (honly : Only S.kind es)
    (hes : ∀ ev ∈ seen S.kind es, foreign ev.key ∧ ev.isRetained = false) :
    S.Run foreign r es r := by
  have hends : ends S.kind es = 0 := List.countP_eq_zero.2 fun ev hev => by simp [(hes ev hev).2]
  refine ⟨?_, hs, honly, hends.le.trans (Nat.zero_le 1)⟩
  generalize seen S.kind es = evs at hes
  induction evs with
  | nil => exact .refl r
  | cons ev evs ih =>
    obtain ⟨hkey, hret⟩ := hes ev List.mem_cons_self
    exact Moves.trans (Move.moves (.elsewhere hkey hret))
      (ih fun ev hev => hes ev (List.mem_cons_of_mem _ hev))

theorem Run.start (hk : r.get key = some op) (hok : S.Ok key op') (ha : S.answer op' = S.answer op)
    (hsp : S.spent op = false) (hsp' : S.spent op' = true) :
    S.Run foreign r [.started S.kind key] (r.put key op') := by
  refine ⟨?_, hs.put hk hok ha, .cons (of_started key) .nil, ?_⟩
  · rw [seen_cons, Event.of, if_pos rfl]
    exact Move.moves (.start hk hsp ha hsp')
  · simp [ends, seen, Event.of, Once.Event.isRetained]

omit hs

theorem tombstones_pos : 0 < maxRunnerDataPlaneTerminalTombstones := by decide

theorem Run.finish (hs : S.Sound r) (hk : r.get key = some op) (ht : S.terminal op = false)
    (hok : S.Ok key op') (ht' : S.terminal op' = true) : S.Run foreign r [.retained S.kind key]
      ((r.put key op').retain maxRunnerDataPlaneTerminalTombstones S.terminal key).1 := by
  have hopen : ∀ e, r.get key = some e → S.terminal e = false := by
    intro e he
    rw [hk] at he
    cases he
    exact ht
  refine ⟨?_, ⟨hs.wf.retain tombstones_pos hopen ht', ?_⟩, .cons (of_retained key) .nil, ?_⟩
  · rw [seen_cons, Event.of, if_pos rfl, ← S.ended_answer]
    refine Move.moves (.finish hk (answer_of_not_terminal ht) ?_ (S.spent_of_terminal hok ht'))
    rw [S.ended_answer, ht']
  · exact fun k e he => ok_put hs hok k e (Registry.get_of_get_retain he)
  · simp [ends, seen, Event.of, Once.Event.isRetained]

theorem Run.finish_sends (hs : S.Sound r) (hk : r.get key = some op) (ht : S.terminal op = false)
    (hok : S.Ok key op') (ht' : S.terminal op' = true) (hes : Sends (S.lastWord op') es) :
      S.Run foreign r (.retained S.kind key :: es)
      ((r.put key op').retain maxRunnerDataPlaneTerminalTombstones S.terminal key).1 := by
  have hfin : S.Run foreign r _ _ := .finish hs hk ht hok ht'
  refine hfin.sending (known_of_sends (Registry.get_retain_self tombstones_pos hs.wf ?_) ht' hes)
  intro e he
  rw [hk] at he
  cases he
  exact ht

/-- An operation that is not there is recorded as ended, and its answer may be sent. -/
theorem Run.record (hs : S.Sound r) (hk : r.get key = .none) (hok : S.Ok key op')
    (ht' : S.terminal op' = true) (hes : Sends (S.lastWord op') es) {blank : σ}
    (hblank : S.terminal blank = false) :
    S.Run foreign r ([.entered S.kind key, .retained S.kind key, .absent S.kind key] ++ es)
      ((r.put key op').retain maxRunnerDataPlaneTerminalTombstones S.terminal key).1 := by
  have hopen : ∀ e, r.get key = some e → S.terminal e = false := by
    intro e he
    rw [hk] at he
    cases he
  have hself := Registry.get_retain_self (e := op') tombstones_pos hs.wf hopen
  refine Run.sending ⟨?_, ⟨hs.wf.retain tombstones_pos hopen ht', ?_⟩,
    .cons (of_entered key) (.cons (of_retained key) (.cons (of_absent key) .nil)),
    ?_⟩ (known_of_sends hself ht' hes)
  · have henter : Moves maxRunnerDataPlaneTerminalTombstones S.answer S.spent foreign r
        [.entered key] (r.put key blank) :=
      Move.moves (.enter hk (answer_of_not_terminal hblank))
    have hfinish : Moves maxRunnerDataPlaneTerminalTombstones S.answer S.spent foreign
      (r.put key blank) [.retained key]
        ((r.put key op').retain maxRunnerDataPlaneTerminalTombstones S.terminal key).1 := by
      rw [← S.ended_answer, ← r.put_put key blank op']
      refine Move.moves (.finish (r.get_put_self key blank) (answer_of_not_terminal hblank) ?_
        (S.spent_of_terminal hok ht'))
      rw [S.ended_answer, ht']
    have hconfirm : Moves maxRunnerDataPlaneTerminalTombstones S.answer S.spent foreign
        ((r.put key op').retain maxRunnerDataPlaneTerminalTombstones S.terminal key).1 [.absent key]
        ((r.put key op').retain maxRunnerDataPlaneTerminalTombstones S.terminal key).1 := by
      refine Move.moves (.confirm hself ?_)
      rw [S.ended_answer, ht']
    have hseen : seen S.kind [.entered S.kind key, .retained S.kind key, .absent S.kind key] =
        [.entered key] ++ [.retained key] ++ [.absent key] := by simp [seen, Event.of]
    rw [hseen]
    exact (henter.trans hfinish).trans hconfirm
  · exact fun k e he => ok_put hs hok k e (Registry.get_of_get_retain he)
  · simp [ends, seen, Event.of, Once.Event.isRetained, List.countP_cons]

end Shape

end SecondBox.Runner

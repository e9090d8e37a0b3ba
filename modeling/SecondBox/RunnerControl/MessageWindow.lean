/-
  The window of message IDs of a session.

  The map of IDs and the ring hold the same entries, in the order of their
  sequence numbers, whatever messages arrive (`WindowOk`).  `accept_window`
  says what this means for the next message: replays within the window are
  recognised, older sequence numbers are refused, and a message that is
  answered with an error changes nothing.
-/
import SecondBox.RunnerControl.StreamFrames

namespace SecondBox.RunnerControl

open Relational History

variable {E : Type}

/-- The entries of the window, oldest first. -/
def Session.window (s : Session E) : List SessionMessageId := s.messageIdOrder.entries

/-- The map and the ring agree, and the entries are in the order of their sequence numbers. -/
structure WindowOk (s : Session E) : Prop where
  same : ∀ id, id ∈ s.messageIds ↔ id ∈ s.window.map (·.id)
  distinct : (s.window.map (·.id)).Nodup
  bounded : s.window.length ≤ maxSessionMessageIds
  increasing : s.window.Pairwise fun e e' => e.sequence < e'.sequence
  /-- The last sequence number is that of the newest entry. -/
  newest : s.lastSequence = (s.window.getLast?.map (·.sequence)).getD 0
  opened : s.window ≠ [] → s.helloAccepted = true

theorem WindowOk.newSession (config : SessionConfig) :
    WindowOk (newSession config : Session E) := by
  have hwindow : (RunnerControl.newSession config : Session E).window = [] :=
    RingBuffer.entries_empty _ _
  constructor
  · intro id
    rw [hwindow]
    simp [RunnerControl.newSession]
  all_goals rw [hwindow]
  · exact List.nodup_nil
  · exact Nat.zero_le _
  · exact List.Pairwise.nil
  · rfl
  · exact fun hne => absurd rfl hne

theorem Session.length_window (s : Session E) : s.window.length = s.messageIdOrder.count :=
  RingBuffer.length_entries _

variable {s : Session E}

theorem WindowOk.le_last (hs : WindowOk s) {e : SessionMessageId} (he : e ∈ s.window) :
    e.sequence ≤ s.lastSequence := by
  rw [hs.newest]
  rcases List.eq_nil_or_concat s.window with hnil | ⟨older, last, hwindow⟩
  · simp [hnil] at he
  · rw [List.concat_eq_append] at hwindow
    rw [hwindow] at he ⊢
    have hpair := hs.increasing
    rw [hwindow, List.pairwise_append] at hpair
    rw [List.getLast?_append_of_ne_nil _ (by simp)]
    rcases List.mem_append.1 he with hold | hlast
    · exact Nat.le_of_lt (hpair.2.2 e hold last (by simp))
    · rw [List.mem_singleton.1 hlast]
      exact Nat.le_refl _

/-! ## What recording a message does -/

variable {sequence : ℕ}

theorem Session.record_of_le (h : sequence ≤ s.lastSequence) (id : String) :
    s.record id sequence = s := if_pos h

theorem Session.lastSequence_le_record (s : Session E) (id : String) (sequence : ℕ) :
    s.lastSequence ≤ (s.record id sequence).lastSequence := by
  rw [Session.record]
  split
  · exact Nat.le_refl _
  · exact Nat.le_of_lt (Nat.lt_of_not_le ‹_›)

/-- The entries that stay when a new one is recorded. -/
def Session.kept (s : Session E) : List SessionMessageId :=
  if s.messageIdOrder.count < maxSessionMessageIds then s.window else s.window.tail

theorem Session.kept_sublist (s : Session E) : s.kept.Sublist s.window := by
  rw [Session.kept]
  split
  · exact List.Sublist.refl _
  · exact List.tail_sublist _

theorem Session.window_record (h : s.lastSequence < sequence) (id : String) :
    (s.record id sequence).window = s.kept ++ [⟨id, sequence⟩] := by
  rw [Session.record, if_neg (Nat.not_le_of_lt h)]
  exact RingBuffer.entries_push _ _

/-- The map loses the ID of the entry that is overwritten. -/
theorem WindowOk.mem_record (hs : WindowOk s) (h : s.lastSequence < sequence) (id id' : String) :
    id' ∈ (s.record id sequence).messageIds ↔ id' = id ∨ id' ∈ s.kept.map (·.id) := by
  rw [Session.record, if_neg (Nat.not_le_of_lt h), Finset.mem_insert, Session.kept]
  refine or_congr_right ?_
  have hcount := s.messageIdOrder.count_le
  by_cases hfull : s.messageIdOrder.count = maxSessionMessageIds
  · have hdistinct := hs.distinct
    rw [if_pos hfull, if_neg (by omega), Finset.mem_erase, hs.same]
    rw [Session.window, RingBuffer.entries_eq_oldest_cons hfull, List.map_cons,
      List.nodup_cons] at hdistinct
    rw [Session.window, RingBuffer.entries_eq_oldest_cons hfull, List.map_cons, List.mem_cons,
      List.tail_cons]
    constructor
    · rintro ⟨hne, hold | hmem⟩
      · exact absurd hold hne
      · exact hmem
    · intro hmem
      exact ⟨fun heq => hdistinct.1 (heq ▸ hmem), .inr hmem⟩
  · rw [if_neg hfull, if_pos (by omega), hs.same]

theorem WindowOk.record (hs : WindowOk s) {id : String} (hnew : id ∉ s.messageIds)
    (hello : s.helloAccepted = true) (sequence : ℕ) : WindowOk (s.record id sequence) := by
  by_cases hold : sequence ≤ s.lastSequence
  · rwa [Session.record_of_le hold]
  have hlt := Nat.lt_of_not_le hold
  have hwindow := s.window_record hlt id
  have hlast : (s.record id sequence).lastSequence = sequence := by
    rw [Session.record, if_neg hold]
  have hopen : (s.record id sequence).helloAccepted = s.helloAccepted := by
    rw [Session.record, if_neg hold]
  have hkept : id ∉ s.kept.map (·.id) := by
    intro hmem
    exact hnew ((hs.same id).2 ((s.kept_sublist.map _).subset hmem))
  constructor
  · intro id'
    rw [hs.mem_record hlt, hwindow, List.map_append, List.mem_append, or_comm]
    simp
  · rw [hwindow, List.map_append, List.nodup_append]
    refine ⟨hs.distinct.sublist (s.kept_sublist.map _), by simp, ?_⟩
    intro a ha b hb heq
    rw [List.map_singleton, List.mem_singleton] at hb
    subst hb
    exact hkept (heq ▸ ha)
  · rw [Session.length_window]
    exact (s.record id sequence).messageIdOrder.count_le
  · rw [hwindow, List.pairwise_append]
    refine ⟨hs.increasing.sublist s.kept_sublist, by simp, ?_⟩
    intro e he e' he'
    rw [List.mem_singleton.1 he']
    exact Nat.lt_of_le_of_lt (hs.le_last (s.kept_sublist.subset he)) hlt
  · rw [hwindow, hlast, List.getLast?_append_of_ne_nil _ (by simp)]
    rfl
  · intro _
    rw [hopen, hello]

/-! ## What a step does to the window -/

/-- The parts of a session that the window consists of, and what they are read with. -/
structure SameWindow (s s' : Session E) : Prop where
  ids : s'.messageIds = s.messageIds
  order : s'.messageIdOrder = s.messageIdOrder
  last : s'.lastSequence = s.lastSequence
  hello : s.helloAccepted = true → s'.helloAccepted = true

theorem SameWindow.refl (s : Session E) : SameWindow s s := ⟨rfl, rfl, rfl, id⟩

theorem SameWindow.ok {s' : Session E} (h : SameWindow s s') (hs : WindowOk s) : WindowOk s' := by
  have hwindow : s'.window = s.window := by rw [Session.window, h.order]; rfl
  constructor
  · rw [h.ids, hwindow]
    exact hs.same
  · rw [hwindow]
    exact hs.distinct
  · rw [hwindow]
    exact hs.bounded
  · rw [hwindow]
    exact hs.increasing
  · rw [h.last, hwindow]
    exact hs.newest
  · rw [hwindow]
    exact fun hne => h.hello (hs.opened hne)

theorem acceptHello_sameWindow (s : Session E) (hello : RunnerHello) :
    SameWindow s (s.acceptHello hello).1 := by
  rw [Session.acceptHello]
  split
  · exact .refl s
  split
  · exact .refl s
  split
  · exact .refl s
  dsimp only
  split
  · exact .refl s
  split
  · exact .refl s
  split
  · exact .refl s
  · exact ⟨rfl, rfl, rfl, fun _ => rfl⟩

theorem acceptHello_ok (s : Session E) (hello : RunnerHello) :
    ∃ event, (s.acceptHello hello).2 = .ok event := by
  rw [Session.acceptHello]
  split
  · exact ⟨_, rfl⟩
  split
  · exact ⟨_, rfl⟩
  split
  · exact ⟨_, rfl⟩
  dsimp only
  split
  · exact ⟨_, rfl⟩
  split
  · exact ⟨_, rfl⟩
  split <;> exact ⟨_, rfl⟩

theorem releaseTerminal_sameWindow (s : Session E) (message : RunnerToControlPlane)
    (key : Runner.Bytes) :
    SameWindow s (s.releaseTerminalDataPlaneState message key) := by
  rw [Session.releaseTerminalDataPlaneState]
  split
  · split <;> exact ⟨rfl, rfl, rfl, id⟩
  · exact .refl s

/-- What `acceptEnveloped` can do: refuse the message, pass it on, or record it. -/
theorem acceptEnveloped_cases (s : Session E) (m : RunnerToControlPlane) (e : Envelope) :
    (∃ err, s.acceptEnveloped m e = (s, .error err)) ∨ ∃ s' event, s.acceptEnveloped m e =
      (s', .ok event) ∧ (s' = s ∨ SameWindow (s.record e.messageId e.sequence) s') := by
  rw [Session.acceptEnveloped.eq_def]
  dsimp only
  split
  · exact .inl ⟨_, rfl⟩
  split
  · split
    · split
      · exact .inl ⟨_, rfl⟩
      · exact .inr ⟨_, _, rfl, .inr ⟨rfl, rfl, rfl, id⟩⟩
    · exact .inl ⟨_, rfl⟩
  split
  · split
    · exact .inr ⟨_, _, rfl, .inl rfl⟩
    · exact .inl ⟨_, rfl⟩
  · split
    · exact .inr ⟨_, _, rfl, .inr (.refl _)⟩
    · exact .inl ⟨_, rfl⟩
  · split
    · exact .inl ⟨_, rfl⟩
    · exact .inr ⟨_, _, rfl, .inr (.refl _)⟩

/-- The sequence number `n` is not older than the window. -/
def Session.InsideWindow (s : Session E) (n : ℕ) : Prop :=
  s.window.length = maxSessionMessageIds → ∀ e ∈ s.window.head?, e.sequence ≤ n

theorem replayOutside_of_inside {s : Session E} {n : ℕ} (h : s.InsideWindow n) :
    s.replayOutsideMessageIdWindow n = false := by
  rw [Session.replayOutsideMessageIdWindow]
  split
  · rfl
  next hfull =>
  have hcount := s.messageIdOrder.count_le
  have hlength : s.messageIdOrder.count = maxSessionMessageIds := by omega
  have hhead : s.window.head? = some s.messageIdOrder.oldest := by
    rw [Session.window, RingBuffer.entries_eq_oldest_cons hlength]
    rfl
  exact decide_eq_false (Nat.not_lt.2 (h (s.length_window.trans hlength) _ hhead))

variable [DecidableEq E]

theorem acceptStreamFrame_sameWindow (s : Session E) (kind : EventKind) (key : Runner.Bytes)
    (sequence : ℕ) (encoded : E) (message : RunnerToControlPlane) :
    SameWindow s (s.acceptStreamFrame kind key sequence encoded message).1 := by
  rw [Session.acceptStreamFrame]
  split
  · exact ⟨rfl, rfl, rfl, id⟩
  · exact ⟨rfl, rfl, rfl, id⟩
  · have hrelease := releaseTerminal_sameWindow { s with
      inboundDataPlaneStreams :=
        (acceptDataPlaneSequence s.inboundDataPlaneStreams key sequence encoded).1 } message key
    exact ⟨hrelease.ids, hrelease.order, hrelease.last, hrelease.hello⟩

variable (codec : Codec E)

theorem acceptRunnerDataPlaneFrame_sameWindow (s : Session E) (m : RunnerToControlPlane) :
    SameWindow s (s.acceptRunnerDataPlaneFrame codec m).1 := by
  have htakes := acceptRunnerDataPlaneFrame_takes codec s m
  generalize s.acceptRunnerDataPlaneFrame codec m = r at htakes
  cases htakes with
  | refused => exact .refl s
  | answered => exact .refl s
  | attached => exact ⟨rfl, rfl, rfl, id⟩
  | numbered f hf => exact acceptStreamFrame_sameWindow ..
  | afterGap f previous =>
    have haccept := acceptStreamFrame_sameWindow
      { s with inboundDataPlaneStreams := s.inboundDataPlaneStreams.delete f.key } f.kind f.key
        f.sequence f.encoded m
    exact ⟨haccept.ids, haccept.order, haccept.last, haccept.hello⟩

/-- What a message can do: it is refused, or leaves the window alone, or enters it with a new ID. -/
theorem accept_cases (s : Session E) (message : Option RunnerToControlPlane) :
    (∃ err, s.accept codec message = (s, .error err)) ∨ ∃ s' event, s.accept codec message =
      (s', .ok event) ∧
      (SameWindow s s' ∨ ∃ m e, message = some m ∧ runnerEnvelope m = .ok e ∧ s.helloAccepted = true ∧
        e.messageId ∉ s.messageIds ∧ SameWindow (s.record e.messageId e.sequence) s') := by
  cases message with
  | none => exact .inl ⟨_, rfl⟩
  | some m =>
    rw [Session.accept.eq_def]
    dsimp only
    split
    · split
      next hello =>
        obtain ⟨event, hevent⟩ := acceptHello_ok s hello
        exact .inr ⟨_, event, Prod.ext rfl hevent, .inl (acceptHello_sameWindow s hello)⟩
      · exact .inl ⟨_, rfl⟩
    next hhello =>
    split
    · exact .inl ⟨_, rfl⟩
    split
    · split
      · exact .inl ⟨_, rfl⟩
      · cases hresult : (s.acceptRunnerDataPlaneFrame codec m).2 with
        | error err => exact .inl ⟨err, Prod.ext (acceptRunnerDataPlaneFrame_error hresult) hresult⟩
        | ok event =>
          exact .inr ⟨_, event, Prod.ext rfl hresult,
            .inl (acceptRunnerDataPlaneFrame_sameWindow codec s m)⟩
    split
    · exact .inl ⟨_, rfl⟩
    next e he =>
    split
    · exact .inr ⟨_, _, rfl, .inl (.refl s)⟩
    next hnew =>
    rcases acceptEnveloped_cases s m e with ⟨err, heq⟩ | ⟨s', event, heq, rfl | hrecord⟩
    · exact .inl ⟨err, heq⟩
    · exact .inr ⟨_, event, heq, .inl (.refl _)⟩
    · exact .inr ⟨s', event, heq, .inr ⟨m, e, rfl, he, by simpa using hhello, hnew, hrecord⟩⟩

/-! ## Runs -/

theorem accept_windowOk (hs : WindowOk s) (message : Option RunnerToControlPlane) :
    WindowOk (s.accept codec message).1 := by
  rcases accept_cases codec s message with ⟨err, heq⟩ | ⟨s', event, heq,
    hsame | ⟨m, e, -, -, hhello, hnew, hsame⟩⟩
  · rwa [heq]
  · rw [heq]
    exact hsame.ok hs
  · rw [heq]
    exact hsame.ok (hs.record hnew hhello e.sequence)

theorem lastSequence_le_accept (s : Session E) (message : Option RunnerToControlPlane) :
    s.lastSequence ≤ (s.accept codec message).1.lastSequence := by
  rcases accept_cases codec s message with ⟨err, heq⟩ | ⟨s', event, heq,
    hsame | ⟨m, e, -, -, -, -, hsame⟩⟩
  · rw [heq]
  · rw [heq, hsame.last]
  · rw [heq, hsame.last]
    exact s.lastSequence_le_record _ _

theorem accept_error {codec : Codec E} {message : Option RunnerToControlPlane} {err : SessionError}
    (h : (s.accept codec message).2 = .error err) : (s.accept codec message).1 = s := by
  rcases accept_cases codec s message with ⟨err', heq⟩ | ⟨s', event, heq, -⟩
  · rw [heq]
  · rw [heq] at h
    cases h

/-- Accept of a message with an envelope, once a Hello has been accepted. -/
theorem accept_enveloped (hhello : s.helloAccepted = true) {m : RunnerToControlPlane}
    {e : Envelope} (he : runnerEnvelope m = .ok e) :
    s.accept codec (some m) =
      if e.messageId ∈ s.messageIds then
        (s, .ok (s.event .duplicate m)) else s.acceptEnveloped m e := by
  rw [Session.accept.eq_def]
  cases m with
  | registration r | heartbeat r => simp [hhello, he, RunnerToControlPlane.isStreamFrame]
  | durable kind e body => simp [hhello, he, RunnerToControlPlane.isStreamFrame]
  | _ => cases he

theorem sequence_ne_zero_of_envelope {m : RunnerToControlPlane} {e : Envelope}
    (he : runnerEnvelope m = .ok e) :
    e.sequence ≠ 0 := by
  have hvalid : ∀ e' : Envelope, validateEnvelope e' = .ok e → e.sequence ≠ 0 := by
    intro e' h
    rw [validateEnvelope] at h
    split at h
    · cases h
    next hcomplete =>
    cases h
    exact fun hzero => hcomplete (.inr hzero)
  cases m with
  | registration r => exact hvalid _ he
  | heartbeat h => exact hvalid _ he
  | durable kind e' body => exact hvalid _ he
  | _ => cases he

/-- After every sequence of messages the map and the ring agree, and for every next message: the last
    sequence number does not decrease; if its ID is in the window it is a duplicate and changes nothing; if
    its ID is not, but its sequence number is within the window, it is refused as reordered; and if it is
    answered with an error nothing changes. -/
theorem message_window (codec : Codec E) (config : SessionConfig)
    (messages : List (Option RunnerToControlPlane)) :
    let s := after (Session.next codec) (newSession config) messages
    WindowOk s ∧ ∀ message,
      s.lastSequence ≤ (s.accept codec message).1.lastSequence ∧
      (∀ m e, message = some m → runnerEnvelope m = .ok e → e.messageId ∈ s.window.map (·.id) →
        s.accept codec message = (s, .ok (s.event .duplicate m))) ∧
      (∀ m e, message = some m → runnerEnvelope m = .ok e → e.messageId ∉ s.window.map (·.id) →
        e.sequence ≤ s.lastSequence → s.InsideWindow e.sequence →
        s.accept codec message = (s, .error .sequenceReordered)) ∧
      ∀ err, (s.accept codec message).2 = .error err → (s.accept codec message).1 = s := by
  intro s
  have hstep : ∀ s message, WindowOk s → WindowOk (Session.next codec s message) :=
    fun s message h => accept_windowOk codec h message
  have hs : WindowOk s := after_invariant hstep (WindowOk.newSession config) messages
  refine ⟨hs, fun message => ⟨lastSequence_le_accept codec s message, ?_, ?_, fun err => accept_error⟩⟩
  · rintro m e rfl he hmem
    have hhello := hs.opened (by rintro hnil; simp [hnil] at hmem)
    rw [accept_enveloped codec hhello he, if_pos ((hs.same _).2 hmem)]
  · rintro m e rfl he hnew hle hinside
    have hhello : s.helloAccepted = true := by
      refine hs.opened fun hnil => sequence_ne_zero_of_envelope he ?_
      have hlast : s.lastSequence = 0 := by
        rw [hs.newest, hnil]
        rfl
      omega
    rw [accept_enveloped codec hhello he, if_neg (fun hmem => hnew ((hs.same _).1 hmem)),
      Session.acceptEnveloped.eq_def, if_pos ⟨hle, replayOutside_of_inside hinside⟩]

/-- A Hello, a Registration and two heartbeats. -/
def twoHeartbeats : List (Option RunnerToControlPlane) :=
  [some Sample.hello, some Sample.registration, some (Sample.heartbeat "first" 4),
    some (Sample.heartbeat "second" 6)]

/-- The first heartbeat again is a duplicate, and another one of sequence number 5 is reordered. -/
theorem twoHeartbeats_window :
    let s := after (Session.next Sample.codec) (newSession Sample.config) twoHeartbeats
    s.window = [⟨"registration", 1⟩, ⟨"first", 4⟩, ⟨"second", 6⟩] ∧
    s.accept Sample.codec (some (Sample.heartbeat "first" 4)) =
      (s, .ok (s.event .duplicate (Sample.heartbeat "first" 4))) ∧
    s.accept Sample.codec (some (Sample.heartbeat "late" 5)) = (s, .error .sequenceReordered) := by
  intro s
  have hwindow : s.window = [⟨"registration", 1⟩, ⟨"first", 4⟩, ⟨"second", 6⟩] := by decide +kernel
  have hmain := (message_window Sample.codec Sample.config twoHeartbeats).2
  refine ⟨hwindow, (hmain _).2.1 _ ⟨"first", 4⟩ rfl (by decide +kernel) ?_,
    (hmain _).2.2.1 _ ⟨"late", 5⟩ rfl (by decide +kernel) ?_ (by decide +kernel) ?_⟩
  · exact hwindow ▸ by decide
  · exact hwindow ▸ by decide
  · intro hfull
    have hlength : s.window.length = 3 := by rw [hwindow]; rfl
    exact absurd (hlength.symm.trans hfull) (by decide)

end SecondBox.RunnerControl

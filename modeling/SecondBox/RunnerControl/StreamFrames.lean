/-
  What a session does with a frame of a data-plane stream.

  `Takes` lists everything `acceptRunnerDataPlaneFrame` can do, and
  `acceptDataPlaneSequence_cases` everything that numbering a frame can do.
  Later proofs go through these two.
-/
import SecondBox.RunnerControl.Session

namespace SecondBox.RunnerControl

open Relational
open Runner (Bytes Frame Identity)

variable {E : Type}

/-- As what a frame is numbered: the event it gives, its stream, its place in it and its encoding. -/
structure Numbered (E : Type) where
  kind : EventKind
  key : Bytes
  sequence : ℕ
  encoded : E

/-- The stream of a frame of the Runner, and its place in it.  An attach result has none. -/
def RunnerToControlPlane.numbered (codec : Codec E) : RunnerToControlPlane → Option (Numbered E)
  | .exec frame => (Runner.validateRunnerDataPlaneFrameIdentity frame).map fun i =>
    ⟨.exec, dataPlaneStreamKey .exec i, frame.sequence, codec.exec frame⟩
  | .file frame => (Runner.validateRunnerDataPlaneFrameIdentity frame).map fun i =>
    ⟨.file, dataPlaneStreamKey .file i, frame.sequence, codec.file frame⟩
  | .pty frame => (Runner.validateRunnerDataPlaneFrameIdentity frame).map fun i =>
    ⟨.pty, dataPlaneStreamKey .pty i, frame.sequence, codec.pty frame⟩
  | .port frame => (Runner.validateRunnerDataPlaneFrameIdentity frame).map fun i =>
    ⟨.port, dataPlaneStreamKey .port i, frame.sequence, codec.port frame⟩
  | .workspaceTransfer frame =>
    if frame.sequence = 0 then none
    else some ⟨.workspaceTransfer, workspaceTransferKey frame, frame.sequence,
      codec.workspaceTransfer frame⟩
  | _ => none

/-- What an attach result says: after which number the stream of the Terminal goes on, if it has been attached. -/
def RunnerToControlPlane.attachResult : RunnerToControlPlane → Option (Option ℕ)
  | .pty frame => match frame.payload with
    | .attachResult kind _ afterSequence _ =>
      some (if kind = .attached then some ((afterSequence + 1) % 2 ^ 64).toNat else none)
    | _ => none
  | _ => none

variable {s : Session E}

theorem checkFrame_eq_ok {P : Type} {feature : RunnerFeature} {notNegotiated notAllowed : String}
    {allowed : P → Bool} {frame : Frame P} {i : Identity}
    (h : s.checkFrame feature notNegotiated allowed notAllowed frame = .ok i) :
    s.enabledFeatures feature = true ∧ allowed frame.payload = true ∧
      Runner.validateRunnerDataPlaneFrameIdentity frame = some i := by
  rw [Session.checkFrame] at h
  split at h
  · cases h
  next hfeature =>
  split at h
  · cases h
  next hallowed =>
  rw [validateDataPlaneFrameIdentity] at h
  split at h
  · cases h
  next hi =>
  cases h
  exact ⟨by simpa using hfeature, by simpa using hallowed, hi⟩

section
variable {s : Session E} {i : Identity} (codec : Codec E) {feature : RunnerFeature}
  {notNegotiated notAllowed : String}

theorem map_identity {P α : Type} {allowed : P → Bool} {frame : Frame P}
    (h : s.checkFrame feature notNegotiated allowed notAllowed frame = .ok i) (g : Identity → α) :
    (Runner.validateRunnerDataPlaneFrameIdentity frame).map g = some (g i) := by
  rw [(checkFrame_eq_ok h).2.2, Option.map_some]

theorem numbered_workspaceTransfer {frame : Runner.WorkspaceTransferFrame}
    (h : validateWorkspaceTransfer frame = .ok ()) :
    (RunnerToControlPlane.workspaceTransfer frame).numbered codec =
      some ⟨.workspaceTransfer, workspaceTransferKey frame, frame.sequence,
        codec.workspaceTransfer frame⟩ := by
  refine if_neg fun hzero => ?_
  rw [validateWorkspaceTransfer, if_pos (by simp [hzero])] at h
  cases h

end

variable {f : Numbered E} {codec : Codec E}

theorem eq_of_numbered_workspaceTransfer {frame : Runner.WorkspaceTransferFrame}
    (h : (RunnerToControlPlane.workspaceTransfer frame).numbered codec = some f) :
    frame.sequence ≠ 0 ∧
      f = ⟨.workspaceTransfer, workspaceTransferKey frame, frame.sequence,
        codec.workspaceTransfer frame⟩ := by
  rw [RunnerToControlPlane.numbered] at h
  split at h
  · cases h
  next hne => exact ⟨hne, (Option.some.inj h).symm⟩

theorem sequence_ne_zero_of_identity {P : Type} {frame : Frame P} {i : Identity}
    (h : Runner.validateRunnerDataPlaneFrameIdentity frame = some i) : frame.sequence ≠ 0 := by
  rw [Runner.validateRunnerDataPlaneFrameIdentity] at h
  split at h
  · cases h
  dsimp only at h
  split at h
  next hcomplete =>
    simp only [Bool.and_eq_true, bne_iff_ne] at hcomplete
    exact hcomplete.2
  · cases h

variable {m : RunnerToControlPlane}

theorem RunnerToControlPlane.numbered_sequence_ne_zero (h : m.numbered codec = some f) :
    f.sequence ≠ 0 := by
  cases m with
  | exec frame | file frame | pty frame | port frame =>
    obtain ⟨i, hi, rfl⟩ := Option.map_eq_some_iff.1 h
    exact sequence_ne_zero_of_identity hi
  | workspaceTransfer frame =>
    obtain ⟨hne, rfl⟩ := eq_of_numbered_workspaceTransfer h
    exact hne
  | _ => cases h

/-! ## Numbering -/

section
variable [DecidableEq E] {streams : Table Bytes (StreamState E)} {key : Bytes}
  {sequence : ℕ} {encoded : E}

/-- A frame is a copy of the one before, out of order, or the next one. -/
theorem acceptDataPlaneSequence_cases (streams : Table Bytes (StreamState E)) (key : Bytes)
    (encoded : E) (h : sequence ≠ 0) :
    (streams.get key = some ⟨sequence, some encoded⟩ ∧
      acceptDataPlaneSequence streams key sequence encoded = (streams, .ok true)) ∨
    ((∃ previous, streams.get key = some previous ∧ previous.sequence ≠ 0 ∧
      sequence ≠ wrap64 (previous.sequence + 1)) ∧
      acceptDataPlaneSequence streams key sequence encoded = (streams, .error .sequenceReordered)) ∨
    ((∀ previous, streams.get key = some previous → previous.sequence = 0 ∨
      sequence = wrap64 (previous.sequence + 1)) ∧
      acceptDataPlaneSequence streams key sequence encoded =
        (streams.put key ⟨sequence, some encoded⟩, .ok false)) := by
  cases hget : streams.get key with
  | none =>
    refine .inr (.inr ⟨fun previous hprevious => absurd hprevious (by simp), ?_⟩)
    rw [acceptDataPlaneSequence, hget]
    simp [h]
  | some previous =>
    rw [acceptDataPlaneSequence, hget]
    dsimp only [Option.getD_some]
    by_cases hcopy : sequence = previous.sequence ∧ sequence ≠ 0 ∧ previous.payload = some encoded
    · refine .inl ⟨?_, if_pos hcopy⟩
      obtain ⟨number, payload⟩ := previous
      obtain ⟨rfl, -, rfl⟩ := hcopy
      rfl
    rw [if_neg hcopy]
    by_cases hgap : previous.sequence ≠ 0 ∧ sequence ≠ wrap64 (previous.sequence + 1)
    · exact .inr (.inl ⟨⟨previous, rfl, hgap⟩, if_pos hgap⟩)
    · refine .inr (.inr ⟨?_, if_neg hgap⟩)
      rintro _ ⟨⟩
      rw [not_and_or, not_not, not_not] at hgap
      exact hgap

theorem acceptDataPlaneSequence_error {e : SessionError}
    (h : (acceptDataPlaneSequence streams key sequence encoded).2 = .error e) :
    (acceptDataPlaneSequence streams key sequence encoded).1 = streams := by
  rw [acceptDataPlaneSequence] at h ⊢
  split
  · rfl
  split
  · rfl
  next hcopy hgap =>
  rw [if_neg hcopy, if_neg hgap] at h
  cases h

end

/-! ## Frames of the Runner -/

section
variable [DecidableEq E]

/-- Everything a session can do with a frame. -/
inductive Takes (codec : Codec E) (s : Session E) (m : RunnerToControlPlane) :
    Session E × Except SessionError Event → Prop
  | refused (e : SessionError) : Takes codec s m (s, .error e)
  | answered (e : Event) (hm : m.attachResult = some none) : Takes codec s m (s, .ok e)
  /-- The Runner has attached a Terminal: its stream goes on after `n`. -/
  | attached (f : Numbered E) (n : ℕ) (e : Event) (hf : m.numbered codec = some f)
      (hm : m.attachResult = some (some n)) :
      Takes codec s m
        ({ s with inboundDataPlaneStreams := s.inboundDataPlaneStreams.put f.key ⟨n, none⟩ }, .ok e)
  | numbered (f : Numbered E) (hf : m.numbered codec = some f) (hm : m.attachResult = none) :
      Takes codec s m (s.acceptStreamFrame f.kind f.key f.sequence f.encoded m)
  /-- The terminal of a Terminal that was detached. -/
  | afterGap (f : Numbered E) (previous : StreamState E) (hf : m.numbered codec = some f)
      (hterminal : m.terminal = true)
      (hpty : ∃ frame, m = .pty frame)
      (hprevious : s.inboundDataPlaneStreams.get f.key = some previous)
      (hgap : f.sequence > wrap64 (previous.sequence + 1)) (hm : m.attachResult = none) :
      Takes codec s m (Session.acceptStreamFrame
        { s with inboundDataPlaneStreams := s.inboundDataPlaneStreams.delete f.key } f.kind f.key
        f.sequence f.encoded m)

theorem acceptPtyFrame_takes (codec : Codec E) (s : Session E) (frame : Runner.PtyFrame)
    {i : Identity} (hi : Runner.validateRunnerDataPlaneFrameIdentity frame = some i) :
    Takes codec s (.pty frame) (s.acceptPtyFrame codec frame i) := by
  have hf : (RunnerToControlPlane.pty frame).numbered codec =
      some ⟨.pty, dataPlaneStreamKey .pty i, frame.sequence, codec.pty frame⟩ := by
    rw [RunnerToControlPlane.numbered, hi]
    rfl
  rw [Session.acceptPtyFrame]
  dsimp only
  split
  next kind detail after next hpayload =>
    split
    · exact .refused _
    split
    next hattached =>
      exact .attached _ _ _ hf (by simp [RunnerToControlPlane.attachResult, hpayload, hattached])
    next hattached =>
      exact .answered _ (by simp [RunnerToControlPlane.attachResult, hpayload, hattached])
  next hpayload =>
    have hm : (RunnerToControlPlane.pty frame).attachResult = none := by
      rw [RunnerToControlPlane.attachResult]
      split
      next kind detail after next hresult => exact absurd hresult (hpayload kind detail after next)
      · rfl
    split
    next hgap =>
      obtain ⟨previous, hprevious, hgap⟩ := (Option.any_eq_true _ _).1 hgap
      rw [Bool.and_eq_true, decide_eq_true_eq] at hgap
      exact .afterGap _ previous hf hgap.1 ⟨frame, rfl⟩ hprevious hgap.2 hm
    · exact .numbered _ hf hm

theorem acceptRunnerDataPlaneFrame_takes (codec : Codec E) (s : Session E)
    (m : RunnerToControlPlane) :
    Takes codec s m (s.acceptRunnerDataPlaneFrame codec m) := by
  cases m with
  | exec frame | file frame | port frame =>
    rw [Session.acceptRunnerDataPlaneFrame]
    split
    · exact .refused _
    next i hi =>
    refine .numbered ⟨_, _, _, _⟩ ?_ rfl
    exact map_identity hi _
  | pty frame =>
    rw [Session.acceptRunnerDataPlaneFrame]
    split
    · exact .refused _
    next i hi => exact acceptPtyFrame_takes codec s frame (checkFrame_eq_ok hi).2.2
  | workspaceTransfer frame =>
    rw [Session.acceptRunnerDataPlaneFrame]
    split
    · exact .refused _
    split
    · exact .refused _
    next hvalid =>
    exact .numbered _ (numbered_workspaceTransfer codec hvalid) rfl
  | _ => exact .refused _

/-! ## Errors -/

theorem acceptStreamFrame_error {kind : EventKind} {key : Bytes} {sequence : ℕ} {encoded : E}
    {e : SessionError} (h : (s.acceptStreamFrame kind key sequence encoded m).2 = .error e) :
    (s.acceptStreamFrame kind key sequence encoded m).1 = s := by
  rw [Session.acceptStreamFrame] at h ⊢
  split
  next herror => rw [acceptDataPlaneSequence_error herror]
  next hok =>
    rw [hok] at h
    cases h
  next hok =>
    rw [hok] at h
    cases h

/-- A stream that has been forgotten takes any frame. -/
theorem acceptStreamFrame_of_none {key : Bytes} (hnone : s.inboundDataPlaneStreams.get key = none)
    (kind : EventKind) {sequence : ℕ} (hsequence : sequence ≠ 0) (encoded : E)
    (m : RunnerToControlPlane) :
    s.acceptStreamFrame kind key sequence encoded m =
      (Session.releaseTerminalDataPlaneState
        { s with inboundDataPlaneStreams := s.inboundDataPlaneStreams.put key ⟨sequence, some encoded⟩ } m key,
        .ok (s.event kind m)) := by
  have hfresh : acceptDataPlaneSequence s.inboundDataPlaneStreams key sequence encoded =
      (s.inboundDataPlaneStreams.put key ⟨sequence, some encoded⟩, .ok false) := by
    rcases acceptDataPlaneSequence_cases s.inboundDataPlaneStreams key encoded hsequence with
      ⟨hcopy, -⟩ | ⟨⟨previous, hprevious, -⟩, -⟩ | ⟨-, heq⟩
    · rw [hnone] at hcopy
      cases hcopy
    · rw [hnone] at hprevious
      cases hprevious
    · exact heq
  rw [Session.acceptStreamFrame, hfresh]

theorem acceptRunnerDataPlaneFrame_error {e : SessionError}
    (h : (s.acceptRunnerDataPlaneFrame codec m).2 = .error e) :
    (s.acceptRunnerDataPlaneFrame codec m).1 = s := by
  have htakes := acceptRunnerDataPlaneFrame_takes codec s m
  generalize s.acceptRunnerDataPlaneFrame codec m = r at h htakes
  cases htakes with
  | refused => rfl
  | answered => rfl
  | attached => cases h
  | numbered f hf => exact acceptStreamFrame_error h
  | afterGap f previous hf =>
    rw [acceptStreamFrame_of_none (Table.get_delete_self _ _) _ (m.numbered_sequence_ne_zero hf)] at h
    cases h

end

end SecondBox.RunnerControl

/-
  The goroutines of one PTY operation: its worker, which produces frames, the
  calls of `attachPTYStream`, and detaches, interleaved at every mutex.

  `operationMu` sections are single steps.  A send is a step of its own, made
  with the mutex of its attachment held: by the call of `attachPTYStream` from
  before the attachment is published until its replay is sent, and by the worker
  for one frame.  Between retaining a frame and locking the attachment it read,
  the worker holds nothing.

  A stream that has failed a send fails every later one: a gRPC stream is over,
  and `directTypedStream` has closed its connection.

  The lists `produced`, `output` and `sent` are kept for the statements only.

  `Served` speaks of one accepted attachment: what it has sent, what its attach
  call has still to send and what the worker owes it make, in this order, the
  answer and all frames after its `AfterSequence`.  It holds as long as the
  attachment is not detached and its stream has not failed; from then on nothing
  more goes out through it.
-/
import SecondBox.Runner.Streams
import SecondBox.Base.History

namespace SecondBox.Runner

/-- The checks of `attachPTYStream`: an error, or the kind of its answer. -/
def ExecOperation.attachKind (op : ExecOperation) (attached : Bool) (reconnectId : String)
    (afterSequence : Int) (streamWindowBytes : ℕ) : Except Error PtyAttachResultKind :=
  if !op.pty || (op.ptyWindowBytes != 0 && op.ptyWindowBytes != streamWindowBytes) then
    .error .ptyAttachmentInvalid
  else if reconnectId = "" ∨ afterSequence < -1 ∨ streamWindowBytes = 0 then
    .error .ptyAttachmentInvalid
  else if attached then .ok .alreadyAttached
  else if op.replayEvicted afterSequence then .ok .replayEvicted
  else if (op.nextOutgoing : Int) - 1 ≤ afterSequence then .error .ptyAttachmentInvalid
  else .ok .attached

/-- The text of an attach result. -/
def attachDetail : PtyAttachResultKind → String
  | .alreadyAttached => "Terminal already has an active attachment"
  | .replayEvicted => "Terminal replay sequence was evicted"
  | _ => ""

/-- `resultFrame` of `attachPTYStream`. -/
def ExecOperation.attachResultFrame (op : ExecOperation) (afterSequence : Int)
    (kind : PtyAttachResultKind) : PtyFrame :=
  outgoing op.identity (afterSequence + 2).toNat op.correlation
    (.attachResult kind (attachDetail kind) afterSequence op.nextIncoming)

/-- The atomic `attachPTYStream` makes the same checks and gives the same answers. -/
theorem attachPTYStream_eq (s : Service) (stream : Stream) (key reconnectId : String)
    (afterSequence : Int) (window : ℕ) (op : ExecOperation)
    (hop : s.execOperations.get key = some op) :
    attachPTYStream s stream key reconnectId afterSequence window =
      match op.attachKind op.ptyAttachment.isSome reconnectId afterSequence window with
      | .error e => { service := s, error := some e }
      | .ok .attached =>
        { service := s.putExec key { op with ptyWindowBytes := window, ptyAttachment := some ⟨stream, reconnectId⟩ }
          events :=
            (op.attachResultFrame afterSequence .attached :: op.replayAfter afterSequence).map
            fun frame => .sent stream (.pty frame) }
      | .ok kind => { service := s, events := [.sent stream (.pty (op.attachResultFrame afterSequence kind))] } := by
  rw [attachPTYStream, hop]
  dsimp only
  rw [ExecOperation.attachKind]
  split
  · rfl
  split
  · rfl
  split
  · rfl
  split
  · rfl
  split <;> rfl

namespace PtyReplay

/-! ## State -/

/-- Where a call of `attachPTYStream` stands once it has left `operationMu`. -/
inductive Call where
  /-- it holds the attachment's mutex and has these frames to send -/
  | sending (todo : List PtyFrame)
  /-- a send failed; the mutex is free and the attachment not yet given up -/
  | failed
  | returned
deriving DecidableEq

/-- `runnerPTYAttachment` and the call that made it.  A refused call makes one too,
    to which nothing points. -/
structure Attachment where
  stream : Stream
  reconnectId : String
  afterSequence : Int
  kind : PtyAttachResultKind
  result : PtyFrame
  detached : Bool := false
  call : Call
  /-- what has gone out through it -/
  sent : List PtyFrame := []

/-- Where the worker stands; `rest` is what its callback still has to write. -/
inductive Worker where
  | idle
  | writing (content : Bytes)
  | retaining (payload : PtyPayload) (rest : Bytes)
  /-- it has read the attachment `i` and waits for its mutex -/
  | waiting (i : ℕ) (frame : PtyFrame) (rest : Bytes)
  | sending (i : ℕ) (frame : PtyFrame) (rest : Bytes)
  /-- the send through `i` has failed -/
  | dropping (i : ℕ) (rest : Bytes)
deriving DecidableEq

/-- A PTY with all its attachments. -/
structure State where
  op : ExecOperation
  /-- the operation is in `execOperations` -/
  known : Bool := true
  /-- every attachment made, in order; they are named by their place -/
  attachments : List Attachment := []
  /-- the attachment that `ptyAttachment` points to -/
  current : Option ℕ := none
  /-- the streams that have failed a send -/
  broken : List Stream := []
  worker : Worker := .idle
  /-- every frame retained so far -/
  produced : List PtyFrame := []
  /-- the bytes the backend has handed over, without those its callback refused -/
  output : Bytes := []

/-- How a send on a stream that works can end. -/
inductive Outcome where
  | sent
  /-- with an error, though the frame may have gone out -/
  | failed (delivered : Bool)
deriving DecidableEq

/-- The actions of backend, worker and clients. -/
inductive Action where
  /-- the backend calls back with output -/
  | emit (content : Bytes)
  /-- the backend has returned -/
  | finish (t : ExecTerminal)
  /-- the worker goes on -/
  | work (o : Outcome)
  /-- an input frame is accepted -/
  | input
  | attach (stream : Stream) (reconnectId : String) (afterSequence : Int) (streamWindowBytes : ℕ)
  /-- the attach call that made `i` goes on -/
  | answer (i : ℕ) (o : Outcome)
  | detach (reconnectId : String)
  /-- the handler of a connection returns -/
  | lose (stream : Stream)
  /-- the ended operation leaves the tombstone window -/
  | forget
deriving DecidableEq

/-! ## Steps -/

/-- Go on with `rest`. -/
def Worker.resume (rest : Bytes) : Worker :=
  if rest.isEmpty then .idle else .writing rest

variable (s : State)

namespace State

/-- The send returns an error. -/
def fails (stream : Stream) (o : Outcome) : Bool :=
  decide (stream ∈ s.broken) || decide (o ≠ .sent)

/-- `sendRunnerFrame` through the attachment `i`. -/
def send (i : ℕ) (stream : Stream) (frame : PtyFrame) (o : Outcome) : State :=
  if stream ∈ s.broken then s
  else
    { s with
      attachments :=
        if o = .failed false then s.attachments
        else s.attachments.modify i fun a => { a with sent := a.sent ++ [frame] }
      broken := if o = .sent then s.broken else stream :: s.broken }

/-- Someone holds the mutex of the attachment `a`, which is number `i`. -/
def locked (i : ℕ) (a : Attachment) : Bool :=
  (match a.call with
    | .sending _ => true
    | _ => false) ||
  match s.worker with
  | .sending j _ _ => decide (j = i)
  | _ => false

/-- The current attachment, if `p` holds of it. -/
def currentWhere (p : Attachment → Bool) : Option (ℕ × Attachment) :=
  if s.known then
    s.current.bind fun i => (s.attachments[i]?).bind fun a => if p a then some (i, a) else none
  else none

/-- The part of `detachPTYAttachment` and `detachPTYAttachmentsForStream` after the attachment is found. -/
def giveUp (i : ℕ) : State :=
  { s with current := none, attachments := s.attachments.modify i fun a => { a with detached := true } }

/-- Both detaches; one that has to wait for the mutex leaves the state as it is. -/
def detachWhere (p : Attachment → Bool) : State :=
  match s.currentWhere p with
  | none => s
  | some (i, a) => if s.locked i a then s else s.giveUp i

/-- A client attaches. -/
def attach (stream : Stream) (reconnectId : String) (afterSequence : Int) (window : ℕ) : State :=
  if !s.known then s
  else match s.op.attachKind s.current.isSome reconnectId afterSequence window with
  | .error _ => s
  | .ok kind =>
    let result := s.op.attachResultFrame afterSequence kind
    let attachment (todo : List PtyFrame) : Attachment :=
      { stream, reconnectId, afterSequence, kind, result, call := .sending (result :: todo) }
    if kind = .attached then
      { s with
        op := { s.op with ptyWindowBytes := window }
        attachments := s.attachments ++ [attachment (s.op.replayAfter afterSequence)]
        current := some s.attachments.length }
    else { s with attachments := s.attachments ++ [attachment []] }

/-- Change what attachment `i` is doing. -/
def setCall (i : ℕ) (call : Call) : State :=
  { s with attachments := s.attachments.modify i fun a => { a with call := call } }

/-- The rest of `attachPTYStream`, one step of the call that made `a`, which is number `i`. -/
def answer (i : ℕ) (a : Attachment) (o : Outcome) : State :=
  match a.call with
  | .sending [] => s.setCall i .returned
  | .sending (frame :: todo) =>
    (s.send i a.stream frame o).setCall i (if s.fails a.stream o then .failed else .sending todo)
  | .failed =>
    if a.kind = .attached then
      -- detachPTYAttachment, by the reconnect id
      match s.currentWhere fun b => decide (b.reconnectId = a.reconnectId) with
      | none => s.setCall i .returned
      | some (j, b) => if s.locked j b then s else (s.giveUp j).setCall i .returned
    else s.setCall i .returned
  | .returned => s

/-- The worker inside `sendRunnerPTYBytes` and `retainAndSendPTYFrame`. -/
def work (o : Outcome) : State :=
  match s.worker with
  | .idle => s
  | .writing content =>
    -- without a window the callback fails
    if s.op.ptyWindowBytes = 0 then
      { s with worker := .idle, output := s.output.take (s.output.length - content.length) }
    else
      let size := min content.length (min runnerDataPlaneChunkBytes s.op.ptyWindowBytes)
      { s with worker := .retaining (.output .stdout (content.take size)) (content.drop size) }
  | .retaining payload rest =>
    let frame := s.op.ptyFrame payload
    { s with
      op := (s.op.retainAndSendPTYFrame payload).1
      produced := s.produced ++ [frame]
      worker := match s.current with
        | none => .resume rest
        | some i => .waiting i frame rest }
  | .waiting i frame rest =>
    match s.attachments[i]? with
    | none => s
    | some a =>
      if s.locked i a then s
      else if a.detached then { s with worker := .resume rest }
      else { s with worker := .sending i frame rest }
  | .sending i frame rest =>
    match s.attachments[i]? with
    | none => s
    | some a =>
      { s.send i a.stream frame o with
        worker := if s.fails a.stream o then .dropping i rest else .resume rest }
  | .dropping i rest =>
    { s with
      current := if s.current = some i then none else s.current
      worker := .resume rest }

end State

/-- One action. -/
def next : Action → State
  | .emit content =>
    -- the worker has returned once the terminal is recorded
    if s.worker = .idle ∧ !s.op.terminal ∧ !content.isEmpty then
      { s with worker := .writing content, output := s.output ++ content }
    else s
  | .finish t =>
    if s.worker = .idle ∧ !s.op.terminal then
      { s with
        op := { s.op with terminal := true, ptyTerminalFrame := some (s.op.ptyFrame (.terminal t)), stage := .ended }
        worker := .retaining (.terminal t) [] }
    else s
  | .work o => s.work o
  | .input => { s with op := { s.op with nextIncoming := s.op.nextIncoming + 1 } }
  | .attach stream reconnectId afterSequence window =>
    s.attach stream reconnectId afterSequence window
  | .answer i o =>
    match s.attachments[i]? with
    | none => s
    | some a => s.answer i a o
  | .detach reconnectId =>
    if reconnectId = "" then s else s.detachWhere fun a => decide (a.reconnectId = reconnectId)
  | .lose stream => s.detachWhere fun a => decide (a.stream = stream)
  | .forget => if s.op.terminal then { s with known := false } else s

/-- The operation as its Open records it.  An absent operation that a cancellation
    records is one that goes on with `finish`. -/
def start (op : ExecOperation) : State := { op }

/-! ## What has been sent through an attachment -/

/-- The frames that the call of `attachPTYStream` has still to send. -/
def Attachment.todo (a : Attachment) : List PtyFrame :=
  match a.call with
  | .sending todo => todo
  | _ => []

/-- What should go out through an attachment: the answer, then every frame after `AfterSequence`. -/
def Attachment.due (a : Attachment) (produced : List PtyFrame) : List PtyFrame :=
  a.result :: produced.drop (a.afterSequence + 1).toNat

/-- The frame that the worker has read the attachment `i` for and has not sent yet. -/
def Worker.owed (w : Worker) (i : ℕ) : List PtyFrame :=
  match w with
  | .waiting j frame _ | .sending j frame _ => if j = i then [frame] else []
  | _ => []

/-- An accepted attachment, given whether it is current and what the worker owes it. -/
structure Served (produced : List PtyFrame) (broken : List Stream) (current : Prop)
    (owed : List PtyFrame) (a : Attachment) : Prop where
  after_ge : -1 ≤ a.afterSequence
  after_le : (a.afterSequence + 1).toNat ≤ produced.length
  sent : a.sent <+: a.due produced
  live : a.detached = false → a.stream ∉ broken → current ∧ a.sent ++ a.todo ++ owed =
    a.due produced
  free : ∀ todo, a.call = .sending todo → a.detached = false
  failed : a.call = .failed → a.stream ∈ broken

namespace Served

variable {produced : List PtyFrame} {broken : List Stream} {current : Prop} {owed : List PtyFrame}
  {a : Attachment}

theorem due_append (hafter : (a.afterSequence + 1).toNat ≤ produced.length) (frame : PtyFrame) :
    a.due (produced ++ [frame]) = a.due produced ++ [frame] := by
  rw [Attachment.due, List.drop_append_of_le_length hafter]
  rfl

variable {owed' : List PtyFrame}

/-- A new frame; the worker owes it to the current attachment. -/
theorem produce (h : Served produced broken current [] a) (frame : PtyFrame)
    (howed : current → owed' = [frame]) : Served (produced ++ [frame]) broken current owed' a := by
  have hdue := due_append h.after_le frame
  refine ⟨h.after_ge, ?_, ?_, ?_, h.free, h.failed⟩
  · rw [List.length_append]
    exact h.after_le.trans (Nat.le_add_right _ _)
  · rw [hdue]
    exact h.sent.trans (List.prefix_append _ _)
  · intro hdetached hbroken
    obtain ⟨hcurrent, hall⟩ := h.live hdetached hbroken
    refine ⟨hcurrent, ?_⟩
    rw [hdue, howed hcurrent, ← hall, List.append_nil]

variable {current' : Prop}

variable (h : Served produced broken current owed a)
include h

theorem imp (hcurrent : current → current') : Served produced broken current' owed a := by
  refine ⟨h.after_ge, h.after_le, h.sent, ?_, h.free, h.failed⟩
  intro hdetached hbroken
  obtain ⟨hnow, hall⟩ := h.live hdetached hbroken
  exact ⟨hcurrent hnow, hall⟩

theorem mono {broken' : List Stream} (hsub : broken ⊆ broken') :
    Served produced broken' current owed a :=
  ⟨h.after_ge, h.after_le, h.sent, fun hdetached hbroken => h.live hdetached fun hin =>
    hbroken (hsub hin), h.free, fun hcall => hsub (h.failed hcall)⟩

/-- Nothing more goes out through an attachment that is detached or whose stream has failed. -/
theorem ended (hover : a.detached = true ∨ a.stream ∈ broken) :
    Served produced broken current' owed' a := by
  refine ⟨h.after_ge, h.after_le, h.sent, ?_, h.free, h.failed⟩
  intro hdetached hbroken
  rcases hover with hover | hover
  · rw [hdetached] at hover
    cases hover
  · exact absurd hover hbroken

theorem detach (hcall : ∀ todo, a.call ≠ .sending todo) :
    Served produced broken current' owed { a with detached := true } := by
  refine ⟨h.after_ge, h.after_le, h.sent, ?_, ?_, h.failed⟩
  · intro hdetached
    cases hdetached
  · intro todo htodo
    exact absurd htodo (hcall todo)

theorem replay {frame : PtyFrame} {todo : List PtyFrame}
    (hcall : a.call = .sending (frame :: todo)) (hbroken : a.stream ∉ broken) :
    Served produced broken current owed { a with sent := a.sent ++ [frame], call := .sending todo } := by
  have hdetached := h.free _ hcall
  obtain ⟨hcurrent, hall⟩ := h.live hdetached hbroken
  rw [Attachment.todo, hcall] at hall
  have hnow : a.sent ++ [frame] ++ todo ++ owed = a.due produced := by
    rw [← hall]
    simp
  refine ⟨h.after_ge, h.after_le, ?_, fun _ _ => ⟨hcurrent, hnow⟩, fun _ _ => hdetached, ?_⟩
  · refine ⟨todo ++ owed, ?_⟩
    rw [← List.append_assoc]
    exact hnow
  · intro hfailed
    cases hfailed

omit h in
theorem deliver {frame : PtyFrame} (h : Served produced broken current [frame] a)
    (hcall : ∀ todo, a.call ≠ .sending todo) (hdetached : a.detached = false)
    (hbroken : a.stream ∉ broken) :
    Served produced broken current [] { a with sent := a.sent ++ [frame] } := by
  obtain ⟨hcurrent, hall⟩ := h.live hdetached hbroken
  have htodo : a.todo = [] := by
    rw [Attachment.todo]
    split
    next todo hsending => exact absurd hsending (hcall todo)
    · rfl
  rw [htodo, List.append_nil] at hall
  refine ⟨h.after_ge, h.after_le, ⟨[], ?_⟩, fun _ _ => ⟨hcurrent, ?_⟩, h.free, h.failed⟩
  · rw [List.append_nil]
    exact hall
  · show a.sent ++ [frame] ++ a.todo ++ [] = a.due produced
    rw [htodo, List.append_nil, List.append_nil, hall]

/-- A send fails, and with it the stream; the frame may have gone out. -/
theorem cut {broken' : List Stream} (hbroken : a.stream ∈ broken')
    {sent' : List PtyFrame} (hsent : sent' <+: a.due produced) {call' : Call}
    (hcall : ∀ todo, call' = .sending todo → a.call = .sending todo) :
    Served produced broken' current' owed' { a with sent := sent', call := call' } :=
  ⟨h.after_ge, h.after_le, hsent, fun _ hnot => absurd hbroken hnot,
    fun todo htodo => h.free todo (hcall todo htodo), fun _ => hbroken⟩

theorem returned (htodo : a.todo = []) :
    Served produced broken current owed { a with call := .returned } := by
  refine ⟨h.after_ge, h.after_le, h.sent, ?_, ?_, ?_⟩
  · intro hdetached hbroken
    obtain ⟨hcurrent, hall⟩ := h.live hdetached hbroken
    rw [htodo] at hall
    exact ⟨hcurrent, hall⟩
  · intro todo hcall
    cases hcall
  · intro hcall
    cases hcall

end Served

/-! ## The retained frames -/

/-- The frames of a list carry consecutive sequences, the first `k + 1`. -/
def Numbered (k : ℕ) (frames : List PtyFrame) : Prop :=
  ∀ i frame, frames[i]? = some frame → frame.sequence = k + i + 1

variable {frames : List PtyFrame}

theorem Numbered.append (h : Numbered 0 frames) {frame : PtyFrame}
    (hframe : frame.sequence = frames.length + 1) : Numbered 0 (frames ++ [frame]) := by
  intro i f hf
  rw [List.getElem?_append] at hf
  split at hf
  · exact h i f hf
  next hi =>
  rw [List.getElem?_singleton] at hf
  split at hf
  · cases hf
    omega
  · cases hf

theorem Numbered.drop (h : Numbered 0 frames) (k : ℕ) : Numbered k (frames.drop k) := by
  intro i f hf
  rw [List.getElem?_drop] at hf
  have := h (k + i) f hf
  omega

theorem Numbered.tail {k : ℕ} {f : PtyFrame} (h : Numbered k (f :: frames)) :
    Numbered (k + 1) frames := by
  intro i g hg
  have := h (i + 1) g hg
  omega

/-- Choosing the frames after `AfterSequence` drops those up to it. -/
theorem Numbered.filter_after {k : ℕ} (h : Numbered k frames) {afterSequence : Int}
    (hafter : -1 ≤ afterSequence) :
    frames.filter (fun frame => decide (afterSequence < (frame.sequence : Int) - 1)) =
      frames.drop ((afterSequence + 1).toNat - k) := by
  induction frames generalizing k with
  | nil => simp
  | cons f frames ih =>
    have hf : f.sequence = k + 1 := h 0 f rfl
    rw [List.filter_cons, ih h.tail]
    by_cases hk : (afterSequence + 1).toNat ≤ k
    · rw [if_pos (by rw [decide_eq_true_eq, hf]; omega)]
      have h0 : (afterSequence + 1).toNat - (k + 1) = 0 := by omega
      have h1 : (afterSequence + 1).toNat - k = 0 := by omega
      rw [h0, h1]
      rfl
    · rw [if_neg (by rw [decide_eq_true_eq, hf]; omega)]
      have h1 : (afterSequence + 1).toNat - k = (afterSequence + 1).toNat - (k + 1) + 1 := by omega
      rw [h1, List.drop_succ_cons]

/-- Eviction drops from the front, and never the last frame. -/
theorem trimReplay_drop (window bytes : ℕ) (frames : List PtyFrame) :
    ∃ k, (trimReplay window bytes frames).2 = frames.drop k ∧
      (frames ≠ [] → k < frames.length) := by
  fun_induction trimReplay window bytes frames with
  | case1 bytes f g rest _ ih =>
    obtain ⟨k, hk, hlt⟩ := ih
    refine ⟨k + 1, by rw [hk]; rfl, fun _ => ?_⟩
    have := hlt (List.cons_ne_nil _ _)
    simp only [List.length_cons] at this ⊢
    omega
  | case2 => exact ⟨0, rfl, fun _ => by simp⟩
  | case3 bytes frames =>
    refine ⟨0, rfl, fun hne => ?_⟩
    exact List.length_pos_iff.2 hne

/-- The replay holds the newest frames, at least one once there is one. -/
def Retained (op : ExecOperation) (produced : List PtyFrame) : Prop :=
  ∃ k, op.ptyReplay = produced.drop k ∧ k ≤ produced.length ∧ (produced ≠ [] → k < produced.length)

theorem Retained.retain {op : ExecOperation} {produced : List PtyFrame} (h : Retained op produced)
    (payload : PtyPayload) :
    Retained (op.retainAndSendPTYFrame payload).1 (produced ++ [op.ptyFrame payload]) := by
  obtain ⟨k, hk, hle, -⟩ := h
  obtain ⟨m, hm, hlt⟩ :=
    trimReplay_drop op.ptyWindowBytes (op.ptyReplayBytes + outputBytes (op.ptyFrame payload))
    (op.ptyReplay ++ [op.ptyFrame payload])
  have hlt := hlt (by simp)
  have hreplay : op.ptyReplay ++ [op.ptyFrame payload] = (produced ++ [op.ptyFrame payload]).drop
      k := by
    rw [hk, List.drop_append_of_le_length hle]
  have hlength : m < produced.length - k + 1 := by
    rw [hk] at hlt
    simpa using hlt
  refine ⟨k + m, ?_, ?_, fun _ => ?_⟩
  · rw [ExecOperation.retainAndSendPTYFrame]
    rw [hm, hreplay, List.drop_drop]
  · rw [List.length_append, List.length_singleton]
    omega
  · rw [List.length_append, List.length_singleton]
    omega

/-- What an accepted attach replays is everything after its `AfterSequence`. -/
theorem Retained.replayAfter_eq {op : ExecOperation} {produced : List PtyFrame}
    (h : Retained op produced) (hnumbered : Numbered 0 produced) {afterSequence : Int}
    (hafter : -1 ≤ afterSequence) (hkept : op.replayEvicted afterSequence = false) :
    op.replayAfter afterSequence = produced.drop (afterSequence + 1).toNat := by
  obtain ⟨k, hk, -, hlt⟩ := h
  rw [ExecOperation.replayAfter, hk, (hnumbered.drop k).filter_after hafter, List.drop_drop]
  cases hdrop : produced.drop k with
  | nil =>
    have hnil : produced = [] := by
      by_contra hne
      have := hlt hne
      rw [List.drop_eq_nil_iff] at hdrop
      omega
    rw [hnil, List.drop_nil, List.drop_nil]
  | cons oldest rest =>
    have holdest : oldest.sequence = k + 1 := (hnumbered.drop k) 0 oldest (by rw [hdrop]; rfl)
    rw [ExecOperation.replayEvicted, hk, hdrop] at hkept
    have hge := of_decide_eq_false hkept
    have hsum : k + ((afterSequence + 1).toNat - k) = (afterSequence + 1).toNat := by omega
    rw [hsum]

end PtyReplay

end SecondBox.Runner

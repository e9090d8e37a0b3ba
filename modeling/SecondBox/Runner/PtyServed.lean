/-
  What goes out through a PTY attachment, in every interleaving of the goroutines
  of `PtyReplay`.

  The invariant says that every accepted attachment is `Served`.  `pty_replay`
  is what follows for the peer: frames without gap or repetition.
-/
import SecondBox.Runner.PtyReplay

namespace SecondBox.Runner.PtyReplay

open History (after)

/-! ## The invariant -/

/-- The output in a payload. -/
def PtyPayload.bytes : PtyPayload → Bytes
  | .output _ data => data
  | _ => []

/-- What the worker has been given and has not retained yet. -/
def Worker.rest : Worker → Bytes
  | .idle => []
  | .writing content => content
  | .retaining payload rest => PtyPayload.bytes payload ++ rest
  | .waiting _ _ rest | .sending _ _ rest | .dropping _ rest => rest

@[simp] theorem Worker.rest_resume (rest : Bytes) : (Worker.resume rest).rest = rest := by
  cases rest <;> rfl

@[simp] theorem Worker.owed_resume (rest : Bytes) (i : ℕ) : (Worker.resume rest).owed i = [] := by
  cases rest <;> rfl

/-- What the worker knows of the attachment it has read. -/
def WorkerOk (s : State) : Prop :=
  match s.worker with
  | .waiting i _ _ => ∃ a, s.attachments[i]? = some a ∧ a.kind = .attached
  | .sending i _ _ =>
    ∃ a, s.attachments[i]? = some a ∧ a.kind = .attached ∧ a.detached = false ∧
      ∀ todo, a.call ≠ .sending todo
  | .dropping i _ => ∃ a, s.attachments[i]? = some a ∧ a.kind = .attached ∧ a.stream ∈ s.broken
  | _ => True

/-- Every attachment is served. -/
def Serves (s : State) : Prop :=
  ∀ i a, s.attachments[i]? = some a → a.kind = .attached →
    Served s.produced s.broken (s.current = some i) (s.worker.owed i) a

/-- What `ptyAttachment` points to is accepted. -/
def Pointed (s : State) : Prop :=
  ∀ i, s.current = some i → ∃ a, s.attachments[i]? = some a ∧ a.kind = .attached

/-- The invariant of the runs. -/
structure Inv (s : State) : Prop where
  numbered : Numbered 0 s.produced
  next : s.op.nextOutgoing = s.produced.length + 1
  retained : Retained s.op s.produced
  output : s.produced.flatMap (fun frame => PtyPayload.bytes frame.payload) ++
    s.worker.rest = s.output
  pointed : Pointed s
  worker : WorkerOk s
  serves : Serves s

variable {reconnectId : String} {window : ℕ}

section
variable {s s' : State} {i : ℕ} {g : Attachment → Attachment}

/-- One attachment changes. -/
theorem Serves.modify (h : Serves s) (hattachments : s'.attachments = s.attachments.modify i g)
    (hproduced : s'.produced = s.produced) (hbroken : s.broken ⊆ s'.broken)
    (hkind : ∀ a, (g a).kind = a.kind)
    (hothers : ∀ j, j ≠ i → (s.current = some j → s'.current = some j) ∧ s'.worker.owed j = s.worker.owed j)
    (hself : ∀ a, s.attachments[i]? = some a → a.kind = .attached →
      Served s.produced s.broken (s.current = some i) (s.worker.owed i) a →
      Served s.produced s'.broken (s'.current = some i) (s'.worker.owed i) (g a)) : Serves s' := by
  intro j b hb hkindb
  rw [hattachments, List.getElem?_modify] at hb
  obtain ⟨a, ha, rfl⟩ := Option.map_eq_some_iff.1 hb
  rw [hproduced]
  split at hkindb
  next hij =>
    subst hij
    rw [if_pos rfl]
    rw [hkind] at hkindb
    exact hself a ha hkindb (h i a ha hkindb)
  next hij =>
    rw [if_neg hij]
    obtain ⟨hcurrent, howed⟩ := hothers j (Ne.symm hij)
    rw [howed]
    exact ((h j a ha hkindb).mono hbroken).imp hcurrent

theorem Pointed.modify (h : Pointed s) (hattachments : s'.attachments = s.attachments.modify i g)
    (hkind : ∀ a, (g a).kind = a.kind) (hcurrent : ∀ j, s'.current = some j → s.current = some j) :
    Pointed s' := by
  intro j hj
  obtain ⟨a, ha, hka⟩ := h j (hcurrent j hj)
  refine ⟨if i = j then g a else a, ?_, ?_⟩
  · rw [hattachments, List.getElem?_modify, ha]
    rfl
  · split
    · rw [hkind, hka]
    · exact hka

theorem WorkerOk.modify (h : WorkerOk s) (hattachments : s'.attachments = s.attachments.modify i g)
    (hworker : s'.worker = s.worker) (hbroken : s.broken ⊆ s'.broken)
    (hkind : ∀ a, (g a).kind = a.kind) (hstream : ∀ a, (g a).stream = a.stream)
    (hself : ∀ a frame rest, s.worker = .sending i frame rest → s.attachments[i]? = some a →
      a.detached = false →
      (∀ todo, a.call ≠ .sending todo) → (g a).detached = false ∧
        ∀ todo, (g a).call ≠ .sending todo) :
    WorkerOk s' := by
  have hget : ∀ j a, s.attachments[j]? = some a →
      s'.attachments[j]? = some (if i = j then g a else a) := by
    intro j a ha
    rw [hattachments, List.getElem?_modify, ha]
    rfl
  unfold WorkerOk at h ⊢
  rw [hworker]
  split
  next j frame rest hw =>
    rw [hw] at h
    obtain ⟨a, ha, hka⟩ := h
    refine ⟨_, hget j a ha, ?_⟩
    split
    · rw [hkind, hka]
    · exact hka
  next j frame rest hw =>
    rw [hw] at h
    obtain ⟨a, ha, hka, hdetached, hcall⟩ := h
    refine ⟨_, hget j a ha, ?_⟩
    split
    next hij =>
      subst hij
      obtain ⟨hd, hc⟩ := hself a frame rest hw ha hdetached hcall
      exact ⟨(hkind a).trans hka, hd, hc⟩
    · exact ⟨hka, hdetached, hcall⟩
  next j rest hw =>
    rw [hw] at h
    obtain ⟨a, ha, hka, hin⟩ := h
    refine ⟨_, hget j a ha, ?_⟩
    split
    · exact ⟨(hkind a).trans hka, by rw [hstream]; exact hbroken hin⟩
    · exact ⟨hka, hbroken hin⟩
  · trivial

/-- A step of an attach call or a detach changes one attachment. -/
theorem Inv.modify (h : Inv s) {broken' : List Stream} {current' : Option ℕ}
    (hbroken : s.broken ⊆ broken') (hcurrent : current' = s.current ∨ current' = none ∧
    s.current = some i) (hkind : ∀ a, (g a).kind = a.kind) (hstream : ∀ a, (g a).stream = a.stream)
    (hworker : ∀ a frame rest, s.worker = .sending i frame rest → s.attachments[i]? = some a →
      a.detached = false →
      (∀ todo, a.call ≠ .sending todo) → (g a).detached = false ∧
        ∀ todo, (g a).call ≠ .sending todo)
    (hself : ∀ a, s.attachments[i]? = some a → a.kind = .attached →
      Served s.produced s.broken (s.current = some i) (s.worker.owed i) a →
      Served s.produced broken' (current' = some i) (s.worker.owed i) (g a)) :
    Inv { s with attachments := s.attachments.modify i g, broken := broken', current := current' } := by
  refine ⟨h.numbered, h.next, h.retained, h.output, h.pointed.modify rfl hkind ?_,
    h.worker.modify rfl rfl hbroken hkind hstream hworker,
    h.serves.modify rfl rfl hbroken hkind ?_ hself⟩
  · intro j hj
    rcases hcurrent with hcurrent | ⟨hnone, -⟩
    · exact hcurrent ▸ hj
    · rw [show current' = some j from hj] at hnone
      cases hnone
  · intro j hji
    refine ⟨fun hj => ?_, rfl⟩
    rcases hcurrent with hcurrent | ⟨-, hsome⟩
    · exact hcurrent.trans hj
    · rw [hsome] at hj
      exact absurd (Option.some.inj hj).symm hji

/-! ## Steps of an attach call -/

theorem send_cases (s : State) (i : ℕ) (stream : Stream) (frame : PtyFrame) (o : Outcome) :
    (s.fails stream o = false ∧ stream ∉ s.broken ∧
      s.send i stream frame o =
        { s with attachments := s.attachments.modify i fun a => { a with sent := a.sent ++ [frame] } }) ∨
    s.fails stream o = true ∧ ∃ delivered : Bool, (delivered = true → stream ∉ s.broken) ∧
      s.send i stream frame o =
        { s with
          attachments := s.attachments.modify i fun a =>
            { a with sent := a.sent ++ if delivered then [frame] else [] }
          broken := if stream ∈ s.broken then s.broken else stream :: s.broken } := by
  have hid : s.attachments.modify i (fun a => { a with sent := a.sent ++ [] }) = s.attachments := by
    simp only [List.append_nil]
    exact List.modify_id i s.attachments
  by_cases hbroken : stream ∈ s.broken
  · refine .inr ⟨by simp [State.fails, hbroken], false, by simp, ?_⟩
    rw [State.send, if_pos hbroken, if_pos hbroken]
    exact congrArg (fun l => { s with attachments := l }) hid.symm
  cases o with
  | sent => exact .inl ⟨by simp [State.fails, hbroken], hbroken, by simp [State.send, hbroken]⟩
  | failed delivered =>
    refine .inr ⟨by simp [State.fails], delivered, fun _ => hbroken, ?_⟩
    rw [State.send, if_neg hbroken, if_neg hbroken]
    cases delivered with
    | true => simp
    | false =>
      simp only [if_true, Bool.false_eq_true, if_false, reduceCtorEq]
      exact congrArg (fun l => { s with attachments := l, broken := stream :: s.broken }) hid.symm

theorem Inv.setCall_returned (h : Inv s) (htodo : ∀ a, s.attachments[i]? = some a → a.todo = []) :
    Inv (s.setCall i .returned) :=
  h.modify (List.Subset.refl _) (.inl rfl) (fun _ => rfl) (fun _ => rfl)
    (fun _ _ _ _ _ hdetached _ => ⟨hdetached, by simp⟩) fun a ha _ hserved =>
      hserved.returned (htodo a ha)

variable {a : Attachment}

theorem locked_eq_false (h : s.locked i a = false) :
    (∀ todo, a.call ≠ .sending todo) ∧ ∀ frame rest, s.worker ≠ .sending i frame rest := by
  rw [State.locked, Bool.or_eq_false_iff] at h
  constructor
  · intro todo hcall
    rw [hcall] at h
    cases h.1
  · intro frame rest hworker
    rw [hworker] at h
    simp at h

/-- A detach that has found the attachment `i` and has its mutex. -/
theorem Inv.giveUp (h : Inv s) (ha : s.attachments[i]? = some a) (hcurrent : s.current = some i)
    (hlocked : s.locked i a = false) : Inv (s.giveUp i) := by
  obtain ⟨hcall, hworker⟩ := locked_eq_false hlocked
  refine h.modify (List.Subset.refl _) (.inr ⟨rfl, hcurrent⟩) (fun _ => rfl) (fun _ => rfl) ?_ ?_
  · intro b frame rest hw
    exact absurd hw (hworker frame rest)
  · intro b hb hkind hserved
    rw [ha] at hb
    cases hb
    exact hserved.detach hcall

theorem currentWhere_eq_some {p : Attachment → Bool} (h : s.currentWhere p = some (i, a)) :
    s.current = some i ∧ s.attachments[i]? = some a ∧ p a = true := by
  rw [State.currentWhere] at h
  split at h
  · obtain ⟨j, hj, h⟩ := Option.bind_eq_some_iff.1 h
    obtain ⟨b, hb, h⟩ := Option.bind_eq_some_iff.1 h
    split at h
    next hp =>
      cases h
      exact ⟨hj, hb, hp⟩
    · cases h
  · cases h

theorem Inv.detachWhere (h : Inv s) (p : Attachment → Bool) : Inv (s.detachWhere p) := by
  rw [State.detachWhere]
  split
  · exact h
  next i a hfound =>
  obtain ⟨hcurrent, ha, -⟩ := currentWhere_eq_some hfound
  split
  · exact h
  next hlocked => exact h.giveUp ha hcurrent (Bool.not_eq_true _ ▸ hlocked)

variable {frame : PtyFrame}

theorem Served.next_prefix {produced : List PtyFrame} {broken : List Stream} {current : Prop}
    {owed : List PtyFrame} (h : Served produced broken current owed a) {todo : List PtyFrame}
    (hcall : a.call = .sending (frame :: todo)) (hbroken : a.stream ∉ broken) :
    a.sent ++ [frame] <+: a.due produced :=
  (h.replay hcall hbroken).sent

theorem Inv.answer (h : Inv s) (ha : s.attachments[i]? = some a) (o : Outcome) :
    Inv (s.answer i a o) := by
  have hat : ∀ b, s.attachments[i]? = some b → b = a := fun b hb => by
    rw [ha] at hb
    exact (Option.some.inj hb).symm
  rw [State.answer]
  split
  next hcall =>
    refine h.setCall_returned fun b hb => ?_
    rw [hat b hb, Attachment.todo, hcall]
  next frame todo hcall =>
    rcases send_cases s i a.stream frame o with ⟨hfails, hbroken, hsend⟩ | ⟨hfails, delivered,
      hdelivered, hsend⟩
    · rw [hsend, hfails, if_neg Bool.false_ne_true, State.setCall]
      dsimp only
      rw [List.modify_modify_eq]
      refine h.modify (List.Subset.refl _) (.inl rfl) (fun _ => rfl) (fun _ => rfl) ?_ ?_
      · intro b _ _ _ hb _ hnot
        rw [hat b hb] at hnot
        exact absurd hcall (hnot _)
      · intro b hb _ hserved
        obtain rfl := hat b hb
        exact hserved.replay hcall hbroken
    · rw [hsend, hfails, if_pos rfl, State.setCall]
      dsimp only
      rw [List.modify_modify_eq]
      refine h.modify ?_ (.inl rfl) (fun _ => rfl) (fun _ => rfl) ?_ ?_
      · split
        · exact List.Subset.refl _
        · exact List.subset_cons_self _ _
      · intro b _ _ _ _ hdetached _
        exact ⟨hdetached, by simp⟩
      · intro b hb _ hserved
        obtain rfl := hat b hb
        refine hserved.cut ?_ ?_ (by simp)
        · split
          next hin => exact hin
          · exact List.mem_cons_self
        · cases delivered with
          | true => exact hserved.next_prefix hcall (hdelivered rfl)
          | false => simpa using hserved.sent
  next hcall =>
    have htodo : ∀ b, s.attachments[i]? = some b → b.todo = [] := fun b hb => by
      rw [hat b hb, Attachment.todo, hcall]
    split
    · split
      · exact h.setCall_returned htodo
      next j b hfound =>
      obtain ⟨hcurrent, hb, -⟩ := currentWhere_eq_some hfound
      split
      · exact h
      next hlocked =>
      refine (h.giveUp hb hcurrent (Bool.not_eq_true _ ▸ hlocked)).setCall_returned fun c hc => ?_
      have hc : (s.attachments.modify j fun a => { a with detached := true })[i]? = some c := hc
      rw [List.getElem?_modify, ha] at hc
      cases hc
      split
      · exact htodo a ha
      · exact htodo a ha
    · exact h.setCall_returned htodo
  · exact h

/-! ## Attaching -/

theorem attachKind_attached {op : ExecOperation} {occupied : Bool} {afterSequence : Int}
    (h : op.attachKind occupied reconnectId afterSequence window = .ok .attached) :
    occupied = false ∧ -1 ≤ afterSequence ∧ op.replayEvicted afterSequence = false ∧
      afterSequence < (op.nextOutgoing : Int) - 1 := by
  rw [ExecOperation.attachKind] at h
  split at h
  · cases h
  split at h
  · cases h
  next hcomplete =>
  split at h
  · cases h
  next hfree =>
  split at h
  · cases h
  next hkept =>
  split at h
  · cases h
  next hlt =>
  refine ⟨Bool.not_eq_true _ ▸ hfree, ?_, Bool.not_eq_true _ ▸ hkept, ?_⟩
  · by_contra hlow
    exact hcomplete (.inr (.inl (by omega)))
  · omega

/-- The worker has read none but attachments that exist. -/
theorem WorkerOk.owed_new (h : WorkerOk s) : s.worker.owed s.attachments.length = [] := by
  have hne : ∀ j a, s.attachments[j]? = some a → j ≠ s.attachments.length := by
    intro j a ha
    have := (List.getElem?_eq_some_iff.1 ha).1
    omega
  unfold WorkerOk at h
  rw [Worker.owed.eq_def]
  split
  next j frame rest hw =>
    rw [hw] at h
    obtain ⟨a, ha, -⟩ := h
    rw [if_neg (hne j a ha)]
  next j frame rest hw =>
    rw [hw] at h
    obtain ⟨a, ha, -⟩ := h
    rw [if_neg (hne j a ha)]
  · rfl

theorem WorkerOk.append (h : WorkerOk s) (a : Attachment)
    (hattachments : s'.attachments = s.attachments ++ [a]) (hworker : s'.worker = s.worker)
    (hbroken : s'.broken = s.broken) : WorkerOk s' := by
  have hget : ∀ (j : ℕ) b, s.attachments[j]? = some b → s'.attachments[j]? = some b := by
    intro j b hb
    rw [hattachments, List.getElem?_append_left (List.getElem?_eq_some_iff.1 hb).1, hb]
  unfold WorkerOk at h ⊢
  rw [hworker, hbroken]
  split
  next j frame rest hw =>
    rw [hw] at h
    obtain ⟨b, hb, hrest⟩ := h
    exact ⟨b, hget j b hb, hrest⟩
  next j frame rest hw =>
    rw [hw] at h
    obtain ⟨b, hb, hrest⟩ := h
    exact ⟨b, hget j b hb, hrest⟩
  next j rest hw =>
    rw [hw] at h
    obtain ⟨b, hb, hrest⟩ := h
    exact ⟨b, hget j b hb, hrest⟩
  · trivial

/-- The attachment of an accepted attach: all it owes is in its hands. -/
theorem Inv.served_new (h : Inv s) {stream : Stream} {afterSequence : Int}
    (hkind : s.op.attachKind s.current.isSome reconnectId afterSequence window = .ok .attached)
    (result : PtyFrame) :
    Served s.produced s.broken True []
      { stream, reconnectId, afterSequence, kind := .attached, result
        call := .sending (result :: s.op.replayAfter afterSequence) } := by
  obtain ⟨-, hge, hkept, hlt⟩ := attachKind_attached hkind
  rw [h.next] at hlt
  refine ⟨hge, ?_, List.nil_prefix, fun _ _ => ⟨trivial, ?_⟩, fun _ _ => rfl, fun hcall => ?_⟩
  · show (afterSequence + 1).toNat ≤ s.produced.length
    omega
  · show [] ++ (result :: s.op.replayAfter afterSequence) ++ [] = result :: s.produced.drop
      (afterSequence + 1).toNat
    rw [h.retained.replayAfter_eq h.numbered hge hkept, List.append_nil, List.nil_append]
  · cases hcall

/-- What is at `j` of a list one longer was there before, or is what was added. -/
theorem getElem?_concat_cases {α : Type} {l : List α} {x a : α} {j : ℕ}
    (h : (l ++ [x])[j]? = some a) : l[j]? = some a ∨ j = l.length ∧ a = x := by
  by_cases hj : j < l.length
  · exact .inl ((List.getElem?_append_left hj).symm.trans h)
  · have hlen := (List.getElem?_eq_some_iff.1 h).1
    rw [List.length_append, List.length_singleton] at hlen
    obtain rfl : j = l.length := by omega
    cases List.getElem?_concat_length.symm.trans h
    exact .inr ⟨rfl, rfl⟩

theorem Inv.attach (h : Inv s) (stream : Stream) (reconnectId : String) (afterSequence : Int)
    (window : ℕ) :
    Inv (s.attach stream reconnectId afterSequence window) := by
  rw [State.attach]
  split
  · exact h
  cases hkind : s.op.attachKind s.current.isSome reconnectId afterSequence window with
  | error e => exact h
  | ok kind =>
    dsimp only
    split
    next hattached =>
      subst hattached
      have hfree : s.current = none := by
        obtain ⟨hoccupied, -⟩ := attachKind_attached hkind
        exact Option.not_isSome_iff_eq_none.1 (by rw [hoccupied]; exact Bool.false_ne_true)
      refine ⟨h.numbered, h.next, h.retained, h.output, ?_, h.worker.append _ rfl rfl rfl, ?_⟩
      · rintro j hj
        cases hj
        exact ⟨_, List.getElem?_concat_length, rfl⟩
      · intro j a ha hka
        obtain ha | ⟨rfl, rfl⟩ := getElem?_concat_cases ha
        · refine (h.serves j a ha hka).imp fun hcurrent => ?_
          rw [hfree] at hcurrent
          cases hcurrent
        · show Served s.produced s.broken _ (s.worker.owed s.attachments.length) _
          rw [h.worker.owed_new]
          exact (h.served_new hkind _).imp fun _ => rfl
    next hrefused =>
      refine ⟨h.numbered, h.next, h.retained, h.output, ?_, h.worker.append _ rfl rfl rfl, ?_⟩
      · intro j hj
        obtain ⟨a, ha, hka⟩ := h.pointed j hj
        exact ⟨a, (List.getElem?_append_left (List.getElem?_eq_some_iff.1 ha).1).trans ha, hka⟩
      · intro j a ha hka
        obtain ha | ⟨-, rfl⟩ := getElem?_concat_cases ha
        · exact h.serves j a ha hka
        · exact absurd hka hrefused

/-! ## Steps of the worker -/

variable {rest : Bytes}

variable (h : Inv s)
include h

theorem Inv.retain {payload : PtyPayload} (hworker : s.worker = .retaining payload rest) :
    Inv { s with
      op := (s.op.retainAndSendPTYFrame payload).1
      produced := s.produced ++ [s.op.ptyFrame payload]
      worker := match s.current with
        | none => .resume rest
        | some i => .waiting i (s.op.ptyFrame payload) rest } := by
  have howed : ∀ i, s.worker.owed i = [] := fun i => by rw [hworker]; rfl
  refine ⟨h.numbered.append h.next, ?_, h.retained.retain payload, ?_, h.pointed, ?_, ?_⟩
  · show s.op.nextOutgoing + 1 = (s.produced ++ [s.op.ptyFrame payload]).length + 1
    rw [h.next, List.length_append, List.length_singleton]
  · have hout := h.output
    rw [hworker] at hout
    show (s.produced ++ [s.op.ptyFrame payload]).flatMap _ ++ _ = s.output
    rw [← hout, List.flatMap_append, List.append_assoc]
    refine congrArg₂ _ rfl ?_
    rw [List.flatMap_singleton]
    refine congrArg₂ _ rfl ?_
    cases s.current with
    | none => exact Worker.rest_resume rest
    | some i => rfl
  · cases hcurrent : s.current with
    | none =>
      show WorkerOk { s with worker := Worker.resume rest, .. }
      cases rest <;> trivial
    | some i => exact h.pointed i hcurrent
  · intro i a ha hka
    have hserved := h.serves i a ha hka
    rw [howed] at hserved
    refine hserved.produce _ fun hcurrent => ?_
    dsimp only
    rw [hcurrent]
    exact if_pos rfl

theorem Inv.resume {i : ℕ}
    (hworker : s.worker = .waiting i frame rest) (ha : s.attachments[i]? = some a)
    (hdetached : a.detached = true) :
    Inv { s with worker := .resume rest } := by
  have hout := h.output
  rw [hworker] at hout
  refine ⟨h.numbered, h.next, h.retained, ?_, h.pointed, ?_, ?_⟩
  · rw [← hout]
    exact congrArg₂ _ rfl (Worker.rest_resume rest)
  · cases rest <;> trivial
  · intro j b hb hkb
    have hserved := h.serves j b hb hkb
    show Served _ _ _ ((Worker.resume rest).owed j) b
    rw [Worker.owed_resume]
    by_cases hij : i = j
    · subst hij
      have hba : b = a := by
        have hb : s.attachments[i]? = some b := hb
        rw [ha] at hb
        exact (Option.some.inj hb).symm
      exact hserved.ended (.inl (hba ▸ hdetached))
    · rw [hworker] at hserved
      rw [show (Worker.waiting i frame rest).owed j = [] from if_neg hij] at hserved
      exact hserved

/-- The worker sends the frame it owes and lets go of the mutex. -/
theorem Inv.sendFrame {i : ℕ}
    (hworker : s.worker = .sending i frame rest) (ha : s.attachments[i]? = some a) (o : Outcome) :
    Inv { s.send i a.stream frame o with
      worker := if s.fails a.stream o then .dropping i rest else .resume rest } := by
  have hat : ∀ b, s.attachments[i]? = some b → b = a := fun b hb => by
    rw [ha] at hb
    exact (Option.some.inj hb).symm
  have hout := h.output
  rw [hworker] at hout
  have hok := h.worker
  rw [WorkerOk, hworker] at hok
  obtain ⟨b, hb, hkind, hdetached, hcall⟩ := hok
  obtain rfl := hat b hb
  have howed : ∀ j, j ≠ i → s.worker.owed j = [] := fun j hj => by
    rw [hworker]
    exact if_neg (Ne.symm hj)
  have hself := h.serves i b ha hkind
  rw [hworker, show (Worker.sending i frame rest).owed i = [frame] from if_pos rfl] at hself
  rcases send_cases s i b.stream frame o with ⟨hfails, hbroken, hsend⟩ | ⟨hfails, delivered,
    hdelivered, hsend⟩
  · rw [hsend, hfails, if_neg Bool.false_ne_true]
    refine ⟨h.numbered, h.next, h.retained, ?_, ?_, ?_, ?_⟩
    · rw [← hout]
      exact congrArg₂ _ rfl (Worker.rest_resume rest)
    · exact h.pointed.modify rfl (fun _ => rfl) fun _ => id
    · cases rest <;> trivial
    · refine h.serves.modify rfl rfl (List.Subset.refl _) (fun _ => rfl) ?_ ?_
      · intro j hj
        exact ⟨id, (Worker.owed_resume rest j).trans (howed j hj).symm⟩
      · intro c hc _ _
        obtain rfl := hat c hc
        show Served _ _ _ ((Worker.resume rest).owed i) _
        rw [Worker.owed_resume]
        exact hself.deliver hcall hdetached hbroken
  · rw [hsend, hfails, if_pos rfl]
    have hin : b.stream ∈ if b.stream ∈ s.broken then s.broken else b.stream :: s.broken := by
      split
      next hin => exact hin
      · exact List.mem_cons_self
    refine ⟨h.numbered, h.next, h.retained, hout, ?_, ?_, ?_⟩
    · exact h.pointed.modify rfl (fun _ => rfl) fun _ => id
    · refine ⟨{ b with sent := b.sent ++ if delivered then [frame] else [] }, ?_, hkind, hin⟩
      refine (List.getElem?_modify ..).trans ?_
      rw [ha]
      exact congrArg some (if_pos rfl)
    · refine h.serves.modify rfl rfl ?_ (fun _ => rfl) ?_ ?_
      · show s.broken ⊆ if b.stream ∈ s.broken then s.broken else b.stream :: s.broken
        split
        · exact List.Subset.refl _
        · exact List.subset_cons_self _ _
      · intro j hj
        exact ⟨id, (howed j hj).symm⟩
      · intro c hc _ _
        obtain rfl := hat c hc
        refine hself.cut hin ?_ fun _ => id
        cases delivered with
        | true => exact (hself.deliver hcall hdetached (hdelivered rfl)).sent
        | false => simpa using hself.sent

/-- After a failed send the worker gives the attachment up, if it is still current. -/
theorem Inv.drop {i : ℕ} (hworker : s.worker = .dropping i rest) :
    Inv { s with current := if s.current = some i then none else s.current, worker := .resume rest } := by
  have hout := h.output
  rw [hworker] at hout
  have hok := h.worker
  rw [WorkerOk, hworker] at hok
  obtain ⟨a, ha, hkind, hbroken⟩ := hok
  refine ⟨h.numbered, h.next, h.retained, ?_, ?_, ?_, ?_⟩
  · rw [← hout]
    exact congrArg₂ _ rfl (Worker.rest_resume rest)
  · intro j hj
    have hj : (if s.current = some i then none else s.current) = some j := hj
    split at hj
    · cases hj
    · exact h.pointed j hj
  · cases rest <;> trivial
  · intro j b hb hkb
    have hserved := h.serves j b hb hkb
    show Served _ _ ((if s.current = some i then none else s.current) = some j)
      ((Worker.resume rest).owed j) b
    rw [Worker.owed_resume]
    rw [hworker] at hserved
    by_cases hij : i = j
    · subst hij
      have hb : s.attachments[i]? = some b := hb
      rw [ha] at hb
      cases hb
      exact hserved.ended (.inr hbroken)
    · refine hserved.imp fun hcurrent => ?_
      rw [if_neg, hcurrent]
      rw [hcurrent]
      exact fun heq => hij (Option.some.inj heq).symm

theorem Inv.setWorker {w : Worker} {out : Bytes}
    (hout : s.produced.flatMap (fun frame => PtyPayload.bytes frame.payload) ++ w.rest = out)
    (hok : WorkerOk { s with worker := w, output := out })
    (howed : ∀ i, w.owed i = s.worker.owed i) :
    Inv { s with worker := w, output := out } := by
  refine ⟨h.numbered, h.next, h.retained, hout, h.pointed, hok, ?_⟩
  intro i a ha hka
  show Served _ _ _ (w.owed i) a
  rw [howed]
  exact h.serves i a ha hka

theorem Inv.work (o : Outcome) : Inv (s.work o) := by
  have hout := h.output
  rw [State.work]
  split
  · exact h
  next content hworker =>
    rw [hworker] at hout
    split
    · refine h.setWorker ?_ trivial (fun i => by rw [hworker]; rfl)
      rw [← hout, List.length_append, show (Worker.writing content).rest = content from rfl,
        Nat.add_sub_cancel, List.take_left]
      exact List.append_nil _
    · refine h.setWorker ?_ trivial (fun i => by rw [hworker]; rfl)
      rw [← hout]
      exact congrArg₂ _ rfl (List.take_append_drop _ _)
  next payload rest hworker => exact h.retain hworker
  next i frame rest hworker =>
    split
    · exact h
    next a ha =>
    split
    · exact h
    next hlocked =>
    obtain ⟨hcall, -⟩ := locked_eq_false (Bool.not_eq_true _ ▸ hlocked)
    split
    next hdetached => exact h.resume hworker ha hdetached
    next hdetached =>
    have hok := h.worker
    rw [WorkerOk, hworker] at hok
    obtain ⟨b, hb, hkind⟩ := hok
    rw [ha] at hb
    cases hb
    rw [hworker] at hout
    exact h.setWorker hout ⟨a, ha, hkind, Bool.not_eq_true _ ▸ hdetached, hcall⟩
      (fun i => by rw [hworker]; rfl)
  next i frame rest hworker =>
    split
    · exact h
    next a ha => exact h.sendFrame hworker ha o
  next i rest hworker => exact h.drop hworker

theorem Inv.step (act : Action) : Inv (PtyReplay.next s act) := by
  cases act with
  | emit content =>
    rw [PtyReplay.next]
    split
    next hidle =>
      have hout := h.output
      rw [hidle.1] at hout
      refine h.setWorker ?_ trivial (fun i => by rw [hidle.1]; rfl)
      rw [← hout]
      simp [Worker.rest]
    · exact h
  | finish t =>
    rw [PtyReplay.next]
    split
    next hidle =>
      have hout := h.output
      rw [hidle.1] at hout
      refine ⟨h.numbered, h.next, h.retained, hout, h.pointed, trivial, ?_⟩
      intro i a ha hka
      have hserved := h.serves i a ha hka
      rw [hidle.1] at hserved
      exact hserved
    · exact h
  | work o => exact h.work o
  | input => exact ⟨h.numbered, h.next, h.retained, h.output, h.pointed, h.worker, h.serves⟩
  | attach stream reconnectId afterSequence window =>
    exact h.attach stream reconnectId afterSequence window
  | answer i o =>
    rw [PtyReplay.next]
    split
    · exact h
    next a ha => exact h.answer ha o
  | detach reconnectId =>
    rw [PtyReplay.next]
    split
    · exact h
    · exact h.detachWhere _
  | lose stream => exact h.detachWhere _
  | forget =>
    rw [PtyReplay.next]
    split
    · exact ⟨h.numbered, h.next, h.retained, h.output, h.pointed, h.worker, h.serves⟩
    · exact h

end

/-! ## Every run -/

/-- An operation that has produced nothing yet. -/
structure Opened (op : ExecOperation) : Prop where
  pty : op.pty = true
  nextOutgoing : op.nextOutgoing = 1
  ptyReplay : op.ptyReplay = []

variable {op : ExecOperation}

/-- The Open of a PTY records such an operation. -/
theorem opened_of_handleExecFrame {config : Config} {enabled : Features} {s : Service}
    {stream : Stream} {frame : ExecFrame} {identity : Identity}
    (hidentity : validateRunnerDataPlaneFrameIdentity frame = some identity)
    (hnew : s.execOperations.get (runnerDataPlaneOperationKey identity) = none)
    (hop : (handleExecFrame config enabled s stream frame).service.execOperations.get
      (runnerDataPlaneOperationKey identity) = some op) (hpty : op.pty = true) : Opened op := by
  have hnot : s.execOperations.get (runnerDataPlaneOperationKey identity) ≠ some op := by
    rw [hnew]
    simp
  rw [handleExecFrame] at hop
  split at hop
  · exact absurd hop hnot
  rw [hidentity] at hop
  dsimp only at hop
  rw [hnew] at hop
  dsimp only at hop
  split at hop
  · split at hop
    · exact absurd hop hnot
    split at hop
    · exact absurd hop hnot
    rw [show (s.putExec _ _).execOperations = s.execOperations.put _ _ from rfl,
      Once.Registry.get_put_self] at hop
    cases hop
    exact ⟨hpty, rfl, rfl⟩
  · exact absurd hop hnot

theorem Inv.start (h : Opened op) : Inv (start op) := by
  refine ⟨fun i frame hframe => ?_, h.nextOutgoing,
    ⟨0, h.ptyReplay, le_rfl, fun hne => absurd rfl hne⟩, rfl, ?_, trivial, ?_⟩
  · cases hframe
  · intro i hi
    cases hi
  · intro i a ha
    cases ha

theorem inv_after (h : Opened op) (run : List Action) : Inv (after next (start op) run) :=
  History.after_invariant (fun _ act hs => hs.step act) (Inv.start h) run

/-- An attach that neither names another window nor leaves out a field. -/
structure Complete (s : State) (reconnectId : String) (afterSequence : Int) (window : ℕ) :
    Prop where
  known : s.known = true
  pty : s.op.pty = true
  window_eq : s.op.ptyWindowBytes = 0 ∨ s.op.ptyWindowBytes = window
  reconnectId_ne : reconnectId ≠ ""
  after_ge : -1 ≤ afterSequence
  window_ne : window ≠ 0

/-- The frame after `afterSequence` was produced and is not retained any more. -/
def Evicted (s : State) (afterSequence : Int) : Prop :=
  ∃ frame ∈ s.produced, (frame.sequence : Int) = afterSequence + 2 ∧ frame ∉ s.op.ptyReplay

variable {afterSequence : Int}

theorem Inv.replayEvicted_iff {s : State} (h : Inv s) (hafter : -1 ≤ afterSequence) :
    s.op.replayEvicted afterSequence = true ↔ Evicted s afterSequence := by
  obtain ⟨k, hk, hle, hlt⟩ := h.retained
  constructor
  · intro hevicted
    rw [ExecOperation.replayEvicted] at hevicted
    split at hevicted
    next oldest rest hreplay =>
      have holdest : oldest.sequence = k + 1 :=
        (h.numbered.drop k) 0 oldest (by rw [← hk, hreplay]; rfl)
      have hless := of_decide_eq_true hevicted
      obtain ⟨n, hn⟩ : ∃ n : ℕ, afterSequence + 1 = n := ⟨(afterSequence + 1).toNat, by omega⟩
      have hnk : n < k := by omega
      have hget : s.produced[n]? = some (s.produced[n]) := List.getElem?_eq_getElem (by omega)
      have hseq := h.numbered n _ hget
      refine ⟨s.produced[n], List.getElem_mem _, by omega, fun hin => ?_⟩
      rw [hk] at hin
      obtain ⟨m, hm⟩ := List.mem_iff_getElem?.1 hin
      have := (h.numbered.drop k) m _ hm
      omega
    · cases hevicted
  · rintro ⟨frame, hframe, hseq, hnot⟩
    obtain ⟨n, hn⟩ := List.mem_iff_getElem?.1 hframe
    have hn1 := h.numbered n frame hn
    have hnk : n < k := by
      by_contra hge
      refine hnot ?_
      rw [hk, List.mem_iff_getElem?]
      refine ⟨n - k, ?_⟩
      rw [List.getElem?_drop, ← hn]
      congr 1
      omega
    have hkl := hlt (List.ne_nil_of_mem hframe)
    have hdrop : s.produced.drop k = s.produced[k] :: s.produced.drop (k + 1) :=
      List.drop_eq_getElem_cons hkl
    have hk1 := h.numbered k _ (List.getElem?_eq_getElem hkl)
    rw [ExecOperation.replayEvicted, hk, hdrop]
    exact decide_eq_true (by omega)

theorem Complete.attachKind_eq {s : State} (h : Complete s reconnectId afterSequence window) :
    s.op.attachKind false reconnectId afterSequence window = .ok .replayEvicted ↔
      s.op.replayEvicted afterSequence = true := by
  have hwindow : (!s.op.pty || (s.op.ptyWindowBytes != 0 && s.op.ptyWindowBytes != window)) =
      false := by
    rcases h.window_eq with hzero | heq
    · simp [h.pty, hzero]
    · simp [h.pty, heq]
  have hcomplete : ¬(reconnectId = "" ∨ afterSequence < -1 ∨ window = 0) := by
    rintro (hid | hlow | hzero)
    · exact h.reconnectId_ne hid
    · have := h.after_ge
      omega
    · exact h.window_ne hzero
  rw [ExecOperation.attachKind, hwindow, if_neg Bool.false_ne_true, if_neg hcomplete,
    if_neg Bool.false_ne_true]
  split
  next hevicted => simp [hevicted]
  next hkept =>
    refine ⟨fun hanswer => ?_, fun hevicted => absurd hevicted hkept⟩
    split at hanswer <;> cases hanswer

/-- The attach call `a` has nothing to do but to answer with `kind`. -/
def Attachment.Answers (a : Attachment) (kind : PtyAttachResultKind) : Prop :=
  a.kind = kind ∧ a.call = .sending [a.result] ∧ ∃ detail afterSequence nextInput,
    a.result.payload = .attachResult kind detail afterSequence nextInput

/-- An attach that could only be refused for eviction is refused for eviction. -/
theorem Inv.attach_evicted {s : State} (h : Inv s) {stream : Stream}
    (hcomplete : Complete s reconnectId afterSequence window) (hcurrent : s.current = none) :
    Evicted s afterSequence ↔
      ∃ a, (PtyReplay.next s (.attach stream reconnectId afterSequence window)).attachments =
      s.attachments ++ [a] ∧ a.Answers .replayEvicted := by
  rw [← h.replayEvicted_iff hcomplete.after_ge, ← hcomplete.attachKind_eq]
  show _ ↔ ∃ a, (s.attach stream reconnectId afterSequence window).attachments = _ ∧ _
  rw [State.attach, hcomplete.known, if_neg (by simp), hcurrent]
  constructor
  · intro hkind
    rw [show (none : Option ℕ).isSome = false from rfl, hkind]
    exact ⟨_, rfl, rfl, rfl, _, _, _, rfl⟩
  · rintro ⟨a, ha, hanswers⟩
    cases hkind : s.op.attachKind false reconnectId afterSequence window with
    | error e =>
      rw [show (none : Option ℕ).isSome = false from rfl, hkind] at ha
      have hlength := congrArg List.length ha
      simp at hlength
    | ok kind =>
      rw [show (none : Option ℕ).isSome = false from rfl, hkind] at ha
      dsimp only at ha
      split at ha
      next hattached =>
        have ha := List.append_cancel_left ha
        cases ha
        rw [hattached] at hanswers
        cases hanswers.1
      · have ha := List.append_cancel_left ha
        cases ha
        rw [← hanswers.1]

/-- In every interleaving, the frames that go out through an accepted attachment
    are, after the answer, the frames produced from `AfterSequence + 2` on, each
    once and in order; as long as the attachment is not detached and its stream
    has not failed, what is missing is on its way.  The frames produced carry
    consecutive sequences and, in order, the bytes of the backend.  The replay is
    a suffix of them, and an attach whose first frame has left it is answered so.
    Only one attachment can be in use. -/
theorem pty_replay (op : ExecOperation) (hop : Opened op) (run : List Action) :
    let s := after next (start op) run
    (∀ (i : ℕ) a, s.attachments[i]? = some a → a.kind = .attached →
      a.sent <+: a.due s.produced ∧
      (∀ (k : ℕ) frame, a.sent[k + 1]? = some frame →
        (frame.sequence : Int) = a.afterSequence + 2 + k ∧ frame ∈ s.produced) ∧
      (a.detached = false → a.stream ∉ s.broken →
        s.current = some i ∧ a.sent ++ a.todo ++ s.worker.owed i = a.due s.produced)) ∧
    Numbered 0 s.produced ∧
    s.produced.flatMap (fun frame => PtyPayload.bytes frame.payload) ++ s.worker.rest = s.output ∧
    s.op.ptyReplay <:+ s.produced ∧
    (∀ stream reconnectId afterSequence window, Complete s reconnectId afterSequence window →
      s.current = none →
      (Evicted s afterSequence ↔ ∃ a, (next s (.attach stream reconnectId afterSequence window)).attachments =
        s.attachments ++ [a] ∧ a.Answers .replayEvicted)) ∧
    ∀ (i j : ℕ) a b, s.attachments[i]? = some a → s.attachments[j]? = some b → a.kind = .attached →
      b.kind = .attached →
      a.detached = false → b.detached = false → a.stream ∉ s.broken →
        b.stream ∉ s.broken → i = j := by
  intro s
  have h : Inv s := inv_after hop run
  refine ⟨?_, h.numbered, h.output, ?_, ?_, ?_⟩
  · intro i a ha hka
    have hserved := h.serves i a ha hka
    refine ⟨hserved.sent, ?_, hserved.live⟩
    intro k frame hframe
    have hdue : (a.due s.produced)[k + 1]? = some frame := by
      obtain ⟨t, ht⟩ := hserved.sent
      rw [← ht, List.getElem?_append_left (List.getElem?_eq_some_iff.1 hframe).1, hframe]
    rw [Attachment.due, List.getElem?_cons_succ, List.getElem?_drop] at hdue
    have hseq := h.numbered _ frame hdue
    have hge := hserved.after_ge
    exact ⟨by omega, List.mem_of_getElem? hdue⟩
  · obtain ⟨k, hk, -⟩ := h.retained
    rw [hk]
    exact List.drop_suffix k _
  · intro stream reconnectId afterSequence window hcomplete hcurrent
    exact h.attach_evicted hcomplete hcurrent
  · intro i j a b ha hb hka hkb hda hdb hsa hsb
    obtain ⟨hi, -⟩ := (h.serves i a ha hka).live hda hsa
    obtain ⟨hj, -⟩ := (h.serves j b hb hkb).live hdb hsb
    exact Option.some.inj (hi.symm.trans hj)

/-- A PTY whose worker has just been started. -/
def Sample.ptyOperation : ExecOperation where
  identity := ⟨⟨"assignment", "sandbox", "instance", 1, [7]⟩, "pty", "stream"⟩
  correlation := none
  stream := .control 0
  nextIncoming := 2
  lastIncoming := none
  nextOutgoing := 1
  pty := true
  stage := .running true

/-- Output is detached from while its second frame waits for the attachment; that frame evicts the
    first, is replayed to the next attachment, and the terminal follows. -/
def Sample.reattach : List Action :=
  [ .attach (.control 0) "a" (-1) 2, .answer 0 .sent, .answer 0 .sent,
    .emit [1, 2, 3], .work .sent, .work .sent, .work .sent, .work .sent, .work .sent, .work .sent,
    .detach "a", .work .sent,
    .attach (.control 1) "b" (-1) 2, .answer 1 .sent,
    .attach (.control 1) "b" 0 2, .answer 2 .sent, .answer 2 .sent, .answer 2 .sent,
    .finish { kind := .exited, exitCode := 0 }, .work .sent, .work .sent, .work .sent ]

theorem pty_replay_reattach :
    (after next (start Sample.ptyOperation) Sample.reattach).attachments.map
        (fun a => (a.kind, a.sent.map (·.sequence))) =
      [(.attached, [1, 1]), (.replayEvicted, [1]), (.attached, [2, 2, 3])] ∧
    (after next (start Sample.ptyOperation) Sample.reattach).op.ptyReplay <:+
      (after next (start Sample.ptyOperation) Sample.reattach).produced :=
  ⟨by decide +kernel, (pty_replay Sample.ptyOperation ⟨rfl, rfl, rfl⟩ Sample.reattach).2.2.2.1⟩

end SecondBox.Runner.PtyReplay

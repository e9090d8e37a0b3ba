/-
  Flow control and integrity of a Workspace relocation.

  Credit is conserved: what the source has, what is under way to it and the bytes
  under way to the target never exceed the window, which the target grants once,
  for the Open.  The frames of an export are the image cut into pieces; whatever
  the target has handled, its import has been given the bytes of the frames up to
  the last sequence it took.
-/
import SecondBox.Runner.Relocation

namespace SecondBox.Runner.Relocation

open History (after)

/-! ## What frames carry -/

/-- The data of a chunk. -/
def chunkBytes : WorkspaceTransferPayload → Bytes
  | .chunk _ data => data
  | _ => []

/-- The data of frames. -/
def dataOf (frames : List WorkspaceTransferFrame) : Bytes :=
  frames.flatMap fun f => chunkBytes f.payload

theorem dataOf_append (frames frames' : List WorkspaceTransferFrame) :
    dataOf (frames ++ frames') = dataOf frames ++ dataOf frames' :=
  List.flatMap_append

@[simp] theorem dataOf_singleton (f : WorkspaceTransferFrame) : dataOf [f] = chunkBytes f.payload :=
  List.flatMap_singleton ..

/-- The credit or the bytes in a frame. -/
def weight : WorkspaceTransferPayload → ℕ
  | .chunk _ data => data.length
  | .credit byteCount => byteCount
  | _ => 0

/-- The credit frames use. -/
def load : List WorkspaceTransferFrame → ℕ
  | [] => 0
  | f :: frames => weight f.payload + load frames

theorem load_append (frames frames' : List WorkspaceTransferFrame) :
    load (frames ++ frames') = load frames + load frames' := by
  induction frames with
  | nil => simp [load]
  | cons f frames ih =>
    rw [List.cons_append, load, load, ih]
    omega

theorem load_drop_le (frames : List WorkspaceTransferFrame) (n : ℕ) :
    load (frames.drop n) ≤ load frames := by
  have h := load_append (frames.take n) (frames.drop n)
  rw [List.take_append_drop] at h
  omega

/-- Source credit, credit under way and bytes under way. -/
def State.total (s : State) : ℕ :=
  s.source.credit + s.source.taken.getD 0 + load s.toSource + load s.toTarget

/-! ## The frames of an export -/

variable (digests : Digests) (e : Export)

/-- What the frame number `k` of an export may be, after frames with the bytes `before`. -/
def Shaped (before : Bytes) (k : ℕ) : WorkspaceTransferPayload → Prop
  | .opens capacity _ => k = 0 ∧ capacity = e.image.length
  | .chunk offset data =>
    data ≠ [] ∧ data.length ≤ workspaceRelocationChunkBytes ∧ offset = before.length
  | .commit size checksum =>
    before = e.image ∧ size = e.image.length ∧ checksum = digests.sha256 e.image
  | .result terminal .. => terminal ≠ .succeeded
  | _ => False

/-- What the source has sent so far. -/
structure Sent (sent : List WorkspaceTransferFrame) (source : Source) : Prop where
  sequence : source.sequence = sent.length
  numbered : ∀ k f, sent[k]? = some f → f.sequence = k + 1
  shaped : ∀ k f, sent[k]? = some f → Shaped digests e (dataOf (sent.take k)) k f.payload
  offset_le : source.offset ≤ e.image.length
  data : dataOf sent = e.image.take source.offset
  hashed : source.hashed = e.image.take source.offset

variable {digests e}

variable {sent : List WorkspaceTransferFrame} {payload : WorkspaceTransferPayload}

theorem Sent.push {source source' : Source} (h : Sent digests e sent source)
    (hshaped : Shaped digests e (dataOf sent) sent.length payload)
    (hsequence : source'.sequence = source.sequence + 1) (hoffset : source'.offset ≤ e.image.length)
    (hdata : e.image.take source.offset ++ chunkBytes payload = e.image.take source'.offset)
    (hhashed : source'.hashed = e.image.take source'.offset) :
    Sent digests e (sent ++ [frame e (source.sequence + 1) payload]) source' := by
  have hnew : ∀ k f, (sent ++ [frame e (source.sequence + 1) payload])[k]? = some f →
      sent[k]? = some f ∧ k < sent.length ∨ k = sent.length ∧
      f = frame e (source.sequence + 1) payload := by
    intro k f hf
    rw [List.getElem?_append] at hf
    split at hf
    next hk => exact .inl ⟨hf, hk⟩
    next hk =>
    rw [List.getElem?_singleton] at hf
    split at hf
    · cases hf
      exact .inr ⟨by omega, rfl⟩
    · cases hf
  refine ⟨?_, ?_, ?_, hoffset, ?_, hhashed⟩
  · rw [hsequence, h.sequence, List.length_append, List.length_singleton]
  · intro k f hf
    rcases hnew k f hf with ⟨hf, -⟩ | ⟨rfl, rfl⟩
    · exact h.numbered k f hf
    · exact congrArg (· + 1) h.sequence
  · intro k f hf
    rcases hnew k f hf with ⟨hf, hk⟩ | ⟨rfl, rfl⟩
    · rw [List.take_append_of_le_length (Nat.le_of_lt hk)]
      exact h.shaped k f hf
    · rw [List.take_append_of_le_length (Nat.le_refl _), List.take_length]
      exact hshaped
  · rw [dataOf_append, h.data, dataOf_singleton]
    exact hdata

theorem Sent.push_plain {source : Source} (h : Sent digests e sent source)
    (hshaped : Shaped digests e (dataOf sent) sent.length payload)
    (hplain : chunkBytes payload = []) (stage : Stage) :
    Sent digests e (sent ++ [frame e (source.sequence + 1) payload])
      { source with sequence := source.sequence + 1, stage } :=
  h.push hshaped rfl h.offset_le (by rw [hplain, List.append_nil]) h.hashed

/-! ## The invariant -/

variable (digests e)

/-- The image of the export as the target publishes it. -/
def imported : ImportedImage := ⟨e.image, e.image.length, digests.sha256 e.image⟩

/-- The target has handled, or lost, the first `n` frames of the export. -/
structure InvAt (s : State) (n : ℕ) : Prop where
  closed : s.source.stage = .closed → s.source = {} ∧ s.sent = []
  sent : Sent digests e s.sent s.source
  taken_le : ∀ credit, s.source.taken = some credit → credit ≤ workspaceRelocationChunkBytes
  handled_le : n ≤ s.sent.length
  toTarget : s.toTarget = s.sent.drop n
  target : ∀ t, s.target = some t → 1 ≤ t.inboundSequence ∧ t.inboundSequence ≤ n ∧
    t.importer.Holds (dataOf (s.sent.take t.inboundSequence))
  /-- no credit before the Open is handled -/
  before : n = 0 → s.total = 0
  total_le : s.total ≤ workspaceRelocationWindowBytes
  store : ∀ image, s.store = some image → image = imported digests e
  reports : ∀ f ∈ s.reports, ∀ size checksum detail,
    f.payload = .result .succeeded size checksum detail →
    s.store = some (imported digests e) ∧ size = e.image.length ∧ checksum = digests.sha256 e.image

/-- The invariant of the runs. -/
def Inv (s : State) : Prop := ∃ n, InvAt digests e s n

variable {digests e}

section
variable {s : State} {n : ℕ}

/-! ## Steps of the source -/

variable (h : InvAt digests e s n)
include h

/-- The source sends a frame whose weight it has taken. -/
theorem InvAt.send {source' : Source}
    (hsent : Sent digests e (s.sent ++ [frame e (s.source.sequence + 1) payload]) source')
    (hstage : source'.stage ≠ .closed) (htaken : source'.taken = none)
    (hweight : source'.credit + weight payload ≤ s.source.credit + s.source.taken.getD 0) :
    InvAt digests e
      { s with
        source := source'
        toTarget := s.toTarget ++ [frame e (s.source.sequence + 1) payload]
        sent := s.sent ++ [frame e (s.source.sequence + 1) payload] } n := by
  have htotal : source'.credit + source'.taken.getD 0 + load s.toSource +
      load (s.toTarget ++ [frame e (s.source.sequence + 1) payload]) ≤ s.total := by
    rw [load_append, State.total, htaken]
    show source'.credit + 0 + load s.toSource + (load s.toTarget + (weight payload + 0)) ≤ _
    omega
  refine ⟨fun hclosed => absurd hclosed hstage, hsent, ?_, ?_, ?_, ?_, ?_, htotal.trans h.total_le,
    h.store, h.reports⟩
  · intro credit hcredit
    rw [show source'.taken = some credit from hcredit] at htaken
    cases htaken
  · rw [List.length_append]
    exact h.handled_le.trans (Nat.le_add_right _ _)
  · rw [List.drop_append_of_le_length h.handled_le, h.toTarget]
  · intro t ht
    obtain ⟨hpos, hle, hholds⟩ := h.target t ht
    rw [List.take_append_of_le_length (hle.trans h.handled_le)]
    exact ⟨hpos, hle, hholds⟩
  · intro hn
    exact Nat.le_zero.1 (htotal.trans (h.before hn).le)

theorem InvAt.sendFailure (htaken : s.source.taken = none) (detail : String) :
    InvAt digests e (s.sendFailure e detail) n := by
  refine h.send (h.sent.push_plain ?_ rfl .ended) (by simp) htaken ?_
  · exact fun hkind => WorkspaceTransferTerminalKind.noConfusion hkind
  · show s.source.credit + 0 ≤ _
    omega

theorem InvAt.start : InvAt digests e (s.start e) n := by
  rw [State.start]
  split
  · exact h
  next hopen =>
  have hclosed : s.source.stage = .closed := by
    by_contra hne
    exact hopen (.inl hne)
  obtain ⟨hsource, hsent⟩ := h.closed hclosed
  have htaken : s.source.taken = none := by rw [hsource]
  split
  · exact h.sendFailure htaken _
  next hlength =>
  refine h.send (h.sent.push_plain ?_ rfl .sending) (by simp) htaken ?_
  · refine ⟨?_, (not_not.1 hlength).symm⟩
    rw [hsent]
    rfl
  · show s.source.credit + 0 ≤ _
    omega

theorem InvAt.takeCredit : InvAt digests e (s.takeCredit e) n := by
  rw [State.takeCredit]
  split
  next hready =>
    obtain ⟨hstage, htaken, -, -⟩ := hready
    have htotal : s.source.credit - min s.source.credit workspaceRelocationChunkBytes +
        min s.source.credit workspaceRelocationChunkBytes + load s.toSource +
        load s.toTarget = s.total := by
      rw [State.total, htaken]
      show _ = s.source.credit + 0 + load s.toSource + load s.toTarget
      omega
    refine ⟨?_, ⟨h.sent.sequence, h.sent.numbered, h.sent.shaped, h.sent.offset_le, h.sent.data,
      h.sent.hashed⟩, ?_, h.handled_le, h.toTarget, h.target, fun hn => htotal.trans (h.before hn),
      htotal.trans_le h.total_le, h.store, h.reports⟩
    · intro hclosed
      rw [show s.source.stage = .closed from hclosed] at hstage
      cases hstage
    · intro credit hcredit
      cases hcredit
      exact Nat.min_le_right _ _
  · exact h

omit h in
theorem ReadResult.bytes_le (r : ReadResult) (limit : ℕ) : r.bytes limit ≤ limit := by
  cases r with
  | full => exact Nat.le_refl _
  | endOfFile bytes => exact Nat.min_le_right _ _
  | failed bytes => exact Nat.min_le_right _ _

theorem InvAt.chunk {credit read : ℕ} (htaken : s.source.taken = some credit)
    (hread : read ≤ min credit (e.image.length - s.source.offset)) (hpos : 0 < read)
    (hstage : s.source.stage ≠ .closed) :
    InvAt digests e
      { s with
        source := { s.source with
          taken := none, sequence := s.source.sequence + 1, offset := s.source.offset + read
          hashed := s.source.hashed ++ (e.image.drop s.source.offset).take read }
        toTarget := s.toTarget ++
          [frame e (s.source.sequence + 1) (.chunk s.source.offset ((e.image.drop s.source.offset).take read))]
        sent := s.sent ++
          [frame e (s.source.sequence + 1)
            (.chunk s.source.offset ((e.image.drop s.source.offset).take read))] } n := by
  have hoffset := h.sent.offset_le
  have hcredit := h.taken_le credit htaken
  have hlength : ((e.image.drop s.source.offset).take read).length = read := by
    rw [List.length_take, List.length_drop]
    omega
  have htake : e.image.take s.source.offset ++ (e.image.drop s.source.offset).take read =
      e.image.take (s.source.offset + read) := List.take_add.symm
  refine h.send (h.sent.push ?_ rfl ?_ htake ?_) hstage rfl ?_
  · refine ⟨?_, ?_, ?_⟩
    · intro hnil
      rw [hnil] at hlength
      exact absurd hlength (by simp; omega)
    · rw [hlength]
      omega
    · rw [h.sent.data, List.length_take]
      omega
  · show s.source.offset + read ≤ e.image.length
    omega
  · show s.source.hashed ++ _ = _
    rw [h.sent.hashed, htake]
  · show s.source.credit + ((e.image.drop s.source.offset).take read).length ≤ _
    rw [hlength, htaken]
    show _ ≤ s.source.credit + credit
    omega

theorem InvAt.forfeit (hstage : s.source.stage ≠ .closed) :
    InvAt digests e { s with source := { s.source with taken := none } } n := by
  have htotal : s.source.credit + 0 + load s.toSource + load s.toTarget ≤ s.total := by
    rw [State.total]
    omega
  refine ⟨fun hclosed => absurd hclosed hstage,
    ⟨h.sent.sequence, h.sent.numbered, h.sent.shaped, h.sent.offset_le, h.sent.data, h.sent.hashed⟩,
    ?_, h.handled_le, h.toTarget, h.target, fun hn => Nat.le_zero.1 (htotal.trans (h.before hn).le),
    htotal.trans h.total_le, h.store, h.reports⟩
  intro credit hcredit
  cases hcredit

theorem InvAt.sendChunk (r : ReadResult) : InvAt digests e (s.sendChunk e r) n := by
  rw [State.sendChunk]
  split
  · exact h
  next credit htaken =>
  have hstage : s.source.stage ≠ .closed := by
    intro hclosed
    obtain ⟨hsource, -⟩ := h.closed hclosed
    rw [hsource] at htaken
    cases htaken
  dsimp only
  have hle := r.bytes_le (min credit (e.image.length - s.source.offset))
  generalize r.bytes (min credit (e.image.length - s.source.offset)) = read at hle ⊢
  by_cases hpos : 0 < read
  · rw [if_pos hpos]
    have hchunk := h.chunk htaken hle hpos hstage
    cases r with
    | full =>
      dsimp only
      rw [if_neg (by omega)]
      exact hchunk
    | endOfFile bytes =>
      dsimp only
      rw [if_neg (by omega)]
      exact hchunk
    | failed bytes => exact hchunk.sendFailure rfl _
  · rw [if_neg hpos]
    have hforfeit := h.forfeit hstage
    cases r with
    | full =>
      dsimp only
      rw [if_pos (by omega)]
      exact hforfeit.sendFailure rfl _
    | endOfFile bytes =>
      dsimp only
      rw [if_pos (by omega)]
      exact hforfeit.sendFailure rfl _
    | failed bytes => exact hforfeit.sendFailure rfl _

theorem InvAt.commit : InvAt digests e (s.commit digests e) n := by
  rw [State.commit]
  split
  next hready =>
    obtain ⟨-, htaken, hend⟩ := hready
    have hoffset : s.source.offset = e.image.length := Nat.le_antisymm h.sent.offset_le hend
    have hall : e.image.take s.source.offset = e.image := by rw [hoffset, List.take_length]
    refine h.send (h.sent.push_plain ?_ rfl .waiting) (by simp) htaken ?_
    · refine ⟨?_, hoffset, ?_⟩
      · rw [h.sent.data, hall]
      · rw [h.sent.hashed, hall]
    · show s.source.credit + 0 ≤ _
      omega
  · exact h

theorem InvAt.receiveAtSource : InvAt digests e s.receiveAtSource n := by
  rw [State.receiveAtSource]
  split
  · exact h
  next f rest htoSource =>
  have hload : load s.toSource = weight f.payload + load rest := by rw [htoSource, load]
  -- the frame is gone; what it carries may join the credit
  have hmove : ∀ source' : Source, source'.stage = s.source.stage → source'.taken = s.source.taken →
      source'.credit ≤ s.source.credit + weight f.payload → source'.sequence = s.source.sequence →
      source'.offset = s.source.offset → source'.hashed = s.source.hashed →
      (s.source.stage = .closed → source' = {}) →
      InvAt digests e { s with toSource := rest, source := source' } n := by
    intro source' hstage htaken hcredit hsequence hoffset hhashed hclosed
    have htotal : source'.credit + source'.taken.getD 0 + load rest +
        load s.toTarget ≤ s.total := by
      rw [State.total, htaken, hload]
      omega
    refine ⟨fun hc => ⟨hclosed (hstage ▸ hc), (h.closed (hstage ▸ hc)).2⟩, ?_,
      fun credit hc => h.taken_le credit (htaken ▸ hc), h.handled_le, h.toTarget, h.target,
      fun hn => Nat.le_zero.1 (htotal.trans (h.before hn).le), htotal.trans h.total_le,
      h.store, h.reports⟩
    exact ⟨hsequence.trans h.sent.sequence, h.sent.numbered, h.sent.shaped,
      hoffset ▸ h.sent.offset_le, hoffset ▸ h.sent.data, by
        rw [hhashed, hoffset]; exact h.sent.hashed⟩
  dsimp only
  split
  next hopen =>
    have hnot : s.source.stage ≠ .closed := by
      rintro hc
      rw [hc] at hopen
      rcases hopen with hopen | hopen <;> cases hopen
    split
    next byteCount hpayload =>
      refine hmove _ rfl rfl ?_ rfl rfl rfl fun hc => absurd hc hnot
      rw [hpayload]
      exact Nat.le_refl _
    · exact hmove _ rfl rfl (Nat.le_add_right _ _) rfl rfl rfl fun hc => absurd hc hnot
    · exact hmove _ rfl rfl (Nat.le_add_right _ _) rfl rfl rfl fun hc => absurd hc hnot
    · exact hmove s.source rfl rfl (Nat.le_add_right _ _) rfl rfl rfl fun hc => (h.closed hc).1
  · exact hmove s.source rfl rfl (Nat.le_add_right _ _) rfl rfl rfl fun hc => (h.closed hc).1

/-! ## Steps of the target -/

/-- What the target keeps between two frames. -/
def TargetOk (s : State) (n : ℕ) (target : Option Target) : Prop :=
  ∀ t, target = some t → 1 ≤ t.inboundSequence ∧ t.inboundSequence ≤ n ∧
    t.importer.Holds (dataOf (s.sent.take t.inboundSequence))

variable (digests e) in
/-- Every success reported is a published image. -/
def ReportsOk (store : Option ImportedImage) (reports : List WorkspaceTransferFrame) : Prop :=
  ∀ f ∈ reports, ∀ size checksum detail, f.payload = .result .succeeded size checksum detail →
    store = some (imported digests e) ∧ size = e.image.length ∧ checksum = digests.sha256 e.image

omit h in
theorem ReportsOk.append {store : Option ImportedImage} {reports : List WorkspaceTransferFrame}
    (h : ReportsOk digests e store reports) {f : WorkspaceTransferFrame}
    (hf : ∀ size checksum detail, f.payload = .result .succeeded size checksum detail →
      store = some (imported digests e) ∧ size = e.image.length ∧
        checksum = digests.sha256 e.image) :
    ReportsOk digests e store (reports ++ [f]) := by
  intro g hg
  rcases List.mem_append.1 hg with hg | hg
  · exact h g hg
  · rw [List.mem_singleton.1 hg]
    exact hf

section
variable {f : WorkspaceTransferFrame} {rest : List WorkspaceTransferFrame}

theorem InvAt.next_frame (hnext : s.toTarget = f :: rest) :
    n < s.sent.length ∧ s.sent[n]? = some f ∧ rest = s.sent.drop (n + 1) := by
  have hdrop : s.sent.drop n = f :: rest := h.toTarget.symm.trans hnext
  have hlt : n < s.sent.length := by
    by_contra hge
    rw [List.drop_eq_nil_of_le (Nat.not_lt.1 hge)] at hdrop
    cases hdrop
  rw [List.drop_eq_getElem_cons hlt] at hdrop
  obtain ⟨hf, hrest⟩ := List.cons.inj hdrop
  exact ⟨hlt, by rw [List.getElem?_eq_getElem hlt, hf], hrest.symm⟩

theorem InvAt.handled (hnext : s.toTarget = f :: rest) {target' : Option Target}
    {toSource' reports' : List WorkspaceTransferFrame} {store' : Option ImportedImage}
    (htarget : TargetOk s (n + 1) target')
    (htotal : s.source.credit + s.source.taken.getD 0 + load toSource' + load rest ≤ workspaceRelocationWindowBytes)
    (hstore : ∀ image, store' = some image → image = imported digests e)
    (hreports : ReportsOk digests e store' reports') :
    InvAt digests e
      { s with toTarget := rest, target := target', toSource := toSource', store := store', reports := reports' }
      (n + 1) := by
  obtain ⟨hlt, -, hrest⟩ := h.next_frame hnext
  exact ⟨h.closed, h.sent, h.taken_le, hlt, hrest, htarget,
    fun hn => absurd hn (Nat.succ_ne_zero n), htotal, hstore, hreports⟩

/-- The window, after the frame `f` has been handled and `g` sent back. -/
theorem InvAt.total_reply (hnext : s.toTarget = f :: rest) {g : WorkspaceTransferFrame}
    (hweight : weight g.payload ≤ weight f.payload) :
    s.source.credit + s.source.taken.getD 0 + load (s.toSource ++ [g]) + load rest ≤
      workspaceRelocationWindowBytes := by
  have htotal := h.total_le
  rw [State.total, hnext, load] at htotal
  rw [load_append]
  show _ + (load s.toSource + (weight g.payload + 0)) + load rest ≤ _
  omega

theorem InvAt.total_drop (hnext : s.toTarget = f :: rest) :
    s.source.credit + s.source.taken.getD 0 + load s.toSource + load rest ≤
      workspaceRelocationWindowBytes := by
  have htotal := h.total_le
  rw [State.total, hnext, load] at htotal
  omega

theorem InvAt.target_later : TargetOk s (n + 1) s.target := by
  intro t ht
  obtain ⟨hpos, hle, hholds⟩ := h.target t ht
  exact ⟨hpos, hle.trans (Nat.le_succ n), hholds⟩

omit h in
theorem targetOk_none : TargetOk s n none := by
  intro t ht
  cases ht

theorem InvAt.refuse (hnext : s.toTarget = f :: rest) :
    InvAt digests e { s with toTarget := rest } (n + 1) :=
  h.handled hnext h.target_later (h.total_drop hnext) h.store h.reports

theorem InvAt.failTarget (hnext : s.toTarget = f :: rest) (t : Target) (detail : String)
    (target' : Option Target) :
    InvAt digests e (State.failTarget { s with toTarget := rest, target := target' } t f detail)
      (n + 1) := by
  refine h.handled hnext targetOk_none (h.total_reply hnext (Nat.zero_le _)) h.store
    (ReportsOk.append h.reports ?_)
  intro size checksum detail' hpayload
  cases hpayload

/-- The Open grants the window, or repeats the result of an import that is published. -/
theorem InvAt.beginImport (hnext : s.toTarget = f :: rest) {capacity : ℕ} {token : Bytes}
    (hpayload : f.payload = .opens capacity token) (a : Answers) :
    InvAt digests e (State.beginImport { s with toTarget := rest } f capacity token a) (n + 1) := by
  obtain ⟨-, hget, hrest⟩ := h.next_frame hnext
  have hshaped := h.sent.shaped n f hget
  rw [hpayload] at hshaped
  obtain ⟨rfl, -⟩ := hshaped
  rw [State.beginImport]
  split
  · exact h.refuse hnext
  next hok =>
  have hone : f.sequence = 1 := by
    by_contra hne
    exact hok (.inl hne)
  dsimp only
  split
  · exact h.failTarget hnext _ _ none
  split
  next image hstore =>
    refine h.handled hnext targetOk_none (h.total_reply hnext (Nat.zero_le _)) h.store
      (ReportsOk.append h.reports ?_)
    intro size checksum detail hreport
    cases hreport
    have himage := h.store image hstore
    subst himage
    exact ⟨hstore, rfl, rfl⟩
  next hstore =>
    refine h.handled hnext ?_ ?_ h.store (ReportsOk.append h.reports ?_)
    · rintro t ht
      cases ht
      refine ⟨hone.ge, hone.le, ?_⟩
      have hfirst : s.sent.take 1 = [f] := by
        cases hsent : s.sent with
        | nil =>
          rw [hsent] at hget
          cases hget
        | cons g frames =>
          rw [hsent] at hget
          cases hget
          rfl
      show RelocationImport.Holds _ (dataOf (s.sent.take f.sequence))
      rw [hone, hfirst, dataOf_singleton, hpayload]
      exact RelocationImport.holds_start _ _
    · have hzero := h.before rfl
      rw [State.total, hnext, load] at hzero
      rw [load_append]
      show _ + (load s.toSource + (workspaceRelocationWindowBytes + 0)) + load rest ≤ _
      omega
    · intro size checksum detail hreport
      cases hreport

omit h in
theorem dataOf_take_succ (hget : sent[n]? = some f) :
    dataOf (sent.take (n + 1)) = dataOf (sent.take n) ++ chunkBytes f.payload := by
  rw [List.take_add_one, hget, dataOf_append]
  exact congrArg₂ _ rfl (dataOf_singleton f)

/-- A chunk in its turn is written and paid back. -/
theorem InvAt.handleChunk (hnext : s.toTarget = f :: rest) {t : Target}
    (ht : s.target = some t) (hturn : t.inboundSequence = n) {offset : ℕ} {data : Bytes}
    (hpayload : f.payload = .chunk offset data) {importer : RelocationImport} {fault : Bool}
    (hwrite : t.importer.writeChunk offset data fault = some importer) :
    InvAt digests e
      (State.sendCredit { s with toTarget := rest, target := some { t with inboundSequence := f.sequence } }
        { t with inboundSequence := f.sequence, importer } f data.length) (n + 1) := by
  obtain ⟨-, hget, -⟩ := h.next_frame hnext
  have hsequence := h.sent.numbered n f hget
  obtain ⟨-, -, hholds⟩ := h.target t ht
  rw [hturn] at hholds
  obtain ⟨hwritten, -⟩ := hholds.writeChunk hwrite
  refine h.handled hnext ?_ (h.total_reply hnext ?_) h.store (ReportsOk.append h.reports ?_)
  · rintro t' ht'
    cases ht'
    refine ⟨?_, hsequence.le, ?_⟩
    · show 1 ≤ f.sequence
      omega
    · show RelocationImport.Holds importer (dataOf (s.sent.take f.sequence))
      rw [hsequence, dataOf_take_succ hget, hpayload]
      exact hwritten
  · rw [hpayload]
    exact Nat.le_refl _
  · intro size checksum detail hreport
    cases hreport

/-- A Commit in its turn publishes the image. -/
theorem InvAt.handleCommit (hnext : s.toTarget = f :: rest) {t : Target}
    (ht : s.target = some t) (hturn : t.inboundSequence = n) {size : ℕ} {checksum : String}
    (hpayload : f.payload = .commit size checksum) {image : ImportedImage} {fault : Bool}
    (hcomplete : t.importer.complete digests.sha256 size checksum fault = some image) :
    image = imported digests e := by
  obtain ⟨-, hget, -⟩ := h.next_frame hnext
  obtain ⟨-, -, hholds⟩ := h.target t ht
  rw [hturn] at hholds
  obtain ⟨himage, -⟩ := hholds.complete hcomplete
  have hshaped := h.sent.shaped n f hget
  rw [hpayload] at hshaped
  obtain ⟨hbefore, -⟩ := hshaped
  rw [himage, hbefore, imported]

theorem InvAt.handleAtTarget (hnext : s.toTarget = f :: rest) (a : Answers) :
    InvAt digests e (State.handleAtTarget digests { s with toTarget := rest } f a) (n + 1) := by
  obtain ⟨-, hget, -⟩ := h.next_frame hnext
  have hsequence := h.sent.numbered n f hget
  rw [State.handleAtTarget]
  split
  · exact h.refuse hnext
  split
  next capacity token hpayload => exact h.beginImport hnext hpayload a
  next payload hnotOpen =>
  dsimp only
  split
  · exact h.refuse hnext
  next t ht =>
  split
  · exact h.refuse hnext
  next hmatch =>
  have hturn : t.inboundSequence = n := by
    have := not_not.1 hmatch
    omega
  -- the target has taken the frame's number, whatever becomes of the frame
  have htaken : chunkBytes f.payload = [] →
      TargetOk s (n + 1) (some { t with inboundSequence := f.sequence }) := by
    rintro hplain t' ht'
    cases ht'
    obtain ⟨-, -, hholds⟩ := h.target t ht
    refine ⟨by show 1 ≤ f.sequence; omega, hsequence.le, ?_⟩
    show RelocationImport.Holds t.importer (dataOf (s.sent.take f.sequence))
    rw [hsequence, dataOf_take_succ hget, hplain, List.append_nil]
    exact hturn ▸ hholds
  have hshaped := h.sent.shaped n f hget
  cases hpayload : f.payload with
  | chunk offset data =>
    rw [hpayload] at hshaped
    obtain ⟨hdata, hsize, -⟩ := hshaped
    dsimp only
    rw [if_neg (by rintro (hnil | hlong); exacts [hdata hnil, absurd hsize (Nat.not_le.2 hlong)])]
    split
    · exact h.failTarget hnext _ _ _
    next importer hwrite => exact h.handleChunk hnext ht hturn hpayload hwrite
  | commit size checksum =>
    have hkept := htaken (by rw [hpayload]; rfl)
    dsimp only
    split
    · exact h.handled hnext hkept (h.total_drop hnext) h.store h.reports
    split
    · exact h.failTarget hnext _ _ _
    next image hcomplete =>
    have himage := h.handleCommit hnext ht hturn hpayload hcomplete
    have hstore : ∀ image', some image = some image' → image' = imported digests e := by
      rintro image' heq
      cases heq
      exact himage
    have hreports : ReportsOk digests e (some image) s.reports := by
      intro g hg size' checksum' detail hreport
      obtain ⟨-, hrest⟩ := h.reports g hg size' checksum' detail hreport
      exact ⟨congrArg some himage, hrest⟩
    split
    · exact h.handled hnext hkept (h.total_drop hnext) hstore hreports
    · refine h.handled hnext targetOk_none (h.total_reply hnext (Nat.zero_le _)) hstore
        (hreports.append ?_)
      intro size' checksum' detail hreport
      cases hreport
      subst himage
      exact ⟨rfl, rfl, rfl⟩
  | result terminal size checksum detail =>
    exact h.handled hnext targetOk_none (h.total_drop hnext) h.store h.reports
  | cancel detail => exact h.handled hnext targetOk_none (h.total_drop hnext) h.store h.reports
  | opens capacity token => exact absurd hpayload (hnotOpen capacity token)
  | unset =>
    exact h.handled hnext (htaken (by rw [hpayload]; rfl)) (h.total_drop hnext) h.store h.reports
  | credit byteCount =>
    exact h.handled hnext (htaken (by rw [hpayload]; rfl)) (h.total_drop hnext) h.store h.reports

end

/-! ## Every run -/

theorem InvAt.receiveAtTarget (a : Answers) : Inv digests e (s.receiveAtTarget digests a) := by
  rw [State.receiveAtTarget]
  split
  · exact ⟨n, h⟩
  next f rest hnext => exact ⟨n + 1, h.handleAtTarget hnext a⟩

theorem InvAt.giveUp :
    InvAt digests e { s with source := { s.source with stage := .ended } } n := by
  refine ⟨fun hclosed => ?_, ⟨h.sent.sequence, h.sent.numbered, h.sent.shaped, h.sent.offset_le,
    h.sent.data, h.sent.hashed⟩, h.taken_le, h.handled_le, h.toTarget, h.target, h.before,
    h.total_le, h.store, h.reports⟩
  cases hclosed

theorem InvAt.targetLost (towards back : ℕ) :
    Inv digests e
      { s with target := none, toTarget := s.toTarget.drop towards, toSource := s.toSource.drop back } := by
  have htowards := load_drop_le s.toTarget towards
  have hback := load_drop_le s.toSource back
  have htotal : s.source.credit + s.source.taken.getD 0 + load (s.toSource.drop back) +
    load (s.toTarget.drop towards) ≤
      s.total := by
    rw [State.total]
    omega
  refine ⟨min (n + towards) s.sent.length, h.closed, h.sent, h.taken_le, Nat.min_le_right _ _, ?_,
    targetOk_none, ?_, htotal.trans h.total_le, h.store, h.reports⟩
  · show s.toTarget.drop towards = _
    rw [h.toTarget, List.drop_drop]
    by_cases hle : n + towards ≤ s.sent.length
    · rw [Nat.min_eq_left hle]
    · rw [Nat.min_eq_right (by omega), List.drop_length, List.drop_eq_nil_of_le (by omega)]
  · intro hzero
    refine Nat.le_zero.1 (htotal.trans (h.before ?_).le)
    have hle := h.handled_le
    omega

end

/-- New connections, with what the target has published before. -/
theorem inv_fresh {store : Option ImportedImage} {reports : List WorkspaceTransferFrame}
    (hstore : ∀ image, store = some image → image = imported digests e)
    (hreports : ReportsOk digests e store reports) :
    Inv digests e { store, reports } := by
  refine ⟨0, fun _ => ⟨rfl, rfl⟩, ⟨rfl, ?_, ?_, Nat.zero_le _, rfl, rfl⟩, ?_, Nat.zero_le _, rfl,
    targetOk_none, fun _ => rfl, Nat.zero_le _, hstore, hreports⟩
  · intro k f hf
    cases hf
  · intro k f hf
    cases hf
  · intro credit hcredit
    cases hcredit

theorem Inv.step {s : State} (h : Inv digests e s) (act : Action) :
    Inv digests e (next digests e s act) := by
  obtain ⟨n, h⟩ := h
  cases act with
  | start => exact ⟨n, h.start⟩
  | takeCredit => exact ⟨n, h.takeCredit⟩
  | sendChunk r => exact ⟨n, h.sendChunk r⟩
  | commit => exact ⟨n, h.commit⟩
  | giveUp =>
    rw [next]
    split
    · exact ⟨n, h.giveUp⟩
    · exact ⟨n, h⟩
  | receiveAtSource => exact ⟨n, h.receiveAtSource⟩
  | receiveAtTarget a => exact h.receiveAtTarget a
  | targetLost towards back => exact h.targetLost towards back
  | restart => exact inv_fresh h.store h.reports

variable (digests e)

/-- In every run: source credit, credit under way and bytes under way stay within
    the window; a chunk has at most `workspaceRelocationChunkBytes` bytes and the
    number of bytes sent before as its offset; and when the target has reported
    success, what it has published is the image of the source, and the size and
    the checksum reported are those of the image and those announced. -/
theorem relocation_transfer (run : List Action) :
    let s := after (next digests e) {} run
    s.source.credit + s.source.taken.getD 0 + load s.toSource + load s.toTarget ≤
    workspaceRelocationWindowBytes ∧
    (∀ (k : ℕ) f offset data, s.sent[k]? = some f → f.payload = .chunk offset data →
      data.length ≤ workspaceRelocationChunkBytes ∧ offset = (dataOf (s.sent.take k)).length) ∧
    ∀ f ∈ s.reports, ∀ size checksum detail, f.payload = .result .succeeded size checksum detail →
      (∃ image, s.store = some image ∧ image.content = e.image) ∧
      size = e.image.length ∧ checksum = digests.sha256 e.image ∧
      ∀ g ∈ s.sent, (∀ capacity token, g.payload = .opens capacity token → capacity = size) ∧
        ∀ size' checksum', g.payload = .commit size' checksum' → size' = size ∧
        checksum' = checksum := by
  intro s
  obtain ⟨n, h⟩ : Inv digests e s := by
    refine History.after_invariant (fun _ act hs => hs.step act) (inv_fresh ?_ ?_) run
    · intro image himage
      cases himage
    · intro f hf
      cases hf
  refine ⟨h.total_le, ?_, ?_⟩
  · intro k f offset data hf hpayload
    have hshaped := h.sent.shaped k f hf
    rw [hpayload] at hshaped
    exact hshaped.2
  · intro f hf size checksum detail hpayload
    obtain ⟨hstore, hsize, hchecksum⟩ := h.reports f hf size checksum detail hpayload
    refine ⟨⟨_, hstore, rfl⟩, hsize, hchecksum, fun g hg => ?_⟩
    obtain ⟨k, hk⟩ := List.mem_iff_getElem?.1 hg
    have hshaped := h.sent.shaped k g hk
    constructor
    · intro capacity token hopens
      rw [hopens] at hshaped
      rw [hshaped.2, hsize]
    · intro size' checksum' hcommit
      rw [hcommit] at hshaped
      rw [hsize, hchecksum]
      exact hshaped.2

/-- An image whose first byte is not written. -/
def Sample.export : Export := ⟨"operation", "sandbox", "workspace", 1, 2, [7], [0, 5]⟩

/-- A digest that is the content itself. -/
def Sample.spelled : Digests :=
  ⟨fun bytes => String.ofList (bytes.map fun b => Char.ofNat b.toNat), fun _ => true⟩

/-- An image of one chunk is moved. -/
def Sample.transfer : List Action :=
  [.start, .receiveAtTarget {}, .receiveAtSource, .takeCredit, .sendChunk .full,
    .receiveAtTarget {}, .commit, .receiveAtTarget {}]

theorem sample_transfer :
    (after (next Sample.spelled Sample.export) {} Sample.transfer).store =
      some ⟨[0, 5], 2, Sample.spelled.sha256 [0, 5]⟩ ∧
    (after (next Sample.spelled Sample.export) {} Sample.transfer).source.credit +
      (after (next Sample.spelled Sample.export) {} Sample.transfer).source.taken.getD 0 +
      load (after (next Sample.spelled Sample.export) {} Sample.transfer).toSource +
      load (after (next Sample.spelled Sample.export) {} Sample.transfer).toTarget ≤
        workspaceRelocationWindowBytes :=
  ⟨by decide +kernel, (relocation_transfer Sample.spelled Sample.export Sample.transfer).1⟩

end SecondBox.Runner.Relocation

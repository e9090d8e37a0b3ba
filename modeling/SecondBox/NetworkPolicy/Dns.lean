/-
  The Runner's DNS proxy: which queries it forwards and which responses it takes
  addresses from.

  A message is given as the DNS library parses it: the items of each section,
  and whether the section ends after them or cannot be parsed further.
-/
import SecondBox.Base.Check
import SecondBox.Base.Netip
import SecondBox.Base.Table
import Mathlib.Data.List.Chain

namespace SecondBox.NetworkPolicy

open Netip Relational Check

/-- A record type. -/
inductive RRType
  | a
  | aaaa
  | other (code : ℕ)
deriving DecidableEq

/-- A record class. -/
inductive RRClass
  | inet
  | other (code : ℕ)
deriving DecidableEq

/-- A question section entry. -/
structure Question where
  name : String
  type : RRType
  cls : RRClass
deriving DecidableEq

/-- A record's data, by type. -/
inductive Body
  | cname (target : String)
  | a (bits : BitVec 32)
  | aaaa (bits : BitVec 128)
  | opt
  | other
deriving DecidableEq

/-- A resource record. -/
structure Resource where
  name : String
  cls : RRClass
  ttl : ℕ
  body : Body

/-- The header fields that are checked. -/
structure Header where
  id : ℕ
  response : Bool
  rcode : ℕ

/-- The entries a parser reads, and whether it gets to the section's end. -/
structure Section (α : Type) where
  items : List α
  ends : Bool
deriving DecidableEq

/-- The next read of the section finds its end. -/
def Section.isDone {α : Type} (s : Section α) : Bool := s.items.isEmpty && s.ends

/-- Exactly one item, then the end. -/
def Section.isSingle {α : Type} (s : Section α) : Bool := s.items.length == 1 && s.ends

/-- A message as the parser sees it; no header if it does not parse. -/
structure Message where
  size : ℕ
  header : Option Header
  questions : Section Question
  answers : Section Resource
  authorities : Section Resource
  additionals : Section Resource

/-- The question `validateDNSQuery` accepts. -/
structure ValidatedQuestion where
  header : Header
  question : Question

/-- The errors, one for each text. -/
inductive DNSError
  | querySize
  | queryHeader
  | queryQuestion
  | queryType
  | queryQuestions
  | queryAnswers
  | queryAuthorities
  | queryAdditionalType
  | queryAdditional
  | responseSize
  | responseHeader
  | responseQuestion
  | responseQuestions
  | answer
  | conflictingCNAME
  | nameErrorAnswers
  | loop
  | addressTTL
  | noAddress
  | cnameTTL
  | chainLength
deriving DecidableEq

/-- The longest message, in bytes. -/
def runnerDNSMaximumMessageBytes : ℕ := 4096

/-- The longest chain of aliases. -/
def runnerDNSMaximumCNAMEDepth : ℕ := 8

/-- NOERROR. -/
def rcodeSuccess : ℕ := 0

/-- NXDOMAIN. -/
def rcodeNameError : ℕ := 3

/-- `time.Second`. -/
def second : ℕ := 1000000000

/-- `validateDNSQuery`: one address question and at most an OPT record. -/
def validateDNSQuery (message : Message) : Except DNSError ValidatedQuestion := do
  require (12 ≤ message.size ∧ message.size ≤ runnerDNSMaximumMessageBytes) .querySize
  let header ← expect message.header .queryHeader
  require (!header.response) .queryHeader
  let question ← expect message.questions.items.head? .queryQuestion
  require (question.cls = .inet ∧ (question.type = .a ∨ question.type = .aaaa)) .queryType
  require message.questions.isSingle .queryQuestions
  require message.answers.isDone .queryAnswers
  require message.authorities.isDone .queryAuthorities
  require (message.additionals.items.all fun r => r.body == .opt) .queryAdditionalType
  require message.additionals.ends .queryAdditional
  return ⟨header, question⟩

/-- Zero stands for no TTL yet; a candidate of zero is passed over. -/
def minimumPositiveTTL (current candidate : ℕ) : ℕ :=
  if candidate = 0 then current
  else if current = 0 ∨ candidate < current then candidate
  else current

/-- The maps `validateDNSResponse` fills from the answers. -/
structure Records where
  cnames : Table String String
  cnameTTLs : Table String ℕ
  addressRecords : Table String (List Addr)
  recordTTLs : Table String ℕ

namespace Records

/-- Nothing read yet. -/
def empty : Records := ⟨.empty, .empty, .empty, .empty⟩

/-- One more alias; of two targets the later one stays. -/
def addCNAME (t : Records) (name target : String) (ttl : ℕ) : Records :=
  { t with cnames := t.cnames.put name target,
           cnameTTLs :=
             t.cnameTTLs.put name (minimumPositiveTTL ((t.cnameTTLs.get name).getD 0) ttl) }

/-- One more address; the least positive TTL stays. -/
def addAddress (t : Records) (name : String) (address : Addr) (ttl : ℕ) : Records :=
  { t with addressRecords := t.addressRecords.put name ((t.addressRecords.get name).getD [] ++ [address]),
           recordTTLs :=
             t.recordTTLs.put name (minimumPositiveTTL ((t.recordTTLs.get name).getD 0) ttl) }

/-- One answer record of a response to a question of the given type. -/
def add (type : RRType) (t : Records) (resource : Resource) : Except DNSError Records :=
  if resource.cls ≠ .inet then .ok t
  else match resource.body with
    | .cname target =>
      if (t.cnames.get resource.name).any (· ≠ target) then .error .conflictingCNAME
      else .ok (t.addCNAME resource.name target resource.ttl)
    | .a bits =>
      if type = .a then .ok (t.addAddress resource.name (.v4 bits) resource.ttl) else .ok t
    | .aaaa bits =>
      if type = .aaaa then .ok (t.addAddress resource.name (.v6 bits "") resource.ttl) else .ok t
    | .opt | .other => .ok t

/-- No record that answers. -/
def isEmpty (t : Records) : Bool := t.addressRecords.size == 0 && t.cnames.size == 0

/-- The loop along the CNAME records, for `depth` more names. -/
def follow (t : Records) : (depth : ℕ) → (owner : String) → (seen : List String) → (chainTTL : ℕ) →
    Except DNSError (List Addr × ℕ)
  | 0, _, _, _ => .error .chainLength
  | depth + 1, owner, seen, chainTTL =>
    if owner ∈ seen then .error .loop
    else if (t.addressRecords.get owner).getD [] ≠ [] then
      let ttl := minimumPositiveTTL chainTTL ((t.recordTTLs.get owner).getD 0)
      if ttl = 0 then .error .addressTTL
      else .ok ((t.addressRecords.get owner).getD [], ttl * second)
    else match t.cnames.get owner with
      | none => if t.isEmpty then .ok ([], 0) else .error .noAddress
      | some target =>
        if (t.cnameTTLs.get owner).getD 0 = 0 then .error .cnameTTL
        else t.follow depth target (owner :: seen)
          (minimumPositiveTTL chainTTL ((t.cnameTTLs.get owner).getD 0))

end Records

/-- The addresses of an accepted response and the time they may be pinned for. -/
def validateDNSResponse (query : ValidatedQuestion) (message : Message) :
    Except DNSError (List Addr × ℕ) := do
  require (12 ≤ message.size ∧ message.size ≤ runnerDNSMaximumMessageBytes) .responseSize
  let header ← expect message.header .responseHeader
  require (header.response ∧ header.id = query.header.id ∧
    (header.rcode = rcodeSuccess ∨ header.rcode = rcodeNameError)) .responseHeader
  let question ← expect message.questions.items.head? .responseQuestion
  require (question = query.question) .responseQuestion
  require message.questions.isSingle .responseQuestions
  let records ← message.answers.items.foldlM (Records.add query.question.type) .empty
  require message.answers.ends .answer
  require (header.rcode ≠ rcodeNameError ∨ records.isEmpty) .nameErrorAnswers
  records.follow (runnerDNSMaximumCNAMEDepth + 1) query.question.name [] 0

/-! ## What a response says -/

/-- The address of a record that answers a question of the given type. -/
def Resource.address? (type : RRType) (r : Resource) : Option Addr :=
  if r.cls = .inet then
    match r.body with
    | .a bits => if type = .a then some (.v4 bits) else none
    | .aaaa bits => if type = .aaaa then some (.v6 bits "") else none
    | _ => none
  else none

/-- The target of an alias. -/
def Resource.cname? (r : Resource) : Option String :=
  if r.cls = .inet then
    match r.body with
    | .cname target => some target
    | _ => none
  else none

/-- The addresses of the records of the given type that `owner` owns. -/
def addressesAt (type : RRType) (answers : List Resource) (owner : String) : List Addr :=
  answers.filterMap fun r => if r.name = owner then r.address? type else none

/-- `target` follows `name` by a CNAME record. -/
def Links (answers : List Resource) (name target : String) : Prop :=
  ∃ r ∈ answers, r.name = name ∧ r.cname? = some target

/-! ## Least positive TTLs -/

/-- `t` is the least positive of the TTLs `S`, and zero if there is none. -/
structure LeastPositive (S : ℕ → Prop) (t : ℕ) : Prop where
  mem : 0 < t → S t
  le : ∀ x, S x → 0 < x → 0 < t ∧ t ≤ x

theorem LeastPositive.none {S : ℕ → Prop} (h : ∀ x, ¬S x) : LeastPositive S 0 :=
  ⟨fun h0 => absurd h0 (lt_irrefl 0), fun x hx => absurd hx (h x)⟩

/-- `minimumPositiveTTL` takes the least of two sets of TTLs. -/
theorem LeastPositive.minimum {S S' S'' : ℕ → Prop} {t t' : ℕ} (h : LeastPositive S t)
    (h' : LeastPositive S' t') (hS : ∀ x, S'' x ↔ S x ∨ S' x) :
    LeastPositive S'' (minimumPositiveTTL t t') := by
  have hcases : (minimumPositiveTTL t t' = t ∧ (t' = 0 ∨ 0 < t ∧ t ≤ t')) ∨
      (minimumPositiveTTL t t' = t' ∧ 0 < t' ∧ (t = 0 ∨ t' ≤ t)) := by
    unfold minimumPositiveTTL
    split
    · exact Or.inl ⟨rfl, Or.inl ‹_›⟩
    split
    · exact Or.inr ⟨rfl, by omega, by omega⟩
    · exact Or.inl ⟨rfl, Or.inr (by omega)⟩
  constructor
  · intro hpos
    rw [hS]
    rcases hcases with ⟨heq, -⟩ | ⟨heq, -⟩ <;> rw [heq] at hpos ⊢
    · exact Or.inl (h.mem hpos)
    · exact Or.inr (h'.mem hpos)
  · intro x hx hpos
    rcases (hS x).1 hx with hx | hx
    · have := h.le x hx hpos
      rcases hcases with ⟨heq, -⟩ | ⟨heq, hpos', hle⟩ <;> rw [heq]
      · exact this
      · omega
    · have := h'.le x hx hpos
      rcases hcases with ⟨heq, hle⟩ | ⟨heq, -⟩ <;> rw [heq]
      · omega
      · exact this

theorem LeastPositive.single (x : ℕ) : LeastPositive (· = x) x :=
  ⟨fun _ => rfl, fun y hy hpos => by subst hy; exact ⟨hpos, le_refl y⟩⟩

/-- The TTLs of the records `P` that `name` owns. -/
def TTLs (P : Resource → Bool) (rs : List Resource) (name : String) (x : ℕ) : Prop :=
  ∃ r ∈ rs, r.name = name ∧ P r = true ∧ r.ttl = x

section
variable {P : Resource → Bool} {rs : List Resource} {r : Resource} {name : String} {t : ℕ}

theorem ttls_append_singleton {x : ℕ} :
    TTLs P (rs ++ [r]) name x ↔ TTLs P rs name x ∨ (r.name = name ∧ P r = true ∧ r.ttl = x) := by
  constructor
  · rintro ⟨r', hr', h⟩
    rcases List.mem_append.1 hr' with hr' | hr'
    · exact Or.inl ⟨r', hr', h⟩
    · obtain rfl := List.mem_singleton.1 hr'
      exact Or.inr h
  · rintro (⟨r', hr', h⟩ | h)
    · exact ⟨r', by simp [hr'], h⟩
    · exact ⟨r, by simp, h⟩

theorem LeastPositive.skip (h : LeastPositive (TTLs P rs name) t)
    (hr : r.name = name → P r = false) :
    LeastPositive (TTLs P (rs ++ [r]) name) t := by
  have hsame : TTLs P (rs ++ [r]) name = TTLs P rs name := by
    funext x
    rw [eq_iff_iff, ttls_append_singleton]
    constructor
    · rintro (h | ⟨hn, hP, -⟩)
      · exact h
      · rw [hr hn] at hP
        cases hP
    · exact Or.inl
  rwa [hsame]

theorem LeastPositive.take (h : LeastPositive (TTLs P rs r.name) t) (hr : P r = true) :
    LeastPositive (TTLs P (rs ++ [r]) r.name) (minimumPositiveTTL t r.ttl) := by
  refine h.minimum (.single r.ttl) fun x => ?_
  rw [ttls_append_singleton]
  simp [hr, eq_comm]

end

/-! ## Collecting the records -/

/-- The maps hold what the records `rs` say. -/
structure Collected (type : RRType) (rs : List Resource) (t : Records) : Prop where
  link : ∀ n target, t.cnames.get n = some target → Links rs n target
  cname : ∀ r ∈ rs, ∀ target, r.cname? = some target → t.cnames.get r.name = some target
  cnameTTL : ∀ n, LeastPositive (TTLs (·.cname?.isSome) rs n) ((t.cnameTTLs.get n).getD 0)
  addresses : ∀ n, (t.addressRecords.get n).getD [] = addressesAt type rs n
  recordTTL : ∀ n, LeastPositive (TTLs (fun r => (r.address? type).isSome) rs n)
    ((t.recordTTLs.get n).getD 0)

variable {type : RRType}

/-- What adding a record can do. -/
theorem add_cases {t t' : Records} {r : Resource} (h : t.add type r = .ok t') :
    (r.cname? = none ∧ r.address? type = none ∧ t' = t) ∨
      (∃ target, r.cname? = some target ∧ r.address? type = none ∧
        (∀ other, t.cnames.get r.name = some other → other = target) ∧
          t' = t.addCNAME r.name target r.ttl) ∨
      ∃ a, r.cname? = none ∧ r.address? type = some a ∧ t' = t.addAddress r.name a r.ttl := by
  rw [Records.add] at h
  split at h
  next hcls =>
    cases h
    exact Or.inl ⟨by simp [Resource.cname?, hcls], by simp [Resource.address?, hcls], rfl⟩
  next hcls =>
  have hcls : r.cls = .inet := by simpa using hcls
  simp only [Resource.cname?, Resource.address?, hcls, if_true]
  split at h
  next target hbody =>
    split at h
    · cases h
    next hconflict =>
      cases h
      refine Or.inr (Or.inl ⟨target, by rw [hbody], by rw [hbody], ?_, rfl⟩)
      intro other hother
      rw [hother] at hconflict
      simpa using hconflict
  next bits hbody =>
    split at h
    next htype =>
      cases h
      exact Or.inr (Or.inr ⟨.v4 bits, by rw [hbody], by rw [hbody]; exact if_pos htype, rfl⟩)
    next htype =>
      cases h
      exact Or.inl ⟨by rw [hbody], by rw [hbody]; exact if_neg htype, rfl⟩
  next bits hbody =>
    split at h
    next htype =>
      cases h
      exact Or.inr (Or.inr ⟨.v6 bits "", by rw [hbody], by rw [hbody]; exact if_pos htype, rfl⟩)
    next htype =>
      cases h
      exact Or.inl ⟨by rw [hbody], by rw [hbody]; exact if_neg htype, rfl⟩
  next hbody =>
    cases h
    exact Or.inl ⟨by rw [hbody], by rw [hbody], rfl⟩
  next hbody =>
    cases h
    exact Or.inl ⟨by rw [hbody], by rw [hbody], rfl⟩

variable {rs : List Resource}

theorem Links.append {n target : String} (h : Links rs n target) (r : Resource) :
    Links (rs ++ [r]) n target := by
  obtain ⟨r', hr', h⟩ := h
  exact ⟨r', by simp [hr'], h⟩

theorem addressesAt_append (rs : List Resource) (r : Resource) (n : String) :
    addressesAt type (rs ++ [r]) n = addressesAt type rs n ++
      (if r.name = n then (r.address? type).toList else []) := by
  rw [addressesAt, addressesAt, List.filterMap_append]
  congr 1
  by_cases hn : r.name = n
  · cases ha : r.address? type <;> simp [hn, ha]
  · simp [hn]

theorem Collected.add {t t' : Records} {r : Resource} (h : Collected type rs t)
    (hadd : t.add type r = .ok t') : Collected type (rs ++ [r]) t' := by
  have hmem : ∀ {r'}, r' ∈ rs ++ [r] → r' ∈ rs ∨ r' = r := by simp
  rcases add_cases hadd with ⟨hcname, haddress, rfl⟩ | ⟨target, hcname, haddress, hsame, rfl⟩ | ⟨a,
    hcname, haddress, rfl⟩
  · refine ⟨fun n target hn => (h.link n target hn).append r, fun r' hr' target ht => ?_,
      fun n => ?_, fun n => ?_, fun n => ?_⟩
    · rcases hmem hr' with hr' | rfl
      · exact h.cname r' hr' target ht
      · rw [hcname] at ht
        cases ht
    · exact (h.cnameTTL n).skip fun _ => by rw [hcname]; rfl
    · rw [addressesAt_append, haddress, h.addresses n]
      simp
    · exact (h.recordTTL n).skip fun _ => by rw [haddress]; rfl
  · refine ⟨fun n target' hn => ?_, fun r' hr' target' ht => ?_, fun n => ?_,
      fun n => ?_, fun n => ?_⟩
    · rw [Records.addCNAME, Table.get_put] at hn
      split at hn
      next heq =>
        cases hn
        exact ⟨r, by simp, heq.symm, hcname⟩
      · exact (h.link n target' hn).append r
    · rw [Records.addCNAME, Table.get_put]
      rcases hmem hr' with hr' | rfl
      · have hold := h.cname r' hr' target' ht
        split
        next heq =>
          rw [heq] at hold
          rw [hsame target' hold]
        · exact hold
      · rw [if_pos rfl, ← hcname, ht]
    · rw [Records.addCNAME, Table.get_put]
      split
      next heq =>
        subst heq
        exact (h.cnameTTL r.name).take (by rw [hcname]; rfl)
      next hne => exact (h.cnameTTL n).skip fun heq => absurd heq.symm hne
    · rw [addressesAt_append, haddress]
      simpa [Records.addCNAME] using h.addresses n
    · exact (h.recordTTL n).skip fun _ => by rw [haddress]; rfl
  · refine ⟨fun n target' hn => (h.link n target' hn).append r, fun r' hr' target' ht => ?_,
      fun n => ?_, fun n => ?_, fun n => ?_⟩
    · rcases hmem hr' with hr' | rfl
      · exact h.cname r' hr' target' ht
      · rw [hcname] at ht
        cases ht
    · exact (h.cnameTTL n).skip fun _ => by rw [hcname]; rfl
    · rw [addressesAt_append, haddress, ← h.addresses n, Records.addAddress, Table.get_put]
      split
      next heq =>
        subst heq
        simp
      next hne => simp [Ne.symm hne]
    · rw [Records.addAddress, Table.get_put]
      split
      next heq =>
        subst heq
        exact (h.recordTTL r.name).take (by rw [haddress]; rfl)
      next hne => exact (h.recordTTL n).skip fun heq => absurd heq.symm hne

theorem Collected.foldlM {rs' : List Resource} {t t' : Records} (h : Collected type rs t)
    (hfold : rs'.foldlM (Records.add type) t = .ok t') : Collected type (rs ++ rs') t' := by
  induction rs' generalizing rs t with
  | nil =>
    obtain rfl : t = t' := by simpa using hfold
    simpa using h
  | cons r rs' ih =>
    rw [List.foldlM_cons, bind_eq_ok] at hfold
    obtain ⟨t₁, hadd, hfold⟩ := hfold
    simpa using ih (h.add hadd) hfold

theorem collected_empty (type : RRType) : Collected type [] .empty :=
  ⟨fun n target hn => (by cases hn), by simp, fun n => .none fun x hx => (by obtain ⟨r, hr, -⟩ := hx; cases hr),
    fun n => rfl, fun n => .none fun x hx => (by obtain ⟨r, hr, -⟩ := hx; cases hr)⟩

/-! ## Following the chain -/

/-- The CNAME records lead from `name` through `before` to `owner`, past names without addresses. -/
structure Path (type : RRType) (rs : List Resource) (name : String) (before : List String)
    (owner : String) : Prop where
  start : (before ++ [owner]).head? = some name
  links : (before ++ [owner]).IsChain (Links rs)
  distinct : before.Nodup
  unanswered : ∀ n ∈ before, addressesAt type rs n = []

/-- The path ends at `owner`: no cycle, at most eight links. -/
structure Reaches (type : RRType) (rs : List Resource) (name : String) (before : List String)
    (owner : String) : Prop extends Path type rs name before owner where
  fresh : owner ∉ before
  short : before.length ≤ runnerDNSMaximumCNAMEDepth

/-- A record used in resolving: a CNAME record on the way, or an address record of the end. -/
def Used (type : RRType) (before : List String) (owner : String) (r : Resource) : Prop :=
  (r.name ∈ before ∧ r.cname?.isSome) ∨ (r.name = owner ∧ (r.address? type).isSome)

theorem Path.extend {name owner target : String} {before : List String}
    (h : Path type rs name before owner) (hfresh : owner ∉ before)
    (hnone : addressesAt type rs owner = [])
    (hlink : Links rs owner target) : Path type rs name (before ++ [owner]) target := by
  refine ⟨?_, ?_, List.concat_eq_append ▸ List.Nodup.concat hfresh h.distinct, ?_⟩
  · rw [List.head?_append, h.start]
    rfl
  · refine List.isChain_append.2 ⟨h.links, List.isChain_singleton _, fun x hx y hy => ?_⟩
    obtain rfl : owner = x := by simpa using hx
    obtain rfl : target = y := by simpa using hy
    exact hlink
  · intro n hn
    rcases List.mem_append.1 hn with hn | hn
    · exact h.unanswered n hn
    · rw [List.mem_singleton.1 hn]
      exact hnone

theorem follow_ok {t : Records} (ht : Collected type rs t) {name : String}
    {depth : ℕ} {owner : String} {before : List String} {chainTTL : ℕ} {addresses : List Addr}
    {ttl : ℕ} (hpath : Path type rs name before owner)
    (hchain : LeastPositive (fun x => ∃ n ∈ before, TTLs (·.cname?.isSome) rs n x) chainTTL)
    (hdepth : before.length + depth ≤ runnerDNSMaximumCNAMEDepth + 1)
    (h : t.follow depth owner before.reverse chainTTL = .ok (addresses, ttl))
    (hne : addresses ≠ []) :
    ∃ before' owner' least, Reaches type rs name before' owner' ∧
      addresses = addressesAt type rs owner' ∧ ttl = least * second ∧ 0 < least ∧
      LeastPositive (fun x => ∃ r ∈ rs, Used type before' owner' r ∧ r.ttl = x) least := by
  induction depth generalizing owner before chainTTL with
  | zero => cases h
  | succ depth ih =>
    rw [Records.follow] at h
    split at h
    · cases h
    next hfresh =>
    have hfresh : owner ∉ before := by simpa using hfresh
    rw [ht.addresses owner] at h
    split at h
    next hsome =>
      simp only at h
      split at h
      · cases h
      next hpos =>
        obtain ⟨rfl, rfl⟩ : addressesAt type rs owner = addresses ∧ _ = ttl := by simpa using h
        refine ⟨before, owner, _, ⟨hpath, hfresh, by omega⟩, rfl, rfl, Nat.pos_of_ne_zero hpos, ?_⟩
        refine hchain.minimum (ht.recordTTL owner) fun x => ?_
        constructor
        · rintro ⟨r, hr, ⟨hn, hc⟩ | ⟨hn, ha⟩, hx⟩
          · exact Or.inl ⟨r.name, hn, r, hr, rfl, hc, hx⟩
          · exact Or.inr ⟨r, hr, hn, ha, hx⟩
        · rintro (⟨n, hn, r, hr, rfl, hc, hx⟩ | ⟨r, hr, hn, ha, hx⟩)
          · exact ⟨r, hr, Or.inl ⟨hn, hc⟩, hx⟩
          · exact ⟨r, hr, Or.inr ⟨hn, ha⟩, hx⟩
    next hnone =>
      have hnone : addressesAt type rs owner = [] := by simpa using hnone
      split at h
      next hcname =>
        split at h
        · cases h
          exact absurd rfl hne
        · cases h
      next target hcname =>
        split at h
        · cases h
        next hpos =>
          have hpath' := hpath.extend hfresh hnone (ht.link owner target hcname)
          have hchain' : LeastPositive (fun x => ∃ n ∈ before ++ [owner],
            TTLs (·.cname?.isSome) rs n x)
              (minimumPositiveTTL chainTTL ((t.cnameTTLs.get owner).getD 0)) :=
            hchain.minimum (ht.cnameTTL owner) fun x => by simp [or_and_right, exists_or]
          have hdepth' : (before ++ [owner]).length + depth ≤ runnerDNSMaximumCNAMEDepth + 1 := by
            rw [List.length_append, List.length_singleton]
            omega
          exact ih hpath' hchain' hdepth' (by simpa using h)

/-! ## Accepted responses -/

/-- The response carries the transaction identity and the question of the query. -/
structure Echoes (query response : Message) : Prop where
  header : ∃ h h', query.header = some h ∧ response.header = some h' ∧
    h'.response = true ∧ h'.id = h.id
  question : ∃ q, query.questions.items = [q] ∧ response.questions.items = [q]

theorem isSingle_head {α : Type} {s : Section α} {a : α} (hs : s.isSingle = true)
    (ha : s.items.head? = some a) :
    s.items = [a] := by
  simp only [Section.isSingle, Bool.and_eq_true, beq_iff_eq] at hs
  obtain ⟨b, hb⟩ := List.length_eq_one_iff.1 hs.1
  rw [hb] at ha ⊢
  rw [Option.some.inj ha]

theorem validateDNSQuery_ok {query : Message} {q : ValidatedQuestion}
    (h : validateDNSQuery query = .ok q) :
    query.header = some q.header ∧ query.questions.items = [q.question] := by
  simp only [validateDNSQuery, bind_eq_ok, require_eq_ok, expect_eq_ok, pure_eq_ok] at h
  obtain ⟨-, -, header, hheader, -, -, question, hquestion, -, -, -, hsingle, -, -, -, -, -, -,
    -, -, rfl⟩ := h
  exact ⟨hheader, isSingle_head hsingle hquestion⟩

theorem validateDNSResponse_ok {q : ValidatedQuestion} {response : Message} {addresses : List Addr}
    {ttl : ℕ} (h : validateDNSResponse q response = .ok (addresses, ttl)) :
    (∃ header, response.header = some header ∧ header.response = true ∧ header.id = q.header.id) ∧
      response.questions.items = [q.question] ∧
      ∃ records, Collected q.question.type response.answers.items records ∧
        records.follow (runnerDNSMaximumCNAMEDepth + 1) q.question.name [] 0 =
          .ok (addresses, ttl) := by
  simp only [validateDNSResponse, bind_eq_ok, require_eq_ok, expect_eq_ok, decide_eq_true_eq] at h
  obtain ⟨-, -, header, hheader, -, hmatch, question, hquestion, -, rfl, -, hsingle, records,
    hrecords, -, -, -, -, hfollow⟩ := h
  exact ⟨⟨header, hheader, hmatch.1, hmatch.2.1⟩, isSingle_head hsingle hquestion, records,
    (collected_empty _).foldlM hrecords, hfollow⟩

/-- Where the addresses of a response come from: the name the CNAME records lead to. -/
structure Resolves (q : ValidatedQuestion) (response : Message) (addresses : List Addr)
    (before : List String) (owner : String) : Prop
    extends Reaches q.question.type response.answers.items q.question.name before owner where
  addresses : addresses = addressesAt q.question.type response.answers.items owner

/-- An accepted response answers its query: same identity, same question, the
addresses of the name its CNAME records lead to, and the least positive TTL of
the records used. -/
theorem accepted_response_bound {query response : Message} {q : ValidatedQuestion}
    {addresses : List Addr} {ttl : ℕ} (hquery : validateDNSQuery query = .ok q)
    (h : validateDNSResponse q response = .ok (addresses, ttl)) (hne : addresses ≠ []) :
    Echoes query response ∧
    (∀ n target target', Links response.answers.items n target → Links response.answers.items n target' →
      target = target') ∧
    ∃ before owner, Resolves q response addresses before owner ∧ 0 < ttl ∧
      (∀ r ∈ response.answers.items, Used q.question.type before owner r → 0 < r.ttl →
      ttl ≤ r.ttl * second) ∧
      ∃ r ∈ response.answers.items, Used q.question.type before owner r ∧ ttl = r.ttl * second := by
  obtain ⟨hheader, hquestion⟩ := validateDNSQuery_ok hquery
  obtain ⟨⟨header, hheader', hresponse, hid⟩, hquestion', records, hcollected, hfollow⟩ :=
    validateDNSResponse_ok h
  refine ⟨⟨⟨q.header, header, hheader, hheader', hresponse, hid⟩, q.question, hquestion,
    hquestion'⟩, ?_, ?_⟩
  · rintro n target target' ⟨r, hr, rfl, ht⟩ ⟨r', hr', hn, ht'⟩
    have hget := hcollected.cname r hr target ht
    have hget' := hcollected.cname r' hr' target' ht'
    rw [hn, hget] at hget'
    exact Option.some.inj hget'
  · have hpath : Path q.question.type response.answers.items q.question.name [] q.question.name :=
      ⟨rfl, List.isChain_singleton _, List.nodup_nil, by simp⟩
    obtain ⟨before, owner, least, hreaches, haddresses, rfl, hpos, hleast⟩ :=
      follow_ok hcollected hpath (.none (by simp)) (by simp) hfollow hne
    refine ⟨before, owner, ⟨hreaches, haddresses⟩, Nat.mul_pos hpos (by decide), ?_, ?_⟩
    · intro r hr hused hrpos
      exact Nat.mul_le_mul_right _ (hleast.le r.ttl ⟨r, hr, hused, rfl⟩ hrpos).2
    · obtain ⟨r, hr, hused, hx⟩ := hleast.mem hpos
      exact ⟨r, hr, hused, by rw [hx]⟩

/-- A query for one name. -/
def sampleQuery : Message :=
  ⟨30, some ⟨7, false, 0⟩, ⟨[⟨"api.example.", .a, .inet⟩], true⟩, ⟨[], true⟩,
    ⟨[], true⟩, ⟨[], true⟩⟩

/-- Its answer: an alias, and two addresses behind it. -/
def sampleResponse (ttl : ℕ) : Message :=
  ⟨90, some ⟨7, true, 0⟩, ⟨[⟨"api.example.", .a, .inet⟩], true⟩,
    ⟨[⟨"api.example.", .inet, 60, .cname "cdn.example."⟩, ⟨"cdn.example.", .inet, ttl, .a 0x08080808#32⟩,
      ⟨"cdn.example.", .inet, 300, .a 0x08080404#32⟩], true⟩, ⟨[], true⟩, ⟨[], true⟩⟩

/-- The question of both. -/
def sampleQuestion : ValidatedQuestion := ⟨⟨7, false, 0⟩, ⟨"api.example.", .a, .inet⟩⟩

theorem accepted_response_sample : validateDNSQuery sampleQuery = .ok sampleQuestion ∧
    validateDNSResponse sampleQuestion (sampleResponse 30) =
      .ok ([.v4 0x08080808#32, .v4 0x08080404#32], 30 * second) ∧
        Echoes sampleQuery (sampleResponse 30) := by
  have hq : validateDNSQuery sampleQuery = .ok sampleQuestion := rfl
  have h : validateDNSResponse sampleQuestion (sampleResponse 30) =
      .ok ([.v4 0x08080808#32, .v4 0x08080404#32], 30 * second) := rfl
  exact ⟨hq, h, (accepted_response_bound hq h (by simp)).1⟩

/-- A record of TTL zero beside one of a positive TTL is pinned for the other's TTL. -/
theorem zero_ttl_pinned : ∃ query response q addresses ttl, validateDNSQuery query = .ok q ∧
    validateDNSResponse q response = .ok (addresses, ttl) ∧ addresses ≠ [] ∧
    ¬∃ before owner, Resolves q response addresses before owner ∧
      ∀ r ∈ response.answers.items, Used q.question.type before owner r → ttl ≤ r.ttl * second := by
  refine ⟨sampleQuery, sampleResponse 0, sampleQuestion, [.v4 0x08080808#32, .v4 0x08080404#32],
    60 * second, rfl, rfl,
    by simp, ?_⟩
  rintro ⟨before, owner, hresolves, hle⟩
  have howner : owner = "cdn.example." := by
    by_contra hne
    have haddresses := hresolves.addresses
    simp [addressesAt, sampleResponse, Ne.symm hne, Resource.address?] at haddresses
  subst howner
  have :=
    hle ⟨"cdn.example.", .inet, 0, .a 0x08080808#32⟩ (by simp [sampleResponse]) (Or.inr ⟨rfl, rfl⟩)
  simp [second] at this

end SecondBox.NetworkPolicy

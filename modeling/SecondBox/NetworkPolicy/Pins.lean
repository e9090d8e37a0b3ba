/-
  The DNS pins of a compiled policy stay bounded and safe over every sequence of
  calls.

  `pin_cases` says once what a pin can do: it is refused and at most the expired
  pins go, or it is `Pinned`.  Everything else follows from that and from what
  `Compile` guarantees.
-/
import SecondBox.Base.History
import SecondBox.NetworkPolicy.Compiled

namespace SecondBox.NetworkPolicy

open Netip Relational Check

/-! ## Lists of addresses -/

section
variable {α : Type} [DecidableEq α]

theorem mem_appendNew {seen items : List α} {a : α} : a ∈ appendNew seen items ↔
    a ∈ seen ∨ a ∈ items := by
  induction items generalizing seen with
  | nil => simp [appendNew]
  | cons b items ih =>
    rw [appendNew]
    split
    next hb =>
      rw [ih, List.mem_cons]
      constructor
      · rintro (h | h)
        · exact Or.inl h
        · exact Or.inr (Or.inr h)
      · rintro (h | rfl | h)
        · exact Or.inl h
        · exact Or.inl hb
        · exact Or.inr h
    · rw [ih]
      simp [or_assoc]

theorem nodup_appendNew {seen items : List α} (h : seen.Nodup) : (appendNew seen items).Nodup := by
  induction items generalizing seen with
  | nil => exact h
  | cons b items ih =>
    rw [appendNew]
    split
    · exact ih h
    next hb => exact ih (List.concat_eq_append ▸ h.concat hb)

end

theorem mem_sortAddresses {l : List Addr} {a : Addr} : a ∈ sortAddresses l ↔ a ∈ l :=
  (List.perm_insertionSort _ l).mem_iff

/-- Sorting distinct addresses leaves them strictly increasing. -/
theorem pairwise_sortAddresses {l : List Addr} (h : l.Nodup) :
    (sortAddresses l).Pairwise (· < ·) := by
  have hnodup : (sortAddresses l).Nodup := (List.perm_insertionSort _ l).nodup_iff.2 h
  have hle : (sortAddresses l).Pairwise (· ≤ ·) := List.pairwise_insertionSort _ l
  exact hle.imp₂ (fun a b hab hne => lt_of_le_of_ne hab hne) hnodup

/-! ## One pin -/

/-- A DNS answer for one destination. -/
structure Answer where
  protocol : Protocol
  rawDomain : String
  port : ℕ
  addresses : List Addr
  ttl : ℤ
  now : ℤ

/-- The key of the pin an answer for `domain` is stored under. -/
def Answer.key (a : Answer) (domain : String) (family : ℕ) : PinKey :=
  ⟨a.protocol, domain, a.port, family⟩

/-- The answer `a` is accepted for a family in policy `p`, which then holds `pin` for it and is `p'`. -/
structure Pinned (p : CompiledPolicy) (a : Answer) (family : ℕ) (pin : DNSPin)
    (p' : CompiledPolicy) : Prop where
  mode : p.mode ≠ .denyAll
  domain : normalizeDomain a.rawDomain = .ok pin.domain
  rule : p.hasDomainRule a.protocol pin.domain a.port = true
  ttl : 0 < a.ttl
  nonempty : a.addresses ≠ []
  accepted : ∃ normalized, p.normalizeAnswer family [] a.addresses = .ok normalized
  answer : ∀ b ∈ a.addresses, p.isProtected (normalizeAddress b) = false
  families : ∀ b ∈ a.addresses, (family = 4 → (normalizeAddress b).is4 = true) ∧
    (family = 6 → (normalizeAddress b).is6 = true)
  stored : p' = { p.removeExpiredPins a.now with
    pins := (p.removeExpiredPins a.now).pins.put (a.key pin.domain family) pin }
  room : ((p.removeExpiredPins a.now).pins.get (a.key pin.domain family)).isSome ∨
    (p.removeExpiredPins a.now).pins.size < p.maximumPins
  mem : ∀ b, b ∈ pin.addresses ↔
    (∃ old, (p.removeExpiredPins a.now).pins.get (a.key pin.domain family) = some old ∧
      b ∈ old.addresses) ∨ ∃ c ∈ a.addresses, normalizeAddress c = b
  sorted : pin.addresses.Pairwise (· < ·)
  short : pin.addresses.length ≤ maximumPinAddresses
  expires : pin.expiresAt = a.now + min a.ttl p.maximumTTL

/-- Pin an answer. -/
def CompiledPolicy.pinAnswer (p : CompiledPolicy) (a : Answer) (family : ℕ) :
    (DNSPin × Decision) × CompiledPolicy :=
  p.pin a.protocol a.rawDomain a.port family a.addresses a.ttl a.now

variable {family : ℕ} {p : CompiledPolicy}

/-- The loop over an answer keeps the distinct normalized addresses, if none is refused. -/
theorem normalizeAnswer_eq_ok {addresses seen r : List Addr}
    (h : p.normalizeAnswer family seen addresses = .ok r) :
      r = appendNew seen (addresses.map normalizeAddress) ∧
      ∀ b ∈ addresses, p.isProtected (normalizeAddress b) = false ∧
        (family = 4 → (normalizeAddress b).is4 = true) ∧
          (family = 6 → (normalizeAddress b).is6 = true) := by
  induction addresses generalizing seen with
  | nil =>
    obtain rfl : seen = r := by simpa [CompiledPolicy.normalizeAnswer] using h
    exact ⟨rfl, by simp⟩
  | cons a addresses ih =>
    simp only [CompiledPolicy.normalizeAnswer] at h
    split at h
    · cases h
    split at h
    · cases h
    next hfamily =>
    split at h
    · cases h
    next hprotected =>
    have ha : p.isProtected (normalizeAddress a) = false ∧
        (family = 4 → (normalizeAddress a).is4 = true) ∧
        (family = 6 → (normalizeAddress a).is6 = true) := by
      refine ⟨by simpa using hprotected, ?_, ?_⟩
      · intro hf
        by_contra h4
        exact hfamily (Or.inl ⟨hf, by simpa using h4⟩)
      · intro hf
        by_contra h6
        exact hfamily (Or.inr ⟨hf, by simpa using h6⟩)
    rw [List.map_cons, appendNew, List.forall_mem_cons]
    split at h
    next hmem =>
      obtain ⟨hr, hall⟩ := ih h
      rw [if_pos hmem]
      exact ⟨hr, ha, hall⟩
    next hmem =>
      obtain ⟨hr, hall⟩ := ih h
      rw [if_neg hmem]
      exact ⟨hr, ha, hall⟩

/-- What the locked part of a pin can do. -/
theorem storePin_cases (p : CompiledPolicy) (key : PinKey) {normalized : List Addr}
    (expiresAt now : ℤ) (hsorted : normalized.Pairwise (· < ·)) :
    (∃ pin : DNSPin, p.storePin key normalized expiresAt now =
        ((pin, ⟨true, .allowedDomain⟩),
          { p.removeExpiredPins now with pins := (p.removeExpiredPins now).pins.put key pin }) ∧
      pin.domain = key.domain ∧ pin.expiresAt = expiresAt ∧ pin.addresses.Pairwise (· < ·) ∧
      pin.addresses.length ≤ maximumPinAddresses ∧
      (((p.removeExpiredPins now).pins.get key).isSome ∨ (p.removeExpiredPins now).pins.size <
      p.maximumPins) ∧
      ∀ b, b ∈ pin.addresses ↔ (∃ old, (p.removeExpiredPins now).pins.get key = some old ∧
        b ∈ old.addresses) ∨ b ∈ normalized) ∨
    p.storePin key normalized expiresAt now = ((default, .refused .pinCapacityExhausted),
      p.removeExpiredPins now) := by
  simp only [CompiledPolicy.storePin]
  cases hget : (p.removeExpiredPins now).pins.get key with
  | some old =>
    simp only
    split
    · exact Or.inr rfl
    next hshort =>
      have hnodup : (appendNew (appendNew [] old.addresses) normalized).Nodup :=
        nodup_appendNew (nodup_appendNew List.nodup_nil)
      refine Or.inl ⟨_, rfl, rfl, rfl, pairwise_sortAddresses hnodup, not_lt.1 hshort,
        Or.inl rfl, fun b => ?_⟩
      simp [mergeAddresses, mem_sortAddresses, mem_appendNew]
  | none =>
    simp only
    split
    · exact Or.inr rfl
    next hroom =>
    split
    · exact Or.inr rfl
    next hshort =>
      refine Or.inl ⟨_, rfl, rfl, rfl, hsorted, not_lt.1 hshort, Or.inr (not_le.1 hroom),
        fun b => ?_⟩
      simp

theorem pin_cases (p : CompiledPolicy) (a : Answer) (family : ℕ) :
    (∃ pin p', p.pinAnswer a family = ((pin, ⟨true, .allowedDomain⟩), p') ∧
      Pinned p a family pin p') ∨ ((p.pinAnswer a family).1.2.allowed = false ∧
        ((p.pinAnswer a family).2 = p ∨ (p.pinAnswer a family).2 = p.removeExpiredPins a.now)) := by
  simp only [CompiledPolicy.pinAnswer, CompiledPolicy.pin]
  split
  · exact Or.inr ⟨rfl, Or.inl rfl⟩
  next hmode =>
  cases hdomain : normalizeDomain a.rawDomain with
  | error e => exact Or.inr ⟨rfl, Or.inl rfl⟩
  | ok domain =>
  simp only
  split
  · exact Or.inr ⟨rfl, Or.inl rfl⟩
  next hrule =>
  split
  · exact Or.inr ⟨rfl, Or.inl rfl⟩
  next hanswered =>
  rw [not_or, not_le] at hanswered
  cases hanswer : p.normalizeAnswer family [] a.addresses with
  | error e => exact Or.inr ⟨rfl, Or.inl rfl⟩
  | ok normalized =>
  simp only
  split
  · exact Or.inr ⟨rfl, Or.inl rfl⟩
  obtain ⟨hr, hall⟩ := normalizeAnswer_eq_ok hanswer
  have hsorted : (sortAddresses normalized).Pairwise (· < ·) :=
    pairwise_sortAddresses (hr ▸ nodup_appendNew List.nodup_nil)
  rcases storePin_cases p (a.key domain family) (a.now + min a.ttl p.maximumTTL) a.now hsorted with
    ⟨pin, hstore, hname, hexpires, hincr, hshort, hroom, hmem⟩ | hrefused
  · obtain rfl : pin.domain = domain := hname
    refine Or.inl ⟨pin, _, hstore, hmode, hdomain, by simpa using hrule, hanswered.1, hanswered.2, ⟨_, hanswer⟩,
      fun b hb => (hall b hb).1, fun b hb => (hall b hb).2, rfl, hroom, fun b => ?_, hincr,
      hshort, hexpires⟩
    rw [hmem, mem_sortAddresses, hr, mem_appendNew]
    simp
  · rw [Answer.key] at hrefused
    rw [hrefused]
    exact Or.inr ⟨rfl, Or.inr rfl⟩

/-- Only pins that had expired by `now` are gone in `p'`. -/
def Purged (p p' : CompiledPolicy) (now : ℤ) : Prop :=
  ∃ gone : PinKey → DNSPin → Bool, p' = { p with pins := p.pins.deleteWhere gone } ∧
    ∀ k pin, p.pins.get k = some pin → gone k pin = true → pin.expiresAt ≤ now

theorem Purged.refl (p : CompiledPolicy) (now : ℤ) : Purged p p now :=
  ⟨fun _ _ => false, by simp, by simp⟩

theorem purged_removeExpiredPins (p : CompiledPolicy) (now : ℤ) :
    Purged p (p.removeExpiredPins now) now :=
  ⟨_, rfl, by simp⟩

theorem pinDNSForAddressFamily_cases (p : CompiledPolicy) (a : Answer) (family : ℕ) :
    p.pinDNSForAddressFamily a.protocol a.rawDomain a.port family a.addresses a.ttl a.now =
      p.pinAnswer a family ∨
      p.pinDNSForAddressFamily a.protocol a.rawDomain a.port family a.addresses a.ttl a.now =
        ((default, .refused .invalidDNSAnswer), p) := by
  rw [CompiledPolicy.pinDNSForAddressFamily]
  split
  · exact Or.inr rfl
  · exact Or.inl rfl

/-! ## Calls -/

/-- The calls of a compiled policy. -/
inductive Call
  | pinDNS (a : Answer)
  | pinDNSForAddressFamily (a : Answer) (family : ℕ)
  | authorizeIP (protocol : Protocol) (address : Addr) (port : ℕ)
  | authorizePinned (protocol : Protocol) (rawDomain : String) (address : Addr) (port : ℕ) (now : ℤ)

namespace CompiledPolicy

/-- The verdict of a call and the policy after it. -/
def call (p : CompiledPolicy) : Call → Decision × CompiledPolicy
  | .pinDNS a =>
    let r := p.pinDNS a.protocol a.rawDomain a.port a.addresses a.ttl a.now
    (r.1.2, r.2)
  | .pinDNSForAddressFamily a family =>
    let r := p.pinDNSForAddressFamily a.protocol a.rawDomain a.port family a.addresses a.ttl a.now
    (r.1.2, r.2)
  | .authorizeIP protocol address port => (p.authorizeIP protocol address port, p)
  | .authorizePinned protocol rawDomain address port now =>
    p.authorizePinned protocol rawDomain address port now

/-- The policy after a call. -/
def next (p : CompiledPolicy) (c : Call) : CompiledPolicy := (p.call c).2

/-- The policy after calls. -/
def after (p : CompiledPolicy) (calls : List Call) : CompiledPolicy := History.after next p calls

end CompiledPolicy

/-- The answer a call is to pin, with the family of its key. -/
def Call.answer? : Call → Option (Answer × ℕ)
  | .pinDNS a => some (a, 0)
  | .pinDNSForAddressFamily a family => some (a, family)
  | _ => none

variable {c : Call}

/-- An answer is pinned, or refused without a trace but for expired pins. -/
theorem call_answer {a : Answer} (hc : c.answer? = some (a, family)) :
    ((p.call c).1.allowed = true ∧ ∃ pin, Pinned p a family pin (p.next c)) ∨
      ((p.call c).1.allowed = false ∧ Purged p (p.next c) a.now) := by
  have hanswer : (p.call c).1 = (p.pinAnswer a family).1.2 ∧ p.next c = (p.pinAnswer a family).2 ∨
      (p.call c).1.allowed = false ∧ p.next c = p := by
    cases c with
    | pinDNS a' =>
      cases hc
      exact Or.inl ⟨rfl, rfl⟩
    | pinDNSForAddressFamily a' family' =>
      cases hc
      rcases pinDNSForAddressFamily_cases p a family with h | h <;>
        simp only [CompiledPolicy.call, CompiledPolicy.next, h]
      · exact Or.inl ⟨trivial, trivial⟩
      · exact Or.inr ⟨rfl, trivial⟩
    | authorizeIP => cases hc
    | authorizePinned => cases hc
  rcases hanswer with ⟨hverdict, hnext⟩ | ⟨hverdict, hnext⟩
  · rw [hverdict, hnext]
    rcases pin_cases p a family with ⟨pin, p', heq, hpinned⟩ | ⟨hrefused, hsame | hexpired⟩
    · rw [heq]
      exact Or.inl ⟨rfl, pin, hpinned⟩
    · rw [hsame]
      exact Or.inr ⟨hrefused, Purged.refl p a.now⟩
    · rw [hexpired]
      exact Or.inr ⟨hrefused, purged_removeExpiredPins p a.now⟩
  · rw [hnext]
    exact Or.inr ⟨hverdict, Purged.refl p a.now⟩

variable {address : Addr}

theorem authorizeIP_allowed {protocol : Protocol} {port : ℕ}
    (h : (p.authorizeIP protocol address port).allowed = true) :
    p.mode ≠ .denyAll ∧ p.isProtected (normalizeAddress address) = false ∧
      ∃ d ∈ p.destinations, d.domain = "" ∧ d.protocol = protocol ∧ d.port = port ∧
        d.cidr.contains (normalizeAddress address) = true := by
  rw [CompiledPolicy.authorizeIP] at h
  split at h
  · cases h
  next hmode =>
  split at h
  · cases h
  next hprotected =>
  split at h
  next hany =>
    refine ⟨hmode, by simpa using hprotected, ?_⟩
    simpa [and_assoc] using hany
  · cases h

/-- A pinned target is allowed for the domain's gateway or for an unprotected
address; an expired pin that is looked up goes. -/
theorem authorizePinned_cases (p : CompiledPolicy) (protocol : Protocol) (rawDomain : String)
    (address : Addr) (port : ℕ) (now : ℤ) :
    ((p.authorizePinned protocol rawDomain address port now).1.allowed = true → p.mode ≠ .denyAll ∧
      ∃ domain, normalizeDomain rawDomain = .ok domain ∧ p.hasDomainRule protocol domain port =
        true ∧ (p.runnerGateways.get domain = some (normalizeAddress address) ∨
          p.isProtected (normalizeAddress address) = false)) ∧
      Purged p (p.authorizePinned protocol rawDomain address port now).2 now := by
  rw [CompiledPolicy.authorizePinned]
  split
  · exact ⟨fun h => (by cases h), Purged.refl p now⟩
  next hmode =>
  cases hdomain : normalizeDomain rawDomain with
  | error e => exact ⟨fun h => (by cases h), Purged.refl p now⟩
  | ok domain =>
  simp only
  split
  · exact ⟨fun h => (by cases h), Purged.refl p now⟩
  next hrule =>
  have hrule : p.hasDomainRule protocol domain port = true := by simpa using hrule
  split
  next hgateway =>
    refine ⟨fun _ => ⟨hmode, domain, rfl, hrule, Or.inl ?_⟩, Purged.refl p now⟩
    simp only [CompiledPolicy.isRunnerGateway, Bool.and_eq_true, beq_iff_eq] at hgateway
    exact hgateway.1
  split
  · exact ⟨fun h => (by cases h), Purged.refl p now⟩
  next hprotected =>
  cases hpin : p.pins.get ⟨protocol, domain, port, 0⟩ with
  | none => exact ⟨fun h => (by cases h), Purged.refl p now⟩
  | some pin =>
  simp only
  split
  next hexpired =>
    refine ⟨fun h => (by cases h), _, rfl, fun k pin' hget hk => ?_⟩
    obtain rfl := beq_iff_eq.1 hk
    obtain rfl : pin = pin' := Option.some.inj (hpin.symm.trans hget)
    simpa using hexpired
  split
  · exact ⟨fun _ => ⟨hmode, domain, rfl, hrule, Or.inr (by simpa using hprotected)⟩,
      Purged.refl p now⟩
  · exact ⟨fun h => (by cases h), Purged.refl p now⟩

/-! ## The invariant -/

/-- Nothing but the pins changes. -/
def SameRules (p q : CompiledPolicy) : Prop := q = { p with pins := q.pins }

/-- A short sorted pin of unprotected addresses. -/
structure SafePin (options : CompileOptions) (pin : DNSPin) : Prop where
  short : pin.addresses.length ≤ maximumPinAddresses
  sorted : pin.addresses.Pairwise (· < ·)
  unprotected : ∀ b ∈ pin.addresses, ¬options.Protects b

/-- What every sequence of calls keeps of the policy `p` it started with. -/
structure Safe (options : CompileOptions) (p q : CompiledPolicy) : Prop where
  rules : SameRules p q
  size : q.pins.size ≤ q.maximumPins
  pins : ∀ k pin, q.pins.get k = some pin → SafePin options pin

section
variable {policy : Policy} {options : CompileOptions} {p q q' : CompiledPolicy}

theorem SameRules.isProtected_iff (hp : Compiled policy options p) (h : SameRules p q) :
    q.isProtected address = true ↔ options.Protects address := by
  rw [h]
  exact hp.isProtected_iff

theorem SameRules.pins_only (h : SameRules p q) {pins : Table PinKey DNSPin} :
    SameRules p { q with pins := pins } := by
  rw [SameRules, h]

theorem SameRules.common (h : SameRules p q) (h' : SameRules p q') : SameRules q q' := by
  rw [SameRules, h]
  exact h'

theorem Purged.safe {now : ℤ} (h : Purged q q' now) (hq : Safe options p q) :
    Safe options p q' := by
  obtain ⟨gone, rfl, -⟩ := h
  refine ⟨hq.rules.pins_only, ?_, fun k pin hget => ?_⟩
  · have hle := q.pins.size_deleteWhere_le gone
    have hsize := hq.size
    simp only
    omega
  · rw [Table.get_deleteWhere, Option.filter_eq_some_iff] at hget
    exact hq.pins k pin hget.1

variable {pin : DNSPin}

theorem Pinned.safe (hp : Compiled policy options p) {a : Answer}
    (h : Pinned q a family pin q') (hq : Safe options p q) : Safe options p q' := by
  have hrest : Safe options p (q.removeExpiredPins a.now) :=
    (purged_removeExpiredPins q a.now).safe hq
  have hpin : SafePin options pin := by
    refine ⟨h.short, h.sorted, fun b hb hprotected => ?_⟩
    rcases (h.mem b).1 hb with ⟨old, hold, hb⟩ | ⟨c, hc, rfl⟩
    · exact (hrest.pins _ old hold).unprotected b hb hprotected
    · have := (hq.rules.isProtected_iff hp).2 hprotected
      rw [h.answer c hc] at this
      cases this
  rw [h.stored]
  refine ⟨hrest.rules.pins_only, ?_, fun k pin' hget => ?_⟩
  · show (((q.removeExpiredPins a.now).pins.put (a.key pin.domain family) pin).size : ℤ) ≤
      q.maximumPins
    cases hold : (q.removeExpiredPins a.now).pins.get (a.key pin.domain family) with
    | some old =>
      rw [Table.size_put_of_some _ _ hold]
      exact hrest.size
    | none =>
      have hroom := h.room
      rw [hold] at hroom
      rw [Table.size_put_of_none _ _ hold]
      rcases hroom with hroom | hroom
      · cases hroom
      · omega
  · rw [Table.get_put] at hget
    split at hget
    · cases hget
      exact hpin
    · exact hrest.pins k pin' hget

theorem next_safe (hp : Compiled policy options p) (c : Call) (hq : Safe options p q) :
    Safe options p (q.next c) := by
  cases hc : c.answer? with
  | some x =>
    rcases call_answer (p := q) hc with ⟨-, pin, hpinned⟩ | ⟨-, hpurged⟩
    · exact hpinned.safe hp hq
    · exact hpurged.safe hq
  | none =>
    cases c with
    | pinDNS | pinDNSForAddressFamily => cases hc
    | authorizeIP => exact hq
    | authorizePinned protocol rawDomain address port now =>
      exact (authorizePinned_cases q protocol rawDomain address port now).2.safe hq

theorem after_safe (hp : Compiled policy options p) (calls : List Call) :
    Safe options p (p.after calls) := by
  have hstart : Safe options p p := by
    refine ⟨rfl, ?_, fun k pin hget => ?_⟩
    · rw [hp.no_pins]
      exact le_trans (by decide) hp.pins_pos
    · rw [hp.no_pins] at hget
      simp at hget
  exact History.after_invariant (I := Safe options p) (fun q c hq => next_safe hp c hq) hstart calls

/-! ## Pin times -/

/-- An accepted call of the history wrote `pin` under `k`, to expire at most `limit` later. -/
def PinnedWithin (p : CompiledPolicy) (calls : List Call) (k : PinKey) (pin : DNSPin) (limit : ℤ) :
    Prop :=
  ∃ us c vs a family, calls = us ++ c :: vs ∧ c.answer? = some (a, family) ∧
    ((p.after us).call c).1.allowed = true ∧
    ((p.after us).next c).pins.get k = some pin ∧ pin.expiresAt ≤ a.now + limit

/-- A pin that was not there before the call is the one the call made. -/
theorem next_get {k : PinKey} (h : (q.next c).pins.get k = some pin) :
    q.pins.get k = some pin ∨ ∃ a family, c.answer? = some (a, family) ∧
      (q.call c).1.allowed = true ∧ pin.expiresAt ≤ a.now + q.maximumTTL := by
  have hpurged : ∀ {q' : CompiledPolicy} {now : ℤ}, Purged q q' now → q'.pins.get k = some pin →
      q.pins.get k = some pin := by
    rintro q' now ⟨gone, rfl, -⟩ hget
    rw [Table.get_deleteWhere, Option.filter_eq_some_iff] at hget
    exact hget.1
  cases hc : c.answer? with
  | some x =>
    obtain ⟨a, family⟩ := x
    rcases call_answer (p := q) hc with ⟨hallowed, pin', hpinned⟩ | ⟨-, hpurged'⟩
    · rw [hpinned.stored, Table.get_put] at h
      split at h
      · cases h
        have hexpires := hpinned.expires
        have hmin := min_le_right a.ttl q.maximumTTL
        exact Or.inr ⟨a, family, rfl, hallowed, by omega⟩
      · exact Or.inl (hpurged (purged_removeExpiredPins q a.now) h)
    · exact Or.inl (hpurged hpurged' h)
  | none =>
    cases c with
    | pinDNS | pinDNSForAddressFamily => cases hc
    | authorizeIP => exact Or.inl h
    | authorizePinned protocol rawDomain address port now =>
      exact Or.inl (hpurged (authorizePinned_cases q protocol rawDomain address port now).2 h)

theorem after_pinnedWithin (hp : Compiled policy options p) (calls : List Call) {k : PinKey}
    (h : (p.after calls).pins.get k = some pin) :
    PinnedWithin p calls k pin options.maximumTTL := by
  -- the pin is as old as the last call that wrote it, so the induction is on the last call
  induction calls using List.reverseRecOn with
  | nil =>
    rw [CompiledPolicy.after, History.after_nil, hp.no_pins] at h
    simp at h
  | append_singleton calls c ih =>
    have hafter : p.after (calls ++ [c]) = (p.after calls).next c := by
      rw [CompiledPolicy.after, History.after_append]
      rfl
    rw [hafter] at h
    rcases next_get h with hold | ⟨a, family, hc, hallowed, hexpires⟩
    · obtain ⟨us, c', vs, a, family, rfl, hrest⟩ := ih hold
      exact ⟨us, c', vs ++ [c], a, family, by simp, hrest⟩
    · have httl : (p.after calls).maximumTTL = options.maximumTTL := by
        rw [(after_safe hp calls).rules]
        exact hp.maximumTTL
      exact ⟨calls, c, [], a, family, by simp, hc, hallowed, h, by rw [← httl]; exact hexpires⟩

/-! ## Verdicts -/

/-- A domain destination of the policy for this protocol, name and port. -/
def Policy.AllowsDomain (policy : Policy) (protocol : Protocol) (rawDomain : String) (port : ℕ) :
    Prop :=
  ∃ d ∈ policy.destinations, d.protocol = protocol ∧ d.port = port ∧
    ∃ domain, normalizeDomain d.domain = .ok domain ∧ normalizeDomain rawDomain = .ok domain

/-- A CIDR destination of the policy for this protocol, address and port. -/
def Policy.AllowsAddress (policy : Policy) (protocol : Protocol) (address : Addr) (port : ℕ) :
    Prop :=
  ∃ d ∈ policy.destinations, d.protocol = protocol ∧ d.port = port ∧ d.cidr.contains address = true

/-- What the policy and its options say for a call that is allowed. -/
def Grants (policy : Policy) (options : CompileOptions) : Call → Prop
  | .pinDNS a | .pinDNSForAddressFamily a _ =>
    policy.AllowsDomain a.protocol a.rawDomain a.port ∧ ∀ b ∈ a.addresses,
      ¬options.Protects (normalizeAddress b)
  | .authorizeIP protocol address port =>
    policy.AllowsAddress protocol (normalizeAddress address) port ∧
      ¬options.Protects (normalizeAddress address)
  | .authorizePinned protocol rawDomain address port _ =>
    policy.AllowsDomain protocol rawDomain port ∧ (¬options.Protects (normalizeAddress address) ∨
      ∃ domain, normalizeDomain rawDomain = .ok domain ∧
      options.Gateway domain (normalizeAddress address))

theorem normalizeDomain_ne_empty {raw : String} : normalizeDomain raw ≠ .ok "" := by
  intro h
  obtain ⟨hn, hempty⟩ := normalizeLogicalGatewayName_eq_ok.1 h
  exact hn.nonempty (by simpa using congrArg String.toList hempty.symm)

theorem Compiled.allowsDomain (hp : Compiled policy options p) {protocol : Protocol}
    {rawDomain domain : String} {port : ℕ} (hdomain : normalizeDomain rawDomain = .ok domain)
    (h : p.hasDomainRule protocol domain port = true) :
    policy.AllowsDomain protocol rawDomain port := by
  simp only [CompiledPolicy.hasDomainRule, List.any_eq_true, Bool.and_eq_true, beq_iff_eq] at h
  obtain ⟨d', hd', ⟨rfl, rfl⟩, rfl⟩ := h
  obtain ⟨d, hd, hvalid⟩ := hp.mem_destinations hd'
  obtain ⟨hprotocol, hport, ⟨hname, -⟩ | ⟨hempty, -⟩⟩ := validateDestination_cases hvalid
  · exact ⟨d, hd, hprotocol.symm, hport.symm, d'.domain, hname, hdomain⟩
  · rw [hempty] at hdomain
    exact absurd hdomain normalizeDomain_ne_empty

theorem Compiled.allowsAddress (hp : Compiled policy options p) {d' : Destination}
    (hd' : d' ∈ p.destinations) (hempty : d'.domain = "") (h : d'.cidr.contains address = true) :
    policy.AllowsAddress d'.protocol address d'.port := by
  obtain ⟨d, hd, hvalid⟩ := hp.mem_destinations hd'
  obtain ⟨hprotocol, hport, ⟨hname, -⟩ | ⟨-, -, hcidr⟩⟩ := validateDestination_cases hvalid
  · rw [hempty] at hname
    exact absurd hname normalizeDomain_ne_empty
  · refine ⟨d, hd, hprotocol.symm, hport.symm, ?_⟩
    rwa [hcidr, Prefix.contains_masked] at h

theorem call_grants (hp : Compiled policy options p) (hq : SameRules p q)
    (h : (q.call c).1.allowed = true) : policy.mode ≠ .denyAll ∧ Grants policy options c := by
  have hmode : q.mode = policy.mode := by rw [hq, ← hp.mode]
  have hunprotected : ∀ {b : Addr}, q.isProtected b = false → ¬options.Protects b := by
    intro b hb hprotects
    rw [(hq.isProtected_iff hp).2 hprotects] at hb
    cases hb
  have hrule : ∀ {protocol domain port}, q.hasDomainRule protocol domain port = true →
      p.hasDomainRule protocol domain port = true := by
    intro protocol domain port hr
    rw [hq] at hr
    exact hr
  have hanswer : ∀ {a family}, c.answer? = some (a, family) → policy.mode ≠ .denyAll ∧
      policy.AllowsDomain a.protocol a.rawDomain a.port ∧
        ∀ b ∈ a.addresses, ¬options.Protects (normalizeAddress b) := by
    intro a family hc
    rcases call_answer (p := q) hc with ⟨-, pin, hpinned⟩ | ⟨hrefused, -⟩
    · exact ⟨hmode ▸ hpinned.mode, hp.allowsDomain hpinned.domain (hrule hpinned.rule),
        fun b hb => hunprotected (hpinned.answer b hb)⟩
    · rw [hrefused] at h
      cases h
  cases c with
  | pinDNS a => exact hanswer rfl
  | pinDNSForAddressFamily a family => exact hanswer rfl
  | authorizeIP protocol address port =>
    obtain ⟨hm, hprotected, d, hd, hempty, rfl, rfl, hcontains⟩ := authorizeIP_allowed h
    have hd : d ∈ p.destinations := by rwa [hq] at hd
    exact ⟨hmode ▸ hm, hp.allowsAddress hd hempty hcontains, hunprotected hprotected⟩
  | authorizePinned protocol rawDomain address port now =>
    obtain ⟨hm, domain, hdomain, hr, htarget⟩ :=
      (authorizePinned_cases q protocol rawDomain address port now).1 h
    refine ⟨hmode ▸ hm, hp.allowsDomain hdomain (hrule hr), ?_⟩
    rcases htarget with hgateway | hprotected
    · rw [hq] at hgateway
      exact Or.inr ⟨domain, hdomain, hp.gateways domain _ hgateway⟩
    · exact Or.inl (hunprotected hprotected)

/-- Over every sequence of calls on a compiled policy the pins stay bounded and
safe, verdicts follow the policy, and a refused pin leaves no trace.  No
assumption on the times of the calls is needed. -/
theorem pins_bounded_and_safe (h : compile policy options = .ok p) (calls : List Call) :
    ((p.after calls).pins.size ≤ options.maximumPins) ∧
    (∀ k pin, (p.after calls).pins.get k = some pin →
      SafePin options pin ∧ PinnedWithin p calls k pin options.maximumTTL) ∧
    (∀ c, ((p.after calls).call c).1.allowed = true → Grants policy options c) ∧
    (policy.mode = .denyAll → ∀ c, ((p.after calls).call c).1.allowed = false) ∧
    (∀ c a family, c.answer? = some (a, family) → ((p.after calls).call c).1.allowed = false →
      Purged (p.after calls) ((p.after calls).next c) a.now) := by
  have hp := compile_eq_ok h
  have hsafe := after_safe hp calls
  refine ⟨?_, fun k pin hget => ⟨hsafe.pins k pin hget, after_pinnedWithin hp calls hget⟩,
    fun c hallowed => (call_grants hp hsafe.rules hallowed).2, fun hdeny c => ?_,
    fun c a family hc hrefused => ?_⟩
  · rw [← hp.maximumPins]
    have hmax : (p.after calls).maximumPins = p.maximumPins := by rw [hsafe.rules]
    rw [← hmax]
    exact hsafe.size
  · by_contra hallowed
    exact (call_grants hp hsafe.rules (by simpa using hallowed)).1 hdeny
  · rcases call_answer (p := p.after calls) hc with ⟨hallowed, -⟩ | ⟨-, hpurged⟩
    · rw [hrefused] at hallowed
      cases hallowed
    · exact hpurged

end

/-- One domain destination, next to the gateway the Runner offers under another name. -/
def samplePolicy : Policy :=
  ⟨.allowList, [⟨.https, "API.example.", .invalid, 443⟩, ⟨.tcp, "", .ofAddr (.ofBytes 8 8 0 0) 16, 80⟩]⟩

/-- Options with one gateway. -/
def sampleOptions : CompileOptions :=
  ⟨2, 60000000000, [.v4 0x0a000001#32], [], [],
    Table.empty.put "gateway.internal" (.v4 0x0a000001#32)⟩

/-- An answer with one address. -/
def sampleCall : Call := .pinDNS ⟨.https, "api.example", 443, [.v4 0x08080808#32], 5, 0⟩

/-- An answer is pinned under `samplePolicy`, and the pins are as bounded as promised. -/
theorem pins_bounded_sample : ∃ p, compile samplePolicy sampleOptions = .ok p ∧
    (p.after [sampleCall]).pins.size = 1 ∧ (1 : ℤ) ≤ sampleOptions.maximumPins := by
  obtain ⟨p, hp, hsize⟩ := exists_ok (x := compile samplePolicy sampleOptions)
    (f := fun p => (p.after [sampleCall]).pins.size == 1) (by decide +kernel)
  have hsize := beq_iff_eq.1 hsize
  have hbound := (pins_bounded_and_safe hp [sampleCall]).1
  rw [hsize] at hbound
  exact ⟨p, hp, hsize, hbound⟩

end SecondBox.NetworkPolicy

/-
  What one observed answer does to the pins of the policy and to the rendered
  addresses.

  `live` are the pins that have not expired by the time of the answer.  `Mid`
  says what the loop over the destinations has done to them after some of the
  keys, `observeDestinations_spec` how the loop ends.  An answer that was pinned
  for one key is refused for another only if that one has no pin.
-/
import SecondBox.NetworkPolicy.Enforcer

namespace SecondBox.NetworkPolicy

open Netip Relational Check

/-! ## Live pins -/

/-- The pin under `k`, if it has not expired by `now`. -/
def CompiledPolicy.live (p : CompiledPolicy) (now : ℤ) (k : PinKey) : Option DNSPin :=
  (p.removeExpiredPins now).pins.get k

section
variable {p q : CompiledPolicy} {k : PinKey} {pin : DNSPin} {t now : ℤ}

theorem live_eq_some : p.live now k = some pin ↔ p.pins.get k = some pin ∧ now < pin.expiresAt := by
  simp [CompiledPolicy.live, CompiledPolicy.removeExpiredPins, Option.filter_eq_some_iff]

theorem live_later (h : t ≤ now) : p.live now k = some pin ↔ p.live t k = some pin ∧
    now < pin.expiresAt := by
  rw [live_eq_some, live_eq_some]
  constructor
  · rintro ⟨hget, hlt⟩
    exact ⟨⟨hget, by omega⟩, hlt⟩
  · rintro ⟨⟨hget, -⟩, hlt⟩
    exact ⟨hget, hlt⟩

theorem live_removeExpiredPins : (p.removeExpiredPins now).live now k = p.live now k := by
  ext pin
  rw [live_eq_some]
  simp [CompiledPolicy.live, CompiledPolicy.removeExpiredPins, Option.filter_eq_some_iff]

end

/-- The destination's key of a family. -/
def Destination.key (d : Destination) (family : ℕ) : PinKey :=
  ⟨d.protocol, d.domain, d.port, family⟩

/-- The keys of the destinations for `domain`, in their order. -/
def domainKeys (domain : String) (family : ℕ) (ds : List Destination) : List PinKey :=
  (ds.filter fun d => d.domain == domain).map fun d => d.key family

theorem mem_domainKeys {domain : String} {family : ℕ} {ds : List Destination} {k : PinKey} :
    k ∈ domainKeys domain family ds ↔ ∃ d ∈ ds, d.domain = domain ∧ d.key family = k := by
  simp [domainKeys, and_assoc]

/-! ## Answers that cannot be refused -/

theorem mem_mergeAddresses {left right : List Addr} {a : Addr} :
    a ∈ mergeAddresses left right ↔ a ∈ left ∨ a ∈ right := by
  simp [mergeAddresses, mem_sortAddresses, mem_appendNew]

/-- A merge of addresses that are all in `bound` is no longer than it. -/
theorem length_mergeAddresses_le {left right bound : List Addr} (hleft : left ⊆ bound)
    (hright : right ⊆ bound) :
    (mergeAddresses left right).length ≤ bound.length := by
  have hnodup : (mergeAddresses left right).Nodup :=
    (pairwise_sortAddresses (nodup_appendNew (nodup_appendNew List.nodup_nil))).imp ne_of_lt
  refine (List.subperm_of_subset hnodup fun a ha => ?_).length_le
  rcases mem_mergeAddresses.1 ha with ha | ha
  · exact hleft ha
  · exact hright ha

/-- Whether an answer is acceptable does not depend on the pins. -/
theorem normalizeAnswer_sameRules {p q : CompiledPolicy} (h : SameRules p q) (family : ℕ) :
    ∀ (addresses seen : List Addr), q.normalizeAnswer family seen addresses = p.normalizeAnswer
      family seen addresses
  | [], _ => rfl
  | a :: addresses, seen => by
    have hprotected : q.isProtected = p.isProtected := by rw [h]; rfl
    simp only [CompiledPolicy.normalizeAnswer, hprotected,
      normalizeAnswer_sameRules h family addresses]

/-- An answer that was pinned for one key is pinned for another that has a pin it fits into. -/
theorem pinAnswer_allowed {p q p' : CompiledPolicy} {a b : Answer} {family : ℕ} {pin old : DNSPin}
    {bound : List Addr} (hsame : SameRules p q) (hpinned : Pinned p a family pin p')
    (haddresses : b.addresses = a.addresses)
    (httl : b.ttl = a.ttl) (hname : normalizeDomain b.rawDomain = .ok b.rawDomain)
    (hrule : q.hasDomainRule b.protocol b.rawDomain b.port = true)
    (hold : q.live b.now (b.key b.rawDomain family) = some old) (hfits : old.addresses ⊆ bound)
    (hanswer : b.addresses.map normalizeAddress ⊆ bound)
    (hbound : bound.length ≤ maximumPinAddresses) :
    (q.pinAnswer b family).1.2.allowed = true := by
  obtain ⟨normalized, hnormalized⟩ := hpinned.accepted
  rw [← haddresses, ← normalizeAnswer_sameRules hsame] at hnormalized
  obtain ⟨hr, -⟩ := normalizeAnswer_eq_ok hnormalized
  have hmode : ¬q.mode = .denyAll := by
    rw [hsame]
    exact hpinned.mode
  have hmem : ∀ c, c ∈ normalized ↔ c ∈ b.addresses.map normalizeAddress := by
    intro c
    simp [hr, mem_appendNew]
  have hnonempty : b.addresses ≠ [] := haddresses ▸ hpinned.nonempty
  have hne : normalized ≠ [] := by
    rintro rfl
    obtain ⟨c, hc⟩ := List.exists_mem_of_ne_nil _ hnonempty
    simpa using (hmem (normalizeAddress c)).2 (List.mem_map_of_mem hc)
  have hshort : ¬maximumPinAddresses <
      (mergeAddresses old.addresses (sortAddresses normalized)).length := by
    refine not_lt.2 (le_trans (length_mergeAddresses_le hfits fun c hc => ?_) hbound)
    exact hanswer ((hmem c).1 (mem_sortAddresses.1 hc))
  have httl : ¬b.ttl ≤ 0 := not_le.2 (httl ▸ hpinned.ttl)
  have hold : (q.removeExpiredPins b.now).pins.get ⟨b.protocol, b.rawDomain, b.port, family⟩ =
    some old := hold
  simp [CompiledPolicy.pinAnswer, CompiledPolicy.pin, hmode, hname, hrule, httl, hnonempty,
    hnormalized, hne, CompiledPolicy.storePin, hold, hshort]

/-! ## The pins made by one answer -/

/-- After the keys `K`: each of them holds its live addresses and the answer's,
until `e`; every other pin is as it was. -/
structure Mid (base : PinKey → Option DNSPin) (o : Observation) (e : ℤ) (K : List PinKey)
    (q : CompiledPolicy) :
    Prop where
  pinned : ∀ k ∈ K, ∃ pin, q.live o.now k = some pin ∧ pin.expiresAt = e ∧
    pin.addresses.length ≤ maximumPinAddresses ∧
    ∀ a, a ∈ pin.addresses ↔ (∃ old, base k = some old ∧ a ∈ old.addresses) ∨
      a ∈ o.addresses.map normalizeAddress
  rest : ∀ k, k ∉ K → q.live o.now k = base k

section
variable {policy : Policy} {options : CompileOptions} {p₀ p q q' : CompiledPolicy} {o : Observation}
  {K : List PinKey}
  {base : PinKey → Option DNSPin} {e : ℤ} {d : Destination} {pin : DNSPin}

theorem Mid.start (o : Observation) (e : ℤ) (q : CompiledPolicy) : Mid (q.live o.now) o e [] q :=
  ⟨by simp, fun _ _ => rfl⟩

theorem Mid.refused (h : Mid base o e K q) (hq' : ∀ k, q'.live o.now k = q.live o.now k) :
    Mid base o e K q' := by
  constructor
  · intro k hk
    rw [hq']
    exact h.pinned k hk
  · intro k hk
    rw [hq']
    exact h.rest k hk

theorem Pinned.live (h : Pinned q (o.answer d) o.family pin q') (hlive : o.now < pin.expiresAt)
    (k : PinKey) :
    q'.live o.now k = if k = (o.answer d).key pin.domain o.family then
      some pin else q.live o.now k := by
  have hget : q'.pins.get k = if k = (o.answer d).key pin.domain o.family then
      some pin else q.live o.now k := by
    rw [h.stored]
    exact Table.get_put _ _ _ _
  ext pin'
  rw [live_eq_some, hget]
  split
  · simp only [Option.some.injEq]
    constructor
    · exact fun h => h.1
    · rintro rfl
      exact ⟨rfl, hlive⟩
  · rw [live_eq_some]
    tauto

theorem Mid.accept (h : Mid base o e K q) (hpinned : Pinned q (o.answer d) o.family pin q')
    (hdomain : pin.domain = d.domain) (he : pin.expiresAt = e) (hlive : o.now < e) :
    Mid base o e (K ++ [d.key o.family]) q' := by
  have hkey : (o.answer d).key pin.domain o.family = d.key o.family := by rw [hdomain]; rfl
  have hget : ∀ k, q'.live o.now k = if k = d.key o.family then some pin else q.live o.now k := by
    intro k
    rw [hpinned.live (he ▸ hlive), hkey]
  constructor
  · intro k hk
    by_cases heq : k = d.key o.family
    · subst heq
      refine ⟨pin, by rw [hget, if_pos rfl], he, hpinned.short, fun a => ?_⟩
      have hmem : a ∈ pin.addresses ↔
          (∃ old, q.live o.now (d.key o.family) = some old ∧ a ∈ old.addresses) ∨
          a ∈ o.addresses.map normalizeAddress := by
        rw [← hkey, List.mem_map]
        exact hpinned.mem a
      rw [hmem]
      -- a key that was pinned before holds the answer already
      by_cases hK : d.key o.family ∈ K
      · obtain ⟨old, hold, -, -, hold'⟩ := h.pinned _ hK
        simp only [hold, Option.some.injEq, exists_eq_left', hold']
        rw [or_assoc, or_self]
      · rw [h.rest _ hK]
    · have hK : k ∈ K := by simpa [heq] using hk
      rw [hget, if_neg heq]
      exact h.pinned k hK
  · intro k hk
    simp only [List.mem_append, List.mem_singleton, not_or] at hk
    rw [hget, if_neg hk.2]
    exact h.rest k hk.1

/-- When the loop refuses an answer it pinned for another key, the key has no pin. -/
theorem Mid.refused_fresh (h : Mid base o e K q) {d₀ : Destination} {q₀ q₀' : CompiledPolicy}
    {pin₀ : DNSPin} (hq : SameRules q₀ q) (hfirst : Pinned q₀ (o.answer d₀) o.family pin₀ q₀')
    (hrule : q.hasDomainRule d.protocol d.domain d.port = true)
    (hname : normalizeDomain d.domain = .ok d.domain)
    (hfit : ∀ old, base (d.key o.family) = some old → ∃ k ∈ K, ∃ old', base k = some old' ∧
      old.addresses ⊆ old'.addresses)
        (hrefused : (q.pinAnswer (o.answer d) o.family).1.2.allowed = false) :
    d.key o.family ∉ K ∧ base (d.key o.family) = none := by
  have hallowed : ∀ old bound, q.live o.now (d.key o.family) = some old → old.addresses ⊆ bound →
      o.addresses.map normalizeAddress ⊆ bound → bound.length ≤ maximumPinAddresses → False := by
    intro old bound hold hfits hanswer hbound
    rw [pinAnswer_allowed (b := o.answer d) hq hfirst rfl rfl hname hrule hold hfits hanswer
      hbound] at hrefused
    cases hrefused
  have hK : d.key o.family ∉ K := by
    intro hK
    obtain ⟨old, hold, -, hshort, hmem⟩ := h.pinned _ hK
    exact hallowed old old.addresses hold (List.Subset.refl _) (fun a ha => (hmem a).2 (Or.inr ha))
      hshort
  refine ⟨hK, ?_⟩
  by_contra hsome
  obtain ⟨old, hold⟩ := Option.ne_none_iff_exists'.1 hsome
  obtain ⟨k, hk, old', hold', hsub⟩ := hfit old hold
  obtain ⟨pin', -, -, hshort, hmem⟩ := h.pinned k hk
  refine hallowed old pin'.addresses ((h.rest _ hK).trans hold) (fun a ha => ?_)
    (fun a ha => (hmem a).2 (Or.inr ha))
    hshort
  exact (hmem a).2 (Or.inl ⟨old', hold', hsub ha⟩)

/-! ## The loop over the destinations -/

/-- The keys an answer is pinned under for the destinations `ds`. -/
def Observation.keys (o : Observation) (ds : List (Destination × ℕ)) : List PinKey :=
  domainKeys (observedDomain o.domain) o.family (ds.map Prod.fst)

/-- What the loop over `ds` does to the rendered addresses. -/
structure Rerendered (base : PinKey → Option DNSPin) (o : Observation) (e : ℤ)
    (ds : List (Destination × ℕ)) (inst inst' : PolicyInstance) : Prop where
  matched : ∀ d i, (d, i) ∈ ds → d.domain = observedDomain o.domain → inst'.expiry.get i = some e ∧
    ∀ a, a ∈ inst'.rendered i ↔ a ∈ inst.rendered i ∨
      (∃ old, base (d.key o.family) = some old ∧ a ∈ old.addresses) ∨
      a ∈ o.addresses.map normalizeAddress
  other : ∀ i, (∀ d, (d, i) ∈ ds → d.domain ≠ observedDomain o.domain) →
    inst'.pins.get i = inst.pins.get i ∧ inst'.expiry.get i = inst.expiry.get i
  nodup : ∀ i, (inst.rendered i).Nodup → (inst'.rendered i).Nodup

theorem Compiled.normalizeDomain_self (hp : Compiled policy options p₀) (hd : d ∈ p₀.destinations)
    {domain : String} (h : normalizeDomain d.domain = .ok domain) : domain = d.domain := by
  obtain ⟨d', -, hvalid⟩ := hp.mem_destinations hd
  obtain ⟨-, -, ⟨hname, -⟩ | ⟨hempty, -⟩⟩ := validateDestination_cases hvalid
  · have hself := normalizeLogicalGatewayName_idem hname
    exact Except.ok.inj (h.symm.trans hself)
  · rw [hempty] at h
    have hrefused : normalizeDomain "" = .error .length := by decide +kernel
    rw [hrefused] at h
    cases h

/-- One destination of the loop: the answer is pinned, or refused without a trace. -/
theorem pin_destination (hp : Compiled policy options p₀) (hsame : SameRules p₀ q)
    (hd : d ∈ p₀.destinations) :
    (∃ pin q', o.pin q d = ((pin, ⟨true, .allowedDomain⟩), q') ∧ Pinned q (o.answer d) o.family pin q' ∧
        (o.family = 4 ∨ o.family = 6) ∧ pin.domain = d.domain ∧
        pin.expiresAt = o.now + min o.ttl p₀.maximumTTL ∧ o.now < pin.expiresAt ∧ SameRules p₀ q') ∨
      ((o.pin q d).1.2.allowed = false ∧ SameRules p₀ (o.pin q d).2 ∧
        (∀ k, (o.pin q d).2.live o.now k = q.live o.now k) ∧
        ((o.family = 4 ∨ o.family = 6) → (q.pinAnswer (o.answer d) o.family).1.2.allowed = false)) := by
  rw [Observation.pin, CompiledPolicy.pinDNSForAddressFamily]
  split
  next hfamily => exact Or.inr ⟨rfl, hsame, fun _ => rfl, fun h => by omega⟩
  next hfamily =>
  have heq : q.pin d.protocol d.domain d.port o.family o.addresses o.ttl o.now =
    q.pinAnswer (o.answer d) o.family := rfl
  rw [heq]
  rcases pin_cases q (o.answer d) o.family with ⟨pin, q', hpin, hpinned⟩ | ⟨hrefused, hstate⟩
  · have hdomain : pin.domain = d.domain := hp.normalizeDomain_self hd hpinned.domain
    have hexpires : pin.expiresAt = o.now + min o.ttl p₀.maximumTTL := by
      have hmax : q.maximumTTL = p₀.maximumTTL := by rw [hsame]
      rw [hpinned.expires, hmax]
      rfl
    have hpos : 0 < min o.ttl p₀.maximumTTL := lt_min hpinned.ttl hp.ttl_pos
    refine Or.inl ⟨pin, q', hpin, hpinned, by omega, hdomain, hexpires, by omega, ?_⟩
    rw [hpinned.stored]
    exact hsame.pins_only
  · refine Or.inr ⟨hrefused, ?_, fun k => ?_, fun _ => hrefused⟩ <;>
      rcases hstate with hstate | hstate <;> rw [hstate]
    · exact hsame
    · exact hsame.pins_only
    · exact live_removeExpiredPins

theorem keys_cons_of_ne {i : ℕ} {ds : List (Destination × ℕ)}
    (h : d.domain ≠ observedDomain o.domain) :
    o.keys ((d, i) :: ds) = o.keys ds := by
  simp [Observation.keys, domainKeys, h]

theorem keys_cons_of_eq {i : ℕ} {ds : List (Destination × ℕ)}
    (h : d.domain = observedDomain o.domain) :
    o.keys ((d, i) :: ds) = d.key o.family :: o.keys ds := by
  simp [Observation.keys, domainKeys, h]

/-- The answer was pinned for a destination before. -/
def Begun (o : Observation) (p₀ : CompiledPolicy) : Prop :=
  (o.family = 4 ∨ o.family = 6) ∧ ∃ d q pin q', d.domain = observedDomain o.domain ∧
    SameRules p₀ q ∧ Pinned q (o.answer d) o.family pin q'

/-- The loop is about to go over `ds`, after the keys `K`. -/
structure Ready (p₀ : CompiledPolicy) (base : PinKey → Option DNSPin) (o : Observation) (e : ℤ)
    (K : List PinKey) (ds : List (Destination × ℕ)) (inst : PolicyInstance) : Prop where
  destinations : ∀ x ∈ ds, x.1 ∈ p₀.destinations
  indices : (ds.map Prod.snd).Nodup
  rules : SameRules p₀ inst.policy
  mid : Mid base o e K inst.policy
  begun : K ≠ [] → Begun o p₀
  fits : ∀ k₀, (K ++ o.keys ds).head? = some k₀ → ∀ x ∈ ds, x.1.domain = observedDomain o.domain →
    ∀ old,
    base (x.1.key o.family) = some old → ∃ old', base k₀ = some old' ∧
    old.addresses ⊆ old'.addresses

/-- The answer was pinned for every matching destination. -/
structure Finished (p₀ : CompiledPolicy) (base : PinKey → Option DNSPin) (o : Observation) (e : ℤ)
    (K : List PinKey) (ds : List (Destination × ℕ)) (inst inst' : PolicyInstance) : Prop where
  rules : SameRules p₀ inst'.policy
  mid : Mid base o e (K ++ o.keys ds) inst'.policy
  begun : K ++ o.keys ds ≠ [] → Begun o p₀
  rendered : Rerendered base o e ds inst inst'

/-- The answer was refused for a destination; if it had been pinned for another, that one has no pin. -/
structure Stopped (p₀ : CompiledPolicy) (base : PinKey → Option DNSPin) (o : Observation) (e : ℤ)
    (K : List PinKey) (ds : List (Destination × ℕ)) (inst' : PolicyInstance) : Prop where
  rules : SameRules p₀ inst'.policy
  split : ∃ us x vs, ds = us ++ x :: vs ∧ x.1.domain = observedDomain o.domain ∧
    Mid base o e (K ++ o.keys us) inst'.policy ∧
    (K ++ o.keys us ≠ [] → Begun o p₀ ∧ x.1.key o.family ∉ K ++ o.keys us ∧
      base (x.1.key o.family) = none)

section
variable {ds : List (Destination × ℕ)} {i : ℕ} {inst inst' : PolicyInstance}

theorem Rerendered.refl : Rerendered base o e [] inst inst :=
  ⟨fun d i h => (by cases h), fun i _ => ⟨rfl, rfl⟩, fun i h => h⟩

theorem Rerendered.skip (h : Rerendered base o e ds inst inst')
    (hdomain : d.domain ≠ observedDomain o.domain) :
    Rerendered base o e ((d, i) :: ds) inst inst' := by
  refine ⟨fun d' j hmem hd' => ?_, fun j hj => ?_, h.nodup⟩
  · rcases List.mem_cons.1 hmem with heq | hmem
    · cases heq
      exact absurd hd' hdomain
    · exact h.matched d' j hmem hd'
  · exact h.other j fun d' hd' => hj d' (List.mem_cons_of_mem _ hd')

/-- The instance once the answer is pinned for destination `i`. -/
def render (inst : PolicyInstance) (i : ℕ) (pin : DNSPin) (q : CompiledPolicy) : PolicyInstance :=
  { inst with policy := q, pins := inst.pins.put i (mergePolicyAddresses (inst.rendered i) pin.addresses),
              expiry := inst.expiry.put i pin.expiresAt }

theorem rendered_render_of_ne {j : ℕ} (h : j ≠ i) :
    (render inst i pin q).rendered j = inst.rendered j := by
  rw [render, PolicyInstance.rendered, Table.get_put_of_ne _ _ h]
  rfl

theorem rendered_render_self :
    (render inst i pin q).rendered i = mergePolicyAddresses (inst.rendered i) pin.addresses := by
  rw [render, PolicyInstance.rendered, Table.get_put_self]
  rfl

theorem Rerendered.accept (h : Rerendered base o e ds (render inst i pin q) inst')
    (hi : i ∉ ds.map Prod.snd) (he : pin.expiresAt = e) (hmem : ∀ a, a ∈ pin.addresses ↔
      (∃ old, base (d.key o.family) = some old ∧ a ∈ old.addresses) ∨
        a ∈ o.addresses.map normalizeAddress)
    (hdomain : d.domain = observedDomain o.domain) :
    Rerendered base o e ((d, i) :: ds) inst inst' := by
  have hne : ∀ {d' j}, (d', j) ∈ ds → j ≠ i := by
    rintro d' j hmem rfl
    exact hi (List.mem_map.2 ⟨_, hmem, rfl⟩)
  obtain ⟨hpins, hexpiry⟩ := h.other i fun d' hd' => absurd rfl (hne hd')
  have hself : inst'.rendered i = mergePolicyAddresses (inst.rendered i) pin.addresses := by
    rw [PolicyInstance.rendered, hpins]
    exact rendered_render_self
  refine ⟨fun d' j hmem' hd' => ?_, fun j hj => ?_, fun j hj => ?_⟩
  · rcases List.mem_cons.1 hmem' with heq | hmem'
    · cases heq
      refine ⟨?_, fun a => ?_⟩
      · rw [hexpiry, render, Table.get_put_self, he]
      · rw [hself, mergePolicyAddresses, mem_appendNew, mem_appendNew, hmem]
        simp
    · have hj := h.matched d' j hmem' hd'
      rwa [rendered_render_of_ne (hne hmem')] at hj
  · have hji : j ≠ i := by
      rintro rfl
      exact hj d (List.mem_cons_self ..) hdomain
    obtain ⟨hpins, hexpiry⟩ := h.other j fun d' hd' => hj d' (List.mem_cons_of_mem _ hd')
    rw [hpins, hexpiry]
    exact ⟨Table.get_put_of_ne _ _ hji, Table.get_put_of_ne _ _ hji⟩
  · by_cases hji : j = i
    · subst hji
      rw [hself]
      exact nodup_appendNew (nodup_appendNew List.nodup_nil)
    · refine h.nodup j ?_
      rwa [rendered_render_of_ne hji]

/-- The loop pins the answer everywhere, or stops at a destination. -/
theorem observeDestinations_spec (hp : Compiled policy options p₀)
    (he : e = o.now + min o.ttl p₀.maximumTTL) {r : Option ℤ} (h : Ready p₀ base o e K ds inst) :
    (∃ inst', PolicyInstance.observeDestinations o ds inst r = (inst', .ok (if o.keys ds = [] then r else some e)) ∧
      Finished p₀ base o e K ds inst inst') ∨
    (∃ inst' error, PolicyInstance.observeDestinations o ds inst r = (inst', .error error) ∧
      Stopped p₀ base o e K ds inst') := by
  induction ds generalizing K inst r with
  | nil =>
    have hnil : K ++ o.keys [] = K := by simp [Observation.keys, domainKeys]
    refine Or.inl ⟨inst, rfl, h.rules, ?_, ?_, .refl⟩ <;> rw [hnil]
    · exact h.mid
    · exact h.begun
  | cons x ds ih =>
    obtain ⟨d, i⟩ := x
    have hd : d ∈ p₀.destinations := h.destinations (d, i) (List.mem_cons_self ..)
    have hdestinations := fun x hx => h.destinations x (List.mem_cons_of_mem _ hx)
    have hindices := h.indices
    rw [List.map_cons, List.nodup_cons] at hindices
    rw [PolicyInstance.observeDestinations]
    by_cases hdomain : d.domain = observedDomain o.domain
    · rw [if_neg (not_not.2 hdomain)]
      rcases pin_destination hp h.rules hd (o := o) with
        ⟨pin, q', hpin, hpinned, hfamily, hname, hexpires, hlive, hrules⟩ | ⟨hrefused,
          hrules, hsame, hwhy⟩
      · simp only [hpin, if_true]
        have hpe : pin.expiresAt = e := hexpires.trans he.symm
        have hmid := h.mid.accept hpinned hname hpe (hpe ▸ hlive)
        have hkeys : K ++ o.keys ((d, i) :: ds) = (K ++ [d.key o.family]) ++ o.keys ds := by
          rw [keys_cons_of_eq hdomain]
          simp
        have hready : Ready p₀ base o e (K ++ [d.key o.family]) ds (render inst i pin q') := by
          refine ⟨hdestinations, hindices.2, hrules, hmid,
            fun _ => ⟨hfamily, d, _, pin, q', hdomain, h.rules, hpinned⟩, ?_⟩
          intro k₀ hk₀ x hx
          rw [← hkeys] at hk₀
          exact h.fits k₀ hk₀ x (List.mem_cons_of_mem _ hx)
        have hmem : ∀ a, a ∈ pin.addresses ↔
            (∃ old, base (d.key o.family) = some old ∧ a ∈ old.addresses) ∨
            a ∈ o.addresses.map normalizeAddress := by
          obtain ⟨pin', hlive', -, -, hmem⟩ := hmid.pinned (d.key o.family) (by simp)
          have hkey : (o.answer d).key pin.domain o.family = d.key o.family := by rw [hname]; rfl
          rw [hpinned.live hlive, hkey, if_pos rfl] at hlive'
          cases hlive'
          exact hmem
        rcases ih (r := some pin.expiresAt) hready with ⟨inst', heq, hfinished⟩ | ⟨inst', error,
          heq, hstopped⟩
        · refine Or.inl ⟨inst', ?_, hfinished.rules, ?_, ?_,
            hfinished.rendered.accept hindices.1 hpe hmem hdomain⟩
          · rw [keys_cons_of_eq hdomain, if_neg (by simp)]
            refine heq.trans ?_
            rw [hpe, ite_self]
          · rw [hkeys]
            exact hfinished.mid
          · rw [hkeys]
            exact hfinished.begun
        · refine Or.inr ⟨inst', error, heq, hstopped.rules, ?_⟩
          obtain ⟨us, x, vs, rfl, hx, hmid', hfresh⟩ := hstopped.split
          have hkeys' : K ++ o.keys ((d, i) :: us) = (K ++ [d.key o.family]) ++ o.keys us := by
            rw [keys_cons_of_eq hdomain]
            simp
          refine ⟨(d, i) :: us, x, vs, rfl, hx, ?_, ?_⟩
          · rw [hkeys']
            exact hmid'
          · rw [hkeys']
            exact hfresh
      · simp only [hrefused, Bool.false_eq_true, if_false]
        refine Or.inr ⟨_, _, rfl, hrules, [], (d, i), ds, rfl, hdomain, ?_, ?_⟩
        · simpa [Observation.keys, domainKeys] using h.mid.refused hsame
        · intro hne
          have hnil : K ++ o.keys [] = K := by simp [Observation.keys, domainKeys]
          rw [hnil] at hne ⊢
          obtain ⟨hfamily, d₀, q₀, pin₀, q₀', hd₀, hsame₀, hpinned₀⟩ := h.begun hne
          have hname : normalizeDomain d.domain = .ok d.domain := by
            have hname₀ : normalizeDomain d.domain = .ok pin₀.domain := by
              rw [hdomain, ← hd₀]
              exact hpinned₀.domain
            rwa [hp.normalizeDomain_self hd hname₀] at hname₀
          have hrule : inst.policy.hasDomainRule d.protocol d.domain d.port = true := by
            rw [h.rules]
            exact List.any_eq_true.2 ⟨d, hd, by simp⟩
          refine ⟨h.begun hne, h.mid.refused_fresh (hsame₀.common h.rules) hpinned₀ hrule hname
            (fun old hold => ?_) (hwhy hfamily)⟩
          obtain ⟨k₀, K', rfl⟩ := List.exists_cons_of_ne_nil hne
          obtain ⟨old', hold', hsub⟩ :=
            h.fits k₀ rfl (d, i) (List.mem_cons_self ..) hdomain old hold
          exact ⟨k₀, List.mem_cons_self .., old', hold', hsub⟩
    · rw [if_pos hdomain]
      have hready : Ready p₀ base o e K ds inst := by
        refine ⟨hdestinations, hindices.2, h.rules, h.mid, h.begun, ?_⟩
        intro k₀ hk₀ x hx
        rw [← keys_cons_of_ne (i := i) hdomain] at hk₀
        exact h.fits k₀ hk₀ x (List.mem_cons_of_mem _ hx)
      rcases ih (r := r) hready with ⟨inst', heq, hfinished⟩ | ⟨inst', error, heq, hstopped⟩
      · refine Or.inl ⟨inst', ?_, hfinished.rules, ?_, ?_, hfinished.rendered.skip hdomain⟩ <;>
          rw [keys_cons_of_ne hdomain]
        · exact heq
        · exact hfinished.mid
        · exact hfinished.begun
      · refine Or.inr ⟨inst', error, heq, hstopped.rules, ?_⟩
        obtain ⟨us, x, vs, rfl, hx, hmid', hfresh⟩ := hstopped.split
        refine ⟨(d, i) :: us, x, vs, rfl, hx, ?_, ?_⟩
        · rw [keys_cons_of_ne hdomain]
          exact hmid'
        · rw [keys_cons_of_ne hdomain]
          exact hfresh

end

end

end SecondBox.NetworkPolicy

/-
  Rendered addresses live as long as their pins, provided no answer outlives
  the pins of the other family rendered beside it.

  `Upheld` is the invariant of whole runs.  Its `ordered` part is what makes a
  partly refused answer harmless: the keys of one domain are pinned in their
  order and expire together, so when the answer is refused for a key without a
  pin, nothing of its family is rendered.
-/
import SecondBox.NetworkPolicy.PinLoop

namespace SecondBox.NetworkPolicy

open Netip Relational Check

section
variable {policy : Policy} {options : CompileOptions} {p₀ q q' : CompiledPolicy} {o : Observation}
  {K : List PinKey}
  {base : PinKey → Option DNSPin} {e : ℤ} {d : Destination} {pin : DNSPin}

/-! ## The invariant -/

/-- The keys are pinned in their order: one that is pinned and did not come
before `k` holds no more than `k` does and expires with it. -/
def Ordered (g : PinKey → Option DNSPin) (keys : List PinKey) : Prop :=
  ∀ us k vs, keys = us ++ k :: vs → ∀ k' ∈ vs, k' ∉ us → ∀ pin', g k' = some pin' →
    ∃ pin, g k = some pin ∧ pin'.addresses ⊆ pin.addresses ∧ pin.expiresAt = pin'.expiresAt

/-- The pins `g` account for what is rendered. -/
structure Upheld (p₀ : CompiledPolicy) (g : PinKey → Option DNSPin) (w : Enforcer) : Prop where
  rules : SameRules p₀ w.inst.policy
  short : ∀ k pin, g k = some pin → pin.addresses.length ≤ maximumPinAddresses
  family : ∀ k pin, g k = some pin → k.family = 4 ∨ k.family = 6 → ∀ a ∈ pin.addresses,
    familyOf a = k.family
  ordered : ∀ domain family, Ordered g (domainKeys domain family p₀.destinations)
  rendered : ∀ i d, p₀.destinations[i]? = some d → ∀ a ∈ w.inst.rendered i, ∃ e pin,
    w.inst.expiry.get i = some e ∧ g (d.key (familyOf a)) = some pin ∧ a ∈ pin.addresses ∧
    e ≤ pin.expiresAt
  together : ∀ i d, p₀.destinations[i]? = some d → ∀ a ∈ w.inst.rendered i,
    ∀ k ∈ domainKeys d.domain (familyOf a) p₀.destinations, ∃ pin, g k = some pin
  timers : ∀ i d e, p₀.destinations[i]? = some d → w.inst.expiry.get i = some e →
    ∃ name, (name, e) ∈ w.timers ∧ observedDomain name = d.domain
  nodup : ∀ i, (w.inst.rendered i).Nodup

variable {keys : List PinKey} {k : PinKey}

theorem Ordered.head {g : PinKey → Option DNSPin} (h : Ordered g keys) {k₀ : PinKey}
    (hk₀ : keys.head? = some k₀) (hk : k ∈ keys) {pin : DNSPin} (hpin : g k = some pin) :
    ∃ pin₀, g k₀ = some pin₀ ∧ pin.addresses ⊆ pin₀.addresses ∧ pin₀.expiresAt = pin.expiresAt := by
  obtain ⟨vs, rfl⟩ := List.head?_eq_some_iff.1 hk₀
  rcases List.mem_cons.1 hk with rfl | hk
  · exact ⟨pin, hpin, List.Subset.refl _, rfl⟩
  · exact h [] k₀ vs rfl k hk (by simp) pin hpin

theorem Ordered.expiresAt_eq {g : PinKey → Option DNSPin} (h : Ordered g keys) {k' : PinKey}
    (hk : k ∈ keys) (hk' : k' ∈ keys) {pin pin' : DNSPin} (hpin : g k = some pin)
    (hpin' : g k' = some pin') :
    pin.expiresAt = pin'.expiresAt := by
  obtain ⟨k₀, hk₀⟩ : ∃ k₀, keys.head? = some k₀ := by
    obtain ⟨k₀, vs, rfl⟩ := List.exists_cons_of_ne_nil (List.ne_nil_of_mem hk)
    exact ⟨k₀, rfl⟩
  obtain ⟨pin₀, hpin₀, -, he⟩ := h.head hk₀ hk hpin
  obtain ⟨pin₀', hpin₀', -, he'⟩ := h.head hk₀ hk' hpin'
  rw [hpin₀] at hpin₀'
  cases hpin₀'
  rw [← he, ← he']

theorem key_mem_domainKeys {i : ℕ} (hd : p₀.destinations[i]? = some d) (family : ℕ) :
    d.key family ∈ domainKeys d.domain family p₀.destinations :=
  mem_domainKeys.2 ⟨d, List.mem_of_getElem? hd, rfl, rfl⟩

/-- Once the due timers have run, no pin that accounts for something rendered has expired. -/
theorem Upheld.later {w : Enforcer} {t : ℤ} (h : Upheld p₀ (w.inst.policy.live t) w)
    (ht : t ≤ w.now) (hs : w.Settled) : Upheld p₀ (w.inst.policy.live w.now) w := by
  have hlive : ∀ {k pin}, w.inst.policy.live w.now k = some pin →
      w.inst.policy.live t k = some pin ∧ w.now < pin.expiresAt := (live_later ht).1
  have hrendered : ∀ i d, p₀.destinations[i]? = some d → ∀ a ∈ w.inst.rendered i, ∃ e pin,
      w.inst.expiry.get i = some e ∧ w.inst.policy.live t (d.key (familyOf a)) = some pin ∧
      a ∈ pin.addresses ∧
        e ≤ pin.expiresAt ∧ w.now < pin.expiresAt := by
    intro i d hd a ha
    obtain ⟨e, pin, hexpiry, hpin, hmem, hle⟩ := h.rendered i d hd a ha
    obtain ⟨name, htimer, -⟩ := h.timers i d e hd hexpiry
    have hdue : w.now < e := hs _ htimer
    exact ⟨e, pin, hexpiry, hpin, hmem, hle, by omega⟩
  refine ⟨h.rules, fun k pin hk => h.short k pin (hlive hk).1,
    fun k pin hk => h.family k pin (hlive hk).1, ?_, ?_, ?_, h.timers, h.nodup⟩
  · intro domain family us k vs hkeys k' hk' hnew pin' hpin'
    obtain ⟨hold', hlt⟩ := hlive hpin'
    obtain ⟨pin, hpin, hsub, he⟩ := h.ordered domain family us k vs hkeys k' hk' hnew pin' hold'
    exact ⟨pin, (live_later ht).2 ⟨hpin, by omega⟩, hsub, he⟩
  · intro i d hd a ha
    obtain ⟨e, pin, hexpiry, hpin, hmem, hle, hlt⟩ := hrendered i d hd a ha
    exact ⟨e, pin, hexpiry, (live_later ht).2 ⟨hpin, hlt⟩, hmem, hle⟩
  · intro i d hd a ha k hk
    obtain ⟨pin, hpin⟩ := h.together i d hd a ha k hk
    obtain ⟨e, pin', -, hpin', -, -, hlt⟩ := hrendered i d hd a ha
    have he :=
      (h.ordered d.domain (familyOf a)).expiresAt_eq hk (key_mem_domainKeys hd _) hpin hpin'
    exact ⟨pin, (live_later ht).2 ⟨hpin, by omega⟩⟩

theorem Upheld.faithful {w : Enforcer} (h : Upheld p₀ (w.inst.policy.live w.now) w) :
    w.Faithful := by
  have hdestinations : w.inst.policy.destinations = p₀.destinations := by rw [h.rules]
  constructor <;> rw [hdestinations]
  · intro i d hd a ha
    obtain ⟨e, pin, -, hpin, hmem, -⟩ := h.rendered i d hd a ha
    obtain ⟨hget, hlt⟩ := live_eq_some.1 hpin
    exact ⟨pin, hget, hmem, hlt⟩
  · intro i d hd family
    rcases hl : (w.inst.rendered i).filter fun a => familyOf a == family with _ | ⟨a, l⟩
    · simp [maximumPinAddresses]
    · rw [← hl]
      have hmem : ∀ {b}, b ∈ (w.inst.rendered i).filter (fun a => familyOf a == family) →
          b ∈ w.inst.rendered i ∧ familyOf b = family := by
        intro b hb
        simpa using hb
      have ha := hmem (hl ▸ List.mem_cons_self ..)
      obtain ⟨e, pin, -, hpin, -, -⟩ := h.rendered i d hd a ha.1
      refine le_trans (List.subperm_of_subset ((h.nodup i).filter _) fun b hb => ?_).length_le
        (h.short _ pin hpin)
      obtain ⟨e', pin', -, hpin', hb', -⟩ := h.rendered i d hd b (hmem hb).1
      rw [(hmem hb).2, ← ha.2, hpin] at hpin'
      cases hpin'
      exact hb'

/-! ## An observed answer -/

theorem keys_append {us vs : List (Destination × ℕ)} :
    o.keys (us ++ vs) = o.keys us ++ o.keys vs := by
  simp [Observation.keys, domainKeys]

theorem keys_zipIdx (ds : List Destination) :
    o.keys ds.zipIdx = domainKeys (observedDomain o.domain) o.family ds := by
  rw [Observation.keys, List.zipIdx_map_fst]

variable {domain : String}

theorem mem_domainKeys_fields {family : ℕ} {ds : List Destination}
    (h : k ∈ domainKeys domain family ds) : k.domain = domain ∧ k.family = family := by
  obtain ⟨d, -, hd, rfl⟩ := mem_domainKeys.1 h
  exact ⟨hd, rfl⟩

/-- The addresses of an answer that was pinned are of its family. -/
theorem Begun.family (h : Begun o p₀) : ∀ a ∈ o.addresses.map normalizeAddress,
    familyOf a = o.family := by
  obtain ⟨hfamily, d, q, pin, q', -, -, hpinned⟩ := h
  intro a ha
  obtain ⟨b, hb, rfl⟩ := List.mem_map.1 ha
  obtain ⟨h4, h6⟩ := hpinned.families b hb
  rcases hfamily with hf | hf
  · rw [familyOf, h4 hf, hf, if_pos rfl]
  · have : (normalizeAddress b).is4 = false := by
      have := h6 hf
      revert this
      cases normalizeAddress b <;> simp [Addr.is4, Addr.is6]
    rw [familyOf, this, hf]
    rfl

section
variable {w : Enforcer} {g : PinKey → Option DNSPin} {us : List PinKey}

theorem Mid.short (hmid : Mid base o e K q)
    (h : ∀ k pin, base k = some pin → pin.addresses.length ≤ maximumPinAddresses) :
    ∀ k pin, q.live o.now k = some pin → pin.addresses.length ≤ maximumPinAddresses := by
  intro k pin hpin
  by_cases hk : k ∈ K
  · obtain ⟨pin', hpin', -, hshort, -⟩ := hmid.pinned k hk
    rw [hpin] at hpin'
    cases hpin'
    exact hshort
  · rw [hmid.rest k hk] at hpin
    exact h k pin hpin

theorem Mid.family (hmid : Mid base o e K q) (hK : ∀ k ∈ K, k.family = o.family)
    (hanswer : K ≠ [] → ∀ a ∈ o.addresses.map normalizeAddress, familyOf a = o.family)
    (h : ∀ k pin, base k = some pin → k.family = 4 ∨ k.family = 6 → ∀ a ∈ pin.addresses,
    familyOf a = k.family) :
    ∀ k pin, q.live o.now k = some pin → k.family = 4 ∨ k.family = 6 → ∀ a ∈ pin.addresses,
      familyOf a = k.family := by
  intro k pin hpin hfamily a ha
  by_cases hk : k ∈ K
  · obtain ⟨pin', hpin', -, -, hmem⟩ := hmid.pinned k hk
    rw [hpin] at hpin'
    cases hpin'
    rcases (hmem a).1 ha with ⟨old, hold, ha⟩ | ha
    · exact h k old hold hfamily a ha
    · rw [hK k hk]
      exact hanswer (List.ne_nil_of_mem hk) a ha
  · rw [hmid.rest k hk] at hpin
    exact h k pin hpin hfamily a ha

theorem Mid.ordered_other (hmid : Mid base o e K q) (hkeys : ∀ k ∈ keys, k ∉ K)
    (h : Ordered base keys) : Ordered (q.live o.now) keys := by
  rintro us k vs rfl k' hk' hnew pin' hpin'
  rw [hmid.rest k' (hkeys k' (by simp [hk']))] at hpin'
  rw [hmid.rest k (hkeys k (by simp))]
  exact h us k vs rfl k' hk' hnew pin' hpin'

/-- The keys the answer was pinned under stay in their order, if no key after them had a pin. -/
theorem Mid.ordered_same (hmid : Mid base o e K q) {rest : List PinKey}
    (h : Ordered base (K ++ rest)) (hrest : ∀ k ∈ rest, k ∉ K → base k = none) :
    Ordered (q.live o.now) (K ++ rest) := by
  intro us k vs hkeys k' hk' hnew pin' hpin'
  have hmem' : k' ∈ K ++ rest := by
    rw [hkeys]
    simp [hk']
  by_cases hK' : k' ∈ K
  · -- `k` comes before `k'`, so it is one of the keys pinned as well
    have hK : k ∈ K := by
      rcases List.append_eq_append_iff.1 hkeys with ⟨l, rfl, -⟩ | ⟨l, rfl, hl⟩
      · exact absurd (List.mem_append_left _ hK') hnew
      · rcases l with _ | ⟨k₁, l⟩
        · exact absurd (by simpa using hK') hnew
        · obtain ⟨rfl, -⟩ := List.cons_eq_cons.1 hl
          simp
    obtain ⟨pin, hpin, he, -, hmem⟩ := hmid.pinned k hK
    obtain ⟨pin₁, hpin₁, he', -, hmem'⟩ := hmid.pinned k' hK'
    rw [hpin'] at hpin₁
    cases hpin₁
    refine ⟨pin, hpin, fun a ha => (hmem a).2 ?_, he.trans he'.symm⟩
    rcases (hmem' a).1 ha with ⟨old', hold', ha⟩ | ha
    · obtain ⟨old, hold, hsub, -⟩ := h us k vs hkeys k' hk' hnew old' hold'
      exact Or.inl ⟨old, hold, hsub ha⟩
    · exact Or.inr ha
  · have hin : k' ∈ rest := (List.mem_append.1 hmem').resolve_left hK'
    rw [hmid.rest k' hK', hrest k' hin hK'] at hpin'
    cases hpin'

/-- An answer that was refused for a destination without a pin leaves the
invariant: nothing of its domain and family is rendered. -/
theorem Upheld.stopped (h : Upheld p₀ base w) (hmid : Mid base o e K q') (hrules : SameRules p₀ q')
    {k₁ : PinKey} {rest : List PinKey}
    (hkeys : domainKeys (observedDomain o.domain) o.family p₀.destinations = K ++ k₁ :: rest)
    (hstop : K ≠ [] → Begun o p₀ ∧ k₁ ∉ K ∧ base k₁ = none) :
    Upheld p₀ (q'.live o.now) { w with inst := { w.inst with policy := q' } } := by
  have hin : ∀ {k}, k ∈ K ++ k₁ :: rest → k.domain = observedDomain o.domain ∧
      k.family = o.family := by
    intro k hk
    rw [← hkeys] at hk
    exact mem_domainKeys_fields hk
  have hfree : ∀ i d, p₀.destinations[i]? = some d → ∀ a ∈ w.inst.rendered i,
      ∀ k : PinKey, k.domain = d.domain →
      k.family = familyOf a → k ∉ K := by
    intro i d hd a ha k hdomain hfamily hk
    obtain ⟨hkd, hkf⟩ := hin (List.mem_append_left _ hk)
    have hk₁ : k₁ ∈ domainKeys d.domain (familyOf a) p₀.destinations := by
      rw [← hdomain, ← hfamily, hkd, hkf, hkeys]
      simp
    obtain ⟨pin, hpin⟩ := h.together i d hd a ha k₁ hk₁
    rw [(hstop (List.ne_nil_of_mem hk)).2.2] at hpin
    cases hpin
  refine ⟨hrules, hmid.short h.short, hmid.family (fun k hk => (hin (List.mem_append_left _ hk)).2)
    (fun hne => (hstop hne).1.family) h.family, fun domain family => ?_, fun i d hd a ha => ?_,
    fun i d hd a ha k hk => ?_, h.timers, h.nodup⟩
  · by_cases hsame : domain = observedDomain o.domain ∧ family = o.family ∧ K ≠ []
    · obtain ⟨rfl, rfl, hne⟩ := hsame
      have hordered := h.ordered (observedDomain o.domain) o.family
      rw [hkeys] at hordered ⊢
      refine hmid.ordered_same hordered fun k hk hK => ?_
      -- a pin after the refused key would come with a pin of that key
      rcases List.mem_cons.1 hk with rfl | hk
      · exact (hstop hne).2.2
      · by_contra hsome
        obtain ⟨pin, hpin⟩ := Option.ne_none_iff_exists'.1 hsome
        obtain ⟨pin₁, hpin₁, -⟩ := hordered K k₁ rest rfl k hk hK pin hpin
        rw [(hstop hne).2.2] at hpin₁
        cases hpin₁
    · refine hmid.ordered_other (fun k hk hK => hsame ?_) (h.ordered domain family)
      obtain ⟨hkd, hkf⟩ := hin (List.mem_append_left _ hK)
      obtain ⟨hkd', hkf'⟩ := mem_domainKeys_fields hk
      exact ⟨hkd'.symm.trans hkd, hkf'.symm.trans hkf, List.ne_nil_of_mem hK⟩
  · obtain ⟨e', pin, hexpiry, hpin, hmem, hle⟩ := h.rendered i d hd a ha
    exact ⟨e', pin, hexpiry, (hmid.rest _ (hfree i d hd a ha _ rfl rfl)).trans hpin, hmem, hle⟩
  · obtain ⟨hkd, hkf⟩ := mem_domainKeys_fields hk
    rw [hmid.rest k (hfree i d hd a ha k hkd hkf)]
    exact h.together i d hd a ha k hk

/-- An answer that was pinned everywhere leaves the invariant, if it does not
outlive the other family's pins. -/
theorem Upheld.finished (h : Upheld p₀ base w) {inst' : PolicyInstance}
    (hf : Finished p₀ base o e [] p₀.destinations.zipIdx w.inst inst')
    (hne : o.keys p₀.destinations.zipIdx ≠ [])
    (hguard : ∀ i d, p₀.destinations[i]? = some d → d.domain = observedDomain o.domain →
      ∀ a ∈ w.inst.rendered i,
      familyOf a ≠ o.family → ∀ pin, base (d.key (familyOf a)) = some pin → e ≤ pin.expiresAt) :
    Upheld p₀ (inst'.policy.live o.now) { w with inst := inst', timers := w.timers ++ [(o.domain, e)] } := by
  have hmid : Mid base o e (domainKeys (observedDomain o.domain) o.family p₀.destinations)
      inst'.policy := by
    rw [← keys_zipIdx]
    exact hf.mid
  have hbegun : Begun o p₀ := hf.begun hne
  have hzip : ∀ {i d}, p₀.destinations[i]? = some d → (d, i) ∈ p₀.destinations.zipIdx := by
    intro i d hd
    exact List.mem_zipIdx_iff_getElem?.2 hd
  have hother : ∀ {i d}, p₀.destinations[i]? = some d → d.domain ≠ observedDomain o.domain →
      inst'.rendered i = w.inst.rendered i ∧ inst'.expiry.get i = w.inst.expiry.get i := by
    intro i d hd hdomain
    obtain ⟨hpins, hexpiry⟩ := hf.rendered.other i fun d' hd' => by
      have hd' := List.mem_zipIdx_iff_getElem?.1 hd'
      simp only at hd'
      rw [hd] at hd'
      cases hd'
      exact hdomain
    exact ⟨by rw [PolicyInstance.rendered, hpins]; rfl, hexpiry⟩
  have hout : ∀ {k : PinKey}, k.domain ≠ observedDomain o.domain ∨ k.family ≠ o.family →
      inst'.policy.live o.now k = base k := by
    intro k hk
    refine hmid.rest k fun hmem => ?_
    obtain ⟨hkd, hkf⟩ := mem_domainKeys_fields hmem
    rcases hk with hk | hk
    · exact hk hkd
    · exact hk hkf
  -- an address of another family was rendered before
  have hbefore : ∀ {i d a}, p₀.destinations[i]? = some d → a ∈ inst'.rendered i →
      familyOf a ≠ o.family →
      a ∈ w.inst.rendered i := by
    intro i d a hd ha hfamily
    by_cases hdomain : d.domain = observedDomain o.domain
    · rcases ((hf.rendered.matched d i (hzip hd) hdomain).2 a).1 ha with ha | ⟨old, hold, ha⟩ | ha
      · exact ha
      · exact absurd (h.family _ old hold hbegun.1 a ha) hfamily
      · exact absurd (hbegun.family a ha) hfamily
    · rwa [(hother hd hdomain).1] at ha
  refine ⟨hf.rules, hmid.short h.short, hmid.family (fun k hk => (mem_domainKeys_fields hk).2)
    (fun _ => hbegun.family) h.family, fun domain family => ?_, fun i d hd a ha => ?_,
    fun i d hd a ha k hk => ?_, fun i d e' hd hexpiry => ?_,
    fun i => hf.rendered.nodup i (h.nodup i)⟩
  · by_cases hsame : domain = observedDomain o.domain ∧ family = o.family
    · obtain ⟨rfl, rfl⟩ := hsame
      have hordered : Ordered (inst'.policy.live o.now)
          (domainKeys (observedDomain o.domain) o.family p₀.destinations ++ []) :=
        hmid.ordered_same (by simpa using h.ordered _ _) (by simp)
      simpa using hordered
    · refine hmid.ordered_other (fun k hk hK => hsame ?_) (h.ordered domain family)
      obtain ⟨hkd, hkf⟩ := mem_domainKeys_fields hK
      obtain ⟨hkd', hkf'⟩ := mem_domainKeys_fields hk
      exact ⟨hkd'.symm.trans hkd, hkf'.symm.trans hkf⟩
  · by_cases hdomain : d.domain = observedDomain o.domain
    · obtain ⟨hexpiry, hmem⟩ := hf.rendered.matched d i (hzip hd) hdomain
      by_cases hfamily : familyOf a = o.family
      · have hkey : d.key o.family ∈ domainKeys (observedDomain o.domain) o.family
            p₀.destinations :=
          hdomain ▸ key_mem_domainKeys hd o.family
        obtain ⟨pin, hpin, he, -, hpin'⟩ := hmid.pinned _ hkey
        refine ⟨e, pin, hexpiry, by rw [hfamily]; exact hpin, (hpin' a).2 ?_, le_of_eq he.symm⟩
        rcases (hmem a).1 ha with ha | ha
        · obtain ⟨-, old, -, hold, ha, -⟩ := h.rendered i d hd a ha
          exact Or.inl ⟨old, hfamily ▸ hold, ha⟩
        · exact ha
      · have ha' := hbefore hd ha hfamily
        obtain ⟨-, pin, -, hpin, hmem', -⟩ := h.rendered i d hd a ha'
        exact ⟨e, pin, hexpiry, (hout (Or.inr hfamily)).trans hpin, hmem',
          hguard i d hd hdomain a ha' hfamily pin hpin⟩
    · obtain ⟨hrendered, hexpiry⟩ := hother hd hdomain
      rw [show ({ w with inst := inst', timers := w.timers ++ [(o.domain, e)] } : Enforcer).inst.rendered i =
        w.inst.rendered i from hrendered] at ha
      obtain ⟨e', pin, hexpiry', hpin, hmem, hle⟩ := h.rendered i d hd a ha
      exact ⟨e', pin, hexpiry.trans hexpiry', (hout (Or.inl hdomain)).trans hpin, hmem, hle⟩
  · obtain ⟨hkd, hkf⟩ := mem_domainKeys_fields hk
    by_cases hdomain : d.domain = observedDomain o.domain
    · by_cases hfamily : familyOf a = o.family
      · rw [hdomain, hfamily] at hk
        obtain ⟨pin, hpin, -⟩ := hmid.pinned k hk
        exact ⟨pin, hpin⟩
      · rw [hout (Or.inr (hkf.trans_ne hfamily))]
        exact h.together i d hd a (hbefore hd ha hfamily) k hk
    · rw [hout (Or.inl (hkd.trans_ne hdomain))]
      exact h.together i d hd a ((hother hd hdomain).1 ▸ ha) k hk
  · by_cases hdomain : d.domain = observedDomain o.domain
    · obtain ⟨hexpiry', -⟩ := hf.rendered.matched d i (hzip hd) hdomain
      obtain rfl : e' = e := Option.some.inj (hexpiry.symm.trans hexpiry')
      exact ⟨o.domain, by simp, hdomain.symm⟩
    · obtain ⟨name, htimer, hname⟩ := h.timers i d e' hd ((hother hd hdomain).2 ▸ hexpiry)
      exact ⟨name, List.mem_append_left _ htimer, hname⟩

/-! ## Steps and runs -/

theorem ready_start (h : Upheld p₀ (w.inst.policy.live o.now) w) (e : ℤ) :
    Ready p₀ (w.inst.policy.live o.now) o e [] p₀.destinations.zipIdx w.inst := by
  refine ⟨fun x hx => ?_, ?_, h.rules, .start o e w.inst.policy, fun hne => absurd rfl hne, ?_⟩
  · exact List.mem_of_getElem? (List.mem_zipIdx_iff_getElem?.1 hx)
  · rw [List.zipIdx_map_snd]
    exact List.nodup_range'
  · intro k₀ hk₀ x hx hdomain old hold
    rw [List.nil_append, keys_zipIdx] at hk₀
    have hmem : x.1.key o.family ∈ domainKeys (observedDomain o.domain) o.family p₀.destinations :=
      mem_domainKeys.2 ⟨x.1, List.mem_of_getElem? (List.mem_zipIdx_iff_getElem?.1 hx), hdomain, rfl⟩
    obtain ⟨old', hold', hsub, -⟩ := (h.ordered _ _).head hk₀ hmem hold
    exact ⟨old', hold', hsub⟩

theorem step_observe {addresses : List Addr} {ttl : ℤ} {family : ℕ}
    (hfamily : answerFamily 0 addresses = some family) :
    w.step (.observe domain addresses ttl) =
      match PolicyInstance.observeDestinations ⟨domain, family, addresses, ttl, w.now⟩
        w.inst.policy.destinations.zipIdx w.inst none with
      | (inst', .ok (some e)) => { w with inst := inst', timers := w.timers ++ [(domain, e)] }
      | (inst', _) => { w with inst := { w.inst with policy := inst'.policy } } := by
  simp only [Enforcer.step, PolicyInstance.observeDNSAnswer, hfamily]
  rcases PolicyInstance.observeDestinations ⟨domain, family, addresses, ttl, w.now⟩
    w.inst.policy.destinations.zipIdx
    w.inst none with ⟨inst', _ | _ | e⟩ <;> rfl

theorem observeDNSAnswer_ok {inst : PolicyInstance} {addresses : List Addr} {ttl now e : ℤ}
    {family : ℕ} (hfamily : answerFamily 0 addresses = some family)
    (h : (PolicyInstance.observeDestinations ⟨domain, family, addresses, ttl, now⟩
      inst.policy.destinations.zipIdx inst
      none).2 = .ok (some e)) : (inst.observeDNSAnswer domain addresses ttl now).2 = .ok e := by
  simp only [PolicyInstance.observeDNSAnswer, hfamily]
  generalize PolicyInstance.observeDestinations _ _ _ _ = r at h
  obtain ⟨inst', r⟩ := r
  cases h
  rfl

/-- The invariant after an answer of one family. -/
theorem observed_upheld (hp : Compiled policy options p₀)
    (h : Upheld p₀ (w.inst.policy.live o.now) w)
      (hguard : ∀ e, (PolicyInstance.observeDestinations o p₀.destinations.zipIdx w.inst none).2 = .ok (some e) →
      ∀ i d, p₀.destinations[i]? = some d → d.domain = observedDomain o.domain →
        ∀ a ∈ w.inst.rendered i,
        familyOf a ≠ o.family → ∀ pin, w.inst.policy.live o.now (d.key (familyOf a)) = some pin →
          e ≤ pin.expiresAt) :
    ∃ w', (match PolicyInstance.observeDestinations o p₀.destinations.zipIdx w.inst none with
      | (inst', .ok (some e)) => { w with inst := inst', timers := w.timers ++ [(o.domain, e)] }
      | (inst', _) => { w with inst := { w.inst with policy := inst'.policy } }) = w' ∧
      Upheld p₀ (w'.inst.policy.live o.now) w' := by
  have hkeys : ∀ {us x vs}, p₀.destinations.zipIdx = us ++ x :: vs →
      x.1.domain = observedDomain o.domain →
      domainKeys (observedDomain o.domain) o.family p₀.destinations =
        o.keys us ++ x.1.key o.family :: o.keys vs := by
    rintro us ⟨d, i⟩ vs hsplit hx
    rw [← keys_zipIdx, hsplit, keys_append, keys_cons_of_eq hx]
  rcases observeDestinations_spec hp rfl (r := none) (ready_start h _) with
    ⟨inst', heq, hfinished⟩ | ⟨inst', error, heq, hstopped⟩
  · by_cases hnone : o.keys p₀.destinations.zipIdx = []
    · rw [heq, if_pos hnone]
      refine ⟨_, rfl, ?_⟩
      have hlive : inst'.policy.live o.now = w.inst.policy.live o.now := by
        funext k
        exact hfinished.mid.rest k (by simp [hnone])
      show Upheld p₀ (inst'.policy.live o.now) _
      rw [hlive]
      exact ⟨hfinished.rules, h.short, h.family, h.ordered, h.rendered, h.together,
        h.timers, h.nodup⟩
    · rw [heq, if_neg hnone] at hguard ⊢
      exact ⟨_, rfl, h.finished hfinished hnone (hguard _ rfl)⟩
  · rw [heq]
    obtain ⟨us, x, vs, hsplit, hx, hmid, hstop⟩ := hstopped.split
    exact ⟨_, rfl, h.stopped hmid hstopped.rules (hkeys hsplit hx) hstop⟩

theorem observe_upheld (hp : Compiled policy options p₀)
    (h : Upheld p₀ (w.inst.policy.live w.now) w) {addresses : List Addr} {ttl : ℤ}
    (hguard : w.Shortens (.observe domain addresses ttl)) :
    Upheld p₀ ((w.step (.observe domain addresses ttl)).inst.policy.live w.now)
      (w.step (.observe domain addresses ttl)) := by
  have hdestinations : w.inst.policy.destinations = p₀.destinations := by rw [h.rules]
  cases hfamily : answerFamily 0 addresses with
  | none =>
    simp only [Enforcer.step, PolicyInstance.observeDNSAnswer, hfamily]
    exact h
  | some family =>
    obtain ⟨w', heq, hw'⟩ := observed_upheld (o := ⟨domain, family, addresses, ttl, w.now⟩) hp h (by
      intro e he i d hd hdomain a ha hne pin hpin
      rw [← hdestinations] at hd he
      refine hguard e ?_ (d, i) (List.mem_zipIdx_iff_getElem?.2 hd) hdomain a ha ?_ pin
        (live_eq_some.1 hpin).1
      · rw [observeDNSAnswer_ok hfamily he]
        rfl
      · rw [hfamily]
        exact fun heq => hne (Option.some.inj heq).symm)
    rw [step_observe hfamily, hdestinations, heq]
    exact hw'

theorem expire_upheld {g : PinKey → Option DNSPin} (h : Upheld p₀ g w) {expiresAt : ℤ} :
    Upheld p₀ g (w.step (.expire domain expiresAt)) := by
  have hdestinations : w.inst.policy.destinations = p₀.destinations := by rw [h.rules]
  have hkept : ∀ {i e}, (w.step (.expire domain expiresAt)).inst.expiry.get i = some e →
      w.inst.expiry.get i = some e ∧ w.inst.expires domain expiresAt i = false := by
    intro i e he
    simpa [Enforcer.step, PolicyInstance.expireDNSPin, Option.filter_eq_some_iff] using he
  have hrendered : ∀ i, (w.inst.expires domain expiresAt i = true ∧
        (w.step (.expire domain expiresAt)).inst.rendered i = []) ∨
      (w.inst.expires domain expiresAt i = false ∧
        (w.step (.expire domain expiresAt)).inst.rendered i = w.inst.rendered i ∧
        (w.step (.expire domain expiresAt)).inst.expiry.get i = w.inst.expiry.get i) := by
    intro i
    cases hexp : w.inst.expires domain expiresAt i with
    | true =>
      refine Or.inl ⟨rfl, ?_⟩
      simp only [Enforcer.step, PolicyInstance.expireDNSPin, PolicyInstance.rendered,
        Table.get_deleteWhere, hexp]
      cases w.inst.pins.get i <;> rfl
    | false =>
      simp only [Enforcer.step, PolicyInstance.expireDNSPin, PolicyInstance.rendered,
        Table.get_deleteWhere, hexp]
      refine Or.inr ⟨trivial, ?_, ?_⟩
      · cases w.inst.pins.get i <;> rfl
      · cases w.inst.expiry.get i <;> rfl
  refine ⟨h.rules, h.short, h.family, h.ordered, fun i d hd a ha => ?_, fun i d hd a ha => ?_,
    fun i d e hd he => ?_, fun i => ?_⟩
  · rcases hrendered i with ⟨-, hnil⟩ | ⟨-, hsame, hexpiry⟩
    · rw [hnil] at ha
      cases ha
    · rw [hsame] at ha
      rw [hexpiry]
      exact h.rendered i d hd a ha
  · rcases hrendered i with ⟨-, hnil⟩ | ⟨-, hsame, -⟩
    · rw [hnil] at ha
      cases ha
    · rw [hsame] at ha
      exact h.together i d hd a ha
  · obtain ⟨hold, hexp⟩ := hkept he
    obtain ⟨name, htimer, hname⟩ := h.timers i d e hd hold
    refine ⟨name, (List.mem_erase_of_ne ?_).2 htimer, hname⟩
    -- the timer of what is kept is not the one that ran
    intro heq
    cases heq
    simp [PolicyInstance.expires, hdestinations, hd, hname, hold] at hexp
  · rcases hrendered i with ⟨-, hnil⟩ | ⟨-, hsame, -⟩
    · rw [hnil]
      exact List.nodup_nil
    · rw [hsame]
      exact h.nodup i

/-- The invariant of runs: the pins that were live at some time up to now account for what is rendered. -/
def Accounted (p₀ : CompiledPolicy) (w : Enforcer) : Prop :=
  ∃ t, t ≤ w.now ∧ Upheld p₀ (w.inst.policy.live t) w

theorem step_accounted (hp : Compiled policy options p₀) {event : Event} (hlegal : w.Legal event)
    (hguard : w.Shortens event) (h : Accounted p₀ w) : Accounted p₀ (w.step event) := by
  obtain ⟨t, ht, h⟩ := h
  cases event with
  | observe domain addresses ttl =>
    have hnow : (w.step (.observe domain addresses ttl)).now = w.now := by
      simp only [Enforcer.step]
      split <;> rfl
    exact ⟨w.now, le_of_eq hnow.symm, observe_upheld hp (h.later ht hlegal) hguard⟩
  | expire domain expiresAt => exact ⟨t, ht, expire_upheld h⟩
  | advance now =>
    exact ⟨t, ht.trans hlegal.1, ⟨h.rules, h.short, h.family, h.ordered, h.rendered, h.together,
      h.timers, h.nodup⟩⟩

end

/-- A Sandbox whose policy was just installed. -/
def Enforcer.Installed (p₀ : CompiledPolicy) (w : Enforcer) : Prop :=
  w.inst.policy = p₀ ∧ w.inst.pins = .empty ∧ w.inst.expiry = .empty ∧ w.timers = []

theorem Enforcer.Installed.accounted (hp : Compiled policy options p₀) {w : Enforcer}
    (h : w.Installed p₀) :
    Accounted p₀ w := by
  obtain ⟨hpolicy, hpins, hexpiry, -⟩ := h
  have hnone : ∀ k pin, w.inst.policy.live w.now k ≠ some pin := by
    intro k pin hpin
    have hget := (live_eq_some.1 hpin).1
    rw [hpolicy, hp.no_pins] at hget
    simp at hget
  have hrendered : ∀ i, w.inst.rendered i = [] := by
    intro i
    rw [PolicyInstance.rendered, hpins]
    rfl
  refine ⟨w.now, le_refl _, ?_, fun k pin hk => absurd hk (hnone k pin),
    fun k pin hk => absurd hk (hnone k pin), ?_, ?_, ?_, ?_, ?_⟩
  · rw [SameRules, hpolicy]
  · intro domain family us k vs _ k' _ _ pin' hpin'
    exact absurd hpin' (hnone k' pin')
  · intro i d _ a ha
    rw [hrendered] at ha
    cases ha
  · intro i d _ a ha
    rw [hrendered] at ha
    cases ha
  · intro i d e _ he
    rw [hexpiry] at he
    simp at he
  · intro i
    rw [hrendered]
    exact List.nodup_nil

/-- In every run in which no answer outlives the pins of the other family
rendered beside it, every state whose due timers have run is faithful. -/
theorem rendered_addresses_live (h : compile policy options = .ok p₀) {w : Enforcer}
    (hw : w.Installed p₀) (events : List Event)
    (hlegal : History.Along Enforcer.step Enforcer.Legal w events)
    (hguard : History.Along Enforcer.step Enforcer.Shortens w events)
    (hsettled : (History.after Enforcer.step w events).Settled) :
    (History.after Enforcer.step w events).Faithful := by
  have hp := compile_eq_ok h
  have hboth : History.Along Enforcer.step (fun w event => w.Legal event ∧ w.Shortens event)
      w events := by
    rw [History.along_iff_forall] at hlegal hguard ⊢
    exact fun us t vs hts => ⟨hlegal us t vs hts, hguard us t vs hts⟩
  obtain ⟨t, ht, hupheld⟩ :=
    hboth.invariant (fun w event hevent hw => step_accounted hp hevent.1 hevent.2 hw)
    (hw.accounted hp)
  exact (hupheld.later ht hsettled).faithful

end

/-- An instance without pins at time 0. -/
def sampleEnforcer (p : CompiledPolicy) : Enforcer := ⟨sampleInstance p, [], 0⟩

/-- An IPv4 answer, then an IPv6 answer that expires earlier. -/
def shorteningAnswers : List Event :=
  [.observe "api.example." [.v4 0x08080808#32] 60,
    .observe "api.example." [.v6 (0x26064700#128 <<< 96) ""] 30, .advance 3]

theorem sample_address_live : ∃ p, compile samplePolicy sampleOptions = .ok p ∧
    (History.after Enforcer.step (sampleEnforcer p) shorteningAnswers).Faithful := by
  obtain ⟨p, hp, hrun⟩ := exists_ok (x := compile samplePolicy sampleOptions)
    (f := fun p => History.Along Enforcer.step Enforcer.Legal (sampleEnforcer p) shorteningAnswers ∧
      History.Along Enforcer.step Enforcer.Shortens (sampleEnforcer p) shorteningAnswers ∧
      (History.after Enforcer.step (sampleEnforcer p) shorteningAnswers).Settled)
        (by decide +kernel)
  obtain ⟨hlegal, hguard, hsettled⟩ := of_decide_eq_true hrun
  exact ⟨p, hp, rendered_addresses_live hp ⟨rfl, rfl, rfl, rfl⟩ _ hlegal hguard hsettled⟩

/-- A long-lived IPv6 answer keeps an IPv4 address rendered after its pin has expired. -/
def overtakingAnswers : List Event :=
  [.observe "api.example." [.v4 0x08080808#32] 1000000000,
   .observe "api.example." [.v6 (0x26064700#128 <<< 96) ""] 60000000000,
   .advance 1000000000, .expire "api.example." 1000000000, .advance 30000000000]

theorem expired_address_rendered : ∃ policy options p w events, compile policy options = .ok p ∧
    w.Installed p ∧
    History.Along Enforcer.step Enforcer.Legal w events ∧
    (History.after Enforcer.step w events).Settled ∧
    ¬(History.after Enforcer.step w events).Faithful := by
  obtain ⟨p, hp, hrun⟩ := exists_ok (x := compile samplePolicy sampleOptions)
    (f := fun p => History.Along Enforcer.step Enforcer.Legal (sampleEnforcer p) overtakingAnswers ∧
      (History.after Enforcer.step (sampleEnforcer p) overtakingAnswers).Settled ∧
      .v4 0x08080808#32 ∈ (History.after Enforcer.step (sampleEnforcer p) overtakingAnswers).inst.rendered 0 ∧
      (History.after Enforcer.step (sampleEnforcer p) overtakingAnswers).inst.policy.destinations[0]? =
        some ⟨.https, "api.example", .invalid, 443⟩ ∧
      ((History.after Enforcer.step (sampleEnforcer p) overtakingAnswers).inst.policy.pins.get
        ⟨.https, "api.example", 443, 4⟩).all fun pin =>
          pin.expiresAt ≤ (History.after Enforcer.step (sampleEnforcer p) overtakingAnswers).now)
            (by decide +kernel)
  obtain ⟨hlegal, hsettled, hrendered, hd, hpin⟩ := of_decide_eq_true hrun
  refine ⟨samplePolicy, sampleOptions, p, sampleEnforcer p, overtakingAnswers, hp,
    ⟨rfl, rfl, rfl, rfl⟩, hlegal, hsettled, fun hfaithful => ?_⟩
  obtain ⟨pin, hget, -, hlt⟩ := hfaithful.live 0 _ hd _ hrendered
  have hget : (History.after Enforcer.step (sampleEnforcer p) overtakingAnswers).inst.policy.pins.get
      ⟨.https, "api.example", 443, 4⟩ = some pin := hget
  rw [hget] at hpin
  simp only [Option.all_some, decide_eq_true_eq] at hpin
  omega

end SecondBox.NetworkPolicy

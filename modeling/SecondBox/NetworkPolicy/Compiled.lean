/-
  What `Compile` guarantees of the policy it returns, in terms of the policy and
  the options it was given.
-/
import SecondBox.NetworkPolicy.Policy

namespace SecondBox.NetworkPolicy

open Netip Relational Check

/-- The addresses that are off limits under `options`. -/
def CompileOptions.Protects (options : CompileOptions) (address : Addr) : Prop :=
  address.isValid = false ∨ (∃ a ∈ options.runnerAddresses ++ options.protectedAddresses,
    normalizeAddress a = address) ∨
    ∃ p ∈ options.managementPrefixes ++ protectedPrefixes, p.contains address = true

/-- `address` is the Runner gateway the options name `domain`. -/
def CompileOptions.Gateway (options : CompileOptions) (domain : String) (address : Addr) : Prop :=
  ∃ rawDomain rawAddress, options.runnerGateways.get rawDomain = some rawAddress ∧
    normalizeDomain rawDomain = .ok domain ∧ normalizeAddress rawAddress = address

/-- What `compile` guarantees of its result. -/
structure Compiled (policy : Policy) (options : CompileOptions) (p : CompiledPolicy) : Prop where
  mode : p.mode = policy.mode
  maximumPins : p.maximumPins = options.maximumPins
  maximumTTL : p.maximumTTL = options.maximumTTL
  pins_pos : 1 ≤ p.maximumPins
  ttl_pos : 0 < p.maximumTTL
  denyAll : p.mode = .denyAll → p.destinations = []
  destinations : List.Forall₂ (fun d d' => validateDestination d p.protectedAddresses = .ok d')
    policy.destinations p.destinations
  runnerAddresses : p.runnerAddresses = options.runnerAddresses.map normalizeAddress
  managementPrefixes : p.managementPrefixes = options.managementPrefixes.map Prefix.masked
  protectedAddresses : p.protectedAddresses = options.protectedAddresses.map normalizeAddress
  gateways : ∀ domain address, p.runnerGateways.get domain = some address →
    options.Gateway domain address
  no_pins : p.pins = .empty

/-! ## The parts of `compile` -/

theorem normalizePrefix_eq_ok {c c' : Prefix} :
    normalizePrefix c = .ok c' ↔ c.isValid = true ∧ c.addr.is4In6 = false ∧ c' = c.masked := by
  rw [normalizePrefix]
  cases c.isValid <;> cases c.addr.is4In6 <;> simp [eq_comm]

theorem compileAddress_eq_ok {e : CompileError} {a b : Addr} (h : compileAddress e a = .ok b) :
    b = normalizeAddress a := by
  simp only [compileAddress, bind_eq_ok, pure_eq_ok] at h
  obtain ⟨-, -, rfl⟩ := h
  rfl

/-- A loop that accepts every item returns the image of the list. -/
theorem eq_map_of_forall₂ {α β : Type} {R : α → β → Prop} {f : α → β} (hR : ∀ a b, R a b → b = f a)
    {l : List α} {r : List β} (h : List.Forall₂ R l r) : r = l.map f := by
  induction h with
  | nil => rfl
  | cons hab _ ih => rw [List.map_cons, ← ih, hR _ _ hab]

theorem validateDestination_cases {d d' : Destination} {dynamic : List Addr}
    (h : validateDestination d dynamic = .ok d') : d'.protocol = d.protocol ∧ d'.port = d.port ∧
      ((normalizeDomain d.domain = .ok d'.domain ∧ d'.cidr = .invalid) ∨
        (d'.domain = "" ∧ d.cidr.isValid = true ∧ d'.cidr = d.cidr.masked)) := by
  simp only [validateDestination, bind_eq_ok] at h
  obtain ⟨-, -, -, -, -, -, -, -, h⟩ := h
  split at h
  · simp only [bind_eq_ok, mapError_eq_ok, pure_eq_ok] at h
    obtain ⟨domain, hdomain, rfl⟩ := h
    exact ⟨rfl, rfl, Or.inl ⟨hdomain, rfl⟩⟩
  · simp only [bind_eq_ok] at h
    obtain ⟨cidr, hcidr, h⟩ := h
    split at h
    · simp at h
    split at h
    · simp at h
    obtain rfl := pure_eq_ok.1 h
    obtain ⟨hvalid, -, rfl⟩ := normalizePrefix_eq_ok.1 hcidr
    exact ⟨rfl, rfl, Or.inr ⟨rfl, hvalid, rfl⟩⟩

theorem compileGateway_gateway {options : CompileOptions} {runner : List Addr}
    {management : List Prefix} {dynamic : List Addr} {t t' : Table String Addr}
    {entry : String × Addr} (hentry : options.runnerGateways.get entry.1 = some entry.2)
    (ht : ∀ domain address, t.get domain = some address → options.Gateway domain address)
    (h : compileGateway runner management dynamic t entry = .ok t') :
    ∀ domain address, t'.get domain = some address → options.Gateway domain address := by
  simp only [compileGateway, bind_eq_ok, mapError_eq_ok, pure_eq_ok] at h
  obtain ⟨domain, hdomain, -, -, -, -, -, -, rfl⟩ := h
  intro domain' address' hget
  rw [Table.get_put] at hget
  split at hget
  next heq =>
    subst heq
    exact ⟨entry.1, entry.2, hentry, hdomain, Option.some.inj hget⟩
  · exact ht domain' address' hget

theorem checkMode_denyAll {policy : Policy} {u : Unit} (h : checkMode policy = .ok u)
    (hmode : policy.mode = .denyAll) :
    policy.destinations = [] := by
  simpa [checkMode, hmode] using h

theorem compile_eq_ok {policy : Policy} {options : CompileOptions} {p : CompiledPolicy}
    (h : compile policy options = .ok p) : Compiled policy options p := by
  simp only [compile, bind_eq_ok, pure_eq_ok, require_eq_ok, decide_eq_true_eq, mapM_eq_ok,
    mapError_eq_ok] at h
  obtain ⟨-, hpins, -, httl, -, -, u, hmode, runner, hrunner, management, hmanagement, dynamic,
    hdynamic, destinations, hdestinations, gateways, hgateways, rfl⟩ := h
  have hforall : List.Forall₂ (fun d d' => validateDestination d dynamic = .ok d')
      policy.destinations destinations := by
    rw [← List.zipIdx_map_fst 0 policy.destinations, List.forall₂_map_left_iff]
    exact hdestinations
  have hrunner : runner = options.runnerAddresses.map normalizeAddress :=
    eq_map_of_forall₂ (fun a b hab => compileAddress_eq_ok (e := .runnerAddress) hab) hrunner
  have hmanagement : management = options.managementPrefixes.map Prefix.masked :=
    eq_map_of_forall₂ (fun a b (hab : normalizePrefix a = .ok b) => (normalizePrefix_eq_ok.1 hab).2.2) hmanagement
  have hdynamic : dynamic = options.protectedAddresses.map normalizeAddress :=
    eq_map_of_forall₂ (fun a b hab => compileAddress_eq_ok (e := .protectedAddress) hab) hdynamic
  refine ⟨rfl, rfl, rfl, hpins, httl, ?_, hforall, hrunner, hmanagement, hdynamic, ?_, rfl⟩
  · intro hdeny
    rw [checkMode_denyAll hmode hdeny] at hforall
    exact List.forall₂_nil_left_iff.1 hforall
  · refine foldlM_invariant (P := fun t => ∀ domain address, t.get domain = some address →
      options.Gateway domain address) (fun entry hentry t t' ht => ?_) ?_ hgateways
    · exact compileGateway_gateway (Table.get_eq_some.2 hentry) ht
    · intro domain address hget
      simp at hget

/-! ## Protection -/

section
variable {policy : Policy} {options : CompileOptions} {p : CompiledPolicy}

theorem Compiled.isProtected_iff (h : Compiled policy options p) {address : Addr} :
    p.isProtected address = true ↔ options.Protects address := by
  simp only [CompiledPolicy.isProtected, isProtectedAddress, h.runnerAddresses,
    h.managementPrefixes, h.protectedAddresses, CompileOptions.Protects, Bool.or_eq_true,
    Bool.not_eq_true', decide_eq_true_eq, List.any_eq_true, List.mem_map, List.mem_append]
  constructor
  · rintro ((((hv | ⟨a, ha, rfl⟩) | ⟨a, ha, rfl⟩) | ⟨c, ⟨c', hc', rfl⟩, hc⟩) | ⟨c, hc', hc⟩)
    · exact Or.inl hv
    · exact Or.inr (Or.inl ⟨a, Or.inl ha, rfl⟩)
    · exact Or.inr (Or.inl ⟨a, Or.inr ha, rfl⟩)
    · exact Or.inr (Or.inr ⟨c', Or.inl hc', by simpa using hc⟩)
    · exact Or.inr (Or.inr ⟨c, Or.inr hc', hc⟩)
  · rintro (hv | ⟨a, ha | ha, rfl⟩ | ⟨c, hc' | hc', hc⟩)
    · exact Or.inl (Or.inl (Or.inl (Or.inl hv)))
    · exact Or.inl (Or.inl (Or.inl (Or.inr ⟨a, ha, rfl⟩)))
    · exact Or.inl (Or.inl (Or.inr ⟨a, ha, rfl⟩))
    · exact Or.inl (Or.inr ⟨c.masked, ⟨c, hc', rfl⟩, by simpa using hc⟩)
    · exact Or.inr ⟨c, hc', hc⟩

theorem Compiled.mem_destinations (h : Compiled policy options p) {d' : Destination}
    (hd : d' ∈ p.destinations) :
    ∃ d ∈ policy.destinations, validateDestination d p.protectedAddresses = .ok d' := by
  obtain ⟨i, hi, rfl⟩ := List.mem_iff_getElem.1 hd
  have hlen := h.destinations.length_eq
  exact ⟨policy.destinations[i], List.getElem_mem _, h.destinations.get (by omega) hi⟩

end

end SecondBox.NetworkPolicy

/-
  The enforcer of one Sandbox: it pins the answers the guest's DNS queries get,
  renders the pinned addresses, and takes them away again when they expire.

  The enforcer keeps one set of addresses and one expiry for each destination,
  the policy one pin for each destination and address family.  A refused answer
  leaves the rendered addresses alone, but the pins the policy already made for
  it stay: the policy is shared, the instance is a copy.
-/
import SecondBox.NetworkPolicy.Ruleset

namespace SecondBox.NetworkPolicy

open Netip Relational Check

/-- Why an answer is not installed. -/
inductive ObserveError
  | mixedFamilies
  | pin (domain : String) (reason : Reason)
  | notAllowed (domain : String)
deriving DecidableEq

/-- The domain of a query as the enforcer compares it with destinations. -/
def observedDomain (domain : String) : String :=
  String.ofList ((trimDot (trimSpace domain.toList)).map toLower)

/-- The address family. -/
def familyOf (address : Addr) : ℕ := if address.is4 then 4 else 6

/-- The one family of an answer, 0 for an empty one. -/
def answerFamily (family : ℕ) : List Addr → Option ℕ
  | [] => some family
  | a :: addresses =>
    if family ≠ 0 ∧ familyOf a ≠ family then none else answerFamily (familyOf a) addresses

/-- `mergePolicyAddresses` -/
def mergePolicyAddresses (left right : List Addr) : List Addr := appendNew (appendNew [] left) right

/-- What an observed answer is about. -/
structure Observation where
  domain : String
  family : ℕ
  addresses : List Addr
  ttl : ℤ
  now : ℤ

/-- The answer as `pin` gets it. -/
def Observation.answer (o : Observation) (d : Destination) : Answer :=
  ⟨d.protocol, d.domain, d.port, o.addresses, o.ttl, o.now⟩

/-- The pin of an observed answer for one destination. -/
def Observation.pin (o : Observation) (policy : CompiledPolicy) (d : Destination) :
    (DNSPin × Decision) × CompiledPolicy :=
  policy.pinDNSForAddressFamily d.protocol d.domain d.port o.family o.addresses o.ttl o.now

namespace PolicyInstance

/-- The addresses rendered for a destination. -/
def rendered (inst : PolicyInstance) (i : ℕ) : List Addr := (inst.pins.get i).getD []

/-- The loop of `ObserveDNSAnswer` over the destinations; `expiresAt` is set once one matched. -/
def observeDestinations (o : Observation) : List (Destination × ℕ) → PolicyInstance → Option ℤ →
    PolicyInstance × Except ObserveError (Option ℤ)
  | [], inst, expiresAt => (inst, .ok expiresAt)
  | (d, i) :: ds, inst, expiresAt =>
    if d.domain ≠ observedDomain o.domain then observeDestinations o ds inst expiresAt
    else
      let r := o.pin inst.policy d
      if r.1.2.allowed then
        observeDestinations o ds
          { inst with policy := r.2,
                      pins :=
                        inst.pins.put i (mergePolicyAddresses (inst.rendered i) r.1.1.addresses),
                      expiry := inst.expiry.put i r.1.1.expiresAt }
          (some r.1.1.expiresAt)
      else ({ inst with policy := r.2 }, .error (.pin d.domain r.1.2.reason))

/-- `ObserveDNSAnswer`, with nft commands that succeed: the instance after it, and when to expire the answer. -/
def observeDNSAnswer (inst : PolicyInstance) (domain : String) (addresses : List Addr)
    (ttl now : ℤ) :
    PolicyInstance × Except ObserveError ℤ :=
  match answerFamily 0 addresses with
  | none => (inst, .error .mixedFamilies)
  | some family =>
    match observeDestinations ⟨domain, family, addresses, ttl, now⟩ inst.policy.destinations.zipIdx
      inst none with
    | (inst', .error e) => ({ inst with policy := inst'.policy }, .error e)
    | (inst', .ok none) => ({ inst with policy := inst'.policy }, .error (.notAllowed domain))
    | (inst', .ok (some expiresAt)) => (inst', .ok expiresAt)

/-- Is the destination `i` one that `expireDNSPin` clears? -/
def expires (inst : PolicyInstance) (domain : String) (expiresAt : ℤ) (i : ℕ) : Bool :=
  inst.policy.destinations[i]?.any (fun d => d.domain == observedDomain domain) &&
    (inst.expiry.get i).all (· ≤ expiresAt)

/-- `expireDNSPin`: a timer removes what it was set for. -/
def expireDNSPin (inst : PolicyInstance) (domain : String) (expiresAt : ℤ) : PolicyInstance :=
  { inst with pins := inst.pins.deleteWhere fun i _ => inst.expires domain expiresAt i,
              expiry := inst.expiry.deleteWhere fun i _ => inst.expires domain expiresAt i }

end PolicyInstance

/-! ## Runs -/

/-- The enforcer with its pending timers and the time. -/
structure Enforcer where
  inst : PolicyInstance
  timers : List (String × ℤ)
  now : ℤ

/-- What happens to an instance. -/
inductive Event
  | observe (domain : String) (addresses : List Addr) (ttl : ℤ)
  | expire (domain : String) (expiresAt : ℤ)
  | advance (now : ℤ)

namespace Enforcer

/-- One event; an installed answer sets its timer. -/
def step (w : Enforcer) : Event → Enforcer
  | .observe domain addresses ttl =>
    match w.inst.observeDNSAnswer domain addresses ttl w.now with
    | (inst, .ok expiresAt) => { w with inst := inst, timers := w.timers ++ [(domain, expiresAt)] }
    | (inst, .error _) => { w with inst := inst }
  | .expire domain expiresAt =>
    { w with inst := w.inst.expireDNSPin domain expiresAt, timers := w.timers.erase (domain, expiresAt) }
  | .advance now => { w with now := now }

/-- Every timer that is due has run. -/
def Settled (w : Enforcer) : Prop := ∀ timer ∈ w.timers, w.now < timer.2

/-- Timers run when their instant is reached, before anything else happens at it. -/
def Legal (w : Enforcer) : Event → Prop
  | .observe _ _ _ => w.Settled
  | .expire domain expiresAt => (domain, expiresAt) ∈ w.timers ∧ expiresAt ≤ w.now
  | .advance now => w.now ≤ now ∧ ∀ timer ∈ w.timers, now ≤ timer.2

instance (w : Enforcer) :
    Decidable w.Settled := inferInstanceAs (Decidable (∀ timer ∈ w.timers, w.now < timer.2))

instance (w : Enforcer) : (event : Event) → Decidable (w.Legal event)
  | .observe _ _ _ => inferInstanceAs (Decidable w.Settled)
  | .expire domain expiresAt =>
    inferInstanceAs (Decidable ((domain, expiresAt) ∈ w.timers ∧ expiresAt ≤ w.now))
  | .advance now => inferInstanceAs (Decidable (w.now ≤ now ∧ ∀ timer ∈ w.timers, now ≤ timer.2))

/-- Every address rendered for a domain destination is in a live pin of its
family, and no family has more than a pin may hold. -/
structure Faithful (w : Enforcer) : Prop where
  live : ∀ i d, w.inst.policy.destinations[i]? = some d → ∀ a ∈ w.inst.rendered i,
    ∃ pin, w.inst.policy.pins.get ⟨d.protocol, d.domain, d.port, familyOf a⟩ = some pin ∧
    a ∈ pin.addresses ∧
      w.now < pin.expiresAt
  bounded : ∀ i d, w.inst.policy.destinations[i]? = some d → ∀ family,
    ((w.inst.rendered i).filter fun a => familyOf a == family).length ≤ maximumPinAddresses

/-- An answer that is pinned expires no later than the pins of the other family
whose addresses are rendered for the same destination. -/
def Shortens (w : Enforcer) : Event → Prop
  | .observe domain addresses ttl =>
    ∀ expiresAt ∈ (w.inst.observeDNSAnswer domain addresses ttl w.now).2.toOption,
      ∀ x ∈ w.inst.policy.destinations.zipIdx, x.1.domain = observedDomain domain →
      ∀ a ∈ w.inst.rendered x.2,
        answerFamily 0 addresses ≠ some (familyOf a) →
          ∀ pin ∈ w.inst.policy.pins.get ⟨x.1.protocol, x.1.domain, x.1.port, familyOf a⟩,
          expiresAt ≤ pin.expiresAt
  | _ => True

instance (w : Enforcer) : (event : Event) → Decidable (w.Shortens event)
  | .observe domain addresses ttl => inferInstanceAs (Decidable (∀ expiresAt ∈
      (w.inst.observeDNSAnswer domain addresses ttl w.now).2.toOption,
      ∀ x ∈ w.inst.policy.destinations.zipIdx,
        x.1.domain = observedDomain domain → ∀ a ∈ w.inst.rendered x.2,
        answerFamily 0 addresses ≠ some (familyOf a) →
          ∀ pin ∈ w.inst.policy.pins.get ⟨x.1.protocol, x.1.domain, x.1.port, familyOf a⟩,
          expiresAt ≤ pin.expiresAt))
  | .expire .. | .advance _ => .isTrue trivial

end Enforcer

end SecondBox.NetworkPolicy

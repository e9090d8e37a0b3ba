/-
  The nftables rules of one Sandbox and what they let through.

  A rule is kept as its conditions and its verdict, not as text.  The bridge
  table has an ingress chain for what the guest sends and an egress chain for
  what it receives; both accept what no rule applies to.
-/
import SecondBox.Base.FirstMatch
import SecondBox.NetworkPolicy.Pins

namespace SecondBox.NetworkPolicy

open Netip Relational Check

/-! ## Packets and rules -/

/-- The network header of a frame. -/
inductive Network
  | ip (src dst : BitVec 32)
  | ip6 (src dst : BitVec 128)
  | arp (sender target : BitVec 32)
deriving DecidableEq

/-- The transport header. -/
inductive Transport
  | tcp (dport : ℕ)
  | udp (dport : ℕ)
  | other
deriving DecidableEq

/-- What the rules read of a frame. -/
structure Packet where
  iifname : String
  oifname : String
  established : Bool
  network : Network
  transport : Transport
deriving DecidableEq

/-- The base chains. -/
inductive Chain
  | ingress
  | egress
deriving DecidableEq

/-- What a `daddr` is compared with. -/
inductive Target
  | address (a : Addr)
  | cidr (c : Prefix)
deriving DecidableEq

/-- A match expression. -/
inductive Condition
  | iifname (name : String)
  | oifname (name : String)
  | established
  | ipSaddrNe (a : Addr)
  | arpDaddr (a : Addr)
  | arpSaddr (a : Addr)
  | daddr (ipv6 : Bool) (target : Target)
  | tcpDport (port : ℕ)
  | udpDport (port : ℕ)
deriving DecidableEq

/-- The verdict of a rule. -/
inductive Verdict
  | accept
  | drop
deriving DecidableEq

/-- `marks` are the rules that set the mark of allowed connections. -/
structure Rule where
  chain : Chain
  conditions : List Condition
  marks : Bool
  verdict : Verdict
deriving DecidableEq

/-- The target covers an address. -/
def Target.matches : Target → Addr → Bool
  | .address a, dst => a == dst
  | .cidr c, dst => c.contains dst

/-- The destination of an IP packet. -/
def Network.dst? : Network → Option Addr
  | .ip _ dst => some (.v4 dst)
  | .ip6 _ dst => some (.v6 dst "")
  | .arp _ _ => none

/-- The expression matches. -/
def Condition.holds (packet : Packet) : Condition → Bool
  | .iifname name => packet.iifname == name
  | .oifname name => packet.oifname == name
  | .established => packet.established
  | .ipSaddrNe a =>
    match packet.network with
    | .ip src _ => a ≠ .v4 src
    | _ => false
  | .arpDaddr a =>
    match packet.network with
    | .arp _ target => a == .v4 target
    | _ => false
  | .arpSaddr a =>
    match packet.network with
    | .arp sender _ => a == .v4 sender
    | _ => false
  | .daddr ipv6 target =>
    match packet.network with
    | .ip _ dst => !ipv6 && target.matches (.v4 dst)
    | .ip6 _ dst => ipv6 && target.matches (.v6 dst "")
    | _ => false
  | .tcpDport port => packet.transport == .tcp port
  | .udpDport port => packet.transport == .udp port

/-- All its expressions match. -/
def Rule.applies (rule : Rule) (packet : Packet) : Bool := rule.conditions.all (·.holds packet)

/-- It accepts. -/
def Rule.allows (rule : Rule) : Bool := rule.verdict == .accept

/-- First-match evaluation of one chain of a script. -/
def admits (chain : Chain) (script : List Rule) (packet : Packet) : Bool :=
  FirstMatch.admitted Rule.applies Rule.allows true (script.filter (·.chain == chain)) packet

/-! ## Rendering -/

/-- A destination at a Runner gateway. -/
structure RunnerGatewayDestination where
  destination : Destination
  address : Addr

/-- `RunnerGatewayDestinations` -/
def CompiledPolicy.runnerGatewayDestinations (policy : CompiledPolicy) :
    List RunnerGatewayDestination :=
  policy.destinations.filterMap fun d => (policy.runnerGateways.get d.domain).map fun address =>
    ⟨d, address⟩

/-- The enforcer's state of one Sandbox; `pins` are the addresses rendered for each destination. -/
structure PolicyInstance where
  tapName : String
  guestIP : Addr
  dnsAddress : Addr
  policy : CompiledPolicy
  pins : Table ℕ (List Addr)
  expiry : Table ℕ ℤ
  executionListeners : List (Addr × ℕ)

/-- The gateways and the execution's listeners, in order. -/
def PolicyInstance.runnerGatewayDestinations (inst : PolicyInstance) :
    List RunnerGatewayDestination :=
  inst.policy.runnerGatewayDestinations ++
    (inst.executionListeners.insertionSort fun a b => toLex a ≤ toLex b).map fun l =>
      ⟨⟨.tcp, "", .invalid, l.2⟩, l.1⟩

variable (tapName : String)

/-- `renderNFTAllow` -/
def renderNFTAllow (target : Target) (ipv6 : Bool) (destination : Destination) : Rule :=
  ⟨.ingress, [.iifname tapName, .daddr ipv6 target, .tcpDport destination.port], true, .accept⟩

/-- The guest may ask for, and hear, the hardware address of `a`. -/
def renderARP (a : Addr) : List Rule :=
  if a.is4 then
    [⟨.ingress, [.iifname tapName, .arpDaddr a], false, .accept⟩,
     ⟨.egress, [.oifname tapName, .arpSaddr a], false, .accept⟩]
  else []

/-- The rules for the DNS proxy. -/
def renderDNS (dnsAddress : Addr) (allowDNS : Bool) : List Rule :=
  if allowDNS && dnsAddress.isValid then
    [.udpDport 53, .tcpDport 53].map fun dport =>
      ⟨.ingress, [.iifname tapName, .daddr dnsAddress.is6 (.address dnsAddress), dport],
        true, .accept⟩
  else []

/-- The rules for a gateway. -/
def renderGateway (gateway : RunnerGatewayDestination) : List Rule :=
  renderARP tapName gateway.address ++
    [renderNFTAllow tapName (.address gateway.address) gateway.address.is6 gateway.destination]

/-- The rule for a protected prefix. -/
def renderProtected (cidr : Prefix) : Rule :=
  ⟨.ingress, [.iifname tapName, .daddr cidr.addr.is6 (.cidr cidr)], false, .drop⟩

/-- The rules for a destination: its CIDR, or its pinned addresses. -/
def renderDestination (pins : Table ℕ (List Addr)) (d : Destination × ℕ) : List Rule :=
  if d.1.cidr.isValid then [renderNFTAllow tapName (.cidr d.1.cidr) d.1.cidr.addr.is6 d.1]
  else (sortAddresses ((pins.get d.2).getD [])).map fun a =>
    renderNFTAllow tapName (.address a) a.is6 d.1

/-- `renderNFTPolicy` -/
def renderNFTPolicy (guestIP dnsAddress : Addr) (allowDNS : Bool) (protectedNets : List Prefix)
    (destinations : List Destination) (runnerGateways : List RunnerGatewayDestination)
    (pins : Table ℕ (List Addr)) : List Rule :=
  [⟨.ingress, [.iifname tapName, .ipSaddrNe guestIP], false, .drop⟩,
   ⟨.egress, [.oifname tapName, .established], false, .accept⟩] ++
  renderARP tapName dnsAddress ++
  renderDNS tapName dnsAddress allowDNS ++
  runnerGateways.flatMap (renderGateway tapName) ++
  protectedNets.map (renderProtected tapName) ++
  destinations.zipIdx.flatMap (renderDestination tapName pins) ++
  [⟨.ingress, [.iifname tapName], false, .drop⟩, ⟨.egress, [.oifname tapName], false, .drop⟩]

/-- `replacementScript` -/
def PolicyInstance.replacementScript (inst : PolicyInstance) : List Rule :=
  renderNFTPolicy inst.tapName inst.guestIP inst.dnsAddress inst.policy.allowsDNS
    inst.policy.protectedPrefixes
    inst.policy.destinations inst.runnerGatewayDestinations inst.pins

/-! ## The policy of an instance -/

/-- Addresses kept from the guest.  The host compares them without their zones. -/
def CompiledPolicy.Shields (policy : CompiledPolicy) (dst : Addr) : Prop :=
  ∃ a, a.withoutZone = dst ∧ policy.isProtected a = true

/-- What the guest may reach, in the terms of the policy. -/
inductive PolicyInstance.Permits (inst : PolicyInstance) (dst : Addr) : Transport → Prop
  | dns {transport : Transport} (hallow : inst.policy.allowsDNS = true)
      (hdst : dst = inst.dnsAddress)
      (hport : transport = .udp 53 ∨ transport = .tcp 53) : inst.Permits dst transport
  | gateway {d : Destination} (hd : d ∈ inst.policy.destinations)
      (hdst : inst.policy.runnerGateways.get d.domain = some dst) : inst.Permits dst (.tcp d.port)
  | listener {port : ℕ} (hdst : (dst, port) ∈ inst.executionListeners) :
      inst.Permits dst (.tcp port)
  | cidr {d : Destination} (hfree : ¬inst.policy.Shields dst) (hd : d ∈ inst.policy.destinations)
      (hcidr : d.domain = "") (hdst : d.cidr.contains dst = true) : inst.Permits dst (.tcp d.port)
  | pinned {i : ℕ} {d : Destination} (hfree : ¬inst.policy.Shields dst)
      (hd : inst.policy.destinations[i]? = some d)
      (hdomain : d.domain ≠ "") (hdst : dst ∈ (inst.pins.get i).getD []) :
      inst.Permits dst (.tcp d.port)

/-! ## Evaluating the rules -/

section
variable {chain : Chain} {l₁ l₂ : List Rule} {packet : Packet}

theorem admits_append_allow (h : ∀ r ∈ l₁, r.chain = chain → r.verdict = .accept) :
    admits chain (l₁ ++ l₂) packet = true ↔
      (∃ r ∈ l₁, r.chain = chain ∧ r.applies packet = true) ∨ admits chain l₂ packet = true := by
  rw [admits, List.filter_append, FirstMatch.admitted_append_allow]
  · simp [admits, and_assoc]
  · intro r hr
    simp only [List.mem_filter, beq_iff_eq] at hr
    simp [Rule.allows, h r hr.1 hr.2]

theorem admits_append_deny (h : ∀ r ∈ l₁, r.chain = chain → r.verdict = .drop) :
    admits chain (l₁ ++ l₂) packet = true ↔
      (∀ r ∈ l₁, r.chain = chain → r.applies packet = false) ∧ admits chain l₂ packet = true := by
  rw [admits, List.filter_append, FirstMatch.admitted_append_deny]
  · simp [admits]
  · intro r hr
    simp only [List.mem_filter, beq_iff_eq] at hr
    simp [Rule.allows, h r hr.1 hr.2]

end

/-! ## What each block of rules applies to -/

section
variable {packet : Packet} {dst : Addr} {tapName : String}

theorem holds_daddr_address (hdst : packet.network.dst? = some dst) (a : Addr) :
    (Condition.daddr a.is6 (.address a)).holds packet = true ↔ a = dst := by
  cases hn : packet.network with
  | ip src d =>
    obtain rfl : Addr.v4 d = dst := by simpa [hn, Network.dst?] using hdst
    cases a <;> simp [Condition.holds, hn, Addr.is6, Target.matches]
  | ip6 src d =>
    obtain rfl : Addr.v6 d "" = dst := by simpa [hn, Network.dst?] using hdst
    cases a <;> simp [Condition.holds, hn, Addr.is6, Target.matches]
  | arp => simp [hn, Network.dst?] at hdst

theorem holds_daddr_cidr (hdst : packet.network.dst? = some dst) (c : Prefix) :
    (Condition.daddr c.addr.is6 (.cidr c)).holds packet = c.contains dst := by
  cases hn : packet.network with
  | ip src d =>
    obtain rfl : Addr.v4 d = dst := by simpa [hn, Network.dst?] using hdst
    cases c <;> simp [Condition.holds, hn, Addr.is6, Prefix.addr, Target.matches, Prefix.contains]
  | ip6 src d =>
    obtain rfl : Addr.v6 d "" = dst := by simpa [hn, Network.dst?] using hdst
    cases c <;> simp [Condition.holds, hn, Addr.is6, Prefix.addr, Target.matches, Prefix.contains]
  | arp => simp [hn, Network.dst?] at hdst

theorem holds_iifname (htap : packet.iifname = tapName) :
    (Condition.iifname tapName).holds packet = true :=
  beq_iff_eq.2 htap

@[simp] theorem holds_tcpDport {port : ℕ} :
    (Condition.tcpDport port).holds packet = true ↔ packet.transport = .tcp port := beq_iff_eq

@[simp] theorem holds_udpDport {port : ℕ} :
    (Condition.udpDport port).holds packet = true ↔ packet.transport = .udp port := beq_iff_eq

theorem renderNFTAllow_applies (htap : packet.iifname = tapName) {target : Target} {ipv6 : Bool}
    {d : Destination} :
    (renderNFTAllow tapName target ipv6 d).applies packet = true ↔
      (Condition.daddr ipv6 target).holds packet = true ∧ packet.transport = .tcp d.port := by
  simp [renderNFTAllow, Rule.applies, holds_iifname htap]

variable {r : Rule}

theorem renderARP_silent (hdst : packet.network.dst? = some dst) {a : Addr}
    (hr : r ∈ renderARP tapName a) : r.applies packet = false := by
  have harp : ∀ b : Addr, (Condition.arpDaddr b).holds packet = false ∧
      (Condition.arpSaddr b).holds packet = false := by
    intro b
    cases hn : packet.network with
    | ip | ip6 => simp [Condition.holds, hn]
    | arp => simp [hn, Network.dst?] at hdst
  rw [renderARP] at hr
  split at hr
  · simp only [List.mem_cons, List.not_mem_nil, or_false] at hr
    rcases hr with rfl | rfl <;> simp [Rule.applies, harp]
  · cases hr

theorem renderARP_accepts {a : Addr} (hr : r ∈ renderARP tapName a) : r.verdict = .accept := by
  rw [renderARP] at hr
  split at hr
  · simp only [List.mem_cons, List.not_mem_nil, or_false] at hr
    rcases hr with rfl | rfl <;> rfl
  · cases hr

theorem renderDNS_accepts {dnsAddress : Addr} {allowDNS : Bool}
    (hr : r ∈ renderDNS tapName dnsAddress allowDNS) : r.verdict = .accept := by
  rw [renderDNS] at hr
  split at hr
  · obtain ⟨dport, -, rfl⟩ := List.mem_map.1 hr
    rfl
  · cases hr

theorem renderGateway_accepts {g : RunnerGatewayDestination} (hr : r ∈ renderGateway tapName g) :
    r.verdict = .accept := by
  rcases List.mem_append.1 hr with hr | hr
  · exact renderARP_accepts hr
  · obtain rfl := List.mem_singleton.1 hr
    rfl

theorem renderDestination_accepts {pins : Table ℕ (List Addr)} {d : Destination × ℕ}
    (hr : r ∈ renderDestination tapName pins d) : r.verdict = .accept := by
  rw [renderDestination] at hr
  split at hr
  · obtain rfl := List.mem_singleton.1 hr
    rfl
  · obtain ⟨a, -, rfl⟩ := List.mem_map.1 hr
    rfl

variable (htap : packet.iifname = tapName) (hdst : packet.network.dst? = some dst)
include htap hdst

theorem renderDNS_applies {dnsAddress : Addr} {allowDNS : Bool} :
    (∃ r ∈ renderDNS tapName dnsAddress allowDNS, r.chain = .ingress ∧ r.applies packet = true) ↔
      allowDNS = true ∧ dst = dnsAddress ∧
        (packet.transport = .udp 53 ∨ packet.transport = .tcp 53) := by
  have hvalid : dst.isValid = true := by
    cases hn : packet.network <;> simp [hn, Network.dst?] at hdst <;> subst hdst <;> rfl
  rw [renderDNS]
  split
  next hallow =>
    simp only [Bool.and_eq_true] at hallow
    simp only [List.map_cons, List.map_nil, List.mem_cons, List.not_mem_nil, or_false,
      exists_eq_or_imp, exists_eq_left, Rule.applies, List.all_cons, List.all_nil,
      holds_iifname htap, Bool.and_eq_true, and_true, true_and, holds_daddr_address hdst,
      holds_udpDport, holds_tcpDport, hallow.1, ← and_or_left]
    rw [eq_comm]
  next hallow =>
    constructor
    · rintro ⟨r, hr, -⟩
      cases hr
    · rintro ⟨hallow', rfl, -⟩
      exact absurd (by simp [hallow', hvalid]) hallow

theorem renderGateway_applies {gateways : List RunnerGatewayDestination} :
    (∃ r ∈ gateways.flatMap (renderGateway tapName), r.chain = .ingress ∧ r.applies packet = true) ↔
      ∃ g ∈ gateways, dst = g.address ∧ packet.transport = .tcp g.destination.port := by
  have hallow : ∀ g : RunnerGatewayDestination,
      (renderNFTAllow tapName (.address g.address) g.address.is6 g.destination).applies
      packet = true ↔
        dst = g.address ∧ packet.transport = .tcp g.destination.port := by
    intro g
    rw [renderNFTAllow_applies htap, holds_daddr_address hdst, eq_comm]
  constructor
  · rintro ⟨r, hr, -, happlies⟩
    obtain ⟨g, hg, hr⟩ := List.mem_flatMap.1 hr
    rcases List.mem_append.1 hr with hr | hr
    · rw [renderARP_silent hdst hr] at happlies
      cases happlies
    · obtain rfl := List.mem_singleton.1 hr
      exact ⟨g, hg, (hallow g).1 happlies⟩
  · rintro ⟨g, hg, h⟩
    exact ⟨_, List.mem_flatMap.2 ⟨g, hg, List.mem_append_right _ (List.mem_singleton_self _)⟩, rfl,
      (hallow g).2 h⟩

theorem renderProtected_applies {protectedNets : List Prefix} :
    (∀ r ∈ protectedNets.map (renderProtected tapName), r.chain = .ingress →
      r.applies packet = false) ↔
      ∀ c ∈ protectedNets, c.contains dst = false := by
  simp [renderProtected, Rule.applies, holds_daddr_cidr hdst, holds_iifname htap]

theorem renderDestination_applies {pins : Table ℕ (List Addr)} {destinations : List Destination} :
    (∃ r ∈ destinations.zipIdx.flatMap (renderDestination tapName pins), r.chain = .ingress ∧
      r.applies packet = true) ↔
      ∃ i d, destinations[i]? = some d ∧ packet.transport = .tcp d.port ∧
        ((d.cidr.isValid = true ∧ d.cidr.contains dst = true) ∨
          (d.cidr.isValid = false ∧ dst ∈ (pins.get i).getD [])) := by
  have hone : ∀ (d : Destination) (i : ℕ), (∃ r ∈ renderDestination tapName pins (d, i),
      r.chain = .ingress ∧ r.applies packet = true) ↔ packet.transport = .tcp d.port ∧
        ((d.cidr.isValid = true ∧ d.cidr.contains dst = true) ∨
          (d.cidr.isValid = false ∧ dst ∈ (pins.get i).getD [])) := by
    intro d i
    rw [renderDestination]
    split
    next hvalid =>
      have hvalid : d.cidr.isValid = true := hvalid
      simp only [List.mem_singleton, exists_eq_left, renderNFTAllow_applies htap,
        holds_daddr_cidr hdst, hvalid]
      simp [renderNFTAllow, and_comm]
    next hvalid =>
      have hvalid : d.cidr.isValid = false := by simpa using hvalid
      simp only [List.mem_map, mem_sortAddresses, ↓existsAndEq, exists_exists_and_eq_and,
        renderNFTAllow_applies htap, holds_daddr_address hdst, hvalid]
      simp [renderNFTAllow, and_comm]
  constructor
  · rintro ⟨r, hr, hchain, happlies⟩
    obtain ⟨⟨d, i⟩, hd, hr⟩ := List.mem_flatMap.1 hr
    exact ⟨i, d, List.mem_zipIdx_iff_getElem?.1 hd, (hone d i).1 ⟨r, hr, hchain, happlies⟩⟩
  · rintro ⟨i, d, hd, h⟩
    obtain ⟨r, hr, hrest⟩ := (hone d i).2 h
    exact ⟨r, List.mem_flatMap.2 ⟨(d, i), List.mem_zipIdx_iff_getElem?.2 hd, hr⟩, hrest⟩

end

/-! ## The rules enforce the policy -/

section
variable {policy : Policy} {options : CompileOptions} {p : CompiledPolicy} {inst : PolicyInstance}
  {packet : Packet}
  {dst : Addr}

theorem Compiled.cidr_isValid_iff (hp : Compiled policy options p) {d : Destination}
    (hd : d ∈ p.destinations) :
    d.cidr.isValid = true ↔ d.domain = "" := by
  obtain ⟨d', -, hvalid⟩ := hp.mem_destinations hd
  obtain ⟨-, -, ⟨hname, hcidr⟩ | ⟨hempty, hvalid, hcidr⟩⟩ := validateDestination_cases hvalid
  · rw [hcidr]
    refine ⟨fun h => (by cases h), fun h => ?_⟩
    rw [h] at hname
    exact absurd hname normalizeDomain_ne_empty
  · rw [hcidr, Prefix.isValid_masked]
    exact ⟨fun _ => hempty, fun _ => hvalid⟩

theorem isProtected_iff (hvalid : dst.isValid = true) : p.isProtected dst = true ↔
    (∃ c ∈ p.managementPrefixes ++ protectedPrefixes, c.contains dst = true) ∨
      dst ∈ p.runnerAddresses ++ p.protectedAddresses := by
  simp only [CompiledPolicy.isProtected, isProtectedAddress, hvalid, Bool.not_true, Bool.false_or,
    Bool.or_eq_true, decide_eq_true_eq, List.any_eq_true, List.mem_append, or_and_right, exists_or]
  rw [or_assoc, or_comm]

theorem exists_protectedPrefixes_iff (hvalid : dst.isValid = true) :
    (∃ c ∈ p.protectedPrefixes, c.contains dst = true) ↔
      (∃ c ∈ p.managementPrefixes ++ protectedPrefixes, c.contains dst = true) ∨
        ∃ a ∈ p.runnerAddresses ++ p.protectedAddresses, dst = a.withoutZone := by
  simp only [CompiledPolicy.protectedPrefixes, List.mem_append, List.mem_map, or_and_right,
    exists_or, exists_exists_and_eq_and, Prefix.contains_single hvalid]
  rw [or_assoc, or_comm (a := ∃ x ∈ NetworkPolicy.protectedPrefixes, _)]

/-- Without zones in the configuration, the classes the host drops are the protected addresses. -/
theorem protectedPrefixes_iff
    (hzone : ∀ a ∈ p.runnerAddresses ++ p.protectedAddresses, a.zone = "" ∧ a.isValid = true)
    (hvalid : dst.isValid = true) : (∃ c ∈ p.protectedPrefixes, c.contains dst = true) ↔
    p.isProtected dst = true := by
  rw [exists_protectedPrefixes_iff hvalid, isProtected_iff hvalid]
  refine or_congr_right ⟨?_, fun h => ⟨dst, h, (Addr.withoutZone_of_zone (hzone dst h).1).symm⟩⟩
  rintro ⟨a, ha, rfl⟩
  rwa [Addr.withoutZone_of_zone (hzone a ha).1]

theorem protectedPrefixes_iff_runner :
    let p : CompiledPolicy := ⟨.denyAll, [], 0, 0, [.v4 1], [], [], .empty, .empty⟩
    (∃ c ∈ p.protectedPrefixes, c.contains (.v4 1) = true) ↔ p.isProtected (.v4 1) = true :=
  protectedPrefixes_iff (by decide) rfl

/-- The classes the host drops are the addresses the policy shields. -/
theorem protectedPrefixes_free_iff (hdst : packet.network.dst? = some dst) :
    (∀ c ∈ p.protectedPrefixes, c.contains dst = false) ↔ ¬p.Shields dst := by
  have hplain : dst.isValid = true ∧ dst.zone = "" := by
    cases hn : packet.network <;> simp [hn, Network.dst?] at hdst <;> subst hdst <;>
      exact ⟨rfl, rfl⟩
  have hcontains := exists_protectedPrefixes_iff (p := p) hplain.1
  rw [← not_iff_not, not_not]
  simp only [not_forall, Bool.not_eq_false, exists_prop]
  rw [hcontains]
  constructor
  · rintro (hc | ⟨a, ha, rfl⟩)
    · exact ⟨dst, Addr.withoutZone_of_zone hplain.2, (isProtected_iff hplain.1).2 (.inl hc)⟩
    · have hvalid : a.isValid = true := by cases a <;> simp_all [Addr.withoutZone, Addr.isValid]
      exact ⟨a, rfl, (isProtected_iff hvalid).2 (.inr ha)⟩
  · rintro ⟨a, rfl, ha⟩
    have hvalid : a.isValid = true := by cases a <;> simp_all [Addr.withoutZone, Addr.isValid]
    rcases (isProtected_iff hvalid).1 ha with ⟨c, hc, hcontains⟩ | ha
    · rw [Addr.withoutZone_of_zone (Prefix.zone_of_contains hcontains)]
      exact .inl ⟨c, hc, hcontains⟩
    · exact .inr ⟨a, ha, rfl⟩

/-- The destinations of the Runner's gateways are those of the policy and the Sandbox's own listeners. -/
theorem exists_runnerGatewayDestinations_iff {transport : Transport} :
    (∃ g ∈ inst.runnerGatewayDestinations, dst = g.address ∧ transport = .tcp g.destination.port) ↔
      (∃ d ∈ inst.policy.destinations, inst.policy.runnerGateways.get d.domain = some dst ∧
        transport = .tcp d.port) ∨
        ∃ port, (dst, port) ∈ inst.executionListeners ∧ transport = .tcp port := by
  simp only [PolicyInstance.runnerGatewayDestinations, CompiledPolicy.runnerGatewayDestinations,
    List.mem_append, List.mem_filterMap, List.mem_map, Option.map_eq_some_iff,
    List.mem_insertionSort]
  constructor
  · rintro ⟨_, ⟨d, hd, address, hget, rfl⟩ | ⟨l, hl, rfl⟩, rfl, rfl⟩
    · exact .inl ⟨d, hd, hget, rfl⟩
    · exact .inr ⟨l.2, hl, rfl⟩
  · rintro (⟨d, hd, hget, rfl⟩ | ⟨port, hl, rfl⟩)
    · exact ⟨_, .inl ⟨d, hd, dst, hget, rfl⟩, rfl, rfl⟩
    · exact ⟨_, .inr ⟨(dst, port), hl, rfl⟩, rfl, rfl⟩

/-- What the blocks of the ingress chain let through together. -/
theorem admits_replacementScript (htap : packet.iifname = inst.tapName)
    (hdst : packet.network.dst? = some dst) :
    admits .ingress inst.replacementScript packet = true ↔
      (Condition.ipSaddrNe inst.guestIP).holds packet = false ∧
        ((inst.policy.allowsDNS = true ∧ dst = inst.dnsAddress ∧
            (packet.transport = .udp 53 ∨ packet.transport = .tcp 53)) ∨
          (∃ g ∈ inst.runnerGatewayDestinations, dst = g.address ∧ packet.transport = .tcp g.destination.port) ∨
          (∀ c ∈ inst.policy.protectedPrefixes, c.contains dst = false) ∧
            ∃ i d, inst.policy.destinations[i]? = some d ∧ packet.transport = .tcp d.port ∧
              ((d.cidr.isValid = true ∧ d.cidr.contains dst = true) ∨
                (d.cidr.isValid = false ∧ dst ∈ (inst.pins.get i).getD []))) := by
  have hlast : admits .ingress [⟨.ingress, [.iifname inst.tapName], false, .drop⟩,
      ⟨.egress, [.oifname inst.tapName], false, .drop⟩] packet = false := by
    simp [admits, FirstMatch.admitted, Rule.applies, holds_iifname htap, Rule.allows]
  have harp : ¬∃ r ∈ renderARP inst.tapName inst.dnsAddress, r.chain = .ingress ∧
      r.applies packet = true := by
    rintro ⟨r, hr, -, happlies⟩
    rw [renderARP_silent hdst hr] at happlies
    cases happlies
  simp only [PolicyInstance.replacementScript, renderNFTPolicy, List.append_assoc]
  rw [admits_append_deny, admits_append_allow fun r hr _ => renderARP_accepts hr,
    admits_append_allow, renderDNS_applies htap hdst, admits_append_allow,
    renderGateway_applies htap hdst, admits_append_deny, renderProtected_applies htap hdst,
    admits_append_allow, renderDestination_applies htap hdst, hlast]
  · simp only [harp, false_or, Bool.false_eq_true, or_false, and_congr_left_iff]
    intro
    simp [Rule.applies, holds_iifname htap]
  · intro r hr _
    obtain ⟨⟨d, i⟩, -, hr⟩ := List.mem_flatMap.1 hr
    exact renderDestination_accepts hr
  · intro r hr _
    obtain ⟨c, -, rfl⟩ := List.mem_map.1 hr
    rfl
  · intro r hr _
    obtain ⟨g, -, hr⟩ := List.mem_flatMap.1 hr
    exact renderGateway_accepts hr
  · intro r hr _
    exact renderDNS_accepts hr
  · intro r hr hchain
    simp only [List.mem_cons, List.not_mem_nil, or_false] at hr
    rcases hr with rfl | rfl
    · rfl
    · cases hchain

theorem permits_iff (hp : Compiled policy options p) (hsame : SameRules p inst.policy)
    (hdst : packet.network.dst? = some dst) {transport : Transport} : inst.Permits dst transport ↔
      (inst.policy.allowsDNS = true ∧ dst = inst.dnsAddress ∧ (transport = .udp 53 ∨ transport = .tcp 53)) ∨
        (∃ g ∈ inst.runnerGatewayDestinations, dst = g.address ∧ transport = .tcp g.destination.port) ∨
        (∀ c ∈ inst.policy.protectedPrefixes, c.contains dst = false) ∧
          ∃ i d, inst.policy.destinations[i]? = some d ∧ transport = .tcp d.port ∧
            ((d.cidr.isValid = true ∧ d.cidr.contains dst = true) ∨
              (d.cidr.isValid = false ∧ dst ∈ (inst.pins.get i).getD [])) := by
  have hvalid : ∀ d ∈ inst.policy.destinations, d.cidr.isValid = true ↔ d.domain = "" := by
    intro d hd
    rw [hsame] at hd
    exact hp.cidr_isValid_iff hd
  rw [exists_runnerGatewayDestinations_iff, protectedPrefixes_free_iff hdst]
  constructor
  · rintro (⟨hallow, hdst, hport⟩ | ⟨hd, hdst⟩ | hdst | ⟨hfree, hd, hcidr, hdst⟩ | ⟨hfree, hd,
      hdomain, hdst⟩)
    · exact Or.inl ⟨hallow, hdst, hport⟩
    · exact Or.inr (Or.inl (Or.inl ⟨_, hd, hdst, rfl⟩))
    · exact Or.inr (Or.inl (Or.inr ⟨_, hdst, rfl⟩))
    · obtain ⟨i, hi⟩ := List.mem_iff_getElem?.1 hd
      exact Or.inr (Or.inr ⟨hfree, i, _, hi, rfl, Or.inl ⟨(hvalid _ hd).2 hcidr, hdst⟩⟩)
    · have hinvalid := mt (hvalid _ (List.mem_of_getElem? hd)).1 hdomain
      exact Or.inr (Or.inr ⟨hfree, _, _, hd, rfl, Or.inr ⟨by simpa using hinvalid, hdst⟩⟩)
  · rintro (⟨hallow, hdst, hport⟩ | (⟨d, hd, hdst, rfl⟩ | ⟨port, hdst, rfl⟩) |
      ⟨hfree, i, d, hd, rfl, ⟨hcidr, hdst⟩ | ⟨hcidr, hdst⟩⟩)
    · exact .dns hallow hdst hport
    · exact .gateway hd hdst
    · exact .listener hdst
    · have hmem := List.mem_of_getElem? hd
      exact .cidr hfree hmem ((hvalid d hmem).1 hcidr) hdst
    · have hdomain : d.domain ≠ "" := by
        intro hempty
        rw [(hvalid d (List.mem_of_getElem? hd)).2 hempty] at hcidr
        cases hcidr
      exact .pinned hfree hd hdomain hdst

/-- A packet of the guest is accepted when it goes where the policy permits and,
if it is IPv4, comes from the guest's own address. -/
theorem ruleset_refines_policy (h : compile policy options = .ok p)
    (hsame : SameRules p inst.policy) (htap : packet.iifname = inst.tapName) :
    (∀ src dst, packet.network = .ip src dst → (admits .ingress inst.replacementScript packet = true ↔
      inst.guestIP = .v4 src ∧ inst.Permits (.v4 dst) packet.transport)) ∧
    (∀ src dst, packet.network = .ip6 src dst → (admits .ingress inst.replacementScript packet = true ↔
      inst.Permits (.v6 dst "") packet.transport)) := by
  have hp := compile_eq_ok h
  constructor
  · intro src dst hn
    have hdst : packet.network.dst? = some (.v4 dst) := by rw [hn]; rfl
    rw [admits_replacementScript htap hdst, ← permits_iff hp hsame hdst]
    simp [Condition.holds, hn]
  · intro src dst hn
    have hdst : packet.network.dst? = some (.v6 dst "") := by rw [hn]; rfl
    rw [admits_replacementScript htap hdst, ← permits_iff hp hsame hdst]
    simp [Condition.holds, hn]

end

/-- An instance without pins. -/
def sampleInstance (p : CompiledPolicy) : PolicyInstance :=
  ⟨"tap0", .v4 0xac100002#32, .v4 0xac100001#32, p, .empty, .empty, []⟩

/-- A connection to the CIDR destination of `samplePolicy`. -/
def samplePacket (src : BitVec 32) : Packet := ⟨"tap0", "", false, .ip src 0x08080101#32, .tcp 80⟩

theorem sample_packet_accepted : ∃ p, compile samplePolicy sampleOptions = .ok p ∧
    admits .ingress (sampleInstance p).replacementScript (samplePacket 0xac100002#32) = true ∧
    (sampleInstance p).Permits (.v4 0x08080101#32) (.tcp 80) := by
  obtain ⟨p, hp, hadmits⟩ := exists_ok (x := compile samplePolicy sampleOptions)
    (f := fun p => admits .ingress (sampleInstance p).replacementScript (samplePacket 0xac100002#32))
    (by decide +kernel)
  have hsame : SameRules p (sampleInstance p).policy := rfl
  have htap : (samplePacket 0xac100002#32).iifname = (sampleInstance p).tapName := rfl
  have hrefines := ruleset_refines_policy hp hsame htap
  exact ⟨p, hp, hadmits, ((hrefines.1 _ _ rfl).1 hadmits).2⟩

/-- The same connection under another IPv4 source address is dropped. -/
theorem spoofed_source_dropped : ∃ (policy : Policy) (options : CompileOptions) (p : CompiledPolicy)
    (inst : PolicyInstance) (packet : Packet) (src dst : BitVec 32),
    compile policy options = .ok p ∧
    SameRules p inst.policy ∧ packet.iifname = inst.tapName ∧ packet.network = .ip src dst ∧
    inst.Permits (.v4 dst) packet.transport ∧ admits .ingress inst.replacementScript
      packet = false := by
  obtain ⟨p, hp, hboth⟩ := exists_ok (x := compile samplePolicy sampleOptions)
    (f := fun p => admits .ingress (sampleInstance p).replacementScript (samplePacket 0xac100002#32) &&
      !admits .ingress (sampleInstance p).replacementScript (samplePacket 0xac100003#32))
      (by decide +kernel)
  rw [Bool.and_eq_true, Bool.not_eq_true'] at hboth
  have hdst : (samplePacket 0xac100002#32).network.dst? = some (.v4 0x08080101#32) := rfl
  have htap : (samplePacket 0xac100002#32).iifname = (sampleInstance p).tapName := rfl
  have hsame : SameRules p (sampleInstance p).policy := rfl
  have hpermits :=
    (permits_iff (compile_eq_ok hp) hsame hdst).2 ((admits_replacementScript htap hdst).1 hboth.1).2
  exact ⟨samplePolicy, sampleOptions, p, sampleInstance p, samplePacket 0xac100003#32,
    0xac100003#32, 0x08080101#32, hp, rfl, rfl, rfl, hpermits, hboth.2⟩

end SecondBox.NetworkPolicy

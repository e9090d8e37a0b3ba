/-
  The outbound policy of one Sandbox: what `Compile` accepts, and the DNS pins
  the compiled policy keeps.

  Times and durations are in nanoseconds.  Go maps are tables whose row order is
  the order in which the map happens to be ranged over.
-/
import SecondBox.Base.Check
import SecondBox.Base.Netip
import SecondBox.Base.Table
import SecondBox.NetworkPolicy.Domain
import Mathlib.Data.List.Sort

namespace SecondBox.NetworkPolicy

open Netip Relational Check

/-- The mode of a policy, any other text `unsupported`. -/
inductive Mode
  | denyAll
  | allowList
  | unsupported (text : String)
deriving DecidableEq

/-- The protocol of a destination. -/
inductive Protocol
  | tcp
  | http
  | https
  | unsupported (text : String)
deriving DecidableEq

/-- The reason of a decision. -/
inductive Reason
  | allowedCIDR
  | allowedDomain
  | allowedRunnerGateway
  | allowedPinnedDNS
  | policyDenyAll
  | noMatchingRule
  | protectedDestination
  | protectedDNSAnswer
  | invalidDNSAnswer
  | dnsPinMissing
  | dnsPinExpired
  | dnsRebinding
  | pinCapacityExhausted
deriving DecidableEq

/-- One exact domain or CIDR, for one protocol and port.  The domain of a CIDR
destination is empty and the CIDR of a domain destination is invalid. -/
structure Destination where
  protocol : Protocol
  domain : String
  cidr : Prefix
  port : ℕ
deriving DecidableEq

/-- A policy as requested. -/
structure Policy where
  mode : Mode
  destinations : List Destination

/-- What the Runner adds to a policy. -/
structure CompileOptions where
  maximumPins : ℤ
  maximumTTL : ℤ
  runnerAddresses : List Addr
  managementPrefixes : List Prefix
  protectedAddresses : List Addr
  runnerGateways : Table String Addr

/-- Whether traffic is allowed, and why. -/
structure Decision where
  allowed : Bool
  reason : Reason
deriving DecidableEq

/-- A refusal. -/
def Decision.refused (reason : Reason) : Decision := ⟨false, reason⟩

/-- The addresses a name stands for, until they expire. -/
structure DNSPin where
  domain : String
  addresses : List Addr
  expiresAt : ℤ
deriving DecidableEq

instance : Inhabited DNSPin := ⟨⟨"", [], 0⟩⟩

/-- Family 0 is that of pins made without a family. -/
structure PinKey where
  protocol : Protocol
  domain : String
  port : ℕ
  family : ℕ
deriving DecidableEq

/-- A policy ready for use, with its pins. -/
structure CompiledPolicy where
  mode : Mode
  destinations : List Destination
  maximumPins : ℤ
  maximumTTL : ℤ
  runnerAddresses : List Addr
  managementPrefixes : List Prefix
  protectedAddresses : List Addr
  runnerGateways : Table String Addr
  pins : Table PinKey DNSPin

/-- What is wrong with a destination. -/
inductive DestinationError
  | protocol (text : Protocol)
  | port
  | reservedPort (port : ℕ)
  | target
  | name (e : NameError)
  | invalidCIDR
  | mappedCIDR
  | protectedClass (cidr : Prefix) (other : Prefix)
  | protectedAddress (cidr : Prefix) (address : Addr)
deriving DecidableEq

/-- Why a policy is not compiled. -/
inductive CompileError
  | maximumPins
  | maximumTTL
  | destinations
  | denyAllDestinations
  | mode (text : String)
  | runnerAddress
  | managementPrefix (e : DestinationError)
  | protectedAddress
  | destination (index : ℕ) (e : DestinationError)
  | gatewayDomain (e : NameError)
  | gatewayAddress (domain : String)
  | gatewayNotProtected (domain : String) (address : Addr)
  | gatewayDuplicated (domain : String)
deriving DecidableEq

/-- The destination classes no policy may reach. -/
def protectedPrefixes : List Prefix :=
  [.ofAddr (.ofBytes 0 0 0 0) 8,
   .ofAddr (.ofBytes 10 0 0 0) 8,
   .ofAddr (.ofBytes 100 64 0 0) 10,
   .ofAddr (.ofBytes 127 0 0 0) 8,
   .ofAddr (.ofBytes 169 254 0 0) 16,
   .ofAddr (.ofBytes 172 16 0 0) 12,
   .ofAddr (.ofBytes 192 0 0 0) 24,
   .ofAddr (.ofBytes 192 0 2 0) 24,
   .ofAddr (.ofBytes 192 88 99 0) 24,
   .ofAddr (.ofBytes 192 168 0 0) 16,
   .ofAddr (.ofBytes 198 18 0 0) 15,
   .ofAddr (.ofBytes 198 51 100 0) 24,
   .ofAddr (.ofBytes 203 0 113 0) 24,
   .ofAddr (.ofBytes 224 0 0 0) 4,
   .ofAddr (.ofBytes 240 0 0 0) 4,
   .ofAddr (.v6 0#128 "") 128,  -- ::/128
   .ofAddr (.v6 1#128 "") 128,  -- ::1/128
   .ofAddr (.v6 (0x0100#128 <<< 112) "") 64,  -- 100::/64
   .ofAddr (.v6 (0x20010db8#128 <<< 96) "") 32,  -- 2001:db8::/32
   .ofAddr (.v6 (0xfc00#128 <<< 112) "") 7,  -- fc00::/7
   .ofAddr (.v6 (0xfe80#128 <<< 112) "") 10,  -- fe80::/10
   .ofAddr (.v6 (0xff00#128 <<< 112) "") 8]  -- ff00::/8

/-- The most addresses in a pin. -/
def maximumPinAddresses : ℕ := 64

/-- `normalizeDomain` -/
def normalizeDomain : String → Except NameError String := normalizeLogicalGatewayName

/-- `normalizeAddress`: a mapped address is its IPv4 address. -/
def normalizeAddress (address : Addr) : Addr := if address.is4In6 then address.unmap else address

/-- `normalizePrefix`: masked, and not mapped. -/
def normalizePrefix (cidr : Prefix) : Except DestinationError Prefix :=
  if !cidr.isValid then .error .invalidCIDR
  else if cidr.addr.is4In6 then .error .mappedCIDR
  else .ok cidr.masked

/-- `prefixesOverlap` -/
def prefixesOverlap (left right : Prefix) : Bool :=
  left.addr.bitLen == right.addr.bitLen && (left.contains right.addr || right.contains left.addr)

/-- `isProtectedAddress` -/
def isProtectedAddress (address : Addr) (runnerAddresses : List Addr)
    (managementPrefixes : List Prefix) (protectedAddresses : List Addr) : Bool :=
  !address.isValid || address ∈ runnerAddresses || address ∈ protectedAddresses ||
    managementPrefixes.any (·.contains address) || protectedPrefixes.any (·.contains address)

/-- `validProtocol` -/
def validProtocol : Protocol → Bool
  | .unsupported _ => false
  | _ => true

/-- `validateDestination`: a name or a CIDR, none of it protected. -/
def validateDestination (destination : Destination) (dynamicProtected : List Addr) :
    Except DestinationError Destination := do
  require (validProtocol destination.protocol) (.protocol destination.protocol)
  require (destination.port ≠ 0) .port
  require (destination.port ≠ 53 ∧ destination.port ≠ 853) (.reservedPort destination.port)
  let hasDomain : Bool := trimSpace destination.domain.toList ≠ []
  require (hasDomain ≠ destination.cidr.isValid) .target
  if hasDomain then
    let domain ← (normalizeDomain destination.domain).mapError .name
    return { destination with domain := domain, cidr := .invalid }
  else
    let cidr ← normalizePrefix destination.cidr
    match protectedPrefixes.find? (prefixesOverlap cidr) with
    | some other => throw (.protectedClass cidr other)
    | none =>
      match dynamicProtected.find? cidr.contains with
      | some address => throw (.protectedAddress cidr address)
      | none => return { destination with cidr := cidr, domain := "" }

/-- One entry of `options.RunnerGateways`, added to the gateways so far. -/
def compileGateway (runnerAddresses : List Addr) (managementPrefixes : List Prefix)
    (protectedAddresses : List Addr) (gateways : Table String Addr) (entry : String × Addr) :
    Except CompileError (Table String Addr) := do
  let domain ← (normalizeDomain entry.1).mapError .gatewayDomain
  let address := normalizeAddress entry.2
  require address.isValid (.gatewayAddress domain)
  require (isProtectedAddress address runnerAddresses managementPrefixes protectedAddresses)
    (.gatewayNotProtected domain address)
  require (gateways.get domain).isNone (.gatewayDuplicated domain)
  return gateways.put domain address

/-- The check of the mode. -/
def checkMode (policy : Policy) : Except CompileError Unit :=
  match policy.mode with
  | .denyAll => require policy.destinations.isEmpty .denyAllDestinations
  | .allowList => .ok ()
  | .unsupported text => .error (.mode text)

/-- A normalized address, or `e`. -/
def compileAddress (e : CompileError) (address : Addr) : Except CompileError Addr := do
  require (normalizeAddress address).isValid e
  return normalizeAddress address

/-- `Compile` -/
def compile (policy : Policy) (options : CompileOptions) : Except CompileError CompiledPolicy := do
  require (1 ≤ options.maximumPins) .maximumPins
  require (0 < options.maximumTTL) .maximumTTL
  require (policy.destinations.length ≤ 128) .destinations
  checkMode policy
  let runnerAddresses ← options.runnerAddresses.mapM (compileAddress .runnerAddress)
  let managementPrefixes ← options.managementPrefixes.mapM fun p =>
    (normalizePrefix p).mapError .managementPrefix
  let protectedAddresses ← options.protectedAddresses.mapM (compileAddress .protectedAddress)
  let destinations ← policy.destinations.zipIdx.mapM fun d =>
    (validateDestination d.1 protectedAddresses).mapError (.destination d.2)
  let runnerGateways ← options.runnerGateways.rows.foldlM
    (compileGateway runnerAddresses managementPrefixes protectedAddresses) .empty
  return { mode := policy.mode, destinations, maximumPins := options.maximumPins, maximumTTL := options.maximumTTL,
           runnerAddresses, managementPrefixes, protectedAddresses, runnerGateways, pins := .empty }

/-- The items of `items` that are not in `seen` or earlier in `items`, after `seen`. -/
def appendNew {α : Type} [DecidableEq α] (seen : List α) : List α → List α
  | [] => seen
  | a :: items => if a ∈ seen then appendNew seen items else appendNew (seen ++ [a]) items

/-- `sort.Slice` by `Compare`. -/
def sortAddresses : List Addr → List Addr := List.insertionSort (· ≤ ·)

/-- `mergeAddresses`: sorted, without repetitions. -/
def mergeAddresses (left right : List Addr) : List Addr :=
  sortAddresses (appendNew (appendNew [] left) right)

namespace CompiledPolicy

/-- `isProtected` -/
def isProtected (policy : CompiledPolicy) (address : Addr) : Bool :=
  isProtectedAddress address policy.runnerAddresses policy.managementPrefixes
    policy.protectedAddresses

/-- `hasDomainRule` -/
def hasDomainRule (policy : CompiledPolicy) (protocol : Protocol) (domain : String) (port : ℕ) :
    Bool :=
  policy.destinations.any fun d => d.domain == domain && d.protocol == protocol && d.port == port

/-- `isRunnerGateway` -/
def isRunnerGateway (policy : CompiledPolicy) (protocol : Protocol) (domain : String)
    (address : Addr) (port : ℕ) :
    Bool :=
  policy.runnerGateways.get domain == some address && policy.hasDomainRule protocol domain port

/-- `AllowsDNS` -/
def allowsDNS (policy : CompiledPolicy) : Bool :=
  policy.mode ≠ .denyAll && policy.destinations.any fun d => d.domain ≠ ""

/-- `ProtectedPrefixes` -/
def protectedPrefixes (policy : CompiledPolicy) : List Prefix :=
  NetworkPolicy.protectedPrefixes ++ policy.managementPrefixes ++ policy.runnerAddresses.map
    .single ++ policy.protectedAddresses.map .single

/-- Domain rules never authorize the direct use of an address. -/
def authorizeIP (policy : CompiledPolicy) (protocol : Protocol) (address : Addr) (port : ℕ) :
    Decision :=
  if policy.mode = .denyAll then .refused .policyDenyAll
  else if policy.isProtected (normalizeAddress address) then .refused .protectedDestination
  else if policy.destinations.any fun d =>
      d.domain == "" && d.protocol == protocol && d.port == port &&
        d.cidr.contains (normalizeAddress address) then
    ⟨true, .allowedCIDR⟩
  else .refused .noMatchingRule

/-- The loop of `pinDNS` over an answer; `seen` is what it has kept so far. -/
def normalizeAnswer (policy : CompiledPolicy) (family : ℕ) (seen : List Addr) :
    List Addr → Except Reason (List Addr)
  | [] => .ok seen
  | address :: addresses =>
    let address := normalizeAddress address
    if !address.isValid then .error .invalidDNSAnswer
    else if family = 4 ∧ !address.is4 ∨ family = 6 ∧ !address.is6 then .error .invalidDNSAnswer
    else if policy.isProtected address then .error .protectedDNSAnswer
    else if address ∈ seen then policy.normalizeAnswer family seen addresses
    else policy.normalizeAnswer family (seen ++ [address]) addresses

/-- `removeExpiredPinsLocked` -/
def removeExpiredPins (policy : CompiledPolicy) (now : ℤ) : CompiledPolicy :=
  { policy with pins := policy.pins.deleteWhere fun _ pin => !(now < pin.expiresAt) }

/-- What `pinDNS` does under the lock with an answer it accepted. -/
def storePin (policy : CompiledPolicy) (key : PinKey) (normalized : List Addr) (expiresAt now : ℤ) :
    (DNSPin × Decision) × CompiledPolicy :=
  let policy := policy.removeExpiredPins now
  match policy.pins.get key with
  | some existing =>
    let merged := mergeAddresses existing.addresses normalized
    if maximumPinAddresses < merged.length then ((default, .refused .pinCapacityExhausted), policy)
    else
      let pin : DNSPin := ⟨key.domain, merged, expiresAt⟩
      ((pin, ⟨true, .allowedDomain⟩), { policy with pins := policy.pins.put key pin })
  | none =>
    if policy.maximumPins ≤ policy.pins.size then
      ((default, .refused .pinCapacityExhausted), policy)
    else if maximumPinAddresses < normalized.length then
      ((default, .refused .pinCapacityExhausted), policy)
    else
      let pin : DNSPin := ⟨key.domain, normalized, expiresAt⟩
      ((pin, ⟨true, .allowedDomain⟩), { policy with pins := policy.pins.put key pin })

/-- `pinDNS` of the source, family 0 for either. -/
def pin (policy : CompiledPolicy) (protocol : Protocol) (rawDomain : String) (port family : ℕ)
    (addresses : List Addr) (ttl now : ℤ) : (DNSPin × Decision) × CompiledPolicy :=
  if policy.mode = .denyAll then ((default, .refused .policyDenyAll), policy)
  else match normalizeDomain rawDomain with
    | .error _ => ((default, .refused .noMatchingRule), policy)
    | .ok domain =>
      if !policy.hasDomainRule protocol domain port then
        ((default, .refused .noMatchingRule), policy)
      else if ttl ≤ 0 ∨ addresses = [] then ((default, .refused .invalidDNSAnswer), policy)
      else match policy.normalizeAnswer family [] addresses with
        | .error reason => ((default, .refused reason), policy)
        | .ok normalized =>
          if normalized = [] then ((default, .refused .invalidDNSAnswer), policy)
          else policy.storePin ⟨protocol, domain, port, family⟩ (sortAddresses normalized)
            (now + min ttl policy.maximumTTL) now

/-- `PinDNS` -/
def pinDNS (policy : CompiledPolicy) (protocol : Protocol) (rawDomain : String) (port : ℕ)
    (addresses : List Addr) (ttl now : ℤ) : (DNSPin × Decision) × CompiledPolicy :=
  policy.pin protocol rawDomain port 0 addresses ttl now

/-- `PinDNSForAddressFamily` -/
def pinDNSForAddressFamily (policy : CompiledPolicy) (protocol : Protocol) (rawDomain : String)
    (port family : ℕ) (addresses : List Addr) (ttl now : ℤ) :
    (DNSPin × Decision) × CompiledPolicy :=
  if family ≠ 4 ∧ family ≠ 6 then ((default, .refused .invalidDNSAnswer), policy)
  else policy.pin protocol rawDomain port family addresses ttl now

/-- `AuthorizePinned` -/
def authorizePinned (policy : CompiledPolicy) (protocol : Protocol) (rawDomain : String)
    (address : Addr) (port : ℕ) (now : ℤ) : Decision × CompiledPolicy :=
  if policy.mode = .denyAll then (.refused .policyDenyAll, policy)
  else match normalizeDomain rawDomain with
    | .error _ => (.refused .noMatchingRule, policy)
    | .ok domain =>
      if !policy.hasDomainRule protocol domain port then (.refused .noMatchingRule, policy)
      else
        let address := normalizeAddress address
        if policy.isRunnerGateway protocol domain address port then
          (⟨true, .allowedRunnerGateway⟩, policy)
        else if policy.isProtected address then (.refused .protectedDestination, policy)
        else
          let key : PinKey := ⟨protocol, domain, port, 0⟩
          match policy.pins.get key with
          | none => (.refused .dnsPinMissing, policy)
          | some pin =>
            if !(now < pin.expiresAt) then
              (.refused .dnsPinExpired, { policy with pins := policy.pins.deleteWhere fun k _ => k == key })
            else if address ∈ pin.addresses then (⟨true, .allowedPinnedDNS⟩, policy)
            else (.refused .dnsRebinding, policy)

end CompiledPolicy

end SecondBox.NetworkPolicy

/-
  IP addresses and prefixes as Go's `net/netip` has them.

  An address is IPv4, IPv6 with a zone, or the zero value, which is neither.
  A prefix holds an address without its zone and a number of leading bits; the
  number is bounded by the length of the address, so a prefix out of range is
  only ever `invalid`.
-/
import Mathlib.Data.BitVec
import Mathlib.Data.Prod.Lex
import Mathlib.Data.String.Basic
import Mathlib.Order.Basic

namespace Netip

/-- `netip.Addr` -/
inductive Addr
  | invalid
  | v4 (bits : BitVec 32)
  | v6 (bits : BitVec 128) (zone : String)
deriving DecidableEq

namespace Addr

/-- `IsValid` -/
def isValid : Addr → Bool
  | invalid => false
  | _ => true

/-- `Is4` -/
def is4 : Addr → Bool
  | v4 _ => true
  | _ => false

/-- `Is6` -/
def is6 : Addr → Bool
  | v6 _ _ => true
  | _ => false

/-- `BitLen` -/
def bitLen : Addr → ℕ
  | invalid => 0
  | v4 _ => 32
  | v6 _ _ => 128

/-- The address as a number. -/
def value : Addr → ℕ
  | invalid => 0
  | v4 b => b.toNat
  | v6 b _ => b.toNat

/-- `Zone` -/
def zone : Addr → String
  | v6 _ z => z
  | _ => ""

/-- `WithZone("")`. -/
def withoutZone : Addr → Addr
  | v6 b _ => v6 b ""
  | a => a

theorem withoutZone_of_zone {a : Addr} (h : a.zone = "") : a.withoutZone = a := by
  cases a with
  | invalid | v4 => rfl
  | v6 b z => exact congrArg (v6 b) (Eq.symm h)

/-- `AddrFrom4`. -/
def ofBytes (a b c d : ℕ) : Addr := v4 (BitVec.ofNat 32 (((a * 256 + b) * 256 + c) * 256 + d))

/-- `Is4In6` -/
def is4In6 : Addr → Bool
  | v6 b _ => b >>> 32 == 0xffff#128
  | _ => false

/-- `Unmap` -/
def unmap : Addr → Addr
  | v6 b z => if is4In6 (v6 b z) then v4 (b.setWidth 32) else v6 b z
  | a => a

/-- What `Compare` compares, in its order. -/
def key (a : Addr) : ℕ ×ₗ ℕ ×ₗ String := toLex (a.bitLen, toLex (a.value, a.zone))

theorem key_injective : Function.Injective key := by
  intro a b h
  have h : a.bitLen = b.bitLen ∧ a.value = b.value ∧ a.zone = b.zone := by
    simpa [key, Prod.ext_iff] using h
  obtain ⟨hl, hv, hz⟩ := h
  cases a <;> cases b <;> simp_all [bitLen, value, zone, BitVec.toNat_inj]

/-- The order of `Compare`. -/
instance : LinearOrder Addr := LinearOrder.lift' key key_injective

end Addr

/-! ## Prefixes -/

/-- Do `a` and `b` agree in their first `n` bits? -/
def agree {w : ℕ} (n : ℕ) (a b : BitVec w) : Bool := (a ^^^ b) >>> (w - n) == 0#w

/-- The first `n` bits of `a`, the others cleared. -/
def high {w : ℕ} (n : ℕ) (a : BitVec w) : BitVec w := a >>> (w - n) <<< (w - n)

theorem agree_high {w : ℕ} (n : ℕ) (a b : BitVec w) : agree n a (high n b) = agree n a b := by
  have : (a ^^^ high n b) >>> (w - n) = (a ^^^ b) >>> (w - n) := by
    ext i hi
    by_cases hw : w - n + i < w
    · simp [high, hw]
    · have hb : b.getLsbD (w - n + i) = false := BitVec.getLsbD_of_ge b _ (by omega)
      simp [high, hw, hb]
  rw [agree, agree, this]

theorem agree_self {w : ℕ} (a b : BitVec w) : agree w a b = true ↔ a = b := by
  simp [agree, BitVec.xor_eq_zero_iff]

/-- `netip.Prefix` -/
inductive Prefix
  | invalid
  | v4 (addr : BitVec 32) (bits : Fin 33)
  | v6 (addr : BitVec 128) (bits : Fin 129)
deriving DecidableEq

namespace Prefix

/-- `IsValid` -/
def isValid : Prefix → Bool
  | invalid => false
  | _ => true

/-- `Addr` -/
def addr : Prefix → Addr
  | invalid => .invalid
  | v4 a _ => .v4 a
  | v6 a _ => .v6 a ""

/-- `netip.PrefixFrom`: the zone is dropped. -/
def ofAddr (address : Addr) (bits : ℕ) : Prefix :=
  match address with
  | .invalid => invalid
  | .v4 a => if h : bits < 33 then v4 a ⟨bits, h⟩ else invalid
  | .v6 a _ => if h : bits < 129 then v6 a ⟨bits, h⟩ else invalid

/-- The prefix of one address. -/
def single (address : Addr) : Prefix := ofAddr address address.bitLen

/-- A zone never matches, nor does an address of the other family. -/
def contains : Prefix → Addr → Bool
  | v4 p n, .v4 a => agree n a p
  | v6 p n, .v6 a z => z == "" && agree n a p
  | _, _ => false

/-- `Masked` -/
def masked : Prefix → Prefix
  | invalid => invalid
  | v4 a n => v4 (high n a) n
  | v6 a n => v6 (high n a) n

@[simp] theorem contains_masked (p : Prefix) (a : Addr) : p.masked.contains a = p.contains a := by
  cases p <;> cases a <;> simp [masked, contains, agree_high]

theorem zone_of_contains {p : Prefix} {a : Addr} (h : p.contains a = true) : a.zone = "" := by
  cases a with
  | invalid | v4 => rfl
  | v6 b z => cases p <;> simp_all [contains, Addr.zone]

/-- The prefix of one address contains that address only, without its zone. -/
theorem contains_single {a b : Addr} (hb : b.isValid = true) : (single a).contains b = true ↔
    b = a.withoutZone := by
  cases a with
  | invalid =>
    have hne : b ≠ .invalid := fun h => by simp [h, Addr.isValid] at hb
    simpa [single, ofAddr, contains, Addr.withoutZone] using hne
  | v4 x =>
    have hsingle : single (.v4 x) = v4 x ⟨32, by decide⟩ := rfl
    rw [hsingle]
    cases b with
    | v4 y => exact (agree_self y x).trans ⟨fun h => by rw [h]; rfl, fun h => by cases h; rfl⟩
    | invalid | v6 => simp [contains, Addr.withoutZone]
  | v6 x z =>
    have hsingle : single (.v6 x z) = v6 x ⟨128, by decide⟩ := rfl
    rw [hsingle]
    cases b with
    | v6 y z' =>
      simp only [contains, Bool.and_eq_true, beq_iff_eq, Addr.withoutZone, Addr.v6.injEq]
      exact ⟨fun h => ⟨(agree_self y x).1 h.2, h.1⟩, fun h => ⟨h.2, (agree_self y x).2 h.1⟩⟩
    | invalid | v4 => simp [contains, Addr.withoutZone]

@[simp] theorem isValid_masked (p : Prefix) : p.masked.isValid = p.isValid := by
  cases p <;> rfl

end Prefix

end Netip

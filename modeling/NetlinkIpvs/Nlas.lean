import Mathlib.Data.Vector.Basic
import Mathlib.Tactic.SplitIfs
import NetlinkIpvs.Crates
import NetlinkIpvs.LastWins

/-!
# Addresses and statistics

The types that the service and the destination attributes share
(`src/ctrl/nlas/mod.rs`) : the address family, addresses as bytes, and the 64-bit
statistics, which arrive as attributes of their own.

`AddrBytes.asIpaddr` panics on bytes that do not fit the family
(`AddrBytes.exists_asIpaddr_iff`), and gives back the address that `IpAddr.octets` widened
to 16 bytes (`AddrBytes.asIpaddr_octets`). A payload is decoded as statistics iff it is
covered by attributes of a known kind with at least eight bytes each, and the decoder
panics iff it gets to one of a known kind with fewer (`Stats64.parseNlas_settles`).
-/

open Rust Rust.Outcome
open Tlv.Format (readAll)

namespace NetlinkIpvs

/-- `Ipv4Addr::octets` and `Ipv6Addr::octets`. -/
abbrev Octets (n : ℕ) := List.Vector UInt8 n

/-- `NonZeroU32`. -/
abbrev NonZeroU32 := { n : UInt32 // n ≠ 0 }

/-- `NonZeroU32::new`. -/
def NonZeroU32.new (n : UInt32) : Option NonZeroU32 :=
  if h : n = 0 then none else some ⟨n, h⟩

@[simp] theorem NonZeroU32.new_zero : new 0 = none := rfl

@[simp] theorem NonZeroU32.new_get (n : NonZeroU32) : new n = some n :=
  dif_neg n.2

/-- `x.map(|x| x.get()).unwrap_or(0)`. -/
def NonZeroU32.orZero : Option NonZeroU32 → UInt32
  | some x => x
  | none => 0

@[simp] theorem NonZeroU32.new_orZero (x : Option NonZeroU32) : new (orZero x) = x := by
  cases x with
  | none => rfl
  | some n => exact new_get n

@[simp] theorem NonZeroU32.orZero_new (n : UInt32) : orZero (new n) = n := by
  unfold new
  split_ifs with h
  · exact h.symm
  · rfl

theorem NonZeroU32.new_eq_some {n : UInt32} {t : NonZeroU32} : new n = some t ↔ n = t := by
  refine ⟨fun h => ?_, fun h => ?_⟩
  · have := congrArg orZero h
    rwa [orZero_new] at this
  · rw [h, new_get]

inductive AddressFamily where
  | IPv4
  | IPv6
deriving DecidableEq, Repr

/-- `std::net::IpAddr`. -/
inductive IpAddr where
  | V4 (v : Octets 4)
  | V6 (v : Octets 16)
deriving DecidableEq

/-- The family of an address variant. -/
def IpAddr.family : IpAddr → AddressFamily
  | V4 _ => .IPv4
  | V6 _ => .IPv6

/-- The number of bits of an address. -/
def AddressFamily.bits : AddressFamily → UInt8
  | IPv4 => 32
  | IPv6 => 128

/-- The number of bytes of an address. -/
def AddressFamily.size : AddressFamily → ℕ
  | IPv4 => 4
  | IPv6 => 16

theorem AddressFamily.toNat_bits (f : AddressFamily) : f.bits.toNat = 8 * f.size := by
  cases f <;> rfl

/-- The number of a family on the wire. -/
def AddressFamily.toU16 : AddressFamily → UInt16
  | IPv4 => 2
  | IPv6 => 10

/-! ## Addresses -/

structure AddrBytes where
  bytes : Bytes
deriving DecidableEq, Repr

/-- The bytes an address is sent as, always 16. -/
def IpAddr.octets : IpAddr → Bytes
  | V4 v => v.toList ++ List.replicate 12 0
  | V6 v => v.toList

namespace AddrBytes

/-- `AddrBytes::as_ipaddr`. -/
def asIpaddr (self : AddrBytes) : AddressFamily → Panics IpAddr
  | .IPv4 => do
    let b0 ← Slice.index self.bytes 0
    let b1 ← Slice.index self.bytes 1
    let b2 ← Slice.index self.bytes 2
    let b3 ← Slice.index self.bytes 3
    return .V4 ⟨[b0, b1, b2, b3], rfl⟩
  | .IPv6 =>
    if h : self.bytes.length = 16 then .ok (.V6 ⟨self.bytes, h⟩) else .error .sizeMismatch

/-- The bytes are an address of the family : at least 4 for IPv4, exactly 16 for IPv6. -/
def Fits (self : AddrBytes) : AddressFamily → Prop
  | .IPv4 => 4 ≤ self.bytes.length
  | .IPv6 => self.bytes.length = 16

instance (self : AddrBytes) : ∀ f, Decidable (self.Fits f)
  | .IPv4 => inferInstanceAs (Decidable (_ ≤ _))
  | .IPv6 => inferInstanceAs (Decidable (_ = _))

/-- `as_ipaddr` returns iff the bytes are an address of the family. -/
theorem exists_asIpaddr_iff (self : AddrBytes) (f : AddressFamily) :
    (∃ a, self.asIpaddr f = .ok a) ↔ self.Fits f := by
  obtain ⟨bs⟩ := self
  cases f with
  | IPv4 =>
    rcases bs with _ | ⟨b0, _ | ⟨b1, _ | ⟨b2, _ | ⟨b3, bs⟩⟩⟩⟩ <;>
      simp [asIpaddr, Fits, Slice.index]
  | IPv6 =>
    unfold asIpaddr Fits
    split_ifs with h <;> simp [h]

/-- The address is of the family it is read for. -/
theorem family_of_asIpaddr {self : AddrBytes} {f : AddressFamily} {a : IpAddr}
    (h : self.asIpaddr f = .ok a) : a.family = f := by
  cases f with
  | IPv4 =>
    simp only [asIpaddr, bind_panics_eq_ok] at h
    obtain ⟨_, -, _, -, _, -, _, -, h⟩ := h
    rw [← Except.ok.inj h]
    rfl
  | IPv6 =>
    unfold asIpaddr at h
    split_ifs at h
    rw [← Except.ok.inj h]
    rfl

/-- The widened bytes of an address give it back. -/
theorem asIpaddr_octets (a : IpAddr) : asIpaddr ⟨a.octets⟩ a.family = .ok a := by
  cases a with
  | V4 v =>
    obtain ⟨bs, hbs⟩ := v
    match bs, hbs with
    | [b0, b1, b2, b3], _ => rfl
  | V6 v =>
    obtain ⟨bs, hbs⟩ := v
    exact dif_pos hbs

end AddrBytes

@[simp] theorem IpAddr.length_octets (a : IpAddr) : a.octets.length = 16 := by
  cases a <;> simp [octets]

/-! ## Statistics -/

@[ext] structure Stats64 where
  connections : UInt64 := 0
  incomingPackets : UInt64 := 0
  outgoingPackets : UInt64 := 0
  incomingBytes : UInt64 := 0
  outgoingBytes : UInt64 := 0
  connectionRate : UInt64 := 0
  incomingPacketRate : UInt64 := 0
  outgoingPacketRate : UInt64 := 0
  incomingByteRate : UInt64 := 0
  outgoingByteRate : UInt64 := 0
deriving DecidableEq, Repr

inductive Stats64Attr where
  | connCount (val : UInt64)
  | incPktCount (val : UInt64)
  | outPktCount (val : UInt64)
  | incByteCount (val : UInt64)
  | outByteCount (val : UInt64)
  | connRate (val : UInt64)
  | incPktRate (val : UInt64)
  | outPktRate (val : UInt64)
  | incByteRate (val : UInt64)
  | outByteRate (val : UInt64)
deriving DecidableEq, Repr

@[match_pattern] abbrev STATS_ATTR_CONNS : ℕ := 1
@[match_pattern] abbrev STATS_ATTR_INPKTS : ℕ := 2
@[match_pattern] abbrev STATS_ATTR_OUTPKTS : ℕ := 3
@[match_pattern] abbrev STATS_ATTR_INBYTES : ℕ := 4
@[match_pattern] abbrev STATS_ATTR_OUTBYTES : ℕ := 5
@[match_pattern] abbrev STATS_ATTR_CPS : ℕ := 6
@[match_pattern] abbrev STATS_ATTR_INPPS : ℕ := 7
@[match_pattern] abbrev STATS_ATTR_OUTPPS : ℕ := 8
@[match_pattern] abbrev STATS_ATTR_INBPS : ℕ := 9
@[match_pattern] abbrev STATS_ATTR_OUTBPS : ℕ := 10

variable (K : Crates)

/-- The variant with the number at the front of the payload. -/
def Stats64Attr.read (payload : Bytes) (attr : UInt64 → Stats64Attr) :
    Outcome DecodeError Stats64Attr := do
  let val ← K.readU64 .little payload
  return attr val

/-- `Stats64Attr::parse`. -/
def Stats64Attr.parse (buf : NlaBuffer) : Outcome DecodeError Stats64Attr :=
  match buf.kind with
  | STATS_ATTR_CONNS => read K buf.value .connCount
  | STATS_ATTR_INPKTS => read K buf.value .incPktCount
  | STATS_ATTR_OUTPKTS => read K buf.value .outPktCount
  | STATS_ATTR_INBYTES => read K buf.value .incByteCount
  | STATS_ATTR_OUTBYTES => read K buf.value .outByteCount
  | STATS_ATTR_CPS => read K buf.value .connRate
  | STATS_ATTR_INPPS => read K buf.value .incPktRate
  | STATS_ATTR_OUTPPS => read K buf.value .outPktRate
  | STATS_ATTR_INBPS => read K buf.value .incByteRate
  | STATS_ATTR_OUTBPS => read K buf.value .outByteRate
  | _ => .err (.message "unexpected kind for stats64 attr")

/-- The body of the loop in `Stats64::from_nlas`. -/
def Stats64.update (stats : Stats64) : Stats64Attr → Stats64
  | .connCount val => { stats with connections := val }
  | .incPktCount val => { stats with incomingPackets := val }
  | .outPktCount val => { stats with outgoingPackets := val }
  | .incByteCount val => { stats with incomingBytes := val }
  | .outByteCount val => { stats with outgoingBytes := val }
  | .connRate val => { stats with connectionRate := val }
  | .incPktRate val => { stats with incomingPacketRate := val }
  | .outPktRate val => { stats with outgoingPacketRate := val }
  | .incByteRate val => { stats with incomingByteRate := val }
  | .outByteRate val => { stats with outgoingByteRate := val }

/-- `Stats64::from_nlas`. -/
def Stats64.fromNlas (nlas : List Stats64Attr) : Outcome DecodeError Stats64 :=
  .ok (nlas.foldl update {})

/-- The statistics branch of `SvcCtrlAttrs::parse` and `DestinationCtrlAttrs::parse`,
which write it in the same words. -/
def Stats64.parseNlas (payload : Bytes) : Outcome DecodeError Stats64 := do
  let nlas ← (readAll (Stats64Attr.parse K) (K.nlasIterator payload)).mapErr
    (.context "failed to parse control message attributes")
  Stats64.fromNlas nlas

/-! ## What the statistics decoder accepts -/

namespace Stats64Attr

/-- A statistics attribute has a known kind, `connections` to `outgoing_byte_rate`. -/
def Known (f : NlaBuffer) : Prop :=
  1 ≤ f.kind ∧ f.kind ≤ 10

instance (f : NlaBuffer) : Decidable (Known f) :=
  inferInstanceAs (Decidable (_ ∧ _))

/-- The kind is known, and the value holds a number. -/
def Accepted (f : NlaBuffer) : Prop :=
  Known f ∧ 8 ≤ f.value.length

/-- The kind is known, and the value is too short for a number. -/
def Aborts (f : NlaBuffer) : Prop :=
  Known f ∧ f.value.length < 8

end Stats64Attr

namespace Stats64

/-- Attributes that are accepted cover the payload. -/
def Accepted (payload : Bytes) : Prop :=
  K.format.complete payload = true ∧ ∀ f ∈ K.format.frames payload, Stats64Attr.Accepted f

/-- The decoder gets to an attribute that is too short. -/
def Aborts (payload : Bytes) : Prop :=
  Reaches Stats64Attr.Accepted Stats64Attr.Aborts (K.format.frames payload)

end Stats64

variable {K}

theorem Stats64Attr.parse_known {f : NlaBuffer} (hf : Known f) :
    ∃ attr, parse K f = read K f.value attr := by
  unfold Known at hf
  unfold parse
  split
  all_goals first | exact ⟨_, rfl⟩ | grind

theorem Stats64Attr.parse_not_known {f : NlaBuffer} (hf : ¬Known f) :
    parse K f = .err (.message "unexpected kind for stats64 attr") := by
  unfold Known at hf
  unfold parse
  split
  all_goals first | rfl | grind

section Accepts

variable (hK : K.Documented)

include hK

/-- The front of a payload is read as a number iff it is long enough. -/
theorem Stats64Attr.read_settles (payload : Bytes) (attr : UInt64 → Stats64Attr) :
    (read K payload attr).Settles (8 ≤ payload.length) (payload.length < 8) :=
  settles_of_le (fun h => ⟨_, hK.readU64_eq .little payload h⟩) (hK.readU64_short .little payload)
    attr

theorem Stats64Attr.parse_settles (f : NlaBuffer) :
    (parse K f).Settles (Accepted f) (Aborts f) := by
  by_cases hf : Known f
  · obtain ⟨attr, ha⟩ := parse_known (K := K) hf
    rw [ha]
    exact (read_settles hK f.value attr).congr (by simp [Accepted, hf]) (by simp [Aborts, hf])
  · rw [parse_not_known hf]
    exact (settles_err _).congr (by simp [Accepted, hf]) (by simp [Aborts, hf])

/-- A statistics payload is decoded iff attributes of a known kind, with a number each,
cover it. The decoder panics iff it gets to one of a known kind without a number. -/
theorem Stats64.parseNlas_settles (payload : Bytes) :
    (parseNlas K payload).Settles (Accepted K payload) (Aborts K payload) :=
  ((Tlv.Format.readAll_settles hK.nlasIterator (Stats64Attr.parse_settles hK) payload).mapErr
    _).map fun nlas => nlas.foldl update {}

end Accepts

end NetlinkIpvs

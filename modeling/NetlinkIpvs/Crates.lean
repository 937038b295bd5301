import NetlinkIpvs.ByteOrder
import NetlinkIpvs.Slice
import NetlinkIpvs.Tlv

/-!
# The crates the code depends on

`byteorder` and `netlink-packet-utils` are not part of the repository. `Crates` lists
the functions of theirs that the code calls, as parameters of the model, together with
the byte order of the host, and `Crates.Documented` states what their documentation
promises and the code relies on. The `Nla` trait is a record of the methods of one
attribute.

`netlink` is the format of netlink attributes : a header of a 16-bit length and a
16-bit kind in host byte order, frames aligned to 4 bytes, and two flag bits on top of
the kind that a reader drops.

`Crates.reference` implements the functions, and satisfies the documented behaviour
(`reference_documented`).
-/

open Rust

namespace NetlinkIpvs

/-- Bytes of a buffer. -/
abbrev Bytes := List UInt8

/-- `netlink_packet_utils::DecodeError` : a text, or a text that `anyhow` puts before the
cause. -/
inductive DecodeError where
  | message (text : String)
  | context (text : String) (cause : DecodeError)
  /-- `core::str::Utf8Error`. -/
  | utf8
deriving DecidableEq, Repr

/-- An attribute in a buffer, seen through `kind()` and `value()`. -/
abbrev NlaBuffer := Tlv.Frame UInt8 ℕ

/-- The methods of an attribute that implements `netlink_packet_utils::nla::Nla`. -/
structure Nla where
  valueLen : Panics ℕ
  kind : ℕ
  isNested : Bool := false
  emitValue : Bytes → Panics Bytes

/-! ## The netlink attribute format -/

/-- The flag of an attribute that holds attributes. -/
def NLA_F_NESTED : ℕ := 0x8000

/-- The bits of the kind that are not flags. -/
def NLA_TYPE_MASK : ℕ := 0x3fff

/-- The kind field of an attribute, with its flag. -/
def Nla.rawKind (n : Nla) : ℕ :=
  (n.kind &&& NLA_TYPE_MASK) ||| if n.isNested then NLA_F_NESTED else 0

/-- Netlink attributes : length, kind, value, padding to 4 bytes. -/
def netlink (host : ByteOrder) : Tlv.Format UInt8 ℕ ℕ where
  header := 4
  unit := 4
  limit := 65536
  zero := 0
  put n r := host.encode 2 n ++ host.encode 2 r
  length buf := host.decode (buf.take 2)
  kind buf := host.decode ((buf.drop 2).take 2) &&& NLA_TYPE_MASK
  strip r := r &&& NLA_TYPE_MASK
  header_pos := by decide
  unit_pos := by decide
  unit_dvd := dvd_rfl
  put_size n r := by simp
  length_put n r hn := by
    rw [List.take_left' (host.length_encode 2 n)]
    exact host.decode_encode (by simpa using hn)
  kind_put n r := by
    have hmod : ∀ m : ℕ, m &&& NLA_TYPE_MASK = m % 2 ^ 14 := fun m =>
      Nat.and_two_pow_sub_one_eq_mod m 14
    rw [List.drop_left' (host.length_encode 2 n),
      List.take_of_length_le (host.length_encode 2 r).le, ByteOrder.decode_encode_mod, hmod, hmod]
    exact Nat.mod_mod_of_dvd r (by decide)
  length_append h rest hh := by rw [List.take_append_of_le_length (by omega)]
  kind_append h rest hh := by
    rw [List.drop_append_of_le_length (by omega),
      List.take_append_of_le_length (by rw [List.length_drop]; omega)]

/-! ## The functions -/

/-- The functions of `byteorder` and `netlink-packet-utils` that the code calls, on a
host of the given byte order. -/
structure Crates where
  host : ByteOrder
  /-- `ByteOrder::read_u16`. -/
  readU16 : ByteOrder → Bytes → Panics UInt16
  /-- `ByteOrder::read_u32`. -/
  readU32 : ByteOrder → Bytes → Panics UInt32
  /-- `ByteOrder::read_u64`. -/
  readU64 : ByteOrder → Bytes → Panics UInt64
  /-- `ByteOrder::write_u16`. -/
  writeU16 : ByteOrder → Bytes → UInt16 → Panics Bytes
  /-- `ByteOrder::write_u32`. -/
  writeU32 : ByteOrder → Bytes → UInt32 → Panics Bytes
  /-- `parsers::parse_u16`. -/
  parseU16 : Bytes → Except DecodeError UInt16
  /-- `parsers::parse_u32`. -/
  parseU32 : Bytes → Except DecodeError UInt32
  /-- `NlaBuffer::new`, with its `kind()` and `value()`. -/
  nlaBuffer : Bytes → Panics NlaBuffer
  /-- The items of `NlasIterator::new`. -/
  nlasIterator : Bytes → List (Except DecodeError NlaBuffer)
  /-- `Emitable::buffer_len` of an attribute. -/
  nlaBufferLen : Nla → Panics ℕ
  /-- `Emitable::emit` of an attribute. -/
  nlaEmit : Nla → Bytes → Panics Bytes
  /-- `Emitable::buffer_len` of a slice of attributes. -/
  nlasBufferLen : List Nla → Panics ℕ
  /-- `Emitable::emit` of a slice of attributes. -/
  nlasEmit : List Nla → Bytes → Panics Bytes

namespace Crates

/-- The attribute format on the host. -/
abbrev format (K : Crates) : Tlv.Format UInt8 ℕ ℕ := netlink K.host

/-- What the crates document and the code relies on. -/
structure Documented (K : Crates) : Prop where
  readU16_eq : ∀ e buf, 2 ≤ buf.length →
    K.readU16 e buf = .ok (UInt16.ofNat (e.decode (buf.take 2)))
  readU16_short : ∀ e buf, buf.length < 2 → ∃ p, K.readU16 e buf = .error p
  readU32_eq : ∀ e buf, 4 ≤ buf.length →
    K.readU32 e buf = .ok (UInt32.ofNat (e.decode (buf.take 4)))
  readU32_short : ∀ e buf, buf.length < 4 → ∃ p, K.readU32 e buf = .error p
  readU64_eq : ∀ e buf, 8 ≤ buf.length →
    K.readU64 e buf = .ok (UInt64.ofNat (e.decode (buf.take 8)))
  readU64_short : ∀ e buf, buf.length < 8 → ∃ p, K.readU64 e buf = .error p
  writeU16_eq : ∀ e buf v, 2 ≤ buf.length →
    K.writeU16 e buf v = .ok (e.encode 2 v.toNat ++ buf.drop 2)
  writeU32_eq : ∀ e buf v, 4 ≤ buf.length →
    K.writeU32 e buf v = .ok (e.encode 4 v.toNat ++ buf.drop 4)
  parseU16_eq : ∀ buf, buf.length = 2 →
    K.parseU16 buf = .ok (UInt16.ofNat (K.host.decode buf))
  parseU16_other : ∀ buf, buf.length ≠ 2 → ∃ e, K.parseU16 buf = .error e
  parseU32_eq : ∀ buf, buf.length = 4 →
    K.parseU32 buf = .ok (UInt32.ofNat (K.host.decode buf))
  parseU32_other : ∀ buf, buf.length ≠ 4 → ∃ e, K.parseU32 buf = .error e
  /-- A buffer with an attribute at its front. -/
  nlaBuffer_eq : ∀ buf, K.format.WellFormed buf → K.nlaBuffer buf = .ok (K.format.front buf)
  /-- One item for each attribute, and an error and nothing more at a malformed one. -/
  nlasIterator : K.format.Iterates K.nlasIterator
  nlaBufferLen_eq : ∀ n, K.nlaBufferLen n = do
    let len ← n.valueLen
    return K.format.header + K.format.align len
  /-- The header, the value the attribute emits on its part of the buffer, and padding,
  if the length fits the header. -/
  nlaEmit_eq : ∀ n len buf, n.valueLen = .ok len → K.format.header + len < K.format.limit →
    buf.length = K.format.header + K.format.align len →
    K.nlaEmit n buf = do
      let v ← n.emitValue ((buf.drop K.format.header).take len)
      return K.format.put (K.format.header + len) n.rawKind ++
        (v ++ List.replicate (K.format.gap len) K.format.zero)
  /-- The part of the buffer is cut by the length in the header, so an attribute too long
  for the header is handed too short a part. -/
  nlaEmit_long : ∀ n len buf out, n.valueLen = .ok len →
    K.format.limit ≤ K.format.header + len → K.nlaEmit n buf = .ok out →
    ∃ part v, part.length < len ∧ n.emitValue part = .ok v
  nlasBufferLen_nil : K.nlasBufferLen [] = .ok 0
  nlasBufferLen_cons : ∀ n ns, K.nlasBufferLen (n :: ns) = do
    let len ← K.nlaBufferLen n
    let rest ← K.nlasBufferLen ns
    return len + rest
  nlasEmit_nil : ∀ buf, K.nlasEmit [] buf = .ok buf
  /-- Each attribute is emitted on the next part of the buffer. -/
  nlasEmit_cons : ∀ n ns len buf, K.nlaBufferLen n = .ok len → len ≤ buf.length →
    K.nlasEmit (n :: ns) buf = do
      let head ← K.nlaEmit n (buf.take len)
      let tail ← K.nlasEmit ns (buf.drop len)
      return head ++ tail

end Crates

end NetlinkIpvs

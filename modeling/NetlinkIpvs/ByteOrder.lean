import Mathlib.Data.Nat.Digits.Lemmas
import Mathlib.Tactic.Ring

/-!
# Byte orders

A number below `256 ^ w` is written on `w` bytes, the least significant byte first
(`little`) or last (`big`). `decode_encode` reads back what was written in the same
order. What was written in one order and read in the other is the number with its
bytes reversed (`swapBytes`), so a round trip that mixes the orders is the identity on
the numbers `swapBytes` fixes, and on no other.
-/

/-- The order of the bytes of an integer. -/
inductive ByteOrder where
  | little
  | big
deriving DecidableEq, Repr

namespace ByteOrder

/-! ## Numbers and bytes -/

/-- The number with these bytes, the least significant first. -/
def ofLE (bs : List UInt8) : ℕ :=
  Nat.ofDigits 256 (bs.map UInt8.toNat)

/-- The `w` low bytes of a number, the least significant first. -/
def toLE : ℕ → ℕ → List UInt8
  | 0, _ => []
  | w + 1, v => UInt8.ofNat v :: toLE w (v / 256)

/-- The `w` low bytes of a number. -/
def encode : ByteOrder → ℕ → ℕ → List UInt8
  | little, w, v => toLE w v
  | big, w, v => (toLE w v).reverse

/-- The number with these bytes. -/
def decode : ByteOrder → List UInt8 → ℕ
  | little, bs => ofLE bs
  | big, bs => ofLE bs.reverse

@[simp] theorem length_toLE : ∀ w v : ℕ, (toLE w v).length = w
  | 0, _ => rfl
  | w + 1, v => by rw [toLE, List.length_cons, length_toLE w]

@[simp] theorem length_encode (e : ByteOrder) (w v : ℕ) : (e.encode w v).length = w := by
  cases e <;> simp [encode]

@[simp] theorem take_encode_append (e : ByteOrder) (w v : ℕ) (rest : List UInt8) :
    (e.encode w v ++ rest).take w = e.encode w v :=
  List.take_left' (length_encode e w v)

@[simp] theorem drop_encode_append (e : ByteOrder) (w v : ℕ) (rest : List UInt8) :
    (e.encode w v ++ rest).drop w = rest :=
  List.drop_left' (length_encode e w v)

theorem ofLE_cons (b : UInt8) (bs : List UInt8) : ofLE (b :: bs) = b.toNat + 256 * ofLE bs := by
  simp [ofLE, Nat.ofDigits_cons]

/-- The number read from the bytes written, least significant first. -/
theorem ofLE_toLE : ∀ w v : ℕ, ofLE (toLE w v) = v % 256 ^ w
  | 0, v => by rw [pow_zero, Nat.mod_one]; rfl
  | w + 1, v => by
    rw [pow_succ', Nat.mod_mul, toLE, ofLE_cons, ofLE_toLE w, UInt8.toNat_ofNat']

/-- The bytes written for the number read from them. -/
theorem toLE_ofLE : ∀ bs : List UInt8, toLE bs.length (ofLE bs) = bs
  | [] => rfl
  | b :: bs => by
    have hb := b.toNat_lt
    have hq : ofLE (b :: bs) / 256 = ofLE bs := by rw [ofLE_cons]; omega
    have hr : UInt8.ofNat (ofLE (b :: bs)) = b := by
      apply UInt8.toNat_inj.1
      rw [UInt8.toNat_ofNat', ofLE_cons]
      omega
    rw [List.length_cons, toLE, hq, hr, toLE_ofLE bs]

theorem ofLE_lt (bs : List UInt8) : ofLE bs < 256 ^ bs.length := by
  have h := Nat.ofDigits_lt_base_pow_length (b := 256) (l := bs.map UInt8.toNat) (by norm_num)
  simpa [ofLE] using h fun x hx => by
    obtain ⟨b, -, rfl⟩ := List.mem_map.1 hx
    exact b.toNat_lt

/-- Reading in the order of writing gives the low bytes of the number back. -/
theorem decode_encode_mod (e : ByteOrder) (w v : ℕ) : e.decode (e.encode w v) = v % 256 ^ w := by
  cases e <;> simp [encode, decode, ofLE_toLE w v]

/-- Reading in the order of writing gives the number back. -/
theorem decode_encode (e : ByteOrder) {w v : ℕ} (hv : v < 256 ^ w) :
    e.decode (e.encode w v) = v := by
  rw [decode_encode_mod, Nat.mod_eq_of_lt hv]

/-- Writing in the order of reading gives the bytes back. -/
theorem encode_decode (e : ByteOrder) (bs : List UInt8) :
    e.encode bs.length (e.decode bs) = bs := by
  cases e with
  | little => exact toLE_ofLE bs
  | big =>
    have h := toLE_ofLE bs.reverse
    rw [List.length_reverse] at h
    rw [encode, decode, h, List.reverse_reverse]

/-- Different bytes are different numbers. -/
theorem decode_inj (e : ByteOrder) {bs cs : List UInt8} (h : bs.length = cs.length) :
    e.decode bs = e.decode cs ↔ bs = cs := by
  refine ⟨fun hd => ?_, congrArg e.decode⟩
  rw [← encode_decode e bs, hd, h, encode_decode]

theorem decode_lt (e : ByteOrder) (bs : List UInt8) : e.decode bs < 256 ^ bs.length := by
  cases e with
  | little => exact ofLE_lt bs
  | big => simpa [decode] using ofLE_lt bs.reverse

/-! ## Swapping -/

/-- The `w`-byte number with its bytes reversed. -/
def swapBytes (w v : ℕ) : ℕ :=
  big.decode (little.encode w v)

/-- Swapping the number read in one order gives the number read in the other. -/
theorem swapBytes_decode_little (bs : List UInt8) :
    swapBytes bs.length (little.decode bs) = big.decode bs := by
  rw [swapBytes, encode_decode]

/-- Swapping twice gives the number back. -/
theorem swapBytes_swapBytes {w v : ℕ} (hv : v < 256 ^ w) : swapBytes w (swapBytes w v) = v := by
  have hlen : (little.encode w v).reverse.length = w := by simp
  have hswap : swapBytes w v = little.decode (little.encode w v).reverse := rfl
  have henc : little.encode w (swapBytes w v) = (little.encode w v).reverse := by
    rw [hswap]
    nth_rewrite 1 [← hlen]
    rw [encode_decode]
  rw [swapBytes, henc, decode, List.reverse_reverse]
  exact decode_encode little hv

theorem swapBytes_lt (w v : ℕ) : swapBytes w v < 256 ^ w := by
  have := decode_lt big (little.encode w v)
  rwa [length_encode] at this

/-! ## Machine integers -/

theorem ofNat_decode_encode16 (e : ByteOrder) (v : UInt16) :
    UInt16.ofNat (e.decode (e.encode 2 v.toNat)) = v := by
  rw [decode_encode e (by simpa using v.toNat_lt), UInt16.ofNat_toNat]

theorem ofNat_decode_encode32 (e : ByteOrder) (v : UInt32) :
    UInt32.ofNat (e.decode (e.encode 4 v.toNat)) = v := by
  rw [decode_encode e (by simpa using v.toNat_lt), UInt32.ofNat_toNat]

theorem ofNat_decode_inj16 (e : ByteOrder) {bs cs : List UInt8} (hb : bs.length = 2)
    (hc : cs.length = 2) :
    UInt16.ofNat (e.decode bs) = UInt16.ofNat (e.decode cs) ↔ bs = cs := by
  have hlt : ∀ ds : List UInt8, ds.length = 2 →
      (UInt16.ofNat (e.decode ds)).toNat = e.decode ds := by
    intro ds hd
    have := decode_lt e ds
    rw [hd] at this
    exact UInt16.toNat_ofNat_of_lt' (by simpa using this)
  rw [← UInt16.toNat_inj, hlt bs hb, hlt cs hc, decode_inj e (hb.trans hc.symm)]

end ByteOrder

/-! ## `swap_bytes` and `from_be` -/

/-- `u16::swap_bytes`. -/
def UInt16.swapBytes (v : UInt16) : UInt16 :=
  UInt16.ofNat (ByteOrder.swapBytes 2 v.toNat)

/-- `u32::swap_bytes`. -/
def UInt32.swapBytes (v : UInt32) : UInt32 :=
  UInt32.ofNat (ByteOrder.swapBytes 4 v.toNat)

@[simp] theorem UInt16.swapBytes_swapBytes (v : UInt16) : v.swapBytes.swapBytes = v := by
  have hlt := ByteOrder.swapBytes_lt 2 v.toNat
  rw [swapBytes, swapBytes, UInt16.toNat_ofNat_of_lt' (by simpa using hlt),
    ByteOrder.swapBytes_swapBytes (by simpa using v.toNat_lt), UInt16.ofNat_toNat]

@[simp] theorem UInt32.swapBytes_swapBytes (v : UInt32) : v.swapBytes.swapBytes = v := by
  have hlt := ByteOrder.swapBytes_lt 4 v.toNat
  rw [swapBytes, swapBytes, UInt32.toNat_ofNat_of_lt' (by simpa using hlt),
    ByteOrder.swapBytes_swapBytes (by simpa using v.toNat_lt), UInt32.ofNat_toNat]

/-- `u16::from_be` on a host of the given byte order : a swap, unless the host is
big-endian. -/
def UInt16.fromBe : ByteOrder → UInt16 → UInt16
  | .little, v => v.swapBytes
  | .big, v => v

/-- On a little-endian host, `from_be` of a little-endian read is a big-endian read. -/
theorem UInt16.fromBe_little_decode {bs : List UInt8} (h : bs.length = 2) :
    UInt16.fromBe .little (UInt16.ofNat (ByteOrder.little.decode bs)) =
      UInt16.ofNat (ByteOrder.big.decode bs) := by
  have hlt := ByteOrder.decode_lt .little bs
  rw [h] at hlt
  rw [fromBe, swapBytes, UInt16.toNat_ofNat_of_lt' (by simpa using hlt), ← h,
    ByteOrder.swapBytes_decode_little]

/-- A number is its own byte reversal iff it is written alike in both orders. -/
theorem UInt16.swapBytes_eq_self_iff {v : UInt16} : v.swapBytes = v ↔
    ByteOrder.big.encode 2 v.toNat = ByteOrder.little.encode 2 v.toNat := by
  have hswap : v.swapBytes.toNat = ByteOrder.big.decode (ByteOrder.little.encode 2 v.toNat) := by
    have hlt := ByteOrder.decode_lt .big (ByteOrder.little.encode 2 v.toNat)
    rw [ByteOrder.length_encode] at hlt
    rw [swapBytes, ByteOrder.swapBytes, UInt16.toNat_ofNat_of_lt' (by simpa using hlt)]
  constructor
  · intro h
    have henc := ByteOrder.encode_decode .big (ByteOrder.little.encode 2 v.toNat)
    rwa [← hswap, ByteOrder.length_encode, h] at henc
  · intro h
    rw [swapBytes, ByteOrder.swapBytes, ← h, ByteOrder.ofNat_decode_encode16]

import Mathlib.Data.List.GetD
import Mathlib.Data.Nat.Find

/-!
# Bits of byte strings

`bit bs i` is bit `i` of a byte string, counted from the most significant bit of its
first byte, and false past the end. Byte strings of one length with the same bits are
equal (`eq_of_bits`).

`Contiguous bs` : every one stands before every zero. The ones of such a string are the
bits below some number (`contiguous_iff`).
-/

namespace Bits

/-- Bit `i`, from the most significant bit of the first byte. -/
def bit (bs : List UInt8) (i : ℕ) : Bool :=
  (bs.getD (i / 8) 0).toNat.testBit (7 - i % 8)

/-- Every one stands before every zero. -/
def Contiguous (bs : List UInt8) : Prop :=
  ∀ i j, i < j → bit bs j = true → bit bs i = true

theorem bit_cons_of_lt (b : UInt8) (bs : List UInt8) {i : ℕ} (h : i < 8) :
    bit (b :: bs) i = b.toNat.testBit (7 - i) := by
  rw [bit, Nat.div_eq_of_lt h, Nat.mod_eq_of_lt h, List.getD_cons_zero]

theorem bit_cons_add (b : UInt8) (bs : List UInt8) (i : ℕ) :
    bit (b :: bs) (i + 8) = bit bs i := by
  rw [bit, Nat.add_div_right i (by decide), Nat.add_mod_right, List.getD_cons_succ, bit]

theorem bit_of_length_le {bs : List UInt8} {i : ℕ} (h : 8 * bs.length ≤ i) :
    bit bs i = false := by
  rw [bit, List.getD_eq_default _ _ (by omega)]
  exact Nat.zero_testBit _

theorem bit_append {bs : List UInt8} {i : ℕ} (h : i < 8 * bs.length) (cs : List UInt8) :
    bit (bs ++ cs) i = bit bs i := by
  rw [bit, List.getD_append _ _ _ _ (by omega), bit]

/-- A byte is determined by its eight bits. -/
theorem byte_eq_of_testBit {b c : UInt8}
    (h : ∀ i < 8, b.toNat.testBit (7 - i) = c.toNat.testBit (7 - i)) : b = c := by
  refine UInt8.toNat_inj.1 (Nat.eq_of_testBit_eq fun k => ?_)
  rcases Nat.lt_or_ge k 8 with hk | hk
  · have := h (7 - k) (by omega)
    rwa [show 7 - (7 - k) = k by omega] at this
  · have hlt : ∀ d : UInt8, d.toNat < 2 ^ k := fun d =>
      Nat.lt_of_lt_of_le d.toNat_lt (Nat.pow_le_pow_right (by decide) hk)
    rw [Nat.testBit_lt_two_pow (hlt b), Nat.testBit_lt_two_pow (hlt c)]

/-- A byte string is determined by its length and its bits. -/
theorem eq_of_bits : ∀ {bs cs : List UInt8}, bs.length = cs.length →
    (∀ i < 8 * bs.length, bit bs i = bit cs i) → bs = cs
  | [], [], _, _ => rfl
  | b :: bs, c :: cs, hlen, h => by
    have hhead : b = c := byte_eq_of_testBit fun i hi => by
      have := h i (by rw [List.length_cons]; omega)
      rwa [bit_cons_of_lt b bs hi, bit_cons_of_lt c cs hi] at this
    have htail : bs = cs := eq_of_bits (Nat.succ.inj hlen) fun i hi => by
      have := h (i + 8) (by rw [List.length_cons]; omega)
      rwa [bit_cons_add, bit_cons_add] at this
    rw [hhead, htail]

/-- The ones of a contiguous byte string are the bits below some number. -/
theorem contiguous_iff {bs : List UInt8} : Contiguous bs ↔
    ∃ n ≤ 8 * bs.length, ∀ i, bit bs i = true ↔ i < n := by
  constructor
  · intro h
    -- the number is the first bit that is zero
    have hzero : ∃ i, bit bs i = false := ⟨_, bit_of_length_le (Nat.le_refl _)⟩
    refine ⟨Nat.find hzero, Nat.find_min' hzero (bit_of_length_le (Nat.le_refl _)), fun i => ?_⟩
    constructor
    · intro hi
      by_contra hge
      have hfirst : bit bs (Nat.find hzero) = true := by
        rcases Nat.eq_or_lt_of_le (Nat.not_lt.1 hge) with heq | hlt
        · rwa [heq]
        · exact h _ i hlt hi
      rw [Nat.find_spec hzero] at hfirst
      cases hfirst
    · intro hi
      exact eq_true_of_ne_false (Nat.find_min hzero hi)
  · rintro ⟨n, -, hn⟩ i j hij hj
    exact (hn i).2 (Nat.lt_trans hij ((hn j).1 hj))

end Bits

import NetlinkIpvs.Bits
import NetlinkIpvs.Payload
import NetlinkIpvs.Reference

/-!
# Masks on the wire

A mask of `n` ones has the bits below `n` (`Netmask.bit_octets`), so a contiguous byte
string is the mask of as many ones as it has (`Netmask.contiguous_iff_octets`).

The parser counts the ones of a payload and forgets where they stand, so what it has read
is written back iff the payload is contiguous (`written_back_iff`). `genNetmask` writes the
bits of a mask over the front of any buffer that is long enough, and nothing else
(`genNetmask_exact`).
-/

open Rust Bits

/-- A byte has eight bits. -/
theorem UInt8.countOnes_le (b : UInt8) : b.countOnes ≤ 8 :=
  BitVec.toNat_cpop_le b.toBitVec

namespace NetlinkIpvs

namespace Netmask

/-! ## The bits of a mask -/

/-- The bits of a byte with `k` leading ones. -/
theorem testBit_prefixByte (k : ℕ) {i : ℕ} (hi : i < 8) :
    (prefixByte k).toNat.testBit (7 - i) = decide (i < k) := by
  rcases Nat.lt_or_ge k 8 with hk | hk
  · interval_cases k <;> interval_cases i <;> rfl
  · rw [prefixByte_of_le hk, decide_eq_true (hi.trans_le hk)]
    interval_cases i <;> rfl

/-- The bits of a mask of `n` ones are those below `n`. -/
theorem bit_octets : ∀ (len n : ℕ) {i : ℕ}, i < 8 * len → bit (octets len n) i = decide (i < n)
  | 0, _, _, h => absurd h (by omega)
  | len + 1, n, i, h => by
    rw [octets]
    rcases Nat.lt_or_ge i 8 with hi | hi
    · rw [bit_cons_of_lt _ _ hi, testBit_prefixByte n hi]
    · obtain ⟨j, rfl⟩ : ∃ j, i = j + 8 := ⟨i - 8, by omega⟩
      rw [bit_cons_add, bit_octets len (n - 8) (by omega), decide_eq_decide]
      omega

theorem contiguous_octets {len n : ℕ} (h : n ≤ 8 * len) : Contiguous (octets len n) := by
  refine contiguous_iff.2 ⟨n, by rwa [length_octets], fun i => ?_⟩
  rcases Nat.lt_or_ge i (8 * len) with hi | hi
  · rw [bit_octets len n hi, decide_eq_true_iff]
  · rw [bit_of_length_le (by rwa [length_octets])]
    simp only [Bool.false_eq_true, false_iff]
    omega

theorem sum_countOnes_le : ∀ bs : Bytes, (bs.map UInt8.countOnes).sum ≤ 8 * bs.length
  | [] => Nat.le_refl 0
  | b :: bs => by
    have hb := b.countOnes_le
    have ih := sum_countOnes_le bs
    rw [List.map_cons, List.sum_cons, List.length_cons]
    omega

/-- A byte string is contiguous iff it is the mask of as many ones as it has. -/
theorem contiguous_iff_octets {bs : Bytes} :
    Contiguous bs ↔ bs = octets bs.length (bs.map UInt8.countOnes).sum := by
  constructor
  · intro h
    obtain ⟨n, hn, hbit⟩ := contiguous_iff.1 h
    have hmask : bs = octets bs.length n := by
      refine eq_of_bits (length_octets _ _).symm fun i hi => ?_
      rw [bit_octets _ _ hi, Bool.eq_iff_iff, hbit i, decide_eq_true_iff]
    have hones : (bs.map UInt8.countOnes).sum = n := by
      conv_lhs => rw [hmask]
      exact sum_countOnes_octets _ _ hn
    rwa [hones]
  · intro h
    rw [h]
    exact contiguous_octets (sum_countOnes_le bs)

end Netmask

/-! ## Reading a mask -/

namespace SvcCtrlAttrs

variable (K : Crates)

/-- The parser counts the ones of a payload. -/
theorem parse_netmask {payload : Bytes} (h : (payload.map UInt8.countOnes).sum ≤ 128) :
    parse K ⟨IPVS_SVC_ATTR_NETMASK, payload⟩ =
      .ok (.netmask (.withoutAf (UInt8.ofNat (payload.map UInt8.countOnes).sum))) :=
  if_pos h

/-- A payload as long as an address is read as a number of ones that fits the address. -/
theorem parse_netmask_size {f : AddressFamily} {payload : Bytes} (h : payload.length = f.size) :
    ∃ nm : Netmask, nm.addressFamily = some f ∧
      nm.ones.toNat = (payload.map UInt8.countOnes).sum ∧
      parse K ⟨IPVS_SVC_ATTR_NETMASK, payload⟩ = .ok (.netmask (.withoutAf nm.ones)) := by
  have hle := Netmask.sum_countOnes_le payload
  rw [h, ← f.toNat_bits] at hle
  have h128 : f.bits.toNat ≤ 128 := by cases f <;> decide
  have hones : (UInt8.ofNat (payload.map UInt8.countOnes).sum).toNat =
      (payload.map UInt8.countOnes).sum := UInt8.toNat_ofNat_of_lt' (by
        show _ < 256
        omega)
  have hfits : UInt8.ofNat (payload.map UInt8.countOnes).sum ≤ f.bits :=
    UInt8.le_iff_toNat_le.2 (by rwa [hones])
  obtain ⟨nm, hnm⟩ := Netmask.exists_new_iff.2 hfits
  obtain ⟨hn, hfam⟩ := Netmask.new_eq_ok.1 hnm
  exact ⟨nm, hfam, by rw [hn, hones], by rw [hn, parse_netmask K (hle.trans h128)]⟩

/-- The netmask that is read from the payload, sent for the family, is the payload. -/
def WrittenBack (f : AddressFamily) (payload : Bytes) : Prop :=
  ∀ nm, parse K ⟨IPVS_SVC_ATTR_NETMASK, payload⟩ = .ok (.netmask nm) →
    ∃ nm', Netmask.new nm.ones f = .ok nm' ∧ (nla K (.netmask nm')).Writes payload

/-- The payload is rejected unless it is contiguous. -/
def Screened (payload : Bytes) : Prop :=
  (∃ a, parse K ⟨IPVS_SVC_ATTR_NETMASK, payload⟩ = .ok a) → Contiguous payload

end SvcCtrlAttrs

/-- A payload as long as an address is written back iff it is contiguous. It is accepted in
any case, so it is not screened unless it is. -/
theorem written_back_iff (K : Crates) {f : AddressFamily} {payload : Bytes}
    (h : payload.length = f.size) :
    (SvcCtrlAttrs.WrittenBack K f payload ↔ Contiguous payload) ∧
      (SvcCtrlAttrs.Screened K payload ↔ Contiguous payload) := by
  obtain ⟨nm, hfam, hones, hparse⟩ := SvcCtrlAttrs.parse_netmask_size K h
  have hnm : Netmask.new nm.ones f = .ok nm := Netmask.new_ones hfam
  have hwrites : (SvcCtrlAttrs.nla K (.netmask nm)).Writes
      (Netmask.octets payload.length (payload.map UInt8.countOnes).sum) := by
    rw [h, ← hones]
    exact SvcCtrlAttrs.writes_netmask K hfam
  refine ⟨⟨fun hback => ?_, fun hc nm' hnm' => ?_⟩, fun hs => hs ⟨_, hparse⟩, fun hc _ => hc⟩
  · -- what is written back is the mask of as many ones
    obtain ⟨nm', hnm', hw⟩ := hback _ hparse
    obtain rfl : nm = nm' := Except.ok.inj (hnm.symm.trans hnm')
    exact Netmask.contiguous_iff_octets.2 (hw.unique hwrites)
  · rw [hparse] at hnm'
    obtain rfl : Netmask.withoutAf nm.ones = nm' := SvcCtrlAttrs.netmask.inj (Outcome.ok.inj hnm')
    refine ⟨nm, hnm, ?_⟩
    rw [Netmask.contiguous_iff_octets.1 hc]
    exact hwrites

/-- The mask of 17 ones is written back. -/
theorem written_back_seventeen :
    SvcCtrlAttrs.WrittenBack (Crates.reference .little) .IPv4 [0xff, 0xff, 0x80, 0] :=
  (written_back_iff (Crates.reference .little) rfl).1.2
    (Netmask.contiguous_iff_octets.2 (by decide))

/-- A mask with a hole is read as the mask of 16 ones. -/
theorem not_written_back_hole :
    SvcCtrlAttrs.parse (Crates.reference .little) ⟨IPVS_SVC_ATTR_NETMASK, [0xff, 0, 0xff, 0]⟩ =
      .ok (.netmask (.withoutAf 16)) ∧
    ¬SvcCtrlAttrs.WrittenBack (Crates.reference .little) .IPv4 [0xff, 0, 0xff, 0] ∧
    ¬SvcCtrlAttrs.Screened (Crates.reference .little) [0xff, 0, 0xff, 0] := by
  refine ⟨by decide, fun h => ?_, fun h => ?_⟩
  · obtain ⟨nm, hnm, hw⟩ := h (.withoutAf 16) rfl
    obtain rfl := Except.ok.inj hnm
    have := hw.emitValue [0, 0, 0, 0] rfl
    revert this
    decide
  · have := h ⟨_, rfl⟩ 8 16 (by decide)
    revert this
    decide

/-! ## Writing a mask -/

/-- `gen_netmask` writes the bits below the number of ones over the front of any buffer that
is long enough, and nothing else, and the parser reads the number back. -/
theorem genNetmask_exact (K : Crates) {n : UInt8} {f : AddressFamily} {nm : Netmask}
    (hn : Netmask.new n f = .ok nm) {buf : Bytes} (hbuf : f.size ≤ buf.length) :
    ∃ out, nm.genNetmask buf = .ok out ∧ out.length = buf.length ∧
      (∀ i < 8 * f.size, bit out i = true ↔ i < n.toNat) ∧
      (∀ i, f.size ≤ i → out[i]? = buf[i]?) ∧
      ((out.take f.size).map UInt8.countOnes).sum = n.toNat ∧
      SvcCtrlAttrs.parse K ⟨IPVS_SVC_ATTR_NETMASK, out.take f.size⟩ =
        .ok (.netmask (.withoutAf n)) := by
  obtain ⟨rfl, hf⟩ := Netmask.new_eq_ok.1 hn
  have hle := Netmask.ones_le hf
  have hlen : (Netmask.octets f.size nm.ones.toNat).length = f.size := Netmask.length_octets _ _
  have hsum := Netmask.sum_countOnes_octets f.size nm.ones.toNat hle
  have htake : (Netmask.octets f.size nm.ones.toNat ++ buf.drop f.size).take f.size =
      Netmask.octets f.size nm.ones.toNat := List.take_left' hlen
  refine ⟨_, Netmask.genNetmask_eq hf hbuf, ?_, fun i hi => ?_, fun i hi => ?_, ?_, ?_⟩
  · rw [List.length_append, hlen, List.length_drop]
    omega
  · rw [bit_append (by rwa [hlen]), Netmask.bit_octets _ _ hi, decide_eq_true_iff]
  · rw [List.getElem?_append_right (by rwa [hlen]), hlen, List.getElem?_drop,
      Nat.add_sub_cancel' hi]
  · rw [htake, hsum]
  · rw [htake, SvcCtrlAttrs.parse_netmask, hsum, UInt8.ofNat_toNat]
    have h128 : 8 * f.size ≤ 128 := by cases f <;> decide
    rw [hsum]
    exact hle.trans h128

/-- The mask of 17 ones, over the front of a buffer of six bytes. -/
theorem genNetmask_exact_seventeen : ∃ nm, Netmask.new 17 .IPv4 = .ok nm ∧
    ∃ out, nm.genNetmask (List.replicate 6 0xaa) = .ok out ∧ bit out 16 = true ∧
      bit out 17 = false ∧ out[5]? = some 0xaa := by
  refine ⟨_, rfl, ?_⟩
  have hlen : AddressFamily.IPv4.size ≤ (List.replicate 6 0xaa : Bytes).length := by decide
  obtain ⟨out, hout, -, hbit, hrest, -⟩ := genNetmask_exact (Crates.reference .little)
    (n := 17) (f := .IPv4) rfl hlen
  exact ⟨out, hout, (hbit 16 (by decide)).2 (by decide),
    Bool.eq_false_iff.2 fun h => absurd ((hbit 17 (by decide)).1 h) (by decide),
    hrest 5 (by decide)⟩

end NetlinkIpvs

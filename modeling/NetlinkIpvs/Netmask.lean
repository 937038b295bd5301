import Mathlib.Tactic.IntervalCases
import NetlinkIpvs.Nlas

/-!
# Netmasks

`Netmask` (`src/ctrl/nlas/service.rs`) is a number of leading ones, with the address
family if it is known. Its fields are private to the module and every constructor
checks the number against the family, so the structure carries the bound.

`Netmask.octets` is the mask as bytes : whole bytes of ones, a byte that is partly ones,
and zeros. `genNetmask` writes it over the front of any buffer that is long enough, and
leaves the rest alone (`genNetmask_eq`). Counting its ones gives the number back
(`sum_countOnes_octets`).
-/

open Rust

/-- `u8::count_ones`. -/
def UInt8.countOnes (b : UInt8) : ℕ :=
  b.toBitVec.cpop.toNat

namespace NetlinkIpvs

structure Netmask where
  ones : UInt8
  addressFamily : Option AddressFamily
  fits : ∀ f ∈ addressFamily, ones ≤ f.bits
deriving DecidableEq

namespace Netmask

@[ext] theorem ext' {a b : Netmask} (h1 : a.ones = b.ones)
    (h2 : a.addressFamily = b.addressFamily) : a = b := by
  cases a
  cases b
  cases h1
  cases h2
  rfl

/-- `Netmask::without_af`. -/
def withoutAf (ones : UInt8) : Netmask :=
  ⟨ones, none, by simp⟩

/-- `Netmask::new`. -/
def new (ones : UInt8) (addressFamily : AddressFamily) : Panics Netmask :=
  if h : ones > addressFamily.bits then
    .error (.explicit "'ones' cannot be more than length of IP address in bits")
  else .ok ⟨ones, some addressFamily, by simpa using h⟩

/-- `addr_len` in `Netmask::gen_netmask`. -/
def addrLen (self : Netmask) : Panics ℕ :=
  match self.addressFamily with
  | some .IPv4 => .ok 4
  | some .IPv6 => .ok 16
  | none => .error (.explicit "Trying to generate a netmask without address family")

/-- `Netmask::gen_netmask`. -/
def genNetmask (self : Netmask) (buf : Bytes) : Panics Bytes := do
  let addrLen ← self.addrLen
  let fullBytes := self.ones.toNat / 8
  let remainingBits := self.ones % 8
  let buf ← Slice.fill buf 0 fullBytes 0xff
  let buf ← if remainingBits > 0 then Slice.assign buf fullBytes (0xff <<< (8 - remainingBits))
    else pure buf
  if addrLen > fullBytes then
    let buf ← if remainingBits = 0 then Slice.assign buf fullBytes 0 else pure buf
    Slice.fill buf (fullBytes + 1) addrLen 0
  else pure buf

/-- `Netmask::new` returns iff the ones fit the family. -/
theorem new_eq_ok {n : UInt8} {f : AddressFamily} {nm : Netmask} :
    new n f = .ok nm ↔ nm.ones = n ∧ nm.addressFamily = some f := by
  unfold new
  split_ifs with h
  · simp only [false_iff, not_and]
    rintro rfl hf
    exact absurd (nm.fits f hf) (by simpa using h)
  · constructor
    · rintro h
      cases h
      exact ⟨rfl, rfl⟩
    · rintro ⟨rfl, hf⟩
      exact congrArg Except.ok (Netmask.ext' rfl hf.symm)

/-- A netmask with a family is what `Netmask::new` makes of its ones. -/
theorem new_ones {nm : Netmask} {f : AddressFamily} (h : nm.addressFamily = some f) :
    new nm.ones f = .ok nm :=
  new_eq_ok.2 ⟨rfl, h⟩

theorem exists_new_iff {n : UInt8} {f : AddressFamily} :
    (∃ nm, new n f = .ok nm) ↔ n ≤ f.bits := by
  unfold new
  split_ifs with h
  · simpa using h
  · simpa using h

/-! ## The mask as bytes -/

/-- A byte with `k` leading ones, all ones from `k = 8` on. -/
def prefixByte (k : ℕ) : UInt8 :=
  UInt8.ofNat (256 - 2 ^ (8 - k))

/-- The mask of `n` ones on `len` bytes. -/
def octets : ℕ → ℕ → Bytes
  | 0, _ => []
  | len + 1, n => prefixByte n :: octets len (n - 8)

@[simp] theorem length_octets : ∀ len n : ℕ, (octets len n).length = len
  | 0, _ => rfl
  | len + 1, n => by rw [octets, List.length_cons, length_octets len]

theorem prefixByte_of_le {k : ℕ} (h : 8 ≤ k) : prefixByte k = 0xff := by
  rw [prefixByte, Nat.sub_eq_zero_of_le h]
  rfl

theorem octets_zero : ∀ len : ℕ, octets len 0 = List.replicate len 0
  | 0 => rfl
  | len + 1 => by
    rw [octets, Nat.zero_sub, octets_zero len]
    rfl

/-- Whole bytes of ones, then the byte that is partly ones, then zeros. -/
theorem octets_eq : ∀ len n : ℕ, n ≤ 8 * len → octets len n = List.replicate (n / 8) 0xff ++
    if n / 8 < len then prefixByte (n % 8) :: List.replicate (len - n / 8 - 1) 0 else []
  | 0, n, h => by
    obtain rfl : n = 0 := by omega
    rfl
  | len + 1, n, h => by
    rcases Nat.lt_or_ge n 8 with hn | hn
    · rw [octets, Nat.div_eq_of_lt hn, Nat.mod_eq_of_lt hn, if_pos (by omega),
        Nat.sub_eq_zero_of_le hn.le, octets_zero]
      rfl
    · have hq : n / 8 = (n - 8) / 8 + 1 := by omega
      have hr : n % 8 = (n - 8) % 8 := by omega
      rw [octets, prefixByte_of_le hn, octets_eq len (n - 8) (by omega), hq, hr,
        List.replicate_succ, List.cons_append]
      congr 2
      split_ifs with h1 h2 h2
      · rw [show len + 1 - ((n - 8) / 8 + 1) - 1 = len - (n - 8) / 8 - 1 by omega]
      · omega
      · omega
      · rfl

/-- Counting the ones of a mask gives their number. -/
theorem sum_countOnes_octets : ∀ len n : ℕ, n ≤ 8 * len →
    ((octets len n).map UInt8.countOnes).sum = n
  | 0, n, h => by
    obtain rfl : n = 0 := by omega
    rfl
  | len + 1, n, h => by
    rw [octets, List.map_cons, List.sum_cons, sum_countOnes_octets len (n - 8) (by omega)]
    rcases Nat.lt_or_ge n 8 with hn | hn
    · have : (prefixByte n).countOnes = n := by
        interval_cases n <;> decide
      omega
    · rw [prefixByte_of_le hn, show (0xff : UInt8).countOnes = 8 by decide]
      omega

/-- The shift in `gen_netmask` makes the byte that is partly ones. -/
theorem shift_eq (n : UInt8) (h : n % 8 > 0) : 0xff <<< (8 - n % 8) = prefixByte (n.toNat % 8) := by
  have hlt := Nat.mod_lt n.toNat (show 0 < 8 by decide)
  have hr : n % 8 = UInt8.ofNat (n.toNat % 8) := by
    apply UInt8.toNat_inj.1
    rw [UInt8.toNat_mod, UInt8.toNat_ofNat', Nat.mod_eq_of_lt (a := n.toNat % 8) (by omega)]
    rfl
  rw [hr] at h ⊢
  generalize n.toNat % 8 = k at *
  interval_cases k
  · exact absurd h (by decide)
  all_goals decide

theorem addrLen_eq {nm : Netmask} {f : AddressFamily} (h : nm.addressFamily = some f) :
    nm.addrLen = .ok f.size := by
  unfold addrLen
  rw [h]
  cases f <;> rfl

/-- The ones of a netmask with a family fit its bytes. -/
theorem ones_le {nm : Netmask} {f : AddressFamily} (h : nm.addressFamily = some f) :
    nm.ones.toNat ≤ 8 * f.size := by
  rw [← f.toNat_bits]
  exact UInt8.le_iff_toNat_le.1 (nm.fits f h)

/-- `gen_netmask` writes the mask over the front of the buffer and leaves the rest. -/
theorem genNetmask_eq {nm : Netmask} {f : AddressFamily} (h : nm.addressFamily = some f)
    {buf : Bytes} (hbuf : f.size ≤ buf.length) :
    nm.genNetmask buf = .ok (octets f.size nm.ones.toNat ++ buf.drop f.size) := by
  have hones := ones_le h
  rw [octets_eq _ _ hones]
  unfold genNetmask
  rw [addrLen_eq h, ok_bind_panics]
  dsimp only
  have hmod : nm.ones.toNat % 8 = (nm.ones % 8).toNat := by rw [UInt8.toNat_mod]; rfl
  have hzero : nm.ones % 8 = 0 ↔ nm.ones.toNat % 8 = 0 := by
    rw [hmod, ← UInt8.toNat_inj]
    rfl
  generalize hm : nm.ones.toNat / 8 = m
  obtain ⟨a, rest, rfl, ha⟩ : ∃ a rest, buf = a ++ rest ∧ a.length = m :=
    ⟨buf.take m, buf.drop m, (List.take_append_drop m buf).symm, by simp; omega⟩
  have hfill : Slice.fill (a ++ rest) 0 m 0xff = .ok (List.replicate m 0xff ++ rest) := by
    have := Slice.fill_append [] a rest (0xff : UInt8)
    simpa [ha] using this
  rw [hfill, ok_bind_panics]
  rcases Nat.lt_or_ge m f.size with hlt | hge
  · -- a byte that is partly ones, or the first cleared byte, and the cleared bytes after it
    obtain ⟨b, c, post, rfl, hc⟩ : ∃ b c post, rest = b :: (c ++ post) ∧
        c.length = f.size - m - 1 := by
      cases rest with
      | nil => simp at hbuf; omega
      | cons b rest =>
        refine ⟨b, rest.take (f.size - m - 1), rest.drop (f.size - m - 1), ?_, ?_⟩
        · rw [List.take_append_drop]
        · simp at hbuf ⊢
          omega
    have hassign : ∀ x : UInt8, Slice.assign (List.replicate m 0xff ++ b :: (c ++ post)) m x =
        .ok (List.replicate m 0xff ++ x :: (c ++ post)) := by
      intro x
      simpa using Slice.assign_append (List.replicate m (0xff : UInt8)) (c ++ post) b x
    have hclear : ∀ x : UInt8,
        Slice.fill (List.replicate m 0xff ++ x :: (c ++ post)) (m + 1) f.size 0 =
          .ok (List.replicate m 0xff ++ x :: (List.replicate (f.size - m - 1) 0 ++ post)) := by
      intro x
      have := Slice.fill_append (List.replicate m (0xff : UInt8) ++ [x]) c post 0
      rw [List.length_append, List.length_replicate, List.length_singleton, hc,
        show m + 1 + (f.size - m - 1) = f.size by omega] at this
      simpa using this
    have hdrop : (a ++ b :: (c ++ post)).drop f.size = post := by
      rw [show a ++ b :: (c ++ post) = (a ++ b :: c) ++ post by simp]
      exact List.drop_left' (by simp; omega)
    rw [hdrop, if_pos hlt, List.append_assoc, List.cons_append]
    by_cases hr : nm.ones % 8 = 0
    · rw [if_neg (by simp [hr]), pure_panics, ok_bind_panics, if_pos hlt, if_pos hr, hassign,
        ok_bind_panics, hclear, hzero.1 hr]
      rfl
    · have hpos : nm.ones % 8 > 0 := by
        rw [gt_iff_lt, UInt8.lt_iff_toNat_lt, ← hmod]
        exact Nat.pos_of_ne_zero fun h0 => hr (hzero.2 h0)
      rw [if_pos hpos, hassign, ok_bind_panics, if_pos hlt, if_neg hr, pure_panics,
        ok_bind_panics, hclear, shift_eq _ hpos]
  · have hr : nm.ones % 8 = 0 := hzero.2 (by omega)
    have hdrop : (a ++ rest).drop f.size = rest := List.drop_left' (by omega)
    rw [hdrop, if_neg (by simp [hr]), pure_panics, ok_bind_panics, if_neg (Nat.not_lt.2 hge),
      if_neg (Nat.not_lt.2 hge), List.append_nil, pure_panics]

end Netmask

end NetlinkIpvs

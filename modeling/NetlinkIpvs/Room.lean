import NetlinkIpvs.Packets
import NetlinkIpvs.Sending

/-!
# Room for what is written

An attribute announces its length in 16 bits. What is too long is not cut. A slice of
attributes is emitted only on a buffer with room for all of them (`Packets.le_of_nlasEmit`),
so that a group on a part that was cut is not emitted, and each group of a message that is
emitted fits (`IpvsServiceCtrl.fits_of_emit`).
-/

open Rust Rust.Outcome

namespace NetlinkIpvs

/-! ## Attributes -/

/-- The attribute is emitted on no part shorter than it announces. -/
def Nla.NeedsRoom (n : Nla) : Prop :=
  ∀ len part v, n.valueLen = .ok len → n.emitValue part = .ok v → len ≤ part.length

/-- An attribute that needs its room is not emitted if its length does not fit. -/
theorem Crates.fits_of_nlaEmit {K : Crates} (hK : K.Documented) {n : Nla} (hn : n.NeedsRoom)
    {buf out : Bytes} (hout : K.nlaEmit n buf = .ok out) : n.Fits := by
  intro len hlen
  by_contra hlong
  obtain ⟨part, v, hpart, hv⟩ := hK.nlaEmit_long n len buf out hlen (Nat.not_lt.1 hlong) hout
  exact Nat.not_le.2 hpart (hn len part v hlen hv)

variable {P : Packets} (hP : P.Documented)

include hP

namespace Packets

/-- A slice of attributes is emitted on a buffer with room for all of them. -/
theorem le_of_nlasEmit : ∀ {ns : List Nla} {total : ℕ} {buf out : Bytes},
    P.nlasBufferLen ns = .ok total → P.nlasEmit ns buf = .ok out → total ≤ buf.length
  | [], total, buf, out, hlen, _ => by
    rw [hP.nlasBufferLen_nil] at hlen
    obtain rfl := Except.ok.inj hlen
    exact Nat.zero_le _
  | n :: ns, total, buf, out, hlen, hout => by
    obtain ⟨l, rest, hl, hrest, rfl⟩ := (Crates.nlasBufferLen_cons_eq_ok hP.toDocumented).1 hlen
    have hle := hP.nlasEmit_short n ns l buf out hl hout
    rw [hP.nlasEmit_cons n ns l buf hl hle] at hout
    obtain ⟨head, -, hout⟩ := bind_panics_eq_ok.1 hout
    obtain ⟨tail, htail, -⟩ := bind_panics_eq_ok.1 hout
    have ih := le_of_nlasEmit hrest htail
    rw [List.length_drop] at ih
    omega

/-- Each attribute of a slice that is emitted fits, if it needs its room. -/
theorem fits_of_nlasEmit : ∀ {ns : List Nla} {total : ℕ} {buf out : Bytes},
    (∀ n ∈ ns, n.NeedsRoom) → P.nlasBufferLen ns = .ok total → P.nlasEmit ns buf = .ok out →
      ∀ n ∈ ns, n.Fits
  | n :: ns, total, buf, out, hn, hlen, hout, k, hk => by
    obtain ⟨l, rest, hl, hrest, rfl⟩ := (Crates.nlasBufferLen_cons_eq_ok hP.toDocumented).1 hlen
    have hle := hP.nlasEmit_short n ns l buf out hl hout
    rw [hP.nlasEmit_cons n ns l buf hl hle] at hout
    obtain ⟨head, hhead, hout⟩ := bind_panics_eq_ok.1 hout
    obtain ⟨tail, htail, -⟩ := bind_panics_eq_ok.1 hout
    rcases List.mem_cons.1 hk with rfl | hk
    · exact Crates.fits_of_nlaEmit hP.toDocumented (hn k List.mem_cons_self) hhead
    · exact fits_of_nlasEmit (fun j hj => hn j (List.mem_cons_of_mem n hj)) hrest htail k hk

end Packets

/-! ## Groups and messages -/

theorem IpvsCtrlAttrs.needsRoom (g : IpvsCtrlAttrs) : (nla P.toCrates g).NeedsRoom :=
  fun _ _ _ hlen hv => Packets.le_of_nlasEmit hP hlen hv

namespace IpvsServiceCtrl

variable {m : IpvsServiceCtrl} {len : ℕ} {buf out : Bytes}

/-- A message is emitted on a buffer with room for it. -/
theorem le_of_emit (hlen : m.bufferLen P.toCrates = .ok len)
    (hout : m.emit P.toCrates buf = .ok out) : len ≤ buf.length :=
  Packets.le_of_nlasEmit hP hlen hout

/-- The groups of a message that is emitted fit. -/
theorem fits_of_emit (hlen : m.bufferLen P.toCrates = .ok len)
    (hout : m.emit P.toCrates buf = .ok out) :
    ∀ g ∈ m.nlas, (IpvsCtrlAttrs.nla P.toCrates g).Fits := by
  have hneeds : ∀ n ∈ m.nlas.map (IpvsCtrlAttrs.nla P.toCrates), n.NeedsRoom := by
    intro n hn
    obtain ⟨g, -, rfl⟩ := List.mem_map.1 hn
    exact g.needsRoom hP
  exact fun g hg => Packets.fits_of_nlasEmit hP hneeds hlen hout _ (List.mem_map_of_mem hg)

/-- What a message is emitted as, on a buffer of its length, is its encoding. -/
theorem wire_of_emit (hlen : m.bufferLen P.toCrates = .ok buf.length)
    (hout : m.emit P.toCrates buf = .ok out) :
    (∀ g ∈ m.nlas, g.Sendable ∧ (IpvsCtrlAttrs.nla P.toCrates g).Fits) ∧ out = m.wire P.host := by
  have hfit := fits_of_emit hP hlen hout
  have hm := m.sendable_of_emit hP.toDocumented hfit hlen rfl hout
  have hwire := Except.ok.inj (hlen.symm.trans (m.bufferLen_eq hP.toDocumented hm hfit))
  exact ⟨fun g hg => ⟨hm g hg, hfit g hg⟩,
    Except.ok.inj (hout.symm.trans (m.emit_eq hP.toDocumented hm hfit hwire))⟩

end IpvsServiceCtrl

end NetlinkIpvs

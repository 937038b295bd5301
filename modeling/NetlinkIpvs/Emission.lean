import NetlinkIpvs.Crates

/-!
# Emitting attributes

`Nla.Writes n v` : the attribute `n` announces the length of `v`, and writes `v` over any
part of a buffer of that length. Such attributes are emitted as frames, one after the
other, whatever was in the buffer (`nlasEmit_writes`), and a reader gets each value back
(`readAll_writes`, `resend_writes`).

`Nla.Completes n` : the attribute has written a part of the length it announces. If the
emission of a slice of attributes completes, each of them completes
(`completes_of_nlasEmit`).
-/

open Rust Rust.Outcome
open Tlv.Format (readAll)

namespace NetlinkIpvs

/-! ## Kinds without flags -/

theorem and_mask {k : ℕ} (h : k < 2 ^ 14) : k &&& NLA_TYPE_MASK = k := by
  rw [show NLA_TYPE_MASK = 2 ^ 14 - 1 from rfl, Nat.and_two_pow_sub_one_eq_mod,
    Nat.mod_eq_of_lt h]

theorem or_nested_and_mask {k : ℕ} (h : k < 2 ^ 14) :
    (k ||| NLA_F_NESTED) &&& NLA_TYPE_MASK = k := by
  rw [Nat.and_or_distrib_right, and_mask h, show NLA_F_NESTED &&& NLA_TYPE_MASK = 0 by decide,
    Nat.or_zero]

namespace Nla

/-- The kind field of an attribute is its kind, with the flag if it is nested. -/
theorem rawKind_eq {n : Nla} (h : n.kind < 2 ^ 14) :
    n.rawKind = n.kind ||| if n.isNested then NLA_F_NESTED else 0 := by
  rw [rawKind, and_mask h]

/-! ## Attributes that write a value -/

/-- The attribute announces the length of `v`, and writes `v` over any part of that
length. -/
structure Writes (n : Nla) (v : Bytes) : Prop where
  valueLen : n.valueLen = .ok v.length
  emitValue : ∀ part : Bytes, part.length = v.length → n.emitValue part = .ok v

/-- An attribute writes one value at most. -/
theorem Writes.unique {n : Nla} {v w : Bytes} (hv : n.Writes v) (hw : n.Writes w) : v = w := by
  have hlen : v.length = w.length := Except.ok.inj (hv.valueLen.symm.trans hw.valueLen)
  exact Except.ok.inj ((hv.emitValue v rfl).symm.trans (hw.emitValue v hlen))

/-- Two attributes write the same value. -/
def Alike (n m : Nla) : Prop :=
  ∃ v, n.Writes v ∧ m.Writes v

theorem Writes.alike_iff {n m : Nla} {v w : Bytes} (hn : n.Writes v) (hm : m.Writes w) :
    n.Alike m ↔ v = w := by
  constructor
  · rintro ⟨u, hnu, hmu⟩
    exact (hn.unique hnu).trans (hmu.unique hm)
  · rintro rfl
    exact ⟨v, hn, hm⟩

/-- The attribute writes some part of the length it announces. -/
def Completes (n : Nla) : Prop :=
  ∃ len part v, n.valueLen = .ok len ∧ part.length = len ∧ n.emitValue part = .ok v

/-- The length of the attribute fits the 16 bits of the length field. -/
def Fits (n : Nla) : Prop :=
  ∀ len, n.valueLen = .ok len → 4 + len < 2 ^ 16

theorem Writes.completes {n : Nla} {v : Bytes} (h : n.Writes v) : n.Completes :=
  ⟨_, v, v, h.valueLen, rfl, h.emitValue v rfl⟩

theorem Writes.fits {n : Nla} {v : Bytes} (h : n.Writes v) (hv : 4 + v.length < 2 ^ 16) :
    n.Fits := by
  intro len hlen
  rw [h.valueLen] at hlen
  cases hlen
  exact hv

theorem Writes.lt_limit {n : Nla} {v : Bytes} (h : n.Writes v) (hf : n.Fits) :
    4 + v.length < 2 ^ 16 :=
  hf _ h.valueLen

end Nla

namespace Crates

variable (K : Crates)

/-- What a reader makes of an attribute emitted alone on a buffer. -/
def resend {α : Type} (n : Nla) (parse : NlaBuffer → Outcome DecodeError α) (buf : Bytes) :
    Outcome DecodeError α := do
  let bytes ← K.nlaEmit n buf
  let nla ← K.nlaBuffer bytes
  parse nla

/-- What a reader makes of an attribute emitted alone on a zeroed buffer of its length. -/
def alone {α : Type} (n : Nla) (parse : NlaBuffer → Outcome DecodeError α) :
    Outcome DecodeError α := do
  let len ← K.nlaBufferLen n
  K.resend n parse (List.replicate len 0)

/-- The emission of an attribute alone completes on some buffer of its length. -/
def Emits (n : Nla) : Prop :=
  ∃ buf out : Bytes, K.nlaBufferLen n = .ok buf.length ∧ K.nlaEmit n buf = .ok out

variable {K}

section Emission

variable (hK : K.Documented)

include hK

/-! ## One attribute -/

theorem nlaBufferLen_eq_ok {n : Nla} {total : ℕ} :
    K.nlaBufferLen n = .ok total ↔
      ∃ len, n.valueLen = .ok len ∧ total = 4 + K.format.align len := by
  rw [hK.nlaBufferLen_eq, bind_panics_eq_ok]
  refine exists_congr fun len => and_congr_right fun _ => ?_
  rw [pure_panics, Except.ok.injEq, eq_comm]
  rfl

theorem nlaBufferLen_writes {n : Nla} {v : Bytes} (h : n.Writes v) :
    K.nlaBufferLen n = .ok (K.format.frame n.rawKind v).length :=
  (nlaBufferLen_eq_ok hK).2 ⟨_, h.valueLen, Tlv.Format.length_frame _ _⟩

/-- An attribute is emitted as a frame, whatever was in the buffer. -/
theorem nlaEmit_writes {n : Nla} {v buf : Bytes} (h : n.Writes v) (hf : n.Fits)
    (hbuf : buf.length = (K.format.frame n.rawKind v).length) :
    K.nlaEmit n buf = .ok (K.format.frame n.rawKind v) := by
  rw [Tlv.Format.length_frame] at hbuf
  have hpart : ((buf.drop K.format.header).take v.length).length = v.length := by
    have := K.format.le_align v.length
    rw [List.length_take, List.length_drop]
    omega
  rw [hK.nlaEmit_eq n _ buf h.valueLen (h.lt_limit hf) hbuf, h.emitValue _ hpart]
  rfl

/-- A reader gets the kind and the value of an attribute emitted alone. -/
theorem resend_writes {α : Type} {n : Nla} {v buf : Bytes} (h : n.Writes v) (hf : n.Fits)
    (hbuf : K.nlaBufferLen n = .ok buf.length) (parse : NlaBuffer → Outcome DecodeError α) :
    K.resend n parse buf = parse ⟨K.format.strip n.rawKind, v⟩ := by
  have hv : K.format.header + v.length < K.format.limit := h.lt_limit hf
  rw [nlaBufferLen_writes hK h] at hbuf
  rw [resend, nlaEmit_writes hK h hf (Except.ok.inj hbuf).symm, lift_ok, ok_bind,
    hK.nlaBuffer_eq _ (Tlv.Format.wellFormed_frame _ hv), Tlv.Format.front_frame _ hv, lift_ok,
    ok_bind]

theorem alone_writes {α : Type} {n : Nla} {v : Bytes} (h : n.Writes v) (hf : n.Fits)
    (parse : NlaBuffer → Outcome DecodeError α) :
    K.alone n parse = parse ⟨K.format.strip n.rawKind, v⟩ := by
  have hlen := nlaBufferLen_writes hK h
  rw [alone, hlen, lift_ok, ok_bind]
  exact resend_writes hK h hf (by rw [List.length_replicate, hlen]) parse

/-- An attribute emitted on a buffer of its length completes, if it fits. -/
theorem completes_of_nlaEmit {n : Nla} {total : ℕ} {buf out : Bytes} (hf : n.Fits)
    (hlen : K.nlaBufferLen n = .ok total) (hbuf : buf.length = total)
    (hout : K.nlaEmit n buf = .ok out) : n.Completes := by
  obtain ⟨len, hn, rfl⟩ := (nlaBufferLen_eq_ok hK).1 hlen
  rw [hK.nlaEmit_eq n len buf hn (hf len hn) hbuf] at hout
  obtain ⟨v, hv, -⟩ := bind_panics_eq_ok.1 hout
  refine ⟨len, _, v, hn, ?_, hv⟩
  have hh : K.format.header = 4 := rfl
  have := K.format.le_align len
  rw [List.length_take, List.length_drop]
  omega

/-! ## A slice of attributes -/

theorem nlasBufferLen_cons_eq_ok {n : Nla} {ns : List Nla} {total : ℕ} :
    K.nlasBufferLen (n :: ns) = .ok total ↔
      ∃ len rest, K.nlaBufferLen n = .ok len ∧ K.nlasBufferLen ns = .ok rest ∧
        total = len + rest := by
  rw [hK.nlasBufferLen_cons, bind_panics_eq_ok]
  refine exists_congr fun len => ?_
  rw [bind_panics_eq_ok, ← exists_and_left]
  refine exists_congr fun rest => and_congr_right fun _ => and_congr_right fun _ => ?_
  rw [pure_panics, Except.ok.injEq, eq_comm]

section Writes

variable {ι : Type} {nla : ι → Nla} {value : ι → Bytes}

theorem nlasBufferLen_writes : ∀ {l : List ι}, (∀ a ∈ l, (nla a).Writes (value a)) →
    K.nlasBufferLen (l.map nla) =
      .ok (K.format.encode (l.map fun a => ((nla a).rawKind, value a))).length
  | [], _ => hK.nlasBufferLen_nil
  | a :: l, h => by
    have ih := nlasBufferLen_writes fun b hb => h b (List.mem_cons_of_mem a hb)
    rw [List.map_cons, List.map_cons, Tlv.Format.encode_cons, List.length_append]
    exact (nlasBufferLen_cons_eq_ok hK).2
      ⟨_, _, nlaBufferLen_writes hK (h a List.mem_cons_self), ih, rfl⟩

/-- A slice of attributes is emitted as frames, one after the other, whatever was in the
buffer. -/
theorem nlasEmit_writes : ∀ {l : List ι}, (∀ a ∈ l, (nla a).Writes (value a)) →
    (∀ a ∈ l, (nla a).Fits) → ∀ {buf : Bytes},
      buf.length = (K.format.encode (l.map fun a => ((nla a).rawKind, value a))).length →
      K.nlasEmit (l.map nla) buf =
        .ok (K.format.encode (l.map fun a => ((nla a).rawKind, value a)))
  | [], _, _, buf, hbuf => by
    obtain rfl : buf = [] := List.length_eq_zero_iff.1 hbuf
    exact hK.nlasEmit_nil []
  | a :: l, h, hf, buf, hbuf => by
    have ih := @nlasEmit_writes l (fun b hb => h b (List.mem_cons_of_mem a hb))
      (fun b hb => hf b (List.mem_cons_of_mem a hb))
    have ha := h a List.mem_cons_self
    rw [List.map_cons, Tlv.Format.encode_cons, List.length_append] at hbuf
    dsimp only at hbuf
    rw [List.map_cons, List.map_cons, Tlv.Format.encode_cons,
      hK.nlasEmit_cons _ _ _ buf (nlaBufferLen_writes hK ha) (by omega),
      nlaEmit_writes hK ha (hf a List.mem_cons_self) (by rw [List.length_take]; omega),
      ok_bind_panics, ih (by rw [List.length_drop]; omega)]
    rfl

/-- A reader gets the kinds and the values of a slice of attributes, in order. -/
theorem readAll_writes {β : Type} {read : NlaBuffer → Outcome DecodeError β} {f : ι → β}
    {l : List ι} (h : ∀ a ∈ l, (nla a).Writes (value a)) (hf : ∀ a ∈ l, (nla a).Fits)
    (hread : ∀ a ∈ l, read ⟨K.format.strip (nla a).rawKind, value a⟩ = .ok (f a)) :
    readAll read (K.nlasIterator (K.format.encode (l.map fun a => ((nla a).rawKind, value a)))) =
      .ok (l.map f) := by
  have hlim : ∀ x ∈ l.map fun a => ((nla a).rawKind, value a),
      K.format.header + x.2.length < K.format.limit := by
    intro x hx
    obtain ⟨a, ha, rfl⟩ := List.mem_map.1 hx
    exact (h a ha).lt_limit (hf a ha)
  obtain ⟨hc, hfs⟩ := (Tlv.Format.covers_encode _ hlim).walk
  rw [Tlv.Format.readAll_eq_ok hK.nlasIterator, hfs, List.map_map, List.forall₂_map_left_iff,
    List.forall₂_map_right_iff, List.forall₂_same]
  exact ⟨hc, hread⟩

/-- A reader gets the attributes of a slice one after the other. -/
theorem readAll_writes_eq {β : Type} (read : NlaBuffer → Outcome DecodeError β) {l : List ι}
    (h : ∀ a ∈ l, (nla a).Writes (value a)) (hf : ∀ a ∈ l, (nla a).Fits) :
    readAll read (K.nlasIterator (K.format.encode (l.map fun a => ((nla a).rawKind, value a)))) =
      collect (fun a => read ⟨K.format.strip (nla a).rawKind, value a⟩) l := by
  have hlim : ∀ x ∈ l.map fun a => ((nla a).rawKind, value a),
      K.format.header + x.2.length < K.format.limit := by
    intro x hx
    obtain ⟨a, ha, rfl⟩ := List.mem_map.1 hx
    exact (h a ha).lt_limit (hf a ha)
  rw [Tlv.Format.readAll_encode hK.nlasIterator hlim, collect_map]

end Writes

/-- Each attribute of a slice is shorter than the slice. -/
theorem le_nlasBufferLen : ∀ {ns : List Nla} {total : ℕ}, K.nlasBufferLen ns = .ok total →
    ∀ n ∈ ns, ∀ len, n.valueLen = .ok len → 4 + len ≤ total
  | n :: ns, total, h, m, hm, len, hlen => by
    obtain ⟨l, rest, hl, hrest, rfl⟩ := (nlasBufferLen_cons_eq_ok hK).1 h
    rcases List.mem_cons.1 hm with rfl | hm
    · obtain ⟨len', hlen', rfl⟩ := (nlaBufferLen_eq_ok hK).1 hl
      rw [hlen] at hlen'
      cases hlen'
      have := K.format.le_align len
      omega
    · have := le_nlasBufferLen hrest m hm len hlen
      omega

/-- A bound on the length of a slice from a bound on its attributes. -/
theorem nlasBufferLen_le {b : ℕ} : ∀ {ns : List Nla} {total : ℕ},
    (∀ n ∈ ns, ∀ len, n.valueLen = .ok len → len ≤ b) → K.nlasBufferLen ns = .ok total →
      total ≤ ns.length * (4 + K.format.align b)
  | [], total, _, h => by
    rw [hK.nlasBufferLen_nil] at h
    cases h
    exact Nat.zero_le _
  | n :: ns, total, hb, h => by
    obtain ⟨l, rest, hl, hrest, rfl⟩ := (nlasBufferLen_cons_eq_ok hK).1 h
    obtain ⟨len, hlen, rfl⟩ := (nlaBufferLen_eq_ok hK).1 hl
    have hle := K.format.align_mono (hb n List.mem_cons_self len hlen)
    have ih := nlasBufferLen_le (fun m hm => hb m (List.mem_cons_of_mem n hm)) hrest
    rw [List.length_cons, Nat.succ_mul]
    omega

/-- The attributes of a slice fit if the slice, as a value, does. -/
theorem fits_of_nlasBufferLen {ns : List Nla}
    (h : ∀ total, K.nlasBufferLen ns = .ok total → 4 + total < 2 ^ 16)
    {total : ℕ} (htotal : K.nlasBufferLen ns = .ok total) : ∀ n ∈ ns, n.Fits := by
  intro n hn len hlen
  have := le_nlasBufferLen hK htotal n hn len hlen
  have := h total htotal
  omega

/-- If a slice of attributes is emitted on a buffer of its length, each completes. -/
theorem completes_of_nlasEmit : ∀ {ns : List Nla} {total : ℕ} {buf out : Bytes},
    (∀ n ∈ ns, n.Fits) → K.nlasBufferLen ns = .ok total → buf.length = total →
    K.nlasEmit ns buf = .ok out → ∀ n ∈ ns, n.Completes
  | n :: ns, total, buf, out, hf, hlen, hbuf, hout, m, hm => by
    obtain ⟨l, rest, hl, hrest, rfl⟩ := (nlasBufferLen_cons_eq_ok hK).1 hlen
    rw [hK.nlasEmit_cons n ns l buf hl (by omega)] at hout
    obtain ⟨head, hhead, hout⟩ := bind_panics_eq_ok.1 hout
    obtain ⟨tail, htail, -⟩ := bind_panics_eq_ok.1 hout
    rcases List.mem_cons.1 hm with rfl | hm
    · exact completes_of_nlaEmit hK (hf m List.mem_cons_self) hl
        (by rw [List.length_take]; omega) hhead
    · exact completes_of_nlasEmit (fun k hk => hf k (List.mem_cons_of_mem n hk)) hrest
        (by rw [List.length_drop]; omega) htail m hm

end Emission

end Crates

end NetlinkIpvs

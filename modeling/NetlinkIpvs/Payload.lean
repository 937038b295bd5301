import NetlinkIpvs.Ctrl
import NetlinkIpvs.Emission

/-!
# What goes on the wire

`payload` is the value of an attribute as a function of the attribute alone, and
`IpvsServiceCtrl.wire` the encoding of a message : the frames of its groups, each of which
holds the frames of its attributes.

An attribute that is `Sendable` writes its payload over any part of the buffer
(`SvcCtrlAttrs.writes`, `DestinationCtrlAttrs.writes`), and no other attribute completes
(`SvcCtrlAttrs.completes_iff`, `DestinationCtrlAttrs.completes_iff`). A group writes the
frames of its attributes (`IpvsCtrlAttrs.writes`).
-/

open Rust Rust.Outcome

namespace NetlinkIpvs

/-! ## Writes that fill the buffer -/

section Exact

variable {K : Crates} (hK : K.Documented)

include hK

theorem Crates.writeU16_exact (e : ByteOrder) (v : UInt16) {buf : Bytes} (h : buf.length = 2) :
    K.writeU16 e buf v = .ok (e.encode 2 v.toNat) := by
  rw [hK.writeU16_eq e buf v h.ge, List.drop_of_length_le h.le, List.append_nil]

theorem Crates.writeU32_exact (e : ByteOrder) (v : UInt32) {buf : Bytes} (h : buf.length = 4) :
    K.writeU32 e buf v = .ok (e.encode 4 v.toNat) := by
  rw [hK.writeU32_eq e buf v h.ge, List.drop_of_length_le h.le, List.append_nil]

end Exact

/-! ## Service attributes -/

namespace SvcCtrlAttrs

/-- The value of an attribute on the wire. -/
def payload : SvcCtrlAttrs → Bytes
  | .addressFamily af => ByteOrder.little.encode 2 af.toU16.toNat
  | .protocol p => ByteOrder.little.encode 2 p.toU16.toNat
  | .addrBytes b => b.bytes
  | .port p => ByteOrder.big.encode 2 p.toNat
  | .flags f => ByteOrder.little.encode 4 f.val.toNat ++ List.replicate 4 0xff
  | .fwmark f => ByteOrder.little.encode 4 f.toNat
  | .scheduler s => strBytes s.asString ++ [0]
  | .timeout t => ByteOrder.little.encode 4 t.toNat
  | .netmask nm =>
    match nm.addressFamily with
    | some f => Netmask.octets f.size nm.ones.toNat
    | none => []
  | .stats | .stats64 _ => []

/-- The attributes that can be sent. -/
def Sendable : SvcCtrlAttrs → Prop
  | .netmask nm => nm.addressFamily.isSome
  | .stats | .stats64 _ => False
  | _ => True

variable {K : Crates}

theorem kind_lt (a : SvcCtrlAttrs) : a.kind < 2 ^ 14 := by
  unfold kind
  split <;> decide

@[simp] theorem rawKind_nla (a : SvcCtrlAttrs) : (nla K a).rawKind = a.kind :=
  (Nla.rawKind_eq a.kind_lt).trans (Nat.or_zero _)

@[simp] theorem strip_kind (a : SvcCtrlAttrs) : K.format.strip a.kind = a.kind :=
  and_mask a.kind_lt

theorem valueLen_netmask {nm : Netmask} {f : AddressFamily} (h : nm.addressFamily = some f) :
    valueLen (.netmask nm) = .ok f.size := by
  rw [valueLen, h]
  cases f <;> rfl

theorem payload_netmask {nm : Netmask} {f : AddressFamily} (h : nm.addressFamily = some f) :
    payload (.netmask nm) = Netmask.octets f.size nm.ones.toNat := by
  rw [payload, h]

/-- Only what can be sent has a length. -/
theorem sendable_of_valueLen {a : SvcCtrlAttrs} {len : ℕ} (h : a.valueLen = .ok len) :
    a.Sendable := by
  cases a with
  | netmask nm =>
    refine Option.isSome_iff_ne_none.2 fun hf => ?_
    rw [valueLen, hf] at h
    cases h
  | stats => cases h
  | stats64 st => cases h
  | _ => trivial

/-- The length of an attribute that can be sent is the length of its payload. -/
theorem valueLen_eq {a : SvcCtrlAttrs} (h : a.Sendable) : a.valueLen = .ok a.payload.length := by
  cases a with
  | netmask nm =>
    obtain ⟨f, hf⟩ := Option.isSome_iff_exists.1 h
    rw [valueLen_netmask hf, payload_netmask hf, Netmask.length_octets]
  | stats => exact h.elim
  | stats64 st => exact h.elim
  | _ => simp [valueLen, payload]

/-- Every attribute but an address is short. -/
theorem valueLen_le {a : SvcCtrlAttrs} {len : ℕ}
    (h : ∀ b, a = .addrBytes b → b.bytes.length ≤ 16) (hlen : a.valueLen = .ok len) :
    len ≤ 16 := by
  cases a with
  | addrBytes b =>
    obtain rfl := Except.ok.inj hlen
    exact h b rfl
  | scheduler s =>
    obtain rfl := Except.ok.inj hlen
    cases s <;> decide
  | netmask nm =>
    obtain ⟨f, hf⟩ := Option.isSome_iff_exists.1 (sendable_of_valueLen hlen)
    rw [valueLen_netmask hf] at hlen
    obtain rfl := Except.ok.inj hlen
    cases f <;> decide
  | stats => cases hlen
  | stats64 st => cases hlen
  | _ => cases hlen; decide

variable (hK : K.Documented)

include hK

theorem emitValue_flags (f : Flags) {buf : Bytes} (h : buf.length = 8) :
    emitValue K (.flags f) buf =
      .ok (ByteOrder.little.encode 4 f.val.toNat ++ List.replicate 4 0xff) := by
  match buf, h with
  | [b0, b1, b2, b3, b4, b5, b6, b7], _ =>
    rw [emitValue, hK.writeU32_eq _ _ _ (by simp), ok_bind_panics]
    rfl

omit hK in
theorem emitValue_scheduler (s : Scheduler) {buf : Bytes}
    (h : buf.length = (strBytes s.asString).length + 1) :
    emitValue K (.scheduler s) buf = .ok (strBytes s.asString ++ [0]) := by
  obtain ⟨name, b, rfl, hname⟩ : ∃ name b, buf = name ++ [b] ∧
      name.length = (strBytes s.asString).length := by
    refine ⟨buf.dropLast, buf.getLast (by rintro rfl; simp at h), ?_, ?_⟩
    · rw [List.dropLast_append_getLast]
    · rw [List.length_dropLast, h, Nat.add_sub_cancel]
  have hcopy : Slice.onRange (name ++ [b]) 0 (strBytes s.asString).length
      (Slice.copyFromSlice (strBytes s.asString)) = .ok (strBytes s.asString ++ [b]) := by
    have := Slice.onRange_append [] name [b] (Slice.copyFromSlice (strBytes s.asString))
    rw [Slice.copyFromSlice, if_pos hname] at this
    simpa [hname] using this
  rw [emitValue, hcopy, ok_bind_panics, if_pos (by simp), Slice.assign_append]

omit hK in
/-- A netmask with a family writes its mask. -/
theorem writes_netmask (K : Crates) {nm : Netmask} {f : AddressFamily}
    (h : nm.addressFamily = some f) :
    (nla K (.netmask nm)).Writes (Netmask.octets f.size nm.ones.toNat) where
  valueLen := by
    rw [Netmask.length_octets]
    exact valueLen_netmask h
  emitValue part hpart := by
    have hlen : part.length = f.size := hpart.trans (Netmask.length_octets _ _)
    have hmask := Netmask.genNetmask_eq h hlen.ge
    rw [List.drop_of_length_le hlen.le, List.append_nil] at hmask
    exact hmask

/-- An attribute that can be sent writes its payload over any part of the buffer. -/
theorem writes {a : SvcCtrlAttrs} (h : a.Sendable) : (nla K a).Writes a.payload where
  valueLen := valueLen_eq h
  emitValue part hpart := by
    cases a with
    | addressFamily af => exact Crates.writeU16_exact hK _ _ (by simpa [payload] using hpart)
    | protocol p => exact Crates.writeU16_exact hK _ _ (by simpa [payload] using hpart)
    | addrBytes b =>
      have hlen : part.length = b.bytes.length := hpart
      have hcopy := Slice.onRange_append [] part [] (Slice.copyFromSlice b.bytes)
      rw [Slice.copyFromSlice, if_pos hlen] at hcopy
      simpa [nla, emitValue, payload, hlen] using hcopy
    | port p => exact Crates.writeU16_exact hK _ _ (by simpa [payload] using hpart)
    | flags f => exact emitValue_flags hK f (by simpa [payload] using hpart)
    | fwmark f => exact Crates.writeU32_exact hK _ _ (by simpa [payload] using hpart)
    | scheduler s => exact emitValue_scheduler (K := K) s (by simpa [payload] using hpart)
    | timeout t => exact Crates.writeU32_exact hK _ _ (by simpa [payload] using hpart)
    | netmask nm =>
      obtain ⟨f, hf⟩ := Option.isSome_iff_exists.1 h
      rw [payload_netmask hf] at hpart ⊢
      exact (writes_netmask K hf).emitValue part hpart
    | stats => exact h.elim
    | stats64 st => exact h.elim

/-- The attributes that complete are those that can be sent. -/
theorem completes_iff {a : SvcCtrlAttrs} : (nla K a).Completes ↔ a.Sendable := by
  refine ⟨?_, fun h => (writes hK h).completes⟩
  rintro ⟨len, -, -, hlen, -⟩
  exact sendable_of_valueLen hlen

end SvcCtrlAttrs

/-! ## Destination attributes -/

namespace DestinationCtrlAttrs

/-- The value of an attribute on the wire. -/
def payload (host : ByteOrder) : DestinationCtrlAttrs → Bytes
  | .addr a => a.bytes
  | .port p => host.encode 2 p.toNat
  | .tunPort p => host.encode 2 p.toNat
  | .fwdMethod _ => host.encode 4 0
  | .weight w => host.encode 4 w.toNat
  | .upperThreshold t => host.encode 4 t.toNat
  | .lowerThreshold t => host.encode 4 t.toNat
  | .activeConns c => host.encode 4 c.toNat
  | .inactiveConns c => host.encode 4 c.toNat
  | .persistConns c => host.encode 4 c.toNat
  | .addrFamily f => host.encode 2 f.toU16.toNat
  | .tunType t => [t.toU8]
  | .tunFlags f => host.encode 2 f.val.toNat
  | .stats | .stats64 _ => []

/-- The attributes that can be sent. -/
def Sendable : DestinationCtrlAttrs → Prop
  | .addr a => a.bytes.length = 16
  | .fwdMethod method => method = .masquerade
  | .stats | .stats64 _ => False
  | _ => True

variable {K : Crates}

theorem kind_lt (a : DestinationCtrlAttrs) : a.kind < 2 ^ 14 := by
  unfold kind
  split <;> decide

@[simp] theorem rawKind_nla (a : DestinationCtrlAttrs) : (nla K a).rawKind = a.kind :=
  (Nla.rawKind_eq a.kind_lt).trans (Nat.or_zero _)

@[simp] theorem strip_kind (a : DestinationCtrlAttrs) : K.format.strip a.kind = a.kind :=
  and_mask a.kind_lt

/-- The length of an attribute that can be sent is the length of its payload. -/
theorem valueLen_eq (host : ByteOrder) {a : DestinationCtrlAttrs} (h : a.Sendable) :
    a.valueLen = .ok (a.payload host).length := by
  cases a with
  | addr a => exact congrArg Except.ok (Eq.symm h)
  | stats => exact h.elim
  | stats64 st => exact h.elim
  | _ => simp [valueLen, payload]

/-- Every attribute is short. -/
theorem valueLen_le {a : DestinationCtrlAttrs} {len : ℕ} (hlen : a.valueLen = .ok len) :
    len ≤ 16 := by
  cases a <;> cases hlen <;> decide

variable (hK : K.Documented)

include hK

/-- An attribute that can be sent writes its payload over any part of the buffer. -/
theorem writes {a : DestinationCtrlAttrs} (h : a.Sendable) :
    (nla K a).Writes (a.payload K.host) where
  valueLen := valueLen_eq K.host h
  emitValue part hpart := by
    cases a with
    | addr a => exact if_pos hpart
    | fwdMethod method =>
      obtain rfl : method = .masquerade := h
      exact Crates.writeU32_exact hK _ _ (by simpa [payload] using hpart)
    | port p => exact Crates.writeU16_exact hK _ _ (by simpa [payload] using hpart)
    | tunPort p => exact Crates.writeU16_exact hK _ _ (by simpa [payload] using hpart)
    | weight w => exact Crates.writeU32_exact hK _ _ (by simpa [payload] using hpart)
    | upperThreshold t => exact Crates.writeU32_exact hK _ _ (by simpa [payload] using hpart)
    | lowerThreshold t => exact Crates.writeU32_exact hK _ _ (by simpa [payload] using hpart)
    | activeConns c => exact Crates.writeU32_exact hK _ _ (by simpa [payload] using hpart)
    | inactiveConns c => exact Crates.writeU32_exact hK _ _ (by simpa [payload] using hpart)
    | persistConns c => exact Crates.writeU32_exact hK _ _ (by simpa [payload] using hpart)
    | addrFamily f => exact Crates.writeU16_exact hK _ _ (by simpa [payload] using hpart)
    | tunType t =>
      obtain ⟨b, rfl⟩ := List.length_eq_one_iff.1 (show part.length = 1 from hpart)
      rfl
    | tunFlags f => exact Crates.writeU16_exact hK _ _ (by simpa [payload] using hpart)
    | stats => exact h.elim
    | stats64 st => exact h.elim

/-- The attributes that complete are those that can be sent. -/
theorem completes_iff {a : DestinationCtrlAttrs} : (nla K a).Completes ↔ a.Sendable := by
  refine ⟨?_, fun h => (writes hK h).completes⟩
  rintro ⟨len, part, v, hlen, hpart, hv⟩
  cases a with
  | addr a =>
    have h16 : (16 : ℕ) = len := Except.ok.inj hlen
    have hcopy : Slice.copyFromSlice a.bytes part = .ok v := hv
    unfold Slice.copyFromSlice at hcopy
    split_ifs at hcopy with h
    exact h.symm.trans (hpart.trans h16.symm)
  | fwdMethod method =>
    cases method with
    | masquerade => rfl
    | tunnel => cases hv
    | direct => cases hv
  | stats => cases hv
  | stats64 st => cases hv
  | _ => trivial

end DestinationCtrlAttrs

/-! ## Groups and messages -/

namespace IpvsCtrlAttrs

/-- The kinds and the values of the attributes of a group. -/
def leaves (host : ByteOrder) : IpvsCtrlAttrs → List (ℕ × Bytes)
  | .service l => l.map fun a => (a.kind, a.payload)
  | .destination l => l.map fun a => (a.kind, a.payload host)

/-- The value of a group on the wire : the frames of its attributes. -/
def payload (host : ByteOrder) (g : IpvsCtrlAttrs) : Bytes :=
  (netlink host).encode (g.leaves host)

/-- The groups that can be sent. -/
def Sendable : IpvsCtrlAttrs → Prop
  | .service l => ∀ a ∈ l, a.Sendable
  | .destination l => ∀ a ∈ l, a.Sendable

variable {K : Crates}

theorem kind_lt (g : IpvsCtrlAttrs) : g.kind < 2 ^ 14 := by
  unfold kind
  split <;> decide

@[simp] theorem rawKind_nla (g : IpvsCtrlAttrs) : (nla K g).rawKind = g.kind ||| NLA_F_NESTED :=
  Nla.rawKind_eq g.kind_lt

@[simp] theorem strip_kind (g : IpvsCtrlAttrs) :
    K.format.strip (g.kind ||| NLA_F_NESTED) = g.kind :=
  or_nested_and_mask g.kind_lt

theorem payload_service (l : List SvcCtrlAttrs) : payload K.host (.service l) =
    K.format.encode (l.map fun a => ((SvcCtrlAttrs.nla K a).rawKind, a.payload)) := by
  simp only [SvcCtrlAttrs.rawKind_nla]
  rfl

theorem payload_destination (l : List DestinationCtrlAttrs) : payload K.host (.destination l) =
    K.format.encode (l.map fun a =>
      ((DestinationCtrlAttrs.nla K a).rawKind, a.payload K.host)) := by
  simp only [DestinationCtrlAttrs.rawKind_nla]
  rfl

variable (hK : K.Documented)

include hK

theorem valueLen_eq {g : IpvsCtrlAttrs} (h : g.Sendable) :
    valueLen K g = .ok (g.payload K.host).length := by
  cases g with
  | service l =>
    rw [payload_service]
    exact Crates.nlasBufferLen_writes hK fun a ha => SvcCtrlAttrs.writes hK (h a ha)
  | destination l =>
    rw [payload_destination]
    exact Crates.nlasBufferLen_writes hK fun a ha => DestinationCtrlAttrs.writes hK (h a ha)

/-- The attributes of a group that fits, fit. -/
theorem fits_nlas {g : IpvsCtrlAttrs} (h : g.Sendable) (hf : (nla K g).Fits) :
    ∀ n ∈ nlas K g, n.Fits :=
  Crates.fits_of_nlasBufferLen hK hf (valueLen_eq hK h)

/-- A group that can be sent and fits writes the frames of its attributes over any part of
the buffer. -/
theorem writes {g : IpvsCtrlAttrs} (h : g.Sendable) (hf : (nla K g).Fits) :
    (nla K g).Writes (g.payload K.host) where
  valueLen := valueLen_eq hK h
  emitValue part hpart := by
    have hl := fits_nlas hK h hf
    cases g with
    | service l =>
      rw [payload_service] at hpart ⊢
      exact Crates.nlasEmit_writes hK (fun a ha => SvcCtrlAttrs.writes hK (h a ha))
        (fun a ha => hl _ (List.mem_map_of_mem ha)) hpart
    | destination l =>
      rw [payload_destination] at hpart ⊢
      exact Crates.nlasEmit_writes hK (fun a ha => DestinationCtrlAttrs.writes hK (h a ha))
        (fun a ha => hl _ (List.mem_map_of_mem ha)) hpart

/-- The groups that complete are those that can be sent, if they fit. -/
theorem sendable_of_completes {g : IpvsCtrlAttrs} (hf : (nla K g).Fits)
    (hc : (nla K g).Completes) : g.Sendable := by
  obtain ⟨len, part, v, hlen, hpart, hv⟩ := hc
  have hl := Crates.fits_of_nlasBufferLen hK hf hlen
  have hcs := Crates.completes_of_nlasEmit hK hl hlen hpart hv
  cases g with
  | service l =>
    intro a ha
    exact (SvcCtrlAttrs.completes_iff hK).1 (hcs _ (List.mem_map_of_mem ha))
  | destination l =>
    intro a ha
    exact (DestinationCtrlAttrs.completes_iff hK).1 (hcs _ (List.mem_map_of_mem ha))

end IpvsCtrlAttrs

namespace IpvsServiceCtrl

/-- A message on the wire : the frames of its groups, marked as nested. -/
def wire (host : ByteOrder) (m : IpvsServiceCtrl) : Bytes :=
  (netlink host).encode (m.nlas.map fun g => (g.kind ||| NLA_F_NESTED, g.payload host))

end IpvsServiceCtrl

end NetlinkIpvs

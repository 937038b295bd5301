import NetlinkIpvs.AnyOrder
import NetlinkIpvs.Payload
import NetlinkIpvs.Reference

/-!
# What services and destinations share

A family, a port and an address are attributes of a service and of a destination, and
each of the two has its own codec. The codecs write addresses alike and read families
alike. They write families alike on a little-endian host only (`family_alike_iff`). They
write ports alike on a big-endian host, or if the port is its own byte reversal
(`port_alike_iff`), and read them alike on a little-endian host, or if the payload is
(`readsPort_iff`). So they agree on all of these iff the host is little-endian and the port
is its own byte reversal (`codecs_agree_iff`).
-/

open Rust Rust.Outcome

namespace NetlinkIpvs

/-- The codecs read one family from the payload, or both reject it. -/
def ReadsFamily (K : Crates) (payload : Bytes) : Prop :=
  (∃ f, SvcCtrlAttrs.parse K ⟨IPVS_SVC_ATTR_AF, payload⟩ = .ok (.addressFamily f) ∧
    DestinationCtrlAttrs.parse K ⟨IPVS_DEST_ATTR_ADDR_FAMILY, payload⟩ = .ok (.addrFamily f)) ∨
  ∃ e e', SvcCtrlAttrs.parse K ⟨IPVS_SVC_ATTR_AF, payload⟩ = .err e ∧
    DestinationCtrlAttrs.parse K ⟨IPVS_DEST_ATTR_ADDR_FAMILY, payload⟩ = .err e'

/-- The codecs read one port from the payload. -/
def ReadsPort (K : Crates) (payload : Bytes) : Prop :=
  ∃ p, SvcCtrlAttrs.parse K ⟨IPVS_SVC_ATTR_PORT, payload⟩ = .ok (.port p) ∧
    DestinationCtrlAttrs.parse K ⟨IPVS_DEST_ATTR_PORT, payload⟩ = .ok (.port p)

/-- The codecs agree on a family, a port and an address that they write, and on a family
and a port that they read. -/
structure Agree (K : Crates) (f : AddressFamily) (p : UInt16) (a : IpAddr) (payload : Bytes) :
    Prop where
  writesFamily : (SvcCtrlAttrs.nla K (.addressFamily f)).Alike
    (DestinationCtrlAttrs.nla K (.addrFamily f))
  writesPort : (SvcCtrlAttrs.nla K (.port p)).Alike (DestinationCtrlAttrs.nla K (.port p))
  /-- The address attributes of a service and a destination at the address. -/
  writesAddr : ∀ (s : Service) (d : Destination), s.address = a → d.address = a →
    ∃ b c, s.createNlas.filterMap SvcCtrlAttrs.asAddrBytes = [b] ∧
      d.createNlas.filterMap DestinationCtrlAttrs.asAddr = [c] ∧
      (SvcCtrlAttrs.nla K (.addrBytes b)).Alike (DestinationCtrlAttrs.nla K (.addr c))
  readsFamily : ReadsFamily K payload
  readsPort : ReadsPort K payload

section Shared

variable {K : Crates} (hK : K.Documented)

include hK

/-! ## Writing -/

/-- A service writes its family least significant byte first, a destination in the order
of the host, and no family is its own byte reversal. -/
theorem family_alike_iff (f : AddressFamily) : (SvcCtrlAttrs.nla K (.addressFamily f)).Alike
    (DestinationCtrlAttrs.nla K (.addrFamily f)) ↔ K.host = .little := by
  have hsvc := SvcCtrlAttrs.writes hK (a := .addressFamily f) trivial
  have hdest := DestinationCtrlAttrs.writes hK (a := .addrFamily f) trivial
  rw [hsvc.alike_iff hdest]
  simp only [SvcCtrlAttrs.payload, DestinationCtrlAttrs.payload]
  cases K.host <;> cases f <;> decide

/-- A service writes its port most significant byte first, a destination in the order of
the host. -/
theorem port_alike_iff (p : UInt16) :
    (SvcCtrlAttrs.nla K (.port p)).Alike (DestinationCtrlAttrs.nla K (.port p)) ↔
      K.host = .big ∨ p.swapBytes = p := by
  have hsvc := SvcCtrlAttrs.writes hK (a := .port p) trivial
  have hdest := DestinationCtrlAttrs.writes hK (a := .port p) trivial
  rw [hsvc.alike_iff hdest, UInt16.swapBytes_eq_self_iff]
  simp only [SvcCtrlAttrs.payload, DestinationCtrlAttrs.payload]
  cases K.host <;> simp

/-- Both write the 16 bytes of an address. -/
theorem addr_alike (a : IpAddr) : (SvcCtrlAttrs.nla K (.addrBytes ⟨a.octets⟩)).Alike
    (DestinationCtrlAttrs.nla K (.addr ⟨a.octets⟩)) :=
  ⟨a.octets, SvcCtrlAttrs.writes hK (a := .addrBytes ⟨a.octets⟩) trivial,
    DestinationCtrlAttrs.writes hK (a := .addr ⟨a.octets⟩) a.length_octets⟩

/-! ## Reading -/

omit hK in
theorem AddressFamily.tryFrom_unknown {val : UInt16} (h2 : val.toNat ≠ 2) (h10 : val.toNat ≠ 10) :
    ∃ e, tryFrom val = .err e := by
  unfold tryFrom
  split
  · contradiction
  · contradiction
  · exact ⟨_, rfl⟩

/-- Both read a number of two bytes in the order of the host, and know the same families. -/
theorem readsFamily (payload : Bytes) : ReadsFamily K payload := by
  unfold ReadsFamily
  simp only [SvcCtrlAttrs.parse, DestinationCtrlAttrs.parse]
  by_cases hlen : payload.length = 2
  · rw [hK.parseU16_eq payload hlen]
    generalize UInt16.ofNat (K.host.decode payload) = val
    simp only [ofExcept_ok, ok_bind]
    rcases eq_or_ne val.toNat 2 with h2 | h2
    · simp only [AddressFamily.tryFrom, h2]
      exact Or.inl ⟨.IPv4, rfl, rfl⟩
    rcases eq_or_ne val.toNat 10 with h10 | h10
    · simp only [AddressFamily.tryFrom, h10]
      exact Or.inl ⟨.IPv6, rfl, rfl⟩
    obtain ⟨e', he'⟩ := AddressFamily.tryFrom_unknown h2 h10
    rw [he']
    refine Or.inr ?_
    split
    · contradiction
    · contradiction
    · exact ⟨_, _, rfl, rfl⟩
  · obtain ⟨e, he⟩ := hK.parseU16_other payload hlen
    rw [he]
    exact Or.inr ⟨e, e, rfl, rfl⟩

/-- A service reads its port least significant byte first and swaps it on a little-endian
host, a destination most significant byte first. -/
theorem readsPort_iff {payload : Bytes} (h : payload.length = 2) :
    ReadsPort K payload ↔ K.host = .little ∨ payload.reverse = payload := by
  have hsvc : SvcCtrlAttrs.parse K ⟨IPVS_SVC_ATTR_PORT, payload⟩ =
      .ok (.port (UInt16.fromBe K.host (UInt16.ofNat (ByteOrder.little.decode payload)))) := by
    simp only [SvcCtrlAttrs.parse]
    rw [hK.readU16_eq .little payload h.ge, List.take_of_length_le h.le]
    rfl
  have hdest : DestinationCtrlAttrs.parse K ⟨IPVS_DEST_ATTR_PORT, payload⟩ =
      .ok (.port (UInt16.ofNat (ByteOrder.big.decode payload))) := by
    simp only [DestinationCtrlAttrs.parse]
    rw [hK.readU16_eq .big payload h.ge, List.take_of_length_le h.le]
    rfl
  unfold ReadsPort
  rw [hsvc, hdest]
  cases hhost : K.host with
  | little =>
    rw [UInt16.fromBe_little_decode h]
    simp
  | big =>
    have hinj : UInt16.ofNat (ByteOrder.big.decode payload) =
        UInt16.ofNat (ByteOrder.little.decode payload) ↔ payload.reverse = payload :=
      ByteOrder.ofNat_decode_inj16 .little (by rw [List.length_reverse, h]) h
    simp [UInt16.fromBe, hinj]

/-! ## Both -/

/-- The codecs agree iff the host is little-endian and the port is its own byte reversal. -/
theorem codecs_agree_iff (f : AddressFamily) (p : UInt16) (a : IpAddr) {payload : Bytes}
    (h : payload.length = 2) :
    Agree K f p a payload ↔ K.host = .little ∧ p.swapBytes = p := by
  constructor
  · intro hagree
    have hhost := (family_alike_iff hK f).1 hagree.writesFamily
    rcases (port_alike_iff hK p).1 hagree.writesPort with hbig | hp
    · rw [hhost] at hbig
      cases hbig
    · exact ⟨hhost, hp⟩
  · rintro ⟨hhost, hp⟩
    refine ⟨(family_alike_iff hK f).2 hhost, (port_alike_iff hK p).2 (Or.inr hp), ?_,
      readsFamily hK payload, (readsPort_iff hK h).2 (Or.inl hhost)⟩
    rintro s d rfl hd
    refine ⟨⟨s.address.octets⟩, ⟨d.address.octets⟩, s.filterMap_asAddrBytes, d.filterMap_asAddr, ?_⟩
    rw [hd]
    exact addr_alike hK s.address

end Shared

/-- They agree on a port of two equal bytes. -/
theorem codecs_agree_palindrome : Agree (Crates.reference .little) .IPv6 0x5050
    (.V4 ⟨[10, 0, 0, 1], rfl⟩) [0, 10] :=
  (codecs_agree_iff (Crates.reference_documented .little) _ _ _ rfl).2 ⟨rfl, by decide⟩

/-- The port 8080 in a service and in a destination of one message on a little-endian host,
and the family of IPv4 on a big-endian host. -/
theorem not_agree_8080 :
    IpvsServiceCtrl.emit (Crates.reference .little)
      { cmd := .newDest, nlas := [.service [.port 8080], .destination [.port 8080]],
        familyId := 0 } (List.replicate 24 0) =
      .ok [12, 0, 1, 0x80, 6, 0, 4, 0, 0x1f, 0x90, 0, 0,
        12, 0, 2, 0x80, 6, 0, 2, 0, 0x90, 0x1f, 0, 0] ∧
    ¬Agree (Crates.reference .little) .IPv4 8080 (.V4 ⟨[10, 0, 0, 1], rfl⟩) [2, 0] ∧
    ¬Agree (Crates.reference .big) .IPv4 80 (.V4 ⟨[10, 0, 0, 1], rfl⟩) [0, 2] := by
  refine ⟨by decide +kernel, fun h => ?_, fun h => ?_⟩
  · have hport := (port_alike_iff (Crates.reference_documented .little) 8080).1 h.writesPort
    revert hport
    decide
  · have hfamily := (family_alike_iff (Crates.reference_documented .big) .IPv4).1 h.writesFamily
    revert hfamily
    decide

end NetlinkIpvs

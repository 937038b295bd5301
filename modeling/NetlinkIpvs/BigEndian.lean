import NetlinkIpvs.Resending
import NetlinkIpvs.Serialize

/-!
# Big-endian hosts

A service writes its family least significant byte first, and the parser reads it in host
order. On a big-endian host a message that starts with a service is sent, and no such message
is read back : IPv4 is read as the family 512 and IPv6 as 2560 (`refused_big`).

A destination writes its family in host order, and its port, which is read most significant
byte first, too. On a big-endian host a message about destinations is read back exactly
(`deserialize_destinations_big`).
-/

open Rust Rust.Outcome
open Tlv.Format (readAll)

namespace NetlinkIpvs

variable {K : Crates} (hK : K.Documented) (hhost : K.host = .big)

/-! ## Services -/

/-- What a big-endian host reads for a family that was written least significant byte first. -/
def AddressFamily.misread (f : AddressFamily) : ℕ :=
  256 * f.toU16.toNat

section Services

include hK hhost

theorem SvcCtrlAttrs.parse_family_big (f : AddressFamily) :
    parse K ⟨IPVS_SVC_ATTR_AF, payload (.addressFamily f)⟩ =
      .err (.message s!"unknown addr family {f.misread}") := by
  have hval : K.parseU16 (payload (.addressFamily f)) = .ok (UInt16.ofNat f.misread) := by
    rw [hK.parseU16_eq _ (by cases f <;> rfl), hhost]
    cases f <;> rfl
  simp only [parse, hval, ofExcept_ok, ok_bind]
  cases f <;> rfl

/-- A group of a service that starts with its family. -/
theorem IpvsCtrlAttrs.parse_service_big {f : AddressFamily} {l : List SvcCtrlAttrs}
    (h : Sendable (.service (.addressFamily f :: l)))
    (hf : (nla K (.service (.addressFamily f :: l))).Fits) :
    parse K ⟨IPVS_CMD_ATTR_SERVICE, payload K.host (.service (.addressFamily f :: l))⟩ =
      .err (.message s!"unknown addr family {f.misread}") := by
  have hl := fits_nlas hK h hf
  have hread := Crates.readAll_writes_eq hK (SvcCtrlAttrs.parse K)
    (fun a ha => SvcCtrlAttrs.writes hK (h a ha)) (fun a ha => hl _ (List.mem_map_of_mem ha))
  have hfamily := SvcCtrlAttrs.parse_family_big hK hhost f
  simp only [parse]
  rw [payload_service, hread, collect, SvcCtrlAttrs.rawKind_nla, SvcCtrlAttrs.strip_kind,
    SvcCtrlAttrs.kind, hfamily]
  rfl

/-- The encoding of a message that starts with a service is refused. -/
theorem IpvsServiceCtrl.parseWithParam_wire_big {m : IpvsServiceCtrl} {f : AddressFamily}
    {l : List SvcCtrlAttrs} {gs : List IpvsCtrlAttrs} {header : GenlHeader}
    (hnlas : m.nlas = .service (.addressFamily f :: l) :: gs) (hm : ∀ g ∈ m.nlas, g.Sendable)
    (hfit : ∀ g ∈ m.nlas, (IpvsCtrlAttrs.nla K g).Fits) (hcmd : header.cmd = m.cmd.toU8) :
    parseWithParam K (m.wire K.host) header =
      .err (.context "failed to parse control message attributes"
        (.message s!"unknown addr family {f.misread}")) := by
  have hread := Crates.readAll_writes_eq hK (IpvsCtrlAttrs.parse K)
    (fun g hg => IpvsCtrlAttrs.writes hK (hm g hg) (hfit g hg)) hfit
  have hmem : .service (.addressFamily f :: l) ∈ m.nlas := by simp [hnlas]
  have hg := IpvsCtrlAttrs.parse_service_big hK hhost (hm _ hmem) (hfit _ hmem)
  rw [parseWithParam, hcmd, IpvsCtrlCmd.tryFrom_toU8, ok_bind, parseCtrlnlas, m.wire_eq, hread,
    hnlas, collect, IpvsCtrlAttrs.rawKind_nla, IpvsCtrlAttrs.strip_kind, IpvsCtrlAttrs.kind, hg]
  rfl

end Services

/-- On a big-endian host, no message that starts with a service and its family is read back. -/
theorem refused_big {P : Packets} (hP : P.Documented) (hhost : P.host = .big) {m : IpvsServiceCtrl}
    {f : AddressFamily} {l : List SvcCtrlAttrs} {gs : List IpvsCtrlAttrs}
    (hnlas : m.nlas = .service (.addressFamily f :: l) :: gs) {buf out : Bytes}
    (hlen : m.bufferLen P.toCrates = .ok buf.length) (hout : m.emit P.toCrates buf = .ok out)
    {header : GenlHeader} (hcmd : header.cmd = m.cmd.toU8) :
    IpvsServiceCtrl.parseWithParam P.toCrates out header =
      .err (.context "failed to parse control message attributes"
        (.message s!"unknown addr family {f.misread}")) := by
  obtain ⟨hm, rfl⟩ := IpvsServiceCtrl.wire_of_emit hP hlen hout
  exact IpvsServiceCtrl.parseWithParam_wire_big hP.toDocumented hhost hnlas
    (fun g hg => (hm g hg).1) (fun g hg => (hm g hg).2) hcmd

/-- The message about a web service and a real server of it. -/
theorem refused_big_web : ∃ out, IpvsServiceCtrl.emit (Crates.reference .big)
    (.create .newDest 30 .web (.web .masquerade 8080)) (List.replicate 156 0) = .ok out ∧
    IpvsServiceCtrl.parseWithParam (Crates.reference .big) out ⟨5, 1⟩ =
      .err (.context "failed to parse control message attributes"
        (.message "unknown addr family 512")) := by
  have hP := Packets.reference_documented .big
  obtain ⟨len, hlen, hsends⟩ := (IpvsServiceCtrl.sends_iff_masquerade hP.toDocumented .newDest 30
    (s := .web) (f := .IPv4) rfl (d := .web .masquerade 8080)).2 rfl
  obtain rfl : 156 = len := Except.ok.inj hlen
  have hbuf : (List.replicate 156 (0 : UInt8)).length = 156 := List.length_replicate
  obtain ⟨out, hout⟩ := hsends (List.replicate 156 0) hbuf
  rw [← hbuf] at hlen
  exact ⟨out, hout, @refused_big _ hP rfl _ .IPv4 _ _ rfl _ _ hlen hout ⟨5, 1⟩ rfl⟩

/-! ## Destinations -/

section Destinations

include hK hhost

/-- The payload of a destination attribute is read as the attribute. -/
theorem DestinationCtrlAttrs.parse_payload_big {a : DestinationCtrlAttrs} (h : a.Sendable) :
    parse K ⟨a.kind, a.payload K.host⟩ = .ok a := by
  cases a with
  | addr a => rfl
  | port p =>
    simp only [parse, kind, payload, hhost]
    rw [hK.readU16_eq _ _ (by simp), lift_ok, ok_bind, List.take_of_length_le (by simp),
      ByteOrder.ofNat_decode_encode16]
    rfl
  | fwdMethod method =>
    obtain rfl : method = .masquerade := h
    have hval := parseU32_encode hK 0
    simp only [UInt32.toNat_zero] at hval
    simp only [parse, kind, payload, hval, ofExcept_ok, ok_bind]
    rfl
  | addrFamily f =>
    simp only [parse, kind, payload, parseU16_encode hK, ofExcept_ok, ok_bind]
    cases f <;> rfl
  | tunType t => cases t; rfl
  | stats => exact h.elim
  | stats64 st => exact h.elim
  | _ =>
    simp only [parse, kind, payload, parseU16_encode hK, parseU32_encode hK, ofExcept_ok, ok_bind,
      pure_eq]

/-- A group of destination attributes is read as it was sent. -/
theorem IpvsCtrlAttrs.parse_destination_big {l : List DestinationCtrlAttrs}
    (h : Sendable (.destination l)) (hf : (nla K (.destination l)).Fits) :
    parse K ⟨IPVS_CMD_ATTR_DEST, payload K.host (.destination l)⟩ = .ok (.destination l) := by
  have hl := fits_nlas hK h hf
  have hparse : ∀ a ∈ l, DestinationCtrlAttrs.parse K
      ⟨K.format.strip (DestinationCtrlAttrs.nla K a).rawKind, a.payload K.host⟩ = .ok a := by
    intro a ha
    rw [DestinationCtrlAttrs.rawKind_nla, DestinationCtrlAttrs.strip_kind]
    exact DestinationCtrlAttrs.parse_payload_big hK hhost (h a ha)
  have hread := Crates.readAll_writes hK (fun a ha => DestinationCtrlAttrs.writes hK (h a ha))
    (fun a ha => hl _ (List.mem_map_of_mem ha)) hparse
  simp only [parse]
  rw [payload_destination, hread, List.map_id']
  rfl

/-- The encoding of a message about destinations is read as the message. -/
theorem IpvsServiceCtrl.parseWithParam_destinations_big {m : IpvsServiceCtrl}
    {header : GenlHeader} (hdest : ∀ g ∈ m.nlas, g.kind = IPVS_CMD_ATTR_DEST)
    (hm : ∀ g ∈ m.nlas, g.Sendable) (hfit : ∀ g ∈ m.nlas, (IpvsCtrlAttrs.nla K g).Fits)
    (hcmd : header.cmd = m.cmd.toU8) :
    parseWithParam K (m.wire K.host) header =
      .ok { cmd := m.cmd, nlas := m.nlas, familyId := 999 } := by
  have hparse : ∀ g ∈ m.nlas, IpvsCtrlAttrs.parse K
      ⟨K.format.strip (IpvsCtrlAttrs.nla K g).rawKind, g.payload K.host⟩ = .ok g := by
    intro g hg
    rw [IpvsCtrlAttrs.rawKind_nla, IpvsCtrlAttrs.strip_kind]
    cases g with
    | service l => exact absurd (show 1 = 2 from hdest _ hg) (by decide)
    | destination l => exact IpvsCtrlAttrs.parse_destination_big hK hhost (hm _ hg) (hfit _ hg)
  have hread := Crates.readAll_writes hK
    (fun g hg => IpvsCtrlAttrs.writes hK (hm g hg) (hfit g hg)) hfit hparse
  rw [parseWithParam, hcmd, IpvsCtrlCmd.tryFrom_toU8, ok_bind, parseCtrlnlas, m.wire_eq, hread,
    List.map_id']
  rfl

end Destinations

/-- On a big-endian host, a serialized message about destinations whose family number is not one
of netlink's own is read back as it was sent, whatever follows in the buffer, but for its
family number. -/
theorem deserialize_destinations_big {P : Packets} (hP : P.Documented) (hhost : P.host = .big)
    {m : IpvsServiceCtrl} {dump : Bool} (hdest : ∀ g ∈ m.nlas, g.kind = IPVS_CMD_ATTR_DEST)
    (hfamily : m.familyId ∉ controlTypes) {out : Bytes} (hout : m.serialize P dump = .ok out)
    (tail : Bytes) :
    P.deserialize (IpvsServiceCtrl.parseWithParam P.toCrates) (out ++ tail) =
      .ok ⟨m.requestHeader dump (out.length - 20),
        .innerMessage ⟨⟨m.cmd.toU8, 1⟩, { m with familyId := 999 }, m.familyId⟩⟩ := by
  obtain ⟨h, rfl⟩ := (serialize_eq_ok hP).1 hout
  exact deserialize_datagram hP h.total hfamily
    (m.parseWithParam_destinations_big hP.toDocumented hhost hdest h.sendable
      (h.fits hP.toDocumented) rfl) tail

/-- A port and a weight, and three more bytes that are left alone. -/
theorem deserialize_destinations_big_port : ∃ out,
    IpvsServiceCtrl.serialize (Packets.reference .big)
      { cmd := .newDest, nlas := [.destination [.port 8080, .weight 1]], familyId := 30 } false =
        .ok out ∧
    (Packets.reference .big).deserialize
      (IpvsServiceCtrl.parseWithParam (Crates.reference .big)) (out ++ [1, 2, 3]) =
        .ok ⟨⟨40, 30, 5, 0, 0⟩, .innerMessage ⟨⟨5, 1⟩,
          ⟨.newDest, [.destination [.port 8080, .weight 1]], 999⟩, 30⟩⟩ := by
  refine ⟨_, rfl, ?_⟩
  refine @deserialize_destinations_big _ (Packets.reference_documented .big) rfl
    { cmd := .newDest, nlas := [.destination [.port 8080, .weight 1]], familyId := 30 } false
    ?_ (by decide) _ rfl [1, 2, 3]
  simp [IpvsCtrlAttrs.kind]

end NetlinkIpvs

import NetlinkIpvs.Room
import NetlinkIpvs.RoundTrip

/-!
# Serialized messages

`IpvsServiceCtrl.serialize` (`src/ctrl/mod.rs`) puts a message behind its two headers.
`IpvsServiceCtrl.datagram` is what it returns as a function of the message alone, and it
returns it iff the message can be encoded (`serialize_eq_ok`) : a length that does not fit its
field is never cut, the serialization panics.

A little-endian host reads from it the message with its groups as they are received,
whatever follows in the buffer (`deserialize_serialize`).
-/

open Rust Rust.Outcome

namespace NetlinkIpvs

/-- A group that can be sent fits iff its payload does. -/
theorem IpvsCtrlAttrs.fits_iff {K : Crates} (hK : K.Documented) {g : IpvsCtrlAttrs}
    (h : g.Sendable) : (nla K g).Fits ↔ 4 + (g.payload K.host).length < 2 ^ 16 := by
  have hlen := valueLen_eq hK h
  constructor
  · intro hfit
    exact hfit _ hlen
  · intro hlt len h
    obtain rfl := Except.ok.inj (hlen.symm.trans h)
    exact hlt

namespace IpvsServiceCtrl

/-! ## Serializing -/

/-- `impl GenlFamily for IpvsServiceCtrl` and `impl Emitable for IpvsServiceCtrl`. -/
def genlFamily (K : Crates) (self : IpvsServiceCtrl) : GenlFamily where
  familyName := "IPVS"
  familyId := self.familyId
  command := self.cmd.toU8
  version := 1
  bufferLen := self.bufferLen K
  emit := self.emit K

/-- `IpvsServiceCtrl::serialize`. -/
def serialize (P : Packets) (self : IpvsServiceCtrl) (dump : Bool) : Panics Bytes := do
  let genlmsg := P.genlFromPayload (self.genlFamily P.toCrates)
  let nlmsg := P.nlmsgFrom genlmsg
  let nlmsg := { nlmsg with header := { nlmsg.header with flags := NLM_F_REQUEST ||| NLM_F_ACK } }
  let nlmsg := if dump then
      { nlmsg with header := { nlmsg.header with flags := nlmsg.header.flags ||| NLM_F_DUMP } }
    else nlmsg
  let nlmsg ← P.nlmsgFinalize nlmsg
  let len ← P.nlmsgBufferLen nlmsg
  P.nlmsgSerialize nlmsg (List.replicate len 0)

/-- The flags of a request. -/
def requestFlags (dump : Bool) : UInt16 :=
  if dump then NLM_F_REQUEST ||| NLM_F_ACK ||| NLM_F_DUMP else NLM_F_REQUEST ||| NLM_F_ACK

/-- The netlink header of a request with a body of the given length. -/
def requestHeader (m : IpvsServiceCtrl) (dump : Bool) (len : ℕ) : NetlinkHeader where
  length := UInt32.ofNat (16 + (4 + len))
  messageType := m.familyId
  flags := requestFlags dump

/-- A serialized message : the headers and the frames of its groups. -/
def datagram (host : ByteOrder) (m : IpvsServiceCtrl) (dump : Bool) : Bytes :=
  (m.requestHeader dump (m.wire host).length).bytes host ++
    (m.cmd.toU8 :: 1 :: 0 :: 0 :: m.wire host)

theorem length_datagram (host : ByteOrder) (m : IpvsServiceCtrl) (dump : Bool) :
    (m.datagram host dump).length = 16 + (4 + (m.wire host).length) := by
  simp [datagram]
  omega

/-- The messages that can be encoded : each attribute can be sent, each group fits the 16 bits
of its length field, and the whole the 32 bits of its own. -/
structure Encodable (host : ByteOrder) (m : IpvsServiceCtrl) : Prop where
  sendable : ∀ g ∈ m.nlas, g.Sendable
  groups : ∀ g ∈ m.nlas, 4 + (g.payload host).length < 2 ^ 16
  total : 16 + (4 + (m.wire host).length) < 2 ^ 32

section Encodable

variable {K : Crates} (hK : K.Documented) {m : IpvsServiceCtrl}

include hK

/-- The groups of a message that can be encoded fit. -/
theorem Encodable.fits (h : m.Encodable K.host) : ∀ g ∈ m.nlas, (IpvsCtrlAttrs.nla K g).Fits :=
  fun g hg => (IpvsCtrlAttrs.fits_iff hK (h.sendable g hg)).2 (h.groups g hg)

variable (hm : ∀ g ∈ m.nlas, g.Sendable) (hfit : ∀ g ∈ m.nlas, (IpvsCtrlAttrs.nla K g).Fits)

include hm hfit

theorem encodable_of_fits (htotal : 16 + (4 + (m.wire K.host).length) < 2 ^ 32) :
    m.Encodable K.host :=
  ⟨hm, fun g hg => (IpvsCtrlAttrs.fits_iff hK (hm g hg)).1 (hfit g hg), htotal⟩

/-- A message of some thousand groups that fit can be encoded. -/
theorem encodable_of_length (hlen : m.nlas.length ≤ 2 ^ 15) : m.Encodable K.host := by
  refine encodable_of_fits hK hm hfit ?_
  have hb : ∀ n ∈ m.nlas.map (IpvsCtrlAttrs.nla K), ∀ len, n.valueLen = .ok len → len ≤ 2 ^ 16 := by
    intro n hn len h
    obtain ⟨g, hg, rfl⟩ := List.mem_map.1 hn
    have := hfit g hg len h
    omega
  have hle := Crates.nlasBufferLen_le hK hb (m.bufferLen_eq hK hm hfit)
  have halign : 4 + K.format.align (2 ^ 16) = 2 ^ 16 + 4 := by
    change 4 + (2 ^ 16 + 4 - 1) / 4 * 4 = 2 ^ 16 + 4
    decide
  rw [halign, List.length_map] at hle
  have := Nat.mul_le_mul_right (2 ^ 16 + 4) hlen
  omega

end Encodable

/-- What is handed to the serializer. -/
def request (P : Packets) (m : IpvsServiceCtrl) (dump : Bool) : Outgoing :=
  ⟨{ flags := requestFlags dump },
    .innerMessage ⟨⟨m.cmd.toU8, 1⟩, m.genlFamily P.toCrates, 0⟩⟩

/-- The family number of the request is that of the message. -/
theorem familyId_request (P : Packets) (m : IpvsServiceCtrl) :
    GenlMessage.familyId ⟨⟨m.cmd.toU8, 1⟩, m.genlFamily P.toCrates, 0⟩ = m.familyId := by
  unfold GenlMessage.familyId
  split_ifs with h
  · exact Eq.symm h
  · rfl

variable {P : Packets} (hP : P.Documented) {m : IpvsServiceCtrl} {dump : Bool}

include hP

theorem serialize_request : m.serialize P dump = (do
    let nlmsg ← P.nlmsgFinalize (m.request P dump)
    let len ← P.nlmsgBufferLen nlmsg
    P.nlmsgSerialize nlmsg (List.replicate len 0)) := by
  rw [serialize, hP.genlFromPayload_eq, hP.nlmsgFrom_eq]
  cases dump <;> rfl

/-- A message is serialized over a zeroed buffer, with its length in the header as far as the
field goes. -/
theorem serialize_of_bufferLen {len : ℕ} (hlen : m.bufferLen P.toCrates = .ok len) :
    m.serialize P dump = P.nlmsgSerialize ⟨m.requestHeader dump len,
      .innerMessage ⟨⟨m.cmd.toU8, 1⟩, m.genlFamily P.toCrates, 0⟩⟩
        (List.replicate (16 + (4 + len)) 0) := by
  have hfam : (m.genlFamily P.toCrates).bufferLen = .ok len := hlen
  rw [serialize_request hP, request, hP.nlmsgFinalize_eq, familyId_request, hfam, ok_bind_panics,
    pure_panics, ok_bind_panics, hP.nlmsgBufferLen_eq, hfam]
  rfl

/-- A message that is serialized has a length. -/
theorem exists_bufferLen {out : Bytes} (hout : m.serialize P dump = .ok out) :
    ∃ len, m.bufferLen P.toCrates = .ok len := by
  cases hlen : m.bufferLen P.toCrates with
  | ok len => exact ⟨len, rfl⟩
  | error p =>
    have hfam : (m.genlFamily P.toCrates).bufferLen = .error p := hlen
    rw [serialize_request hP, request, hP.nlmsgFinalize_eq, hfam] at hout
    cases hout

/-- A short message is emitted on a zeroed buffer of its length, behind its headers. -/
theorem serialize_short {len : ℕ} (hlen : m.bufferLen P.toCrates = .ok len)
    (hshort : 16 + (4 + len) < 2 ^ 32) : m.serialize P dump = do
      let body ← m.emit P.toCrates (List.replicate len 0)
      return (m.requestHeader dump len).bytes P.host ++ (m.cmd.toU8 :: 1 :: 0 :: 0 :: body) := by
  have hsize : (m.requestHeader dump len).length.toNat = 16 + (4 + len) :=
    UInt32.toNat_ofNat_of_lt' hshort
  have hbody := hP.nlmsgSerialize_eq (m.requestHeader dump len)
    ⟨⟨m.cmd.toU8, 1⟩, m.genlFamily P.toCrates, 0⟩ len (List.replicate (16 + (4 + len)) 0) hlen
    hsize List.length_replicate
  rw [List.drop_replicate, List.drop_replicate, List.take_replicate,
    show 16 + (4 + len) - 20 = len by omega, show min 2 (16 + (4 + len) - 18) = 2 by omega]
    at hbody
  exact (serialize_of_bufferLen hP hlen).trans hbody

/-- A message that is serialized is short : a longer one would be emitted on a part of the
buffer with no room for it. -/
theorem short_of_serialize {len : ℕ} {out : Bytes} (hlen : m.bufferLen P.toCrates = .ok len)
    (hout : m.serialize P dump = .ok out) : 16 + (4 + len) < 2 ^ 32 := by
  by_contra hlong
  have hsize : (m.requestHeader dump len).length.toNat < 16 + (4 + len) :=
    (m.requestHeader dump len).length.toNat_lt.trans_le (Nat.not_lt.1 hlong)
  rw [serialize_of_bufferLen hP hlen] at hout
  obtain ⟨part, body, hpart, hbody⟩ := hP.nlmsgSerialize_long _ _ len _ out hlen hsize hout
  exact Nat.not_le.2 hpart (le_of_emit hP hlen hbody)

end IpvsServiceCtrl

/-- A message is serialized iff it can be encoded, and then it is its datagram : nothing is
cut, and the zeroed buffer leaves no trace. -/
theorem serialize_eq_ok {P : Packets} (hP : P.Documented) {m : IpvsServiceCtrl} {dump : Bool}
    {out : Bytes} :
    m.serialize P dump = .ok out ↔ m.Encodable P.host ∧ out = m.datagram P.host dump := by
  constructor
  · intro hout
    obtain ⟨len, hlen⟩ := IpvsServiceCtrl.exists_bufferLen hP hout
    have hshort := IpvsServiceCtrl.short_of_serialize hP hlen hout
    rw [IpvsServiceCtrl.serialize_short hP hlen hshort] at hout
    obtain ⟨body, hbody, hout⟩ := bind_panics_eq_ok.1 hout
    obtain ⟨hm, rfl⟩ := IpvsServiceCtrl.wire_of_emit hP
      (by rw [List.length_replicate]; exact hlen) hbody
    have hwire := m.bufferLen_eq hP.toDocumented (fun g hg => (hm g hg).1) fun g hg => (hm g hg).2
    obtain rfl : len = (m.wire P.host).length := Except.ok.inj (hlen.symm.trans hwire)
    exact ⟨IpvsServiceCtrl.encodable_of_fits hP.toDocumented (fun g hg => (hm g hg).1)
      (fun g hg => (hm g hg).2) hshort, (Except.ok.inj hout).symm⟩
  · rintro ⟨h, rfl⟩
    have hfit := h.fits hP.toDocumented
    rw [IpvsServiceCtrl.serialize_short hP (m.bufferLen_eq hP.toDocumented h.sendable hfit) h.total,
      m.emit_eq hP.toDocumented h.sendable hfit List.length_replicate]
    rfl

/-- A request for the destinations of a port, and one with more ports than a group has room
for. -/
theorem serialize_eq_ok_port :
    IpvsServiceCtrl.serialize (Packets.reference .little)
      { cmd := .getDest, nlas := [.service [.port 80]], familyId := 30 } true =
        .ok [32, 0, 0, 0, 30, 0, 5, 3, 0, 0, 0, 0, 0, 0, 0, 0, 8, 1, 0, 0,
          12, 0, 1, 0x80, 6, 0, 4, 0, 0, 80, 0, 0] ∧
    ∀ n ≥ 8192, ∀ out, IpvsServiceCtrl.serialize (Packets.reference .little)
      { cmd := .getDest, nlas := [.service (List.replicate n (.port 80))], familyId := 30 }
        true ≠ .ok out := by
  have hP := Packets.reference_documented .little
  refine ⟨(serialize_eq_ok hP).2 ⟨⟨?_, ?_, by decide⟩, rfl⟩, fun n hn out h => ?_⟩
  · simp [IpvsCtrlAttrs.Sendable, SvcCtrlAttrs.Sendable]
  · intro g hg
    obtain rfl := List.mem_singleton.1 hg
    decide
  · have hgroup := ((serialize_eq_ok hP).1 h).1.groups _ (List.mem_singleton_self _)
    rw [IpvsCtrlAttrs.payload, Tlv.Format.length_encode, IpvsCtrlAttrs.leaves, List.map_replicate,
      List.map_replicate, List.sum_replicate_nat] at hgroup
    have : 4 + n * 8 < 2 ^ 16 := hgroup
    omega

/-- A message that cannot be encoded panics. -/
theorem IpvsServiceCtrl.exists_serialize_error_iff {P : Packets} (hP : P.Documented)
    {m : IpvsServiceCtrl} {dump : Bool} :
    (∃ p, m.serialize P dump = .error p) ↔ ¬m.Encodable P.host := by
  cases h : m.serialize P dump with
  | ok out => exact iff_of_false (by simp) (not_not.2 ((serialize_eq_ok hP).1 h).1)
  | error p =>
    refine iff_of_true ⟨p, rfl⟩ fun he => ?_
    cases h.symm.trans ((@serialize_eq_ok _ hP _ dump _).2 ⟨he, rfl⟩)

/-! ## Reading what was serialized -/

/-- What a little-endian host reads from a serialized message. -/
def IpvsServiceCtrl.delivered (m : IpvsServiceCtrl) (header : NetlinkHeader) :
    NetlinkMessage (GenlMessage IpvsServiceCtrl) where
  header
  payload := .innerMessage
    { header := ⟨m.cmd.toU8, 1⟩
      payload := { cmd := m.cmd, nlas := m.nlas.map IpvsCtrlAttrs.received, familyId := 999 }
      resolvedFamilyId := m.familyId }

/-- A datagram stands whole at the front of any buffer that starts with it. -/
theorem framed_datagram {P : Packets} {m : IpvsServiceCtrl} {dump : Bool}
    (hlen : 16 + (4 + (m.wire P.host).length) < 2 ^ 32) (tail : Bytes) :
    NetlinkHeader.read P.host (m.datagram P.host dump ++ tail) =
        m.requestHeader dump (m.wire P.host).length ∧
      (m.requestHeader dump (m.wire P.host).length).length.toNat =
        (m.datagram P.host dump).length ∧
      P.Framed (m.datagram P.host dump ++ tail) := by
  have hread : NetlinkHeader.read P.host (m.datagram P.host dump ++ tail) =
      m.requestHeader dump (m.wire P.host).length := by
    rw [IpvsServiceCtrl.datagram, List.append_assoc, NetlinkHeader.read_bytes]
  have hsize : (m.requestHeader dump (m.wire P.host).length).length.toNat =
      (m.datagram P.host dump).length := by
    rw [IpvsServiceCtrl.length_datagram]
    exact UInt32.toNat_ofNat_of_lt' hlen
  refine ⟨hread, hsize, ?_⟩
  unfold Packets.Framed
  rw [hread, hsize, List.length_append, IpvsServiceCtrl.length_datagram]
  omega

/-- A datagram is read back with its header, as what the payload is parsed as. -/
theorem deserialize_datagram {P : Packets} (hP : P.Documented) {m m' : IpvsServiceCtrl}
    {dump : Bool} (hlen : 16 + (4 + (m.wire P.host).length) < 2 ^ 32)
    (hfamily : m.familyId ∉ controlTypes)
    (hparse : IpvsServiceCtrl.parseWithParam P.toCrates (m.wire P.host) ⟨m.cmd.toU8, 1⟩ = .ok m')
    (tail : Bytes) :
    P.deserialize (IpvsServiceCtrl.parseWithParam P.toCrates) (m.datagram P.host dump ++ tail) =
      .ok ⟨m.requestHeader dump ((m.datagram P.host dump).length - 20),
        .innerMessage ⟨⟨m.cmd.toU8, 1⟩, m', m.familyId⟩⟩ := by
  obtain ⟨hread, hsize, hframed⟩ := @framed_datagram _ _ dump hlen tail
  have hdrop : (m.datagram P.host dump).length - 20 = (m.wire P.host).length := by
    rw [IpvsServiceCtrl.length_datagram]
    omega
  have hbody : (m.datagram P.host dump).drop 16 = m.cmd.toU8 :: 1 :: 0 :: 0 :: m.wire P.host := by
    rw [IpvsServiceCtrl.datagram, List.drop_left' (NetlinkHeader.length_bytes _ _)]
  rw [hP.deserialize_eq _ _ hframed]
  dsimp only
  rw [hread, hsize, List.take_left' rfl, hbody, hdrop,
    hP.parsePayload_family _ (m.requestHeader dump _) _ _ _ _ _ _ hfamily hparse]
  rfl

/-- On a little-endian host, a serialized message whose family number is not one of netlink's
own is read back with its header, its command and its groups as they are received, whatever
follows in the buffer. Its family number is not read back. -/
theorem deserialize_serialize {P : Packets} (hP : P.Documented) (hhost : P.host = .little)
    {m : IpvsServiceCtrl} {dump : Bool} (hfamily : m.familyId ∉ controlTypes) {out : Bytes}
    (hout : m.serialize P dump = .ok out) (tail : Bytes) :
    P.deserialize (IpvsServiceCtrl.parseWithParam P.toCrates) (out ++ tail) =
      .ok (m.delivered (m.requestHeader dump (out.length - 20))) := by
  obtain ⟨h, rfl⟩ := (serialize_eq_ok hP).1 hout
  exact deserialize_datagram hP h.total hfamily
    (m.parseWithParam_wire hP.toDocumented hhost h.sendable (h.fits hP.toDocumented) rfl) tail

/-- A firewall mark is read back with its bytes reversed, and three more bytes are left
alone. -/
theorem deserialize_serialize_fwmark : ∃ out,
    IpvsServiceCtrl.serialize (Packets.reference .little)
      { cmd := .getDest, nlas := [.service [.fwmark 1]], familyId := 30 } false = .ok out ∧
    (Packets.reference .little).deserialize
      (IpvsServiceCtrl.parseWithParam (Crates.reference .little)) (out ++ [1, 2, 3]) =
        .ok ⟨⟨32, 30, 5, 0, 0⟩, .innerMessage ⟨⟨8, 1⟩,
          ⟨.getDest, [.service [.fwmark 0x01000000]], 999⟩, 30⟩⟩ :=
  ⟨_, rfl, @deserialize_serialize _ (Packets.reference_documented .little) rfl
    { cmd := .getDest, nlas := [.service [.fwmark 1]], familyId := 30 } false (by decide) _ rfl
    [1, 2, 3]⟩

end NetlinkIpvs

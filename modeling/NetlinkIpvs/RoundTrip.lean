import NetlinkIpvs.AnyOrder
import NetlinkIpvs.Sending

/-!
# Round trips

On a little-endian host, what is received is not always what was sent. `received` says
what becomes of each attribute : a service loses the byte order of its firewall mark and
of its timeout, and the family of its netmask, and a destination the byte order of its
port. Every other attribute is received as it was sent (`SvcCtrlAttrs.parse_payload`,
`DestinationCtrlAttrs.parse_payload`).

Messages are framed without loss (`framing`). A service is received as it was sent iff
its firewall mark and its timeout read the same in both byte orders
(`service_round_trip_iff`), a destination iff its port does
(`destination_round_trip_iff`).
-/

open Rust Rust.Outcome
open Tlv.Format (readAll)

namespace NetlinkIpvs

/-! ## Attributes -/

namespace SvcCtrlAttrs

/-- What a little-endian host receives for an attribute. -/
def received : SvcCtrlAttrs → SvcCtrlAttrs
  | .fwmark f => .fwmark f.swapBytes
  | .timeout t => .timeout t.swapBytes
  | .netmask nm => .netmask (.withoutAf nm.ones)
  | a => a

theorem ctorIdx_received (a : SvcCtrlAttrs) : a.received.ctorIdx = a.ctorIdx := by
  cases a <;> rfl

theorem fromStr_asString (s : Scheduler) : Scheduler.fromStr s.asString = .ok s := by
  cases s <;> rfl

/-- The name of a scheduler, with its terminator, is read back. -/
theorem fromUtf8_name (s : Scheduler) :
    (fromUtf8 (strBytes s.asString ++ [0])).map trimEndNul = some s.asString := by
  cases s <;> decide

variable {K : Crates} (hK : K.Documented) (hhost : K.host = .little)

include hK hhost

/-- The payload of an attribute that can be sent is read as what is received. -/
theorem parse_payload {a : SvcCtrlAttrs} (h : a.Sendable) :
    parse K ⟨a.kind, a.payload⟩ = .ok a.received := by
  cases a with
  | addressFamily af =>
    have hval : K.parseU16 (ByteOrder.little.encode 2 af.toU16.toNat) = .ok af.toU16 := by
      rw [hK.parseU16_eq _ (by simp), hhost, ByteOrder.ofNat_decode_encode16]
    simp only [parse, kind, payload, hval, ofExcept_ok, ok_bind]
    cases af <;> rfl
  | protocol p =>
    have hval : K.parseU16 (ByteOrder.little.encode 2 p.toU16.toNat) = .ok p.toU16 := by
      rw [hK.parseU16_eq _ (by simp), hhost, ByteOrder.ofNat_decode_encode16]
    simp only [parse, kind, payload, hval, ofExcept_ok, ok_bind]
    cases p <;> rfl
  | addrBytes b => rfl
  | port p =>
    have hlen : (ByteOrder.big.encode 2 p.toNat).length = 2 := by simp
    have hval : UInt16.fromBe K.host (UInt16.ofNat
        (ByteOrder.little.decode ((ByteOrder.big.encode 2 p.toNat).take 2))) = p := by
      rw [List.take_of_length_le hlen.le, hhost, UInt16.fromBe_little_decode hlen,
        ByteOrder.ofNat_decode_encode16]
    simp only [parse, kind, payload, hK.readU16_eq _ _ hlen.ge, lift_ok, ok_bind, hval, pure_eq,
      received]
  | flags f =>
    have hval : UInt32.ofNat (ByteOrder.little.decode
        ((ByteOrder.little.encode 4 f.val.toNat ++ List.replicate 4 0xff).take 4)) = f.val := by
      rw [List.take_left' (by simp), ByteOrder.ofNat_decode_encode32]
    simp only [parse, kind, payload]
    rw [hK.readU32_eq _ _ (by simp), lift_ok, ok_bind, hval]
    rfl
  | fwmark f =>
    simp only [parse, kind, payload]
    rw [hK.readU32_eq _ _ (by simp), lift_ok, ok_bind, List.take_of_length_le (by simp)]
    rfl
  | scheduler s =>
    obtain ⟨name, hname, htrim⟩ := Option.map_eq_some_iff.1 (fromUtf8_name s)
    simp only [parse, kind, payload, hname, htrim, okOr_some, ok_bind, fromStr_asString, lift_ok,
      pure_eq, received]
  | timeout t =>
    simp only [parse, kind, payload]
    rw [hK.readU32_eq _ _ (by simp), lift_ok, ok_bind, List.take_of_length_le (by simp)]
    rfl
  | netmask nm =>
    obtain ⟨f, hf⟩ := Option.isSome_iff_exists.1 h
    have hones := Netmask.ones_le hf
    have hle : nm.ones.toNat ≤ 128 := by cases f <;> simp [AddressFamily.size] at hones ⊢ <;> omega
    simp only [parse, kind, payload_netmask hf, Netmask.sum_countOnes_octets _ _ hones, if_pos hle,
      UInt8.ofNat_toNat, pure_eq, received]
  | stats => exact h.elim
  | stats64 st => exact h.elim

/-- The same, with the kind a reader sees. -/
theorem parse_frame {a : SvcCtrlAttrs} (h : a.Sendable) :
    parse K ⟨K.format.strip (nla K a).rawKind, a.payload⟩ = .ok a.received := by
  rw [rawKind_nla, strip_kind]
  exact parse_payload hK hhost h

end SvcCtrlAttrs

namespace DestinationCtrlAttrs

/-- What a little-endian host receives for an attribute. -/
def received : DestinationCtrlAttrs → DestinationCtrlAttrs
  | .port p => .port p.swapBytes
  | a => a

theorem ctorIdx_received (a : DestinationCtrlAttrs) : a.received.ctorIdx = a.ctorIdx := by
  cases a <;> rfl

variable {K : Crates} (hK : K.Documented)

include hK

theorem parseU16_encode (v : UInt16) : K.parseU16 (K.host.encode 2 v.toNat) = .ok v := by
  rw [hK.parseU16_eq _ (by simp), ByteOrder.ofNat_decode_encode16]

theorem parseU32_encode (v : UInt32) : K.parseU32 (K.host.encode 4 v.toNat) = .ok v := by
  rw [hK.parseU32_eq _ (by simp), ByteOrder.ofNat_decode_encode32]

/-- The payload of an attribute that can be sent is read as what is received. -/
theorem parse_payload (hhost : K.host = .little) {a : DestinationCtrlAttrs} (h : a.Sendable) :
    parse K ⟨a.kind, a.payload K.host⟩ = .ok a.received := by
  cases a with
  | addr a => rfl
  | port p =>
    simp only [parse, kind, payload, hhost]
    rw [hK.readU16_eq _ _ (by simp), lift_ok, ok_bind, List.take_of_length_le (by simp)]
    rfl
  | fwdMethod method =>
    obtain rfl : method = .masquerade := h
    have hval := parseU32_encode hK 0
    simp only [UInt32.toNat_zero] at hval
    simp only [parse, kind, payload, hval, ofExcept_ok, ok_bind]
    rfl
  | addrFamily f =>
    simp only [parse, kind, payload, parseU16_encode hK, ofExcept_ok, ok_bind]
    cases f <;> rfl
  | tunType t => cases t; rfl
  | stats => exact h.elim
  | stats64 st => exact h.elim
  | _ =>
    simp only [parse, kind, payload, parseU16_encode hK, parseU32_encode hK, ofExcept_ok, ok_bind,
      pure_eq, received]

/-- The same, with the kind a reader sees. -/
theorem parse_frame (hhost : K.host = .little) {a : DestinationCtrlAttrs} (h : a.Sendable) :
    parse K ⟨K.format.strip (nla K a).rawKind, a.payload K.host⟩ = .ok a.received := by
  rw [rawKind_nla, strip_kind]
  exact parse_payload hK hhost h

end DestinationCtrlAttrs

/-! ## Attributes alone -/

namespace SvcCtrlAttrs

variable {K : Crates} (hK : K.Documented)

include hK

/-- An attribute whose emission alone completes can be sent and fits : an address too long
for the length field is handed too short a part of the buffer. -/
theorem sendable_of_emits {a : SvcCtrlAttrs} (h : K.Emits (nla K a)) :
    a.Sendable ∧ (nla K a).Fits := by
  obtain ⟨buf, out, hbuf, hout⟩ := h
  have hf : (nla K a).Fits := by
    intro len hlen
    by_contra hge
    have hlong : K.format.limit ≤ K.format.header + len := Nat.le_of_not_lt hge
    obtain ⟨part, v, hpart, hv⟩ := hK.nlaEmit_long _ len buf out hlen hlong hout
    by_cases hb : ∃ b, a = .addrBytes b
    · obtain ⟨b, rfl⟩ := hb
      obtain rfl : b.bytes.length = len := Except.ok.inj hlen
      have hshort : ¬(0 ≤ b.bytes.length ∧ b.bytes.length ≤ part.length) := by omega
      have hpanic : emitValue K (.addrBytes b) part = .error .outOfBounds := if_neg hshort
      exact absurd (hpanic.symm.trans hv) (by simp)
    · have hle := valueLen_le (fun b h => (hb ⟨b, h⟩).elim) (show a.valueLen = .ok len from hlen)
      omega
  exact ⟨(completes_iff hK).1 (Crates.completes_of_nlaEmit hK hf hbuf rfl hout), hf⟩

end SvcCtrlAttrs

namespace DestinationCtrlAttrs

variable {K : Crates} (hK : K.Documented)

include hK

/-- An attribute whose emission alone completes can be sent and fits. -/
theorem sendable_of_emits {a : DestinationCtrlAttrs} (h : K.Emits (nla K a)) :
    a.Sendable ∧ (nla K a).Fits := by
  obtain ⟨buf, out, hbuf, hout⟩ := h
  have hf : (nla K a).Fits := by
    intro len hlen
    have hle := valueLen_le hlen
    omega
  exact ⟨(completes_iff hK).1 (Crates.completes_of_nlaEmit hK hf hbuf rfl hout), hf⟩

end DestinationCtrlAttrs

/-! ## Groups and messages -/

namespace IpvsCtrlAttrs

/-- What a little-endian host receives for a group. -/
def received : IpvsCtrlAttrs → IpvsCtrlAttrs
  | .service l => .service (l.map SvcCtrlAttrs.received)
  | .destination l => .destination (l.map DestinationCtrlAttrs.received)

/-- Each attribute of the second group is what a reader makes of the attribute of the first
at its place, emitted alone. -/
def Redecoded (K : Crates) : IpvsCtrlAttrs → IpvsCtrlAttrs → Prop
  | .service l, .service l' =>
    List.Forall₂ (fun a d => K.alone (SvcCtrlAttrs.nla K a) (SvcCtrlAttrs.parse K) = .ok d) l l'
  | .destination l, .destination l' =>
    List.Forall₂ (fun a d =>
      K.alone (DestinationCtrlAttrs.nla K a) (DestinationCtrlAttrs.parse K) = .ok d) l l'
  | _, _ => False

variable {K : Crates} (hK : K.Documented) (hhost : K.host = .little)

include hK hhost

/-- The payload of a group that can be sent is read as what is received. -/
theorem parse_payload {g : IpvsCtrlAttrs} (h : g.Sendable) (hf : (nla K g).Fits) :
    parse K ⟨g.kind, g.payload K.host⟩ = .ok g.received := by
  have hl := fits_nlas hK h hf
  cases g with
  | service l =>
    have hparse := fun a ha => SvcCtrlAttrs.parse_frame hK hhost (h a ha)
    have hread := Crates.readAll_writes hK (fun a ha => SvcCtrlAttrs.writes hK (h a ha))
      (fun a ha => hl _ (List.mem_map_of_mem ha)) hparse
    simp only [parse, kind, payload_service, hread, ok_bind, pure_eq, received]
  | destination l =>
    have hparse := fun a ha => DestinationCtrlAttrs.parse_frame hK hhost (h a ha)
    have hread := Crates.readAll_writes hK (fun a ha => DestinationCtrlAttrs.writes hK (h a ha))
      (fun a ha => hl _ (List.mem_map_of_mem ha)) hparse
    simp only [parse, kind, payload_destination, hread, ok_bind, pure_eq, received]

/-- The same, with the kind a reader sees. -/
theorem parse_frame {g : IpvsCtrlAttrs} (h : g.Sendable) (hf : (nla K g).Fits) :
    parse K ⟨K.format.strip (nla K g).rawKind, g.payload K.host⟩ = .ok g.received := by
  rw [rawKind_nla, strip_kind]
  exact parse_payload hK hhost h hf

/-- What is received for a group is what a reader makes of each of its attributes alone. -/
theorem redecoded_received {g : IpvsCtrlAttrs} (h : g.Sendable) (hf : (nla K g).Fits) :
    Redecoded K g g.received := by
  have hl := fits_nlas hK h hf
  cases g with
  | service l =>
    refine List.forall₂_map_right_iff.2 (List.forall₂_same.2 fun a ha => ?_)
    rw [Crates.alone_writes hK (SvcCtrlAttrs.writes hK (h a ha))
      (hl _ (List.mem_map_of_mem ha))]
    exact SvcCtrlAttrs.parse_frame hK hhost (h a ha)
  | destination l =>
    refine List.forall₂_map_right_iff.2 (List.forall₂_same.2 fun a ha => ?_)
    rw [Crates.alone_writes hK (DestinationCtrlAttrs.writes hK (h a ha))
      (hl _ (List.mem_map_of_mem ha))]
    exact DestinationCtrlAttrs.parse_frame hK hhost (h a ha)

omit hhost in
/-- A group each of whose attributes is emitted alone can be sent. -/
theorem sendable_of_emits {g : IpvsCtrlAttrs} (h : ∀ n ∈ nlas K g, K.Emits n) : g.Sendable := by
  cases g with
  | service l =>
    exact fun a ha => (SvcCtrlAttrs.sendable_of_emits hK (h _ (List.mem_map_of_mem ha))).1
  | destination l =>
    exact fun a ha => (DestinationCtrlAttrs.sendable_of_emits hK (h _ (List.mem_map_of_mem ha))).1

end IpvsCtrlAttrs

/-- The encoding of a message is read as the groups that are received. -/
theorem IpvsServiceCtrl.parseWithParam_wire {K : Crates} (hK : K.Documented)
    (hhost : K.host = .little) {m : IpvsServiceCtrl} {header : GenlHeader}
    (hm : ∀ g ∈ m.nlas, g.Sendable) (hfit : ∀ g ∈ m.nlas, (IpvsCtrlAttrs.nla K g).Fits)
    (hcmd : header.cmd = m.cmd.toU8) :
    IpvsServiceCtrl.parseWithParam K (m.wire K.host) header =
      .ok { cmd := m.cmd, nlas := m.nlas.map IpvsCtrlAttrs.received, familyId := 999 } := by
  have hparse := fun g hg => IpvsCtrlAttrs.parse_frame hK hhost (hm g hg) (hfit g hg)
  have hread := Crates.readAll_writes hK
    (fun g hg => IpvsCtrlAttrs.writes hK (hm g hg) (hfit g hg)) hfit hparse
  rw [parseWithParam, hcmd, IpvsCtrlCmd.tryFrom_toU8, ok_bind, parseCtrlnlas, m.wire_eq, hread]
  rfl

/-- An attribute that is emitted alone is read back as the same variant, from any buffer.
A message of such attributes is emitted, and read back with each of them replaced by what
it is read back as alone, and nothing else changed. -/
theorem framing {K : Crates} (hK : K.Documented) (hhost : K.host = .little) :
    (∀ (a : SvcCtrlAttrs) (buf out : Bytes),
      K.nlaBufferLen (SvcCtrlAttrs.nla K a) = .ok buf.length →
      K.nlaEmit (SvcCtrlAttrs.nla K a) buf = .ok out →
        ∃ d, K.resend (SvcCtrlAttrs.nla K a) (SvcCtrlAttrs.parse K) buf = .ok d ∧
          K.alone (SvcCtrlAttrs.nla K a) (SvcCtrlAttrs.parse K) = .ok d ∧
          d.ctorIdx = a.ctorIdx) ∧
    (∀ (a : DestinationCtrlAttrs) (buf out : Bytes),
      K.nlaBufferLen (DestinationCtrlAttrs.nla K a) = .ok buf.length →
      K.nlaEmit (DestinationCtrlAttrs.nla K a) buf = .ok out →
        ∃ d, K.resend (DestinationCtrlAttrs.nla K a) (DestinationCtrlAttrs.parse K) buf = .ok d ∧
          K.alone (DestinationCtrlAttrs.nla K a) (DestinationCtrlAttrs.parse K) = .ok d ∧
          d.ctorIdx = a.ctorIdx) ∧
    ∀ (m : IpvsServiceCtrl) (header : GenlHeader),
      (∀ g ∈ m.nlas, ∀ n ∈ IpvsCtrlAttrs.nlas K g, K.Emits n) →
      (∀ g ∈ m.nlas, (IpvsCtrlAttrs.nla K g).Fits) → header.cmd = m.cmd.toU8 →
        ∃ len, m.bufferLen K = .ok len ∧ ∀ buf : Bytes, buf.length = len →
          ∃ out nlas, m.emit K buf = .ok out ∧
            IpvsServiceCtrl.parseWithParam K out header =
              .ok { cmd := m.cmd, nlas, familyId := 999 } ∧
            List.Forall₂ (IpvsCtrlAttrs.Redecoded K) m.nlas nlas := by
  refine ⟨?_, ?_, ?_⟩
  · intro a buf out hbuf hout
    obtain ⟨ha, hf⟩ := SvcCtrlAttrs.sendable_of_emits hK ⟨buf, out, hbuf, hout⟩
    have hw := SvcCtrlAttrs.writes hK ha
    have hparse := SvcCtrlAttrs.parse_frame hK hhost ha
    rw [Crates.resend_writes hK hw hf hbuf, Crates.alone_writes hK hw hf]
    exact ⟨a.received, hparse, hparse, a.ctorIdx_received⟩
  · intro a buf out hbuf hout
    obtain ⟨ha, hf⟩ := DestinationCtrlAttrs.sendable_of_emits hK ⟨buf, out, hbuf, hout⟩
    have hw := DestinationCtrlAttrs.writes hK ha
    have hparse := DestinationCtrlAttrs.parse_frame hK hhost ha
    rw [Crates.resend_writes hK hw hf hbuf, Crates.alone_writes hK hw hf]
    exact ⟨a.received, hparse, hparse, a.ctorIdx_received⟩
  · intro m header hemits hfit hcmd
    have hm : ∀ g ∈ m.nlas, g.Sendable := fun g hg =>
      IpvsCtrlAttrs.sendable_of_emits hK (hemits g hg)
    refine ⟨_, m.bufferLen_eq hK hm hfit, fun buf hbuf => ?_⟩
    refine ⟨_, _, m.emit_eq hK hm hfit hbuf, m.parseWithParam_wire hK hhost hm hfit hcmd, ?_⟩
    refine List.forall₂_map_right_iff.2 (List.forall₂_same.2 fun g hg => ?_)
    exact IpvsCtrlAttrs.redecoded_received hK hhost (hm g hg) (hfit g hg)

/-- Two groups, one of them with an address of three bytes. -/
theorem framing_two_groups :
    let m : IpvsServiceCtrl :=
      { cmd := .setDest, nlas := [.service [.fwmark 1, .addrBytes ⟨[1, 2, 3]⟩], .destination
        [.port 80]], familyId := 0 }
    ∃ len, m.bufferLen (Crates.reference .little) = .ok len ∧ ∀ buf : Bytes, buf.length = len →
      ∃ out nlas, m.emit (Crates.reference .little) buf = .ok out ∧
        IpvsServiceCtrl.parseWithParam (Crates.reference .little) out ⟨6, 1⟩ =
          .ok { cmd := .setDest, nlas, familyId := 999 } ∧
        List.Forall₂ (IpvsCtrlAttrs.Redecoded (Crates.reference .little)) m.nlas nlas := by
  intro m
  refine (framing (Crates.reference_documented .little) rfl).2.2 m ⟨6, 1⟩ ?_ ?_ rfl
  · intro g hg n hn
    rcases List.mem_pair.1 hg with rfl | rfl
    · rcases List.mem_pair.1 hn with rfl | rfl
      · exact ⟨List.replicate 8 0, _, rfl, rfl⟩
      · exact ⟨List.replicate 8 0, _, rfl, rfl⟩
    · obtain rfl := List.mem_singleton.1 hn
      exact ⟨List.replicate 8 0, _, rfl, rfl⟩
  · intro g hg len hlen
    rcases List.mem_pair.1 hg with rfl | rfl
    · obtain rfl : 16 = len := Except.ok.inj hlen
      decide
    · obtain rfl : 8 = len := Except.ok.inj hlen
      decide

/-! ## Services -/

namespace Service

/-- What a little-endian host receives for a service, before the netmask is completed. -/
def received (s : Service) : Service :=
  { s with
    netmask := .withoutAf s.netmask.ones
    fwMark := s.fwMark.map UInt32.swapBytes
    persistenceTimeout := NonZeroU32.new (NonZeroU32.orZero s.persistenceTimeout).swapBytes }

theorem map_received (s : Service) :
    s.createNlas.map SvcCtrlAttrs.received = s.received.createNlas := by
  simp only [createNlas_eq, received]
  cases s.port <;> cases s.fwMark <;> simp [SvcCtrlAttrs.received]

/-- What is received is what was sent iff the two swapped fields read the same in both byte
orders. -/
theorem received_eq_iff (s : Service) : { s.received with netmask := s.netmask } = s ↔
    (∀ m, s.fwMark = some m → m.swapBytes = m) ∧
      ∀ t : NonZeroU32, s.persistenceTimeout = some t → t.1.swapBytes = t := by
  obtain ⟨address, netmask, scheduler, flags, port, fwMark, timeout, family, protocol⟩ := s
  have hmark : fwMark.map UInt32.swapBytes = fwMark ↔ ∀ m, fwMark = some m → m.swapBytes = m := by
    cases fwMark <;> simp
  have htimeout : NonZeroU32.new (NonZeroU32.orZero timeout).swapBytes = timeout ↔
      ∀ t : NonZeroU32, timeout = some t → t.1.swapBytes = t := by
    cases timeout with
    | none => simp only [reduceCtorEq, false_implies, implies_true, iff_true]; rfl
    | some t => simp only [NonZeroU32.new_eq_some, Option.some.injEq, forall_eq']; rfl
  rw [← hmark, ← htimeout, received, Service.mk.injEq]
  simp only [true_and, and_true]

end Service

/-- A service with a netmask made by `Netmask::new` for its family is emitted in a group.
With its statistics, what is read back is the service iff its firewall mark and its timeout
read the same in both byte orders. -/
theorem service_round_trip_iff {K : Crates} (hK : K.Documented) (hhost : K.host = .little)
    {s : Service} {n : UInt8} (haddr : s.address.family = s.family)
    (hn : Netmask.new n s.family = .ok s.netmask) (st : Stats64) :
    ∃ len, K.nlaBufferLen (IpvsCtrlAttrs.nla K (.service s.createNlas)) = .ok len ∧
      ∀ buf : Bytes, buf.length = len →
        ((∃ nlas, K.resend (IpvsCtrlAttrs.nla K (.service s.createNlas)) (IpvsCtrlAttrs.parse K)
            buf = .ok (.service nlas) ∧
            Service.fromNlas (nlas ++ [.stats64 st]) = .ok ⟨s, st⟩) ↔
          (∀ m, s.fwMark = some m → m.swapBytes = m) ∧
            ∀ t : NonZeroU32, s.persistenceTimeout = some t → t.1.swapBytes = t) := by
  have hnm := (Netmask.new_eq_ok.1 hn).2
  have hs : (IpvsCtrlAttrs.service s.createNlas).Sendable := Service.sendable_createNlas hnm
  have hfit := s.fits_group hK
  have hw := IpvsCtrlAttrs.writes hK hs hfit
  have hlen := Crates.nlaBufferLen_writes hK hw
  refine ⟨_, hlen, fun buf hbuf => ?_⟩
  have hresend : K.resend (IpvsCtrlAttrs.nla K (.service s.createNlas)) (IpvsCtrlAttrs.parse K)
      buf = .ok (.service s.received.createNlas) := by
    rw [Crates.resend_writes hK hw hfit (by rw [hbuf, hlen]),
      IpvsCtrlAttrs.parse_frame hK hhost hs hfit, IpvsCtrlAttrs.received, Service.map_received]
  have hfrom : Service.fromNlas (s.received.createNlas ++ [.stats64 st]) =
      .ok ⟨{ s.received with netmask := s.netmask }, st⟩ :=
    Service.fromNlas_perm (s := s.received) (k := 0) haddr (Netmask.new_ones hnm) (List.Perm.refl _)
  rw [← s.received_eq_iff]
  constructor
  · rintro ⟨nlas, h, hnlas⟩
    rw [hresend] at h
    cases h
    rw [hfrom] at hnlas
    exact congrArg ServiceExtended.service (Outcome.ok.inj hnlas)
  · intro h
    refine ⟨_, hresend, ?_⟩
    rw [hfrom, h]

/-- A service without a firewall mark and a timeout is read back as it was sent. -/
theorem service_round_trip_web : ∃ nlas,
    (Crates.reference .little).resend
        (IpvsCtrlAttrs.nla (Crates.reference .little) (.service Service.web.createNlas))
        (IpvsCtrlAttrs.parse (Crates.reference .little)) (List.replicate 84 0) =
      .ok (.service nlas) ∧
    Service.fromNlas (nlas ++ [.stats64 { connections := 3 }]) =
      .ok ⟨.web, { connections := 3 }⟩ := by
  obtain ⟨len, hlen, h⟩ := service_round_trip_iff (Crates.reference_documented .little) rfl
    (s := .web) (n := 24) rfl rfl { connections := 3 }
  obtain rfl : 84 = len := Except.ok.inj hlen
  refine (h _ List.length_replicate).2 ⟨?_, ?_⟩
  · intro m hm
    cases hm
  · intro t ht
    cases ht

/-- The firewall mark 1 is read back as `0x01000000`. -/
theorem not_service_round_trip_fwmark :
    let s : Service := { Service.web with fwMark := some 1 }
    s.address.family = s.family ∧ Netmask.new 24 s.family = .ok s.netmask ∧
    (Crates.reference .little).nlaBufferLen
      (IpvsCtrlAttrs.nla (Crates.reference .little) (.service s.createNlas)) = .ok 92 ∧
    ¬∃ nlas, (Crates.reference .little).resend
        (IpvsCtrlAttrs.nla (Crates.reference .little) (.service s.createNlas))
        (IpvsCtrlAttrs.parse (Crates.reference .little)) (List.replicate 92 0) =
      .ok (.service nlas) ∧ Service.fromNlas (nlas ++ [.stats64 {}]) = .ok ⟨s, {}⟩ := by
  intro s
  refine ⟨rfl, rfl, by decide +kernel, ?_⟩
  rintro ⟨nlas, hread, hfrom⟩
  have hreceived : (Crates.reference .little).resend
      (IpvsCtrlAttrs.nla (Crates.reference .little) (.service s.createNlas))
      (IpvsCtrlAttrs.parse (Crates.reference .little)) (List.replicate 92 0) =
        .ok (.service [.addressFamily .IPv4, .protocol .TCP,
          .addrBytes ⟨[10, 0, 0, 1, 0, 0, 0, 0, 0, 0, 0, 0, 0, 0, 0, 0]⟩, .port 80,
          .fwmark 0x01000000, .scheduler .weightedLeastConnection, .flags ⟨2⟩, .timeout 0,
          .netmask (.withoutAf 24)]) := by
    decide +kernel
  rw [hreceived] at hread
  cases hread
  exact absurd hfrom (by decide +kernel)

/-! ## Destinations -/

namespace Destination

/-- What a little-endian host receives for a destination. -/
def received (d : Destination) : Destination :=
  { d with port := d.port.swapBytes }

theorem map_received (d : Destination) :
    d.createNlas.map DestinationCtrlAttrs.received = d.received.createNlas := by
  unfold createNlas received
  cases d.fwdMethod <;> rfl

/-- What is received is what was sent iff the port reads the same in both byte orders. -/
theorem received_eq_iff (d : Destination) : d.received = d ↔ d.port.swapBytes = d.port := by
  obtain ⟨address, fwdMethod, weight, upper, lower, port, family⟩ := d
  rw [received, Destination.mk.injEq]
  simp only [true_and, and_true]

end Destination

/-- If a destination is emitted in a group, what is read back, with counters and
statistics, is the destination iff its port reads the same in both byte orders. -/
theorem destination_round_trip_iff {K : Crates} (hK : K.Documented) (hhost : K.host = .little)
    {d : Destination} (haddr : d.address.family = d.family)
    (hemits : K.Emits (IpvsCtrlAttrs.nla K (.destination d.createNlas)))
    (a i p : UInt32) (st : Stats64) {extra : List DestinationCtrlAttrs}
    (hextra : extra.Perm [.activeConns a, .inactiveConns i, .persistConns p, .stats64 st])
    {buf : Bytes}
    (hbuf : K.nlaBufferLen (IpvsCtrlAttrs.nla K (.destination d.createNlas)) = .ok buf.length) :
    (∃ nlas, K.resend (IpvsCtrlAttrs.nla K (.destination d.createNlas)) (IpvsCtrlAttrs.parse K)
        buf = .ok (.destination nlas) ∧
      DestinationExtended.fromNlas (nlas ++ extra) = .ok
        { destination := d, activeConnections := a, inactiveConnections := i,
          persistentConnections := p, stats64 := st }) ↔
      d.port.swapBytes = d.port := by
  have hfit := d.fits_group hK
  obtain ⟨buf', out, hbuf', hout⟩ := hemits
  have hd : (IpvsCtrlAttrs.destination d.createNlas).Sendable :=
    IpvsCtrlAttrs.sendable_of_completes hK hfit
      (Crates.completes_of_nlaEmit hK hfit hbuf' rfl hout)
  have hw := IpvsCtrlAttrs.writes hK hd hfit
  have hresend : K.resend (IpvsCtrlAttrs.nla K (.destination d.createNlas))
      (IpvsCtrlAttrs.parse K) buf = .ok (.destination d.received.createNlas) := by
    rw [Crates.resend_writes hK hw hfit hbuf, IpvsCtrlAttrs.parse_frame hK hhost hd hfit,
      IpvsCtrlAttrs.received, Destination.map_received]
  have hfrom : DestinationExtended.fromNlas (d.received.createNlas ++ extra) = .ok
      { destination := d.received, activeConnections := a, inactiveConnections := i,
        persistentConnections := p, stats64 := st } :=
    DestinationExtended.fromNlas_perm (k := 0) haddr (hextra.append_left _)
  rw [← d.received_eq_iff]
  constructor
  · rintro ⟨nlas, h, hnlas⟩
    rw [hresend] at h
    cases h
    rw [hfrom] at hnlas
    exact congrArg DestinationExtended.destination (Outcome.ok.inj hnlas)
  · intro h
    refine ⟨_, hresend, ?_⟩
    rw [hfrom, h]

/-- A destination on port `0x2020` is read back as it was sent. -/
theorem destination_round_trip_web : ∃ nlas,
    (Crates.reference .little).resend
        (IpvsCtrlAttrs.nla (Crates.reference .little)
          (.destination (Destination.web .masquerade 0x2020).createNlas))
        (IpvsCtrlAttrs.parse (Crates.reference .little)) (List.replicate 72 0) =
      .ok (.destination nlas) ∧
    DestinationExtended.fromNlas
        (nlas ++ [.activeConns 1, .inactiveConns 2, .persistConns 3, .stats64 {}]) =
      .ok { destination := .web .masquerade 0x2020, activeConnections := 1,
            inactiveConnections := 2, persistentConnections := 3, stats64 := {} } :=
  (destination_round_trip_iff (Crates.reference_documented .little) rfl
    (d := .web .masquerade 0x2020) rfl ⟨List.replicate 72 0, _, rfl, rfl⟩ 1 2 3 {}
    (List.Perm.refl _) rfl).2 rfl

/-- Port 8080 is read back as 36895. -/
theorem not_destination_round_trip_8080 :
    let d : Destination := .web .masquerade 8080
    d.address.family = d.family ∧
    (Crates.reference .little).Emits
      (IpvsCtrlAttrs.nla (Crates.reference .little) (.destination d.createNlas)) ∧
    (Crates.reference .little).nlaBufferLen
      (IpvsCtrlAttrs.nla (Crates.reference .little) (.destination d.createNlas)) = .ok 72 ∧
    ¬∃ nlas, (Crates.reference .little).resend
        (IpvsCtrlAttrs.nla (Crates.reference .little) (.destination d.createNlas))
        (IpvsCtrlAttrs.parse (Crates.reference .little)) (List.replicate 72 0) =
      .ok (.destination nlas) ∧
    DestinationExtended.fromNlas
        (nlas ++ [.activeConns 1, .inactiveConns 2, .persistConns 3, .stats64 {}]) =
      .ok { destination := d, activeConnections := 1, inactiveConnections := 2,
            persistentConnections := 3, stats64 := {} } := by
  intro d
  refine ⟨rfl, ⟨List.replicate 72 0, _, rfl, rfl⟩, rfl, ?_⟩
  rintro ⟨nlas, hread, hfrom⟩
  have hreceived : (Crates.reference .little).resend
      (IpvsCtrlAttrs.nla (Crates.reference .little) (.destination d.createNlas))
      (IpvsCtrlAttrs.parse (Crates.reference .little)) (List.replicate 72 0) =
        .ok (.destination [.addrFamily .IPv4,
          .addr ⟨[10, 0, 0, 2, 0, 0, 0, 0, 0, 0, 0, 0, 0, 0, 0, 0]⟩, .port 36895,
          .fwdMethod .masquerade, .weight 1, .upperThreshold 0, .lowerThreshold 5]) := by
    decide +kernel
  rw [hreceived] at hread
  cases hread
  exact absurd hfrom (by decide +kernel)

end NetlinkIpvs

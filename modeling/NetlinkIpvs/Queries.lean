import Mathlib.Algebra.Order.BigOperators.Group.List
import NetlinkIpvs.Echo
import NetlinkIpvs.Listing

/-!
# Queries for destinations

The program asks for the destinations of a service with the attributes it received for the
service, those that identify it. Such a query can always be sent
(`serialize_destinationQuery`). On a little-endian host it names the service as it was received
iff no port or firewall mark of it is changed on the way (`query_names_service_iff`).
-/

open Rust Rust.Outcome

namespace NetlinkIpvs

namespace SvcCtrlAttrs

theorem echoes_of_identifies {a : SvcCtrlAttrs} (h : a.identifies = true) : a.Echoes := by
  cases a <;> first | exact trivial | cases h

theorem identifies_iff (a : SvcCtrlAttrs) : a.identifies = decide (a.kind ≤ 5) := by
  cases a <;> rfl

theorem kind_of_parse {K : Crates} {f : NlaBuffer} {a : SvcCtrlAttrs} (h : parse K f = .ok a) :
    a.kind = f.kind := by
  obtain ⟨kind, value⟩ := f
  unfold parse at h
  dsimp only at h
  split at h
  -- the attribute is known once the reads before it are
  all_goals iterate 2 try obtain ⟨_, -, h⟩ := bind_eq_ok.1 h
  all_goals try split at h
  all_goals first | (cases h; rfl) | cases h

end SvcCtrlAttrs

/-- The frames that identify a service, each with a value for it. -/
def identifyingFrames (val : NlaBuffer → Bytes) (fs : List NlaBuffer) : List (ℕ × Bytes) :=
  (fs.filter fun f => f.kind ≤ 5).map fun f => (f.kind, val f)

theorem length_echo_le (host : ByteOrder) {f : NlaBuffer} (h : f.kind ≤ 5) :
    (SvcCtrlAttrs.echo host f).length ≤ f.value.length := by
  unfold SvcCtrlAttrs.echo
  split <;> simp_all

/-- The frames that identify a service are no longer than the group they come from, padding
aside, if their values are not. -/
theorem length_identifyingFrames {K : Crates} {value : Bytes} {fs : List NlaBuffer}
    (hc : K.format.Covers value fs) (val : NlaBuffer → Bytes)
    (hval : ∀ f : NlaBuffer, f.kind ≤ 5 → (val f).length ≤ f.value.length) :
    (K.format.encode (identifyingFrames val fs)).length < value.length + 4 := by
  let size (f : NlaBuffer) : ℕ := K.format.header + K.format.align f.value.length
  have hkept : (K.format.encode (identifyingFrames val fs)).length ≤
      ((fs.filter fun f => f.kind ≤ 5).map size).sum := by
    rw [Tlv.Format.length_encode, identifyingFrames, List.map_map]
    refine List.sum_le_sum fun f hf => Nat.add_le_add_left (K.format.align_mono ?_) _
    exact hval f (by simpa using (List.mem_filter.1 hf).2)
  have hall : ((fs.filter fun f => f.kind ≤ 5).map size).sum ≤ (fs.map size).sum :=
    List.Sublist.sum_le_sum (List.filter_sublist.map _) (by simp)
  exact lt_of_le_of_lt (hkept.trans hall) hc.sum_lt

section Query

variable {K : Crates} (hK : K.Documented) {f : NlaBuffer} {serviceAttrs : List SvcCtrlAttrs}
  {fs : List NlaBuffer} (hl : List.Forall₂ (SvcCtrlAttrs.DecodedFrom K) fs serviceAttrs)

include hK hl

/-- The query for a service that was decoded from a group holds the echo of the frames that
identify the service. -/
theorem payload_destinationQuery :
    (IpvsCtrlAttrs.service (serviceAttrs.filter SvcCtrlAttrs.identifies)).payload K.host =
      K.format.encode (identifyingFrames (SvcCtrlAttrs.echo K.host) fs) := by
  refine congrArg K.format.encode ?_
  rw [identifyingFrames, IpvsCtrlAttrs.leaves, ← List.filterMap_eq_map, ← List.filterMap_eq_map,
    List.filterMap_filter, List.filterMap_filter]
  refine filterMap_forall₂ hl fun x a _ hx => ?_
  have hkind := SvcCtrlAttrs.kind_of_parse hx.1
  by_cases ha : a.identifies = true
  · have hle : x.kind ≤ 5 := by
      rwa [SvcCtrlAttrs.identifies_iff, decide_eq_true_iff, hkind] at ha
    obtain ⟨-, hpayload⟩ := SvcCtrlAttrs.payload_of_parse hK hx.1
      (SvcCtrlAttrs.echoes_of_identifies ha)
    rw [if_pos ha, if_pos (decide_eq_true hle), Function.comp, hkind, hpayload]
    rfl
  · have hgt : ¬x.kind ≤ 5 := by
      rwa [SvcCtrlAttrs.identifies_iff, decide_eq_true_iff, hkind] at ha
    rw [if_neg ha, if_neg (by simpa using hgt)]

omit hK hl in
theorem sendable_destinationQuery (familyId : UInt16) (serviceAttrs : List SvcCtrlAttrs) :
    ∀ g ∈ (destinationQuery familyId serviceAttrs).nlas, g.Sendable := by
  intro g hg
  obtain rfl := List.mem_singleton.1 hg
  refine IpvsCtrlAttrs.Echoes.sendable fun a ha => ?_
  exact SvcCtrlAttrs.echoes_of_identifies (List.mem_filter.1 ha).2

/-- The query for a service fits if the group of the service leaves a little room. -/
theorem fits_destinationQuery (hc : K.format.Covers f.value fs) (hlen : f.value.length + 7 < 2 ^ 16)
    (familyId : UInt16) :
    ∀ g ∈ (destinationQuery familyId serviceAttrs).nlas, (IpvsCtrlAttrs.nla K g).Fits := by
  intro g hg len h
  have hsend := sendable_destinationQuery familyId serviceAttrs g hg
  obtain rfl := List.mem_singleton.1 hg
  obtain rfl := Except.ok.inj ((IpvsCtrlAttrs.valueLen_eq hK hsend).symm.trans h)
  rw [payload_destinationQuery hK hl]
  have := length_identifyingFrames hc _ fun _ => length_echo_le K.host
  omega

end Query

/-- The query for the destinations of a service that was decoded from a group is always
serialized. It holds the frames of the group with a kind up to 5, each with its echo. -/
theorem serialize_destinationQuery {P : Packets} (hP : P.Documented) {f : NlaBuffer}
    {serviceAttrs : List SvcCtrlAttrs}
    (h : IpvsCtrlAttrs.parse P.toCrates f = .ok (.service serviceAttrs))
    (hlen : f.value.length + 7 < 2 ^ 16) (familyId : UInt16) (dump : Bool) :
    (destinationQuery familyId serviceAttrs).serialize P dump =
        .ok ((destinationQuery familyId serviceAttrs).datagram P.host dump) ∧
      (destinationQuery familyId serviceAttrs).wire P.host =
        P.format.frame (IPVS_CMD_ATTR_SERVICE ||| NLA_F_NESTED) (P.format.encode
          (identifyingFrames (SvcCtrlAttrs.echo P.host) (P.format.frames f.value))) := by
  obtain ⟨-, -, fs, hc, hl⟩ := IpvsCtrlAttrs.decodedFrom_of_parse hP.toDocumented h
  obtain rfl : P.format.frames f.value = fs := hc.walk.2
  have hpayload := payload_destinationQuery hP.toDocumented hl
  have hwire : (destinationQuery familyId serviceAttrs).wire P.host =
      P.format.frame (IPVS_CMD_ATTR_SERVICE ||| NLA_F_NESTED) (P.format.encode
        (identifyingFrames (SvcCtrlAttrs.echo P.host) (P.format.frames f.value))) := by
    rw [← hpayload]
    exact List.append_nil _
  have hsend := sendable_destinationQuery familyId serviceAttrs
  have hfit := fits_destinationQuery hP.toDocumented hl hc hlen familyId
  exact ⟨(serialize_eq_ok hP).2 ⟨IpvsServiceCtrl.encodable_of_length hP.toDocumented hsend hfit
    (by simp [destinationQuery]), rfl⟩, hwire⟩

/-! ## Which service a query names -/

/-- The bytes of the frame read alike from both ends, if it is a firewall mark, and are those
of its number alone, if it is a port or a firewall mark. -/
def Plain (f : NlaBuffer) : Prop :=
  (f.kind = IPVS_SVC_ATTR_PORT → f.value.length = 2) ∧
    (f.kind = IPVS_SVC_ATTR_FWMARK → f.value.length = 4 ∧ f.value.reverse = f.value)

/-- A little-endian host sends back a decoded frame that identifies a service as it was iff
it is plain. -/
theorem echo_eq_value_iff {K : Crates} (hK : K.Documented) {f : NlaBuffer} {a : SvcCtrlAttrs}
    (h : SvcCtrlAttrs.parse K f = .ok a) (hkind : f.kind ≤ 5) :
    SvcCtrlAttrs.echo .little f = f.value ↔ Plain f := by
  obtain ⟨kind, value⟩ := f
  unfold Plain SvcCtrlAttrs.echo
  dsimp only at hkind ⊢
  split
  · simp
  · simp
  · obtain ⟨n, hn, -⟩ := bind_eq_ok.1 h
    have hle : 2 ≤ value.length := ((Crates.readU16_eq_ok hK).1 (lift_eq_ok.1 hn)).1
    rw [ByteOrder.recode_self, List.take_eq_self_iff]
    exact ⟨fun hlen => ⟨fun _ => Nat.le_antisymm hlen hle, fun hk => absurd hk (by decide)⟩,
      fun hp => (hp.1 rfl).le⟩
  · obtain ⟨n, hn, -⟩ := bind_eq_ok.1 h
    have hle : 4 ≤ value.length := ((Crates.readU32_eq_ok hK).1 (lift_eq_ok.1 hn)).1
    constructor
    · intro he
      have hlen : value.length = 4 := by
        have := congrArg List.length he
        rw [ByteOrder.length_recode, List.length_take] at this
        omega
      rw [List.take_of_length_le hlen.le] at he
      exact ⟨fun hk => absurd hk (by decide), fun _ => ⟨hlen, he⟩⟩
    · intro hp
      obtain ⟨hlen, he⟩ := hp.2 rfl
      rw [List.take_of_length_le hlen.le]
      exact he
  · exact absurd hkind (by decide)
  · exact absurd hkind (by decide)
  · next h4 h5 _ _ => exact iff_of_true rfl ⟨fun hk => (h4 hk).elim, fun hk => (h5 hk).elim⟩

/-- Different values for the frames that identify a service are encoded differently. -/
theorem encode_identifyingFrames_inj {K : Crates} {fs : List NlaBuffer} {v w : NlaBuffer → Bytes}
    (hv : ∀ f ∈ fs, f.kind ≤ 5 → 4 + (v f).length < 2 ^ 16)
    (hw : ∀ f ∈ fs, f.kind ≤ 5 → 4 + (w f).length < 2 ^ 16) :
    K.format.encode (identifyingFrames v fs) = K.format.encode (identifyingFrames w fs) ↔
      ∀ f ∈ fs, f.kind ≤ 5 → v f = w f := by
  have hmem : ∀ {f}, f ∈ fs.filter (fun f => f.kind ≤ 5) ↔ f ∈ fs ∧ f.kind ≤ 5 := by simp
  have hlt : ∀ {u : NlaBuffer → Bytes}, (∀ f ∈ fs, f.kind ≤ 5 → 4 + (u f).length < 2 ^ 16) →
      ∀ x ∈ identifyingFrames u fs, K.format.header + x.2.length < K.format.limit := by
    intro u hu x hx
    obtain ⟨f, hf, rfl⟩ := List.mem_map.1 hx
    exact hu f (hmem.1 hf).1 (hmem.1 hf).2
  constructor
  · intro h f hf hk
    have hmap := Tlv.Format.encode_inj_of_strip (hlt hv) (hlt hw) h
    rw [identifyingFrames, identifyingFrames, List.map_map, List.map_map, List.map_inj_left] at hmap
    exact congrArg Tlv.Frame.value (hmap f (hmem.2 ⟨hf, hk⟩))
  · intro h
    refine congrArg K.format.encode (List.map_congr_left fun f hf => ?_)
    rw [h f (hmem.1 hf).1 (hmem.1 hf).2]

/-- The query for the destinations of a service is serialized. On a little-endian host it names
the service with the bytes that were received iff each port and each firewall mark is plain. -/
theorem query_names_service_iff {P : Packets} (hP : P.Documented) {f : NlaBuffer}
    {serviceAttrs : List SvcCtrlAttrs}
    (h : IpvsCtrlAttrs.parse P.toCrates f = .ok (.service serviceAttrs))
    (hlen : f.value.length + 7 < 2 ^ 16) (familyId : UInt16) (dump : Bool) :
    (destinationQuery familyId serviceAttrs).serialize P dump =
        .ok ((destinationQuery familyId serviceAttrs).datagram P.host dump) ∧
    (P.host = .little → ((∃ headers : Bytes, headers.length = 20 ∧
      (destinationQuery familyId serviceAttrs).serialize P dump = .ok (headers ++
        P.format.frame (IPVS_CMD_ATTR_SERVICE ||| NLA_F_NESTED) (P.format.encode
          (identifyingFrames Tlv.Frame.value (P.format.frames f.value))))) ↔
      ∀ x ∈ P.format.frames f.value, x.kind ≤ 5 → Plain x)) := by
  obtain ⟨hser, hwire⟩ := serialize_destinationQuery hP h hlen familyId dump
  refine ⟨hser, fun hhost => ?_⟩
  obtain ⟨-, -, fs, hc, hl⟩ := IpvsCtrlAttrs.decodedFrom_of_parse hP.toDocumented h
  obtain rfl : P.format.frames f.value = fs := hc.walk.2
  have hvalue : ∀ x ∈ P.format.frames f.value, x.kind ≤ 5 → 4 + x.value.length < 2 ^ 16 := by
    intro x hx _
    have : 4 + x.value.length ≤ f.value.length := hc.length_le x hx
    omega
  have hinj := encode_identifyingFrames_inj (K := P.toCrates) (v := SvcCtrlAttrs.echo P.host)
    (fun x hx hk => lt_of_le_of_lt (Nat.add_le_add_left (length_echo_le P.host hk) 4)
      (hvalue x hx hk)) hvalue
  have hplain : (∀ x ∈ P.format.frames f.value, x.kind ≤ 5 →
      SvcCtrlAttrs.echo P.host x = x.value) ↔
      ∀ x ∈ P.format.frames f.value, x.kind ≤ 5 → Plain x := by
    refine forall_congr' fun x => forall_congr' fun hx => forall_congr' fun hk => ?_
    obtain ⟨a, ha, -⟩ := exists_forall₂.1 ⟨_, hl⟩ x hx
    rw [hhost]
    exact echo_eq_value_iff hP.toDocumented ha hk
  rw [← hplain, ← hinj]
  have hecho := length_identifyingFrames hc _ fun _ => length_echo_le P.host
  have hverbatim := length_identifyingFrames hc Tlv.Frame.value fun _ _ => le_rfl
  have h4 : P.format.header = 4 := rfl
  have hlimit : P.format.limit = 2 ^ 16 := rfl
  have hframe := Tlv.Format.frame_inj (F := P.format) (r := IPVS_CMD_ATTR_SERVICE ||| NLA_F_NESTED)
    (v := P.format.encode (identifyingFrames (SvcCtrlAttrs.echo P.host) (P.format.frames f.value)))
    (w := P.format.encode (identifyingFrames Tlv.Frame.value (P.format.frames f.value)))
    (by omega) (by omega)
  rw [← hframe, ← hwire, hser]
  have hdatagram : (destinationQuery familyId serviceAttrs).datagram P.host dump =
      ((destinationQuery familyId serviceAttrs).requestHeader dump
        ((destinationQuery familyId serviceAttrs).wire P.host).length).bytes P.host ++
          [IpvsCtrlCmd.getDest.toU8, 1, 0, 0] ++
            (destinationQuery familyId serviceAttrs).wire P.host :=
    (List.append_assoc _ [_, _, _, _] _).symm
  rw [hdatagram]
  constructor
  · rintro ⟨headers, hlength, he⟩
    exact (List.append_inj (Except.ok.inj he) (by simp [hlength])).2
  · intro he
    refine ⟨_, ?_, congrArg (fun w => Except.ok (_ ++ w)) he⟩
    simp

/-- The query for the service with firewall mark 1 is serialized, and does not name it. -/
theorem query_names_service_fwmark :
    (∃ out, (destinationQuery 30 [.addressFamily .IPv4, .fwmark 1]).serialize
      (Packets.reference .little) true = .ok out) ∧
    ¬∃ headers : Bytes, headers.length = 20 ∧
      (destinationQuery 30 [.addressFamily .IPv4, .fwmark 1]).serialize
        (Packets.reference .little) true = .ok (headers ++
          [20, 0, 1, 0x80, 6, 0, 1, 0, 2, 0, 0, 0, 8, 0, 5, 0, 0, 0, 0, 1]) := by
  have hparse : IpvsCtrlAttrs.parse (Crates.reference .little)
      ⟨1, [6, 0, 1, 0, 2, 0, 0, 0, 8, 0, 5, 0, 0, 0, 0, 1]⟩ =
        .ok (.service [.addressFamily .IPv4, .fwmark 1]) := by
    decide +kernel
  obtain ⟨hser, hiff⟩ := query_names_service_iff (Packets.reference_documented .little) hparse
    (by decide) 30 true
  refine ⟨⟨_, hser⟩, (hiff rfl).not.2 fun h => ?_⟩
  have hplain := h ⟨5, [0, 0, 0, 1]⟩ (by decide +kernel) (by decide)
  exact absurd (hplain.2 rfl).2 (by decide)

end NetlinkIpvs

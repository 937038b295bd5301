import NetlinkIpvs.Resending
import NetlinkIpvs.Serialize

/-!
# Different messages, different bytes

On any host, a sendable attribute is determined by its kind and its payload
(`SvcCtrlAttrs.payload_inj`, `DestinationCtrlAttrs.payload_inj`), and so is a message by its
encoding (`IpvsServiceCtrl.wire_inj`) and by its datagram (`serialize_inj`). What a sender
means is never lost on the wire : where a receiver gets something else, it misreads it.
-/

open Rust Rust.Outcome

namespace ByteOrder

theorem encode_inj16 (e : ByteOrder) {v w : UInt16} (h : e.encode 2 v.toNat = e.encode 2 w.toNat) :
    v = w := by
  rw [← ofNat_decode_encode16 e v, h, ofNat_decode_encode16]

theorem encode_inj32 (e : ByteOrder) {v w : UInt32} (h : e.encode 4 v.toNat = e.encode 4 w.toNat) :
    v = w := by
  rw [← ofNat_decode_encode32 e v, h, ofNat_decode_encode32]

end ByteOrder

namespace NetlinkIpvs

/-! ## Attributes -/

theorem AddressFamily.toU16_inj {f f' : AddressFamily} (h : f.toU16 = f'.toU16) : f = f' := by
  cases f <;> cases f' <;> first | rfl | exact absurd h (by decide)

theorem Protocol.toU16_inj {p p' : Protocol} (h : p.toU16 = p'.toU16) : p = p' := by
  cases p <;> cases p' <;> first | rfl | exact absurd h (by decide)

theorem AddressFamily.size_inj {f f' : AddressFamily} (h : f.size = f'.size) : f = f' := by
  cases f <;> cases f' <;> first | rfl | exact absurd h (by decide)

/-- A netmask with a family is determined by its mask. -/
theorem Netmask.octets_inj {nm nm' : Netmask} {f f' : AddressFamily}
    (hf : nm.addressFamily = some f) (hf' : nm'.addressFamily = some f')
    (h : octets f.size nm.ones.toNat = octets f'.size nm'.ones.toNat) : nm = nm' := by
  have hsize := congrArg List.length h
  rw [length_octets, length_octets] at hsize
  have hsum := congrArg (fun bs : Bytes => (bs.map UInt8.countOnes).sum) h
  rw [sum_countOnes_octets _ _ (ones_le hf), sum_countOnes_octets _ _ (ones_le hf')] at hsum
  refine Netmask.ext' (UInt8.toNat_inj.1 hsum) ?_
  rw [hf, hf', AddressFamily.size_inj hsize]

/-- A scheduler is determined by its name. -/
theorem Scheduler.name_inj {s s' : Scheduler}
    (h : strBytes s.asString ++ [0] = strBytes s'.asString ++ [0]) : s = s' := by
  have hname : s.asString = s'.asString := by
    rw [← Option.some_inj, ← SvcCtrlAttrs.fromUtf8_name, h, SvcCtrlAttrs.fromUtf8_name]
  have hs := SvcCtrlAttrs.fromStr_asString s
  rw [hname, SvcCtrlAttrs.fromStr_asString] at hs
  exact (Except.ok.inj hs).symm

/-- A sendable service attribute is determined by its kind and its payload. -/
theorem SvcCtrlAttrs.payload_inj {a b : SvcCtrlAttrs} (ha : a.Sendable) (hb : b.Sendable)
    (hk : a.kind = b.kind) (hv : a.payload = b.payload) : a = b := by
  cases a <;> cases b <;> try (cases hk; done)
  case addressFamily f f' =>
    exact congrArg _ (AddressFamily.toU16_inj (ByteOrder.encode_inj16 .little hv))
  case protocol p p' => exact congrArg _ (Protocol.toU16_inj (ByteOrder.encode_inj16 .little hv))
  case addrBytes b b' =>
    obtain ⟨bs⟩ := b
    exact congrArg (fun bs => addrBytes ⟨bs⟩) hv
  case port p p' => exact congrArg _ (ByteOrder.encode_inj16 .big hv)
  case flags f f' =>
    obtain ⟨v⟩ := f
    obtain ⟨v'⟩ := f'
    exact congrArg (fun v => flags ⟨v⟩)
      (ByteOrder.encode_inj32 .little (List.append_inj hv (by simp)).1)
  case fwmark f f' => exact congrArg _ (ByteOrder.encode_inj32 .little hv)
  case scheduler s s' => exact congrArg _ (Scheduler.name_inj hv)
  case timeout t t' => exact congrArg _ (ByteOrder.encode_inj32 .little hv)
  case netmask nm nm' =>
    obtain ⟨f, hf⟩ := Option.isSome_iff_exists.1 ha
    obtain ⟨f', hf'⟩ := Option.isSome_iff_exists.1 hb
    rw [payload_netmask hf, payload_netmask hf'] at hv
    exact congrArg _ (Netmask.octets_inj hf hf' hv)
  case stats => rfl
  case stats64 => exact ha.elim

/-- A sendable destination attribute is determined by its kind and its payload. -/
theorem DestinationCtrlAttrs.payload_inj (host : ByteOrder) {a b : DestinationCtrlAttrs}
    (ha : a.Sendable) (hb : b.Sendable) (hk : a.kind = b.kind)
    (hv : a.payload host = b.payload host) : a = b := by
  cases a <;> cases b <;> try (cases hk; done)
  case addr a a' =>
    obtain ⟨bs⟩ := a
    exact congrArg (fun bs => addr ⟨bs⟩) hv
  case port p p' => exact congrArg _ (host.encode_inj16 hv)
  case fwdMethod m m' => exact congrArg _ (Eq.trans ha (Eq.symm hb))
  case weight w w' => exact congrArg _ (host.encode_inj32 hv)
  case upperThreshold t t' => exact congrArg _ (host.encode_inj32 hv)
  case lowerThreshold t t' => exact congrArg _ (host.encode_inj32 hv)
  case activeConns c c' => exact congrArg _ (host.encode_inj32 hv)
  case inactiveConns c c' => exact congrArg _ (host.encode_inj32 hv)
  case persistConns c c' => exact congrArg _ (host.encode_inj32 hv)
  case addrFamily f f' => exact congrArg _ (AddressFamily.toU16_inj (host.encode_inj16 hv))
  case stats64 => exact ha.elim
  case stats => rfl
  case tunType t t' =>
    cases t
    cases t'
    rfl
  case tunPort p p' => exact congrArg _ (host.encode_inj16 hv)
  case tunFlags f f' =>
    obtain ⟨v⟩ := f
    obtain ⟨v'⟩ := f'
    exact congrArg (fun v => tunFlags ⟨v⟩) (host.encode_inj16 hv)

/-! ## Groups and messages -/

/-- Lists that are mapped alike are the same, if their members are. -/
theorem eq_of_map_eq {α β : Type*} {p : α → Prop} {f : α → β}
    (hf : ∀ a b, p a → p b → f a = f b → a = b) :
    ∀ {l m : List α}, (∀ a ∈ l, p a) → (∀ b ∈ m, p b) → l.map f = m.map f → l = m
  | [], [], _, _, _ => rfl
  | a :: l, b :: m, hl, hm, h => by
    obtain ⟨ha, hl⟩ := List.forall_mem_cons.1 hl
    obtain ⟨hb, hm⟩ := List.forall_mem_cons.1 hm
    obtain ⟨hab, h⟩ := List.cons.inj h
    rw [hf a b ha hb hab, eq_of_map_eq hf hl hm h]

/-- Lists of attributes that fit are encoded differently, if a reader tells the attributes
apart. -/
theorem Crates.encode_inj {K : Crates} {ι : Type} {nla : ι → Nla} {value : ι → Bytes} {p : ι → Prop}
    (hwrites : ∀ a, p a → (nla a).Writes (value a) ∧ (nla a).Fits)
    (hinj : ∀ a b, p a → p b → K.format.strip (nla a).rawKind = K.format.strip (nla b).rawKind →
      value a = value b → a = b)
    {l m : List ι} (hl : ∀ a ∈ l, p a) (hm : ∀ a ∈ m, p a)
    (h : K.format.encode (l.map fun a => ((nla a).rawKind, value a)) =
      K.format.encode (m.map fun a => ((nla a).rawKind, value a))) : l = m := by
  have hlt : ∀ {l : List ι}, (∀ a ∈ l, p a) → ∀ x ∈ l.map fun a => ((nla a).rawKind, value a),
      K.format.header + x.2.length < K.format.limit := by
    intro l hl x hx
    obtain ⟨a, ha, rfl⟩ := List.mem_map.1 hx
    obtain ⟨hw, hf⟩ := hwrites a (hl a ha)
    exact hw.lt_limit hf
  have hframes := Tlv.Format.encode_inj_of_strip (hlt hl) (hlt hm) h
  rw [List.map_map, List.map_map] at hframes
  refine eq_of_map_eq (fun a b ha hb hab => ?_) hl hm hframes
  obtain ⟨hkind, hvalue⟩ := Tlv.Frame.mk.inj hab
  exact hinj a b ha hb hkind hvalue

variable {K : Crates} (hK : K.Documented)

include hK

/-- A group that can be sent and fits is determined by its kind and its payload. -/
theorem IpvsCtrlAttrs.payload_inj {g g' : IpvsCtrlAttrs} (hg : g.Sendable ∧ (nla K g).Fits)
    (hg' : g'.Sendable ∧ (nla K g').Fits) (hk : g.kind = g'.kind)
    (hv : g.payload K.host = g'.payload K.host) : g = g' := by
  have hl := fits_nlas hK hg.1 hg.2
  have hl' := fits_nlas hK hg'.1 hg'.2
  cases g with
  | service l =>
    cases g' with
    | destination l' => cases hk
    | service l' =>
      rw [payload_service, payload_service] at hv
      refine congrArg _ (Crates.encode_inj (p := fun a => a.Sendable ∧ (SvcCtrlAttrs.nla K a).Fits)
        (fun a ha => ⟨SvcCtrlAttrs.writes hK ha.1, ha.2⟩) (fun a b ha hb hkind hvalue => ?_)
        (fun a ha => ⟨hg.1 a ha, hl _ (List.mem_map_of_mem ha)⟩)
        (fun a ha => ⟨hg'.1 a ha, hl' _ (List.mem_map_of_mem ha)⟩) hv)
      rw [SvcCtrlAttrs.rawKind_nla, SvcCtrlAttrs.rawKind_nla, SvcCtrlAttrs.strip_kind,
        SvcCtrlAttrs.strip_kind] at hkind
      exact SvcCtrlAttrs.payload_inj ha.1 hb.1 hkind hvalue
  | destination l =>
    cases g' with
    | service l' => cases hk
    | destination l' =>
      rw [payload_destination, payload_destination] at hv
      refine congrArg _ (Crates.encode_inj
        (p := fun a => a.Sendable ∧ (DestinationCtrlAttrs.nla K a).Fits)
        (fun a ha => ⟨DestinationCtrlAttrs.writes hK ha.1, ha.2⟩)
        (fun a b ha hb hkind hvalue => ?_)
        (fun a ha => ⟨hg.1 a ha, hl _ (List.mem_map_of_mem ha)⟩)
        (fun a ha => ⟨hg'.1 a ha, hl' _ (List.mem_map_of_mem ha)⟩) hv)
      rw [DestinationCtrlAttrs.rawKind_nla, DestinationCtrlAttrs.rawKind_nla,
        DestinationCtrlAttrs.strip_kind, DestinationCtrlAttrs.strip_kind] at hkind
      exact DestinationCtrlAttrs.payload_inj K.host ha.1 hb.1 hkind hvalue

/-- The groups of a message that can be sent are determined by its encoding. -/
theorem IpvsServiceCtrl.wire_inj {m m' : IpvsServiceCtrl}
    (hm : ∀ g ∈ m.nlas, g.Sendable ∧ (IpvsCtrlAttrs.nla K g).Fits)
    (hm' : ∀ g ∈ m'.nlas, g.Sendable ∧ (IpvsCtrlAttrs.nla K g).Fits)
    (h : m.wire K.host = m'.wire K.host) : m.nlas = m'.nlas := by
  rw [m.wire_eq, m'.wire_eq] at h
  refine Crates.encode_inj (p := fun g => g.Sendable ∧ (IpvsCtrlAttrs.nla K g).Fits)
    (fun g hg => ⟨IpvsCtrlAttrs.writes hK hg.1 hg.2, hg.2⟩) (fun g g' hg hg' hkind hvalue => ?_)
    hm hm' h
  rw [IpvsCtrlAttrs.rawKind_nla, IpvsCtrlAttrs.rawKind_nla, IpvsCtrlAttrs.strip_kind,
    IpvsCtrlAttrs.strip_kind] at hkind
  exact IpvsCtrlAttrs.payload_inj hK hg hg' hkind hvalue

omit hK

theorem IpvsCtrlCmd.toU8_inj {cmd cmd' : IpvsCtrlCmd} (h : cmd.toU8 = cmd'.toU8) : cmd = cmd' := by
  have := tryFrom_toU8 cmd
  rw [h, tryFrom_toU8] at this
  exact (Outcome.ok.inj this).symm

theorem IpvsServiceCtrl.requestFlags_inj {dump dump' : Bool}
    (h : requestFlags dump = requestFlags dump') : dump = dump' := by
  cases dump <;> cases dump' <;> first | rfl | exact absurd h (by decide)

/-- No two messages, or requests about one message, are serialized as the same bytes. -/
theorem serialize_inj {P : Packets} (hP : P.Documented) {m m' : IpvsServiceCtrl} {dump dump' : Bool}
    {out : Bytes} (h : m.serialize P dump = .ok out) (h' : m'.serialize P dump' = .ok out) :
    m = m' ∧ dump = dump' := by
  obtain ⟨hm, rfl⟩ := (serialize_eq_ok hP).1 h
  obtain ⟨hm', hout⟩ := (serialize_eq_ok hP).1 h'
  obtain ⟨hheaders, hbody⟩ := List.append_inj hout (by simp)
  obtain ⟨hcmd, -, -, -, hwire⟩ : m.cmd.toU8 = m'.cmd.toU8 ∧ (1 : UInt8) = 1 ∧ (0 : UInt8) = 0 ∧
      (0 : UInt8) = 0 ∧ m.wire P.host = m'.wire P.host := by
    simpa using hbody
  have hheader := congrArg (NetlinkHeader.read P.host) (congrArg (· ++ ([] : Bytes)) hheaders)
  rw [NetlinkHeader.read_bytes, NetlinkHeader.read_bytes] at hheader
  have hnlas := IpvsServiceCtrl.wire_inj hP.toDocumented
    (fun g hg => ⟨hm.sendable g hg, hm.fits hP.toDocumented g hg⟩)
    (fun g hg => ⟨hm'.sendable g hg, hm'.fits hP.toDocumented g hg⟩) hwire
  refine ⟨?_, IpvsServiceCtrl.requestFlags_inj (congrArg NetlinkHeader.flags hheader)⟩
  obtain ⟨cmd, nlas, familyId⟩ := m
  obtain ⟨cmd', nlas', familyId'⟩ := m'
  obtain rfl := IpvsCtrlCmd.toU8_inj hcmd
  obtain rfl : nlas = nlas' := hnlas
  obtain rfl : familyId = familyId' := congrArg NetlinkHeader.messageType hheader
  rfl

/-- The first attributes of a web service, and the same ones written out. -/
theorem serialize_inj_web :
    IpvsServiceCtrl.mk .getDest [.service (Service.web.createNlas.take 2)] 30 =
      ⟨.getDest, [.service [.addressFamily .IPv4, .protocol .TCP]], 30⟩ ∧ true = !false := by
  have hout : IpvsServiceCtrl.serialize (Packets.reference .little)
      ⟨.getDest, [.service (Service.web.createNlas.take 2)], 30⟩ true =
        .ok [40, 0, 0, 0, 30, 0, 5, 3, 0, 0, 0, 0, 0, 0, 0, 0, 8, 1, 0, 0, 20, 0, 1, 0x80,
          6, 0, 1, 0, 2, 0, 0, 0, 6, 0, 2, 0, 6, 0, 0, 0] := by
    decide +kernel
  exact serialize_inj (Packets.reference_documented .little) hout hout

/-! ## Services and destinations -/

theorem Service.createNlas_inj {s s' : Service} (hs : s.Valid) (hs' : s'.Valid)
    (h : s.createNlas = s'.createNlas) : s = s' := by
  have hfrom := hs.fromNlas_createNlas {}
  rw [h, hs'.fromNlas_createNlas {}] at hfrom
  exact (congrArg ServiceExtended.service (Outcome.ok.inj hfrom)).symm

theorem Destination.createNlas_inj {d d' : Destination} (hd : d.Valid) (hd' : d'.Valid)
    (h : d.createNlas = d'.createNlas) : d = d' := by
  have hfrom := DestinationExtended.fromNlas_createNlas (y := ⟨d, 0, 0, 0, {}⟩) hd
  dsimp only at hfrom
  rw [h, DestinationExtended.fromNlas_createNlas (y := ⟨d', 0, 0, 0, {}⟩) hd'] at hfrom
  exact (congrArg DestinationExtended.destination (Outcome.ok.inj hfrom)).symm

/-- No two messages about a valid service and a valid destination are serialized as the same
bytes. -/
theorem serialize_create_inj {P : Packets} (hP : P.Documented) {cmd cmd' : IpvsCtrlCmd}
    {familyId familyId' : UInt16} {s s' : Service} {d d' : Destination} {dump dump' : Bool}
    (hs : s.Valid) (hs' : s'.Valid) (hd : d.Valid) (hd' : d'.Valid) {out : Bytes}
    (h : (IpvsServiceCtrl.create cmd familyId s d).serialize P dump = .ok out)
    (h' : (IpvsServiceCtrl.create cmd' familyId' s' d').serialize P dump' = .ok out) :
    cmd = cmd' ∧ familyId = familyId' ∧ s = s' ∧ d = d' ∧ dump = dump' := by
  obtain ⟨hm, rfl⟩ := serialize_inj hP h h'
  obtain ⟨rfl, hnlas, rfl⟩ := IpvsServiceCtrl.mk.inj hm
  simp only [List.cons.injEq, IpvsCtrlAttrs.service.injEq, IpvsCtrlAttrs.destination.injEq,
    and_true] at hnlas
  exact ⟨rfl, rfl, Service.createNlas_inj hs hs' hnlas.1, Destination.createNlas_inj hd hd' hnlas.2,
    rfl⟩

/-- A web service and a real server of it, each given in two ways. -/
theorem serialize_create_inj_web :
    IpvsCtrlCmd.newDest = .newDest ∧ (30 : UInt16) = 0x1e ∧
      Service.web = ⟨.V4 ⟨[10, 0, 0, 1], rfl⟩, ⟨24, some .IPv4, by decide⟩,
        .weightedLeastConnection, ⟨2⟩, some 80, none, none, .IPv4, .TCP⟩ ∧
      Destination.web .masquerade 8080 =
        { Destination.web .direct 8080 with fwdMethod := .masquerade } ∧ false = !true := by
  have hP := Packets.reference_documented .big
  have hfit := IpvsServiceCtrl.fits_create hP.toDocumented .newDest 30 .web (.web .masquerade 8080)
  have hsend : ∀ g ∈ (IpvsServiceCtrl.create .newDest 30 .web (.web .masquerade 8080)).nlas,
      g.Sendable := by
    intro g hg
    rcases List.mem_pair.1 hg with rfl | rfl
    · exact Service.sendable_createNlas rfl
    · exact Destination.sendable_createNlas_iff.2 rfl
  have hout := (@serialize_eq_ok _ hP _ false _).2
    ⟨IpvsServiceCtrl.encodable_of_length hP.toDocumented hsend hfit (by decide), rfl⟩
  exact serialize_create_inj hP ⟨rfl, rfl⟩ ⟨rfl, rfl⟩ rfl rfl hout hout

end NetlinkIpvs

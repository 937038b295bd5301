import NetlinkIpvs.Coverage
import NetlinkIpvs.Serialize

/-!
# What is sent back

An attribute that was decoded from a frame is sent back as a value that depends on the
bytes of the frame alone (`SvcCtrlAttrs.payload_of_parse`,
`DestinationCtrlAttrs.payload_of_parse`). A decoded message is serialized as the frames it
was read from, with these values (`serialize_decoded`).
-/

open Rust Rust.Outcome

namespace ByteOrder

/-- The bytes in one order of the number with these bytes in another. -/
def recode (e e' : ByteOrder) (bs : List UInt8) : List UInt8 :=
  if e = e' then bs else bs.reverse

@[simp] theorem recode_self (e : ByteOrder) (bs : List UInt8) : e.recode e bs = bs :=
  if_pos rfl

@[simp] theorem length_recode (e e' : ByteOrder) (bs : List UInt8) :
    (e.recode e' bs).length = bs.length := by
  unfold recode
  split_ifs <;> simp

/-- A number that is read in one order is written in another as its bytes, recoded. -/
theorem encode_decode_recode (e e' : ByteOrder) (bs : List UInt8) :
    e'.encode bs.length (e.decode bs) = e.recode e' bs := by
  cases e with
  | little =>
    cases e' with
    | little => exact encode_decode little bs
    | big => exact congrArg List.reverse (encode_decode little bs)
  | big =>
    cases e' with
    | little => exact List.reverse_eq_iff.1 (encode_decode big bs)
    | big => exact encode_decode big bs

theorem encode_decode16 (e e' : ByteOrder) {bs : List UInt8} (h : bs.length = 2) :
    e'.encode 2 (UInt16.ofNat (e.decode bs)).toNat = e.recode e' bs := by
  have hlt := decode_lt e bs
  rw [h] at hlt
  rw [UInt16.toNat_ofNat_of_lt' (by simpa using hlt), ← h, encode_decode_recode]

theorem encode_decode32 (e e' : ByteOrder) {bs : List UInt8} (h : bs.length = 4) :
    e'.encode 4 (UInt32.ofNat (e.decode bs)).toNat = e.recode e' bs := by
  have hlt := decode_lt e bs
  rw [h] at hlt
  rw [UInt32.toNat_ofNat_of_lt' (by simpa using hlt), ← h, encode_decode_recode]

end ByteOrder

namespace NetlinkIpvs

variable {K : Crates} (hK : K.Documented)

/-! ## Reads that return -/

namespace Crates

include hK

theorem parseU16_eq_ok {v : Bytes} {n : UInt16} :
    K.parseU16 v = .ok n ↔ v.length = 2 ∧ n = UInt16.ofNat (K.host.decode v) :=
  except_eq_ok_iff (hK.parseU16_eq v) (hK.parseU16_other v)

theorem parseU32_eq_ok {v : Bytes} {n : UInt32} :
    K.parseU32 v = .ok n ↔ v.length = 4 ∧ n = UInt32.ofNat (K.host.decode v) :=
  except_eq_ok_iff (hK.parseU32_eq v) (hK.parseU32_other v)

theorem readU16_eq_ok {e : ByteOrder} {v : Bytes} {n : UInt16} :
    K.readU16 e v = .ok n ↔ 2 ≤ v.length ∧ n = UInt16.ofNat (e.decode (v.take 2)) :=
  except_eq_ok_iff (hK.readU16_eq e v) fun h => hK.readU16_short e v (Nat.lt_of_not_le h)

theorem readU32_eq_ok {e : ByteOrder} {v : Bytes} {n : UInt32} :
    K.readU32 e v = .ok n ↔ 4 ≤ v.length ∧ n = UInt32.ofNat (e.decode (v.take 4)) :=
  except_eq_ok_iff (hK.readU32_eq e v) fun h => hK.readU32_short e v (Nat.lt_of_not_le h)

/-- What follows a number gets one that is written as the bytes it was read from, recoded. -/
theorem parseU16_bind_eq_ok {α : Type} {v : Bytes} {f : UInt16 → Outcome DecodeError α} {a : α}
    (h : (ofExcept (K.parseU16 v) >>= f) = .ok a) :
    ∃ n, f n = .ok a ∧ ∀ e : ByteOrder, e.encode 2 n.toNat = K.host.recode e v := by
  obtain ⟨n, hn, h⟩ := bind_eq_ok.1 h
  obtain ⟨hlen, rfl⟩ := (parseU16_eq_ok hK).1 (ofExcept_eq_ok.1 hn)
  exact ⟨_, h, fun e => ByteOrder.encode_decode16 K.host e hlen⟩

theorem parseU32_bind_eq_ok {α : Type} {v : Bytes} {f : UInt32 → Outcome DecodeError α} {a : α}
    (h : (ofExcept (K.parseU32 v) >>= f) = .ok a) :
    ∃ n, f n = .ok a ∧ ∀ e : ByteOrder, e.encode 4 n.toNat = K.host.recode e v := by
  obtain ⟨n, hn, h⟩ := bind_eq_ok.1 h
  obtain ⟨hlen, rfl⟩ := (parseU32_eq_ok hK).1 (ofExcept_eq_ok.1 hn)
  exact ⟨_, h, fun e => ByteOrder.encode_decode32 K.host e hlen⟩

theorem readU32_bind_eq_ok {α : Type} {e : ByteOrder} {v : Bytes}
    {f : UInt32 → Outcome DecodeError α} {a : α}
    (h : ((liftM (K.readU32 e v) : Outcome DecodeError UInt32) >>= f) = .ok a) :
    ∃ n, f n = .ok a ∧ ∀ e' : ByteOrder, e'.encode 4 n.toNat = e.recode e' (v.take 4) := by
  obtain ⟨n, hn, h⟩ := bind_eq_ok.1 h
  obtain ⟨hlen, rfl⟩ := (readU32_eq_ok hK).1 (lift_eq_ok.1 hn)
  exact ⟨_, h, fun e' => ByteOrder.encode_decode32 e e' (by simpa using hlen)⟩

end Crates

/-! ## Service attributes -/

namespace SvcCtrlAttrs

/-- The value a decoded service attribute is sent back with. -/
def echo (host : ByteOrder) (f : NlaBuffer) : Bytes :=
  match f.kind with
  | IPVS_SVC_ATTR_AF | IPVS_SVC_ATTR_PROTOCOL => host.recode .little f.value
  | IPVS_SVC_ATTR_PORT => host.recode .little (f.value.take 2)
  | IPVS_SVC_ATTR_FWMARK | IPVS_SVC_ATTR_TIMEOUT => ByteOrder.big.recode .little (f.value.take 4)
  | IPVS_SVC_ATTR_FLAGS => f.value.take 4 ++ List.replicate 4 0xff
  | _ => f.value

/-- The attributes that hold what was read : all but a netmask, which has lost its family,
a scheduler, whose name may be another name of it, and statistics. -/
def Echoes : SvcCtrlAttrs → Prop
  | .netmask _ | .scheduler _ | .stats | .stats64 _ => False
  | _ => True

/-- A port is read in network byte order on a little-endian host, and in little-endian order
on a big-endian one. -/
theorem big_encode_fromBe {v : Bytes} (h : v.length = 2) (host : ByteOrder) :
    ByteOrder.big.encode 2
      (UInt16.fromBe host (UInt16.ofNat (ByteOrder.little.decode v))).toNat =
        host.recode .little v := by
  cases host with
  | little =>
    rw [UInt16.fromBe_little_decode h, ByteOrder.encode_decode16 _ _ h]
    rfl
  | big => exact ByteOrder.encode_decode16 .little .big h

include hK

/-- A decoded attribute is sent back with the echo of its frame. -/
theorem payload_of_parse {f : NlaBuffer} {a : SvcCtrlAttrs} (h : parse K f = .ok a)
    (ha : a.Echoes) : a.kind = f.kind ∧ a.payload = echo K.host f := by
  obtain ⟨kind, value⟩ := f
  unfold parse at h
  dsimp only at h
  split at h
  case h_1 | h_3 =>
    obtain ⟨n, hn, henc⟩ := Crates.parseU16_bind_eq_ok hK h
    have hsent := henc .little
    split at hn <;> cases hn
    all_goals
      next hval =>
        rw [hval] at hsent
        exact ⟨rfl, hsent⟩
  case h_2 =>
    cases h
    exact ⟨rfl, rfl⟩
  case h_4 =>
    obtain ⟨n, hn, h⟩ := bind_eq_ok.1 h
    obtain ⟨hlen, rfl⟩ := (Crates.readU16_eq_ok hK).1 (lift_eq_ok.1 hn)
    cases h
    exact ⟨rfl, big_encode_fromBe (by simpa using hlen) K.host⟩
  case h_5 =>
    obtain ⟨n, hn, henc⟩ := Crates.readU32_bind_eq_ok hK h
    cases hn
    exact ⟨rfl, congrArg (· ++ _) (henc .little)⟩
  case h_6 | h_8 =>
    obtain ⟨n, hn, henc⟩ := Crates.readU32_bind_eq_ok hK h
    cases hn
    exact ⟨rfl, henc .little⟩
  case h_7 =>
    obtain ⟨name, -, h⟩ := bind_eq_ok.1 h
    obtain ⟨s, -, h⟩ := bind_eq_ok.1 h
    cases h
    exact ha.elim
  case h_9 =>
    split at h <;> cases h
    exact ha.elim
  case h_10 =>
    obtain ⟨st, -, h⟩ := bind_eq_ok.1 h
    cases h
    exact ha.elim
  case h_11 =>
    cases h
    exact ha.elim
  case h_12 => cases h

end SvcCtrlAttrs

/-! ## Destination attributes -/

namespace DestinationCtrlAttrs

/-- The value a decoded destination attribute is sent back with. -/
def echo (host : ByteOrder) (f : NlaBuffer) : Bytes :=
  match f.kind with
  | IPVS_DEST_ATTR_PORT => ByteOrder.big.recode host (f.value.take 2)
  | IPVS_DEST_ATTR_TUN_TYPE => f.value.take 1
  | _ => f.value

include hK

/-- An attribute with a parsed number is sent back as it was. -/
theorem payload_of_parseU16 {v : Bytes} {attr : UInt16 → DestinationCtrlAttrs}
    {a : DestinationCtrlAttrs} (h : (ofExcept (K.parseU16 v) >>= fun n => pure (attr n)) = .ok a)
    (hattr : ∀ n, (attr n).payload K.host = K.host.encode 2 n.toNat) :
    (∃ n, a = attr n) ∧ a.payload K.host = v := by
  obtain ⟨n, hn, henc⟩ := Crates.parseU16_bind_eq_ok hK h
  obtain rfl := Outcome.ok.inj hn
  exact ⟨⟨n, rfl⟩, by rw [hattr, henc, ByteOrder.recode_self]⟩

/-- An attribute with a parsed number is sent back as it was. -/
theorem payload_of_parseU32 {v : Bytes} {attr : UInt32 → DestinationCtrlAttrs}
    {a : DestinationCtrlAttrs} (h : (ofExcept (K.parseU32 v) >>= fun n => pure (attr n)) = .ok a)
    (hattr : ∀ n, (attr n).payload K.host = K.host.encode 4 n.toNat) :
    (∃ n, a = attr n) ∧ a.payload K.host = v := by
  obtain ⟨n, hn, henc⟩ := Crates.parseU32_bind_eq_ok hK h
  obtain rfl := Outcome.ok.inj hn
  exact ⟨⟨n, rfl⟩, by rw [hattr, henc, ByteOrder.recode_self]⟩

/-- A decoded attribute that can be sent is sent back with the echo of its frame. -/
theorem payload_of_parse {f : NlaBuffer} {a : DestinationCtrlAttrs} (h : parse K f = .ok a)
    (ha : a.Sendable) : a.kind = f.kind ∧ a.payload K.host = echo K.host f := by
  obtain ⟨kind, value⟩ := f
  unfold parse at h
  dsimp only at h
  split at h
  case h_1 =>
    cases h
    exact ⟨rfl, rfl⟩
  case h_2 =>
    obtain ⟨n, hn, h⟩ := bind_eq_ok.1 h
    obtain ⟨hlen, rfl⟩ := (Crates.readU16_eq_ok hK).1 (lift_eq_ok.1 hn)
    cases h
    exact ⟨rfl, ByteOrder.encode_decode16 .big K.host (by simpa using hlen)⟩
  case h_3 =>
    obtain ⟨n, hn, henc⟩ := Crates.parseU32_bind_eq_ok hK h
    obtain ⟨method, hmethod, h⟩ := bind_eq_ok.1 hn
    unfold ForwardType.tryFrom at hmethod
    split at hmethod <;> cases hmethod
    cases h
    next hval => exact ⟨rfl, (hval ▸ henc K.host).trans (ByteOrder.recode_self _ _)⟩
  case h_4 | h_5 | h_6 | h_7 | h_8 | h_9 =>
    obtain ⟨⟨n, rfl⟩, hpayload⟩ := payload_of_parseU32 hK h fun _ => rfl
    exact ⟨rfl, hpayload⟩
  case h_10 =>
    obtain ⟨st, -, h⟩ := bind_eq_ok.1 h
    cases h
    exact ha.elim
  case h_11 =>
    cases h
    exact ha.elim
  case h_12 =>
    obtain ⟨n, hn, henc⟩ := Crates.parseU16_bind_eq_ok hK h
    obtain ⟨family, hfamily, h⟩ := bind_eq_ok.1 hn
    unfold AddressFamily.tryFrom at hfamily
    split at hfamily <;> cases hfamily <;> cases h
    all_goals
      next hval => exact ⟨rfl, (hval ▸ henc K.host).trans (ByteOrder.recode_self _ _)⟩
  case h_13 =>
    obtain ⟨b, hb, h⟩ := bind_eq_ok.1 h
    obtain ⟨t, ht, h⟩ := bind_eq_ok.1 h
    cases h
    unfold TunnelType.tryFrom at ht
    split at ht <;> cases ht
    next hval =>
      cases value with
      | nil => cases hb
      | cons c rest =>
        obtain rfl : c = b := Except.ok.inj (lift_eq_ok.1 hb)
        obtain rfl : c = 0 := UInt8.toNat_inj.1 hval
        exact ⟨rfl, rfl⟩
  case h_14 | h_15 =>
    obtain ⟨⟨n, rfl⟩, hpayload⟩ := payload_of_parseU16 hK h fun _ => rfl
    exact ⟨rfl, hpayload⟩
  case h_16 => cases h

end DestinationCtrlAttrs

/-! ## Groups and messages -/

namespace IpvsCtrlAttrs

/-- A group whose attributes are all sent back with the echo of their frames. -/
def Echoes : IpvsCtrlAttrs → Prop
  | .service l => ∀ a ∈ l, a.Echoes
  | .destination l => ∀ a ∈ l, a.Sendable

/-- The value a decoded group is sent back with. -/
def echo (K : Crates) (f : NlaBuffer) : Bytes :=
  K.format.encode ((K.format.frames f.value).map fun x =>
    (x.kind, match f.kind with
      | IPVS_CMD_ATTR_SERVICE => SvcCtrlAttrs.echo K.host x
      | _ => DestinationCtrlAttrs.echo K.host x))

include hK

/-- A decoded group is sent back with the echo of its frame. -/
theorem payload_of_parse {f : NlaBuffer} {g : IpvsCtrlAttrs} (h : parse K f = .ok g)
    (hg : g.Echoes) : g.kind = f.kind ∧ g.payload K.host = echo K f := by
  have hd := decodedFrom_of_parse hK h
  obtain ⟨kind, value⟩ := f
  cases g with
  | service l =>
    obtain ⟨-, rfl, fs, hcov, hl⟩ := hd
    refine ⟨rfl, congrArg K.format.encode ?_⟩
    rw [hcov.walk.2]
    refine map_forall₂ hl fun x a ha hx => ?_
    obtain ⟨hkind, hpayload⟩ := SvcCtrlAttrs.payload_of_parse hK hx.1 (hg a ha)
    rw [hkind, hpayload]
    rfl
  | destination l =>
    obtain ⟨-, rfl, fs, hcov, hl⟩ := hd
    refine ⟨rfl, congrArg K.format.encode ?_⟩
    rw [hcov.walk.2]
    refine map_forall₂ hl fun x a ha hx => ?_
    obtain ⟨hkind, hpayload⟩ := DestinationCtrlAttrs.payload_of_parse hK hx.1 (hg a ha)
    rw [hkind, hpayload]
    rfl

omit hK in
theorem Echoes.sendable {g : IpvsCtrlAttrs} (h : g.Echoes) : g.Sendable := by
  cases g with
  | service l =>
    intro a ha
    have := h a ha
    cases a <;> first | exact trivial | exact this.elim
  | destination l => exact h

omit hK in
theorem DecodedFrom.parse_eq {f : NlaBuffer} {g : IpvsCtrlAttrs} (h : DecodedFrom K f g) :
    parse K f = .ok g := by
  cases g <;> exact h.1

end IpvsCtrlAttrs

/-- What a decoded buffer is sent back as : its frames, each with its echo. -/
def IpvsServiceCtrl.echo (K : Crates) (buf : Bytes) : Bytes :=
  K.format.encode ((K.format.frames buf).map fun f =>
    (f.kind ||| NLA_F_NESTED, IpvsCtrlAttrs.echo K f))

section Message

include hK

variable {buf : Bytes} {header : GenlHeader} {m : IpvsServiceCtrl}
  (h : IpvsServiceCtrl.parseWithParam K buf header = .ok m) (hm : ∀ g ∈ m.nlas, g.Echoes)

include h hm

/-- The payloads of a decoded message are the echoes of the frames it was read from. -/
theorem payloads_of_parseWithParam :
    m.nlas.map (IpvsCtrlAttrs.payload K.host) =
      (K.format.frames buf).map (IpvsCtrlAttrs.echo K) := by
  obtain ⟨-, hfs⟩ := IpvsServiceCtrl.decodedFrom_of_parse hK h
  exact map_forall₂ hfs fun f g hg hd => (IpvsCtrlAttrs.payload_of_parse hK hd.parse_eq (hm g hg)).2

theorem wire_of_parseWithParam : m.wire K.host = IpvsServiceCtrl.echo K buf := by
  obtain ⟨-, hfs⟩ := IpvsServiceCtrl.decodedFrom_of_parse hK h
  refine congrArg K.format.encode (map_forall₂ hfs fun f g hg hd => ?_)
  obtain ⟨hkind, hpayload⟩ := IpvsCtrlAttrs.payload_of_parse hK hd.parse_eq (hm g hg)
  rw [hkind, hpayload]

end Message

/-- The code of a command is the one it was read from. -/
theorem IpvsCtrlCmd.toU8_of_tryFrom {value : UInt8} {cmd : IpvsCtrlCmd}
    (h : tryFrom value = .ok cmd) : cmd.toU8 = value := by
  unfold tryFrom at h
  split at h
  case h_10 => cases h
  all_goals
    next hval =>
      cases h
      exact UInt8.toNat_inj.1 hval.symm

/-- A decoded message whose groups echo, with destination addresses of 16 bytes, is serialized,
for any family number, iff the echoes fit, and then as the echo of its buffer, behind headers
of its own. -/
theorem serialize_decoded {P : Packets} (hP : P.Documented) {buf : Bytes} {header : GenlHeader}
    {m : IpvsServiceCtrl} (h : IpvsServiceCtrl.parseWithParam P.toCrates buf header = .ok m)
    (hm : ∀ g ∈ m.nlas, g.Echoes) (familyId : UInt16) (dump : Bool) {out : Bytes} :
    IpvsServiceCtrl.serialize P { m with familyId } dump = .ok out ↔
      (∀ f ∈ P.format.frames buf, 4 + (IpvsCtrlAttrs.echo P.toCrates f).length < 2 ^ 16) ∧
      16 + (4 + (IpvsServiceCtrl.echo P.toCrates buf).length) < 2 ^ 32 ∧
      out = (IpvsServiceCtrl.requestHeader { m with familyId } dump
          (IpvsServiceCtrl.echo P.toCrates buf).length).bytes P.host ++
        (header.cmd :: 1 :: 0 :: 0 :: IpvsServiceCtrl.echo P.toCrates buf) := by
  have hcmd : m.cmd.toU8 = header.cmd := by
    obtain ⟨cmd, hcmd, h⟩ := bind_eq_ok.1 h
    obtain ⟨nlas, -, h⟩ := bind_eq_ok.1 h
    cases h
    exact IpvsCtrlCmd.toU8_of_tryFrom hcmd
  have hwire : IpvsServiceCtrl.wire P.host { m with familyId } =
      IpvsServiceCtrl.echo P.toCrates buf :=
    show m.wire P.host = _ from wire_of_parseWithParam hP.toDocumented h hm
  have hgroups : (∀ g ∈ m.nlas, 4 + (g.payload P.host).length < 2 ^ 16) ↔
      ∀ f ∈ P.format.frames buf, 4 + (IpvsCtrlAttrs.echo P.toCrates f).length < 2 ^ 16 := by
    have hmap := payloads_of_parseWithParam hP.toDocumented h hm
    rw [← List.forall_mem_map (P := fun v : Bytes => 4 + v.length < 2 ^ 16), hmap,
      List.forall_mem_map]
  rw [serialize_eq_ok hP, IpvsServiceCtrl.datagram, hwire, ← hgroups, ← hcmd, ← and_assoc]
  refine and_congr_left fun _ => ?_
  constructor
  · intro he
    exact ⟨he.groups, hwire ▸ he.total⟩
  · rintro ⟨hlen, htotal⟩
    exact ⟨fun g hg => (hm g hg).sendable, hlen, hwire.symm ▸ htotal⟩

/-- A destination on port 8080 is sent back on port 36895. -/
theorem serialize_decoded_port : IpvsServiceCtrl.serialize (Packets.reference .little)
    { cmd := .newDest, nlas := [.destination [.port 8080, .weight 1]], familyId := 30 } false =
      .ok [40, 0, 0, 0, 30, 0, 5, 0, 0, 0, 0, 0, 0, 0, 0, 0, 5, 1, 0, 0,
        20, 0, 2, 0x80, 6, 0, 2, 0, 0x90, 0x1f, 0, 0, 8, 0, 4, 0, 1, 0, 0, 0] := by
  have hparse : IpvsServiceCtrl.parseWithParam (Crates.reference .little)
      [20, 0, 2, 0, 6, 0, 2, 0, 0x1f, 0x90, 0, 0, 8, 0, 4, 0, 1, 0, 0, 0] ⟨5, 1⟩ =
        .ok ⟨.newDest, [.destination [.port 8080, .weight 1]], 999⟩ := by
    decide +kernel
  refine (serialize_decoded (Packets.reference_documented .little) hparse ?_ 30 false).2 ?_
  · simp [IpvsCtrlAttrs.Echoes, DestinationCtrlAttrs.Sendable]
  · decide +kernel

end NetlinkIpvs

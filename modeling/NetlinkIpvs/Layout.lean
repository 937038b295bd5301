import NetlinkIpvs.Panics

/-!
# What the decoder looks at

The buffers that are decoded are those covered by groups it accepts, each of them covered by
attributes it accepts (`decoded_iff`).

Whole frames are decoded before what follows them, so that two messages in one buffer are one
message with the groups of both (`parseWithParam_append`).

Buffers that resemble each other, down to the statistics, are decoded to the same message,
error or panic (`parseWithParam_congr`) : no flag of a header, no byte of padding, no byte
behind a number and no byte of a value without a number or a name is looked at.
-/

open Rust Rust.Outcome
open Tlv.Format (readAll)

namespace NetlinkIpvs

/-! ## What is decoded -/

/-- A buffer is decoded iff the command is known and frames the decoder accepts cover it. -/
theorem decoded_iff {K : Crates} (hK : K.Documented) (buf : Bytes) (header : GenlHeader) :
    (∃ m, IpvsServiceCtrl.parseWithParam K buf header = .ok m) ↔
      header.cmd ≤ 8 ∧ K.format.complete buf = true ∧
        ∀ f ∈ K.format.frames buf, IpvsCtrlAttrs.Accepted K f :=
  (IpvsServiceCtrl.parseWithParam_settles buf header hK).ok_iff

/-- A group with a family that is cut short, and the group with the whole family. -/
theorem decoded_iff_family :
    (¬∃ m, IpvsServiceCtrl.parseWithParam (Crates.reference .little) [9, 0, 1, 0, 5, 0, 1, 0, 2]
      ⟨4, 1⟩ = .ok m) ∧
    ∃ m, IpvsServiceCtrl.parseWithParam (Crates.reference .little) [10, 0, 1, 0, 6, 0, 1, 0, 2, 0]
      ⟨4, 1⟩ = .ok m := by
  have hK := Crates.reference_documented .little
  refine ⟨?_, ?_⟩
  · rw [decoded_iff hK]
    rintro ⟨-, -, h⟩
    have hgroup := h ⟨1, [5, 0, 1, 0, 2]⟩ (by decide +kernel)
    have hfamily := hgroup.2 ⟨1, [2]⟩ (by decide +kernel)
    exact absurd (show 1 = 2 from hfamily.1) (by decide)
  · rw [decoded_iff hK]
    refine ⟨by decide, by decide +kernel, fun f hf => ?_⟩
    obtain rfl : f = ⟨1, [6, 0, 1, 0, 2, 0]⟩ := List.mem_singleton.1 hf
    refine ⟨by decide +kernel, fun x hx => ?_⟩
    obtain rfl : x = ⟨1, [2, 0]⟩ := List.mem_singleton.1 hx
    exact ⟨rfl, by decide +kernel⟩

/-! ## One message after the other -/

section Append

variable {K : Crates} (hK : K.Documented) {pre : Bytes} (hpre : K.format.Whole pre)

include hK hpre

theorem IpvsServiceCtrl.parseCtrlnlas_append (rest : Bytes) :
    parseCtrlnlas K (pre ++ rest) = do
      let nlas ← parseCtrlnlas K pre
      let nlas' ← parseCtrlnlas K rest
      return nlas ++ nlas' := by
  rw [parseCtrlnlas, Tlv.Format.readAll_append hK.nlasIterator hpre, mapErr_bind]
  simp only [mapErr_bind]
  rfl

/-- The groups of whole frames are followed by those of the rest, and the first fault of
either ends the decoding. -/
theorem parseWithParam_append (rest : Bytes) (header : GenlHeader) :
    IpvsServiceCtrl.parseWithParam K (pre ++ rest) header = do
      let m ← IpvsServiceCtrl.parseWithParam K pre header
      let m' ← IpvsServiceCtrl.parseWithParam K rest header
      return { m with nlas := m.nlas ++ m'.nlas } := by
  simp only [IpvsServiceCtrl.parseWithParam, IpvsServiceCtrl.parseCtrlnlas_append hK hpre rest]
  cases IpvsCtrlCmd.tryFrom header.cmd with
  | ok cmd =>
    cases IpvsServiceCtrl.parseCtrlnlas K pre <;> cases IpvsServiceCtrl.parseCtrlnlas K rest <;> rfl
  | err e => rfl
  | panic p => rfl

end Append

/-- An empty group in front of a group with a port. -/
theorem parseWithParam_append_port :
    IpvsServiceCtrl.parseWithParam (Crates.reference .little)
      ([4, 0, 2, 0] ++ [12, 0, 1, 0, 6, 0, 4, 0, 0, 80, 0, 0]) ⟨1, 1⟩ =
        .ok ⟨.newService, [.destination [], .service [.port 80]], 999⟩ := by
  have hpre : (netlink .little).Whole [4, 0, 2, 0] :=
    @Tlv.Format.Whole.cons _ _ _ (netlink .little) [4, 0, 2, 0] [] [] [] rfl rfl rfl .nil
  rw [parseWithParam_append (Crates.reference_documented .little) hpre]
  decide +kernel

/-! ## What is not looked at -/

/-- Equal values, or values that hold a number of `n` bytes and start with the same one. -/
def SameTo (n : ℕ) (v v' : Bytes) : Prop :=
  v = v' ∨ n ≤ v.length ∧ n ≤ v'.length ∧ v.take n = v'.take n

/-- Statistics of the same kinds and numbers. The value of an unknown kind is not looked at. -/
def Stats64.Resembles (K : Crates) : Bytes → Bytes → Prop :=
  K.format.Resembles fun k v v' => Stats64Attr.Known ⟨k, v⟩ → SameTo 8 v v'

/-- Values of a service attribute of the given kind that are not told apart. Those of the kind
of `Stats` and of an unknown kind are not looked at. -/
def SvcCtrlAttrs.Resembles (K : Crates) : ℕ → Bytes → Bytes → Prop
  | IPVS_SVC_ATTR_PORT => SameTo 2
  | IPVS_SVC_ATTR_FWMARK | IPVS_SVC_ATTR_FLAGS | IPVS_SVC_ATTR_TIMEOUT => SameTo 4
  | IPVS_SVC_ATTR_STATS64 => Stats64.Resembles K
  | IPVS_SVC_ATTR_AF | IPVS_SVC_ATTR_PROTOCOL | IPVS_SVC_ATTR_ADDR | IPVS_SVC_ATTR_SCHED_NAME
  | IPVS_SVC_ATTR_NETMASK => Eq
  | _ => fun _ _ => True

/-- Values of a destination attribute of the given kind that are not told apart. Those of the
kind of `Stats` and of an unknown kind are not looked at. -/
def DestinationCtrlAttrs.Resembles (K : Crates) : ℕ → Bytes → Bytes → Prop
  | IPVS_DEST_ATTR_PORT => SameTo 2
  | IPVS_DEST_ATTR_TUN_TYPE => SameTo 1
  | IPVS_DEST_ATTR_STATS64 => Stats64.Resembles K
  | IPVS_DEST_ATTR_ADDR | IPVS_DEST_ATTR_FWD_METHOD | IPVS_DEST_ATTR_WEIGHT
  | IPVS_DEST_ATTR_U_THRESH | IPVS_DEST_ATTR_L_THRESH | IPVS_DEST_ATTR_ACTIVE_CONNS
  | IPVS_DEST_ATTR_INACT_CONNS | IPVS_DEST_ATTR_PERSIST_CONNS | IPVS_DEST_ATTR_ADDR_FAMILY
  | IPVS_DEST_ATTR_TUN_PORT | IPVS_DEST_ATTR_TUN_FLAGS => Eq
  | _ => fun _ _ => True

/-- Values of a group of the given kind that are not told apart. A group of an unknown kind
is not looked into. -/
def IpvsCtrlAttrs.Resembles (K : Crates) : ℕ → Bytes → Bytes → Prop
  | IPVS_CMD_ATTR_SERVICE => K.format.Resembles (SvcCtrlAttrs.Resembles K)
  | IPVS_CMD_ATTR_DEST => K.format.Resembles (DestinationCtrlAttrs.Resembles K)
  | _ => fun _ _ => True

section Resembles

variable {K : Crates} (hK : K.Documented)

include hK

theorem SameTo.readU16 {v v' : Bytes} (h : SameTo 2 v v') (e : ByteOrder) :
    K.readU16 e v = K.readU16 e v' := by
  obtain rfl | ⟨hv, hv', h⟩ := h
  · rfl
  · rw [hK.readU16_eq e v hv, hK.readU16_eq e v' hv', h]

theorem SameTo.readU32 {v v' : Bytes} (h : SameTo 4 v v') (e : ByteOrder) :
    K.readU32 e v = K.readU32 e v' := by
  obtain rfl | ⟨hv, hv', h⟩ := h
  · rfl
  · rw [hK.readU32_eq e v hv, hK.readU32_eq e v' hv', h]

theorem SameTo.readU64 {v v' : Bytes} (h : SameTo 8 v v') (e : ByteOrder) :
    K.readU64 e v = K.readU64 e v' := by
  obtain rfl | ⟨hv, hv', h⟩ := h
  · rfl
  · rw [hK.readU64_eq e v hv, hK.readU64_eq e v' hv', h]

omit hK in
theorem SameTo.index {v v' : Bytes} (h : SameTo 1 v v') : Slice.index v 0 = Slice.index v' 0 := by
  obtain rfl | ⟨hv, hv', h⟩ := h
  · rfl
  · match v, v', hv, hv', h with
    | a :: v, a' :: v', _, _, h =>
      obtain rfl : a = a' := by simpa using h
      rfl

theorem Stats64Attr.parse_congr (k : ℕ) {v v' : Bytes} (h : Known ⟨k, v⟩ → SameTo 8 v v') :
    parse K ⟨k, v⟩ = parse K ⟨k, v'⟩ := by
  by_cases hk : Known ⟨k, v⟩
  · unfold parse read
    dsimp only
    rw [(h hk).readU64 hK]
  · rw [parse_not_known hk, parse_not_known (show ¬Known ⟨k, v'⟩ from hk)]

theorem Stats64.parseNlas_congr {v v' : Bytes} (h : Resembles K v v') :
    parseNlas K v = parseNlas K v' := by
  rw [parseNlas, parseNlas,
    h.readAll_eq hK.nlasIterator fun k _ _ hv => Stats64Attr.parse_congr hK k hv]

theorem SvcCtrlAttrs.parse_congr (k : ℕ) (v v' : Bytes) (h : Resembles K k v v') :
    parse K ⟨k, v⟩ = parse K ⟨k, v'⟩ := by
  unfold Resembles at h
  split at h
  case h_1 => simp only [parse, h.readU16 hK]
  case h_2 | h_3 | h_4 => simp only [parse, h.readU32 hK]
  case h_5 => simp only [parse, Stats64.parseNlas_congr hK h]
  case h_6 | h_7 | h_8 | h_9 | h_10 => rw [h]
  case h_11 =>
    unfold parse
    dsimp only
    split
    all_goals first | contradiction | rfl

theorem DestinationCtrlAttrs.parse_congr (k : ℕ) (v v' : Bytes) (h : Resembles K k v v') :
    parse K ⟨k, v⟩ = parse K ⟨k, v'⟩ := by
  unfold Resembles at h
  split at h
  case h_1 => simp only [parse, h.readU16 hK]
  case h_2 => simp only [parse, h.index]
  case h_3 => simp only [parse, Stats64.parseNlas_congr hK h]
  case h_15 =>
    unfold parse
    dsimp only
    split
    all_goals first | contradiction | rfl
  all_goals rw [h]

theorem IpvsCtrlAttrs.parse_congr (k : ℕ) (v v' : Bytes) (h : Resembles K k v v') :
    parse K ⟨k, v⟩ = parse K ⟨k, v'⟩ := by
  unfold Resembles at h
  split at h
  · simp only [parse, h.readAll_eq hK.nlasIterator (SvcCtrlAttrs.parse_congr hK)]
  · simp only [parse, h.readAll_eq hK.nlasIterator (DestinationCtrlAttrs.parse_congr hK)]
  · unfold parse
    split <;> simp_all

end Resembles

/-- Buffers that resemble each other are decoded to the same message, error or panic. -/
theorem parseWithParam_congr {K : Crates} (hK : K.Documented) {buf buf' : Bytes}
    (h : K.format.Resembles (IpvsCtrlAttrs.Resembles K) buf buf') (header : GenlHeader) :
    IpvsServiceCtrl.parseWithParam K buf header = IpvsServiceCtrl.parseWithParam K buf' header := by
  simp only [IpvsServiceCtrl.parseWithParam, IpvsServiceCtrl.parseCtrlnlas,
    h.readAll_eq hK.nlasIterator (IpvsCtrlAttrs.parse_congr hK)]

/-- A port with the flag of a nested group and two more bytes, and without them or any
padding. -/
theorem parseWithParam_congr_port :
    IpvsServiceCtrl.parseWithParam (Crates.reference .little)
      [12, 0, 1, 0x80, 8, 0, 4, 0, 0, 80, 9, 9] ⟨4, 1⟩ =
    IpvsServiceCtrl.parseWithParam (Crates.reference .little) [10, 0, 1, 0, 6, 0, 4, 0, 0, 80]
      ⟨4, 1⟩ := by
  have hport : (netlink .little).Resembles (SvcCtrlAttrs.Resembles (Crates.reference .little))
      [8, 0, 4, 0, 0, 80, 9, 9] [6, 0, 4, 0, 0, 80] := by
    refine .frame (by decide) (by decide) rfl ?_ (.rest [])
    exact Or.inr ⟨by decide, by decide, rfl⟩
  refine parseWithParam_congr (Crates.reference_documented .little) ?_ _
  exact .frame (by decide) (by decide) rfl hport (.rest [])

end NetlinkIpvs

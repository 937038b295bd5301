import NetlinkIpvs.Ctrl
import NetlinkIpvs.Reference

/-!
# A decoded message is whole

`parse_with_param` returns `Ok` only for a buffer that is covered by frames, one for each
entry of the message, in order, and so on in each frame down to the statistics
(`covers_of_parseWithParam`). `Region` lists the buffers the decoder walks. None of them is
`Broken` : a malformed frame, at any depth and after any number of whole frames, is never
passed over.
-/

open Rust Rust.Outcome
open Tlv.Format (readAll)

namespace NetlinkIpvs

/-- Statistics frames cover the payload. -/
def Stats64.Covered (K : Crates) (payload : Bytes) : Prop :=
  ∃ fs, K.format.Covers payload fs ∧ ∀ f ∈ fs, 1 ≤ f.kind ∧ f.kind ≤ 10

/-- The attribute is what is decoded from the frame. -/
def SvcCtrlAttrs.DecodedFrom (K : Crates) (f : NlaBuffer) (a : SvcCtrlAttrs) : Prop :=
  parse K f = .ok a ∧ (f.kind = IPVS_SVC_ATTR_STATS64 → Stats64.Covered K f.value)

/-- The attribute is what is decoded from the frame. -/
def DestinationCtrlAttrs.DecodedFrom (K : Crates) (f : NlaBuffer) (a : DestinationCtrlAttrs) :
    Prop :=
  parse K f = .ok a ∧ (f.kind = IPVS_DEST_ATTR_STATS64 → Stats64.Covered K f.value)

/-- The group is what is decoded from the frame, whose value is covered by one frame for
each attribute of the group, in order. -/
def IpvsCtrlAttrs.DecodedFrom (K : Crates) (f : NlaBuffer) : IpvsCtrlAttrs → Prop
  | .service l => parse K f = .ok (.service l) ∧ f.kind = IPVS_CMD_ATTR_SERVICE ∧
    ∃ fs, K.format.Covers f.value fs ∧ List.Forall₂ (SvcCtrlAttrs.DecodedFrom K) fs l
  | .destination l => parse K f = .ok (.destination l) ∧ f.kind = IPVS_CMD_ATTR_DEST ∧
    ∃ fs, K.format.Covers f.value fs ∧ List.Forall₂ (DestinationCtrlAttrs.DecodedFrom K) fs l

/-- The buffers that are walked to decode a message : the message, the values of its
frames, and the values of the statistics frames in them. -/
inductive Region (K : Crates) (buf : Bytes) : Bytes → Prop
  | message : Region K buf buf
  | group {f : NlaBuffer} (hf : f ∈ K.format.frames buf) : Region K buf f.value
  | serviceStats {f x : NlaBuffer} (hf : f ∈ K.format.frames buf)
      (hk : f.kind = IPVS_CMD_ATTR_SERVICE) (hx : x ∈ K.format.frames f.value)
      (hs : x.kind = IPVS_SVC_ATTR_STATS64) : Region K buf x.value
  | destinationStats {f x : NlaBuffer} (hf : f ∈ K.format.frames buf)
      (hk : f.kind = IPVS_CMD_ATTR_DEST) (hx : x ∈ K.format.frames f.value)
      (hs : x.kind = IPVS_DEST_ATTR_STATS64) : Region K buf x.value

section Covers

variable {K : Crates} (hK : K.Documented)

include hK

theorem Stats64.covered_of_parseNlas {payload : Bytes} {st : Stats64}
    (h : parseNlas K payload = .ok st) : Covered K payload := by
  obtain ⟨hc, hf⟩ := (parseNlas_settles hK payload).ok_iff.1 ⟨st, h⟩
  exact ⟨_, Tlv.Format.covers_frames hc, fun f hmem => (hf f hmem).1⟩

/-- An attribute that is parsed is decoded from its whole frame. -/
theorem SvcCtrlAttrs.decodedFrom_of_parse {f : NlaBuffer} {a : SvcCtrlAttrs}
    (h : parse K f = .ok a) : DecodedFrom K f a := by
  refine ⟨h, fun hk => ?_⟩
  obtain ⟨kind, value⟩ := f
  obtain rfl : kind = 12 := hk
  obtain ⟨st, hst, -⟩ := bind_eq_ok.1 h
  exact Stats64.covered_of_parseNlas hK hst

/-- An attribute that is parsed is decoded from its whole frame. -/
theorem DestinationCtrlAttrs.decodedFrom_of_parse {f : NlaBuffer} {a : DestinationCtrlAttrs}
    (h : parse K f = .ok a) : DecodedFrom K f a := by
  refine ⟨h, fun hk => ?_⟩
  obtain ⟨kind, value⟩ := f
  obtain rfl : kind = 12 := hk
  obtain ⟨st, hst, -⟩ := bind_eq_ok.1 h
  exact Stats64.covered_of_parseNlas hK hst

/-- A group that is parsed is decoded from its whole frame. -/
theorem IpvsCtrlAttrs.decodedFrom_of_parse {f : NlaBuffer} {g : IpvsCtrlAttrs}
    (h : parse K f = .ok g) : DecodedFrom K f g := by
  have hg := h
  unfold parse at h
  dsimp only at h
  split at h
  next hk =>
    obtain ⟨l, hl, h⟩ := bind_eq_ok.1 h
    cases h
    obtain ⟨hc, hfs⟩ := (Tlv.Format.readAll_eq_ok hK.nlasIterator).1 hl
    exact ⟨hg, hk, _, Tlv.Format.covers_frames hc,
      hfs.imp fun _ _ ha => SvcCtrlAttrs.decodedFrom_of_parse hK ha⟩
  next hk =>
    obtain ⟨l, hl, h⟩ := bind_eq_ok.1 h
    cases h
    obtain ⟨hc, hfs⟩ := (Tlv.Format.readAll_eq_ok hK.nlasIterator).1 hl
    exact ⟨hg, hk, _, Tlv.Format.covers_frames hc,
      hfs.imp fun _ _ ha => DestinationCtrlAttrs.decodedFrom_of_parse hK ha⟩
  next => cases h

/-- A message that is parsed has one group for each frame of its buffer. -/
theorem IpvsServiceCtrl.decodedFrom_of_parse {buf : Bytes} {header : GenlHeader}
    {m : IpvsServiceCtrl} (h : parseWithParam K buf header = .ok m) :
    K.format.complete buf = true ∧
      List.Forall₂ (IpvsCtrlAttrs.DecodedFrom K) (K.format.frames buf) m.nlas := by
  obtain ⟨cmd, -, h⟩ := bind_eq_ok.1 h
  obtain ⟨nlas, hnlas, h⟩ := bind_eq_ok.1 h
  cases h
  obtain ⟨hc, hfs⟩ := (Tlv.Format.readAll_eq_ok hK.nlasIterator).1 (mapErr_eq_ok.1 hnlas)
  exact ⟨hc, hfs.imp fun _ _ hg => IpvsCtrlAttrs.decodedFrom_of_parse hK hg⟩

omit hK in
theorem not_broken_of_covers {buf : Bytes} {fs : List NlaBuffer} (h : K.format.Covers buf fs) :
    ¬K.format.Broken buf := by
  rw [← Tlv.Format.complete_eq_false_iff, h.walk.1]
  decide

end Covers

/-- A buffer that is parsed is covered by frames, one for each group of the message, in
order, each of them decoded from its whole frame, and no buffer walked on the way has a
malformed frame. -/
theorem covers_of_parseWithParam {K : Crates} (hK : K.Documented) {buf : Bytes}
    {header : GenlHeader} {m : IpvsServiceCtrl}
    (h : IpvsServiceCtrl.parseWithParam K buf header = .ok m) :
    (∃ fs, K.format.Covers buf fs ∧ List.Forall₂ (IpvsCtrlAttrs.DecodedFrom K) fs m.nlas) ∧
      ∀ region, Region K buf region → ¬K.format.Broken region := by
  obtain ⟨hc, hfs⟩ := IpvsServiceCtrl.decodedFrom_of_parse hK h
  have hbuf := Tlv.Format.covers_frames hc
  refine ⟨⟨_, hbuf, hfs⟩, ?_⟩
  intro region hr
  cases hr with
  | message => exact not_broken_of_covers hbuf
  | group hf =>
    obtain ⟨g, hg⟩ := exists_forall₂.1 ⟨_, hfs⟩ _ hf
    cases g with
    | service l =>
      obtain ⟨-, -, fs, hcov, -⟩ := hg
      exact not_broken_of_covers hcov
    | destination l =>
      obtain ⟨-, -, fs, hcov, -⟩ := hg
      exact not_broken_of_covers hcov
  | serviceStats hf hk hx hs =>
    obtain ⟨g, hg⟩ := exists_forall₂.1 ⟨_, hfs⟩ _ hf
    cases g with
    | service l =>
      obtain ⟨-, -, fs, hcov, hl⟩ := hg
      rw [hcov.walk.2] at hx
      obtain ⟨a, -, ha⟩ := exists_forall₂.1 ⟨_, hl⟩ _ hx
      obtain ⟨fs', hcov', -⟩ := ha hs
      exact not_broken_of_covers hcov'
    | destination l => exact absurd (hk.symm.trans hg.2.1) (by decide)
  | destinationStats hf hk hx hs =>
    obtain ⟨g, hg⟩ := exists_forall₂.1 ⟨_, hfs⟩ _ hf
    cases g with
    | service l => exact absurd (hk.symm.trans hg.2.1) (by decide)
    | destination l =>
      obtain ⟨-, -, fs, hcov, hl⟩ := hg
      rw [hcov.walk.2] at hx
      obtain ⟨a, -, ha⟩ := exists_forall₂.1 ⟨_, hl⟩ _ hx
      obtain ⟨fs', hcov', -⟩ := ha hs
      exact not_broken_of_covers hcov'

/-- A service with a port and statistics of one frame. -/
theorem covers_of_parseWithParam_stats : ∃ fs, (netlink .little).Covers
    [28, 0, 1, 0, 6, 0, 4, 0, 0, 80, 0, 0, 16, 0, 12, 0, 12, 0, 1, 0, 3, 0, 0, 0, 0, 0, 0, 0] fs ∧
    List.Forall₂ (IpvsCtrlAttrs.DecodedFrom (Crates.reference .little)) fs
      [.service [.port 80, .stats64 { connections := 3 }]] := by
  have h : IpvsServiceCtrl.parseWithParam (Crates.reference .little)
      [28, 0, 1, 0, 6, 0, 4, 0, 0, 80, 0, 0, 16, 0, 12, 0, 12, 0, 1, 0, 3, 0, 0, 0, 0, 0, 0, 0]
      ⟨4, 1⟩ = .ok { cmd := .getService, nlas := [.service [.port 80,
        .stats64 { connections := 3 }]], familyId := 999 } := by
    decide +kernel
  exact (covers_of_parseWithParam (Crates.reference_documented .little) h).1

end NetlinkIpvs

import NetlinkIpvs.Destination
import NetlinkIpvs.Reference
import NetlinkIpvs.Service

/-!
# Statistics

Two tables stand between a statistics attribute and a field of `Stats64` : the one of
`Stats64Attr::parse` from kinds to variants, and the one of `Stats64::from_nlas` from
variants to fields. Together they put the last number of each kind into its own field
(`Stats64.parseNlas_ofFrames`). Services and destinations decode the same statistics, and
none at all if a kind is unknown (`stats64_parse`).
-/

open Rust Rust.Outcome LastWins

namespace NetlinkIpvs

/-- The number at the front of the value of an attribute. -/
def NlaBuffer.number (f : NlaBuffer) : UInt64 :=
  UInt64.ofNat (ByteOrder.little.decode (f.value.take 8))

namespace Stats64

/-- The number of the last attribute of a kind, or 0. -/
def counter (kind : ℕ) (fs : List NlaBuffer) : UInt64 :=
  (last (fun f => if f.kind = kind then some (NlaBuffer.number f) else none) fs).getD 0

/-- The statistics a list of attributes stands for. -/
def ofFrames (fs : List NlaBuffer) : Stats64 where
  connections := counter STATS_ATTR_CONNS fs
  incomingPackets := counter STATS_ATTR_INPKTS fs
  outgoingPackets := counter STATS_ATTR_OUTPKTS fs
  incomingBytes := counter STATS_ATTR_INBYTES fs
  outgoingBytes := counter STATS_ATTR_OUTBYTES fs
  connectionRate := counter STATS_ATTR_CPS fs
  incomingPacketRate := counter STATS_ATTR_INPPS fs
  outgoingPacketRate := counter STATS_ATTR_OUTPPS fs
  incomingByteRate := counter STATS_ATTR_INBPS fs
  outgoingByteRate := counter STATS_ATTR_OUTBPS fs

end Stats64

/-! ## From kinds to variants -/

namespace Stats64Attr

/-- The kind and the number that a variant is read from. -/
def source : Stats64Attr → ℕ × UInt64
  | .connCount val => (STATS_ATTR_CONNS, val)
  | .incPktCount val => (STATS_ATTR_INPKTS, val)
  | .outPktCount val => (STATS_ATTR_OUTPKTS, val)
  | .incByteCount val => (STATS_ATTR_INBYTES, val)
  | .outByteCount val => (STATS_ATTR_OUTBYTES, val)
  | .connRate val => (STATS_ATTR_CPS, val)
  | .incPktRate val => (STATS_ATTR_INPPS, val)
  | .outPktRate val => (STATS_ATTR_OUTPPS, val)
  | .incByteRate val => (STATS_ATTR_INBPS, val)
  | .outByteRate val => (STATS_ATTR_OUTBPS, val)

/-- The number of a variant of the kind. -/
def select (kind : ℕ) (a : Stats64Attr) : Option UInt64 :=
  if a.source.1 = kind then some a.source.2 else none

variable {K : Crates} (hK : K.Documented)

include hK

theorem read_eq_ok {payload : Bytes} {attr : UInt64 → Stats64Attr} {a : Stats64Attr}
    (h : read K payload attr = .ok a) :
    attr (UInt64.ofNat (ByteOrder.little.decode (payload.take 8))) = a := by
  have hlen := (read_settles hK payload attr).ok_iff.1 ⟨a, h⟩
  rw [read, hK.readU64_eq .little payload hlen] at h
  exact Outcome.ok.inj h

/-- An attribute is read as the variant of its kind, with its number. -/
theorem source_of_parse {f : NlaBuffer} {a : Stats64Attr} (h : parse K f = .ok a) :
    a.source = (f.kind, NlaBuffer.number f) := by
  unfold parse at h
  split at h
  case h_11 => cases h
  all_goals
    next hkind =>
      rw [← read_eq_ok hK h, hkind]
      rfl

end Stats64Attr

/-! ## From variants to fields -/

namespace Stats64

/-- Each field of `Stats64::from_nlas` ends up with the last number of its kind. -/
theorem foldl_update_eq (nlas : List Stats64Attr) : nlas.foldl update {} =
    { connections := (last (Stats64Attr.select STATS_ATTR_CONNS) nlas).getD 0
      incomingPackets := (last (Stats64Attr.select STATS_ATTR_INPKTS) nlas).getD 0
      outgoingPackets := (last (Stats64Attr.select STATS_ATTR_OUTPKTS) nlas).getD 0
      incomingBytes := (last (Stats64Attr.select STATS_ATTR_INBYTES) nlas).getD 0
      outgoingBytes := (last (Stats64Attr.select STATS_ATTR_OUTBYTES) nlas).getD 0
      connectionRate := (last (Stats64Attr.select STATS_ATTR_CPS) nlas).getD 0
      incomingPacketRate := (last (Stats64Attr.select STATS_ATTR_INPPS) nlas).getD 0
      outgoingPacketRate := (last (Stats64Attr.select STATS_ATTR_OUTPPS) nlas).getD 0
      incomingByteRate := (last (Stats64Attr.select STATS_ATTR_INBPS) nlas).getD 0
      outgoingByteRate := (last (Stats64Attr.select STATS_ATTR_OUTBPS) nlas).getD 0 } := by
  ext1
  all_goals exact slot_foldl (fun s a => by cases a <;> rfl) _ nlas

variable {K : Crates} (hK : K.Documented)

include hK

/-- A payload that is decoded is decoded as the statistics its attributes stand for. -/
theorem parseNlas_ofFrames {payload : Bytes} (h : Accepted K payload) :
    parseNlas K payload = .ok (ofFrames (K.format.frames payload)) := by
  obtain ⟨st, hst⟩ := (parseNlas_settles hK payload).ok_iff.2 h
  obtain ⟨nlas, hnlas, hfold⟩ := bind_eq_ok.1 hst
  have hall := ((Tlv.Format.readAll_eq_ok hK.nlasIterator).1 (mapErr_eq_ok.1 hnlas)).2
  have hlast : ∀ kind, last (Stats64Attr.select kind) nlas =
      last (fun f => if f.kind = kind then some (NlaBuffer.number f) else none)
        (K.format.frames payload) := by
    intro kind
    refine (last_forall₂ (fun f a ha => ?_) hall).symm
    rw [Stats64Attr.select, Stats64Attr.source_of_parse hK ha]
  rw [hst, ← Outcome.ok.inj hfold, foldl_update_eq]
  simp only [hlast]
  rfl

/-- If every attribute of a known kind has a number, an unknown kind is an error. -/
theorem parseNlas_unknown {payload : Bytes}
    (hnum : ∀ f ∈ K.format.frames payload, Stats64Attr.Known f → 8 ≤ f.value.length)
    (hbad : ∃ f ∈ K.format.frames payload, ¬Stats64Attr.Known f) :
    ∃ e, parseNlas K payload = .err e := by
  obtain ⟨hok, hpanic⟩ := parseNlas_settles hK payload
  cases h : parseNlas K payload with
  | ok st =>
    obtain ⟨f, hf, hunknown⟩ := hbad
    obtain ⟨-, hall⟩ := hok.1 ⟨st, h⟩
    exact absurd (hall f hf).1 hunknown
  | err e => exact ⟨e, rfl⟩
  | panic p =>
    obtain ⟨pre, f, post, hfs, -, hknown, hshort⟩ := hpanic.1 ⟨p, by rw [h, fault_panic]⟩
    have := hnum f (by rw [hfs]; simp) hknown
    omega

end Stats64

/-- A payload that is covered by statistics attributes, each with a number, is decoded by
services and destinations alike : as the statistics the attributes stand for if their
kinds are known, and as an error if one is not. -/
theorem stats64_parse {K : Crates} (hK : K.Documented) {payload : Bytes} {fs : List NlaBuffer}
    (hc : K.format.Covers payload fs)
    (hnum : ∀ f ∈ fs, Stats64Attr.Known f → 8 ≤ f.value.length) :
    ((∀ f ∈ fs, Stats64Attr.Known f) →
      SvcCtrlAttrs.parse K ⟨IPVS_SVC_ATTR_STATS64, payload⟩ = .ok (.stats64 (.ofFrames fs)) ∧
      DestinationCtrlAttrs.parse K ⟨IPVS_DEST_ATTR_STATS64, payload⟩ =
        .ok (.stats64 (.ofFrames fs))) ∧
    ((∃ f ∈ fs, ¬Stats64Attr.Known f) → ∃ e,
      SvcCtrlAttrs.parse K ⟨IPVS_SVC_ATTR_STATS64, payload⟩ = .err e ∧
      DestinationCtrlAttrs.parse K ⟨IPVS_DEST_ATTR_STATS64, payload⟩ = .err e) := by
  obtain ⟨hcomplete, rfl⟩ := hc.walk
  have hsvc : SvcCtrlAttrs.parse K ⟨IPVS_SVC_ATTR_STATS64, payload⟩ = (do
      let st ← Stats64.parseNlas K payload
      return .stats64 st) := rfl
  have hdest : DestinationCtrlAttrs.parse K ⟨IPVS_DEST_ATTR_STATS64, payload⟩ = (do
      let st ← Stats64.parseNlas K payload
      return .stats64 st) := rfl
  rw [hsvc, hdest]
  constructor
  · intro hknown
    have haccepted : Stats64.Accepted K payload :=
      ⟨hcomplete, fun f hf => ⟨hknown f hf, hnum f hf (hknown f hf)⟩⟩
    rw [Stats64.parseNlas_ofFrames hK haccepted]
    exact ⟨rfl, rfl⟩
  · intro hbad
    obtain ⟨e, he⟩ := Stats64.parseNlas_unknown hK hnum hbad
    rw [he]
    exact ⟨e, rfl, rfl⟩

/-- Two numbers of connections around a number of outgoing bytes : the last one counts. -/
theorem stats64_parse_repeated : SvcCtrlAttrs.parse (Crates.reference .little)
    ⟨12, [12, 0, 1, 0, 7, 0, 0, 0, 0, 0, 0, 0, 12, 0, 5, 0, 0, 1, 0, 0, 0, 0, 0, 0,
      12, 0, 1, 0, 9, 0, 0, 0, 0, 0, 0, 0]⟩ =
        .ok (.stats64 { connections := 9, outgoingBytes := 256 }) := by
  have hc := Tlv.Format.covers_encode (F := netlink .little)
    [(1, [7, 0, 0, 0, 0, 0, 0, 0]), (5, [0, 1, 0, 0, 0, 0, 0, 0]), (1, [9, 0, 0, 0, 0, 0, 0, 0])]
    (by decide)
  exact ((stats64_parse (Crates.reference_documented .little) hc (by decide)).1 (by decide)).1

end NetlinkIpvs

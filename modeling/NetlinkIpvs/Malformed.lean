import NetlinkIpvs.Panics

/-!
# Malformed frames

A frame is `Malformed` if its kind is unknown, its value is empty, its number is cut short, its
protocol, scheduler, forwarding method or tunnel type is unknown, its netmask is longer than
an address, or a frame in it is malformed. Each of them is one of three things to the decoder.
Some are errors, on some it panics (`Aborts`), and some it decodes all the same
(`Overlooked`) : an empty group, an empty address, netmask or statistics, and a netmask of more
than 16 bytes with no more than 128 ones.

Decoding never panics, and is an error for every message with a malformed frame, iff the
decoder does not get to a frame of the second sort, and the message is not decoded with one of
the third (`decodesSafely_iff`).
-/

open Rust Rust.Outcome

namespace NetlinkIpvs

/-! ## Frames -/

/-- A value that holds a number is neither empty nor too short for it. -/
theorem not_short {v : Bytes} {n : ℕ} (hn : 0 < n) (h : n ≤ v.length) :
    ¬(v = [] ∨ v.length < n) := by
  rintro (rfl | hlt)
  · exact Nat.not_le.2 hn h
  · exact Nat.not_le.2 hlt h

/-- Nor is it so if its number is in the domain. -/
theorem not_short_or {v : Bytes} {n : ℕ} {p : Prop} (hn : 0 < n) (h : n ≤ v.length) (hp : ¬p) :
    ¬(v = [] ∨ v.length < n ∨ p) := by
  rw [← or_assoc]
  exact not_or.2 ⟨not_short hn h, hp⟩

/-- The kind of the statistics frame is unknown, or its number is cut short. -/
def Stats64Attr.Malformed (f : NlaBuffer) : Prop :=
  ¬Known f ∨ f.value.length < 8

theorem Stats64Attr.Accepted.not_malformed {f : NlaBuffer} (h : Accepted f) : ¬Malformed f :=
  not_or.2 ⟨not_not.2 h.1, Nat.not_lt.2 h.2⟩

theorem Stats64.Accepted.not_malformed {K : Crates} {payload : Bytes} (h : Accepted K payload) :
    ¬∃ x ∈ K.format.frames payload, Stats64Attr.Malformed x := by
  rintro ⟨x, hx, hmal⟩
  exact (h.2 x hx).not_malformed hmal

namespace SvcCtrlAttrs

variable (K : Crates)

/-- The frame is empty, its number is cut short, its protocol or its scheduler is unknown, its
netmask is longer than an address, its statistics have a malformed frame, or its kind is
unknown. -/
def Malformed (f : NlaBuffer) : Prop :=
  f.value = [] ∨
    match f.kind with
    | IPVS_SVC_ATTR_ADDR | IPVS_SVC_ATTR_STATS => False
    | IPVS_SVC_ATTR_AF | IPVS_SVC_ATTR_PORT => f.value.length < 2
    | IPVS_SVC_ATTR_PROTOCOL => f.value.length < 2 ∨
      f.value.length = 2 ∧ K.host.decode f.value ∉ [0x06, 0x11, 0x84]
    | IPVS_SVC_ATTR_FWMARK | IPVS_SVC_ATTR_FLAGS | IPVS_SVC_ATTR_TIMEOUT => f.value.length < 4
    | IPVS_SVC_ATTR_SCHED_NAME =>
      ¬∃ name, fromUtf8 f.value = some name ∧ trimEndNul name ∈ Scheduler.names
    | IPVS_SVC_ATTR_NETMASK => 16 < f.value.length
    | IPVS_SVC_ATTR_STATS64 => ∃ x ∈ K.format.frames f.value, Stats64Attr.Malformed x
    | _ => True

/-- The frame is malformed, and the decoder does not look : at an empty address, netmask or
statistics, and at the length of a netmask. -/
def Overlooked (f : NlaBuffer) : Prop :=
  match f.kind with
  | IPVS_SVC_ATTR_ADDR | IPVS_SVC_ATTR_STATS | IPVS_SVC_ATTR_STATS64 => f.value = []
  | IPVS_SVC_ATTR_NETMASK => f.value = [] ∨ 16 < f.value.length
  | _ => False

variable {K}

/-- What is decoded is malformed iff it is overlooked. -/
theorem Accepted.malformed_iff {f : NlaBuffer} (h : Accepted K f) :
    Malformed K f ↔ Overlooked f := by
  obtain ⟨kind, v⟩ := f
  unfold Accepted at h
  unfold Malformed Overlooked
  dsimp only at h ⊢
  split at h
  case h_1 => exact iff_of_false (not_short (by decide) h.1.ge) not_false
  case h_2 =>
    exact iff_of_false (not_short_or (by decide) h.1.ge fun hval => hval.2 h.2) not_false
  case h_3 => exact or_iff_left not_false
  case h_4 | h_5 | h_6 | h_7 => exact iff_of_false (not_short (by decide) h) not_false
  case h_8 =>
    -- an empty name is valid UTF-8, and no scheduler has it
    refine iff_of_false ?_ not_false
    rintro (rfl | hname)
    · obtain ⟨name, hname, hmem⟩ := h
      obtain rfl : "" = name := Option.some.inj hname
      exact absurd hmem (by decide)
    · exact hname h
  case h_9 => exact Iff.rfl
  case h_10 => exact or_iff_left not_false
  case h_11 => exact or_iff_left h.not_malformed
  case h_12 => exact h.elim

end SvcCtrlAttrs

namespace DestinationCtrlAttrs

variable (K : Crates)

/-- The frame is empty, its number is cut short, its forwarding method or its tunnel type is
unknown, its statistics have a malformed frame, or its kind is unknown. -/
def Malformed (f : NlaBuffer) : Prop :=
  f.value = [] ∨
    match f.kind with
    | IPVS_DEST_ATTR_ADDR | IPVS_DEST_ATTR_STATS => False
    | IPVS_DEST_ATTR_PORT | IPVS_DEST_ATTR_ADDR_FAMILY | IPVS_DEST_ATTR_TUN_PORT
    | IPVS_DEST_ATTR_TUN_FLAGS => f.value.length < 2
    | IPVS_DEST_ATTR_FWD_METHOD => f.value.length < 4 ∨
      f.value.length = 4 ∧ K.host.decode f.value ≠ 0
    | IPVS_DEST_ATTR_WEIGHT | IPVS_DEST_ATTR_U_THRESH | IPVS_DEST_ATTR_L_THRESH
    | IPVS_DEST_ATTR_ACTIVE_CONNS | IPVS_DEST_ATTR_INACT_CONNS
    | IPVS_DEST_ATTR_PERSIST_CONNS => f.value.length < 4
    | IPVS_DEST_ATTR_STATS64 => ∃ x ∈ K.format.frames f.value, Stats64Attr.Malformed x
    | IPVS_DEST_ATTR_TUN_TYPE => f.value.head? ≠ some 0
    | _ => True

/-- The frame is malformed, and the decoder does not look : at an empty address or
statistics. -/
def Overlooked (f : NlaBuffer) : Prop :=
  match f.kind with
  | IPVS_DEST_ATTR_ADDR | IPVS_DEST_ATTR_STATS | IPVS_DEST_ATTR_STATS64 => f.value = []
  | _ => False

variable {K}

/-- What is decoded is malformed iff it is overlooked. -/
theorem Accepted.malformed_iff {f : NlaBuffer} (h : Accepted K f) :
    Malformed K f ↔ Overlooked f := by
  obtain ⟨kind, v⟩ := f
  unfold Accepted at h
  unfold Malformed Overlooked
  dsimp only at h ⊢
  split at h
  case h_1 | h_2 => exact or_iff_left not_false
  case h_3 => exact iff_of_false (not_short (by decide) h) not_false
  case h_4 =>
    exact iff_of_false (not_short_or (by decide) h.1.ge fun hval => hval.2 h.2) not_false
  case h_5 | h_6 | h_7 | h_8 | h_9 | h_10 =>
    exact iff_of_false (not_short (by decide) h.ge) not_false
  case h_11 => exact or_iff_left h.not_malformed
  case h_12 => exact iff_of_false (not_short (by decide) h.1.ge) not_false
  case h_13 =>
    refine iff_of_false ?_ not_false
    rintro (rfl | hhead)
    · cases h
    · exact hhead h
  case h_14 | h_15 => exact iff_of_false (not_short (by decide) h.ge) not_false
  case h_16 => exact h.elim

end DestinationCtrlAttrs

/-! ## Groups -/

namespace IpvsCtrlAttrs

variable (K : Crates)

/-- The group is empty, an attribute in it is malformed, or its kind is unknown. -/
def Malformed (f : NlaBuffer) : Prop :=
  f.value = [] ∨
    match f.kind with
    | IPVS_CMD_ATTR_SERVICE => ∃ x ∈ K.format.frames f.value, SvcCtrlAttrs.Malformed K x
    | IPVS_CMD_ATTR_DEST => ∃ x ∈ K.format.frames f.value, DestinationCtrlAttrs.Malformed K x
    | _ => True

/-- The group is empty, or an attribute in it is overlooked. -/
def Overlooked (f : NlaBuffer) : Prop :=
  f.value = [] ∨
    match f.kind with
    | IPVS_CMD_ATTR_SERVICE => ∃ x ∈ K.format.frames f.value, SvcCtrlAttrs.Overlooked x
    | IPVS_CMD_ATTR_DEST => ∃ x ∈ K.format.frames f.value, DestinationCtrlAttrs.Overlooked x
    | _ => False

variable {K}

/-- What is decoded is malformed iff it is overlooked. -/
theorem Accepted.malformed_iff {f : NlaBuffer} (h : Accepted K f) :
    Malformed K f ↔ Overlooked K f := by
  obtain ⟨kind, v⟩ := f
  unfold Accepted at h
  unfold Malformed Overlooked
  dsimp only at h ⊢
  refine or_congr_right ?_
  split at h
  case h_1 => exact exists_congr fun x => and_congr_right fun hx => (h.2 x hx).malformed_iff
  case h_2 => exact exists_congr fun x => and_congr_right fun hx => (h.2 x hx).malformed_iff
  case h_3 => exact h.elim

end IpvsCtrlAttrs

/-! ## Messages -/

namespace IpvsServiceCtrl

variable (K : Crates) (buf : Bytes) (header : GenlHeader)

/-- A frame of the message is malformed, at some depth. -/
def Malformed : Prop :=
  ∃ f ∈ K.format.frames buf, IpvsCtrlAttrs.Malformed K f

/-- The message is decoded with a malformed frame. -/
def Overlooks : Prop :=
  Accepted K buf header ∧ ∃ f ∈ K.format.frames buf, IpvsCtrlAttrs.Overlooked K f

/-- Decoding returns `Ok` or `Err`, and `Err` if a frame is malformed. -/
structure DecodesSafely : Prop where
  returns : ¬(parseWithParam K buf header).Panicked
  rejects : Malformed K buf → ∃ e, parseWithParam K buf header = .err e

end IpvsServiceCtrl

/-- A message is decoded safely iff the decoder does not get to a frame it panics on, and does
not decode the message with a malformed frame. -/
theorem decodesSafely_iff {K : Crates} (hK : K.Documented) (buf : Bytes) (header : GenlHeader) :
    IpvsServiceCtrl.DecodesSafely K buf header ↔
      ¬IpvsServiceCtrl.Aborts K buf header ∧ ¬IpvsServiceCtrl.Overlooks K buf header := by
  have hsettles := IpvsServiceCtrl.parseWithParam_settles buf header hK
  have hmalformed (h : IpvsServiceCtrl.Accepted K buf header) : IpvsServiceCtrl.Malformed K buf ↔
      ∃ f ∈ K.format.frames buf, IpvsCtrlAttrs.Overlooked K f :=
    exists_congr fun f => and_congr_right fun hf => (h.2.2 f hf).malformed_iff
  constructor
  · rintro ⟨hreturns, hrejects⟩
    refine ⟨fun haborts => hreturns (hsettles.panicked_iff.2 haborts), ?_⟩
    rintro ⟨haccepted, hoverlooked⟩
    exact (hsettles.err_iff.1 (hrejects ((hmalformed haccepted).2 hoverlooked))).1 haccepted
  · rintro ⟨haborts, hoverlooks⟩
    refine ⟨fun hpanicked => haborts (hsettles.panicked_iff.1 hpanicked), fun hmal => ?_⟩
    refine hsettles.err_iff.2 ⟨fun haccepted => ?_, haborts⟩
    exact hoverlooks ⟨haccepted, (hmalformed haccepted).1 hmal⟩

/-- A service with an empty address and a family that is cut short is an error. -/
theorem decodesSafely_family : IpvsServiceCtrl.DecodesSafely (Crates.reference .little)
    [13, 0, 1, 0, 4, 0, 3, 0, 5, 0, 1, 0, 2] ⟨4, 1⟩ := by
  have hframes : (netlink .little).frames [13, 0, 1, 0, 4, 0, 3, 0, 5, 0, 1, 0, 2] =
      [⟨1, [4, 0, 3, 0, 5, 0, 1, 0, 2]⟩] := by
    decide +kernel
  have hattrs : (netlink .little).frames [4, 0, 3, 0, 5, 0, 1, 0, 2] = [⟨3, []⟩, ⟨1, [2]⟩] := by
    decide +kernel
  refine (decodesSafely_iff (Crates.reference_documented .little) _ _).2 ⟨?_, ?_⟩
  · rintro ⟨-, hgroups⟩
    obtain ⟨f, hf, hgroup⟩ := hgroups.exists_bad
    obtain rfl := List.mem_singleton.1 (hframes ▸ hf)
    obtain ⟨x, hx, hattr⟩ := Reaches.exists_bad hgroup
    -- neither an address nor a family panics the decoder
    rcases List.mem_pair.1 (hattrs ▸ hx) with rfl | rfl <;> exact hattr
  · rintro ⟨⟨-, -, hgroups⟩, -⟩
    have hgroup := hgroups ⟨1, [4, 0, 3, 0, 5, 0, 1, 0, 2]⟩ (by decide +kernel)
    have hfamily := hgroup.2 ⟨1, [2]⟩ (by decide +kernel)
    exact absurd (show 1 = 2 from hfamily.1) (by decide)

/-- What is decoded otherwise. The decoder panics on a group of an unknown kind, a service with
an empty port, with the protocol 1 and with a scheduler that has no name, and a destination
with forwarding method 3. It accepts a service with an empty netmask, with an empty address,
and with a netmask of 17 bytes. -/
theorem mishandled_parseWithParam :
    (IpvsServiceCtrl.parseWithParam (Crates.reference .little) [4, 0, 3, 0] ⟨4, 1⟩).Panicked ∧
    (IpvsServiceCtrl.parseWithParam (Crates.reference .little)
      [8, 0, 1, 0, 4, 0, 4, 0] ⟨4, 1⟩).Panicked ∧
    (IpvsServiceCtrl.parseWithParam (Crates.reference .little)
      [12, 0, 1, 0, 6, 0, 2, 0, 1, 0, 0, 0] ⟨4, 1⟩).Panicked ∧
    (IpvsServiceCtrl.parseWithParam (Crates.reference .little)
      [8, 0, 1, 0, 4, 0, 6, 0] ⟨4, 1⟩).Panicked ∧
    (IpvsServiceCtrl.parseWithParam (Crates.reference .little)
      [12, 0, 2, 0, 8, 0, 3, 0, 3, 0, 0, 0] ⟨8, 1⟩).Panicked ∧
    IpvsServiceCtrl.parseWithParam (Crates.reference .little) [8, 0, 1, 0, 4, 0, 9, 0] ⟨4, 1⟩ =
      .ok ⟨.getService, [.service [.netmask (.withoutAf 0)]], 999⟩ ∧
    IpvsServiceCtrl.parseWithParam (Crates.reference .little) [8, 0, 1, 0, 4, 0, 3, 0] ⟨4, 1⟩ =
      .ok ⟨.getService, [.service [.addrBytes ⟨[]⟩]], 999⟩ ∧
    IpvsServiceCtrl.parseWithParam (Crates.reference .little)
      ([28, 0, 1, 0, 21, 0, 9, 0] ++ List.replicate 16 255 ++ [0, 0, 0, 0]) ⟨4, 1⟩ =
        .ok ⟨.getService, [.service [.netmask (.withoutAf 128)]], 999⟩ := by
  refine ⟨⟨.explicit "Don't know how to parse with type 3", ?_⟩, ⟨.outOfBounds, ?_⟩,
    ⟨.explicit "Protocol 1 is not supported", ?_⟩, ⟨.explicit "Unknown scheduler: ''", ?_⟩,
    ⟨.explicit "not sure what to do with 3", ?_⟩, ?_, ?_, ?_⟩
  all_goals decide +kernel

end NetlinkIpvs

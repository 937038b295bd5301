import NetlinkIpvs.AnyOrder
import NetlinkIpvs.Ctrl
import NetlinkIpvs.Reference

/-!
# Where the code panics

Decoding a message panics on an attribute of an unknown kind, a number that is cut short,
and a value outside its domain, unless something before it is an error. `Accepted` and
`Aborts` say of each frame, and of a message, whether it is decoded and whether the decoder
panics on it (`IpvsServiceCtrl.parseWithParam_settles`).

Putting the attributes together panics iff the address does not fit the family, or the
netmask does not (`not_panicked_fromNlas_iff`).
-/

open Rust Rust.Outcome
open Tlv.Format (readAll)

namespace NetlinkIpvs

/-! ## Numbers in a payload -/

section Numbers

variable {K : Crates} (hK : K.Documented)

include hK

/-- A read from the front of a payload panics iff the payload is too short. -/
theorem Crates.readU16_settles {α : Type} (e : ByteOrder) (v : Bytes) (f : UInt16 → α) :
    ((liftM (K.readU16 e v) : Outcome DecodeError UInt16) >>= fun val => pure (f val)).Settles
      (2 ≤ v.length) (v.length < 2) :=
  settles_of_le (fun h => ⟨_, hK.readU16_eq e v h⟩) (hK.readU16_short e v) f

/-- A read from the front of a payload panics iff the payload is too short. -/
theorem Crates.readU32_settles {α : Type} (e : ByteOrder) (v : Bytes) (f : UInt32 → α) :
    ((liftM (K.readU32 e v) : Outcome DecodeError UInt32) >>= fun val => pure (f val)).Settles
      (4 ≤ v.length) (v.length < 4) :=
  settles_of_le (fun h => ⟨_, hK.readU32_eq e v h⟩) (hK.readU32_short e v) f

/-- A payload of another length is an error. What follows gets the number. -/
theorem Crates.parseU16_settles {α : Type} (v : Bytes) {f : UInt16 → Outcome DecodeError α}
    (good bad : ℕ → Prop) (h : ∀ val, (f val).Settles (good val.toNat) (bad val.toNat)) :
    (ofExcept (K.parseU16 v) >>= f).Settles
      (v.length = 2 ∧ good (K.host.decode v)) (v.length = 2 ∧ bad (K.host.decode v)) := by
  refine settles_ofExcept (fun hlen => ⟨_, hK.parseU16_eq v hlen, ?_⟩) (hK.parseU16_other v)
  have hlt := K.host.decode_lt v
  have hf := h (UInt16.ofNat (K.host.decode v))
  rw [hlen] at hlt
  rwa [UInt16.toNat_ofNat_of_lt' hlt] at hf

/-- A payload of another length is an error. What follows gets the number. -/
theorem Crates.parseU32_settles {α : Type} (v : Bytes) {f : UInt32 → Outcome DecodeError α}
    (good bad : ℕ → Prop) (h : ∀ val, (f val).Settles (good val.toNat) (bad val.toNat)) :
    (ofExcept (K.parseU32 v) >>= f).Settles
      (v.length = 4 ∧ good (K.host.decode v)) (v.length = 4 ∧ bad (K.host.decode v)) := by
  refine settles_ofExcept (fun hlen => ⟨_, hK.parseU32_eq v hlen, ?_⟩) (hK.parseU32_other v)
  have hlt := K.host.decode_lt v
  have hf := h (UInt32.ofNat (K.host.decode v))
  rw [hlen] at hlt
  rwa [UInt32.toNat_ofNat_of_lt' hlt] at hf

/-- A payload of another length is an error, and what follows always returns. -/
theorem Crates.parseU16_settles_pure {α : Type} (v : Bytes) (f : UInt16 → α) :
    (ofExcept (K.parseU16 v) >>= fun val => pure (f val)).Settles (v.length = 2) False :=
  (Crates.parseU16_settles hK v (fun _ => True) (fun _ => False) fun val =>
    settles_ok (f val)).congr (and_iff_left trivial) (iff_of_eq (and_false _))

/-- A payload of another length is an error, and what follows always returns. -/
theorem Crates.parseU32_settles_pure {α : Type} (v : Bytes) (f : UInt32 → α) :
    (ofExcept (K.parseU32 v) >>= fun val => pure (f val)).Settles (v.length = 4) False :=
  (Crates.parseU32_settles hK v (fun _ => True) (fun _ => False) fun val =>
    settles_ok (f val)).congr (and_iff_left trivial) (iff_of_eq (and_false _))

end Numbers

/-! ## Service attributes -/

/-- The names `Scheduler::from` knows. -/
def Scheduler.names : List String :=
  ["rr", "wrr", "lc", "wlc", "lblc", "lblcr", "dh", "sh", "sed", "nq", "fo", "fail", "ovf",
    "flow", "mh"]

theorem Scheduler.fromStr_settles (name : String) :
    (liftM (fromStr name) : Outcome DecodeError Scheduler).Settles (name ∈ names)
      (name ∉ names) := by
  unfold fromStr
  split
  all_goals
    first
    | exact (settles_ok _).congr (by decide) (by decide)
    | exact (settles_panic _).congr (by simp_all [names]) (by simp_all [names])

namespace SvcCtrlAttrs

variable (K : Crates)

/-- The frame is decoded. -/
def Accepted (f : NlaBuffer) : Prop :=
  match f.kind with
  | IPVS_SVC_ATTR_AF => f.value.length = 2 ∧ K.host.decode f.value ∈ [2, 10]
  | IPVS_SVC_ATTR_PROTOCOL => f.value.length = 2 ∧ K.host.decode f.value ∈ [0x06, 0x11, 0x84]
  | IPVS_SVC_ATTR_ADDR => True
  | IPVS_SVC_ATTR_PORT => 2 ≤ f.value.length
  | IPVS_SVC_ATTR_FWMARK | IPVS_SVC_ATTR_FLAGS | IPVS_SVC_ATTR_TIMEOUT => 4 ≤ f.value.length
  | IPVS_SVC_ATTR_SCHED_NAME =>
    ∃ name, fromUtf8 f.value = some name ∧ trimEndNul name ∈ Scheduler.names
  | IPVS_SVC_ATTR_NETMASK => (f.value.map UInt8.countOnes).sum ≤ 128
  | IPVS_SVC_ATTR_STATS => True
  | IPVS_SVC_ATTR_STATS64 => Stats64.Accepted K f.value
  | _ => False

/-- The decoder panics on the frame : its number is cut short, its value is outside the
domain, or its kind is unknown. -/
def Aborts (f : NlaBuffer) : Prop :=
  match f.kind with
  | IPVS_SVC_ATTR_AF | IPVS_SVC_ATTR_ADDR | IPVS_SVC_ATTR_STATS => False
  | IPVS_SVC_ATTR_PROTOCOL => f.value.length = 2 ∧ K.host.decode f.value ∉ [0x06, 0x11, 0x84]
  | IPVS_SVC_ATTR_PORT => f.value.length < 2
  | IPVS_SVC_ATTR_FWMARK | IPVS_SVC_ATTR_FLAGS | IPVS_SVC_ATTR_TIMEOUT => f.value.length < 4
  | IPVS_SVC_ATTR_SCHED_NAME =>
    ∃ name, fromUtf8 f.value = some name ∧ trimEndNul name ∉ Scheduler.names
  | IPVS_SVC_ATTR_NETMASK => 128 < (f.value.map UInt8.countOnes).sum
  | IPVS_SVC_ATTR_STATS64 => Stats64.Aborts K f.value
  | _ => True

variable {K} (hK : K.Documented)

include hK

/-- Decoding an attribute returns `Ok` iff the frame is accepted, and panics iff it aborts. -/
theorem parse_settles (f : NlaBuffer) : (parse K f).Settles (Accepted K f) (Aborts K f) := by
  obtain ⟨kind, v⟩ := f
  unfold parse Accepted Aborts
  dsimp only
  split
  case h_1 =>
    refine (Crates.parseU16_settles hK v (· ∈ [2, 10]) (fun _ => False) fun val => ?_).congr
      Iff.rfl (iff_of_eq (and_false _))
    split
    · exact (settles_ok _).congr (by simp [*]) Iff.rfl
    · exact (settles_ok _).congr (by simp [*]) Iff.rfl
    · exact (settles_err _).congr (by simp_all) Iff.rfl
  case h_2 => exact settles_ok _
  case h_3 =>
    refine Crates.parseU16_settles hK v (· ∈ [0x06, 0x11, 0x84]) (· ∉ [0x06, 0x11, 0x84])
      fun val => ?_
    split
    · exact (settles_ok _).congr (by simp [*]) (by simp [*])
    · exact (settles_ok _).congr (by simp [*]) (by simp [*])
    · exact (settles_ok _).congr (by simp [*]) (by simp [*])
    · exact (settles_panic _).congr (by simp_all) (by simp_all)
  case h_4 => exact Crates.readU16_settles hK .little v fun val => port (UInt16.fromBe K.host val)
  case h_5 => exact Crates.readU32_settles hK .little v fun val => flags ⟨val⟩
  case h_6 => exact Crates.readU32_settles hK .big v fwmark
  case h_7 =>
    cases hname : fromUtf8 v with
    | none => exact (settles_err _).congr (by simp) (by simp)
    | some name =>
      simp only [okOr_some, ok_bind, Option.some.injEq, exists_eq_left']
      exact (Scheduler.fromStr_settles (trimEndNul name)).map scheduler
  case h_8 => exact Crates.readU32_settles hK .big v timeout
  case h_9 =>
    split_ifs with h
    · exact (settles_ok _).congr (by simpa using h) (by simpa using h)
    · exact (settles_panic _).congr (by simpa using h) (by simpa using h)
  case h_10 => exact (Stats64.parseNlas_settles hK v).map stats64
  case h_11 => exact settles_ok _
  case h_12 =>
    refine (settles_panic _).congr ?_ ?_
    all_goals try split
    all_goals first | contradiction | rfl

end SvcCtrlAttrs

/-! ## Destination attributes -/

theorem ForwardType.tryFrom_settles (val : UInt32) :
    (tryFrom val).Settles (val.toNat = 0) (val.toNat ≠ 0) := by
  unfold tryFrom
  split
  · exact (settles_ok _).congr (by simp [*]) (by simp [*])
  · exact (settles_panic _).congr (by simp_all) (by simp_all)

theorem AddressFamily.tryFrom_settles (val : UInt16) :
    (tryFrom val).Settles (val.toNat ∈ [2, 10]) False := by
  unfold tryFrom
  split
  · exact (settles_ok _).congr (by simp [*]) Iff.rfl
  · exact (settles_ok _).congr (by simp [*]) Iff.rfl
  · exact (settles_err _).congr (by simp_all) Iff.rfl

theorem TunnelType.tryFrom_settles (val : UInt8) :
    (tryFrom val).Settles (val = 0) (val ≠ 0) := by
  unfold tryFrom
  split
  next h =>
    obtain rfl : val = 0 := UInt8.toNat_inj.1 h
    exact (settles_ok _).congr (by simp) (by simp)
  next h =>
    have hne : val ≠ 0 := by
      rintro rfl
      exact h rfl
    exact (settles_panic _).congr (by simp [hne]) (by simp [hne])

namespace DestinationCtrlAttrs

variable (K : Crates)

/-- The frame is decoded. -/
def Accepted (f : NlaBuffer) : Prop :=
  match f.kind with
  | IPVS_DEST_ATTR_ADDR | IPVS_DEST_ATTR_STATS => True
  | IPVS_DEST_ATTR_PORT => 2 ≤ f.value.length
  | IPVS_DEST_ATTR_FWD_METHOD => f.value.length = 4 ∧ K.host.decode f.value = 0
  | IPVS_DEST_ATTR_WEIGHT | IPVS_DEST_ATTR_U_THRESH | IPVS_DEST_ATTR_L_THRESH
  | IPVS_DEST_ATTR_ACTIVE_CONNS | IPVS_DEST_ATTR_INACT_CONNS
  | IPVS_DEST_ATTR_PERSIST_CONNS => f.value.length = 4
  | IPVS_DEST_ATTR_STATS64 => Stats64.Accepted K f.value
  | IPVS_DEST_ATTR_ADDR_FAMILY => f.value.length = 2 ∧ K.host.decode f.value ∈ [2, 10]
  | IPVS_DEST_ATTR_TUN_TYPE => f.value.head? = some 0
  | IPVS_DEST_ATTR_TUN_PORT | IPVS_DEST_ATTR_TUN_FLAGS => f.value.length = 2
  | _ => False

/-- The decoder panics on the frame : its port is cut short, its forwarding method or its
tunnel type is outside the domain, or its tunnel type is empty. -/
def Aborts (f : NlaBuffer) : Prop :=
  match f.kind with
  | IPVS_DEST_ATTR_PORT => f.value.length < 2
  | IPVS_DEST_ATTR_FWD_METHOD => f.value.length = 4 ∧ K.host.decode f.value ≠ 0
  | IPVS_DEST_ATTR_STATS64 => Stats64.Aborts K f.value
  | IPVS_DEST_ATTR_TUN_TYPE => f.value.head? ≠ some 0
  | _ => False

variable {K} (hK : K.Documented)

include hK

/-- Decoding an attribute returns `Ok` iff the frame is accepted, and panics iff it aborts. -/
theorem parse_settles (f : NlaBuffer) : (parse K f).Settles (Accepted K f) (Aborts K f) := by
  obtain ⟨kind, v⟩ := f
  unfold parse Accepted Aborts
  dsimp only
  split
  case h_1 => exact settles_ok _
  case h_2 => exact Crates.readU16_settles hK .big v port
  case h_3 =>
    exact Crates.parseU32_settles hK v (· = 0) (· ≠ 0) fun val =>
      (ForwardType.tryFrom_settles val).map fwdMethod
  case h_4 => exact Crates.parseU32_settles_pure hK v weight
  case h_5 => exact Crates.parseU32_settles_pure hK v upperThreshold
  case h_6 => exact Crates.parseU32_settles_pure hK v lowerThreshold
  case h_7 => exact Crates.parseU32_settles_pure hK v activeConns
  case h_8 => exact Crates.parseU32_settles_pure hK v inactiveConns
  case h_9 => exact Crates.parseU32_settles_pure hK v persistConns
  case h_10 => exact (Stats64.parseNlas_settles hK v).map stats64
  case h_11 => exact settles_ok _
  case h_12 =>
    exact (Crates.parseU16_settles hK v (· ∈ [2, 10]) (fun _ => False) fun val =>
      (AddressFamily.tryFrom_settles val).map addrFamily).congr Iff.rfl (iff_of_eq (and_false _))
  case h_13 =>
    cases v with
    | nil => exact (settles_panic _).congr (by simp) (by simp)
    | cons b v =>
      exact ((TunnelType.tryFrom_settles b).map tunType).congr (by simp) (by simp)
  case h_14 => exact Crates.parseU16_settles_pure hK v tunPort
  case h_15 => exact Crates.parseU16_settles_pure hK v fun val => tunFlags ⟨val⟩
  case h_16 =>
    refine (settles_err _).congr ?_ ?_
    all_goals try split
    all_goals first | contradiction | rfl

end DestinationCtrlAttrs

/-! ## Groups and messages -/

namespace IpvsCtrlAttrs

variable (K : Crates)

/-- The frame is decoded : frames that are decoded cover its value. -/
def Accepted (f : NlaBuffer) : Prop :=
  match f.kind with
  | IPVS_CMD_ATTR_SERVICE => K.format.complete f.value = true ∧
    ∀ x ∈ K.format.frames f.value, SvcCtrlAttrs.Accepted K x
  | IPVS_CMD_ATTR_DEST => K.format.complete f.value = true ∧
    ∀ x ∈ K.format.frames f.value, DestinationCtrlAttrs.Accepted K x
  | _ => False

/-- The decoder panics on the frame : it gets to an attribute it panics on, or the kind is
unknown. -/
def Aborts (f : NlaBuffer) : Prop :=
  match f.kind with
  | IPVS_CMD_ATTR_SERVICE =>
    Reaches (SvcCtrlAttrs.Accepted K) (SvcCtrlAttrs.Aborts K) (K.format.frames f.value)
  | IPVS_CMD_ATTR_DEST =>
    Reaches (DestinationCtrlAttrs.Accepted K) (DestinationCtrlAttrs.Aborts K)
      (K.format.frames f.value)
  | _ => True

variable {K} (hK : K.Documented)

include hK

/-- Decoding a group returns `Ok` iff the frame is accepted, and panics iff it aborts. -/
theorem parse_settles (f : NlaBuffer) : (parse K f).Settles (Accepted K f) (Aborts K f) := by
  obtain ⟨kind, v⟩ := f
  unfold parse Accepted Aborts
  dsimp only
  split
  case h_1 =>
    exact (Tlv.Format.readAll_settles hK.nlasIterator (SvcCtrlAttrs.parse_settles hK) v).map
      service
  case h_2 =>
    exact (Tlv.Format.readAll_settles hK.nlasIterator
      (DestinationCtrlAttrs.parse_settles hK) v).map destination
  case h_3 => exact (settles_panic _).congr (by grind) (by grind)

end IpvsCtrlAttrs

namespace IpvsServiceCtrl

variable (K : Crates) (buf : Bytes) (header : GenlHeader)

/-- The message is decoded : its command is known, and frames that are decoded cover it. -/
def Accepted : Prop :=
  header.cmd ≤ 8 ∧ K.format.complete buf = true ∧
    ∀ f ∈ K.format.frames buf, IpvsCtrlAttrs.Accepted K f

/-- The decoder of a message gets to a group it panics on, unless the command is unknown. -/
def Aborts : Prop :=
  header.cmd ≤ 8 ∧
    Reaches (IpvsCtrlAttrs.Accepted K) (IpvsCtrlAttrs.Aborts K) (K.format.frames buf)

variable {K} in
/-- Decoding a message returns `Ok` iff it is accepted, and panics iff it aborts. -/
theorem parseWithParam_settles (hK : K.Documented) :
    (parseWithParam K buf header).Settles (Accepted K buf header) (Aborts K buf header) := by
  have hgroups : (parseCtrlnlas K buf).Settles _ _ :=
    (Tlv.Format.readAll_settles hK.nlasIterator (IpvsCtrlAttrs.parse_settles hK) buf).mapErr _
  rw [parseWithParam]
  rcases IpvsCtrlCmd.tryFrom_cases header.cmd with ⟨hle, cmd, hcmd⟩ | ⟨hlt, e, he⟩
  · rw [hcmd, ok_bind]
    exact (hgroups.map _).congr (and_iff_right hle).symm (and_iff_right hle).symm
  · have hcmd : ¬header.cmd ≤ 8 := UInt8.not_le.2 hlt
    rw [he, err_bind]
    exact (settles_err e).congr (by simp [Accepted, hcmd]) (by simp [Aborts, hcmd])

end IpvsServiceCtrl

/-! ## Putting attributes together -/

open LastWins

theorem Service.Slots.finish_panicked (slots : Service.Slots) : slots.finish.Panicked ↔
    ∃ f, slots.family = some f ∧ ∃ a, slots.address = some a ∧
      (¬a.Fits f ∨ ∃ nm, slots.netmask = some nm ∧ ¬nm.ones ≤ f.bits) := by
  unfold finish
  simp only [bind_panicked, panicked_okOr, panicked_lift, okOr_eq_ok, lift_eq_ok, pure_eq,
    panicked_ok, AddrBytes.exists_asIpaddr_iff, Netmask.exists_new_iff, and_false, exists_false,
    or_false, false_or, exists_and_right]
  refine exists_congr fun f => and_congr_right fun _ => exists_congr fun a =>
    and_congr_right fun _ => ?_
  by_cases hfit : a.Fits f <;> simp [hfit]

theorem DestinationExtended.Slots.fullMethod_panicked (slots : DestinationExtended.Slots)
    (method : ForwardType) : ¬(slots.fullMethod method).Panicked := by
  cases method <;> simp [fullMethod, bind_panicked]

theorem DestinationExtended.Slots.finish_panicked (slots : DestinationExtended.Slots) :
    slots.finish.Panicked ↔
      ∃ f, slots.family = some f ∧ ∃ a, slots.address = some a ∧ ¬a.Fits f := by
  unfold finish
  simp only [bind_panicked, panicked_okOr, panicked_lift, okOr_eq_ok, lift_eq_ok, pure_eq,
    panicked_ok, AddrBytes.exists_asIpaddr_iff, fullMethod_panicked, and_false, exists_false,
    or_false, false_or]

/-- The last address fits the last family, if there are both, and so does the last netmask,
if there is one. -/
def SvcCtrlAttrs.Consistent (nlas : List SvcCtrlAttrs) : Prop :=
  ∀ f, last asAddressFamily nlas = some f → ∀ a, last asAddrBytes nlas = some a →
    a.Fits f ∧ ∀ nm, last asNetmask nlas = some nm → nm.ones ≤ f.bits

/-- The last address fits the last family, if there are both. -/
def DestinationCtrlAttrs.Consistent (nlas : List DestinationCtrlAttrs) : Prop :=
  ∀ f, last asAddrFamily nlas = some f → ∀ a, last asAddr nlas = some a → a.Fits f

theorem Service.fromNlas_panicked_iff {nlas : List SvcCtrlAttrs} :
    (fromNlas nlas).Panicked ↔ ¬SvcCtrlAttrs.Consistent nlas := by
  rw [iff_not_comm, fromNlas, Slots.finish_panicked, slots_eq]
  simp only [SvcCtrlAttrs.Consistent, not_exists, not_and, not_or, not_not]

theorem DestinationExtended.fromNlas_panicked_iff {nlas : List DestinationCtrlAttrs} :
    (fromNlas nlas).Panicked ↔ ¬DestinationCtrlAttrs.Consistent nlas := by
  rw [iff_not_comm, fromNlas, Slots.finish_panicked, slots_eq]
  simp only [DestinationCtrlAttrs.Consistent, not_exists, not_and, not_not]

/-- Putting the attributes of a service and those of a destination together does not panic
iff they are consistent. -/
theorem not_panicked_fromNlas_iff (svc : List SvcCtrlAttrs) (dest : List DestinationCtrlAttrs) :
    (¬(Service.fromNlas svc).Panicked ↔ SvcCtrlAttrs.Consistent svc) ∧
      (¬(DestinationExtended.fromNlas dest).Panicked ↔ DestinationCtrlAttrs.Consistent dest) :=
  ⟨not_iff_comm.1 Service.fromNlas_panicked_iff.symm,
    not_iff_comm.1 DestinationExtended.fromNlas_panicked_iff.symm⟩

/-- A received IPv4 address of one byte, a received netmask of 33 ones, and an IPv6 address
of four bytes. -/
theorem panicked_fromNlas :
    collect (SvcCtrlAttrs.parse (Crates.reference .little)) [⟨1, [2, 0]⟩, ⟨3, [10]⟩] =
      .ok [.addressFamily .IPv4, .addrBytes ⟨[10]⟩] ∧
    (Service.fromNlas [.addressFamily .IPv4, .addrBytes ⟨[10]⟩]).Panicked ∧
    collect (SvcCtrlAttrs.parse (Crates.reference .little))
        [⟨1, [2, 0]⟩, ⟨3, [10, 0, 0, 1]⟩, ⟨9, [255, 255, 255, 255, 128]⟩] =
      .ok [.addressFamily .IPv4, .addrBytes ⟨[10, 0, 0, 1]⟩, .netmask (.withoutAf 33)] ∧
    (Service.fromNlas [.addressFamily .IPv4, .addrBytes ⟨[10, 0, 0, 1]⟩,
      .netmask (.withoutAf 33)]).Panicked ∧
    collect (DestinationCtrlAttrs.parse (Crates.reference .little))
        [⟨11, [10, 0]⟩, ⟨1, [10, 0, 0, 1]⟩] =
      .ok [.addrFamily .IPv6, .addr ⟨[10, 0, 0, 1]⟩] ∧
    (DestinationExtended.fromNlas [.addrFamily .IPv6, .addr ⟨[10, 0, 0, 1]⟩]).Panicked := by
  refine ⟨by decide +kernel, ⟨.outOfBounds, rfl⟩, by decide +kernel, ?_, by decide +kernel,
    ⟨.sizeMismatch, rfl⟩⟩
  exact ⟨.explicit "'ones' cannot be more than length of IP address in bits", rfl⟩

end NetlinkIpvs

import NetlinkIpvs.Coverage
import NetlinkIpvs.Requirements
import NetlinkIpvs.Sending

/-!
# Sending back what was received

`from_nlas` completes what the parser leaves open : the netmask gets the family of the
service, and an address of any length becomes one of the family (`Service.Valid`,
`Destination.Valid`). A valid service is sent, and it is put together again from its own
attributes. A valid destination is put together again too, but it is sent iff the last
forwarding method of its list is masquerading (`resends_iff`). The parser returns no other
method, so that what was received can be sent back (`sends_of_parse`).
-/

open Rust Rust.Outcome LastWins

namespace NetlinkIpvs

variable {K : Crates}

/-! ## Services -/

/-- The address and the netmask are of the family. -/
structure Service.Valid (s : Service) : Prop where
  address : s.address.family = s.family
  netmask : s.netmask.addressFamily = some s.family

/-- A service that is put together is valid. -/
theorem ServiceExtended.Built.valid {nlas : List SvcCtrlAttrs} {x : ServiceExtended}
    (h : Built nlas x) : x.service.Valid := by
  obtain ⟨a, -, ha⟩ := h.address
  obtain ⟨nm, -, hnm⟩ := h.netmask
  exact ⟨AddrBytes.family_of_asIpaddr ha, (Netmask.new_eq_ok.1 hnm).2⟩

namespace Service.Valid

variable {s : Service} (h : s.Valid)

include h

/-- The number of ones fits the family. -/
theorem ones_le : s.netmask.ones ≤ s.family.bits :=
  s.netmask.fits s.family h.netmask

/-- A valid service is put together again from its attributes. -/
theorem fromNlas_createNlas (st : Stats64) :
    fromNlas (s.createNlas ++ [.stats64 st]) = .ok ⟨s, st⟩ :=
  fromNlas_perm (k := 0) h.address (Netmask.new_ones h.netmask) (List.Perm.refl _)

/-- The attributes of a valid service are sent. -/
theorem sends_createNlas (hK : K.Documented) :
    K.Sends (s.createNlas.map (SvcCtrlAttrs.nla K)) :=
  IpvsCtrlAttrs.sends_nlas hK (g := .service s.createNlas) (sendable_createNlas h.netmask)
    (s.fits_group hK)

/-- A message about a valid service is sent. -/
theorem sends_message (hK : K.Documented) (cmd : IpvsCtrlCmd) (familyId : UInt16) :
    IpvsServiceCtrl.Sends K ⟨cmd, [.service s.createNlas], familyId⟩ := by
  refine IpvsServiceCtrl.sends_of_sendable hK (fun g hg => ?_) (fun g hg => ?_)
  · obtain rfl := List.mem_singleton.1 hg
    exact sendable_createNlas h.netmask
  · obtain rfl := List.mem_singleton.1 hg
    exact s.fits_group hK

end Service.Valid

/-! ## Destinations -/

/-- The address is of the family. -/
def Destination.Valid (d : Destination) : Prop :=
  d.address.family = d.family

/-- A destination that is put together is valid. -/
theorem DestinationExtended.Built.valid {nlas : List DestinationCtrlAttrs}
    {y : DestinationExtended} (h : Built nlas y) : y.destination.Valid := by
  obtain ⟨a, -, ha⟩ := h.address
  exact AddrBytes.family_of_asIpaddr ha

/-- A valid destination is put together again from its attributes. -/
theorem DestinationExtended.fromNlas_createNlas {y : DestinationExtended}
    (h : y.destination.Valid) :
    fromNlas (y.destination.createNlas ++ [.activeConns y.activeConnections,
      .inactiveConns y.inactiveConnections, .persistConns y.persistentConnections,
      .stats64 y.stats64]) = .ok y :=
  fromNlas_perm (k := 0) h (List.Perm.refl _)

/-! ## What is received -/

theorem ForwardType.eq_masquerade_of_tryFrom {val : UInt32} {m : ForwardType}
    (h : tryFrom val = .ok m) : m = masquerade := by
  unfold tryFrom at h
  split at h
  · exact (ok.inj h).symm
  · cases h

/-- The parser knows no forwarding method but masquerading. -/
theorem DestinationCtrlAttrs.masquerade_of_parse {f : NlaBuffer} {m : ForwardType}
    (h : parse K f = .ok (.fwdMethod m)) : m = .masquerade := by
  unfold parse at h
  split at h
  -- every branch but one returns another attribute
  all_goals simp [bind_eq_ok] at h
  obtain ⟨val, -, hval⟩ := h
  exact ForwardType.eq_masquerade_of_tryFrom hval

/-- A destination put together from a group that was received is masqueraded. -/
theorem DestinationExtended.masquerade_of_parse (hK : K.Documented) {f : NlaBuffer}
    {nlas : List DestinationCtrlAttrs} {y : DestinationExtended}
    (hparse : IpvsCtrlAttrs.parse K f = .ok (.destination nlas)) (h : Built nlas y) :
    y.destination.fwdMethod = .masquerade := by
  obtain ⟨-, -, fs, -, hfs⟩ := IpvsCtrlAttrs.decodedFrom_of_parse hK hparse
  obtain ⟨m, hm, hfull⟩ := h.fwdMethod
  obtain ⟨a, ha, hsel⟩ := mem_of_last hm
  obtain ⟨g, hg, -⟩ := exists_forall₂.1 ⟨fs, List.Forall₂.flip hfs⟩ a ha
  obtain rfl : a = .fwdMethod m := by
    cases a <;> cases hsel
    rfl
  obtain rfl := DestinationCtrlAttrs.masquerade_of_parse hg
  exact hfull

/-! ## Sending back -/

/-- What is put together as a service keeps what sending relies on, is sent, and is put
together again. -/
structure ServiceExtended.Resends (K : Crates) (x : ServiceExtended) : Prop where
  address : x.service.address.family = x.service.family
  netmask : x.service.netmask.addressFamily = some x.service.family
  ones : x.service.netmask.ones ≤ x.service.family.bits
  addrBytes : ∃ b, x.service.createNlas.filterMap SvcCtrlAttrs.asAddrBytes = [b] ∧
    b.bytes.length = 16
  sends : K.Sends (x.service.createNlas.map (SvcCtrlAttrs.nla K))
  sendsMessage : ∀ cmd familyId,
    IpvsServiceCtrl.Sends K ⟨cmd, [.service x.service.createNlas], familyId⟩
  again : Service.fromNlas (x.service.createNlas ++ [.stats64 x.stats64]) = .ok x

/-- What is put together as a destination keeps what sending relies on, and is put together
again. -/
structure DestinationExtended.Resends (y : DestinationExtended) : Prop where
  address : y.destination.address.family = y.destination.family
  addr : ∃ b, y.destination.createNlas.filterMap DestinationCtrlAttrs.asAddr = [b] ∧
    b.bytes.length = 16 ∧ (DestinationCtrlAttrs.addr b).valueLen = .ok b.bytes.length
  again : fromNlas (y.destination.createNlas ++ [.activeConns y.activeConnections,
    .inactiveConns y.inactiveConnections, .persistConns y.persistentConnections,
    .stats64 y.stats64]) = .ok y

/-- A destination is masqueraded iff the last forwarding method of its list is masquerading. -/
theorem DestinationExtended.Built.masquerade_iff {nlas : List DestinationCtrlAttrs}
    {y : DestinationExtended} (h : Built nlas y) :
    y.destination.fwdMethod = .masquerade ↔
      last DestinationCtrlAttrs.asFwdMethod nlas = some .masquerade := by
  obtain ⟨m, hm, hmethod⟩ := h.fwdMethod
  rw [hm]
  cases m with
  | masquerade => exact iff_of_true hmethod rfl
  | direct => exact iff_of_false (by simp [show _ = ForwardTypeFull.direct from hmethod]) (by simp)
  | tunnel =>
    obtain ⟨t, p, f, -, -, -, hfull⟩ := hmethod
    exact iff_of_false (by simp [hfull]) (by simp)

/-- What is put together as a service can be sent back, and is put together again. What is put
together as a destination is put together again, and can be sent back, with a service, iff
the last forwarding method of its list is masquerading. -/
theorem resends_iff (hK : K.Documented) :
    (∀ svc x, Service.fromNlas svc = .ok x → x.Resends K) ∧
    ∀ dest y, DestinationExtended.fromNlas dest = .ok y →
      y.Resends ∧ ∀ svc x, Service.fromNlas svc = .ok x → ∀ cmd familyId,
        ((IpvsServiceCtrl.create cmd familyId x.service y.destination).Sends K ↔
          last DestinationCtrlAttrs.asFwdMethod dest = some .masquerade) := by
  refine ⟨fun svc x hx => ?_, fun dest y hy => ⟨?_, ?_⟩⟩
  · have hv := (ServiceExtended.fromNlas_eq_ok.1 hx).valid
    exact ⟨hv.address, hv.netmask, hv.ones_le,
      ⟨_, x.service.filterMap_asAddrBytes, x.service.address.length_octets⟩,
      hv.sends_createNlas hK, hv.sends_message hK, hv.fromNlas_createNlas x.stats64⟩
  · have hv := (DestinationExtended.fromNlas_eq_ok.1 hy).valid
    have hlen := y.destination.address.length_octets
    exact ⟨hv, ⟨_, y.destination.filterMap_asAddr, hlen, by rw [hlen]; rfl⟩,
      DestinationExtended.fromNlas_createNlas hv⟩
  · intro svc x hx cmd familyId
    have hv := (ServiceExtended.fromNlas_eq_ok.1 hx).valid
    rw [IpvsServiceCtrl.sends_iff_masquerade hK cmd familyId hv.netmask]
    exact (DestinationExtended.fromNlas_eq_ok.1 hy).masquerade_iff

/-- A service from a list with two netmasks, the last one without a family, and a destination
from a list in which masquerading comes after a tunnel. -/
theorem resends_iff_web :
    ServiceExtended.Resends (Crates.reference .little) ⟨.web, {}⟩ ∧
    (IpvsServiceCtrl.create .setDest 0 .web (.web .masquerade 8080)).Sends
      (Crates.reference .little) := by
  obtain ⟨hsvc, hdest⟩ := resends_iff (Crates.reference_documented .little)
  have hweb : Service.fromNlas (.netmask ⟨128, some .IPv6, by decide⟩ ::
      (Service.web.createNlas.map SvcCtrlAttrs.forgetFamily ++ [.stats64 {}])) =
        .ok ⟨.web, {}⟩ := rfl
  have hreal : DestinationExtended.fromNlas (.fwdMethod .tunnel ::
      ((Destination.web .masquerade 8080).createNlas ++ [.activeConns 0, .inactiveConns 0,
        .persistConns 0, .stats64 {}])) = .ok ⟨.web .masquerade 8080, 0, 0, 0, {}⟩ := rfl
  exact ⟨hsvc _ _ hweb, ((hdest _ _ hreal).2 _ _ hweb .setDest 0).2 rfl⟩

/-- A destination that is put together from a list with direct routing has no number for its
method, and cannot be sent back. -/
theorem not_resends_direct :
    Service.fromNlas (Service.web.createNlas ++ [.stats64 {}]) = .ok ⟨.web, {}⟩ ∧
    DestinationExtended.fromNlas ((Destination.web .direct 8080).createNlas ++
      [.activeConns 0, .inactiveConns 0, .persistConns 0, .stats64 {}]) =
        .ok ⟨.web .direct 8080, 0, 0, 0, {}⟩ ∧
    ¬(IpvsServiceCtrl.create .setDest 0 .web (.web .direct 8080)).Sends
      (Crates.reference .little) := by
  refine ⟨rfl, rfl, ?_⟩
  rw [IpvsServiceCtrl.sends_iff_masquerade (Crates.reference_documented .little) .setDest 0
    (show Service.web.netmask.addressFamily = some .IPv4 from rfl)]
  exact nofun

/-- A destination that was received can be sent back, with a service. -/
theorem sends_of_parse (hK : K.Documented) {svc : List SvcCtrlAttrs} {x : ServiceExtended}
    {f : NlaBuffer} {dest : List DestinationCtrlAttrs} {y : DestinationExtended}
    (hx : Service.fromNlas svc = .ok x) (hparse : IpvsCtrlAttrs.parse K f = .ok (.destination dest))
    (hy : DestinationExtended.fromNlas dest = .ok y) (cmd : IpvsCtrlCmd) (familyId : UInt16) :
    (IpvsServiceCtrl.create cmd familyId x.service y.destination).Sends K := by
  have hv := (ServiceExtended.fromNlas_eq_ok.1 hx).valid
  have hbuilt := DestinationExtended.fromNlas_eq_ok.1 hy
  exact (IpvsServiceCtrl.sends_iff_masquerade hK cmd familyId hv.netmask).2
    (DestinationExtended.masquerade_of_parse hK hparse hbuilt)

end NetlinkIpvs

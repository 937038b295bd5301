import NetlinkIpvs.Payload
import NetlinkIpvs.Reference

/-!
# Sending messages

The emission of a message that completes is its encoding, whatever was in the buffer
(`emit_eq_wire`). A service is always sent. A destination is sent iff its forwarding
method is masquerading (`sends_create_iff`) : the other methods have no number.
-/

open Rust Rust.Outcome

namespace NetlinkIpvs

variable {K : Crates}

/-! ## Emission is encoding -/

section Wire

variable (hK : K.Documented)

include hK

/-- The groups of a message whose emission completes can be sent. -/
theorem IpvsServiceCtrl.sendable_of_emit {m : IpvsServiceCtrl} {len : ℕ} {buf out : Bytes}
    (hfit : ∀ g ∈ m.nlas, (IpvsCtrlAttrs.nla K g).Fits) (hlen : m.bufferLen K = .ok len)
    (hbuf : buf.length = len) (hout : m.emit K buf = .ok out) : ∀ g ∈ m.nlas, g.Sendable := by
  have hf : ∀ n ∈ m.nlas.map (IpvsCtrlAttrs.nla K), n.Fits := by
    intro n hn
    obtain ⟨g, hg, rfl⟩ := List.mem_map.1 hn
    exact hfit g hg
  intro g hg
  exact IpvsCtrlAttrs.sendable_of_completes hK (hfit g hg)
    (Crates.completes_of_nlasEmit hK hf hlen hbuf hout _ (List.mem_map_of_mem hg))

omit hK in
theorem IpvsServiceCtrl.wire_eq (m : IpvsServiceCtrl) : m.wire K.host =
    K.format.encode (m.nlas.map fun g => ((IpvsCtrlAttrs.nla K g).rawKind, g.payload K.host)) := by
  simp only [IpvsCtrlAttrs.rawKind_nla]
  rfl

variable {m : IpvsServiceCtrl} (hm : ∀ g ∈ m.nlas, g.Sendable)
  (hfit : ∀ g ∈ m.nlas, (IpvsCtrlAttrs.nla K g).Fits)

include hm hfit

/-- The length of a message is the length of its encoding. -/
theorem IpvsServiceCtrl.bufferLen_eq : m.bufferLen K = .ok (m.wire K.host).length := by
  rw [m.wire_eq]
  exact Crates.nlasBufferLen_writes hK fun g hg => IpvsCtrlAttrs.writes hK (hm g hg) (hfit g hg)

/-- A message is emitted as its encoding, whatever was in the buffer. -/
theorem IpvsServiceCtrl.emit_eq {buf : Bytes} (hbuf : buf.length = (m.wire K.host).length) :
    m.emit K buf = .ok (m.wire K.host) := by
  rw [m.wire_eq] at hbuf ⊢
  exact Crates.nlasEmit_writes hK (fun g hg => IpvsCtrlAttrs.writes hK (hm g hg) (hfit g hg)) hfit
    hbuf

end Wire

/-- The bytes of a message whose emission completes are its encoding, on any buffer of its
length, and each attribute that completes announces the length of its payload and writes
the payload over any part of that length. -/
theorem emit_eq_wire (hK : K.Documented) :
    (∀ a : SvcCtrlAttrs, (SvcCtrlAttrs.nla K a).Completes →
      a.valueLen = .ok a.payload.length ∧ ∀ part : Bytes, part.length = a.payload.length →
        SvcCtrlAttrs.emitValue K a part = .ok a.payload) ∧
    (∀ a : DestinationCtrlAttrs, (DestinationCtrlAttrs.nla K a).Completes →
      a.valueLen = .ok (a.payload K.host).length ∧
        ∀ part : Bytes, part.length = (a.payload K.host).length →
          DestinationCtrlAttrs.emitValue K a part = .ok (a.payload K.host)) ∧
    ∀ (m : IpvsServiceCtrl) (len : ℕ) (buf out : Bytes),
      (∀ g ∈ m.nlas, (IpvsCtrlAttrs.nla K g).Fits) → m.bufferLen K = .ok len →
      buf.length = len → m.emit K buf = .ok out →
        out = m.wire K.host ∧ out.length = len ∧
          ∀ buf' : Bytes, buf'.length = len → m.emit K buf' = .ok out := by
  refine ⟨?_, ?_, ?_⟩
  · intro a ha
    have hw := SvcCtrlAttrs.writes hK ((SvcCtrlAttrs.completes_iff hK).1 ha)
    exact ⟨hw.valueLen, hw.emitValue⟩
  · intro a ha
    have hw := DestinationCtrlAttrs.writes hK ((DestinationCtrlAttrs.completes_iff hK).1 ha)
    exact ⟨hw.valueLen, hw.emitValue⟩
  · intro m len buf out hfit hlen hbuf hout
    have hm := m.sendable_of_emit hK hfit hlen hbuf hout
    have hw := m.bufferLen_eq hK hm hfit
    obtain rfl : len = (m.wire K.host).length := by
      rw [hlen] at hw
      exact Except.ok.inj hw
    have he : ∀ buf' : Bytes, buf'.length = _ → _ := fun buf' h => m.emit_eq hK hm hfit h
    rw [he buf hbuf] at hout
    obtain rfl := Except.ok.inj hout
    exact ⟨rfl, rfl, he⟩

/-- A message with a port, emitted on a buffer of sevens. -/
theorem emit_eq_wire_port :
    IpvsServiceCtrl.emit (Crates.reference .little)
      { cmd := .getService, nlas := [.service [.port 80]], familyId := 0 } (List.replicate 12 7) =
        .ok [12, 0, 1, 0x80, 6, 0, 4, 0, 0, 80, 0, 0] := by
  have hK := Crates.reference_documented .little
  refine ((emit_eq_wire hK).2.2 _ 12 (List.replicate 12 0) _ ?_ rfl rfl (by decide)).2.2 _ rfl
  intro g hg len hlen
  obtain rfl := List.mem_singleton.1 hg
  obtain rfl : 8 = len := Except.ok.inj hlen
  decide

/-! ## What can be sent -/

/-- The length of the message is computed, and its emission on any buffer of that length
completes. -/
def IpvsServiceCtrl.Sends (K : Crates) (m : IpvsServiceCtrl) : Prop :=
  ∃ len, m.bufferLen K = .ok len ∧ ∀ buf : Bytes, buf.length = len → ∃ out, m.emit K buf = .ok out

/-- The attributes of a slice have a length, and their emission on any buffer of that length
completes. -/
def Crates.Sends (K : Crates) (ns : List Nla) : Prop :=
  ∃ len, K.nlasBufferLen ns = .ok len ∧
    ∀ buf : Bytes, buf.length = len → ∃ out, K.nlasEmit ns buf = .ok out

/-- A message whose groups can be sent and fit is sent. -/
theorem IpvsServiceCtrl.sends_of_sendable (hK : K.Documented) {m : IpvsServiceCtrl}
    (hm : ∀ g ∈ m.nlas, g.Sendable) (hfit : ∀ g ∈ m.nlas, (IpvsCtrlAttrs.nla K g).Fits) :
    m.Sends K :=
  ⟨_, m.bufferLen_eq hK hm hfit, fun _ hbuf => ⟨_, m.emit_eq hK hm hfit hbuf⟩⟩

/-- The attributes of a group that can be sent and fits are sent as a slice. -/
theorem IpvsCtrlAttrs.sends_nlas (hK : K.Documented) {g : IpvsCtrlAttrs} (hg : g.Sendable)
    (hfit : (IpvsCtrlAttrs.nla K g).Fits) : K.Sends (IpvsCtrlAttrs.nlas K g) := by
  have hw := IpvsCtrlAttrs.writes hK hg hfit
  exact ⟨_, hw.valueLen, fun buf hbuf => ⟨_, hw.emitValue buf hbuf⟩⟩

theorem Service.sendable_createNlas {s : Service} {f : AddressFamily}
    (h : s.netmask.addressFamily = some f) : ∀ a ∈ s.createNlas, a.Sendable := by
  rw [Service.forall_mem_createNlas]
  simp [SvcCtrlAttrs.Sendable, h]

theorem Destination.sendable_createNlas_iff {d : Destination} :
    (∀ a ∈ d.createNlas, a.Sendable) ↔ d.fwdMethod = .masquerade := by
  rw [Destination.forall_mem_createNlas]
  cases h : d.fwdMethod <;>
    simp [DestinationCtrlAttrs.Sendable, ForwardTypeFull.toForwardType]

/-- The attributes of a service are short. -/
theorem Service.valueLen_le {s : Service} :
    ∀ a ∈ s.createNlas, ∀ len, a.valueLen = .ok len → len ≤ 16 := by
  have haddr : ∀ a ∈ s.createNlas, ∀ b, a = .addrBytes b → b.bytes.length ≤ 16 := by
    rw [Service.forall_mem_createNlas]
    simp
  intro a ha len hlen
  exact SvcCtrlAttrs.valueLen_le (haddr a ha) hlen

theorem Service.length_createNlas_le (s : Service) : s.createNlas.length ≤ 9 := by
  unfold createNlas
  cases s.port <;> cases s.fwMark <;> cases s.persistenceTimeout <;> simp

theorem Destination.length_createNlas_le (d : Destination) : d.createNlas.length ≤ 10 := by
  unfold createNlas
  cases d.fwdMethod <;> simp

section Created

variable (hK : K.Documented)

include hK

/-- A few short attributes fit, as a group. -/
theorem Crates.fits_group {g : IpvsCtrlAttrs} (hlen : (IpvsCtrlAttrs.nlas K g).length ≤ 10)
    (h : ∀ n ∈ IpvsCtrlAttrs.nlas K g, ∀ len, n.valueLen = .ok len → len ≤ 16) :
    (IpvsCtrlAttrs.nla K g).Fits := by
  intro total htotal
  have hle := Crates.nlasBufferLen_le hK h htotal
  have h20 : 4 + K.format.align 16 = 20 := by
    change 4 + (16 + 4 - 1) / 4 * 4 = 20
    decide
  rw [h20] at hle
  have := Nat.mul_le_mul_right 20 hlen
  omega

/-- A few service attributes whose addresses are short fit, as a group. -/
theorem Crates.fits_service {l : List SvcCtrlAttrs} (hlen : l.length ≤ 10)
    (haddr : ∀ b, .addrBytes b ∈ l → b.bytes.length ≤ 16) :
    (IpvsCtrlAttrs.nla K (.service l)).Fits := by
  refine Crates.fits_group hK (by simpa only [IpvsCtrlAttrs.nlas, List.length_map] using hlen)
    fun n hn => ?_
  obtain ⟨a, ha, rfl⟩ := List.mem_map.1 hn
  refine fun len h => SvcCtrlAttrs.valueLen_le ?_ h
  rintro b rfl
  exact haddr b ha

/-- A few destination attributes fit, as a group. -/
theorem Crates.fits_destination {l : List DestinationCtrlAttrs} (hlen : l.length ≤ 10) :
    (IpvsCtrlAttrs.nla K (.destination l)).Fits := by
  refine Crates.fits_group hK (by simpa only [IpvsCtrlAttrs.nlas, List.length_map] using hlen)
    fun n hn => ?_
  obtain ⟨a, ha, rfl⟩ := List.mem_map.1 hn
  exact fun len h => DestinationCtrlAttrs.valueLen_le h

/-- The group a service is sent as fits. -/
theorem Service.fits_group (s : Service) :
    (IpvsCtrlAttrs.nla K (.service s.createNlas)).Fits := by
  refine Crates.fits_group hK ?_ ?_
  · have := s.length_createNlas_le
    simp only [IpvsCtrlAttrs.nlas, List.length_map]
    omega
  · intro n hn
    obtain ⟨a, ha, rfl⟩ := List.mem_map.1 hn
    exact Service.valueLen_le a ha

/-- The group a destination is sent as fits. -/
theorem Destination.fits_group (d : Destination) :
    (IpvsCtrlAttrs.nla K (.destination d.createNlas)).Fits := by
  refine Crates.fits_group hK ?_ ?_
  · simpa only [IpvsCtrlAttrs.nlas, List.length_map] using d.length_createNlas_le
  · intro n hn
    obtain ⟨a, ha, rfl⟩ := List.mem_map.1 hn
    exact fun len hlen => DestinationCtrlAttrs.valueLen_le hlen

end Created

/-- The message about a service and a destination. -/
def IpvsServiceCtrl.create (cmd : IpvsCtrlCmd) (familyId : UInt16) (s : Service)
    (d : Destination) : IpvsServiceCtrl :=
  { cmd, nlas := [.service s.createNlas, .destination d.createNlas], familyId }

theorem IpvsServiceCtrl.fits_create (hK : K.Documented) (cmd : IpvsCtrlCmd) (familyId : UInt16)
    (s : Service) (d : Destination) :
    ∀ g ∈ (create cmd familyId s d).nlas, (IpvsCtrlAttrs.nla K g).Fits := by
  intro g hg
  rcases List.mem_pair.1 hg with rfl | rfl
  · exact s.fits_group hK
  · exact d.fits_group hK

/-- The message about a service, whose netmask has a family, and a destination is sent iff the
destination is masqueraded. -/
theorem IpvsServiceCtrl.sends_iff_masquerade (hK : K.Documented) (cmd : IpvsCtrlCmd)
    (familyId : UInt16) {s : Service} {f : AddressFamily} (hs : s.netmask.addressFamily = some f)
    {d : Destination} : (create cmd familyId s d).Sends K ↔ d.fwdMethod = .masquerade := by
  have hfit := fits_create hK cmd familyId s d
  constructor
  · rintro ⟨len, hlen, h⟩
    obtain ⟨out, hout⟩ := h (List.replicate len 0) List.length_replicate
    have hm := sendable_of_emit hK hfit hlen List.length_replicate hout
    exact Destination.sendable_createNlas_iff.1 (hm (.destination d.createNlas) (by simp [create]))
  · refine fun hd => sends_of_sendable hK (fun g hg => ?_) hfit
    rcases List.mem_pair.1 hg with rfl | rfl
    · exact Service.sendable_createNlas hs
    · exact Destination.sendable_createNlas_iff.2 hd

/-- The message about a service, with a netmask made by `Netmask::new`, and a destination
is sent iff the forwarding method of the destination is masquerading. -/
theorem sends_create_iff (hK : K.Documented) (cmd : IpvsCtrlCmd) (familyId : UInt16)
    {s : Service} {n : UInt8} {f : AddressFamily} (hs : Netmask.new n f = .ok s.netmask)
    (d : Destination) :
    (IpvsServiceCtrl.create cmd familyId s d).Sends K ↔ d.fwdMethod = .masquerade :=
  IpvsServiceCtrl.sends_iff_masquerade hK cmd familyId (Netmask.new_eq_ok.1 hs).2

theorem sends_create_masquerade : (IpvsServiceCtrl.create .newDest 0 .web
    (.web .masquerade 8080)).Sends (Crates.reference .little) :=
  (sends_create_iff (Crates.reference_documented .little) .newDest 0
    (show Netmask.new 24 .IPv4 = .ok Service.web.netmask from rfl) _).2 rfl

/-- A destination that is routed to directly has a length, and is not sent. -/
theorem not_sends_create_direct : Netmask.new 24 .IPv4 = .ok Service.web.netmask ∧
    ¬(IpvsServiceCtrl.create .newDest 0 .web (.web .direct 8080)).Sends
      (Crates.reference .little) := by
  refine ⟨rfl, ?_⟩
  rintro ⟨len, hlen, h⟩
  obtain rfl : 156 = len := Except.ok.inj hlen
  obtain ⟨out, hout⟩ := h (List.replicate 156 0) rfl
  have hpanic : (IpvsServiceCtrl.create .newDest 0 .web (.web .direct 8080)).emit
      (Crates.reference .little) (List.replicate 156 0) =
        .error (.explicit "not yet implemented: impl non-nat forwardtype") := by
    decide +kernel
  rw [hpanic] at hout
  cases hout

end NetlinkIpvs

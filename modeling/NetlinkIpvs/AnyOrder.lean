import NetlinkIpvs.Destination
import NetlinkIpvs.Service

/-!
# Attributes in any order

`from_nlas` keeps the last value of each attribute, whatever stands between them
(`Service.slots_eq`, `DestinationExtended.slots_eq`). The attributes a service or a
destination is sent as, with the statistics and the counters that come with a received
one, give it back in any order (`Service.fromNlas_perm`, `DestinationExtended.fromNlas_perm`).
-/

open Rust Rust.Outcome LastWins

namespace NetlinkIpvs

/-! ## Services -/

namespace SvcCtrlAttrs

def asAddressFamily : SvcCtrlAttrs → Option AddressFamily
  | .addressFamily af => some af
  | _ => none

def asProtocol : SvcCtrlAttrs → Option Protocol
  | .protocol p => some p
  | _ => none

def asAddrBytes : SvcCtrlAttrs → Option AddrBytes
  | .addrBytes b => some b
  | _ => none

def asPort : SvcCtrlAttrs → Option UInt16
  | .port p => some p
  | _ => none

def asFlags : SvcCtrlAttrs → Option Flags
  | .flags f => some f
  | _ => none

def asFwmark : SvcCtrlAttrs → Option UInt32
  | .fwmark f => some f
  | _ => none

def asScheduler : SvcCtrlAttrs → Option Scheduler
  | .scheduler s => some s
  | _ => none

def asTimeout : SvcCtrlAttrs → Option UInt32
  | .timeout t => some t
  | _ => none

def asNetmask : SvcCtrlAttrs → Option Netmask
  | .netmask nm => some nm
  | _ => none

def asStats64 : SvcCtrlAttrs → Option Stats64
  | .stats64 st => some st
  | _ => none

/-- A netmask as the parser makes it, without its family. -/
def forgetFamily : SvcCtrlAttrs → SvcCtrlAttrs
  | .netmask nm => .netmask (.withoutAf nm.ones)
  | a => a

end SvcCtrlAttrs

namespace Service

open SvcCtrlAttrs in
/-- Each variable of `Service::from_nlas` ends up with the last value of its attribute. -/
theorem slots_eq (nlas : List SvcCtrlAttrs) : nlas.foldl Slots.update {} =
    { address := last asAddrBytes nlas
      netmask := last asNetmask nlas
      scheduler := last asScheduler nlas
      flags := last asFlags nlas
      port := last asPort nlas
      fwMark := last asFwmark nlas
      persistenceTimeout := (last asTimeout nlas).bind NonZeroU32.new
      family := last asAddressFamily nlas
      protocol := last asProtocol nlas
      stats64 := last asStats64 nlas } := by
  apply Slots.ext
  case persistenceTimeout => exact slot_foldl_bind (fun s a => by cases a <;> rfl) rfl nlas
  all_goals exact slot_foldl_option (fun s a => by cases a <;> rfl) rfl nlas

theorem createNlas_eq (s : Service) : s.createNlas =
    [.addressFamily s.family, .protocol s.protocol, .addrBytes ⟨s.address.octets⟩] ++
      s.port.toList.map .port ++ s.fwMark.toList.map .fwmark ++
      [.scheduler s.scheduler, .flags s.flags, .timeout (NonZeroU32.orZero s.persistenceTimeout),
        .netmask s.netmask] := by
  unfold createNlas
  cases s.port <;> cases s.fwMark <;> cases s.persistenceTimeout <;> rfl

/-- A service has one address attribute, of 16 bytes. -/
theorem filterMap_asAddrBytes (s : Service) :
    s.createNlas.filterMap SvcCtrlAttrs.asAddrBytes = [⟨s.address.octets⟩] := by
  rw [createNlas_eq]
  cases s.port <;> cases s.fwMark <;> rfl

/-- A service with a netmask as the parser makes it. -/
theorem map_forgetFamily (s : Service) : s.createNlas.map SvcCtrlAttrs.forgetFamily =
    createNlas { s with netmask := .withoutAf s.netmask.ones } := by
  rw [createNlas_eq, createNlas_eq]
  cases s.port <;> cases s.fwMark <;> rfl

/-- The attributes that come with a received service : its statistics, and `Stats`
attributes, which are skipped. -/
def statsNlas (st : Stats64) (k : ℕ) : List SvcCtrlAttrs :=
  .stats64 st :: List.replicate k .stats

theorem filterMap_received {β : Type} {sel : SvcCtrlAttrs → Option β} (h : sel .stats = none)
    (s : Service) (st : Stats64) (k : ℕ) : (s.createNlas ++ statsNlas st k).filterMap sel =
      (s.createNlas ++ statsNlas st 0).filterMap sel := by
  simp only [List.filterMap_append, statsNlas, List.filterMap_cons,
    List.filterMap_replicate_of_none h, List.replicate_zero, List.filterMap_nil]

open SvcCtrlAttrs in
/-- The variables after the attributes of a received service, in any order. -/
theorem slots_perm {s : Service} {st : Stats64} {k : ℕ} {nlas : List SvcCtrlAttrs}
    (h : nlas.Perm (s.createNlas ++ statsNlas st k)) : nlas.foldl Slots.update {} =
      { address := some ⟨s.address.octets⟩
        netmask := some s.netmask
        scheduler := some s.scheduler
        flags := some s.flags
        port := s.port
        fwMark := s.fwMark
        persistenceTimeout := s.persistenceTimeout
        family := some s.family
        protocol := some s.protocol
        stats64 := some st } := by
  have slot : ∀ {β : Type} {sel : SvcCtrlAttrs → Option β} {o : Option β}, sel .stats = none →
      (s.createNlas ++ statsNlas st 0).filterMap sel = o.toList → last sel nlas = o :=
    fun hs ho => last_perm h ((filterMap_received hs s st k).trans ho)
  rw [createNlas_eq] at slot
  rw [slots_eq]
  apply Slots.ext
  case persistenceTimeout =>
    have ht : last asTimeout nlas = some (NonZeroU32.orZero s.persistenceTimeout) :=
      slot rfl (by cases s.port <;> cases s.fwMark <;> rfl)
    rw [ht, Option.bind_some, NonZeroU32.new_orZero]
  all_goals
    refine slot rfl ?_
    cases s.port <;> cases s.fwMark <;> rfl

/-- A service is put together with a netmask of its own family. -/
theorem fromNlas_perm {s : Service} {nm : Netmask} {st : Stats64} {k : ℕ}
    {nlas : List SvcCtrlAttrs} (haddr : s.address.family = s.family)
    (hnm : Netmask.new s.netmask.ones s.family = .ok nm)
    (h : nlas.Perm (s.createNlas ++ statsNlas st k)) :
    fromNlas nlas = .ok ⟨{ s with netmask := nm }, st⟩ := by
  have hip : AddrBytes.asIpaddr ⟨s.address.octets⟩ s.family = .ok s.address := by
    rw [← haddr]
    exact AddrBytes.asIpaddr_octets s.address
  rw [fromNlas, slots_perm h, Slots.finish]
  simp only [okOr_some, ok_bind, hip, lift_ok, hnm, pure_eq]

end Service

/-- A service, its statistics and any number of `Stats` attributes, in any order, and with
or without the family in its netmask, give the service and its statistics. -/
theorem service_of_perm {s : Service} {n : UInt8} {st : Stats64} {k : ℕ}
    {nlas : List SvcCtrlAttrs} (haddr : s.address.family = s.family)
    (hn : Netmask.new n s.family = .ok s.netmask)
    (h : nlas.Perm (s.createNlas ++ .stats64 st :: List.replicate k .stats) ∨
      nlas.Perm (s.createNlas.map SvcCtrlAttrs.forgetFamily ++
        .stats64 st :: List.replicate k .stats)) :
    Service.fromNlas nlas = .ok ⟨s, st⟩ := by
  have hnm : Netmask.new s.netmask.ones s.family = .ok s.netmask :=
    Netmask.new_ones (Netmask.new_eq_ok.1 hn).2
  rcases h with h | h
  · exact Service.fromNlas_perm haddr hnm h
  · rw [Service.map_forgetFamily] at h
    exact Service.fromNlas_perm (s := { s with netmask := .withoutAf s.netmask.ones }) haddr hnm h

/-- The attributes of a service in reverse order, the netmask without a family. -/
theorem service_of_perm_reverse : Service.fromNlas
    (List.reverse (Service.web.createNlas.map SvcCtrlAttrs.forgetFamily ++
      [.stats64 { connections := 3 }, .stats])) = .ok ⟨.web, { connections := 3 }⟩ :=
  service_of_perm (n := 24) (k := 1) rfl rfl (Or.inr (List.reverse_perm _))

/-! ## Destinations -/

namespace ForwardTypeFull

def tunnelType : ForwardTypeFull → Option TunnelType
  | .tunnel t _ _ => some t
  | _ => none

def tunnelPort : ForwardTypeFull → Option UInt16
  | .tunnel _ p _ => some p
  | _ => none

def tunnelFlags : ForwardTypeFull → Option TunnelFlags
  | .tunnel _ _ f => some f
  | _ => none

end ForwardTypeFull

namespace DestinationCtrlAttrs

def asAddr : DestinationCtrlAttrs → Option AddrBytes
  | .addr x => some x
  | _ => none

def asPort : DestinationCtrlAttrs → Option UInt16
  | .port x => some x
  | _ => none

def asFwdMethod : DestinationCtrlAttrs → Option ForwardType
  | .fwdMethod x => some x
  | _ => none

def asWeight : DestinationCtrlAttrs → Option UInt32
  | .weight x => some x
  | _ => none

def asUpperThreshold : DestinationCtrlAttrs → Option UInt32
  | .upperThreshold x => some x
  | _ => none

def asLowerThreshold : DestinationCtrlAttrs → Option UInt32
  | .lowerThreshold x => some x
  | _ => none

def asActiveConns : DestinationCtrlAttrs → Option UInt32
  | .activeConns x => some x
  | _ => none

def asInactiveConns : DestinationCtrlAttrs → Option UInt32
  | .inactiveConns x => some x
  | _ => none

def asPersistConns : DestinationCtrlAttrs → Option UInt32
  | .persistConns x => some x
  | _ => none

def asAddrFamily : DestinationCtrlAttrs → Option AddressFamily
  | .addrFamily x => some x
  | _ => none

def asStats64 : DestinationCtrlAttrs → Option Stats64
  | .stats64 x => some x
  | _ => none

def asTunType : DestinationCtrlAttrs → Option TunnelType
  | .tunType x => some x
  | _ => none

def asTunPort : DestinationCtrlAttrs → Option UInt16
  | .tunPort x => some x
  | _ => none

def asTunFlags : DestinationCtrlAttrs → Option TunnelFlags
  | .tunFlags x => some x
  | _ => none

end DestinationCtrlAttrs

/-- A destination has one address attribute, of 16 bytes. -/
theorem Destination.filterMap_asAddr (d : Destination) :
    d.createNlas.filterMap DestinationCtrlAttrs.asAddr = [⟨d.address.octets⟩] := by
  unfold createNlas
  cases d.fwdMethod <;> rfl

namespace DestinationExtended

open DestinationCtrlAttrs in
/-- Each variable of `DestinationExtended::from_nlas` ends up with the last value of its
attribute. -/
theorem slots_eq (nlas : List DestinationCtrlAttrs) : nlas.foldl Slots.update {} =
    { address := last asAddr nlas
      fwdMethod := last asFwdMethod nlas
      weight := last asWeight nlas
      upperThreshold := (last asUpperThreshold nlas).bind NonZeroU32.new
      lowerThreshold := (last asLowerThreshold nlas).bind NonZeroU32.new
      port := last asPort nlas
      family := last asAddrFamily nlas
      tunnelType := last asTunType nlas
      tunnelPort := last asTunPort nlas
      tunnelFlags := last asTunFlags nlas
      stats64 := last asStats64 nlas
      activeConnections := last asActiveConns nlas
      inactiveConnections := last asInactiveConns nlas
      persistentConnections := last asPersistConns nlas } := by
  apply Slots.ext
  case upperThreshold => exact slot_foldl_bind (fun s a => by cases a <;> rfl) rfl nlas
  case lowerThreshold => exact slot_foldl_bind (fun s a => by cases a <;> rfl) rfl nlas
  all_goals exact slot_foldl_option (fun s a => by cases a <;> rfl) rfl nlas

/-- The attributes that come with a received destination : its counters, its statistics,
and `Stats` attributes, which are skipped. -/
def statsNlas (a i p : UInt32) (st : Stats64) (k : ℕ) : List DestinationCtrlAttrs :=
  [.activeConns a, .inactiveConns i, .persistConns p, .stats64 st] ++ List.replicate k .stats

theorem filterMap_received {β : Type} {sel : DestinationCtrlAttrs → Option β}
    (h : sel .stats = none) (d : Destination) (a i p : UInt32) (st : Stats64) (k : ℕ) :
    (d.createNlas ++ statsNlas a i p st k).filterMap sel =
      (d.createNlas ++ statsNlas a i p st 0).filterMap sel := by
  simp only [List.filterMap_append, statsNlas, List.filterMap_replicate_of_none h,
    List.replicate_zero, List.filterMap_nil]

open DestinationCtrlAttrs in
/-- The variables after the attributes of a received destination, in any order. -/
theorem slots_perm {d : Destination} {a i p : UInt32} {st : Stats64} {k : ℕ}
    {nlas : List DestinationCtrlAttrs} (h : nlas.Perm (d.createNlas ++ statsNlas a i p st k)) :
    nlas.foldl Slots.update {} =
      { address := some ⟨d.address.octets⟩
        fwdMethod := some d.fwdMethod.toForwardType
        weight := some d.weight
        upperThreshold := d.upperThreshold
        lowerThreshold := d.lowerThreshold
        port := some d.port
        family := some d.family
        tunnelType := d.fwdMethod.tunnelType
        tunnelPort := d.fwdMethod.tunnelPort
        tunnelFlags := d.fwdMethod.tunnelFlags
        stats64 := some st
        activeConnections := some a
        inactiveConnections := some i
        persistentConnections := some p } := by
  have slot : ∀ {β : Type} {sel : DestinationCtrlAttrs → Option β} {o : Option β},
      sel .stats = none →
      (d.createNlas ++ statsNlas a i p st 0).filterMap sel = o.toList → last sel nlas = o :=
    fun hs ho => last_perm h ((filterMap_received hs d a i p st k).trans ho)
  unfold Destination.createNlas at slot
  rw [slots_eq]
  apply Slots.ext
  case upperThreshold =>
    have ht : last asUpperThreshold nlas = some (NonZeroU32.orZero d.upperThreshold) :=
      slot rfl (by cases d.fwdMethod <;> rfl)
    rw [ht, Option.bind_some, NonZeroU32.new_orZero]
  case lowerThreshold =>
    have ht : last asLowerThreshold nlas = some (NonZeroU32.orZero d.lowerThreshold) :=
      slot rfl (by cases d.fwdMethod <;> rfl)
    rw [ht, Option.bind_some, NonZeroU32.new_orZero]
  all_goals
    refine slot rfl ?_
    cases d.fwdMethod <;> rfl

/-- A forwarding method is put together again from its attributes. -/
theorem fullMethod_eq {slots : Slots} {m : ForwardTypeFull} (ht : slots.tunnelType = m.tunnelType)
    (hp : slots.tunnelPort = m.tunnelPort) (hf : slots.tunnelFlags = m.tunnelFlags) :
    slots.fullMethod m.toForwardType = .ok m := by
  cases m with
  | masquerade => rfl
  | direct => rfl
  | tunnel t p f =>
    unfold ForwardTypeFull.toForwardType Slots.fullMethod
    rw [ht, hp, hf]
    rfl

end DestinationExtended

/-- A destination is put together from its attributes in any order. -/
theorem DestinationExtended.fromNlas_perm {d : Destination} {a i p : UInt32} {st : Stats64}
    {k : ℕ} {nlas : List DestinationCtrlAttrs} (haddr : d.address.family = d.family)
    (h : nlas.Perm (d.createNlas ++ statsNlas a i p st k)) : fromNlas nlas = .ok
      { destination := d, activeConnections := a, inactiveConnections := i,
        persistentConnections := p, stats64 := st } := by
  have hip : AddrBytes.asIpaddr ⟨d.address.octets⟩ d.family = .ok d.address := by
    rw [← haddr]
    exact AddrBytes.asIpaddr_octets d.address
  rw [fromNlas, slots_perm h, Slots.finish]
  simp only [okOr_some, ok_bind, hip, lift_ok, pure_eq]
  rw [fullMethod_eq rfl rfl rfl]
  rfl

/-- A destination, its counters, its statistics and any number of `Stats` attributes, in
any order, give the destination, the counters and the statistics. -/
theorem destination_of_perm {d : Destination} {a i p : UInt32} {st : Stats64} {k : ℕ}
    {nlas : List DestinationCtrlAttrs} (haddr : d.address.family = d.family)
    (h : nlas.Perm (d.createNlas ++
      ([.activeConns a, .inactiveConns i, .persistConns p, .stats64 st] ++
        List.replicate k .stats))) :
    DestinationExtended.fromNlas nlas = .ok
      { destination := d, activeConnections := a, inactiveConnections := i,
        persistentConnections := p, stats64 := st } :=
  DestinationExtended.fromNlas_perm haddr h

/-- The attributes of a tunnelled destination in reverse order. -/
theorem destination_of_perm_reverse : DestinationExtended.fromNlas
    (List.reverse ((Destination.web (.tunnel .none 9000 ⟨1⟩) 8080).createNlas ++
      [.activeConns 1, .inactiveConns 2, .persistConns 3, .stats64 {}, .stats])) = .ok
        { destination := .web (.tunnel .none 9000 ⟨1⟩) 8080, activeConnections := 1,
          inactiveConnections := 2, persistentConnections := 3, stats64 := {} } :=
  destination_of_perm (k := 1) rfl (List.reverse_perm _)

end NetlinkIpvs

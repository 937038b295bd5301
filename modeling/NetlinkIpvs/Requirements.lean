import NetlinkIpvs.Panics

/-!
# What putting attributes together takes

`Complete nlas` : the kinds that `from_nlas` requires occur in the list. A list whose last
address fits its last family is put together iff it is complete
(`DestinationExtended.exists_fromNlas_iff`, `ServiceExtended.exists_fromNlas_iff`).

`Built nlas y` : each field of `y` is what the last attribute of its kind says. This is the
result of `from_nlas` and no other is (`DestinationExtended.fromNlas_eq_ok`,
`ServiceExtended.fromNlas_eq_ok`), so lists with the same last attribute of each kind give
the same.
-/

open Rust Rust.Outcome LastWins

namespace NetlinkIpvs

/-! ## Destinations -/

namespace DestinationCtrlAttrs

/-- Each attribute is selected by its kind. -/
structure Selectors : Prop where
  addr : Selects asAddr kind IPVS_DEST_ATTR_ADDR
  port : Selects asPort kind IPVS_DEST_ATTR_PORT
  fwdMethod : Selects asFwdMethod kind IPVS_DEST_ATTR_FWD_METHOD
  weight : Selects asWeight kind IPVS_DEST_ATTR_WEIGHT
  upperThreshold : Selects asUpperThreshold kind IPVS_DEST_ATTR_U_THRESH
  lowerThreshold : Selects asLowerThreshold kind IPVS_DEST_ATTR_L_THRESH
  activeConns : Selects asActiveConns kind IPVS_DEST_ATTR_ACTIVE_CONNS
  inactiveConns : Selects asInactiveConns kind IPVS_DEST_ATTR_INACT_CONNS
  persistConns : Selects asPersistConns kind IPVS_DEST_ATTR_PERSIST_CONNS
  addrFamily : Selects asAddrFamily kind IPVS_DEST_ATTR_ADDR_FAMILY
  stats64 : Selects asStats64 kind IPVS_DEST_ATTR_STATS64
  tunType : Selects asTunType kind IPVS_DEST_ATTR_TUN_TYPE
  tunPort : Selects asTunPort kind IPVS_DEST_ATTR_TUN_PORT
  tunFlags : Selects asTunFlags kind IPVS_DEST_ATTR_TUN_FLAGS

theorem selectors : Selectors := by
  constructor
  all_goals
    intro a
    cases a <;> rfl

end DestinationCtrlAttrs

namespace DestinationExtended

open DestinationCtrlAttrs

/-- The kinds that `DestinationExtended::from_nlas` requires of every list. -/
def requiredKinds : List ℕ :=
  [IPVS_DEST_ATTR_ADDR_FAMILY, IPVS_DEST_ATTR_ADDR, IPVS_DEST_ATTR_FWD_METHOD,
    IPVS_DEST_ATTR_WEIGHT, IPVS_DEST_ATTR_PORT, IPVS_DEST_ATTR_ACTIVE_CONNS,
    IPVS_DEST_ATTR_INACT_CONNS, IPVS_DEST_ATTR_PERSIST_CONNS, IPVS_DEST_ATTR_STATS64]

/-- The kinds it requires of a tunnel. -/
def tunnelKinds : List ℕ :=
  [IPVS_DEST_ATTR_TUN_TYPE, IPVS_DEST_ATTR_TUN_PORT, IPVS_DEST_ATTR_TUN_FLAGS]

/-- The required kinds occur. -/
structure Complete (nlas : List DestinationCtrlAttrs) : Prop where
  required : ∀ k ∈ requiredKinds, k ∈ nlas.map kind
  tunnel : last asFwdMethod nlas = some .tunnel → ∀ k ∈ tunnelKinds, k ∈ nlas.map kind

/-- The forwarding method that a list stands for, if the last one is the given one. -/
def Method (nlas : List DestinationCtrlAttrs) : ForwardType → ForwardTypeFull → Prop
  | .masquerade, m => m = .masquerade
  | .direct, m => m = .direct
  | .tunnel, m => ∃ t p f, last asTunType nlas = some t ∧ last asTunPort nlas = some p ∧
      last asTunFlags nlas = some f ∧ m = .tunnel t p f

/-- Each field is what the last attribute of its kind says. -/
structure Built (nlas : List DestinationCtrlAttrs) (y : DestinationExtended) : Prop where
  family : last asAddrFamily nlas = some y.destination.family
  address : ∃ a, last asAddr nlas = some a ∧
    a.asIpaddr y.destination.family = .ok y.destination.address
  fwdMethod : ∃ m, last asFwdMethod nlas = some m ∧ Method nlas m y.destination.fwdMethod
  weight : last asWeight nlas = some y.destination.weight
  port : last asPort nlas = some y.destination.port
  upperThreshold : y.destination.upperThreshold =
    (last asUpperThreshold nlas).bind NonZeroU32.new
  lowerThreshold : y.destination.lowerThreshold =
    (last asLowerThreshold nlas).bind NonZeroU32.new
  inactiveConnections : last asInactiveConns nlas = some y.inactiveConnections
  activeConnections : last asActiveConns nlas = some y.activeConnections
  persistentConnections : last asPersistConns nlas = some y.persistentConnections
  stats64 : last asStats64 nlas = some y.stats64

/-- The forwarding method is put together from the last tunnel attributes. -/
theorem fullMethod_eq_ok {nlas : List DestinationCtrlAttrs} {m : ForwardType}
    {full : ForwardTypeFull} :
    (nlas.foldl Slots.update {}).fullMethod m = .ok full ↔ Method nlas m full := by
  rw [slots_eq]
  cases m with
  | masquerade => simp [Slots.fullMethod, Method, eq_comm]
  | direct => simp [Slots.fullMethod, Method, eq_comm]
  | tunnel =>
    simp only [Slots.fullMethod, Method, bind_eq_ok, okOr_eq_ok, pure_eq, ok.injEq]
    constructor
    · rintro ⟨t, ht, p, hp, f, hf, rfl⟩
      exact ⟨t, p, f, ht, hp, hf, rfl⟩
    · rintro ⟨t, p, f, ht, hp, hf, rfl⟩
      exact ⟨t, ht, p, hp, f, hf, rfl⟩

/-- The result is what the last attribute of each kind says. -/
theorem fromNlas_eq_ok {nlas : List DestinationCtrlAttrs} {y : DestinationExtended} :
    fromNlas nlas = .ok y ↔ Built nlas y := by
  simp only [fromNlas, Slots.finish, bind_eq_ok, okOr_eq_ok, lift_eq_ok, fullMethod_eq_ok,
    pure_eq, ok.injEq]
  simp only [slots_eq]
  constructor
  · rintro ⟨f, hf, a, ha, ip, hip, m, hm, full, hfull, w, hw, p, hp, ic, hic, ac, hac, pc, hpc,
      st, hst, rfl⟩
    exact ⟨hf, ⟨a, ha, hip⟩, ⟨m, hm, hfull⟩, hw, hp, rfl, rfl, hic, hac, hpc, hst⟩
  · obtain ⟨⟨ip, full, w, u, l, p, f⟩, ac, ic, pc, st⟩ := y
    rintro ⟨hf, ⟨a, ha, hip⟩, ⟨m, hm, hfull⟩, hw, hp, hu, hl, hic, hac, hpc, hst⟩
    refine ⟨f, hf, a, ha, ip, hip, m, hm, full, hfull, w, hw, p, hp, ic, hic, ac, hac, pc, hpc,
      st, hst, ?_⟩
    rw [← hu, ← hl]

/-- Some method is put together iff the tunnel attributes occur or are not required. -/
theorem exists_method_iff {nlas : List DestinationCtrlAttrs} {m : ForwardType} :
    (∃ full, Method nlas m full) ↔ (m = .tunnel → ∀ k ∈ tunnelKinds, k ∈ nlas.map kind) := by
  cases m with
  | masquerade => simp [Method]
  | direct => simp [Method]
  | tunnel =>
    simp only [Method, tunnelKinds, List.forall_mem_cons, ← exists_last_iff selectors.tunType,
      ← exists_last_iff selectors.tunPort, ← exists_last_iff selectors.tunFlags]
    constructor
    · rintro ⟨full, t, p, f, ht, hp, hf, -⟩ -
      exact ⟨⟨t, ht⟩, ⟨p, hp⟩, ⟨f, hf⟩, by simp⟩
    · intro h
      obtain ⟨⟨t, ht⟩, ⟨p, hp⟩, ⟨f, hf⟩, -⟩ := h trivial
      exact ⟨_, t, p, f, ht, hp, hf, rfl⟩

/-- The required kinds occur iff each variable that is not optional has a value. -/
theorem forall_required_iff {nlas : List DestinationCtrlAttrs} :
    (∀ k ∈ requiredKinds, k ∈ nlas.map kind) ↔
      (∃ x, last asAddrFamily nlas = some x) ∧ (∃ x, last asAddr nlas = some x) ∧
      (∃ x, last asFwdMethod nlas = some x) ∧ (∃ x, last asWeight nlas = some x) ∧
      (∃ x, last asPort nlas = some x) ∧ (∃ x, last asActiveConns nlas = some x) ∧
      (∃ x, last asInactiveConns nlas = some x) ∧ (∃ x, last asPersistConns nlas = some x) ∧
      ∃ x, last asStats64 nlas = some x := by
  simp only [requiredKinds, List.forall_mem_cons, exists_last_iff selectors.addrFamily,
    exists_last_iff selectors.addr, exists_last_iff selectors.fwdMethod,
    exists_last_iff selectors.weight, exists_last_iff selectors.port,
    exists_last_iff selectors.activeConns, exists_last_iff selectors.inactiveConns,
    exists_last_iff selectors.persistConns, exists_last_iff selectors.stats64,
    List.not_mem_nil, false_implies, implies_true, and_true]

/-- A list is put together iff it is complete, if its last address fits its last family. -/
theorem exists_fromNlas_iff {nlas : List DestinationCtrlAttrs} (hfit : Consistent nlas) :
    (∃ y, fromNlas nlas = .ok y) ↔ Complete nlas := by
  simp only [fromNlas_eq_ok]
  constructor
  · rintro ⟨y, hy⟩
    obtain ⟨a, ha, -⟩ := hy.address
    obtain ⟨m, hm, hfull⟩ := hy.fwdMethod
    refine ⟨forall_required_iff.2 ⟨⟨_, hy.family⟩, ⟨a, ha⟩, ⟨m, hm⟩, ⟨_, hy.weight⟩, ⟨_, hy.port⟩,
      ⟨_, hy.activeConnections⟩, ⟨_, hy.inactiveConnections⟩, ⟨_, hy.persistentConnections⟩,
      ⟨_, hy.stats64⟩⟩, fun ht => exists_method_iff.1 ⟨_, hfull⟩ ?_⟩
    rw [hm] at ht
    exact Option.some.inj ht
  · rintro ⟨hreq, htunnel⟩
    obtain ⟨⟨f, hf⟩, ⟨a, ha⟩, ⟨m, hm⟩, ⟨w, hw⟩, ⟨p, hp⟩, ⟨ac, hac⟩, ⟨ic, hic⟩, ⟨pc, hpc⟩, st,
      hst⟩ := forall_required_iff.1 hreq
    obtain ⟨ip, hip⟩ := (AddrBytes.exists_asIpaddr_iff a f).2 (hfit f hf a ha)
    obtain ⟨full, hfull⟩ := (exists_method_iff (m := m)).2 fun ht => htunnel (by rw [hm, ht])
    exact ⟨⟨⟨ip, full, w, _, _, p, f⟩, ac, ic, pc, st⟩, hf, ⟨a, ha, hip⟩, ⟨m, hm, hfull⟩, hw, hp,
      rfl, rfl, hic, hac, hpc, hst⟩

/-- Lists with the same last attribute of each kind give the same. -/
theorem fromNlas_congr {nlas nlas' : List DestinationCtrlAttrs}
    (h : ∀ k, lastOf kind k nlas' = lastOf kind k nlas) : fromNlas nlas' = fromNlas nlas := by
  rw [fromNlas, fromNlas, slots_eq, slots_eq, last_congr selectors.addr (h _),
    last_congr selectors.fwdMethod (h _), last_congr selectors.weight (h _),
    last_congr selectors.upperThreshold (h _), last_congr selectors.lowerThreshold (h _),
    last_congr selectors.port (h _), last_congr selectors.addrFamily (h _),
    last_congr selectors.tunType (h _), last_congr selectors.tunPort (h _),
    last_congr selectors.tunFlags (h _), last_congr selectors.stats64 (h _),
    last_congr selectors.activeConns (h _), last_congr selectors.inactiveConns (h _),
    last_congr selectors.persistConns (h _)]

end DestinationExtended

/-! ## Services -/

namespace SvcCtrlAttrs

/-- Each attribute is selected by its kind. -/
structure Selectors : Prop where
  addressFamily : Selects asAddressFamily kind IPVS_SVC_ATTR_AF
  protocol : Selects asProtocol kind IPVS_SVC_ATTR_PROTOCOL
  addrBytes : Selects asAddrBytes kind IPVS_SVC_ATTR_ADDR
  port : Selects asPort kind IPVS_SVC_ATTR_PORT
  flags : Selects asFlags kind IPVS_SVC_ATTR_FLAGS
  fwmark : Selects asFwmark kind IPVS_SVC_ATTR_FWMARK
  scheduler : Selects asScheduler kind IPVS_SVC_ATTR_SCHED_NAME
  timeout : Selects asTimeout kind IPVS_SVC_ATTR_TIMEOUT
  netmask : Selects asNetmask kind IPVS_SVC_ATTR_NETMASK
  stats64 : Selects asStats64 kind IPVS_SVC_ATTR_STATS64

theorem selectors : Selectors := by
  constructor
  all_goals
    intro a
    cases a <;> rfl

end SvcCtrlAttrs

namespace ServiceExtended

open SvcCtrlAttrs

/-- The kinds that `Service::from_nlas` requires. -/
def requiredKinds : List ℕ :=
  [IPVS_SVC_ATTR_AF, IPVS_SVC_ATTR_ADDR, IPVS_SVC_ATTR_NETMASK, IPVS_SVC_ATTR_SCHED_NAME,
    IPVS_SVC_ATTR_FLAGS, IPVS_SVC_ATTR_PROTOCOL, IPVS_SVC_ATTR_STATS64]

/-- The required kinds occur. -/
def Complete (nlas : List SvcCtrlAttrs) : Prop :=
  ∀ k ∈ requiredKinds, k ∈ nlas.map kind

/-- Each field is what the last attribute of its kind says. -/
structure Built (nlas : List SvcCtrlAttrs) (x : ServiceExtended) : Prop where
  family : last asAddressFamily nlas = some x.service.family
  address : ∃ a, last asAddrBytes nlas = some a ∧
    a.asIpaddr x.service.family = .ok x.service.address
  netmask : ∃ nm, last asNetmask nlas = some nm ∧
    Netmask.new nm.ones x.service.family = .ok x.service.netmask
  scheduler : last asScheduler nlas = some x.service.scheduler
  flags : last asFlags nlas = some x.service.flags
  protocol : last asProtocol nlas = some x.service.protocol
  port : x.service.port = last asPort nlas
  fwMark : x.service.fwMark = last asFwmark nlas
  persistenceTimeout : x.service.persistenceTimeout =
    (last asTimeout nlas).bind NonZeroU32.new
  stats64 : last asStats64 nlas = some x.stats64

/-- The result is what the last attribute of each kind says. -/
theorem fromNlas_eq_ok {nlas : List SvcCtrlAttrs} {x : ServiceExtended} :
    Service.fromNlas nlas = .ok x ↔ Built nlas x := by
  simp only [Service.fromNlas, Service.slots_eq, Service.Slots.finish, bind_eq_ok, okOr_eq_ok,
    lift_eq_ok, pure_eq, ok.injEq]
  constructor
  · rintro ⟨f, hf, a, ha, ip, hip, nm, hnm, nm', hnm', sched, hsched, fl, hfl, proto, hproto,
      st, hst, rfl⟩
    exact ⟨hf, ⟨a, ha, hip⟩, ⟨nm, hnm, hnm'⟩, hsched, hfl, hproto, rfl, rfl, rfl, hst⟩
  · obtain ⟨⟨ip, nm', sched, fl, p, m, t, f, proto⟩, st⟩ := x
    rintro ⟨hf, ⟨a, ha, hip⟩, ⟨nm, hnm, hnm'⟩, hsched, hfl, hproto, hp, hm, ht, hst⟩
    refine ⟨f, hf, a, ha, ip, hip, nm, hnm, nm', hnm', sched, hsched, fl, hfl, proto, hproto,
      st, hst, ?_⟩
    rw [← hp, ← hm, ← ht]

/-- The required kinds occur iff each variable that is not optional has a value. -/
theorem complete_iff {nlas : List SvcCtrlAttrs} : Complete nlas ↔
    (∃ x, last asAddressFamily nlas = some x) ∧ (∃ x, last asAddrBytes nlas = some x) ∧
    (∃ x, last asNetmask nlas = some x) ∧ (∃ x, last asScheduler nlas = some x) ∧
    (∃ x, last asFlags nlas = some x) ∧ (∃ x, last asProtocol nlas = some x) ∧
    ∃ x, last asStats64 nlas = some x := by
  simp only [Complete, requiredKinds, List.forall_mem_cons,
    exists_last_iff selectors.addressFamily, exists_last_iff selectors.addrBytes,
    exists_last_iff selectors.netmask, exists_last_iff selectors.scheduler,
    exists_last_iff selectors.flags, exists_last_iff selectors.protocol,
    exists_last_iff selectors.stats64, List.not_mem_nil, false_implies, implies_true, and_true]

/-- A list is put together iff it is complete, if its last address and its last netmask fit
its last family. -/
theorem exists_fromNlas_iff {nlas : List SvcCtrlAttrs} (hfit : Consistent nlas) :
    (∃ x, Service.fromNlas nlas = .ok x) ↔ Complete nlas := by
  rw [complete_iff]
  simp only [fromNlas_eq_ok]
  constructor
  · rintro ⟨x, hx⟩
    obtain ⟨a, ha, -⟩ := hx.address
    obtain ⟨nm, hnm, -⟩ := hx.netmask
    exact ⟨⟨_, hx.family⟩, ⟨a, ha⟩, ⟨nm, hnm⟩, ⟨_, hx.scheduler⟩, ⟨_, hx.flags⟩,
      ⟨_, hx.protocol⟩, _, hx.stats64⟩
  · rintro ⟨⟨f, hf⟩, ⟨a, ha⟩, ⟨nm, hnm⟩, ⟨sched, hsched⟩, ⟨fl, hfl⟩, ⟨proto, hproto⟩, st, hst⟩
    obtain ⟨hfits, hones⟩ := hfit f hf a ha
    obtain ⟨ip, hip⟩ := (AddrBytes.exists_asIpaddr_iff a f).2 hfits
    obtain ⟨nm', hnm'⟩ := Netmask.exists_new_iff.2 (hones nm hnm)
    exact ⟨⟨⟨ip, nm', sched, fl, _, _, _, f, proto⟩, st⟩, hf, ⟨a, ha, hip⟩, ⟨nm, hnm, hnm'⟩,
      hsched, hfl, hproto, rfl, rfl, rfl, hst⟩

/-- Lists with the same last attribute of each kind give the same. -/
theorem fromNlas_congr {nlas nlas' : List SvcCtrlAttrs}
    (h : ∀ k, lastOf kind k nlas' = lastOf kind k nlas) :
    Service.fromNlas nlas' = Service.fromNlas nlas := by
  rw [Service.fromNlas, Service.fromNlas, Service.slots_eq, Service.slots_eq,
    last_congr selectors.addrBytes (h _), last_congr selectors.netmask (h _),
    last_congr selectors.scheduler (h _), last_congr selectors.flags (h _),
    last_congr selectors.port (h _), last_congr selectors.fwmark (h _),
    last_congr selectors.timeout (h _), last_congr selectors.addressFamily (h _),
    last_congr selectors.protocol (h _), last_congr selectors.stats64 (h _)]

end ServiceExtended

/-! ## Both -/

/-- What `from_nlas` accepts and returns. If the last address (and netmask) fits the last
family, a list is put together iff it is complete. The result is what the last attribute of
each kind says, and lists that agree on these give the same. -/
theorem fromNlas_ok_iff {dest : List DestinationCtrlAttrs} {svc : List SvcCtrlAttrs}
    (hdest : DestinationCtrlAttrs.Consistent dest) (hsvc : SvcCtrlAttrs.Consistent svc) :
    (((∃ y, DestinationExtended.fromNlas dest = .ok y) ↔ DestinationExtended.Complete dest) ∧
      (∀ y, DestinationExtended.fromNlas dest = .ok y ↔ DestinationExtended.Built dest y) ∧
      ∀ dest', (∀ k, lastOf DestinationCtrlAttrs.kind k dest' =
          lastOf DestinationCtrlAttrs.kind k dest) →
        DestinationExtended.fromNlas dest' = DestinationExtended.fromNlas dest) ∧
    ((∃ x, Service.fromNlas svc = .ok x) ↔ ServiceExtended.Complete svc) ∧
      (∀ x, Service.fromNlas svc = .ok x ↔ ServiceExtended.Built svc x) ∧
      ∀ svc', (∀ k, lastOf SvcCtrlAttrs.kind k svc' = lastOf SvcCtrlAttrs.kind k svc) →
        Service.fromNlas svc' = Service.fromNlas svc :=
  ⟨⟨DestinationExtended.exists_fromNlas_iff hdest, fun _ => DestinationExtended.fromNlas_eq_ok,
      fun _ h => DestinationExtended.fromNlas_congr h⟩,
    ServiceExtended.exists_fromNlas_iff hsvc, fun _ => ServiceExtended.fromNlas_eq_ok,
    fun _ h => ServiceExtended.fromNlas_congr h⟩

/-- A destination whose last method is a tunnel without a port is not put together, a service
is, with the last of two ports. -/
theorem fromNlas_ok_iff_last :
    (¬∃ y, DestinationExtended.fromNlas [.addrFamily .IPv4, .addr ⟨[10, 0, 0, 2]⟩,
      .fwdMethod .masquerade, .weight 1, .port 80, .activeConns 0, .inactiveConns 0,
      .persistConns 0, .stats64 {}, .fwdMethod .tunnel, .tunType .none, .tunFlags ⟨0⟩] = .ok y) ∧
    ∃ x, Service.fromNlas (.port 443 :: (Service.web.createNlas ++ [.stats64 {}])) = .ok x ∧
      x.service.port = some 80 := by
  have hdest : DestinationCtrlAttrs.Consistent [.addrFamily .IPv4, .addr ⟨[10, 0, 0, 2]⟩,
      .fwdMethod .masquerade, .weight 1, .port 80, .activeConns 0, .inactiveConns 0,
      .persistConns 0, .stats64 {}, .fwdMethod .tunnel, .tunType .none, .tunFlags ⟨0⟩] := by
    intro f hf a ha
    obtain rfl : .IPv4 = f := Option.some.inj hf
    obtain rfl : ⟨[10, 0, 0, 2]⟩ = a := Option.some.inj ha
    decide
  have hsvc : SvcCtrlAttrs.Consistent (.port 443 :: (Service.web.createNlas ++ [.stats64 {}])) := by
    intro f hf a ha
    obtain rfl : .IPv4 = f := Option.some.inj hf
    obtain rfl : ⟨Service.web.address.octets⟩ = a := Option.some.inj ha
    refine ⟨by decide, fun nm hnm => ?_⟩
    obtain rfl : Service.web.netmask = nm := Option.some.inj hnm
    decide
  obtain ⟨⟨hd, -⟩, hs, hx, -⟩ := fromNlas_ok_iff hdest hsvc
  refine ⟨fun h => ?_, ?_⟩
  · have hport := (hd.1 h).tunnel rfl IPVS_DEST_ATTR_TUN_PORT (by decide)
    revert hport
    decide
  · have hcomplete : ∀ k ∈ ServiceExtended.requiredKinds, k ∈
        (.port 443 :: (Service.web.createNlas ++ [.stats64 {}])).map SvcCtrlAttrs.kind := by
      decide
    obtain ⟨x, hok⟩ := hs.2 hcomplete
    exact ⟨x, hok, ((hx x).1 hok).port⟩

end NetlinkIpvs

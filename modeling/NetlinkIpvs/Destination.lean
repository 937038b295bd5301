import NetlinkIpvs.Nlas

/-!
# Destinations

`src/ctrl/nlas/destination.rs` : a real server of a service, the attributes it is sent
and received as, and the two ways between them. `Destination.createNlas` and
`DestinationExtended.fromNlas` go between a destination and a list of attributes,
`DestinationCtrlAttrs.emitValue` and `DestinationCtrlAttrs.parse` between an attribute
and its bytes. Integers are in host byte order on both sides, except the port, which is
written in host byte order and read in network byte order.
-/

open Rust Rust.Outcome

namespace NetlinkIpvs

/-! ## The data -/

inductive TunnelType where
  | none
deriving DecidableEq, Repr

structure TunnelFlags where
  val : UInt16
deriving DecidableEq, Repr

inductive ForwardTypeFull where
  | masquerade
  | tunnel (tunnelType : TunnelType) (tunnelPort : UInt16) (tunnelFlags : TunnelFlags)
  | direct
deriving DecidableEq, Repr

inductive ForwardType where
  | masquerade
  | tunnel
  | direct
deriving DecidableEq, Repr

/-- `impl From<&ForwardTypeFull> for ForwardType`. -/
def ForwardTypeFull.toForwardType : ForwardTypeFull → ForwardType
  | direct => .direct
  | masquerade => .masquerade
  | tunnel _ _ _ => .tunnel

structure Destination where
  address : IpAddr
  fwdMethod : ForwardTypeFull
  weight : UInt32
  upperThreshold : Option NonZeroU32
  lowerThreshold : Option NonZeroU32
  port : UInt16
  family : AddressFamily
deriving DecidableEq

structure DestinationExtended where
  destination : Destination
  activeConnections : UInt32
  inactiveConnections : UInt32
  persistentConnections : UInt32
  stats64 : Stats64
deriving DecidableEq

inductive DestinationCtrlAttrs where
  | addr (addr : AddrBytes)
  | port (port : UInt16)
  | fwdMethod (method : ForwardType)
  | weight (weight : UInt32)
  | upperThreshold (thresh : UInt32)
  | lowerThreshold (thresh : UInt32)
  | activeConns (conns : UInt32)
  | inactiveConns (conns : UInt32)
  | persistConns (conns : UInt32)
  | addrFamily (family : AddressFamily)
  | stats64 (stats : Stats64)
  | stats
  | tunType (tunType : TunnelType)
  | tunPort (port : UInt16)
  | tunFlags (flags : TunnelFlags)
deriving DecidableEq

/-! ## Between a destination and its attributes -/

namespace DestinationExtended

/-- The variables of `DestinationExtended::from_nlas`. -/
@[ext] structure Slots where
  address : Option AddrBytes := none
  fwdMethod : Option ForwardType := none
  weight : Option UInt32 := none
  upperThreshold : Option NonZeroU32 := none
  lowerThreshold : Option NonZeroU32 := none
  port : Option UInt16 := none
  family : Option AddressFamily := none
  tunnelType : Option TunnelType := none
  tunnelPort : Option UInt16 := none
  tunnelFlags : Option TunnelFlags := none
  stats64 : Option Stats64 := none
  activeConnections : Option UInt32 := none
  inactiveConnections : Option UInt32 := none
  persistentConnections : Option UInt32 := none

/-- The body of the loop in `DestinationExtended::from_nlas`. -/
def Slots.update (slots : Slots) : DestinationCtrlAttrs → Slots
  | .addr addr => { slots with address := some addr }
  | .fwdMethod method => { slots with fwdMethod := some method }
  | .weight w => { slots with weight := some w }
  | .upperThreshold t => { slots with upperThreshold := NonZeroU32.new t }
  | .lowerThreshold t => { slots with lowerThreshold := NonZeroU32.new t }
  | .port p => { slots with port := some p }
  | .addrFamily f => { slots with family := some f }
  | .tunType t => { slots with tunnelType := some t }
  | .tunPort p => { slots with tunnelPort := some p }
  | .tunFlags f => { slots with tunnelFlags := some f }
  | .activeConns a => { slots with activeConnections := some a }
  | .inactiveConns a => { slots with inactiveConnections := some a }
  | .persistConns a => { slots with persistentConnections := some a }
  | .stats64 s => { slots with stats64 := some s }
  | .stats => slots

/-- The forwarding method, put together from its attributes. -/
def Slots.fullMethod (slots : Slots) : ForwardType → Outcome String ForwardTypeFull
  | .tunnel => do
    let tunnelType ← okOr slots.tunnelType "ForwardType tunnel requires tunnel-type"
    let tunnelPort ← okOr slots.tunnelPort "ForwardType tunnel requires tunnel-port"
    let tunnelFlags ← okOr slots.tunnelFlags "ForwardType tunnel requires tunnel-flags"
    return .tunnel tunnelType tunnelPort tunnelFlags
  | .masquerade => return .masquerade
  | .direct => return .direct

/-- `DestinationExtended::from_nlas` after the loop. -/
def Slots.finish (slots : Slots) : Outcome String DestinationExtended := do
  let family ← okOr slots.family "Address family is required"
  let address ← okOr slots.address "Address is required"
  let address ← address.asIpaddr family
  let partialFwdMethod ← okOr slots.fwdMethod "Forward method is required"
  let fwdMethod ← slots.fullMethod partialFwdMethod
  let weight ← okOr slots.weight "Weight is required"
  let port ← okOr slots.port "Port is required"
  let d : Destination :=
    { address, fwdMethod, weight, port, upperThreshold := slots.upperThreshold,
      lowerThreshold := slots.lowerThreshold, family }
  let inactiveConnections ← okOr slots.inactiveConnections "Inactive connections is required"
  let activeConnections ← okOr slots.activeConnections "Active connections is required"
  let persistentConnections ←
    okOr slots.persistentConnections "Persistent connections is required"
  let stats64 ← okOr slots.stats64 "Stats64 are required"
  return { destination := d, inactiveConnections, activeConnections, persistentConnections,
           stats64 }

/-- `DestinationExtended::from_nlas`. -/
def fromNlas (nlas : List DestinationCtrlAttrs) : Outcome String DestinationExtended :=
  (nlas.foldl Slots.update {}).finish

end DestinationExtended

/-- `Destination::create_nlas`. -/
def Destination.createNlas (self : Destination) : List DestinationCtrlAttrs :=
  [DestinationCtrlAttrs.addrFamily self.family, .addr ⟨self.address.octets⟩, .port self.port,
    .fwdMethod self.fwdMethod.toForwardType, .weight self.weight] ++
  (match self.fwdMethod with
    | .tunnel tunnelType tunnelPort tunnelFlags =>
      [DestinationCtrlAttrs.tunType tunnelType, .tunPort tunnelPort, .tunFlags tunnelFlags]
    | _ => []) ++
  [DestinationCtrlAttrs.upperThreshold (NonZeroU32.orZero self.upperThreshold),
    .lowerThreshold (NonZeroU32.orZero self.lowerThreshold)]

/-- What holds of every attribute a destination is sent as. -/
theorem Destination.forall_mem_createNlas {d : Destination} {P : DestinationCtrlAttrs → Prop} :
    (∀ a ∈ d.createNlas, P a) ↔
      P (.addrFamily d.family) ∧ P (.addr ⟨d.address.octets⟩) ∧ P (.port d.port) ∧
        P (.fwdMethod d.fwdMethod.toForwardType) ∧ P (.weight d.weight) ∧
        (match d.fwdMethod with
          | .tunnel t p f => P (.tunType t) ∧ P (.tunPort p) ∧ P (.tunFlags f)
          | _ => True) ∧
        P (.upperThreshold (NonZeroU32.orZero d.upperThreshold)) ∧
        P (.lowerThreshold (NonZeroU32.orZero d.lowerThreshold)) := by
  unfold createNlas
  cases d.fwdMethod <;> simp [and_assoc]

/-! ## Between an attribute and its bytes -/

@[match_pattern] abbrev IPVS_DEST_ATTR_ADDR : ℕ := 1
@[match_pattern] abbrev IPVS_DEST_ATTR_PORT : ℕ := 2
@[match_pattern] abbrev IPVS_DEST_ATTR_FWD_METHOD : ℕ := 3
@[match_pattern] abbrev IPVS_DEST_ATTR_WEIGHT : ℕ := 4
@[match_pattern] abbrev IPVS_DEST_ATTR_U_THRESH : ℕ := 5
@[match_pattern] abbrev IPVS_DEST_ATTR_L_THRESH : ℕ := 6
@[match_pattern] abbrev IPVS_DEST_ATTR_ACTIVE_CONNS : ℕ := 7
@[match_pattern] abbrev IPVS_DEST_ATTR_INACT_CONNS : ℕ := 8
@[match_pattern] abbrev IPVS_DEST_ATTR_PERSIST_CONNS : ℕ := 9
@[match_pattern] abbrev IPVS_DEST_ATTR_STATS : ℕ := 10
@[match_pattern] abbrev IPVS_DEST_ATTR_ADDR_FAMILY : ℕ := 11
@[match_pattern] abbrev IPVS_DEST_ATTR_STATS64 : ℕ := 12
@[match_pattern] abbrev IPVS_DEST_ATTR_TUN_TYPE : ℕ := 13
@[match_pattern] abbrev IPVS_DEST_ATTR_TUN_PORT : ℕ := 14
@[match_pattern] abbrev IPVS_DEST_ATTR_TUN_FLAGS : ℕ := 15

/-- `impl TryFrom<u32> for ForwardType`. -/
def ForwardType.tryFrom (value : UInt32) : Outcome DecodeError ForwardType :=
  match value.toNat with
  | 0 => .ok masquerade
  | value => .panic (.explicit s!"not sure what to do with {value}")

/-- `impl From<&ForwardType> for u32`. -/
def ForwardType.toU32 : ForwardType → Panics UInt32
  | masquerade => .ok 0
  | _ => .error (.explicit "not yet implemented: impl non-nat forwardtype")

/-- `impl TryFrom<u16> for AddressFamily`. -/
def AddressFamily.tryFrom (value : UInt16) : Outcome DecodeError AddressFamily :=
  match value.toNat with
  | 2 => .ok IPv4
  | 10 => .ok IPv6
  | value => .err (.message s!"Unknown AddressFamily value: {value}")

/-- `impl TryFrom<u8> for TunnelType`. -/
def TunnelType.tryFrom (value : UInt8) : Outcome DecodeError TunnelType :=
  match value.toNat with
  | 0 => .ok none
  | other => .panic (.explicit s!"not sure what to do with tunnel {other}")

/-- `impl From<&TunnelType> for u8`. -/
def TunnelType.toU8 : TunnelType → UInt8
  | none => 0

namespace DestinationCtrlAttrs

/-- `DestinationCtrlAttrs::value_len`. -/
def valueLen : DestinationCtrlAttrs → Panics ℕ
  | .addr _ => .ok 16
  | .port _ | .tunPort _ => .ok 2
  | .fwdMethod _ | .weight _ | .upperThreshold _ | .lowerThreshold _ | .activeConns _
  | .inactiveConns _ | .persistConns _ => .ok 4
  | .stats | .stats64 _ => .ok 0
  | .addrFamily _ => .ok 2
  | .tunType _ => .ok 1
  | .tunFlags _ => .ok 2

/-- `DestinationCtrlAttrs::kind`. -/
def kind : DestinationCtrlAttrs → ℕ
  | .addr _ => IPVS_DEST_ATTR_ADDR
  | .port _ => IPVS_DEST_ATTR_PORT
  | .fwdMethod _ => IPVS_DEST_ATTR_FWD_METHOD
  | .weight _ => IPVS_DEST_ATTR_WEIGHT
  | .upperThreshold _ => IPVS_DEST_ATTR_U_THRESH
  | .lowerThreshold _ => IPVS_DEST_ATTR_L_THRESH
  | .activeConns _ => IPVS_DEST_ATTR_ACTIVE_CONNS
  | .inactiveConns _ => IPVS_DEST_ATTR_INACT_CONNS
  | .persistConns _ => IPVS_DEST_ATTR_PERSIST_CONNS
  | .addrFamily _ => IPVS_DEST_ATTR_ADDR_FAMILY
  | .stats64 _ => IPVS_DEST_ATTR_STATS64
  | .stats => IPVS_DEST_ATTR_STATS
  | .tunType _ => IPVS_DEST_ATTR_TUN_TYPE
  | .tunPort _ => IPVS_DEST_ATTR_TUN_PORT
  | .tunFlags _ => IPVS_DEST_ATTR_TUN_FLAGS

variable (K : Crates)

/-- `DestinationCtrlAttrs::emit_value`. -/
def emitValue (self : DestinationCtrlAttrs) (buffer : Bytes) : Panics Bytes :=
  match self with
  | .addr a => Slice.copyFromSlice a.bytes buffer
  | .port p => K.writeU16 K.host buffer p
  | .tunPort p => K.writeU16 K.host buffer p
  | .fwdMethod method => do
    let m ← method.toU32
    K.writeU32 K.host buffer m
  | .weight w => K.writeU32 K.host buffer w
  | .upperThreshold thresh => K.writeU32 K.host buffer thresh
  | .lowerThreshold thresh => K.writeU32 K.host buffer thresh
  | .activeConns conns => K.writeU32 K.host buffer conns
  | .inactiveConns conns => K.writeU32 K.host buffer conns
  | .persistConns conns => K.writeU32 K.host buffer conns
  | .stats | .stats64 _ => .error (.explicit "should never write this")
  | .addrFamily family => K.writeU16 K.host buffer family.toU16
  | .tunType t => Slice.assign buffer 0 t.toU8
  | .tunFlags flags => K.writeU16 K.host buffer flags.val

/-- `impl Nla for DestinationCtrlAttrs`. -/
def nla (self : DestinationCtrlAttrs) : Nla where
  valueLen := self.valueLen
  kind := self.kind
  emitValue := emitValue K self

/-- `DestinationCtrlAttrs::parse`. -/
def parse (buf : NlaBuffer) : Outcome DecodeError DestinationCtrlAttrs :=
  let payload := buf.value
  match buf.kind with
  | IPVS_DEST_ATTR_ADDR => return addr ⟨payload⟩
  | IPVS_DEST_ATTR_PORT => do
    let val ← K.readU16 .big payload
    return port val
  | IPVS_DEST_ATTR_FWD_METHOD => do
    let val ← ofExcept (K.parseU32 payload)
    let method ← ForwardType.tryFrom val
    return fwdMethod method
  | IPVS_DEST_ATTR_WEIGHT => do
    let val ← ofExcept (K.parseU32 payload)
    return weight val
  | IPVS_DEST_ATTR_U_THRESH => do
    let val ← ofExcept (K.parseU32 payload)
    return upperThreshold val
  | IPVS_DEST_ATTR_L_THRESH => do
    let val ← ofExcept (K.parseU32 payload)
    return lowerThreshold val
  | IPVS_DEST_ATTR_ACTIVE_CONNS => do
    let val ← ofExcept (K.parseU32 payload)
    return activeConns val
  | IPVS_DEST_ATTR_INACT_CONNS => do
    let val ← ofExcept (K.parseU32 payload)
    return inactiveConns val
  | IPVS_DEST_ATTR_PERSIST_CONNS => do
    let val ← ofExcept (K.parseU32 payload)
    return persistConns val
  | IPVS_DEST_ATTR_STATS64 => do
    let st ← Stats64.parseNlas K payload
    return stats64 st
  -- the source names `IPVS_SVC_ATTR_STATS` here, which is the same number
  | IPVS_DEST_ATTR_STATS => return stats
  | IPVS_DEST_ATTR_ADDR_FAMILY => do
    let val ← ofExcept (K.parseU16 payload)
    let family ← AddressFamily.tryFrom val
    return addrFamily family
  | IPVS_DEST_ATTR_TUN_TYPE => do
    let val ← Slice.index payload 0
    let tunType' ← TunnelType.tryFrom val
    return tunType tunType'
  | IPVS_DEST_ATTR_TUN_PORT => do
    let val ← ofExcept (K.parseU16 payload)
    return tunPort val
  | IPVS_DEST_ATTR_TUN_FLAGS => do
    let val ← ofExcept (K.parseU16 payload)
    return tunFlags ⟨val⟩
  | other => .err (.message s!"Unknown DestinationCtrlAttrs kind: {other}")

end DestinationCtrlAttrs

/-- A real server of a web service, for runs of the model. -/
def Destination.web (fwdMethod : ForwardTypeFull) (port : UInt16) : Destination where
  address := .V4 ⟨[10, 0, 0, 2], rfl⟩
  fwdMethod := fwdMethod
  weight := 1
  upperThreshold := none
  lowerThreshold := some ⟨5, by decide⟩
  port := port
  family := .IPv4

end NetlinkIpvs

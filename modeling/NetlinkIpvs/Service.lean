import Mathlib.Data.List.DropRight
import NetlinkIpvs.Netmask

/-!
# Services

`src/ctrl/nlas/service.rs` : a virtual service, the attributes it is sent and received
as, and the two ways between them. `Service.createNlas` and `Service.fromNlas` go
between a service and a list of attributes, `SvcCtrlAttrs.emitValue` and
`SvcCtrlAttrs.parse` between an attribute and its bytes.
-/

open Rust Rust.Outcome

namespace NetlinkIpvs

/-! ## Strings -/

/-- `str::as_bytes`. -/
def strBytes (s : String) : Bytes :=
  s.toByteArray.data.toList

/-- `core::str::from_utf8`. -/
def fromUtf8 (bytes : Bytes) : Option String :=
  String.fromUTF8? ⟨bytes.toArray⟩

/-- `str::trim_end_matches('\0')`. -/
def trimEndNul (s : String) : String :=
  String.ofList (s.toList.rdropWhile (· = '\x00'))

/-! ## The data -/

structure Flags where
  val : UInt32
deriving DecidableEq, Repr

inductive Scheduler where
  | roundRobin
  | weightedRoundRobin
  | leastConnection
  | weightedLeastConnection
  | localityBasedLeastConnection
  | localityBasedLeastConnectionWithReplication
  | destinationHashing
  | sourceHashing
  | shortestExpectedDelay
  | neverQueue
  | weightedFailover
  | weightedOverflow
  | maglevHashing
deriving DecidableEq, Repr

namespace Scheduler

/-- `impl From<&str> for Scheduler`. -/
def fromStr : String → Panics Scheduler
  | "rr" => .ok roundRobin
  | "wrr" => .ok weightedRoundRobin
  | "lc" => .ok leastConnection
  | "wlc" => .ok weightedLeastConnection
  | "lblc" => .ok localityBasedLeastConnection
  | "lblcr" => .ok localityBasedLeastConnectionWithReplication
  | "dh" => .ok destinationHashing
  | "sh" => .ok sourceHashing
  | "sed" => .ok shortestExpectedDelay
  | "nq" => .ok neverQueue
  | "fo" => .ok weightedFailover
  | "fail" => .ok weightedFailover
  | "ovf" => .ok weightedOverflow
  | "flow" => .ok weightedOverflow
  | "mh" => .ok maglevHashing
  | other => .error (.explicit s!"Unknown scheduler: '{other}'")

/-- `Scheduler::as_string`. -/
def asString : Scheduler → String
  | roundRobin => "rr"
  | weightedRoundRobin => "wrr"
  | leastConnection => "lc"
  | weightedLeastConnection => "wlc"
  | localityBasedLeastConnection => "lblc"
  | localityBasedLeastConnectionWithReplication => "lblcr"
  | destinationHashing => "dh"
  | sourceHashing => "sh"
  | shortestExpectedDelay => "sed"
  | neverQueue => "nq"
  | weightedFailover => "fo"
  | weightedOverflow => "ovf"
  | maglevHashing => "mh"

end Scheduler

inductive Protocol where
  | TCP
  | UDP
  | SCTP
deriving DecidableEq, Repr

structure Service where
  address : IpAddr
  netmask : Netmask
  scheduler : Scheduler
  flags : Flags
  port : Option UInt16
  fwMark : Option UInt32
  persistenceTimeout : Option NonZeroU32
  family : AddressFamily
  protocol : Protocol
deriving DecidableEq

structure ServiceExtended where
  service : Service
  stats64 : Stats64
deriving DecidableEq

inductive SvcCtrlAttrs where
  | addressFamily (af : AddressFamily)
  | protocol (protocol : Protocol)
  | addrBytes (bytes : AddrBytes)
  | port (port : UInt16)
  | flags (flags : Flags)
  | fwmark (fwmark : UInt32)
  | scheduler (scheduler : Scheduler)
  | timeout (timeout : UInt32)
  | netmask (nm : Netmask)
  | stats
  | stats64 (stats : Stats64)
deriving DecidableEq

/-! ## Between a service and its attributes -/

namespace Service

/-- The variables of `Service::from_nlas`. -/
@[ext] structure Slots where
  address : Option AddrBytes := none
  netmask : Option Netmask := none
  scheduler : Option Scheduler := none
  flags : Option Flags := none
  port : Option UInt16 := none
  fwMark : Option UInt32 := none
  persistenceTimeout : Option NonZeroU32 := none
  family : Option AddressFamily := none
  protocol : Option Protocol := none
  stats64 : Option Stats64 := none

/-- The body of the loop in `Service::from_nlas`. -/
def Slots.update (slots : Slots) : SvcCtrlAttrs → Slots
  | .addressFamily f => { slots with family := some f }
  | .protocol p => { slots with protocol := some p }
  | .addrBytes bytes => { slots with address := some bytes }
  | .port p => { slots with port := some p }
  | .fwmark f => { slots with fwMark := some f }
  | .scheduler s => { slots with scheduler := some s }
  | .flags f => { slots with flags := some f }
  | .timeout t => { slots with persistenceTimeout := NonZeroU32.new t }
  | .netmask n => { slots with netmask := some n }
  | .stats64 n => { slots with stats64 := some n }
  | .stats => slots

/-- `Service::from_nlas` after the loop. -/
def Slots.finish (slots : Slots) : Outcome String ServiceExtended := do
  let family ← okOr slots.family "Address family is required"
  let address ← okOr slots.address "Address is required"
  let address ← address.asIpaddr family
  let netmask ← okOr slots.netmask "Netmask is required"
  let netmask ← Netmask.new netmask.ones family
  let scheduler ← okOr slots.scheduler "Scheduler is required"
  let flags ← okOr slots.flags "Flags are required"
  let protocol ← okOr slots.protocol "Protocol is required"
  let s : Service :=
    { address, netmask, scheduler, flags, port := slots.port, fwMark := slots.fwMark,
      persistenceTimeout := slots.persistenceTimeout, family, protocol }
  let stats64 ← okOr slots.stats64 "Did not receive stats64"
  return { service := s, stats64 }

/-- `Service::from_nlas`. -/
def fromNlas (nlas : List SvcCtrlAttrs) : Outcome String ServiceExtended :=
  (nlas.foldl Slots.update {}).finish

/-- `Service::create_nlas`. -/
def createNlas (self : Service) : List SvcCtrlAttrs :=
  [SvcCtrlAttrs.addressFamily self.family, .protocol self.protocol,
    .addrBytes ⟨self.address.octets⟩] ++
  (match self.port with
    | some port => [SvcCtrlAttrs.port port]
    | none => []) ++
  (match self.fwMark with
    | some fwMark => [SvcCtrlAttrs.fwmark fwMark]
    | none => []) ++
  [SvcCtrlAttrs.scheduler self.scheduler, .flags self.flags] ++
  (match self.persistenceTimeout with
    | some timeout => [SvcCtrlAttrs.timeout timeout]
    | none => [SvcCtrlAttrs.timeout 0]) ++
  [SvcCtrlAttrs.netmask self.netmask]

/-- What holds of every attribute a service is sent as. -/
theorem forall_mem_createNlas {s : Service} {P : SvcCtrlAttrs → Prop} :
    (∀ a ∈ s.createNlas, P a) ↔
      P (.addressFamily s.family) ∧ P (.protocol s.protocol) ∧ P (.addrBytes ⟨s.address.octets⟩) ∧
        (∀ p, s.port = some p → P (.port p)) ∧ (∀ m, s.fwMark = some m → P (.fwmark m)) ∧
        P (.scheduler s.scheduler) ∧ P (.flags s.flags) ∧
        P (.timeout (NonZeroU32.orZero s.persistenceTimeout)) ∧ P (.netmask s.netmask) := by
  unfold createNlas
  cases s.port <;> cases s.fwMark <;> cases s.persistenceTimeout <;>
    simp [NonZeroU32.orZero]

end Service

/-! ## Between an attribute and its bytes -/

@[match_pattern] abbrev IPVS_SVC_ATTR_AF : ℕ := 1
@[match_pattern] abbrev IPVS_SVC_ATTR_PROTOCOL : ℕ := 2
@[match_pattern] abbrev IPVS_SVC_ATTR_ADDR : ℕ := 3
@[match_pattern] abbrev IPVS_SVC_ATTR_PORT : ℕ := 4
@[match_pattern] abbrev IPVS_SVC_ATTR_FWMARK : ℕ := 5
@[match_pattern] abbrev IPVS_SVC_ATTR_SCHED_NAME : ℕ := 6
@[match_pattern] abbrev IPVS_SVC_ATTR_FLAGS : ℕ := 7
@[match_pattern] abbrev IPVS_SVC_ATTR_TIMEOUT : ℕ := 8
@[match_pattern] abbrev IPVS_SVC_ATTR_NETMASK : ℕ := 9
@[match_pattern] abbrev IPVS_SVC_ATTR_STATS : ℕ := 10
@[match_pattern] abbrev IPVS_SVC_ATTR_STATS64 : ℕ := 12

/-- The number of a protocol on the wire. -/
def Protocol.toU16 : Protocol → UInt16
  | TCP => 0x06
  | UDP => 0x11
  | SCTP => 0x84

namespace SvcCtrlAttrs

/-- `SvcCtrlAttrs::value_len`. -/
def valueLen : SvcCtrlAttrs → Panics ℕ
  | .addressFamily _ => .ok 2
  | .addrBytes bytes => .ok bytes.bytes.length
  | .protocol _ => .ok 2
  | .port _ => .ok 2
  | .flags _ => .ok (4 + 4)
  | .fwmark _ => .ok 4
  | .scheduler s => .ok ((strBytes s.asString).length + 1)
  | .timeout _ => .ok 4
  | .netmask nm =>
    match nm.addressFamily with
    | some .IPv4 => .ok 4
    | some .IPv6 => .ok 16
    | none => .error (.explicit "Trying to send a netmask without address family")
  | .stats | .stats64 _ => .error (.explicit "Stats64 should never be sent over the wire")

/-- `SvcCtrlAttrs::kind`. -/
def kind : SvcCtrlAttrs → ℕ
  | .addressFamily _ => IPVS_SVC_ATTR_AF
  | .protocol _ => IPVS_SVC_ATTR_PROTOCOL
  | .addrBytes _ => IPVS_SVC_ATTR_ADDR
  | .port _ => IPVS_SVC_ATTR_PORT
  | .flags _ => IPVS_SVC_ATTR_FLAGS
  | .fwmark _ => IPVS_SVC_ATTR_FWMARK
  | .scheduler _ => IPVS_SVC_ATTR_SCHED_NAME
  | .timeout _ => IPVS_SVC_ATTR_TIMEOUT
  | .netmask _ => IPVS_SVC_ATTR_NETMASK
  | .stats64 _ => IPVS_SVC_ATTR_STATS64
  | .stats => IPVS_SVC_ATTR_STATS

variable (K : Crates)

/-- `SvcCtrlAttrs::emit_value`. -/
def emitValue (self : SvcCtrlAttrs) (buffer : Bytes) : Panics Bytes :=
  match self with
  | .addressFamily af => K.writeU16 .little buffer af.toU16
  | .addrBytes bytes =>
    Slice.onRange buffer 0 bytes.bytes.length (Slice.copyFromSlice bytes.bytes)
  | .protocol p => K.writeU16 .little buffer p.toU16
  | .port p => K.writeU16 .big buffer p
  | .flags f => do
    let buffer ← K.writeU32 .little buffer f.val
    let buffer ← Slice.assign buffer 4 0xff
    let buffer ← Slice.assign buffer 5 0xff
    let buffer ← Slice.assign buffer 6 0xff
    Slice.assign buffer 7 0xff
  | .fwmark f => K.writeU32 .little buffer f
  | .scheduler s => do
    let name := strBytes s.asString
    let buffer ← Slice.onRange buffer 0 name.length (Slice.copyFromSlice name)
    if name.length < buffer.length then Slice.assign buffer name.length 0 else pure buffer
  | .timeout t => K.writeU32 .little buffer t
  | .netmask nm => nm.genNetmask buffer
  | .stats | .stats64 _ => .error (.explicit "Stats64 should never be sent over the wire")

/-- `impl Nla for SvcCtrlAttrs`. -/
def nla (self : SvcCtrlAttrs) : Nla where
  valueLen := self.valueLen
  kind := self.kind
  emitValue := emitValue K self

/-- `SvcCtrlAttrs::parse`. -/
def parse (buf : NlaBuffer) : Outcome DecodeError SvcCtrlAttrs :=
  let payload := buf.value
  match buf.kind with
  | IPVS_SVC_ATTR_AF => do
    let val ← ofExcept (K.parseU16 payload)
    match val.toNat with
    | 2 => return addressFamily .IPv4
    | 10 => return addressFamily .IPv6
    | other => .err (.message s!"unknown addr family {other}")
  | IPVS_SVC_ATTR_ADDR => return addrBytes ⟨payload⟩
  | IPVS_SVC_ATTR_PROTOCOL => do
    let val ← ofExcept (K.parseU16 payload)
    match val.toNat with
    | 0x06 => return protocol .TCP
    | 0x11 => return protocol .UDP
    | 0x84 => return protocol .SCTP
    | other => .panic (.explicit s!"Protocol {other} is not supported")
  | IPVS_SVC_ATTR_PORT => do
    let val ← K.readU16 .little payload
    return port (UInt16.fromBe K.host val)
  | IPVS_SVC_ATTR_FLAGS => do
    let val ← K.readU32 .little payload
    return flags ⟨val⟩
  | IPVS_SVC_ATTR_FWMARK => do
    let val ← K.readU32 .big payload
    return fwmark val
  | IPVS_SVC_ATTR_SCHED_NAME => do
    let name ← okOr (fromUtf8 payload) (.context "Scheduler name invalid utf-8" .utf8)
    let name := trimEndNul name
    let s ← Scheduler.fromStr name
    return scheduler s
  | IPVS_SVC_ATTR_TIMEOUT => do
    let val ← K.readU32 .big payload
    return timeout val
  | IPVS_SVC_ATTR_NETMASK =>
    let ones := (payload.map UInt8.countOnes).sum
    if ones ≤ 128 then return netmask (Netmask.withoutAf (UInt8.ofNat ones))
    else .panic (.explicit "assertion failed: ones <= 128")
  | IPVS_SVC_ATTR_STATS64 => do
    let st ← Stats64.parseNlas K payload
    return stats64 st
  | IPVS_SVC_ATTR_STATS => return stats
  | other => .panic (.explicit s!"Unhandled {other}")

end SvcCtrlAttrs

/-- A web service, for runs of the model. -/
def Service.web : Service where
  address := .V4 ⟨[10, 0, 0, 1], rfl⟩
  netmask := ⟨24, some .IPv4, by decide⟩
  scheduler := .weightedLeastConnection
  flags := ⟨2⟩
  port := some 80
  fwMark := none
  persistenceTimeout := none
  family := .IPv4
  protocol := .TCP

end NetlinkIpvs

import NetlinkIpvs.Serialize
import NetlinkIpvs.Session

/-!
# Listing services

`examples/list_services.rs` : a program that asks the kernel for the services, and then,
for each service, for its destinations. It reads datagrams from a socket and writes
`Event`s, the requests it sends and the lines it prints. `listServices` is the program once
it has the number of the family.
-/

open Rust Rust.Outcome

namespace NetlinkIpvs

/-! ## What is written -/

/-- A request, or a line. A line with an address or an error keeps them as they are. -/
inductive Event where
  | sent (bytes : Bytes)
  | println (text : String)
  | eprintln (text : String)
  /-- The line of a service. -/
  | service (protocol : String) (address : IpAddr) (port : Option UInt16) (scheduler : String)
      (flags : Flags)
  /-- The line of a destination. -/
  | destination (address : IpAddr) (port : UInt16) (method : String) (weight : UInt32)
      (activeConnections inactiveConnections : UInt32)
  /-- `Failed to parse response` and the error. -/
  | failedResponse (e : DecodeError)
deriving DecidableEq

/-- `format_protocol`. -/
def formatProtocol : Protocol → String
  | .TCP => "TCP"
  | .UDP => "UDP"
  | .SCTP => "SCTP"

/-- `format_scheduler`. -/
def formatScheduler : Scheduler → String
  | .roundRobin => "rr"
  | .weightedRoundRobin => "wrr"
  | .leastConnection => "lc"
  | .weightedLeastConnection => "wlc"
  | .localityBasedLeastConnection => "lblc"
  | .localityBasedLeastConnectionWithReplication => "lblcr"
  | .destinationHashing => "dh"
  | .sourceHashing => "sh"
  | .shortestExpectedDelay => "sed"
  | .neverQueue => "nq"
  | .weightedFailover => "fo"
  | .weightedOverflow => "ovf"
  | .maglevHashing => "mh"

/-- `format_forward_method`. -/
def formatForwardMethod : ForwardTypeFull → String
  | .masquerade => "Masq"
  | .direct => "Route"
  | .tunnel _ _ _ => "Tunnel"

/-- The line of a service. -/
def ServiceExtended.event (serviceExt : ServiceExtended) : Event :=
  let service := serviceExt.service
  .service (formatProtocol service.protocol) service.address service.port
    (formatScheduler service.scheduler) service.flags

/-- The line of a destination. -/
def DestinationExtended.event (destExt : DestinationExtended) : Event :=
  let dest := destExt.destination
  .destination dest.address dest.port (formatForwardMethod dest.fwdMethod) dest.weight
    destExt.activeConnections destExt.inactiveConnections

/-! ## The program -/

section Program

variable (P : Packets)

/-- `NetlinkMessage::<GenlMessage<IpvsServiceCtrl>>::deserialize`. -/
def response (rxbuf : Bytes) : Outcome DecodeError (NetlinkMessage (GenlMessage IpvsServiceCtrl)) :=
  P.deserialize (IpvsServiceCtrl.parseWithParam P.toCrates) rxbuf

/-- The lines of a group of an answer about destinations. -/
def printDestination : IpvsCtrlAttrs → Says Event Unit
  | .destination destAttrs =>
    match DestinationExtended.fromNlas destAttrs with
    | .ok destExt => Says.line destExt.event
    | .err e => Says.line (Event.eprintln s!"Failed to parse destination: {e}")
    | .panic p => liftM (.error p : Panics Unit)
  | .service _ => pure ()

/-- The body of the loop in `query_destinations_for_service`. -/
def queryTurn (_ : Unit) (rxbuf : Bytes) : Says Event (ControlFlow Unit Unit) :=
  match response P rxbuf with
  | .ok response =>
    match response.payload with
    | .error errmsg => do
      match errmsg.code with
      -- -2 is `ENOENT`, no destinations
      | some code =>
        if code.val ≠ -2 then Says.line (Event.eprintln s!"Error querying destinations: {code.val}")
      | none => pure ()
      return .leave ⟨⟩
    | .done _ => return .leave ⟨⟩
    | .innerMessage genlmsg => do
      Says.each printDestination genlmsg.payload.nlas
      return .next ⟨⟩
    | _ => return .leave ⟨⟩
  | .err _ => return .leave ⟨⟩
  | .panic p => liftM (.error p : Panics (ControlFlow Unit Unit))

/-- The attributes of a service that a query for its destinations keeps. -/
def SvcCtrlAttrs.identifies : SvcCtrlAttrs → Bool
  | .addressFamily _ | .protocol _ | .addrBytes _ | .port _ | .fwmark _ => true
  | _ => false

/-- The query for the destinations of a service. -/
def destinationQuery (familyId : UInt16) (serviceAttrs : List SvcCtrlAttrs) : IpvsServiceCtrl where
  cmd := .getDest
  nlas := [.service (serviceAttrs.filter SvcCtrlAttrs.identifies)]
  familyId := familyId

/-- `query_destinations_for_service`. -/
def queryDestinationsForService (familyId : UInt16) (serviceAttrs : List SvcCtrlAttrs) :
    Session Bytes Event Unit := do
  let serialized ← (liftM ((destinationQuery familyId serviceAttrs).serialize P true) :
    Says Event Bytes)
  Says.line (Event.sent serialized)
  Session.loop (queryTurn P) ()

/-- The attributes of a group of service attributes. -/
def IpvsCtrlAttrs.serviceAttrs : IpvsCtrlAttrs → Option (List SvcCtrlAttrs)
  | .service serviceAttrs => some serviceAttrs
  | .destination _ => none

/-- The body of the loop in `list_services`. It leaves the loop with the services, or with
nothing where the function returns. -/
def listTurn (services : List (List SvcCtrlAttrs)) (rxbuf : Bytes) :
    Says Event (ControlFlow (List (List SvcCtrlAttrs)) (Option (List (List SvcCtrlAttrs)))) :=
  match response P rxbuf with
  | .ok response =>
    match response.payload with
    | .error errmsg =>
      match errmsg.code with
      | some code =>
        if code.val = -1 then do
          Says.line (Event.eprintln "Permission denied. Try running with sudo.")
          return .leave none
        else do
          Says.line (Event.eprintln s!"Error listing services: {code.val}")
          return .leave none
      | none => return .next services
    | .done _ => return .leave (some services)
    | .innerMessage genlmsg =>
      return .next (services ++ genlmsg.payload.nlas.filterMap IpvsCtrlAttrs.serviceAttrs)
    | _ => do
      Says.line (Event.println "Unexpected response type")
      return .next services
  | .err e => do
    Says.line (Event.failedResponse e)
    return .leave (some services)
  | .panic p => liftM (.error p : Panics (ControlFlow _ _))

/-- The body of the loop over the services in `list_services`. -/
def reportService (familyId : UInt16) (serviceAttrs : List SvcCtrlAttrs) :
    Session Bytes Event Unit :=
  match Service.fromNlas serviceAttrs with
  | .ok serviceExt => do
    Says.line serviceExt.event
    queryDestinationsForService P familyId serviceAttrs
  | .err e => Says.line (Event.eprintln s!"Failed to parse service: {e}")
  | .panic p => (liftM (.error p : Panics Unit) : Says Event Unit)

/-- The request for the services. -/
def serviceQuery (familyId : UInt16) : IpvsServiceCtrl where
  cmd := .getService
  nlas := []
  familyId := familyId

/-- `list_services`. -/
def listServices (familyId : UInt16) : Session Bytes Event Unit := do
  Says.line (Event.println "Listing IPVS services and destinations...")
  let serialized ← (liftM ((serviceQuery familyId).serialize P true) : Says Event Bytes)
  Says.line (Event.sent serialized)
  Says.line (Event.println "IP Virtual Server version 1.2.1 (size=4096)")
  Says.line (Event.println "Prot LocalAddress:Port Scheduler Flags")
  Says.line (Event.println "  -> RemoteAddress:Port           Forward Weight ActiveConn InActConn")
  let services ← Session.loop (listTurn P) []
  match services with
  | some services => Session.each (reportService P familyId) services
  | none => pure ()

end Program

end NetlinkIpvs

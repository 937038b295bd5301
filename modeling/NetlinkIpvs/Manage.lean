import NetlinkIpvs.Replies

/-!
# Managing services

`examples/manage_service.rs` : a program that creates a service and then adds a destination to
it. Each of the two sends one request and reads one response.

The program goes on after any response but an error with a code and one whose decoding panics,
so also after a response it cannot read, and it prints that the configuration is complete
(`manageServices_returned_iff`, `manageServices_panicked_iff`).
-/

open Rust Rust.Outcome

namespace NetlinkIpvs

/-! ## The program -/

/-- A request, or a line. A line with an error or with bytes keeps them as they are. -/
inductive Notice where
  | sent (bytes : Bytes)
  | println (text : String)
  /-- `Failed to parse response` and the error. -/
  | failedResponse (e : DecodeError)
  /-- `Raw response` and the bytes. -/
  | rawResponse (rxbuf : Bytes)
deriving DecidableEq

/-- The texts in which `create_service` and `add_destination` differ. -/
structure Texts where
  failed : String
  acknowledged : String
  succeeded : String
  unexpected : String

section Program

variable (P : Packets)

/-- The response to a request. -/
def responseTurn (texts : Texts) (_ : Unit) (rxbuf : Bytes) :
    Says Notice (ControlFlow Unit Unit) :=
  match response P rxbuf with
  | .ok response =>
    match response.payload with
    | .error errmsg =>
      match errmsg.code with
      | some code =>
        let errno := code.val
        let errorMsg := if errno = -1 then "Permission denied. Try running with sudo."
          else "Unknown error"
        liftM (.error (.explicit s!"{texts.failed} failed with error code: {errno} ({errorMsg})") :
          Panics (ControlFlow Unit Unit))
      | none => do
        Says.line (Notice.println texts.acknowledged)
        return .leave ⟨⟩
    | .innerMessage _ => do
      Says.line (Notice.println texts.succeeded)
      return .leave ⟨⟩
    | _ => do
      Says.line (Notice.println texts.unexpected)
      return .leave ⟨⟩
  | .err e => do
    Says.line (Notice.failedResponse e)
    Says.line (Notice.rawResponse rxbuf)
    return .leave ⟨⟩
  | .panic p => liftM (.error p : Panics (ControlFlow Unit Unit))

/-- A request and its response. -/
def configure (texts : Texts) (ctrlMsg : IpvsServiceCtrl) : Session Bytes Notice Unit := do
  let serialized ← (liftM (ctrlMsg.serialize P false) : Says Notice Bytes)
  Says.line (Notice.sent serialized)
  Session.loop (responseTurn P texts) ()

/-- The texts of `create_service`. -/
def creation : Texts where
  failed := "Service creation"
  acknowledged := "Service created successfully (ACK)"
  succeeded := "Service created successfully"
  unexpected := "Service creation: unexpected response type"

/-- The texts of `add_destination`. -/
def addition : Texts where
  failed := "Destination addition"
  acknowledged := "Destination added successfully (ACK)"
  succeeded := "Destination added successfully"
  unexpected := "Destination addition: unexpected response type"

/-- The request of `create_service`. -/
def creationRequest (netmask : Netmask) (familyId : UInt16) : IpvsServiceCtrl where
  cmd := .newService
  nlas := [.service [.addressFamily .IPv4, .protocol .TCP, .port 80, .scheduler .roundRobin,
    .flags ⟨0⟩, .addrBytes ⟨[192, 168, 1, 100, 0, 0, 0, 0, 0, 0, 0, 0, 0, 0, 0, 0]⟩,
    .netmask netmask, .timeout 0]]
  familyId := familyId

/-- The request of `add_destination`. -/
def additionRequest (familyId : UInt16) : IpvsServiceCtrl where
  cmd := .newDest
  nlas := [.service [.addressFamily .IPv4, .protocol .TCP, .port 80,
      .addrBytes ⟨[192, 168, 1, 100, 0, 0, 0, 0, 0, 0, 0, 0, 0, 0, 0, 0]⟩],
    .destination [.addrFamily .IPv4,
      .addr ⟨[10, 0, 0, 1, 0, 0, 0, 0, 0, 0, 0, 0, 0, 0, 0, 0]⟩, .port 8080,
      .fwdMethod ForwardTypeFull.masquerade.toForwardType, .weight 100, .upperThreshold 0,
      .lowerThreshold 0]]
  familyId := familyId

def announceCreation : Notice :=
  .println "Creating service: TCP 192.168.1.100:80 using round-robin scheduler"

def announceAddition : Notice :=
  .println "Adding destination: 10.0.0.1:8080 with masquerade forwarding, weight 100"

/-- `create_service`. -/
def createService (familyId : UInt16) : Session Bytes Notice Unit := do
  Says.line announceCreation
  let netmask ← (liftM (Netmask.new 32 .IPv4) : Says Notice Netmask)
  configure P creation (creationRequest netmask familyId)

/-- `add_destination`. -/
def addDestination (familyId : UInt16) : Session Bytes Notice Unit := do
  Says.line announceAddition
  configure P addition (additionRequest familyId)

/-- `main`, once it has the number of the family. -/
def manageServices (familyId : UInt16) : Session Bytes Notice Unit := do
  createService P familyId
  addDestination P familyId
  Says.line (Notice.println "Service and destination configuration complete!")

end Program

/-! ## One request -/

/-- The lines about a response after which the program goes on. -/
def Reply.notices (texts : Texts) (rxbuf : Bytes) : Reply → Option (List Notice)
  | code none => some [.println texts.acknowledged]
  | groups _ => some [.println texts.succeeded]
  | done | other => some [.println texts.unexpected]
  | unreadable e => some [.failedResponse e, .rawResponse rxbuf]
  | code (some _) | aborts _ => none

variable {P : Packets} {texts : Texts}

/-- The program goes on after a response, or panics at it. -/
theorem responseTurn_eq (texts : Texts) (rxbuf : Bytes) :
    (∃ l, (reply P rxbuf).notices texts rxbuf = some l ∧
      responseTurn P texts () rxbuf = ⟨l, .ok (.leave ())⟩) ∨
    (reply P rxbuf).notices texts rxbuf = none ∧
      ∃ p, responseTurn P texts () rxbuf = ⟨[], .error p⟩ := by
  unfold responseTurn reply
  cases response P rxbuf with
  | ok r =>
    obtain ⟨header, payload⟩ := r
    cases payload with
    | error errmsg =>
      obtain ⟨code, bytes⟩ := errmsg
      cases code with
      | none => exact Or.inl ⟨_, rfl, rfl⟩
      | some c => exact Or.inr ⟨rfl, _, rfl⟩
    | _ => exact Or.inl ⟨_, rfl, rfl⟩
  | err e => exact Or.inl ⟨_, rfl, rfl⟩
  | panic p => exact Or.inr ⟨rfl, _, rfl⟩

theorem responseTurn_leave_iff {rxbuf : Bytes} {l : List Notice} :
    responseTurn P texts () rxbuf = ⟨l, .ok (.leave ())⟩ ↔
      (reply P rxbuf).notices texts rxbuf = some l := by
  obtain ⟨m, hm, hturn⟩ | ⟨hm, p, hturn⟩ := responseTurn_eq (P := P) texts rxbuf <;>
    simp [hm, hturn]

theorem responseTurn_panics_iff {rxbuf : Bytes} :
    (∃ p, (responseTurn P texts () rxbuf).value = .error p) ↔
      (reply P rxbuf).notices texts rxbuf = none := by
  obtain ⟨m, hm, hturn⟩ | ⟨hm, p, hturn⟩ := responseTurn_eq (P := P) texts rxbuf <;>
    simp [hm, hturn]

/-- One response is read. -/
theorem turns_responseTurn_iff {xs : List Bytes} {l : List Notice} :
    Session.Turns (responseTurn P texts) () xs () l ↔ xs = [] ∧ l = [] := by
  constructor
  · intro ht
    cases ht with
    | nil => exact ⟨rfl, rfl⟩
    | @cons _ _ _ x _ _ _ hx _ =>
      obtain ⟨n, -, hturn⟩ | ⟨-, p, hturn⟩ := responseTurn_eq (P := P) texts x
      · cases hturn.symm.trans hx
      · cases hturn.symm.trans hx
  · rintro ⟨rfl, rfl⟩
    exact .nil ()

section Configure

variable {ctrlMsg : IpvsServiceCtrl}
  (hsent : ctrlMsg.serialize P false = .ok (ctrlMsg.datagram P.host false))

include hsent

/-- A request is sent, and one response after which the program goes on is read. -/
theorem reads_configure_iff {zs : List Bytes} {log : List Notice} :
    (configure P texts ctrlMsg).Reads zs () log ↔
      ∃ x m, (reply P x).notices texts x = some m ∧ zs = [x] ∧
        log = .sent (ctrlMsg.datagram P.host false) :: m := by
  rw [configure, Session.reads_panics_bind_iff, hsent]
  simp only [Except.ok.injEq, exists_eq_left', Session.reads_line_bind_iff]
  constructor
  · rintro ⟨n, hn, rfl⟩
    obtain ⟨ys, ⟨⟩, l, x, m, ht, hx, rfl, rfl⟩ := Session.reads_loop_iff.1 hn
    obtain ⟨rfl, rfl⟩ := turns_responseTurn_iff.1 ht
    exact ⟨x, m, responseTurn_leave_iff.1 hx, rfl, rfl⟩
  · rintro ⟨x, m, hm, rfl, rfl⟩
    exact ⟨m, Session.reads_loop_iff.2 ⟨[], (), [], x, m, turns_responseTurn_iff.2 ⟨rfl, rfl⟩,
      responseTurn_leave_iff.2 hm, rfl, rfl⟩, rfl⟩

theorem panicked_configure_iff {zs : List Bytes} :
    (configure P texts ctrlMsg).Panicked zs ↔
      ∃ x rest, zs = x :: rest ∧ (reply P x).notices texts x = none := by
  rw [configure, Session.panicked_panics_bind_iff, hsent]
  simp only [reduceCtorEq, exists_false, false_or, Except.ok.injEq, exists_eq_left',
    Session.panicked_line_bind_iff, Session.panicked_loop_iff]
  constructor
  · rintro ⟨ys, ⟨⟩, l, x, rest, ht, hx, rfl⟩
    obtain ⟨rfl, rfl⟩ := turns_responseTurn_iff.1 ht
    exact ⟨x, rest, rfl, responseTurn_panics_iff.1 hx⟩
  · rintro ⟨x, rest, rfl, hx⟩
    exact ⟨[], (), [], x, rest, turns_responseTurn_iff.2 ⟨rfl, rfl⟩, responseTurn_panics_iff.2 hx,
      rfl⟩

end Configure

/-! ## Both requests -/

/-- The netmask of the service. -/
def creationNetmask : Netmask := ⟨32, some .IPv4, by decide⟩

theorem new_creationNetmask : Netmask.new 32 .IPv4 = .ok creationNetmask := rfl

/-- A message of short groups is serialized. -/
theorem serialize_of_short (hP : P.Documented) {m : IpvsServiceCtrl} {dump : Bool}
    (hlen : m.nlas.length ≤ 2 ^ 15) (hm : ∀ g ∈ m.nlas, g.Sendable)
    (hfit : ∀ g ∈ m.nlas, (IpvsCtrlAttrs.nla P.toCrates g).Fits) :
    m.serialize P dump = .ok (m.datagram P.host dump) :=
  (serialize_eq_ok hP).2
    ⟨IpvsServiceCtrl.encodable_of_length hP.toDocumented hm hfit hlen, rfl⟩

theorem serialize_creationRequest (hP : P.Documented) (familyId : UInt16) :
    (creationRequest creationNetmask familyId).serialize P false =
      .ok ((creationRequest creationNetmask familyId).datagram P.host false) := by
  refine serialize_of_short hP (by simp [creationRequest]) ?_ ?_
  · intro g hg
    obtain rfl := List.mem_singleton.1 hg
    simp [IpvsCtrlAttrs.Sendable, SvcCtrlAttrs.Sendable, creationNetmask]
  · intro g hg
    obtain rfl := List.mem_singleton.1 hg
    exact Crates.fits_service hP.toDocumented (by simp) (by simp)

theorem serialize_additionRequest (hP : P.Documented) (familyId : UInt16) :
    (additionRequest familyId).serialize P false =
      .ok ((additionRequest familyId).datagram P.host false) := by
  refine serialize_of_short hP (by simp [additionRequest]) ?_ ?_
  · intro g hg
    rcases List.mem_pair.1 hg with rfl | rfl
    · simp [IpvsCtrlAttrs.Sendable, SvcCtrlAttrs.Sendable]
    · simp [IpvsCtrlAttrs.Sendable, DestinationCtrlAttrs.Sendable, ForwardTypeFull.toForwardType]
  · intro g hg
    rcases List.mem_pair.1 hg with rfl | rfl
    · exact Crates.fits_service hP.toDocumented (by simp) (by simp)
    · exact Crates.fits_destination hP.toDocumented (by simp)

variable {familyId : UInt16}

theorem reads_createService_iff (hP : P.Documented) {zs : List Bytes} {log : List Notice} :
    (createService P familyId).Reads zs () log ↔
      ∃ x m, (reply P x).notices creation x = some m ∧ zs = [x] ∧ log = announceCreation ::
        .sent ((creationRequest creationNetmask familyId).datagram P.host false) :: m := by
  rw [createService, Session.reads_line_bind_iff]
  simp only [Session.reads_panics_bind_iff, new_creationNetmask, Except.ok.injEq, exists_eq_left',
    reads_configure_iff (serialize_creationRequest hP familyId)]
  constructor
  · rintro ⟨_, ⟨x, m, hm, rfl, rfl⟩, rfl⟩
    exact ⟨x, m, hm, rfl, rfl⟩
  · rintro ⟨x, m, hm, rfl, rfl⟩
    exact ⟨_, ⟨x, m, hm, rfl, rfl⟩, rfl⟩

theorem reads_addDestination_iff (hP : P.Documented) {zs : List Bytes} {log : List Notice} :
    (addDestination P familyId).Reads zs () log ↔
      ∃ x m, (reply P x).notices addition x = some m ∧ zs = [x] ∧ log = announceAddition ::
        .sent ((additionRequest familyId).datagram P.host false) :: m := by
  rw [addDestination, Session.reads_line_bind_iff]
  simp only [reads_configure_iff (serialize_additionRequest hP familyId)]
  constructor
  · rintro ⟨_, ⟨x, m, hm, rfl, rfl⟩, rfl⟩
    exact ⟨x, m, hm, rfl, rfl⟩
  · rintro ⟨x, m, hm, rfl, rfl⟩
    exact ⟨_, ⟨x, m, hm, rfl, rfl⟩, rfl⟩

theorem panicked_createService_iff (hP : P.Documented) {zs : List Bytes} :
    (createService P familyId).Panicked zs ↔
      ∃ x rest, zs = x :: rest ∧ (reply P x).notices creation x = none := by
  rw [createService, Session.panicked_line_bind_iff, Session.panicked_panics_bind_iff]
  simp only [new_creationNetmask, reduceCtorEq, exists_false, false_or, Except.ok.injEq,
    exists_eq_left', panicked_configure_iff (serialize_creationRequest hP familyId)]

theorem panicked_addDestination_iff (hP : P.Documented) {zs : List Bytes} :
    (addDestination P familyId).Panicked zs ↔
      ∃ x rest, zs = x :: rest ∧ (reply P x).notices addition x = none := by
  rw [addDestination, Session.panicked_line_bind_iff,
    panicked_configure_iff (serialize_additionRequest hP familyId)]

/-- The program returns after two responses, if it goes on after each, and then it has sent both
requests and says that it is done. -/
theorem manageServices_returned_iff (hP : P.Documented) {zs rest : List Bytes}
    {log : List Notice} :
    (manageServices P familyId).run zs = (log, .returned () rest) ↔
      ∃ x y l m, zs = x :: y :: rest ∧ (reply P x).notices creation x = some l ∧
        (reply P y).notices addition y = some m ∧
        log = announceCreation ::
          .sent ((creationRequest creationNetmask familyId).datagram P.host false) ::
          (l ++ announceAddition :: .sent ((additionRequest familyId).datagram P.host false) ::
            (m ++ [.println "Service and destination configuration complete!"])) := by
  rw [Session.run_returned_iff]
  simp only [manageServices, Session.reads_bind_iff, reads_createService_iff hP,
    reads_addDestination_iff hP]
  constructor
  · rintro ⟨pre, rfl, _, ⟨⟩, _, _, _, ⟨x, l, hl, rfl, rfl⟩,
      ⟨_, ⟨⟩, _, _, _, ⟨y, m, hm, rfl, rfl⟩, hline, rfl, rfl⟩, rfl, rfl⟩
    obtain ⟨rfl, rfl⟩ := Session.reads_line_iff.1 hline
    exact ⟨x, y, l, m, rfl, hl, hm, by simp⟩
  · rintro ⟨x, y, l, m, rfl, hl, hm, rfl⟩
    refine ⟨[x, y], rfl, [x], (), _, [y], _, ⟨x, l, hl, rfl, rfl⟩,
      ⟨[y], (), _, [], _, ⟨y, m, hm, rfl, rfl⟩, Session.reads_line_iff.2 ⟨rfl, rfl⟩, rfl, rfl⟩, rfl,
      by simp⟩

/-- After an acknowledgement, and a byte that is no response, the program says it is done. -/
theorem manageServices_returned_unread : ∃ log,
    (manageServices (Packets.reference .little) 30).run
      [[20, 0, 0, 0, 2, 0, 0, 0, 0, 0, 0, 0, 0, 0, 0, 0, 0, 0, 0, 0], [1], [2]] =
        (log, .returned () [[2]]) ∧
    .println "Service and destination configuration complete!" ∈ log := by
  have hack : reply (Packets.reference .little)
      [20, 0, 0, 0, 2, 0, 0, 0, 0, 0, 0, 0, 0, 0, 0, 0, 0, 0, 0, 0] = .code none := by
    decide +kernel
  have hbyte : reply (Packets.reference .little) [1] =
      .unreadable (.message "invalid netlink buffer") := by
    decide +kernel
  refine ⟨_, (manageServices_returned_iff (Packets.reference_documented .little)).2
    ⟨_, _, _, _, rfl, by rw [hack]; rfl, by rw [hbyte]; rfl, rfl⟩, ?_⟩
  simp

/-- The program panics at the first response after which it does not go on. -/
theorem manageServices_panicked_iff (hP : P.Documented) {zs : List Bytes} :
    (manageServices P familyId).Panicked zs ↔
      (∃ x rest, zs = x :: rest ∧ (reply P x).notices creation x = none) ∨
      ∃ x y l rest, zs = x :: y :: rest ∧ (reply P x).notices creation x = some l ∧
        (reply P y).notices addition y = none := by
  simp only [manageServices, Session.panicked_bind_iff, panicked_createService_iff hP,
    panicked_addDestination_iff hP, Session.not_panicked_line, reads_createService_iff hP,
    and_false, exists_false, or_false]
  constructor
  · rintro (⟨x, rest, rfl, hx⟩ | ⟨_, _, ⟨⟩, _, rfl, ⟨x, l, hl, rfl, rfl⟩, y, rest, rfl, hy⟩)
    · exact Or.inl ⟨x, rest, rfl, hx⟩
    · exact Or.inr ⟨x, y, l, rest, rfl, hl, hy⟩
  · rintro (⟨x, rest, rfl, hx⟩ | ⟨x, y, l, rest, rfl, hl, hy⟩)
    · exact Or.inl ⟨x, rest, rfl, hx⟩
    · exact Or.inr ⟨[x], y :: rest, (), _, rfl, ⟨x, l, hl, rfl, rfl⟩, y, rest, rfl, hy⟩

/-- An error with the code -1. -/
theorem manageServices_panicked_permission :
    (manageServices (Packets.reference .little) 30).Panicked
      [[20, 0, 0, 0, 2, 0, 0, 0, 0, 0, 0, 0, 0, 0, 0, 0, 255, 255, 255, 255]] :=
  (manageServices_panicked_iff (Packets.reference_documented .little)).2
    (Or.inl ⟨_, _, rfl, by decide +kernel⟩)

end NetlinkIpvs

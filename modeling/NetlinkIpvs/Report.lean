import NetlinkIpvs.Queries
import NetlinkIpvs.Replies

/-!
# What a listing reports

A listing that has returned has read a part at the front of its stream. It is replies after
which the listing goes on, one after which it does not, and for each service that is put
together, in order, answers and one reply that is none (`listServices_returned_iff`). The
destinations printed under a service are those between its query and the next one, whatever
service they were sent about. A reply that is no answer, an acknowledgement among them, ends
the part of the service.

A listing panics in decoding, in `from_nlas`, or at a service whose query is too long
(`listServices_panicked_iff`). No query for a service of a short datagram is
(`not_panicked_listServices`). The program sees the first message of each datagram only
(`blind_listServices`).
-/

open Rust Rust.Outcome

namespace NetlinkIpvs

/-! ## Whole runs -/

variable {P : Packets} {familyId : UInt16}

/-- The lines of the destinations in some answers. -/
def destinationLines (P : Packets) (ys : List Bytes) : List Event :=
  ys.flatMap fun y => (reply P y).brought.flatMap IpvsCtrlAttrs.lines

/-- The service attributes in a listing. -/
def listedServices (P : Packets) (xs : List Bytes) : List (List SvcCtrlAttrs) :=
  xs.flatMap fun x => (reply P x).services

/-- The lines about a listing. -/
def listRemarks (P : Packets) (xs : List Bytes) : List Event :=
  xs.flatMap fun x => (reply P x).remarks

theorem turns_queryTurn_iff {ys : List Bytes} {l : List Event} :
    Session.Turns (queryTurn P) () ys () l ↔
      (∀ y ∈ ys, (reply P y).Answers) ∧ l = destinationLines P ys := by
  have hstep : ∀ (s : Unit) y (s' : Unit) m, queryTurn P s y = ⟨m, .ok (.next s')⟩ ↔
      (reply P y).Answers ∧ s' = (fun _ _ => ()) s y ∧
        m = (reply P y).brought.flatMap IpvsCtrlAttrs.lines := fun _ _ _ _ =>
    queryTurn_next_iff.trans (by simp only [true_and])
  rw [Session.turns_iff hstep]
  simp only [true_and]
  rfl

theorem turns_listTurn_iff {services services' : List (List SvcCtrlAttrs)} {xs : List Bytes}
    {l : List Event} : Session.Turns (listTurn P) services xs services' l ↔
      (∀ x ∈ xs, (reply P x).Continues) ∧ services' = services ++ listedServices P xs ∧
        l = listRemarks P xs := by
  have hstep : ∀ s x s' m, listTurn P s x = ⟨m, .ok (.next s')⟩ ↔
      (reply P x).Continues ∧ s' = (fun s x => s ++ (reply P x).services) s x ∧
        m = (reply P x).remarks := fun _ _ _ _ => listTurn_next_iff
  rw [Session.turns_iff hstep, List.foldl_append_eq_append]
  rfl

/-- A datagram panics the program, in its decoding or in one of its groups. -/
def Reply.Panics (r : Reply) : Prop :=
  (∃ p, r = .aborts p) ∨ ∃ g ∈ r.brought, g.Crashes

section Query

variable {serviceAttrs : List SvcCtrlAttrs}

section Run

variable (hP : P.Documented)

include hP

/-- A query for destinations is sent, and reads the answers up to the first reply that is
none. -/
theorem reads_query_iff {zs : List Bytes} {log : List Event} :
    (queryDestinationsForService P familyId serviceAttrs).Reads zs () log ↔
      ∃ ys y m, (destinationQuery familyId serviceAttrs).Encodable P.host ∧
        (∀ z ∈ ys, (reply P z).Answers) ∧ (reply P y).queryEnd = some m ∧ zs = ys ++ [y] ∧
        log = .sent ((destinationQuery familyId serviceAttrs).datagram P.host true) ::
          (destinationLines P ys ++ m) := by
  rw [queryDestinationsForService, Session.reads_panics_bind_iff]
  simp only [serialize_eq_ok hP, Session.reads_line_bind_iff]
  constructor
  · rintro ⟨_, ⟨hquery, rfl⟩, n, hn, rfl⟩
    obtain ⟨ys, ⟨⟩, l, y, m, ht, hy, rfl, rfl⟩ := Session.reads_loop_iff.1 hn
    obtain ⟨hys, rfl⟩ := turns_queryTurn_iff.1 ht
    exact ⟨ys, y, m, hquery, hys, queryTurn_leave_iff.1 hy, rfl, rfl⟩
  · rintro ⟨ys, y, m, hquery, hys, hy, rfl, rfl⟩
    exact ⟨_, ⟨hquery, rfl⟩, _, Session.reads_loop_iff.2 ⟨ys, (), _, y, m,
      turns_queryTurn_iff.2 ⟨hys, rfl⟩, queryTurn_leave_iff.2 hy, rfl, rfl⟩, rfl⟩

/-- A query panics iff it cannot be encoded, or answers are followed by a datagram that panics
the program. -/
theorem panicked_query_iff {zs : List Bytes} :
    (queryDestinationsForService P familyId serviceAttrs).Panicked zs ↔
      ¬(destinationQuery familyId serviceAttrs).Encodable P.host ∨
        (destinationQuery familyId serviceAttrs).Encodable P.host ∧
          ∃ ys y rest, zs = ys ++ y :: rest ∧ (∀ z ∈ ys, (reply P z).Answers) ∧
            (reply P y).Panics := by
  rw [queryDestinationsForService, Session.panicked_panics_bind_iff,
    IpvsServiceCtrl.exists_serialize_error_iff hP]
  simp only [serialize_eq_ok hP, Session.panicked_line_bind_iff, Session.panicked_loop_iff]
  refine or_congr_right ?_
  constructor
  · rintro ⟨_, ⟨hquery, rfl⟩, ys, ⟨⟩, l, y, rest, ht, hy, rfl⟩
    exact ⟨hquery, ys, y, rest, rfl, (turns_queryTurn_iff.1 ht).1, queryTurn_panics_iff.1 hy⟩
  · rintro ⟨hquery, ys, y, rest, rfl, hys, hy⟩
    exact ⟨_, ⟨hquery, rfl⟩, ys, (), _, y, rest, turns_queryTurn_iff.2 ⟨hys, rfl⟩,
      queryTurn_panics_iff.2 hy, rfl⟩

end Run

/-- What is read and written about a service : its line, the query, and the lines of the
answers up to the first reply that is none. -/
inductive Reported (P : Packets) (familyId : UInt16) (serviceAttrs : List SvcCtrlAttrs) :
    List Bytes × List Event → Prop
  | answered {serviceExt : ServiceExtended} {ys : List Bytes} {y : Bytes} {m : List Event}
      (hfrom : Service.fromNlas serviceAttrs = .ok serviceExt)
      (hquery : (destinationQuery familyId serviceAttrs).Encodable P.host)
      (hys : ∀ z ∈ ys, (reply P z).Answers) (hy : (reply P y).queryEnd = some m) :
      Reported P familyId serviceAttrs (ys ++ [y], serviceExt.event ::
        .sent ((destinationQuery familyId serviceAttrs).datagram P.host true) ::
          (destinationLines P ys ++ m))
  | refused {e : String} (hfrom : Service.fromNlas serviceAttrs = .err e) :
      Reported P familyId serviceAttrs ([], [.eprintln s!"Failed to parse service: {e}"])

/-- The program panics at a service : in putting it together, in a query that is too long, or
in an answer about it. -/
inductive Failed (P : Packets) (familyId : UInt16) (serviceAttrs : List SvcCtrlAttrs) :
    List Bytes → Prop
  | service {zs : List Bytes} (hfrom : (Service.fromNlas serviceAttrs).Panicked) :
      Failed P familyId serviceAttrs zs
  | query {serviceExt : ServiceExtended} {zs : List Bytes}
      (hfrom : Service.fromNlas serviceAttrs = .ok serviceExt)
      (hquery : ¬(destinationQuery familyId serviceAttrs).Encodable P.host) :
      Failed P familyId serviceAttrs zs
  | answer {serviceExt : ServiceExtended} {ys : List Bytes} {y : Bytes} {rest : List Bytes}
      (hfrom : Service.fromNlas serviceAttrs = .ok serviceExt)
      (hquery : (destinationQuery familyId serviceAttrs).Encodable P.host)
      (hys : ∀ z ∈ ys, (reply P z).Answers) (hy : (reply P y).Panics) :
      Failed P familyId serviceAttrs (ys ++ y :: rest)

theorem reads_reportService_iff (hP : P.Documented) {part : List Bytes × List Event} :
    (reportService P familyId serviceAttrs).Reads part.1 () part.2 ↔
      Reported P familyId serviceAttrs part := by
  obtain ⟨zs, log⟩ := part
  unfold reportService
  cases hfrom : Service.fromNlas serviceAttrs with
  | ok serviceExt =>
    dsimp only
    rw [Session.reads_line_bind_iff]
    constructor
    · rintro ⟨n, hn, rfl⟩
      obtain ⟨ys, y, m, hquery, hys, hy, rfl, rfl⟩ := (reads_query_iff hP).1 hn
      exact .answered hfrom hquery hys hy
    · intro h
      cases h with
      | answered hfrom' hquery hys hy =>
        obtain rfl := Outcome.ok.inj (hfrom.symm.trans hfrom')
        exact ⟨_, (reads_query_iff hP).2 ⟨_, _, _, hquery, hys, hy, rfl, rfl⟩, rfl⟩
      | refused hfrom' => cases hfrom.symm.trans hfrom'
  | err e =>
    refine Session.reads_says_iff.trans ?_
    constructor
    · rintro ⟨rfl, h⟩
      obtain ⟨rfl, -⟩ := Says.mk.inj h
      exact .refused hfrom
    · intro h
      cases h with
      | answered hfrom' => cases hfrom.symm.trans hfrom'
      | refused hfrom' =>
        obtain rfl := Outcome.err.inj (hfrom.symm.trans hfrom')
        exact ⟨rfl, rfl⟩
  | panic p =>
    refine Session.reads_says_iff.trans (iff_of_false ?_ ?_)
    · rintro ⟨-, h⟩
      cases (Says.mk.inj h).2
    · intro h
      cases h with
      | answered hfrom' => cases hfrom.symm.trans hfrom'
      | refused hfrom' => cases hfrom.symm.trans hfrom'

theorem reads_reportService_eq (hP : P.Documented) :
    (fun serviceAttrs (part : List Bytes × List Event) =>
      (reportService P familyId serviceAttrs).Reads part.1 () part.2) = Reported P familyId :=
  funext fun _ => funext fun _ => propext (reads_reportService_iff hP)

theorem panicked_reportService_iff (hP : P.Documented) {zs : List Bytes} :
    (reportService P familyId serviceAttrs).Panicked zs ↔ Failed P familyId serviceAttrs zs := by
  unfold reportService
  cases hfrom : Service.fromNlas serviceAttrs with
  | ok serviceExt =>
    dsimp only
    rw [Session.panicked_line_bind_iff, panicked_query_iff hP]
    constructor
    · rintro (hquery | ⟨hquery, ys, y, rest, rfl, hys, hy⟩)
      · exact .query hfrom hquery
      · exact .answer hfrom hquery hys hy
    · intro h
      cases h with
      | service hfrom' => simp [hfrom] at hfrom'
      | query _ hquery => exact Or.inl hquery
      | answer _ hquery hys hy => exact Or.inr ⟨hquery, _, _, _, rfl, hys, hy⟩
  | err e =>
    refine Session.panicked_says_iff.trans (iff_of_false ?_ ?_)
    · rintro ⟨p, h⟩
      cases h
    · intro h
      cases h with
      | service hfrom' => simp [hfrom] at hfrom'
      | query hfrom' => cases hfrom.symm.trans hfrom'
      | answer hfrom' => cases hfrom.symm.trans hfrom'
  | panic p =>
    refine Session.panicked_says_iff.trans (iff_of_true ⟨p, rfl⟩ (.service ?_))
    rw [hfrom]
    exact panicked_panic p

end Query

/-! ## The listing -/

/-- The services of a datagram were decoded from groups shorter than the datagram. -/
theorem exists_group_of_mem_services (hP : P.Documented) {x : Bytes}
    {serviceAttrs : List SvcCtrlAttrs} (h : serviceAttrs ∈ (reply P x).services) :
    ∃ f, f.value.length + 24 ≤ x.length ∧
      IpvsCtrlAttrs.parse P.toCrates f = .ok (.service serviceAttrs) := by
  obtain ⟨g, hg, hservice⟩ := List.mem_filterMap.1 h
  obtain rfl : g = .service serviceAttrs := by
    cases g with
    | service l => exact congrArg _ (Option.some.inj hservice)
    | destination l => cases hservice
  unfold reply at hg
  cases hr : response P x with
  | err e => simp [hr, Reply.brought] at hg
  | panic p => simp [hr, Reply.brought] at hg
  | ok r =>
    obtain ⟨header, payload⟩ := r
    cases payload with
    | innerMessage genlmsg =>
      rw [hr] at hg
      obtain ⟨body, hlen, hparse⟩ := hP.deserialize_inner _ x header genlmsg hr
      obtain ⟨hc, hfs⟩ := IpvsServiceCtrl.decodedFrom_of_parse hP.toDocumented hparse
      have hmem := List.Forall₂.flip ((List.forall₂_and_left _ _).2 ⟨fun _ hf => hf, hfs⟩)
      obtain ⟨f, hf, hd⟩ := exists_forall₂.1 ⟨_, hmem⟩ _ hg
      have hle : 4 + f.value.length ≤ body.length :=
        (Tlv.Format.covers_frames hc).length_le f hf
      exact ⟨f, by omega, hd.1⟩
    | _ => simp [hr, Reply.brought] at hg

/-- The queries for the services of short datagrams can be encoded. -/
theorem encodable_of_mem_listedServices (hP : P.Documented) {xs : List Bytes}
    (hxs : ∀ x ∈ xs, x.length < 2 ^ 16) (familyId : UInt16) {serviceAttrs : List SvcCtrlAttrs}
    (h : serviceAttrs ∈ listedServices P xs) :
    (destinationQuery familyId serviceAttrs).Encodable P.host := by
  obtain ⟨x, hx, h⟩ := List.mem_flatMap.1 h
  obtain ⟨f, hlen, hparse⟩ := exists_group_of_mem_services hP h
  have := hxs x hx
  have hser := (serialize_destinationQuery hP hparse (by omega) familyId true).1
  exact ((serialize_eq_ok hP).1 hser).1

/-- The request for the services is sent. -/
theorem serialize_serviceQuery (hP : P.Documented) (familyId : UInt16) :
    (serviceQuery familyId).serialize P true =
      .ok ((serviceQuery familyId).datagram P.host true) := by
  have hnlas : ∀ g, g ∉ (serviceQuery familyId).nlas := fun _ => List.not_mem_nil
  exact (serialize_eq_ok hP).2
    ⟨⟨fun g hg => absurd hg (hnlas g), fun g hg => absurd hg (hnlas g),
      (by decide : 16 + (4 + 0) < 2 ^ 32)⟩, rfl⟩

/-- The lines and the request at the start of a listing. -/
def preamble (P : Packets) (familyId : UInt16) : List Event :=
  [.println "Listing IPVS services and destinations...",
    .sent ((serviceQuery familyId).datagram P.host true),
    .println "IP Virtual Server version 1.2.1 (size=4096)",
    .println "Prot LocalAddress:Port Scheduler Flags",
    .println "  -> RemoteAddress:Port           Forward Weight ActiveConn InActConn"]

/-- A listing that is over : the kernel has refused it, or it has been reported, each service
with a part of the stream of its own. -/
inductive Listed (P : Packets) (familyId : UInt16) : List Bytes → List Event → Prop
  | refused {xs : List Bytes} {x : Bytes} {e : Event} (hxs : ∀ y ∈ xs, (reply P y).Continues)
      (hx : (reply P x).refusal = some e) :
      Listed P familyId (xs ++ [x]) (preamble P familyId ++ (listRemarks P xs ++ [e]))
  | reported {xs : List Bytes} {x : Bytes} {m : List Event} {parts : List (List Bytes × List Event)}
      (hxs : ∀ y ∈ xs, (reply P y).Continues) (hx : (reply P x).listEnd = some m)
      (hparts : List.Forall₂ (Reported P familyId) (listedServices P xs) parts) :
      Listed P familyId (xs ++ x :: parts.flatMap Prod.fst)
        (preamble P familyId ++ (listRemarks P xs ++ (m ++ parts.flatMap Prod.snd)))

/-- The listing reads replies after which it goes on, and one after which it does not. -/
theorem reads_listLoop_iff {zs : List Bytes} {services : Option (List (List SvcCtrlAttrs))}
    {log : List Event} : (Session.loop (listTurn P) []).Reads zs services log ↔
      ∃ xs x, (∀ y ∈ xs, (reply P y).Continues) ∧ zs = xs ++ [x] ∧
        ((∃ e, (reply P x).refusal = some e ∧ services = none ∧ log = listRemarks P xs ++ [e]) ∨
          ∃ m, (reply P x).listEnd = some m ∧ services = some (listedServices P xs) ∧
            log = listRemarks P xs ++ m) := by
  rw [Session.reads_loop_iff]
  constructor
  · rintro ⟨xs, _, _, x, m, ht, hx, rfl, rfl⟩
    obtain ⟨hxs, rfl, rfl⟩ := turns_listTurn_iff.1 ht
    refine ⟨xs, x, hxs, rfl, ?_⟩
    cases services with
    | none =>
      obtain ⟨e, he, rfl⟩ := listTurn_refuses_iff.1 hx
      exact Or.inl ⟨e, he, rfl, rfl⟩
    | some services =>
      obtain ⟨hm, rfl⟩ := listTurn_ends_iff.1 hx
      exact Or.inr ⟨m, hm, rfl, rfl⟩
  · rintro ⟨xs, x, hxs, rfl, ⟨e, he, rfl, rfl⟩ | ⟨m, hm, rfl, rfl⟩⟩
    · exact ⟨xs, _, _, x, _, turns_listTurn_iff.2 ⟨hxs, rfl, rfl⟩,
        listTurn_refuses_iff.2 ⟨e, he, rfl⟩, rfl, rfl⟩
    · exact ⟨xs, _, _, x, _, turns_listTurn_iff.2 ⟨hxs, rfl, rfl⟩,
        listTurn_ends_iff.2 ⟨hm, rfl⟩, rfl, rfl⟩

/-- A listing that has returned has read a part at the front of its stream, as a whole
listing, and any such part makes it return. -/
theorem listServices_returned_iff (hP : P.Documented) {zs rest : List Bytes} {log : List Event} :
    (listServices P familyId).run zs = (log, .returned () rest) ↔
      ∃ pre, zs = pre ++ rest ∧ Listed P familyId pre log := by
  rw [Session.run_returned_iff]
  refine exists_congr fun pre => and_congr_right fun _ => ?_
  rw [listServices]
  simp only [Session.reads_line_bind_iff, Session.reads_panics_bind_iff,
    serialize_serviceQuery hP familyId, Except.ok.injEq, exists_eq_left']
  simp only [Session.reads_bind_iff, reads_listLoop_iff]
  constructor
  · rintro ⟨_, ⟨_, ⟨_, ⟨_, ⟨_, hn, rfl⟩, rfl⟩, rfl⟩, rfl⟩, rfl⟩
    obtain ⟨_, services, _, ys, k, ⟨xs, x, hxs, rfl, h⟩, hf, rfl, rfl⟩ := hn
    rcases h with ⟨e, he, rfl, rfl⟩ | ⟨m, hm, rfl, rfl⟩
    · obtain ⟨rfl, hk⟩ := Session.reads_says_iff.1 hf
      obtain ⟨rfl, -⟩ := Says.mk.inj hk
      rw [List.append_nil, List.append_nil]
      exact .refused hxs he
    · obtain ⟨parts, hparts, rfl, rfl⟩ := Session.reads_each_iff.1 hf
      rw [reads_reportService_eq hP] at hparts
      rw [List.append_assoc, List.append_assoc]
      exact .reported hxs hm hparts
  · intro h
    cases h with
    | @refused xs x e hxs hx =>
      refine ⟨_, ⟨_, ⟨_, ⟨_, ⟨_, ⟨_, none, _, [], [], ⟨xs, x, hxs, rfl, Or.inl ⟨e, hx, rfl, rfl⟩⟩,
        Session.reads_says_iff.2 ⟨rfl, rfl⟩, ?_, rfl⟩, rfl⟩, rfl⟩, rfl⟩, rfl⟩, ?_⟩
      · exact (List.append_nil _).symm
      · rw [List.append_nil]
        rfl
    | @reported xs x m parts hxs hx hparts =>
      rw [← reads_reportService_eq hP] at hparts
      refine ⟨_, ⟨_, ⟨_, ⟨_, ⟨_, ⟨_, some _, _, _, _, ⟨xs, x, hxs, rfl, Or.inr ⟨m, hx, rfl, rfl⟩⟩,
        Session.reads_each_iff.2 ⟨parts, hparts, rfl, rfl⟩, ?_, rfl⟩, rfl⟩, rfl⟩, rfl⟩, rfl⟩, ?_⟩
      · exact (List.append_assoc xs [x] _).symm
      · rw [List.append_assoc]
        rfl

/-- A datagram with a web service, for runs of the model. -/
def webDatagram : Bytes :=
  [96, 0, 0, 0, 30, 0, 2, 0, 0, 0, 0, 0, 0, 0, 0, 0, 1, 1, 0, 0, 76, 0, 1, 0x80,
    6, 0, 1, 0, 2, 0, 0, 0, 6, 0, 2, 0, 6, 0, 0, 0, 8, 0, 3, 0, 10, 0, 0, 1,
    6, 0, 4, 0, 0, 80, 0, 0, 8, 0, 6, 0, 119, 108, 99, 0,
    12, 0, 7, 0, 2, 0, 0, 0, 255, 255, 255, 255, 8, 0, 8, 0, 0, 0, 0, 0,
    8, 0, 9, 0, 255, 255, 255, 0, 4, 0, 12, 0]

/-- A datagram with a real server of it, for runs of the model. -/
def realServerDatagram : Bytes :=
  [92, 0, 0, 0, 30, 0, 2, 0, 0, 0, 0, 0, 0, 0, 0, 0, 5, 1, 0, 0, 72, 0, 2, 0x80,
    6, 0, 11, 0, 2, 0, 0, 0, 8, 0, 1, 0, 10, 0, 0, 2, 6, 0, 2, 0, 0x1f, 0x90, 0, 0,
    8, 0, 3, 0, 0, 0, 0, 0, 8, 0, 4, 0, 1, 0, 0, 0, 8, 0, 7, 0, 3, 0, 0, 0,
    8, 0, 8, 0, 0, 0, 0, 0, 8, 0, 9, 0, 0, 0, 0, 0, 4, 0, 12, 0]

/-- The end of a dump, for runs of the model. -/
def doneDatagram : Bytes :=
  [20, 0, 0, 0, 3, 0, 2, 0, 0, 0, 0, 0, 0, 0, 0, 0, 0, 0, 0, 0]

/-- The attributes in `webDatagram`. -/
def webAttrs : List SvcCtrlAttrs :=
  [.addressFamily .IPv4, .protocol .TCP, .addrBytes ⟨[10, 0, 0, 1]⟩, .port 80,
    .scheduler .weightedLeastConnection, .flags ⟨2⟩, .timeout 0, .netmask (.withoutAf 24),
    .stats64 {}]

/-- The attributes in `realServerDatagram`. -/
def realServerAttrs : List DestinationCtrlAttrs :=
  [.addrFamily .IPv4, .addr ⟨[10, 0, 0, 2]⟩, .port 8080, .fwdMethod .masquerade, .weight 1,
    .activeConns 3, .inactiveConns 0, .persistConns 0, .stats64 {}]

theorem reply_webDatagram :
    reply (Packets.reference .little) webDatagram = .groups [.service webAttrs] := by
  decide +kernel

theorem reply_realServerDatagram :
    reply (Packets.reference .little) realServerDatagram =
      .groups [.destination realServerAttrs] := by
  decide +kernel

theorem reply_doneDatagram : reply (Packets.reference .little) doneDatagram = .done := by
  decide +kernel

theorem fromNlas_webAttrs : Service.fromNlas webAttrs = .ok ⟨.web, {}⟩ := rfl

theorem fromNlas_realServerAttrs : DestinationExtended.fromNlas realServerAttrs =
    .ok ⟨{ Destination.web .masquerade 8080 with lowerThreshold := none }, 3, 0, 0, {}⟩ := rfl

theorem listedServices_webDatagram :
    listedServices (Packets.reference .little) [webDatagram] = [webAttrs] := by
  rw [listedServices, List.flatMap_singleton, reply_webDatagram]
  rfl

theorem reported_webAttrs : Reported (Packets.reference .little) 30 webAttrs
    ([realServerDatagram, doneDatagram],
      [.service "TCP" (.V4 ⟨[10, 0, 0, 1], rfl⟩) (some 80) "wlc" ⟨2⟩,
        .sent ((destinationQuery 30 webAttrs).datagram .little true),
        .destination (.V4 ⟨[10, 0, 0, 2], rfl⟩) 8080 "Masq" 1 3 0]) := by
  have hquery := @encodable_of_mem_listedServices _ (Packets.reference_documented .little)
    [webDatagram] (by decide) 30 _ (listedServices_webDatagram ▸ List.mem_singleton_self webAttrs)
  have hanswers : (reply (Packets.reference .little) realServerDatagram).Answers := by
    refine ⟨_, reply_realServerDatagram, ?_⟩
    simp [IpvsCtrlAttrs.Crashes, fromNlas_realServerAttrs]
  have hlines : destinationLines (Packets.reference .little) [realServerDatagram] =
      [.destination (.V4 ⟨[10, 0, 0, 2], rfl⟩) 8080 "Masq" 1 3 0] := by
    rw [destinationLines, List.flatMap_singleton, reply_realServerDatagram]
    rfl
  have hreported := @Reported.answered _ 30 _ _ [realServerDatagram] doneDatagram []
    fromNlas_webAttrs hquery (by simpa using hanswers) (by rw [reply_doneDatagram]; rfl)
  rwa [hlines] at hreported

/-- A service, the end of the listing, an answer to its query and the end of the answers, and a
datagram that is left. -/
theorem listServices_returned_web :
    (listServices (Packets.reference .little) 30).run
        [webDatagram, doneDatagram, realServerDatagram, doneDatagram, [7]] =
      (preamble (Packets.reference .little) 30 ++
        [.service "TCP" (.V4 ⟨[10, 0, 0, 1], rfl⟩) (some 80) "wlc" ⟨2⟩,
          .sent ((destinationQuery 30 webAttrs).datagram .little true),
          .destination (.V4 ⟨[10, 0, 0, 2], rfl⟩) 8080 "Masq" 1 3 0],
        .returned () [[7]]) := by
  have hremarks : listRemarks (Packets.reference .little) [webDatagram] = [] := by
    rw [listRemarks, List.flatMap_singleton, reply_webDatagram]
    rfl
  have hlisted := @Listed.reported (Packets.reference .little) 30 [webDatagram] doneDatagram [] [_]
    (by simp [reply_webDatagram, Reply.Continues]) (by rw [reply_doneDatagram]; rfl)
    (by rw [listedServices_webDatagram]; exact .cons reported_webAttrs .nil)
  rw [hremarks] at hlisted
  exact (listServices_returned_iff (Packets.reference_documented .little)).2 ⟨_, rfl, hlisted⟩

/-! ## Panics -/

/-- The stream brings the program to a panic : in decoding a datagram of the listing, or at a
service, after each service before it has been reported. -/
inductive ListFailed (P : Packets) (familyId : UInt16) : List Bytes → Prop
  | listing {xs : List Bytes} {x : Bytes} {rest : List Bytes} {p : Panic}
      (hxs : ∀ y ∈ xs, (reply P y).Continues) (hx : reply P x = .aborts p) :
      ListFailed P familyId (xs ++ x :: rest)
  | service {xs : List Bytes} {x : Bytes} {m : List Event} {pre post : List (List SvcCtrlAttrs)}
      {serviceAttrs : List SvcCtrlAttrs} {parts : List (List Bytes × List Event)}
      {rest : List Bytes} (hxs : ∀ y ∈ xs, (reply P y).Continues)
      (hx : (reply P x).listEnd = some m)
      (hservices : listedServices P xs = pre ++ serviceAttrs :: post)
      (hparts : List.Forall₂ (Reported P familyId) pre parts)
      (hfailed : Failed P familyId serviceAttrs rest) :
      ListFailed P familyId (xs ++ x :: (parts.flatMap Prod.fst ++ rest))

theorem panicked_listLoop_iff {services : List (List SvcCtrlAttrs)} {zs : List Bytes} :
    (Session.loop (listTurn P) services).Panicked zs ↔
      ∃ xs x rest p, (∀ y ∈ xs, (reply P y).Continues) ∧ reply P x = .aborts p ∧
        zs = xs ++ x :: rest := by
  rw [Session.panicked_loop_iff]
  constructor
  · rintro ⟨xs, _, _, x, rest, ht, hx, rfl⟩
    obtain ⟨p, hp⟩ := listTurn_panics_iff.1 hx
    exact ⟨xs, x, rest, p, (turns_listTurn_iff.1 ht).1, hp, rfl⟩
  · rintro ⟨xs, x, rest, p, hxs, hp, rfl⟩
    exact ⟨xs, _, _, x, rest, turns_listTurn_iff.2 ⟨hxs, rfl, rfl⟩, listTurn_panics_iff.2 ⟨p, hp⟩,
      rfl⟩

/-- The listing panics iff its stream brings it to a datagram or a group that panics the
decoder or `from_nlas`, or to a service whose query is too long. -/
theorem listServices_panicked_iff (hP : P.Documented) {zs : List Bytes} :
    (listServices P familyId).Panicked zs ↔ ListFailed P familyId zs := by
  rw [listServices]
  simp only [Session.panicked_line_bind_iff, Session.panicked_panics_bind_iff,
    serialize_serviceQuery hP familyId, Except.ok.injEq, exists_eq_left', reduceCtorEq,
    exists_false, false_or]
  simp only [Session.panicked_bind_iff, reads_listLoop_iff, panicked_listLoop_iff]
  constructor
  · rintro (⟨xs, x, rest, p, hxs, hx, rfl⟩ | ⟨_, ys, services, _, rfl, ⟨xs, x, hxs, rfl, h⟩, hf⟩)
    · exact .listing hxs hx
    rcases h with ⟨e, -, rfl, -⟩ | ⟨m, hm, rfl, -⟩
    · obtain ⟨p, hp⟩ := Session.panicked_says_iff.1 hf
      cases hp
    · obtain ⟨pre, sa, post, parts, rest, hservices, hparts, rfl, hsa⟩ :=
        Session.panicked_each_iff.1 hf
      rw [reads_reportService_eq hP] at hparts
      rw [List.append_assoc]
      exact .service hxs hm hservices hparts ((panicked_reportService_iff hP).1 hsa)
  · intro h
    cases h with
    | listing hxs hx => exact Or.inl ⟨_, _, _, _, hxs, hx, rfl⟩
    | @service xs x m pre post sa parts rest hxs hx hservices hparts hfailed =>
      rw [← reads_reportService_eq hP] at hparts
      exact Or.inr ⟨_, _, some _, _, (List.append_assoc xs [x] _).symm, ⟨xs, x, hxs, rfl,
        Or.inr ⟨m, hx, rfl, rfl⟩⟩, Session.panicked_each_iff.2 ⟨pre, sa, post, parts, rest,
        hservices, hparts, rfl, (panicked_reportService_iff hP).2 hfailed⟩⟩

/-- An attribute of an unknown kind, behind a service, panics the program. -/
theorem listServices_panicked_unknown : (listServices (Packets.reference .little) 30).Panicked
    [webDatagram, [24, 0, 0, 0, 30, 0, 2, 0, 0, 0, 0, 0, 0, 0, 0, 0, 1, 1, 0, 0, 4, 0, 3, 0]] := by
  refine (listServices_panicked_iff (Packets.reference_documented .little)).2 ?_
  refine @ListFailed.listing _ _ [webDatagram] _ [] _ ?_ (by decide +kernel : _ = Reply.aborts
    (.explicit "Don't know how to parse with type 3"))
  simp [reply_webDatagram, Reply.Continues]

/-- A listing of short datagrams does not panic, if neither they nor their groups do : every
request is sent. -/
theorem not_panicked_listServices (hP : P.Documented) {zs : List Bytes}
    (hshort : ∀ z ∈ zs, z.length < 2 ^ 16) (hreply : ∀ z ∈ zs, ¬(reply P z).Panics)
    (hservices : ∀ serviceAttrs ∈ listedServices P zs, ¬(Service.fromNlas serviceAttrs).Panicked) :
    ¬(listServices P familyId).Panicked zs := by
  rw [listServices_panicked_iff hP]
  intro h
  cases h with
  | @listing xs x rest p hxs hx => exact hreply x (by simp) (Or.inl ⟨p, hx⟩)
  | @service xs x m pre post sa parts rest hxs hx hlisted hparts hfailed =>
    have hmem : sa ∈ listedServices P xs := by simp [hlisted]
    cases hfailed with
    | service hfrom =>
      refine hservices sa ?_ hfrom
      rw [listedServices, List.flatMap_append]
      exact List.mem_append_left _ hmem
    | query _ hquery =>
      exact hquery (encodable_of_mem_listedServices hP (fun z hz => hshort z (by simp [hz]))
        familyId hmem)
    | @answer _ ys y rest _ _ hys hy => exact hreply y (by simp) hy

/-- A service, the end of the listing, an answer to its query and the end of the answers. -/
theorem not_panicked_listServices_web : ¬(listServices (Packets.reference .little) 30).Panicked
    [webDatagram, doneDatagram, realServerDatagram, doneDatagram] := by
  refine not_panicked_listServices (Packets.reference_documented .little) (by decide) ?_ ?_
  · simp [reply_webDatagram, reply_doneDatagram, reply_realServerDatagram, Reply.Panics,
      Reply.brought, IpvsCtrlAttrs.Crashes, fromNlas_realServerAttrs]
  · have hlisted : listedServices (Packets.reference .little)
        [webDatagram, doneDatagram, realServerDatagram, doneDatagram] = [webAttrs] := by
      simp only [listedServices, List.flatMap_cons, reply_webDatagram, reply_doneDatagram,
        reply_realServerDatagram]
      rfl
    rw [hlisted]
    simp [fromNlas_webAttrs]

/-! ## The rest of a datagram -/

/-- A whole message stands at the front of both datagrams, and it is the same. -/
def SameFront (P : Packets) (x y : Bytes) : Prop :=
  P.Framed x ∧ P.Framed y ∧ x.take (NetlinkHeader.read P.host x).length.toNat =
    y.take (NetlinkHeader.read P.host y).length.toNat

instance (P : Packets) (x y : Bytes) : Decidable (SameFront P x y) :=
  inferInstanceAs (Decidable (_ ∧ _ ∧ _))

theorem response_of_sameFront (hP : P.Documented) {x y : Bytes} (h : SameFront P x y) :
    response P x = response P y := by
  obtain ⟨hx, hy, hfront⟩ := h
  have hread : NetlinkHeader.read P.host x = NetlinkHeader.read P.host y := by
    rw [← NetlinkHeader.read_take hx.2.1, hfront, NetlinkHeader.read_take hy.2.1]
  rw [response, response, hP.deserialize_eq _ _ hx, hP.deserialize_eq _ _ hy]
  dsimp only
  rw [hfront, hread]

/-- The program sees the first message of each datagram only : what follows it changes
neither what is written nor how the program stands. -/
theorem blind_listServices (hP : P.Documented) (familyId : UInt16) :
    Session.Blind (SameFront P) (listServices P familyId) := by
  have hlist : ∀ services, Session.Blind (SameFront P) (Session.loop (listTurn P) services) :=
    fun _ => Session.blind_loop (fun s x y h => by
      unfold listTurn
      rw [response_of_sameFront hP h]) _
  have hquery : ∀ serviceAttrs, Session.Blind (SameFront P)
      (queryDestinationsForService P familyId serviceAttrs) := fun _ =>
    (Session.blind_says _).bind fun _ => (Session.blind_says _).bind fun _ =>
      Session.blind_loop (fun s x y h => by
        unfold queryTurn
        rw [response_of_sameFront hP h]) _
  have hreport : ∀ serviceAttrs, Session.Blind (SameFront P)
      (reportService P familyId serviceAttrs) := by
    intro serviceAttrs
    unfold reportService
    split
    · exact (Session.blind_says _).bind fun _ => hquery serviceAttrs
    · exact Session.blind_says _
    · exact Session.blind_says _
  refine (Session.blind_says _).bind fun _ => (Session.blind_says _).bind fun _ =>
    (Session.blind_says _).bind fun _ => (Session.blind_says _).bind fun _ =>
    (Session.blind_says _).bind fun _ => (Session.blind_says _).bind fun _ =>
    (hlist []).bind fun services => ?_
  cases services with
  | none => exact Session.blind_says _
  | some services => exact Session.Blind.each hreport services

/-- A second service in the datagram of the first is not listed. -/
theorem blind_listServices_packed :
    ((listServices (Packets.reference .little) 30).run
        [webDatagram ++ webDatagram, doneDatagram]).1 =
      ((listServices (Packets.reference .little) 30).run [webDatagram, doneDatagram]).1 := by
  refine (blind_listServices (Packets.reference_documented .little) 30 _ _ ?_).1
  exact .cons (by decide +kernel) (.cons (by decide +kernel) .nil)

end NetlinkIpvs

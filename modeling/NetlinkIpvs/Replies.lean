import NetlinkIpvs.Listing

/-!
# Replies

What the listing makes of a datagram is a `Reply`, and a turn of its loops depends on nothing
else. A turn of the listing goes on, ends the services or returns (`listTurn_next_iff`,
`listTurn_ends_iff`, `listTurn_refuses_iff`). A turn of a query prints the destinations of an
answer, or ends them (`queryTurn_next_iff`, `queryTurn_leave_iff`).
-/

open Rust Rust.Outcome

namespace NetlinkIpvs

/-! ## Replies -/

/-- What a datagram is to the program. -/
inductive Reply where
  | groups (nlas : List IpvsCtrlAttrs)
  | code (code : Option NonZeroI32)
  | done
  | other
  | unreadable (e : DecodeError)
  | aborts (p : Panic)
deriving DecidableEq

/-- The reply in a datagram. -/
def reply (P : Packets) (rxbuf : Bytes) : Reply :=
  match response P rxbuf with
  | .ok response =>
    match response.payload with
    | .innerMessage genlmsg => .groups genlmsg.payload.nlas
    | .error errmsg => .code errmsg.code
    | .done _ => .done
    | .noop | .overrun _ => .other
  | .err e => .unreadable e
  | .panic p => .aborts p

namespace Reply

/-- The groups in a reply. -/
def brought : Reply → List IpvsCtrlAttrs
  | groups nlas => nlas
  | _ => []

/-- The service attributes in a reply. -/
def services (r : Reply) : List (List SvcCtrlAttrs) :=
  r.brought.filterMap IpvsCtrlAttrs.serviceAttrs

/-- The listing of the services goes on after the reply. -/
def Continues : Reply → Prop
  | groups _ | code none | other => True
  | _ => False

/-- The lines about a reply after which the listing of the services goes on. -/
def remarks : Reply → List Event
  | other => [.println "Unexpected response type"]
  | _ => []

/-- The line about a reply after which the program returns. -/
def refusal : Reply → Option Event
  | code (some c) =>
    if c.val = -1 then some (.eprintln "Permission denied. Try running with sudo.")
    else some (.eprintln s!"Error listing services: {c.val}")
  | _ => none

/-- The lines about a reply that ends the services. -/
def listEnd : Reply → Option (List Event)
  | done => some []
  | unreadable e => some [.failedResponse e]
  | _ => none

/-- The lines about a reply that ends the destinations of a service. -/
def queryEnd : Reply → Option (List Event)
  | code (some c) =>
    if c.val ≠ -2 then some [.eprintln s!"Error querying destinations: {c.val}"] else some []
  | code none | done | other | unreadable _ => some []
  | groups _ | aborts _ => none

end Reply

/-- Putting the group together as a destination panics. -/
def IpvsCtrlAttrs.Crashes : IpvsCtrlAttrs → Prop
  | .destination destAttrs => (DestinationExtended.fromNlas destAttrs).Panicked
  | .service _ => False

/-- The lines about a group in an answer. -/
def IpvsCtrlAttrs.lines : IpvsCtrlAttrs → List Event
  | .destination destAttrs =>
    match DestinationExtended.fromNlas destAttrs with
    | .ok destExt => [destExt.event]
    | .err e => [.eprintln s!"Failed to parse destination: {e}"]
    | .panic _ => []
  | .service _ => []

/-! ## One turn -/

theorem listTurn_eq (P : Packets) (services : List (List SvcCtrlAttrs)) (rxbuf : Bytes) :
    listTurn P services rxbuf =
      match reply P rxbuf with
      | .groups nlas =>
        ⟨[], .ok (.next (services ++ nlas.filterMap IpvsCtrlAttrs.serviceAttrs))⟩
      | .code none => ⟨[], .ok (.next services)⟩
      | .code (some c) => ⟨(Reply.code (some c)).refusal.toList, .ok (.leave none)⟩
      | .done => ⟨[], .ok (.leave (some services))⟩
      | .other => ⟨[.println "Unexpected response type"], .ok (.next services)⟩
      | .unreadable e => ⟨[.failedResponse e], .ok (.leave (some services))⟩
      | .aborts p => ⟨[], .error p⟩ := by
  unfold listTurn reply
  cases response P rxbuf with
  | ok r =>
    obtain ⟨header, payload⟩ := r
    cases payload with
    | error errmsg =>
      obtain ⟨code, bytes⟩ := errmsg
      cases code with
      | none => rfl
      | some c =>
        by_cases hc : c.val = -1
        · simp only [Reply.refusal, if_pos hc]
          rfl
        · simp only [Reply.refusal, if_neg hc]
          rfl
    | _ => rfl
  | err e => rfl
  | panic p => rfl

section ListTurn

variable {P : Packets} {services services' : List (List SvcCtrlAttrs)} {rxbuf : Bytes}
  {l : List Event}

theorem listTurn_next_iff : listTurn P services rxbuf = ⟨l, .ok (.next services')⟩ ↔
    (reply P rxbuf).Continues ∧ services' = services ++ (reply P rxbuf).services ∧
      l = (reply P rxbuf).remarks := by
  rw [listTurn_eq]
  cases reply P rxbuf with
  | code c =>
    cases c <;>
      simp [Reply.Continues, Reply.services, Reply.brought, Reply.remarks, eq_comm, and_comm]
  | _ => simp [Reply.Continues, Reply.services, Reply.brought, Reply.remarks, eq_comm, and_comm]

theorem listTurn_refuses_iff : listTurn P services rxbuf = ⟨l, .ok (.leave none)⟩ ↔
    ∃ e, (reply P rxbuf).refusal = some e ∧ l = [e] := by
  rw [listTurn_eq]
  cases reply P rxbuf with
  | code c =>
    cases c with
    | none => simp [Reply.refusal]
    | some c => by_cases hc : c.val = -1 <;> simp [Reply.refusal, hc, eq_comm]
  | _ => simp [Reply.refusal]

theorem listTurn_ends_iff : listTurn P services rxbuf = ⟨l, .ok (.leave (some services'))⟩ ↔
    (reply P rxbuf).listEnd = some l ∧ services' = services := by
  rw [listTurn_eq]
  cases reply P rxbuf with
  | code c => cases c <;> simp [Reply.listEnd]
  | _ => simp [Reply.listEnd, eq_comm]

theorem listTurn_panics_iff : (∃ p, (listTurn P services rxbuf).value = .error p) ↔
    ∃ p, reply P rxbuf = .aborts p := by
  rw [listTurn_eq]
  cases reply P rxbuf with
  | code c => cases c <;> simp
  | _ => simp

end ListTurn

section QueryTurn

variable {P : Packets} {rxbuf : Bytes} {l : List Event}

/-- The lines of a group are printed, unless the group crashes. -/
theorem printDestination_eq {g : IpvsCtrlAttrs} (h : ¬g.Crashes) :
    printDestination g = ⟨g.lines, .ok ()⟩ := by
  cases g with
  | service l => rfl
  | destination destAttrs =>
    change ¬(DestinationExtended.fromNlas destAttrs).Panicked at h
    simp only [printDestination, IpvsCtrlAttrs.lines]
    cases hfrom : DestinationExtended.fromNlas destAttrs with
    | ok destExt => rfl
    | err e => rfl
    | panic p =>
      rw [hfrom] at h
      exact absurd (panicked_panic p) h

theorem printDestination_panics_iff {g : IpvsCtrlAttrs} :
    (∃ p, (printDestination g).value = .error p) ↔ g.Crashes := by
  constructor
  · rintro ⟨p, hp⟩
    by_contra h
    rw [printDestination_eq h] at hp
    cases hp
  · intro h
    cases g with
    | service l => exact h.elim
    | destination destAttrs =>
      change (DestinationExtended.fromNlas destAttrs).Panicked at h
      simp only [printDestination]
      cases hfrom : DestinationExtended.fromNlas destAttrs with
      | ok destExt => simp [hfrom] at h
      | err e => simp [hfrom] at h
      | panic p => exact ⟨p, rfl⟩

/-- The groups of an answer are printed, if none of them crashes. -/
theorem each_printDestination {nlas : List IpvsCtrlAttrs} (h : ∀ g ∈ nlas, ¬g.Crashes) :
    Says.each printDestination nlas = ⟨nlas.flatMap IpvsCtrlAttrs.lines, .ok ()⟩ :=
  Says.each_eq fun g hg => printDestination_eq (h g hg)

/-- The answers about a service go on after the reply. -/
def Reply.Answers (r : Reply) : Prop :=
  ∃ nlas, r = .groups nlas ∧ ∀ g ∈ nlas, ¬g.Crashes

theorem queryTurn_eq (P : Packets) (rxbuf : Bytes) : queryTurn P () rxbuf =
    match reply P rxbuf with
    | .groups nlas =>
      ⟨(Says.each printDestination nlas).log,
        (Says.each printDestination nlas).value.map fun _ => .next ()⟩
    | .aborts p => ⟨[], .error p⟩
    | r => ⟨r.queryEnd.getD [], .ok (.leave ())⟩ := by
  unfold queryTurn reply
  cases response P rxbuf with
  | ok r =>
    obtain ⟨header, payload⟩ := r
    cases payload with
    | error errmsg =>
      obtain ⟨code, bytes⟩ := errmsg
      cases code with
      | none => rfl
      | some c =>
        by_cases hc : c.val ≠ -2
        · simp only [Reply.queryEnd, if_pos hc]
          rfl
        · simp only [Reply.queryEnd, if_neg hc]
          rfl
    | innerMessage genlmsg => exact Says.bind_pure_eq _ _
    | _ => rfl
  | err e => rfl
  | panic p => rfl

theorem queryTurn_next_iff : queryTurn P () rxbuf = ⟨l, .ok (.next ())⟩ ↔
    (reply P rxbuf).Answers ∧ l = (reply P rxbuf).brought.flatMap IpvsCtrlAttrs.lines := by
  rw [queryTurn_eq]
  cases reply P rxbuf with
  | groups nlas =>
    simp only [Reply.Answers, Reply.brought, Reply.groups.injEq, exists_eq_left']
    constructor
    · intro h
      have hno : ∀ g ∈ nlas, ¬g.Crashes := by
        intro g hg hc
        obtain ⟨p, hp⟩ := Says.each_panics_iff.2 ⟨g, hg, printDestination_panics_iff.2 hc⟩
        rw [hp] at h
        cases (Says.mk.inj h).2
      refine ⟨hno, ?_⟩
      rw [each_printDestination hno] at h
      exact (Says.mk.inj h).1.symm
    · rintro ⟨hno, rfl⟩
      rw [each_printDestination hno]
      rfl
  | _ => simp [Reply.Answers]

theorem queryTurn_leave_iff : queryTurn P () rxbuf = ⟨l, .ok (.leave ())⟩ ↔
    (reply P rxbuf).queryEnd = some l := by
  rw [queryTurn_eq]
  cases reply P rxbuf with
  | groups nlas =>
    dsimp only
    cases (Says.each printDestination nlas).value <;> simp [Reply.queryEnd, Except.map]
  | code c =>
    cases c with
    | none => simp [Reply.queryEnd]
    | some c => by_cases hc : c.val = -2 <;> simp [Reply.queryEnd, hc]
  | _ => simp [Reply.queryEnd]

theorem queryTurn_panics_iff : (∃ p, (queryTurn P () rxbuf).value = .error p) ↔
    (∃ p, reply P rxbuf = .aborts p) ∨ ∃ g ∈ (reply P rxbuf).brought, g.Crashes := by
  rw [queryTurn_eq]
  cases reply P rxbuf with
  | groups nlas =>
    simp only [Reply.brought, ← printDestination_panics_iff, ← Says.each_panics_iff]
    cases (Says.each printDestination nlas).value <;> simp [Except.map]
  | _ => simp [Reply.brought]

end QueryTurn

end NetlinkIpvs

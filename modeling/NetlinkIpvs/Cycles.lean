import NetlinkIpvs.Resending
import NetlinkIpvs.Serialize

/-!
# Sending and reading back, over and over

A cycle sends a service with a destination of it and puts what is read back together, with
whatever statistics and counters come with it. On a little-endian host the firewall mark,
the timeout and the port of the destination come back with their bytes reversed, all else as
it was sent (`cycle_iff`), so that a run of cycles goes back and forth between two
configurations (`cycles_iff`).
-/

open Rust Rust.Outcome

namespace NetlinkIpvs

/-- A service that was sent and read back on a little-endian host. -/
def Service.swapped (s : Service) : Service :=
  { s.received with netmask := s.netmask }

theorem Service.swapped_swapped (s : Service) : s.swapped.swapped = s := by
  obtain ⟨address, netmask, scheduler, flags, port, fwMark, timeout, family, protocol⟩ := s
  simp [swapped, received, Function.comp_def]

theorem Destination.received_received (d : Destination) : d.received.received = d := by
  simp [received]

theorem Service.Valid.swapped {s : Service} (h : s.Valid) : s.swapped.Valid :=
  ⟨h.address, h.netmask⟩

/-- A message about the first pair is sent and read back, at the front of some buffer, and its
groups are put together as the second. -/
inductive Cycle (P : Packets) : Service × Destination → Service × Destination → Prop
  | mk {cmd : IpvsCtrlCmd} {familyId : UInt16} {dump : Bool} {s s' : Service}
      {d d' : Destination} {out tail : Bytes} {header : NetlinkHeader}
      {genlmsg : GenlMessage IpvsServiceCtrl} {svc : List SvcCtrlAttrs}
      {dest : List DestinationCtrlAttrs} {st st' : Stats64} {a i p : UInt32}
      (hfamily : familyId ∉ controlTypes)
      (hout : (IpvsServiceCtrl.create cmd familyId s d).serialize P dump = .ok out)
      (hin : P.deserialize (IpvsServiceCtrl.parseWithParam P.toCrates) (out ++ tail) =
        .ok ⟨header, .innerMessage genlmsg⟩)
      (hnlas : genlmsg.payload.nlas = [.service svc, .destination dest])
      (hsvc : Service.fromNlas (svc ++ [.stats64 st]) = .ok ⟨s', st⟩)
      (hdest : DestinationExtended.fromNlas (dest ++ [.activeConns a, .inactiveConns i,
        .persistConns p, .stats64 st']) = .ok ⟨d', a, i, p, st'⟩) :
      Cycle P (s, d) (s', d')

/-- That many cycles, one after the other. -/
inductive Cycles (P : Packets) : ℕ → Service × Destination → Service × Destination → Prop
  | zero (c : Service × Destination) : Cycles P 0 c c
  | succ {n : ℕ} {c c₁ c₂ : Service × Destination} (h : Cycle P c c₁) (hs : Cycles P n c₁ c₂) :
      Cycles P (n + 1) c c₂

section Cycle

variable {P : Packets} (hP : P.Documented) {s : Service} {d : Destination} (hs : s.Valid)
  (hd : d.Valid)

include hs in
theorem IpvsServiceCtrl.sendable_create_iff (cmd : IpvsCtrlCmd) (familyId : UInt16) :
    (∀ g ∈ (create cmd familyId s d).nlas, g.Sendable) ↔ d.fwdMethod = .masquerade := by
  rw [← Destination.sendable_createNlas_iff]
  constructor
  · intro h
    exact h (.destination d.createNlas) (by simp [create])
  · rintro h g hg
    rcases List.mem_pair.1 hg with rfl | rfl
    · exact Service.sendable_createNlas hs.netmask
    · exact h

include hs in
/-- What is received for a service is put together as the service, swapped. -/
theorem Service.Valid.fromNlas_received (st : Stats64) :
    Service.fromNlas (s.received.createNlas ++ [.stats64 st]) = .ok ⟨s.swapped, st⟩ :=
  Service.fromNlas_perm (s := s.received) (k := 0) hs.address (Netmask.new_ones hs.netmask)
    (List.Perm.refl _)

theorem IpvsServiceCtrl.map_received_create (cmd : IpvsCtrlCmd) (familyId : UInt16) :
    (create cmd familyId s d).nlas.map IpvsCtrlAttrs.received =
      [.service s.received.createNlas, .destination d.received.createNlas] := by
  simp only [create, List.map_cons, List.map_nil, IpvsCtrlAttrs.received, Service.map_received,
    Destination.map_received]

include hP hs hd

/-- A cycle is run iff the destination is masqueraded, and it swaps the three fields. -/
theorem cycle_iff (hhost : P.host = .little) {c : Service × Destination} :
    Cycle P (s, d) c ↔ d.fwdMethod = .masquerade ∧ c = (s.swapped, d.received) := by
  have hsvc := hs.fromNlas_received
  have hdest := fun a i p st => DestinationExtended.fromNlas_createNlas
    (y := ⟨d.received, a, i, p, st⟩) hd
  constructor
  · rintro ⟨hfamily, hout, hin, hnlas, hs', hd'⟩
    rw [deserialize_serialize hP hhost hfamily hout] at hin
    cases hin
    rw [IpvsServiceCtrl.map_received_create] at hnlas
    cases hnlas
    rw [hsvc] at hs'
    rw [hdest] at hd'
    cases hs'
    cases hd'
    have hsend := ((serialize_eq_ok hP).1 hout).1.sendable
    exact ⟨(IpvsServiceCtrl.sendable_create_iff hs _ _).1 hsend, rfl⟩
  · rintro ⟨hm, rfl⟩
    have hfamily : (30 : UInt16) ∉ controlTypes := by decide
    have hcreate : (IpvsServiceCtrl.create .newDest 30 s d).Encodable P.host :=
      IpvsServiceCtrl.encodable_of_length hP.toDocumented
        ((IpvsServiceCtrl.sendable_create_iff hs _ _).2 hm)
        (IpvsServiceCtrl.fits_create hP.toDocumented _ _ s d) (by simp [IpvsServiceCtrl.create])
    have hout := (@serialize_eq_ok _ hP _ false _).2 ⟨hcreate, rfl⟩
    have hin := deserialize_serialize hP hhost hfamily hout []
    exact .mk hfamily hout hin (IpvsServiceCtrl.map_received_create .newDest 30) (hsvc {})
      (hdest 0 0 0 {})

end Cycle

/-- Cycles are run iff there are none or the destination is masqueraded. After an even number of
them the service and the destination are as they were, after an odd number the three fields
are swapped. -/
theorem cycles_iff {P : Packets} (hP : P.Documented) (hhost : P.host = .little) {s : Service}
    {d : Destination} (hs : s.Valid) (hd : d.Valid) (n : ℕ) {c : Service × Destination} :
    Cycles P n (s, d) c ↔ (0 < n → d.fwdMethod = .masquerade) ∧
      c = if Even n then (s, d) else (s.swapped, d.received) := by
  induction n generalizing s d with
  | zero =>
    constructor
    · rintro ⟨⟩
      exact ⟨fun h => absurd h (Nat.lt_irrefl 0), rfl⟩
    · rintro ⟨-, rfl⟩
      exact .zero _
  | succ n ih =>
    have ih := ih hs.swapped (d := d.received) hd
    rw [s.swapped_swapped, d.received_received] at ih
    have hstep : Cycles P (n + 1) (s, d) c ↔
        d.fwdMethod = .masquerade ∧ Cycles P n (s.swapped, d.received) c := by
      constructor
      · rintro ⟨⟩
        next c₁ h hn =>
          obtain ⟨hm, rfl⟩ := (cycle_iff hP hs hd hhost).1 h
          exact ⟨hm, hn⟩
      · rintro ⟨hm, hn⟩
        exact .succ ((cycle_iff hP hs hd hhost).2 ⟨hm, rfl⟩) hn
    have hmethod : (d.fwdMethod = .masquerade ∧ (0 < n → d.received.fwdMethod = .masquerade)) ↔
        (0 < n + 1 → d.fwdMethod = .masquerade) :=
      ⟨fun h _ => h.1, fun h => ⟨h n.succ_pos, fun _ => h n.succ_pos⟩⟩
    rw [hstep, ih, ← and_assoc, hmethod]
    by_cases hn : Even n
    · rw [if_pos hn, if_neg (Nat.even_add_one.not.2 (not_not.2 hn))]
    · rw [if_neg hn, if_pos (Nat.even_add_one.2 hn)]

/-- After three cycles, the firewall mark 1 is `0x01000000` and the port 8080 is 36895. -/
theorem cycles_iff_three : Cycles (Packets.reference .little) 3
    ({ Service.web with fwMark := some 1 }, .web .masquerade 8080)
    ({ Service.web with fwMark := some 0x01000000 }, .web .masquerade 36895) := by
  have hs : Service.Valid { Service.web with fwMark := some 1 } := ⟨rfl, rfl⟩
  have hd : (Destination.web .masquerade 8080).Valid := rfl
  refine (cycles_iff (Packets.reference_documented .little) rfl hs hd 3).2 ⟨fun _ => rfl, ?_⟩
  rw [if_neg (by decide)]
  rfl

end NetlinkIpvs

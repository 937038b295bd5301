import NetlinkIpvs.Requirements

/-!
# What is said of a list that lacks a kind

`from_nlas` asks for the kinds it requires one after the other. `missing nlas` is the first
of these that does not occur in the list, with the text that says so. `from_nlas` returns an
error iff the list is consistent and lacks a kind, and the error is that text
(`fromNlas_err_iff`). What is consistent and lacks none is put together, and what is not
consistent panics (`settles_fromNlas`), so that an error never hides an address or a netmask
that does not fit.
-/

open Rust Rust.Outcome LastWins

namespace NetlinkIpvs

/-! ## Services -/

namespace ServiceExtended

open SvcCtrlAttrs

/-- The required kinds in the order they are asked for, each with its text. -/
def requirements : List (ℕ × String) :=
  [(IPVS_SVC_ATTR_AF, "Address family is required"),
    (IPVS_SVC_ATTR_ADDR, "Address is required"),
    (IPVS_SVC_ATTR_NETMASK, "Netmask is required"),
    (IPVS_SVC_ATTR_SCHED_NAME, "Scheduler is required"),
    (IPVS_SVC_ATTR_FLAGS, "Flags are required"),
    (IPVS_SVC_ATTR_PROTOCOL, "Protocol is required"),
    (IPVS_SVC_ATTR_STATS64, "Did not receive stats64")]

/-- The first required kind that does not occur, with its text. -/
def missing (nlas : List SvcCtrlAttrs) : Option (ℕ × String) :=
  requirements.find? fun r => !decide (r.1 ∈ nlas.map kind)

variable {nlas : List SvcCtrlAttrs}

theorem refuses_fromNlas (hfit : Consistent nlas) :
    Refuses (fun k => decide (k ∈ nlas.map kind)) requirements (Service.fromNlas nlas) := by
  rw [Service.fromNlas, Service.slots_eq, Service.Slots.finish]
  refine .okOr (isSome_last selectors.addressFamily nlas) fun f hf => ?_
  refine .okOr (isSome_last selectors.addrBytes nlas) fun a ha => ?_
  obtain ⟨hfits, hones⟩ := hfit f hf a ha
  refine .lift ((AddrBytes.exists_asIpaddr_iff a f).2 hfits) fun ip _ => ?_
  refine .okOr (isSome_last selectors.netmask nlas) fun nm hnm => ?_
  refine .lift (Netmask.exists_new_iff.2 (hones nm hnm)) fun nm' _ => ?_
  refine .okOr (isSome_last selectors.scheduler nlas) fun sched _ => ?_
  refine .okOr (isSome_last selectors.flags nlas) fun fl _ => ?_
  refine .okOr (isSome_last selectors.protocol nlas) fun proto _ => ?_
  refine .okOr (isSome_last selectors.stats64 nlas) fun st _ => ?_
  exact (refuses_ok _).2 (by simp)

/-- A list lacks nothing iff it is complete. -/
theorem missing_eq_none_iff : missing nlas = none ↔ Complete nlas := by
  simp [missing, requirements, Complete, requiredKinds, List.find?_eq_none]

/-- What is consistent and lacks nothing is put together, and what is not consistent panics. -/
theorem settles_fromNlas :
    (Service.fromNlas nlas).Settles (Consistent nlas ∧ missing nlas = none) (¬Consistent nlas) := by
  rw [missing_eq_none_iff]
  exact settles_of_panicked_iff Service.fromNlas_panicked_iff exists_fromNlas_iff

theorem consistent_of_err {text : String} (h : Service.fromNlas nlas = .err text) :
    Consistent nlas :=
  not_not.1 (settles_fromNlas.err_iff.1 ⟨text, h⟩).2

end ServiceExtended

/-! ## Destinations -/

namespace DestinationExtended

open DestinationCtrlAttrs

/-- What is asked for of a tunnel, in this order. -/
def tunnelRequirements : List (ℕ × String) :=
  [(IPVS_DEST_ATTR_TUN_TYPE, "ForwardType tunnel requires tunnel-type"),
    (IPVS_DEST_ATTR_TUN_PORT, "ForwardType tunnel requires tunnel-port"),
    (IPVS_DEST_ATTR_TUN_FLAGS, "ForwardType tunnel requires tunnel-flags")]

/-- The required kinds in the order they are asked for, each with its text. Those of a tunnel
are asked for if the last forwarding method is one. -/
def requirements (nlas : List DestinationCtrlAttrs) : List (ℕ × String) :=
  [(IPVS_DEST_ATTR_ADDR_FAMILY, "Address family is required"),
    (IPVS_DEST_ATTR_ADDR, "Address is required"),
    (IPVS_DEST_ATTR_FWD_METHOD, "Forward method is required")] ++
  ((if last asFwdMethod nlas = some .tunnel then tunnelRequirements else []) ++
  [(IPVS_DEST_ATTR_WEIGHT, "Weight is required"),
    (IPVS_DEST_ATTR_PORT, "Port is required"),
    (IPVS_DEST_ATTR_INACT_CONNS, "Inactive connections is required"),
    (IPVS_DEST_ATTR_ACTIVE_CONNS, "Active connections is required"),
    (IPVS_DEST_ATTR_PERSIST_CONNS, "Persistent connections is required"),
    (IPVS_DEST_ATTR_STATS64, "Stats64 are required")])

/-- The first required kind that does not occur, with its text. -/
def missing (nlas : List DestinationCtrlAttrs) : Option (ℕ × String) :=
  (requirements nlas).find? fun r => !decide (r.1 ∈ nlas.map kind)

variable {nlas : List DestinationCtrlAttrs}

theorem refuses_fullMethod {m : ForwardType} (hm : last asFwdMethod nlas = some m) :
    Refuses (fun k => decide (k ∈ nlas.map kind))
      (if last asFwdMethod nlas = some .tunnel then tunnelRequirements else [])
      ((nlas.foldl Slots.update {}).fullMethod m) := by
  rw [hm, slots_eq]
  cases m with
  | masquerade => exact (refuses_ok _).2 (by simp)
  | direct => exact (refuses_ok _).2 (by simp)
  | tunnel =>
    rw [if_pos rfl]
    refine .okOr (isSome_last selectors.tunType nlas) fun t _ => ?_
    refine .okOr (isSome_last selectors.tunPort nlas) fun p _ => ?_
    refine .okOr (isSome_last selectors.tunFlags nlas) fun f _ => ?_
    exact (refuses_ok _).2 (by simp)

theorem refuses_fromNlas (hfit : Consistent nlas) :
    Refuses (fun k => decide (k ∈ nlas.map kind)) (requirements nlas) (fromNlas nlas) := by
  have hmethod := fun m => @refuses_fullMethod nlas m
  have hpanic := Slots.fullMethod_panicked (nlas.foldl Slots.update {})
  rw [slots_eq] at hmethod hpanic
  rw [fromNlas, slots_eq, Slots.finish]
  refine .okOr (isSome_last selectors.addrFamily nlas) fun f hf => ?_
  refine .okOr (isSome_last selectors.addr nlas) fun a ha => ?_
  refine .lift ((AddrBytes.exists_asIpaddr_iff a f).2 (hfit f hf a ha)) fun ip _ => ?_
  refine .okOr (isSome_last selectors.fwdMethod nlas) fun m hm => ?_
  refine (hmethod m hm).bind (hpanic m) fun full _ => ?_
  refine .okOr (isSome_last selectors.weight nlas) fun w _ => ?_
  refine .okOr (isSome_last selectors.port nlas) fun p _ => ?_
  refine .okOr (isSome_last selectors.inactiveConns nlas) fun ic _ => ?_
  refine .okOr (isSome_last selectors.activeConns nlas) fun ac _ => ?_
  refine .okOr (isSome_last selectors.persistConns nlas) fun pc _ => ?_
  refine .okOr (isSome_last selectors.stats64 nlas) fun st _ => ?_
  exact (refuses_ok _).2 (by simp)

/-- The kinds asked for are the required ones, in another order. -/
theorem map_requirements_perm :
    ((requirements nlas).map Prod.fst).Perm
      (requiredKinds ++ if last asFwdMethod nlas = some .tunnel then tunnelKinds else []) := by
  by_cases ht : last asFwdMethod nlas = some .tunnel
  · simp only [requirements, if_pos ht]
    decide
  · simp only [requirements, if_neg ht]
    decide

/-- A list lacks nothing iff it is complete. -/
theorem missing_eq_none_iff : missing nlas = none ↔ Complete nlas := by
  have hmissing : missing nlas = none ↔
      ∀ k ∈ (requirements nlas).map Prod.fst, k ∈ nlas.map kind := by
    rw [missing, List.find?_eq_none, List.forall_mem_map]
    simp only [Bool.not_eq_true', decide_eq_false_iff_not, not_not]
  rw [hmissing]
  simp only [map_requirements_perm.mem_iff, List.forall_mem_append]
  by_cases ht : last asFwdMethod nlas = some .tunnel
  · rw [if_pos ht]
    exact ⟨fun h => ⟨h.1, fun _ => h.2⟩, fun h => ⟨h.required, h.tunnel ht⟩⟩
  · rw [if_neg ht]
    exact ⟨fun h => ⟨h.1, fun htunnel => absurd htunnel ht⟩,
      fun h => ⟨h.required, List.forall_mem_nil _⟩⟩

/-- What is consistent and lacks nothing is put together, and what is not consistent panics. -/
theorem settles_fromNlas :
    (fromNlas nlas).Settles (Consistent nlas ∧ missing nlas = none) (¬Consistent nlas) := by
  rw [missing_eq_none_iff]
  exact settles_of_panicked_iff fromNlas_panicked_iff exists_fromNlas_iff

theorem consistent_of_err {text : String} (h : fromNlas nlas = .err text) : Consistent nlas :=
  not_not.1 (settles_fromNlas.err_iff.1 ⟨text, h⟩).2

end DestinationExtended

/-! ## Both -/

/-- `from_nlas` returns an error iff the list is consistent and lacks a required kind. The
error is the text of the first one it asks for. -/
theorem fromNlas_err_iff (svc : List SvcCtrlAttrs) (dest : List DestinationCtrlAttrs)
    (text : String) :
    (Service.fromNlas svc = .err text ↔
      SvcCtrlAttrs.Consistent svc ∧ ∃ k, ServiceExtended.missing svc = some (k, text)) ∧
    (DestinationExtended.fromNlas dest = .err text ↔
      DestinationCtrlAttrs.Consistent dest ∧
        ∃ k, DestinationExtended.missing dest = some (k, text)) := by
  refine ⟨⟨fun h => ?_, fun h => (ServiceExtended.refuses_fromNlas h.1 text).2 h.2⟩,
    ⟨fun h => ?_, fun h => (DestinationExtended.refuses_fromNlas h.1 text).2 h.2⟩⟩
  · have hfit := ServiceExtended.consistent_of_err h
    exact ⟨hfit, (ServiceExtended.refuses_fromNlas hfit text).1 h⟩
  · have hfit := DestinationExtended.consistent_of_err h
    exact ⟨hfit, (DestinationExtended.refuses_fromNlas hfit text).1 h⟩

/-- A list without a family and without a scheduler lacks the family. -/
example : ServiceExtended.missing [.addrBytes ⟨[]⟩, .netmask (.withoutAf 24)] =
    some (IPVS_SVC_ATTR_AF, "Address family is required") := by
  decide

end NetlinkIpvs

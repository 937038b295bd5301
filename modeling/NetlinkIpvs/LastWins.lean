import Mathlib.Data.List.Induction
import Mathlib.Data.List.Perm.Basic
import Mathlib.Tactic.SplitIfs

/-!
# Folds in which the last write wins

A fold over a list of writes keeps a record of slots. If each element writes the slot
with what `sel` selects, or leaves it alone, the slot ends up with what the last
writing element selects (`slot_foldl`), whatever happens to the other slots.

If at most one element writes the slot, the order of the list does not matter
(`last_perm`). If the elements that write the slot are those of one kind, the last element
of the kind decides what ends up in it (`last_eq_bind`), and the list has one iff the slot
is written at all (`exists_last_iff`).
-/

namespace LastWins

variable {α β σ : Type*}

/-- What the last element with a selection selects. -/
def last (sel : α → Option β) (l : List α) : Option β :=
  (l.filterMap sel).getLast?

@[simp] theorem last_nil (sel : α → Option β) : last sel [] = none := rfl

theorem last_append (sel : α → Option β) (l m : List α) :
    last sel (l ++ m) = (last sel m).or (last sel l) := by
  rw [last, List.filterMap_append, List.getLast?_append]
  rfl

theorem last_concat (sel : α → Option β) (l : List α) (a : α) :
    last sel (l ++ [a]) = (sel a).or (last sel l) := by
  rw [last_append]
  cases h : sel a <;> simp [last, h]

theorem mem_of_last {sel : α → Option β} {l : List α} {b : β} (h : last sel l = some b) :
    ∃ a ∈ l, sel a = some b :=
  List.mem_filterMap.1 (List.mem_of_getLast? h)

/-- Corresponding lists select the same. -/
theorem last_forall₂ {γ : Type*} {r : α → γ → Prop} {sel : α → Option β} {sel' : γ → Option β}
    (hr : ∀ a c, r a c → sel a = sel' c) {l : List α} {m : List γ} (h : List.Forall₂ r l m) :
    last sel l = last sel' m := by
  have hfm : l.filterMap sel = m.filterMap sel' := by
    induction h with
    | nil => rfl
    | cons ha _ ih => rw [List.filterMap_cons, List.filterMap_cons, hr _ _ ha, ih]
  rw [last, last, hfm]

/-- A slot after a fold holds what the last writing element selects. -/
theorem slot_foldl {step : σ → α → σ} {get : σ → β} {sel : α → Option β}
    (h : ∀ s a, get (step s a) = (sel a).getD (get s)) (s : σ) (l : List α) :
    get (l.foldl step s) = (last sel l).getD (get s) := by
  induction l using List.reverseRecOn with
  | nil => rfl
  | append_singleton l a ih =>
    rw [List.foldl_append, List.foldl_cons, List.foldl_nil, h, ih, last_concat]
    cases sel a <;> rfl

/-- A slot that holds an option, and is `none` before the fold. -/
theorem slot_foldl_option {step : σ → α → σ} {get : σ → Option β} {sel : α → Option β}
    (h : ∀ s a, get (step s a) = (sel a).or (get s)) {s : σ} (hs : get s = none) (l : List α) :
    get (l.foldl step s) = last sel l := by
  induction l using List.reverseRecOn with
  | nil => exact hs
  | append_singleton l a ih =>
    rw [List.foldl_append, List.foldl_cons, List.foldl_nil, h, ih, last_concat]

/-- A slot that holds an option made from the selection, and is `none` before the fold. -/
theorem slot_foldl_bind {γ : Type*} {step : σ → α → σ} {get : σ → Option γ} {sel : α → Option β}
    {f : β → Option γ} (h : ∀ s a, get (step s a) = (sel a).elim (get s) f) {s : σ}
    (hs : get s = none) (l : List α) : get (l.foldl step s) = (last sel l).bind f := by
  induction l using List.reverseRecOn with
  | nil => exact hs
  | append_singleton l a ih =>
    rw [List.foldl_append, List.foldl_cons, List.foldl_nil, h, ih, last_concat]
    cases sel a <;> rfl

/-- If one element at most is selected, it is the last one in any order. -/
theorem last_perm {sel : α → Option β} {l m : List α} {o : Option β} (h : l.Perm m)
    (hm : m.filterMap sel = o.toList) : last sel l = o := by
  have hp := h.filterMap sel
  rw [hm] at hp
  cases o with
  | none => rw [last, hp.eq_nil, List.getLast?_nil]
  | some b => rw [last, List.perm_singleton.1 hp, List.getLast?_singleton]

/-! ## Kinds -/

section Kinds

variable {κ : Type*} [DecidableEq κ] {kind : α → κ} {k : κ} {sel : α → Option β}

/-- The last element of a kind. -/
def lastOf (kind : α → κ) (k : κ) (l : List α) : Option α :=
  last (fun a => if kind a = k then some a else none) l

/-- The elements with a selection are those of one kind. -/
def Selects (sel : α → Option β) (kind : α → κ) (k : κ) : Prop :=
  ∀ a, (sel a).isSome = decide (kind a = k)

/-- What is selected last is selected from the last element of the kind. -/
theorem last_eq_bind (h : Selects sel kind k) (l : List α) :
    last sel l = (lastOf kind k l).bind sel := by
  induction l using List.reverseRecOn with
  | nil => rfl
  | append_singleton l a ih =>
    have ha := h a
    rw [lastOf, last_concat, last_concat, ← lastOf, ih]
    split_ifs with hk
    · rw [decide_eq_true hk] at ha
      obtain ⟨b, hb⟩ := Option.isSome_iff_exists.1 ha
      rw [hb]
      exact hb.symm
    · rw [decide_eq_false hk, Option.isSome_eq_false_iff, Option.isNone_iff_eq_none] at ha
      rw [ha]
      rfl

/-- Lists with the same last element of the kind select the same. -/
theorem last_congr (h : Selects sel kind k) {l m : List α}
    (hlast : lastOf kind k l = lastOf kind k m) : last sel l = last sel m := by
  rw [last_eq_bind h, last_eq_bind h, hlast]

/-- Something is selected iff an element of the kind occurs. -/
theorem exists_last_iff (h : Selects sel kind k) {l : List α} :
    (∃ b, last sel l = some b) ↔ k ∈ l.map kind := by
  have hnone : ∀ a, sel a = none ↔ kind a ≠ k := by
    intro a
    rw [← Option.isNone_iff_eq_none, ← Option.isSome_eq_false_iff, h a, decide_eq_false_iff_not]
  rw [← Option.isSome_iff_exists, last, List.getLast?_isSome, Ne, List.filterMap_eq_nil_iff,
    List.mem_map]
  simp only [hnone, Classical.not_forall, not_not, exists_prop]

theorem isSome_last (h : Selects sel kind k) (l : List α) :
    (last sel l).isSome = decide (k ∈ l.map kind) := by
  rw [Bool.eq_iff_iff, Option.isSome_iff_exists, exists_last_iff h, decide_eq_true_iff]

end Kinds

end LastWins

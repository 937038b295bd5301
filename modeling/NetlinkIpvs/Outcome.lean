import Mathlib.Data.List.Forall2
import Mathlib.Logic.Basic

/-!
# Outcomes of Rust code

A Rust call returns, or aborts the thread with a panic. `Panics α` is a call whose
return type is `α`, and `Outcome ε α` one whose return type is `Result<α, ε>` : it can
return `Ok`, return `Err` or panic. The monad is the `?` operator. The first `Err` or
panic ends the computation.

`collect f l` is `l.map(f).collect::<Result<Vec<_>, _>>()`. The iterator is lazy, so
an element after the first failure is never looked at : `collect` panics iff some
element panics with every element before it `Ok` (`collect_panicked`).

`Settles x good bad` says when a call returns `Ok` and when it panics. Whatever is left is
an `Err`.
-/

namespace Rust

universe u v w

/-- Why a call panicked. -/
inductive Panic where
  /-- `panic!`, `todo!` or a failed `assert!`, with its text. -/
  | explicit (text : String)
  /-- An index or a range outside its slice. -/
  | outOfBounds
  /-- Two slices of different lengths where equal ones are required. -/
  | sizeMismatch
deriving DecidableEq, Repr

/-- A call that returns an `α` or panics. -/
abbrev Panics (α : Type u) := Except Panic α

@[simp] theorem ok_bind_panics {α β : Type u} (a : α) (f : α → Panics β) :
    (Except.ok a >>= f) = f a := rfl

@[simp] theorem error_bind_panics {α β : Type u} (p : Panic) (f : α → Panics β) :
    (Except.error p >>= f) = .error p := rfl

@[simp] theorem pure_panics {α : Type u} (a : α) : (pure a : Panics α) = .ok a := rfl

/-- A sequence of two calls returns iff both do. -/
theorem bind_panics_eq_ok {α β : Type u} {x : Panics α} {f : α → Panics β} {b : β} :
    x >>= f = .ok b ↔ ∃ a, x = .ok a ∧ f a = .ok b := by
  cases x <;> simp

/-- A call that returns iff `c`, and then with a result that is known. -/
theorem except_eq_ok_iff {ε : Type u} {α : Type v} {x : Except ε α} {c : Prop} {a a₀ : α}
    (hok : c → x = .ok a₀) (herr : ¬c → ∃ e, x = .error e) : x = .ok a ↔ c ∧ a = a₀ := by
  by_cases hc : c
  · rw [hok hc, Except.ok.injEq, and_iff_right hc, eq_comm]
  · obtain ⟨e, he⟩ := herr hc
    simp [he, hc]

/-- A call that returns `Ok`, returns `Err`, or panics. -/
inductive Outcome (ε : Type u) (α : Type v) where
  | ok (a : α)
  | err (e : ε)
  | panic (p : Panic)
deriving DecidableEq, Repr

namespace Outcome

variable {ε : Type u} {α β : Type v}

/-- The `?` operator. -/
def bind : Outcome ε α → (α → Outcome ε β) → Outcome ε β
  | ok a, f => f a
  | err e, _ => err e
  | panic p, _ => panic p

instance : Monad (Outcome ε) where
  pure := ok
  bind := bind

/-- A call that only panics, called from one that returns a `Result`. -/
def ofPanics : Panics α → Outcome ε α
  | .ok a => ok a
  | .error p => panic p

instance : MonadLift Panics (Outcome ε) := ⟨ofPanics⟩

/-- A `Result`, from a call that does not panic. -/
def ofExcept : Except ε α → Outcome ε α
  | .ok a => ok a
  | .error e => err e

/-- `Option::ok_or`. -/
def okOr : Option α → ε → Outcome ε α
  | some a, _ => ok a
  | none, e => err e

/-- `Result::map_err`. -/
def mapErr {ε' : Type u} (f : ε → ε') : Outcome ε α → Outcome ε' α
  | ok a => ok a
  | err e => err (f e)
  | panic p => panic p

/-- What ended the computation, if it did not return `Ok`. -/
def fault : Outcome ε α → Option (ε ⊕ Panic)
  | ok _ => none
  | err e => some (.inl e)
  | panic p => some (.inr p)

/-- The call panicked. -/
def Panicked (x : Outcome ε α) : Prop :=
  ∃ p, x.fault = some (.inr p)

@[simp] theorem pure_eq (a : α) : (pure a : Outcome ε α) = ok a := rfl

@[simp] theorem ok_bind (a : α) (f : α → Outcome ε β) : ok a >>= f = f a := rfl

@[simp] theorem err_bind (e : ε) (f : α → Outcome ε β) : err e >>= f = err e := rfl

@[simp] theorem panic_bind (p : Panic) (f : α → Outcome ε β) : panic p >>= f = panic p := rfl

@[simp] theorem lift_ok (a : α) : (liftM (.ok a : Panics α) : Outcome ε α) = ok a := rfl

@[simp] theorem lift_error (p : Panic) : (liftM (.error p : Panics α) : Outcome ε α) = panic p :=
  rfl

@[simp] theorem ofExcept_ok (a : α) : (ofExcept (.ok a) : Outcome ε α) = ok a := rfl

@[simp] theorem ofExcept_error (e : ε) : (ofExcept (.error e) : Outcome ε α) = err e := rfl

@[simp] theorem okOr_some (a : α) (e : ε) : okOr (some a) e = ok a := rfl

@[simp] theorem okOr_none (e : ε) : (okOr none e : Outcome ε α) = err e := rfl

@[simp] theorem okOr_eq_ok {o : Option α} {e : ε} {a : α} : okOr o e = ok a ↔ o = some a := by
  cases o <;> simp

theorem ofExcept_eq_ok {x : Except ε α} {a : α} :
    (ofExcept x : Outcome ε α) = ok a ↔ x = .ok a := by
  cases x <;> simp

@[simp] theorem lift_eq_ok {x : Panics α} {a : α} :
    (liftM x : Outcome ε α) = ok a ↔ x = .ok a := by
  cases x <;> simp

@[simp] theorem fault_ok (a : α) : (ok a : Outcome ε α).fault = none := rfl

@[simp] theorem fault_err (e : ε) : (err e : Outcome ε α).fault = some (.inl e) := rfl

@[simp] theorem fault_panic (p : Panic) : (panic p : Outcome ε α).fault = some (.inr p) := rfl

@[simp] theorem panicked_ok (a : α) : ¬(ok a : Outcome ε α).Panicked := by simp [Panicked]

@[simp] theorem panicked_err (e : ε) : ¬(err e : Outcome ε α).Panicked := by simp [Panicked]

@[simp] theorem panicked_panic (p : Panic) : (panic p : Outcome ε α).Panicked := ⟨p, rfl⟩

@[simp] theorem panicked_okOr (o : Option α) (e : ε) : ¬(okOr o e).Panicked := by
  cases o <;> simp

@[simp] theorem panicked_lift {x : Panics α} :
    (liftM x : Outcome ε α).Panicked ↔ ¬∃ a, x = .ok a := by
  cases x <;> simp

/-- A sequence of two calls returns `Ok` iff both do. -/
theorem bind_eq_ok {x : Outcome ε α} {f : α → Outcome ε β} {b : β} :
    x >>= f = ok b ↔ ∃ a, x = ok a ∧ f a = ok b := by
  cases x <;> simp

/-- A sequence of two calls ends with a fault iff the first does, or returns `Ok` and
the second does. -/
theorem bind_fault {x : Outcome ε α} {f : α → Outcome ε β} {t : ε ⊕ Panic} :
    (x >>= f).fault = some t ↔ x.fault = some t ∨ ∃ a, x = ok a ∧ (f a).fault = some t := by
  cases x <;> simp

/-- The call panics iff the first part does, or returns `Ok` and the second part does. -/
theorem bind_panicked {x : Outcome ε α} {f : α → Outcome ε β} :
    (x >>= f).Panicked ↔ x.Panicked ∨ ∃ a, x = ok a ∧ (f a).Panicked := by
  cases x <;> simp

@[simp] theorem mapErr_eq_ok {ε' : Type u} {f : ε → ε'} {x : Outcome ε α} {a : α} :
    x.mapErr f = ok a ↔ x = ok a := by
  cases x <;> simp [mapErr]

@[simp] theorem mapErr_panicked {ε' : Type u} {f : ε → ε'} {x : Outcome ε α} :
    (x.mapErr f).Panicked ↔ x.Panicked := by
  cases x <;> simp [mapErr]

theorem mapErr_bind {ε' : Type u} (f : ε → ε') (x : Outcome ε α) (g : α → Outcome ε β) :
    (x >>= g).mapErr f = x.mapErr f >>= fun a => (g a).mapErr f := by
  cases x <;> rfl

/-! ## When a call returns and when it panics -/

/-- The call returns `Ok` iff `good`, and panics iff `bad`. -/
structure Settles (x : Outcome ε α) (good bad : Prop) : Prop where
  ok_iff : (∃ a, x = ok a) ↔ good
  panicked_iff : x.Panicked ↔ bad

theorem Settles.congr {x : Outcome ε α} {g g' b b' : Prop} (h : x.Settles g b) (hg : g ↔ g')
    (hb : b ↔ b') : x.Settles g' b' :=
  ⟨h.ok_iff.trans hg, h.panicked_iff.trans hb⟩

/-- The call returns `Err` iff it does neither. -/
theorem Settles.err_iff {x : Outcome ε α} {g b : Prop} (h : x.Settles g b) :
    (∃ e, x = err e) ↔ ¬g ∧ ¬b := by
  rw [← h.ok_iff, ← h.panicked_iff]
  cases x <;> simp

theorem settles_ok (a : α) : (ok a : Outcome ε α).Settles True False :=
  ⟨by simp, by simp⟩

theorem settles_err (e : ε) : (err e : Outcome ε α).Settles False False :=
  ⟨by simp, by simp⟩

theorem settles_panic (p : Panic) : (panic p : Outcome ε α).Settles False True :=
  ⟨by simp, by simp⟩

/-- What follows a call and always returns changes nothing. -/
theorem Settles.map {x : Outcome ε α} {g b : Prop} (h : x.Settles g b) (f : α → β) :
    (x >>= fun a => pure (f a)).Settles g b := by
  obtain ⟨hg, hb⟩ := h
  cases x with
  | ok a => exact ⟨by simpa using hg, by simpa using hb⟩
  | err e => exact ⟨by simpa using hg, by simpa using hb⟩
  | panic p => exact ⟨by simpa using hg, by simpa using hb⟩

theorem Settles.mapErr {ε' : Type u} {x : Outcome ε α} {g b : Prop} (h : x.Settles g b)
    (f : ε → ε') : (x.mapErr f).Settles g b :=
  ⟨by simpa using h.ok_iff, by simpa using h.panicked_iff⟩

/-- A call that returns iff something is long enough, and panics otherwise. -/
theorem settles_of_le {n len : ℕ} {x : Panics α} (hok : n ≤ len → ∃ a, x = .ok a)
    (hshort : len < n → ∃ p, x = .error p) (f : α → β) :
    ((liftM x : Outcome ε α) >>= fun a => pure (f a)).Settles (n ≤ len) (len < n) := by
  rcases Nat.lt_or_ge len n with hlen | hlen
  · obtain ⟨p, rfl⟩ := hshort hlen
    exact (settles_panic p).congr (by simpa using hlen) (by simpa using hlen)
  · obtain ⟨a, rfl⟩ := hok hlen
    exact (settles_ok _).congr (by simpa using hlen) (by simpa using hlen)

/-- A `Result` that is `Ok` iff the condition holds, and what follows. -/
theorem settles_ofExcept {x : Except ε α} {c g b : Prop} {f : α → Outcome ε β}
    (hok : c → ∃ a, x = .ok a ∧ (f a).Settles g b) (herr : ¬c → ∃ e, x = .error e) :
    (ofExcept x >>= f).Settles (c ∧ g) (c ∧ b) := by
  by_cases hc : c
  · obtain ⟨a, rfl, ha⟩ := hok hc
    exact ha.congr (by simp [hc]) (by simp [hc])
  · obtain ⟨e, rfl⟩ := herr hc
    exact (settles_err e).congr (by simp [hc]) (by simp [hc])

/-- A call that panics iff `c` does not hold, and under `c` returns `Ok` iff `g`. -/
theorem settles_of_panicked_iff {x : Outcome ε α} {c g : Prop} (hp : x.Panicked ↔ ¬c)
    (hok : c → ((∃ a, x = ok a) ↔ g)) : x.Settles (c ∧ g) (¬c) := by
  refine ⟨⟨?_, fun h => (hok h.1).2 h.2⟩, hp⟩
  rintro ⟨a, rfl⟩
  have hc : c := not_not.1 fun hc => panicked_ok a (hp.2 hc)
  exact ⟨hc, (hok hc).1 ⟨a, rfl⟩⟩

/-! ## Requirements -/

section Refuses

variable {ι : Type w} {met : ι → Bool} {reqs reqs' : List (ι × ε)}

/-- The call returns `Err` iff a requirement is not met, with the error of the first such. -/
def Refuses (met : ι → Bool) (reqs : List (ι × ε)) (x : Outcome ε α) : Prop :=
  ∀ e, x = err e ↔ ∃ i, reqs.find? (fun r => !met r.1) = some (i, e)

theorem refuses_ok (a : α) : Refuses met reqs (ok a) ↔ ∀ r ∈ reqs, met r.1 = true := by
  constructor
  · intro h r hr
    by_contra hmet
    have hsome : (reqs.find? fun r => !met r.1).isSome :=
      List.find?_isSome.2 ⟨r, hr, by simpa using hmet⟩
    obtain ⟨⟨i, e⟩, hfind⟩ := Option.isSome_iff_exists.1 hsome
    exact nomatch (h e).2 ⟨i, hfind⟩
  · intro h e
    have hnone : reqs.find? (fun r => !met r.1) = none :=
      List.find?_eq_none.2 fun r hr => by simp [h r hr]
    simp [hnone]

/-- What follows a call that does not panic has its requirements after those of the call. -/
theorem Refuses.bind {x : Outcome ε α} {f : α → Outcome ε β} (hx : Refuses met reqs x)
    (hp : ¬x.Panicked) (hf : ∀ a, x = ok a → Refuses met reqs' (f a)) :
    Refuses met (reqs ++ reqs') (x >>= f) := by
  intro e
  cases x with
  | ok a =>
    have hnone : reqs.find? (fun r => !met r.1) = none :=
      List.find?_eq_none.2 fun r hr => by simp [(refuses_ok a).1 hx r hr]
    rw [List.find?_append, hnone, Option.none_or]
    exact hf a rfl e
  | err e' =>
    obtain ⟨i, hfind⟩ := (hx e').1 rfl
    rw [List.find?_append, hfind, Option.some_or]
    simp
  | panic p => exact absurd (panicked_panic p) hp

/-- A variable that has a value iff the requirement is met. -/
theorem refuses_okOr {o : Option α} {i : ι} {e : ε} (ho : o.isSome = met i) :
    Refuses met [(i, e)] (okOr o e) := by
  intro e'
  cases o with
  | some a => simp [show met i = true from ho.symm]
  | none => simp [show met i = false from ho.symm]

theorem Refuses.okOr {o : Option α} {i : ι} {e : ε} {f : α → Outcome ε β} (ho : o.isSome = met i)
    (hf : ∀ a, o = some a → Refuses met reqs (f a)) :
    Refuses met ((i, e) :: reqs) (Outcome.okOr o e >>= f) :=
  (refuses_okOr ho).bind (panicked_okOr o e) fun a ha => hf a (okOr_eq_ok.1 ha)

/-- A call that returns has no requirements of its own. -/
theorem Refuses.lift {x : Panics α} {f : α → Outcome ε β} (hx : ∃ a, x = .ok a)
    (hf : ∀ a, x = .ok a → Refuses met reqs (f a)) :
    Refuses met reqs ((liftM x : Outcome ε α) >>= f) := by
  obtain ⟨a, rfl⟩ := hx
  exact hf a rfl

end Refuses

/-! ## Collecting -/

variable {γ : Type w}

/-- `l.map(f).collect::<Result<Vec<_>, _>>()`. -/
def collect (f : γ → Outcome ε α) : List γ → Outcome ε (List α)
  | [] => ok []
  | c :: l => do
    let a ← f c
    let as ← collect f l
    return a :: as

@[simp] theorem collect_nil (f : γ → Outcome ε α) : collect f [] = ok [] := rfl

theorem collect_map {δ : Type*} (f : γ → Outcome ε α) (g : δ → γ) :
    ∀ l : List δ, collect f (l.map g) = collect (fun d => f (g d)) l
  | [] => rfl
  | d :: l => by rw [List.map_cons, collect, collect, collect_map f g l]

/-- Two lists are collected one after the other. -/
theorem collect_append (f : γ → Outcome ε α) (l' : List γ) :
    ∀ l : List γ, collect f (l ++ l') = do
      let as ← collect f l
      let as' ← collect f l'
      return as ++ as'
  | [] => by
    rw [List.nil_append, collect_nil, ok_bind]
    cases collect f l' <;> rfl
  | c :: l => by
    rw [List.cons_append, collect, collect, collect_append f l' l]
    cases f c with
    | ok a => cases collect f l <;> cases collect f l' <;> rfl
    | err e => rfl
    | panic p => rfl

/-- Collecting returns `Ok` iff every element does, one entry for each, in order. -/
theorem collect_eq_ok {f : γ → Outcome ε α} :
    ∀ {l : List γ} {as : List α},
      collect f l = ok as ↔ List.Forall₂ (fun c a => f c = ok a) l as
  | [], as => by
    rw [collect_nil, List.forall₂_nil_left_iff, ok.injEq, eq_comm]
  | c :: l, as => by
    rw [collect, bind_eq_ok, List.forall₂_cons_left_iff]
    refine exists_congr fun a => ?_
    rw [bind_eq_ok]
    constructor
    · rintro ⟨ha, as', has, h⟩
      exact ⟨as', ha, collect_eq_ok.1 has, (ok.inj h).symm⟩
    · rintro ⟨as', ha, has, rfl⟩
      exact ⟨ha, as', collect_eq_ok.2 has, rfl⟩

theorem exists_forall₂ {δ : Type w} {r : δ → α → Prop} :
    ∀ {l : List δ}, (∃ as, List.Forall₂ r l as) ↔ ∀ c ∈ l, ∃ a, r c a
  | [] => by simp
  | c :: l => by
    rw [List.forall_mem_cons, ← exists_forall₂ (l := l)]
    constructor
    · rintro ⟨_, h⟩
      obtain ⟨a, as, ha, has, rfl⟩ := List.forall₂_cons_left_iff.1 h
      exact ⟨⟨a, ha⟩, as, has⟩
    · rintro ⟨⟨a, ha⟩, as, has⟩
      exact ⟨a :: as, .cons ha has⟩

/-- Corresponding lists, filtered and mapped alike. -/
theorem filterMap_forall₂ {δ : Type*} {r : γ → α → Prop} {p : γ → Option δ} {q : α → Option δ} :
    ∀ {l : List γ} {as : List α}, List.Forall₂ r l as → (∀ c, ∀ a ∈ as, r c a → q a = p c) →
      as.filterMap q = l.filterMap p
  | [], [], .nil, _ => rfl
  | c :: l, a :: as, .cons ha has, h => by
    have ih := filterMap_forall₂ has fun c' a' ha' => h c' a' (List.mem_cons_of_mem a ha')
    rw [List.filterMap_cons, List.filterMap_cons, h c a List.mem_cons_self ha, ih]

theorem map_forall₂ {δ : Type*} {r : γ → α → Prop} {p : γ → δ} {q : α → δ} {l : List γ}
    {as : List α} (hl : List.Forall₂ r l as) (h : ∀ c, ∀ a ∈ as, r c a → q a = p c) :
    as.map q = l.map p := by
  rw [← List.filterMap_eq_map, ← List.filterMap_eq_map]
  exact filterMap_forall₂ hl fun c a ha hr => congrArg some (h c a ha hr)

/-- Collecting ends with the fault of the first element that is not `Ok`. -/
theorem collect_fault {f : γ → Outcome ε α} {t : ε ⊕ Panic} :
    ∀ {l : List γ}, (collect f l).fault = some t ↔
      ∃ pre c post, l = pre ++ c :: post ∧ (∀ x ∈ pre, ∃ a, f x = ok a) ∧ (f c).fault = some t
  | [] => by simp
  | c :: l => by
    simp only [collect, bind_fault, pure_eq, fault_ok, reduceCtorEq, and_false, exists_false,
      or_false]
    constructor
    · rintro (h | ⟨a, ha, h⟩)
      · exact ⟨[], c, l, rfl, by simp, h⟩
      · obtain ⟨pre, d, post, rfl, hpre, hd⟩ := collect_fault.1 h
        refine ⟨c :: pre, d, post, rfl, ?_, hd⟩
        rintro x (_ | ⟨_, hx⟩)
        · exact ⟨a, ha⟩
        · exact hpre x hx
    · rintro ⟨_ | ⟨c', pre⟩, d, post, h, hpre, hd⟩
      · obtain ⟨rfl, -⟩ := List.cons.inj h
        exact Or.inl hd
      · obtain ⟨rfl, rfl⟩ := List.cons.inj h
        obtain ⟨a, ha⟩ := hpre c (by simp)
        exact Or.inr ⟨a, ha, collect_fault.2
          ⟨pre, d, post, rfl, fun x hx => hpre x (by simp [hx]), hd⟩⟩

/-- Collecting panics iff some element does, with every element before it `Ok`. -/
theorem collect_panicked {f : γ → Outcome ε α} {l : List γ} :
    (collect f l).Panicked ↔
      ∃ pre c post, l = pre ++ c :: post ∧ (∀ x ∈ pre, ∃ a, f x = ok a) ∧ (f c).Panicked := by
  constructor
  · rintro ⟨p, h⟩
    obtain ⟨pre, c, post, hl, hpre, hc⟩ := collect_fault.1 h
    exact ⟨pre, c, post, hl, hpre, p, hc⟩
  · rintro ⟨pre, c, post, hl, hpre, p, hc⟩
    exact ⟨p, collect_fault.2 ⟨pre, c, post, hl, hpre, hc⟩⟩

/-- The first element that is not `good` is `bad`. -/
def Reaches (good bad : γ → Prop) (l : List γ) : Prop :=
  ∃ pre c post, l = pre ++ c :: post ∧ (∀ x ∈ pre, good x) ∧ bad c

theorem Reaches.exists_bad {good bad : γ → Prop} {l : List γ} (h : Reaches good bad l) :
    ∃ c ∈ l, bad c := by
  obtain ⟨pre, c, post, rfl, -, hc⟩ := h
  exact ⟨c, List.mem_append_right pre List.mem_cons_self, hc⟩

end Outcome

end Rust

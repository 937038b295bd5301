import Mathlib.Data.List.Forall2
import NetlinkIpvs.Outcome

/-!
# Programs that read a stream

A program receives items one after the other, writes a log, and returns or panics. It is a
function of the items it is given : what it has written, and how it stands (`Stand`). It
waits for an item that has not come, it has returned and left the rest unread, or it has
panicked. A program does not see an item before it receives it, which `Session` carries as
a field (`Causal`).

`Reads s xs a l` : the program reads exactly `xs`, whatever comes after, returns `a` and
has written `l`. A program that has returned has read a part at the front of its stream
(`run_returned_iff`), and what a sequence or a loop has read is what its parts have read,
one after the other (`reads_bind_iff`, `reads_loop_iff`, `reads_each_iff`). It panics in one
of its parts, after those before it have returned (`panicked_bind_iff`, `panicked_loop_iff`,
`panicked_each_iff`).

`Blind R` : the program does not tell related streams apart. Programs made of blind parts
are blind (`Blind.bind`, `Blind.each`, `blind_loop`).
-/

namespace Rust

universe u v w

/-! ## Writing -/

/-- A computation that writes a log, and returns or panics. -/
structure Says (ο : Type v) (α : Type u) where
  log : List ο
  value : Panics α

namespace Says

variable {ο : Type v} {α β : Type u} {γ : Type w}

instance : Monad (Says ο) where
  pure a := ⟨[], .ok a⟩
  bind x f :=
    match x.value with
    | .ok a => ⟨x.log ++ (f a).log, (f a).value⟩
    | .error p => ⟨x.log, .error p⟩

/-- Write one line. -/
def line (o : ο) : Says ο PUnit :=
  ⟨[o], .ok ⟨⟩⟩

instance : MonadLift Panics (Says ο) where
  monadLift x := ⟨[], x⟩

/-- The computation for each element of a list, in order. -/
def each (f : γ → Says ο PUnit) : List γ → Says ο PUnit
  | [] => pure ⟨⟩
  | c :: l => do
    f c
    each f l

theorem bind_eq_ok {x : Says ο α} {f : α → Says ο β} {l : List ο} {b : β} :
    x >>= f = ⟨l, .ok b⟩ ↔
      ∃ a m n, x = ⟨m, .ok a⟩ ∧ f a = ⟨n, .ok b⟩ ∧ l = m ++ n := by
  obtain ⟨log, value⟩ := x
  cases value with
  | ok a =>
    constructor
    · intro h
      obtain ⟨hl, hb⟩ := Says.mk.inj h
      exact ⟨a, log, (f a).log, rfl, by rw [← hb], hl.symm⟩
    · rintro ⟨a', m, n, hx, hf, rfl⟩
      obtain ⟨rfl, ha⟩ := Says.mk.inj hx
      obtain rfl := Except.ok.inj ha
      change (⟨log ++ (f a).log, (f a).value⟩ : Says ο β) = _
      rw [hf]
  | error p =>
    constructor
    · intro h
      cases (Says.mk.inj h).2
    · rintro ⟨a', m, n, hx, -⟩
      cases (Says.mk.inj hx).2

/-- What follows and writes nothing changes the value. -/
theorem bind_pure_eq (x : Says ο α) (f : α → β) :
    (x >>= fun a => pure (f a)) = ⟨x.log, x.value.map f⟩ := by
  obtain ⟨log, value⟩ := x
  cases value with
  | ok a => exact congrArg (Says.mk · _) (List.append_nil log)
  | error p => rfl

/-- If each element writes its lines, they are written one after the other. -/
theorem each_eq {f : γ → Says ο PUnit} {out : γ → List ο} :
    ∀ {l : List γ}, (∀ c ∈ l, f c = ⟨out c, .ok ⟨⟩⟩) → each f l = ⟨l.flatMap out, .ok ⟨⟩⟩
  | [], _ => rfl
  | c :: l, h => by
    have ih := each_eq fun d hd => h d (List.mem_cons_of_mem c hd)
    exact bind_eq_ok.2 ⟨⟨⟩, _, _, h c List.mem_cons_self, ih, rfl⟩

/-- The elements are gone through unless one of them panics. -/
theorem each_panics_iff {f : γ → Says ο PUnit} : ∀ {l : List γ},
    (∃ p, (each f l).value = .error p) ↔ ∃ c ∈ l, ∃ p, (f c).value = .error p
  | [] => iff_of_false (by rintro ⟨p, h⟩; cases h) (by simp)
  | c :: l => by
    rw [List.exists_mem_cons_iff, ← each_panics_iff, each]
    obtain ⟨log, value⟩ := f c
    cases value with
    | ok a => exact ⟨Or.inr, fun h => h.resolve_left (by simp)⟩
    | error p => exact ⟨fun _ => Or.inl ⟨p, rfl⟩, fun _ => ⟨p, rfl⟩⟩

end Says

/-! ## Programs -/

/-- How a program stands after the items it was given. -/
inductive Stand (ι : Type w) (α : Type u) where
  /-- It waits for an item that has not come. -/
  | waits
  /-- It has returned, and these items are left. -/
  | returned (a : α) (rest : List ι)
  | panicked (p : Panic)

/-- A program does not see an item before it receives it. Items after those it has read
change nothing, and further items only add to what a waiting program has written. -/
structure Causal {ι : Type w} {ο : Type v} {α : Type u} (run : List ι → List ο × Stand ι α) :
    Prop where
  returned : ∀ {xs l a rest}, run xs = (l, .returned a rest) →
    ∃ pre, xs = pre ++ rest ∧ ∀ ys, run (pre ++ ys) = (l, .returned a ys)
  panicked : ∀ {xs l p}, run xs = (l, .panicked p) → ∀ ys, run (xs ++ ys) = (l, .panicked p)
  waits : ∀ {xs l}, run xs = (l, .waits) → ∀ ys, l <+: (run (xs ++ ys)).1

/-- A program that reads a stream and writes a log. -/
structure Session (ι : Type w) (ο : Type v) (α : Type u) where
  run : List ι → List ο × Stand ι α
  causal : Causal run

/-- What the body of a loop comes to. -/
inductive ControlFlow (σ : Type w) (α : Type u) where
  | next (s : σ)
  | leave (a : α)

namespace Session

variable {ι : Type w} {ο : Type v} {α β : Type u}

/-- A program that reads nothing. -/
def ofSays (x : Says ο α) : Session ι ο α where
  run xs :=
    match x.value with
    | .ok a => (x.log, .returned a xs)
    | .error p => (x.log, .panicked p)
  causal := by
    obtain ⟨log, value⟩ := x
    cases value with
    | ok a =>
      refine ⟨fun h => ?_, fun h => ?_, fun h => ?_⟩
      · cases h
        exact ⟨[], rfl, fun _ => rfl⟩
      · cases h
      · cases h
    | error p =>
      refine ⟨fun h => ?_, fun h ys => ?_, fun h => ?_⟩
      · cases h
      · cases h
        rfl
      · cases h

instance : MonadLift (Says ο) (Session ι ο) := ⟨ofSays⟩

/-- The steps of a sequence : the second part gets what the first has left. -/
def bindRun (s : List ι → List ο × Stand ι α) (f : α → Session ι ο β) (xs : List ι) :
    List ο × Stand ι β :=
  match s xs with
  | (l, .returned a rest) => (l ++ ((f a).run rest).1, ((f a).run rest).2)
  | (l, .waits) => (l, .waits)
  | (l, .panicked p) => (l, .panicked p)

theorem bindRun_returned {s : List ι → List ο × Stand ι α} {f : α → Session ι ο β} {xs : List ι}
    {l : List ο} {a : α} {rest : List ι} (h : s xs = (l, .returned a rest)) :
    bindRun s f xs = (l ++ ((f a).run rest).1, ((f a).run rest).2) := by
  rw [bindRun, h]

theorem prefix_bindRun (s : List ι → List ο × Stand ι α) (f : α → Session ι ο β) (xs : List ι) :
    (s xs).1 <+: (bindRun s f xs).1 := by
  unfold bindRun
  split
  next l a rest h =>
    rw [h]
    exact List.prefix_append _ _
  next h => simp [h]
  next h => simp [h]

theorem causal_bindRun {s : List ι → List ο × Stand ι α} (hs : Causal s) (f : α → Session ι ο β) :
    Causal (bindRun s f) := by
  refine ⟨fun {xs l b rest} h => ?_, fun {xs l p} h ys => ?_, fun {xs l} h ys => ?_⟩
  all_goals
    unfold bindRun at h
    split at h
  next m a mid hx =>
    obtain ⟨pre, rfl, hpre⟩ := hs.returned hx
    obtain ⟨pre', rfl, hpre'⟩ := (f a).causal.returned (Prod.ext rfl (Prod.mk.inj h).2)
    refine ⟨pre ++ pre', (List.append_assoc _ _ _).symm, fun ys => ?_⟩
    rw [List.append_assoc, bindRun_returned (hpre _), hpre', ← (Prod.mk.inj h).1]
  next => cases h
  next => cases h
  next m a mid hx =>
    obtain ⟨pre, rfl, hpre⟩ := hs.returned hx
    have hp := (f a).causal.panicked (Prod.ext rfl (Prod.mk.inj h).2) ys
    rw [List.append_assoc, bindRun_returned (hpre _), hp, ← (Prod.mk.inj h).1]
  next => cases h
  next m p hx =>
    have hp := hs.panicked hx ys
    rw [bindRun, hp]
    exact h
  next m a mid hx =>
    obtain ⟨pre, rfl, hpre⟩ := hs.returned hx
    have hw := (f a).causal.waits (Prod.ext rfl (Prod.mk.inj h).2) ys
    rw [List.append_assoc, bindRun_returned (hpre _), ← (Prod.mk.inj h).1]
    exact (List.prefix_append_right_inj _).2 hw
  next m hx =>
    obtain rfl := (Prod.mk.inj h).1
    exact (hs.waits hx ys).trans (prefix_bindRun _ _ _)
  next => cases h

instance : Monad (Session ι ο) where
  pure a := ofSays (pure a)
  bind s f := ⟨bindRun s.run f, causal_bindRun s.causal f⟩

/-- The program for each element of a list, in order. -/
def each {γ : Type*} (f : γ → Session ι ο PUnit) : List γ → Session ι ο PUnit
  | [] => pure ⟨⟩
  | c :: l => do
    f c
    each f l

/-! ## Loops -/

section Loop

variable {σ : Type*}

/-- The steps of a loop : each turn receives an item. -/
def loopRun (body : σ → ι → Says ο (ControlFlow σ α)) : σ → List ι → List ο × Stand ι α
  | _, [] => ([], .waits)
  | s, x :: xs =>
    match (body s x).value with
    | .ok (.next s') =>
      ((body s x).log ++ (loopRun body s' xs).1, (loopRun body s' xs).2)
    | .ok (.leave a) => ((body s x).log, .returned a xs)
    | .error p => ((body s x).log, .panicked p)

variable {body : σ → ι → Says ο (ControlFlow σ α)} {s s' : σ} {x : ι} {xs : List ι}

theorem loopRun_next {l : List ο} (h : body s x = ⟨l, .ok (.next s')⟩) :
    loopRun body s (x :: xs) = (l ++ (loopRun body s' xs).1, (loopRun body s' xs).2) := by
  rw [loopRun, h]

theorem loopRun_leave {l : List ο} {a : α} (h : body s x = ⟨l, .ok (.leave a)⟩) :
    loopRun body s (x :: xs) = (l, .returned a xs) := by
  rw [loopRun, h]

theorem loopRun_error {l : List ο} {p : Panic} (h : body s x = ⟨l, .error p⟩) :
    loopRun body s (x :: xs) = (l, .panicked p) := by
  rw [loopRun, h]

/-- A turn of a loop goes on, leaves or panics. -/
theorem turn_cases (body : σ → ι → Says ο (ControlFlow σ α)) (s : σ) (x : ι) :
    (∃ l s', body s x = ⟨l, .ok (.next s')⟩) ∨ (∃ l a, body s x = ⟨l, .ok (.leave a)⟩) ∨
      ∃ l p, body s x = ⟨l, .error p⟩ := by
  obtain ⟨l, value⟩ := body s x
  match value with
  | .ok (.next s') => exact Or.inl ⟨l, s', rfl⟩
  | .ok (.leave a) => exact Or.inr (Or.inl ⟨l, a, rfl⟩)
  | .error p => exact Or.inr (Or.inr ⟨l, p, rfl⟩)

theorem causal_loopRun (body : σ → ι → Says ο (ControlFlow σ α)) (s : σ) :
    Causal (loopRun body s) := by
  refine ⟨fun {xs l a rest} h => ?_, fun {xs l p} h ys => ?_, fun {xs l} h ys => ?_⟩
  · induction xs generalizing s l with
    | nil => cases h
    | cons x xs ih =>
      obtain ⟨m, s', hb⟩ | ⟨m, a', hb⟩ | ⟨m, p, hb⟩ := turn_cases body s x
      · rw [loopRun_next hb] at h
        obtain ⟨pre, rfl, hpre⟩ := ih s' (Prod.ext rfl (Prod.mk.inj h).2)
        refine ⟨x :: pre, rfl, fun ys => ?_⟩
        rw [List.cons_append, loopRun_next hb, hpre, ← (Prod.mk.inj h).1]
      · rw [loopRun_leave hb] at h
        cases h
        exact ⟨[x], rfl, fun ys => loopRun_leave hb⟩
      · rw [loopRun_error hb] at h
        cases h
  · induction xs generalizing s l with
    | nil => cases h
    | cons x xs ih =>
      rw [List.cons_append]
      obtain ⟨m, s', hb⟩ | ⟨m, a', hb⟩ | ⟨m, p', hb⟩ := turn_cases body s x
      · rw [loopRun_next hb] at h ⊢
        rw [ih s' (Prod.ext rfl (Prod.mk.inj h).2), ← (Prod.mk.inj h).1]
      · rw [loopRun_leave hb] at h
        cases h
      · rwa [loopRun_error hb] at h ⊢
  · induction xs generalizing s l with
    | nil =>
      cases h
      exact List.nil_prefix
    | cons x xs ih =>
      rw [List.cons_append]
      obtain ⟨m, s', hb⟩ | ⟨m, a', hb⟩ | ⟨m, p', hb⟩ := turn_cases body s x
      · rw [loopRun_next hb] at h ⊢
        rw [← (Prod.mk.inj h).1]
        exact (List.prefix_append_right_inj _).2 (ih s' (Prod.ext rfl (Prod.mk.inj h).2))
      · rw [loopRun_leave hb] at h
        cases h
      · rw [loopRun_error hb] at h
        cases h

/-- A loop that receives an item on each turn. -/
def loop (body : σ → ι → Says ο (ControlFlow σ α)) (s : σ) : Session ι ο α :=
  ⟨loopRun body s, causal_loopRun body s⟩

end Loop

/-! ## What a program has read -/

/-- The program reads these items, whatever comes after, returns, and has written the log. -/
def Reads (s : Session ι ο α) (xs : List ι) (a : α) (l : List ο) : Prop :=
  ∀ ys, s.run (xs ++ ys) = (l, .returned a ys)

/-- A program that has returned has read a part at the front of its stream. -/
theorem run_returned_iff {s : Session ι ο α} {xs rest : List ι} {a : α} {l : List ο} :
    s.run xs = (l, .returned a rest) ↔ ∃ pre, xs = pre ++ rest ∧ s.Reads pre a l := by
  refine ⟨s.causal.returned, ?_⟩
  rintro ⟨pre, rfl, h⟩
  exact h rest

theorem reads_iff {s : Session ι ο α} {xs : List ι} {a : α} {l : List ο} :
    s.Reads xs a l ↔ s.run xs = (l, .returned a []) := by
  rw [run_returned_iff]
  simp

theorem reads_says_iff {x : Says ο α} {xs : List ι} {a : α} {l : List ο} :
    (ofSays x : Session ι ο α).Reads xs a l ↔ xs = [] ∧ x = ⟨l, .ok a⟩ := by
  rw [reads_iff]
  obtain ⟨log, value⟩ := x
  cases value with
  | ok b =>
    simp only [ofSays, Prod.mk.injEq, Stand.returned.injEq, Says.mk.injEq, Except.ok.injEq]
    tauto
  | error p => simp [ofSays]

theorem reads_line_iff {o : ο} {xs : List ι} {l : List ο} :
    (liftM (Says.line o) : Session ι ο PUnit).Reads xs ⟨⟩ l ↔ xs = [] ∧ l = [o] := by
  refine reads_says_iff.trans (and_congr_right fun _ => ?_)
  constructor
  · intro h
    exact (Says.mk.inj h).1.symm
  · rintro rfl
    rfl

theorem reads_bind_iff {s : Session ι ο α} {f : α → Session ι ο β} {zs : List ι} {b : β}
    {n : List ο} : (s >>= f).Reads zs b n ↔
      ∃ xs a l ys m, s.Reads xs a l ∧ (f a).Reads ys b m ∧ zs = xs ++ ys ∧ n = l ++ m := by
  constructor
  · intro h
    have hz : bindRun s.run f zs = (n, .returned b []) := reads_iff.1 h
    unfold bindRun at hz
    split at hz
    next l a mid hs =>
      obtain ⟨xs, rfl, hxs⟩ := s.causal.returned hs
      have hf : (f a).run mid = (((f a).run mid).1, .returned b []) :=
        Prod.ext rfl (Prod.mk.inj hz).2
      exact ⟨xs, a, l, mid, _, hxs, reads_iff.2 hf, rfl, (Prod.mk.inj hz).1.symm⟩
    next => cases hz
    next => cases hz
  · rintro ⟨xs, a, l, ys, m, hs, hf, rfl, rfl⟩ rest
    have hrun : s.run (xs ++ ys ++ rest) = (l, .returned a (ys ++ rest)) := by
      rw [List.append_assoc]
      exact hs _
    exact (bindRun_returned hrun).trans (by rw [hf])

/-- What follows a computation that only writes reads everything. -/
theorem reads_lift_bind_iff {x : Says ο α} {f : α → Session ι ο β} {zs : List ι} {b : β}
    {n : List ο} : ((liftM x : Session ι ο α) >>= f).Reads zs b n ↔
      ∃ a l m, x = ⟨l, .ok a⟩ ∧ (f a).Reads zs b m ∧ n = l ++ m := by
  rw [reads_bind_iff]
  constructor
  · rintro ⟨xs, a, l, ys, m, hx, hf, rfl, rfl⟩
    obtain ⟨rfl, h⟩ := reads_says_iff.1 hx
    exact ⟨a, l, m, h, hf, rfl⟩
  · rintro ⟨a, l, m, hx, hf, rfl⟩
    exact ⟨[], a, l, zs, m, reads_says_iff.2 ⟨rfl, hx⟩, hf, rfl, rfl⟩

theorem reads_line_bind_iff {o : ο} {f : PUnit → Session ι ο β} {zs : List ι} {b : β}
    {n : List ο} : ((liftM (Says.line o) : Session ι ο PUnit) >>= f).Reads zs b n ↔
      ∃ m, (f ⟨⟩).Reads zs b m ∧ n = o :: m := by
  rw [reads_lift_bind_iff]
  constructor
  · rintro ⟨⟨⟩, l, m, hx, hf, rfl⟩
    obtain ⟨rfl, -⟩ := Says.mk.inj hx
    exact ⟨m, hf, rfl⟩
  · rintro ⟨m, hf, rfl⟩
    exact ⟨⟨⟩, [o], m, rfl, hf, rfl⟩

theorem reads_panics_bind_iff {x : Panics α} {f : α → Session ι ο β} {zs : List ι} {b : β}
    {n : List ο} : ((liftM (liftM x : Says ο α) : Session ι ο α) >>= f).Reads zs b n ↔
      ∃ a, x = .ok a ∧ (f a).Reads zs b n := by
  rw [reads_lift_bind_iff]
  constructor
  · rintro ⟨a, l, m, hx, hf, rfl⟩
    obtain ⟨rfl, h⟩ := Says.mk.inj hx
    exact ⟨a, h, hf⟩
  · rintro ⟨a, rfl, hf⟩
    exact ⟨a, [], n, rfl, hf, rfl⟩

/-- A program for each element reads one part of the stream after the other. -/
theorem reads_each_iff {γ : Type w} {f : γ → Session ι ο PUnit} :
    ∀ {l : List γ} {zs : List ι} {n : List ο}, (each f l).Reads zs ⟨⟩ n ↔
      ∃ parts : List (List ι × List ο), List.Forall₂ (fun c p => (f c).Reads p.1 ⟨⟩ p.2) l parts ∧
        zs = parts.flatMap Prod.fst ∧ n = parts.flatMap Prod.snd
  | [], zs, n => by
    rw [each]
    simp only [List.forall₂_nil_left_iff, exists_eq_left]
    refine reads_says_iff.trans (and_congr_right fun _ => ?_)
    rw [eq_comm]
    exact ⟨fun h => (Says.mk.inj h).1, fun h => by rw [h]; rfl⟩
  | c :: l, zs, n => by
    rw [each, reads_bind_iff]
    constructor
    · rintro ⟨xs, ⟨⟩, m, ys, m', hc, hl, rfl, rfl⟩
      obtain ⟨parts, hparts, rfl, rfl⟩ := reads_each_iff.1 hl
      exact ⟨(xs, m) :: parts, .cons hc hparts, rfl, rfl⟩
    · rintro ⟨parts, h, rfl, rfl⟩
      obtain ⟨⟨xs, m⟩, parts, hc, hl, rfl⟩ := List.forall₂_cons_left_iff.1 h
      exact ⟨xs, ⟨⟩, m, _, _, hc, reads_each_iff.2 ⟨parts, hl, rfl, rfl⟩, rfl, rfl⟩

section Loop

variable {σ : Type*} {body : σ → ι → Says ο (ControlFlow σ α)}

/-- Turns of a loop that go on, from one state to another. -/
inductive Turns (body : σ → ι → Says ο (ControlFlow σ α)) : σ → List ι → σ → List ο → Prop
  | nil (s : σ) : Turns body s [] s []
  | cons {s s' s'' : σ} {x : ι} {xs : List ι} {l m : List ο}
      (hx : body s x = ⟨l, .ok (.next s')⟩) (hxs : Turns body s' xs s'' m) :
      Turns body s (x :: xs) s'' (l ++ m)

/-- A loop reads the items of the turns that go on, and of the turn that leaves it. -/
theorem reads_loop_iff {s : σ} {zs : List ι} {a : α} {n : List ο} :
    (loop body s).Reads zs a n ↔ ∃ xs s' l x m, Turns body s xs s' l ∧
      body s' x = ⟨m, .ok (.leave a)⟩ ∧ zs = xs ++ [x] ∧ n = l ++ m := by
  rw [reads_iff]
  constructor
  · intro h
    replace h : loopRun body s zs = (n, .returned a []) := h
    induction zs generalizing s n with
    | nil => cases h
    | cons x zs ih =>
      obtain ⟨m, s', hb⟩ | ⟨m, a', hb⟩ | ⟨m, p, hb⟩ := turn_cases body s x
      · rw [loopRun_next hb] at h
        have hrest : loopRun body s' zs = ((loopRun body s' zs).1, .returned a []) :=
          Prod.ext rfl (Prod.mk.inj h).2
        obtain ⟨xs, s'', l, y, m', ht, hy, rfl, hl⟩ := ih hrest
        refine ⟨x :: xs, s'', m ++ l, y, m', .cons hb ht, hy, rfl, ?_⟩
        rw [← (Prod.mk.inj h).1, hl, List.append_assoc]
      · rw [loopRun_leave hb] at h
        cases h
        exact ⟨[], s, [], x, _, .nil s, hb, rfl, rfl⟩
      · rw [loopRun_error hb] at h
        cases h
  · rintro ⟨xs, s', l, x, m, ht, hx, rfl, rfl⟩
    change loopRun body s (xs ++ [x]) = _
    induction ht with
    | nil s => exact loopRun_leave hx
    | cons hy _ ih => rw [List.cons_append, loopRun_next hy, ih hx, List.append_assoc]

/-- Turns of a loop that goes on at the good items, whatever the state. -/
theorem turns_iff {good : ι → Prop} {upd : σ → ι → σ} {out : ι → List ο}
    (h : ∀ s x s' l, body s x = ⟨l, .ok (.next s')⟩ ↔ good x ∧ s' = upd s x ∧ l = out x)
    {s s' : σ} {xs : List ι} {l : List ο} : Turns body s xs s' l ↔
      (∀ x ∈ xs, good x) ∧ s' = xs.foldl upd s ∧ l = xs.flatMap out := by
  constructor
  · intro ht
    induction ht with
    | nil s => simp
    | @cons s t u x xs l m hx _ ih =>
      obtain ⟨hgood, rfl, rfl⟩ := (h _ _ _ _).1 hx
      obtain ⟨hxs, rfl, rfl⟩ := ih
      exact ⟨List.forall_mem_cons.2 ⟨hgood, hxs⟩, rfl, rfl⟩
  · rintro ⟨hgood, rfl, rfl⟩
    induction xs generalizing s with
    | nil => exact .nil s
    | cons x xs ih =>
      obtain ⟨hx, hxs⟩ := List.forall_mem_cons.1 hgood
      exact .cons ((h _ _ _ _).2 ⟨hx, rfl, rfl⟩) (ih hxs)

end Loop

/-! ## When a program panics -/

/-- The program panics on the stream. -/
def Panicked (s : Session ι ο α) (xs : List ι) : Prop :=
  ∃ l p, s.run xs = (l, .panicked p)

theorem panicked_says_iff {x : Says ο α} {xs : List ι} :
    (ofSays x : Session ι ο α).Panicked xs ↔ ∃ p, x.value = .error p := by
  obtain ⟨log, value⟩ := x
  cases value <;> simp [Panicked, ofSays]

theorem not_panicked_line (o : ο) (xs : List ι) :
    ¬(liftM (Says.line o) : Session ι ο PUnit).Panicked xs := by
  intro h
  obtain ⟨p, hp⟩ := panicked_says_iff.1 h
  cases hp

/-- A sequence panics iff the first part does, or has read the front of the stream and the
second part panics on the rest. -/
theorem panicked_bind_iff {s : Session ι ο α} {f : α → Session ι ο β} {zs : List ι} :
    (s >>= f).Panicked zs ↔ s.Panicked zs ∨
      ∃ xs ys a l, zs = xs ++ ys ∧ s.Reads xs a l ∧ (f a).Panicked ys := by
  constructor
  · rintro ⟨n, p, hz⟩
    replace hz : bindRun s.run f zs = (n, .panicked p) := hz
    unfold bindRun at hz
    split at hz
    next l a mid hs =>
      obtain ⟨xs, rfl, hxs⟩ := s.causal.returned hs
      exact Or.inr ⟨xs, mid, a, l, rfl, hxs, _, p, Prod.ext rfl (Prod.mk.inj hz).2⟩
    next => cases hz
    next l q hs => exact Or.inl ⟨l, q, hs⟩
  · rintro (⟨l, p, hs⟩ | ⟨xs, ys, a, l, rfl, hs, m, p, hf⟩)
    · refine ⟨l, p, ?_⟩
      change bindRun s.run f zs = _
      rw [bindRun, hs]
    · refine ⟨l ++ m, p, (bindRun_returned (hs ys)).trans ?_⟩
      rw [hf]

theorem panicked_line_bind_iff {o : ο} {f : PUnit → Session ι ο β} {zs : List ι} :
    ((liftM (Says.line o) : Session ι ο PUnit) >>= f).Panicked zs ↔ (f ⟨⟩).Panicked zs := by
  rw [panicked_bind_iff]
  constructor
  · rintro (h | ⟨xs, ys, ⟨⟩, l, rfl, hx, hf⟩)
    · exact absurd h (not_panicked_line o zs)
    · obtain ⟨rfl, -⟩ := reads_line_iff.1 hx
      exact hf
  · intro h
    exact Or.inr ⟨[], zs, ⟨⟩, [o], rfl, reads_line_iff.2 ⟨rfl, rfl⟩, h⟩

theorem panicked_panics_bind_iff {x : Panics α} {f : α → Session ι ο β} {zs : List ι} :
    ((liftM (liftM x : Says ο α) : Session ι ο α) >>= f).Panicked zs ↔
      (∃ p, x = .error p) ∨ ∃ a, x = .ok a ∧ (f a).Panicked zs := by
  rw [panicked_bind_iff]
  refine or_congr panicked_says_iff ?_
  constructor
  · rintro ⟨xs, ys, a, l, rfl, hx, hf⟩
    obtain ⟨rfl, h⟩ := reads_says_iff.1 hx
    exact ⟨a, (Says.mk.inj h).2, hf⟩
  · rintro ⟨a, rfl, hf⟩
    exact ⟨[], zs, a, [], rfl, reads_says_iff.2 ⟨rfl, rfl⟩, hf⟩

/-- A program for each element panics iff it does at one, and has read a part of the stream
for each element before. -/
theorem panicked_each_iff {γ : Type w} {f : γ → Session ι ο PUnit} :
    ∀ {l : List γ} {zs : List ι}, (each f l).Panicked zs ↔
      ∃ pre c post parts rest, l = pre ++ c :: post ∧
        List.Forall₂ (fun c p => (f c).Reads p.1 ⟨⟩ p.2) pre parts ∧
        zs = (parts : List (List ι × List ο)).flatMap Prod.fst ++ rest ∧ (f c).Panicked rest
  | [], zs => by
    refine iff_of_false ?_ (by simp)
    rintro ⟨n, p, h⟩
    cases h
  | c :: l, zs => by
    rw [each, panicked_bind_iff]
    constructor
    · rintro (h | ⟨xs, ys, ⟨⟩, m, rfl, hc, hl⟩)
      · exact ⟨[], c, l, [], zs, rfl, .nil, rfl, h⟩
      · obtain ⟨pre, d, post, parts, rest, rfl, hparts, rfl, hd⟩ := panicked_each_iff.1 hl
        exact ⟨c :: pre, d, post, (xs, m) :: parts, rest, rfl, .cons hc hparts,
          (List.append_assoc _ _ _).symm, hd⟩
    · rintro ⟨_ | ⟨c', pre⟩, d, post, parts, rest, h, hparts, rfl, hd⟩
      · obtain ⟨rfl, rfl⟩ := List.cons.inj h
        obtain rfl := List.forall₂_nil_left_iff.1 hparts
        exact Or.inl hd
      · obtain ⟨rfl, rfl⟩ := List.cons.inj h
        obtain ⟨⟨xs, m⟩, parts, hc, hl, rfl⟩ := List.forall₂_cons_left_iff.1 hparts
        exact Or.inr ⟨xs, _, ⟨⟩, m, List.append_assoc _ _ _, hc,
          panicked_each_iff.2 ⟨pre, d, post, parts, rest, rfl, hl, rfl, hd⟩⟩

/-- A loop panics iff turns that go on are followed by one that panics. -/
theorem panicked_loop_iff {σ : Type*} {body : σ → ι → Says ο (ControlFlow σ α)} {s : σ}
    {zs : List ι} : (loop body s).Panicked zs ↔ ∃ xs s' l x rest, Turns body s xs s' l ∧
      (∃ p, (body s' x).value = .error p) ∧ zs = xs ++ x :: rest := by
  constructor
  · rintro ⟨n, p, h⟩
    replace h : loopRun body s zs = (n, .panicked p) := h
    induction zs generalizing s n with
    | nil => cases h
    | cons x zs ih =>
      obtain ⟨m, s', hb⟩ | ⟨m, a', hb⟩ | ⟨m, q, hb⟩ := turn_cases body s x
      · rw [loopRun_next hb] at h
        obtain ⟨xs, s'', l, y, rest, ht, hy, rfl⟩ := ih (n := (loopRun body s' zs).1)
          (Prod.ext rfl (Prod.mk.inj h).2)
        exact ⟨x :: xs, s'', _, y, rest, .cons hb ht, hy, rfl⟩
      · rw [loopRun_leave hb] at h
        cases h
      · exact ⟨[], s, [], x, zs, .nil s, ⟨q, by rw [hb]⟩, rfl⟩
  · rintro ⟨xs, s', l, x, rest, ht, ⟨p, hp⟩, rfl⟩
    have hx : body s' x = ⟨(body s' x).log, .error p⟩ := by rw [← hp]
    suffices h : loopRun body s (xs ++ x :: rest) = (l ++ (body s' x).log, .panicked p) from
      ⟨_, p, h⟩
    induction ht with
    | nil s => exact loopRun_error hx
    | cons hy _ ih => rw [List.cons_append, loopRun_next hy, ih hp hx, List.append_assoc]

/-! ## Streams a program does not tell apart -/

/-- Two stands are the same but for the items left. -/
inductive Alike (R : ι → ι → Prop) : Stand ι α → Stand ι α → Prop
  | waits : Alike R .waits .waits
  | returned (a : α) {xs ys : List ι} (h : List.Forall₂ R xs ys) :
      Alike R (.returned a xs) (.returned a ys)
  | panicked (p : Panic) : Alike R (.panicked p) (.panicked p)

/-- The program writes the same and stands the same on related streams. -/
def Blind (R : ι → ι → Prop) (s : Session ι ο α) : Prop :=
  ∀ xs ys, List.Forall₂ R xs ys →
    (s.run xs).1 = (s.run ys).1 ∧ Alike R (s.run xs).2 (s.run ys).2

variable {R : ι → ι → Prop}

theorem blind_says (x : Says ο α) : Blind R (ofSays x : Session ι ο α) := by
  intro xs ys h
  obtain ⟨log, value⟩ := x
  cases value with
  | ok a => exact ⟨rfl, .returned a h⟩
  | error p => exact ⟨rfl, .panicked p⟩

theorem Blind.bind {s : Session ι ο α} {f : α → Session ι ο β} (hs : Blind R s)
    (hf : ∀ a, Blind R (f a)) : Blind R (s >>= f) := by
  intro xs ys h
  change (bindRun s.run f xs).1 = (bindRun s.run f ys).1 ∧
    Alike R (bindRun s.run f xs).2 (bindRun s.run f ys).2
  obtain ⟨hlog, hstand⟩ := hs xs ys h
  unfold bindRun
  cases hx : s.run xs with
  | mk l t =>
    cases hy : s.run ys with
    | mk l' t' =>
      rw [hx, hy] at hlog hstand
      obtain rfl : l = l' := hlog
      cases hstand with
      | waits => exact ⟨rfl, .waits⟩
      | returned a hrest =>
        obtain ⟨hl, ht⟩ := hf a _ _ hrest
        exact ⟨congrArg (l ++ ·) hl, ht⟩
      | panicked p => exact ⟨rfl, .panicked p⟩

theorem Blind.each {γ : Type*} {f : γ → Session ι ο PUnit} (hf : ∀ c, Blind R (f c)) :
    ∀ l, Blind R (each f l)
  | [] => by
    rw [Session.each]
    exact blind_says _
  | c :: l => (hf c).bind fun _ => Blind.each hf l

/-- A loop whose body does not tell related items apart. -/
theorem blind_loop {σ : Type*} {body : σ → ι → Says ο (ControlFlow σ α)}
    (h : ∀ s x y, R x y → body s x = body s y) (s : σ) : Blind R (loop body s) := by
  intro xs ys hxy
  change (loopRun body s xs).1 = (loopRun body s ys).1 ∧
    Alike R (loopRun body s xs).2 (loopRun body s ys).2
  induction hxy generalizing s with
  | nil => exact ⟨rfl, .waits⟩
  | @cons x y xs ys hx hrest ih =>
    have hb := h s x y hx
    obtain ⟨m, s', hbx⟩ | ⟨m, a', hbx⟩ | ⟨m, p, hbx⟩ := turn_cases body s x
    · rw [loopRun_next hbx, loopRun_next (hb ▸ hbx)]
      exact ⟨congrArg (m ++ ·) (ih s').1, (ih s').2⟩
    · rw [loopRun_leave hbx, loopRun_leave (hb ▸ hbx)]
      exact ⟨rfl, .returned a' hrest⟩
    · rw [loopRun_error hbx, loopRun_error (hb ▸ hbx)]
      exact ⟨rfl, .panicked p⟩

end Session

end Rust

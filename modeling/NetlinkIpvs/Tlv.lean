import Mathlib.Data.List.Basic
import Mathlib.Tactic.Ring
import NetlinkIpvs.Outcome

/-!
# Type–length–value frames

A frame is a header, a value and padding up to a multiple of the alignment unit. The
header's length field counts the header and the value, not the padding. `Format`
is such a format over an arbitrary type of bytes, with raw kinds `ρ` to write and
kinds `κ` to read (a reader may drop flag bits).

`Covers buf fs` says that `buf` is exactly the frames `fs`, one after the other, each
padded, except that the last one may lack padding. `frames` walks a buffer up to its
first malformed frame, and `complete` says it met none : `covers_iff` is that walk as
a decision procedure for `Covers`. `Broken` is its negation spelled out, whole frames
followed by bytes that are no frame (`complete_eq_false_iff`). `covers_encode` is the
round trip, that encoded frames are covered by what was encoded.

`Iterates` describes an iterator over the frames of a buffer that yields an error at
the first malformed one and then stops. Its items are `frames`, and an error unless
`complete` (`Iterates.items`). `readAll` collects what a reader makes of each item : it
is `Ok` iff the buffer is covered by frames the reader accepts, one entry for each
(`readAll_eq_ok`), and it panics iff the reader panics on a frame it gets to
(`readAll_panicked`).
-/

namespace Tlv

universe u v

/-- A frame without its framing. -/
structure Frame (α κ : Type u) where
  kind : κ
  value : List α
deriving DecidableEq, Repr

/-- A format of frames. `length` and `kind` read the header at the front of a buffer of
at least `header` bytes. -/
structure Format (α ρ κ : Type u) where
  /-- Bytes of a header. -/
  header : ℕ
  /-- Frames start at multiples of the unit. -/
  unit : ℕ
  /-- The length field holds the numbers below the limit. -/
  limit : ℕ
  /-- The padding byte. -/
  zero : α
  /-- The header of a frame of the given length and raw kind. -/
  put : ℕ → ρ → List α
  length : List α → ℕ
  kind : List α → κ
  /-- The kind a reader sees in a raw kind. -/
  strip : ρ → κ
  header_pos : 0 < header
  unit_pos : 0 < unit
  unit_dvd : unit ∣ header
  put_size : ∀ n r, (put n r).length = header
  length_put : ∀ n r, n < limit → length (put n r) = n
  kind_put : ∀ n r, kind (put n r) = strip r
  length_append : ∀ h rest, h.length = header → length (h ++ rest) = length h
  kind_append : ∀ h rest, h.length = header → kind (h ++ rest) = kind h

namespace Format

variable {α ρ κ : Type u} (F : Format α ρ κ)

/-! ## Alignment -/

/-- The least multiple of the unit from `n` on. -/
def align (n : ℕ) : ℕ :=
  (n + F.unit - 1) / F.unit * F.unit

/-- The padding after a value of `n` bytes. -/
def gap (n : ℕ) : ℕ :=
  F.align n - n

theorem le_align (n : ℕ) : n ≤ F.align n := by
  have hu := F.unit_pos
  have hm := Nat.mod_lt (n + F.unit - 1) hu
  have hd := Nat.div_add_mod (n + F.unit - 1) F.unit
  rw [align, Nat.mul_comm]
  omega

theorem add_gap (n : ℕ) : n + F.gap n = F.align n :=
  Nat.add_sub_cancel' (F.le_align n)

theorem gap_lt (n : ℕ) : F.gap n < F.unit := by
  have hu := F.unit_pos
  have hd := Nat.div_mul_le_self (n + F.unit - 1) F.unit
  rw [gap, align]
  omega

theorem align_mono {m n : ℕ} (h : m ≤ n) : F.align m ≤ F.align n := by
  refine Nat.mul_le_mul_right _ (Nat.div_le_div_right ?_)
  omega

theorem align_header_add (n : ℕ) : F.align (F.header + n) = F.header + F.align n := by
  obtain ⟨k, hk⟩ := F.unit_dvd
  have hu := F.unit_pos
  rw [align, align, hk, show F.unit * k + n + F.unit - 1 = n + F.unit - 1 + F.unit * k by omega,
    Nat.add_mul_div_left _ _ hu]
  ring

/-! ## Reading one frame -/

/-- A whole frame stands at the front of the buffer, padding aside. -/
def WellFormed (buf : List α) : Prop :=
  F.header ≤ buf.length ∧ F.header ≤ F.length buf ∧ F.length buf ≤ buf.length

instance (buf : List α) : Decidable (F.WellFormed buf) :=
  inferInstanceAs (Decidable (_ ∧ _))

/-- The bytes left are too few for a header, or the length field is below the header or
past the end. -/
def Malformed (buf : List α) : Prop :=
  buf ≠ [] ∧ (buf.length < F.header ∨ F.length buf < F.header ∨ buf.length < F.length buf)

theorem malformed_iff {buf : List α} : F.Malformed buf ↔ buf ≠ [] ∧ ¬F.WellFormed buf := by
  unfold Malformed WellFormed
  constructor <;> rintro ⟨hne, h⟩ <;> exact ⟨hne, by omega⟩

/-- The frame at the front of the buffer. -/
def front (buf : List α) : Frame α κ :=
  ⟨F.kind buf, (buf.drop F.header).take (F.length buf - F.header)⟩

/-- The buffer after the frame at its front. -/
def next (buf : List α) : List α :=
  buf.drop (F.align (F.length buf))

variable {F}

theorem WellFormed.ne_nil {buf : List α} (h : F.WellFormed buf) : buf ≠ [] := by
  rintro rfl
  have := F.header_pos
  simp [WellFormed] at h
  omega

theorem WellFormed.next_lt {buf : List α} (h : F.WellFormed buf) :
    (F.next buf).length < buf.length := by
  have := F.header_pos
  have := F.le_align (F.length buf)
  obtain ⟨h1, h2, -⟩ := h
  rw [next, List.length_drop]
  omega

/-- A buffer is empty, starts with a frame, or is malformed at its front. -/
theorem scan_induction {P : List α → Prop} (nil : P [])
    (frame : ∀ buf, F.WellFormed buf → P (F.next buf) → P buf)
    (stop : ∀ buf, F.Malformed buf → P buf) (buf : List α) : P buf := by
  by_cases hne : buf = []
  · rw [hne]
    exact nil
  · by_cases hw : F.WellFormed buf
    · exact frame buf hw (scan_induction nil frame stop (F.next buf))
    · exact stop buf (F.malformed_iff.2 ⟨hne, hw⟩)
termination_by buf.length
decreasing_by exact hw.next_lt

variable (F)

/-! ## Covering -/

/-- `buf` is exactly the frames `fs`, in order. A frame is followed by its padding, or is
the last and followed by part of it. -/
inductive Covers : List α → List (Frame α κ) → Prop
  | nil : Covers [] []
  | cons {h v p rest : List α} {fs : List (Frame α κ)} (hh : h.length = F.header)
      (hv : F.length h = F.header + v.length)
      (hp : p.length = F.gap v.length ∨ p.length ≤ F.gap v.length ∧ rest = [])
      (hr : Covers rest fs) : Covers (h ++ (v ++ (p ++ rest))) (⟨F.kind h, v⟩ :: fs)

/-- Whole frames with all their padding. -/
inductive Whole : List α → Prop
  | nil : Whole []
  | cons {h v p rest : List α} (hh : h.length = F.header)
      (hv : F.length h = F.header + v.length) (hp : p.length = F.gap v.length)
      (hr : Whole rest) : Whole (h ++ (v ++ (p ++ rest)))

/-- Whole frames, and then bytes that are no frame. -/
def Broken (buf : List α) : Prop :=
  ∃ pre bad, buf = pre ++ bad ∧ F.Whole pre ∧ F.Malformed bad

/-! ## Walking -/

/-- The frames from `skip` bytes on, up to the first malformed one, and whether there is
none. -/
def scanFrom : ℕ → List α → List (Frame α κ) × Bool
  | _, [] => ([], true)
  | skip + 1, _ :: buf => scanFrom skip buf
  | 0, a :: buf =>
    if F.WellFormed (a :: buf) then
      let r := scanFrom (F.align (F.length (a :: buf)) - 1) buf
      (F.front (a :: buf) :: r.1, r.2)
    else ([], false)

/-- The frames of a buffer, up to the first malformed one. -/
def frames (buf : List α) : List (Frame α κ) :=
  (F.scanFrom 0 buf).1

/-- No frame of the buffer is malformed. -/
def complete (buf : List α) : Bool :=
  (F.scanFrom 0 buf).2

theorem scanFrom_drop : ∀ (skip : ℕ) (buf : List α),
    F.scanFrom skip buf = F.scanFrom 0 (buf.drop skip)
  | 0, buf => by rw [List.drop_zero]
  | skip + 1, [] => by simp [scanFrom]
  | skip + 1, a :: buf => by rw [scanFrom, List.drop_succ_cons, scanFrom_drop skip buf]

variable {F}

theorem scanFrom_wellFormed {buf : List α} (h : F.WellFormed buf) :
    F.scanFrom 0 buf =
      (F.front buf :: (F.scanFrom 0 (F.next buf)).1, (F.scanFrom 0 (F.next buf)).2) := by
  cases buf with
  | nil => exact absurd rfl h.ne_nil
  | cons a buf =>
    have hpos : F.align (F.length (a :: buf)) = F.align (F.length (a :: buf)) - 1 + 1 := by
      have := F.header_pos
      have := F.le_align (F.length (a :: buf))
      have := h.2.1
      omega
    rw [scanFrom, if_pos h, next, hpos, List.drop_succ_cons, ← scanFrom_drop, ← hpos]

theorem scanFrom_malformed {buf : List α} (h : F.Malformed buf) :
    F.scanFrom 0 buf = ([], false) := by
  obtain ⟨hne, hw⟩ := F.malformed_iff.1 h
  cases buf with
  | nil => exact absurd rfl hne
  | cons a buf => rw [scanFrom, if_neg hw]

@[simp] theorem frames_nil : F.frames [] = [] := rfl

@[simp] theorem complete_nil : F.complete [] = true := rfl

theorem frames_wellFormed {buf : List α} (h : F.WellFormed buf) :
    F.frames buf = F.front buf :: F.frames (F.next buf) := by
  rw [frames, scanFrom_wellFormed h, frames]

theorem complete_wellFormed {buf : List α} (h : F.WellFormed buf) :
    F.complete buf = F.complete (F.next buf) := by
  rw [complete, scanFrom_wellFormed h, complete]

theorem frames_malformed {buf : List α} (h : F.Malformed buf) : F.frames buf = [] := by
  rw [frames, scanFrom_malformed h]

theorem complete_malformed {buf : List α} (h : F.Malformed buf) : F.complete buf = false := by
  rw [complete, scanFrom_malformed h]

/-! ## A frame at the front -/

section Front

variable {h v : List α} (hh : h.length = F.header) (hv : F.length h = F.header + v.length)

include hh hv

theorem wellFormed_append (tail : List α) : F.WellFormed (h ++ (v ++ tail)) := by
  refine ⟨?_, ?_, ?_⟩
  · simp [hh]
  · rw [F.length_append h _ hh, hv]
    omega
  · rw [F.length_append h _ hh, hv]
    simp only [List.length_append, hh]
    omega

theorem front_append (tail : List α) : F.front (h ++ (v ++ tail)) = ⟨F.kind h, v⟩ := by
  rw [front, F.kind_append h _ hh, F.length_append h _ hh, hv, List.drop_left' hh,
    Nat.add_sub_cancel_left, List.take_left' rfl]

theorem next_append (tail : List α) : F.next (h ++ (v ++ tail)) = tail.drop (F.gap v.length) := by
  rw [next, F.length_append h _ hh, hv, align_header_add, ← add_gap, ← List.drop_drop,
    List.drop_left' hh, ← List.drop_drop, List.drop_left' rfl]

theorem next_padded {p : List α} (hp : p.length = F.gap v.length) (rest : List α) :
    F.next (h ++ (v ++ (p ++ rest))) = rest := by
  rw [next_append hh hv, List.drop_left' hp]

theorem next_last {p : List α} (hp : p.length ≤ F.gap v.length) :
    F.next (h ++ (v ++ p)) = [] := by
  rw [next_append hh hv, List.drop_eq_nil_of_le hp]

end Front

/-- A well-formed buffer, taken apart into its first frame and what follows. -/
theorem WellFormed.split {buf : List α} (hw : F.WellFormed buf) :
    ∃ h v p, buf = h ++ (v ++ (p ++ F.next buf)) ∧ h.length = F.header ∧
      F.length h = F.header + v.length ∧
      (p.length = F.gap v.length ∨ p.length ≤ F.gap v.length ∧ F.next buf = []) ∧
      F.front buf = ⟨F.kind h, v⟩ := by
  obtain ⟨h1, h2, h3⟩ := hw
  have hh : (buf.take F.header).length = F.header := by simpa using h1
  obtain ⟨tail, htail⟩ : ∃ tail, tail = buf.drop F.header := ⟨_, rfl⟩
  have hbuf : buf = buf.take F.header ++ tail := by rw [htail, List.take_append_drop]
  have hlen : F.length (buf.take F.header) = F.length buf := by
    rw [← F.length_append _ tail hh, ← hbuf]
  have htl : buf.length = F.header + tail.length := by
    conv_lhs => rw [hbuf]
    rw [List.length_append, hh]
  obtain ⟨v, hvdef⟩ : ∃ v, v = tail.take (F.length buf - F.header) := ⟨_, rfl⟩
  obtain ⟨t, htdef⟩ : ∃ t, t = tail.drop (F.length buf - F.header) := ⟨_, rfl⟩
  have hvt : tail = v ++ t := by rw [hvdef, htdef, List.take_append_drop]
  have hvl : v.length = F.length buf - F.header := by
    rw [hvdef, List.length_take]
    omega
  have hv : F.length (buf.take F.header) = F.header + v.length := by omega
  have hfull : buf = buf.take F.header ++ (v ++ t) := by rw [← hvt, ← hbuf]
  have hnext : F.next buf = t.drop (F.gap v.length) := by
    conv_lhs => rw [hfull]
    exact next_append hh hv t
  have hfront : F.front buf = ⟨F.kind (buf.take F.header), v⟩ := by
    conv_lhs => rw [hfull]
    exact front_append hh hv t
  refine ⟨buf.take F.header, v, t.take (F.gap v.length), ?_, hh, hv, ?_, hfront⟩
  · rw [hnext, List.take_append_drop, ← hfull]
  · rw [hnext, List.length_take, List.drop_eq_nil_iff]
    omega

/-! ## The walk decides covering -/

/-- A covered buffer is complete, and its frames are those that cover it. -/
theorem Covers.walk {buf : List α} {fs : List (Frame α κ)} (hc : F.Covers buf fs) :
    F.complete buf = true ∧ F.frames buf = fs := by
  induction hc with
  | nil => exact ⟨rfl, rfl⟩
  | @cons h v p rest fs hh hv hp hr ih =>
    have hw := wellFormed_append hh hv (p ++ rest)
    have hn : F.next (h ++ (v ++ (p ++ rest))) = rest := by
      rcases hp with hp | ⟨hp, rfl⟩
      · exact next_padded hh hv hp rest
      · rw [List.append_nil]
        exact next_last hh hv hp
    rw [complete_wellFormed hw, frames_wellFormed hw, hn, front_append hh hv, ih.2]
    exact ⟨ih.1, rfl⟩

/-- A complete buffer is covered by its frames. -/
theorem covers_frames {buf : List α} (hc : F.complete buf = true) :
    F.Covers buf (F.frames buf) := by
  induction buf using scan_induction (F := F) with
  | nil => exact .nil
  | frame buf hw ih =>
    rw [complete_wellFormed hw] at hc
    obtain ⟨h, v, p, hbuf, hh, hv, hp, hfront⟩ := hw.split
    rw [frames_wellFormed hw, hfront]
    have := Covers.cons hh hv hp (ih hc)
    rwa [← hbuf] at this
  | stop buf hm => simp [complete_malformed hm] at hc

theorem covers_iff {buf : List α} {fs : List (Frame α κ)} :
    F.Covers buf fs ↔ F.complete buf = true ∧ F.frames buf = fs := by
  refine ⟨Covers.walk, ?_⟩
  rintro ⟨hc, rfl⟩
  exact covers_frames hc

/-- Covering frames, with all their padding, take the buffer and less than a unit more. -/
theorem Covers.sum_lt {buf : List α} {fs : List (Frame α κ)} (hc : F.Covers buf fs) :
    (fs.map fun f => F.header + F.align f.value.length).sum < buf.length + F.unit := by
  induction hc with
  | nil => simpa using F.unit_pos
  | @cons h v p rest fs hh hv hp hr ih =>
    have hgap := F.gap_lt v.length
    have hadd := F.add_gap v.length
    simp only [List.map_cons, List.sum_cons, List.length_append, hh]
    rcases hp with hp | ⟨hp, rfl⟩
    · omega
    · obtain rfl : fs = [] := (covers_iff.1 hr).2.symm
      simp only [List.map_nil, List.sum_nil, List.length_nil]
      omega

/-- A covering frame is in the buffer. -/
theorem Covers.length_le {buf : List α} {fs : List (Frame α κ)} (hc : F.Covers buf fs) :
    ∀ f ∈ fs, F.header + f.value.length ≤ buf.length := by
  induction hc with
  | nil => simp
  | @cons h v p rest fs hh hv hp hr ih =>
    intro f hf
    simp only [List.length_append, hh]
    rcases List.mem_cons.1 hf with rfl | hf
    · exact Nat.add_le_add_left (Nat.le_add_right _ _) _
    · have := ih f hf
      omega

theorem complete_append {pre : List α} (hw : F.Whole pre) (rest : List α) :
    F.complete (pre ++ rest) = F.complete rest := by
  induction hw with
  | nil => rfl
  | @cons h v p pre hh hv hp hr ih =>
    have hwf := wellFormed_append hh hv (p ++ (pre ++ rest))
    rw [List.append_assoc, List.append_assoc, List.append_assoc, complete_wellFormed hwf,
      next_padded hh hv hp, ih]

/-- A buffer is not complete iff it is whole frames and then bytes that are no frame. -/
theorem complete_eq_false_iff {buf : List α} : F.complete buf = false ↔ F.Broken buf := by
  constructor
  · intro hc
    induction buf using scan_induction (F := F) with
    | nil => simp at hc
    | frame buf hw ih =>
      rw [complete_wellFormed hw] at hc
      obtain ⟨pre, bad, hnext, hpre, hbad⟩ := ih hc
      obtain ⟨h, v, p, hbuf, hh, hv, hp, -⟩ := hw.split
      have hpad : p.length = F.gap v.length := by
        rcases hp with hp | ⟨-, hnil⟩
        · exact hp
        · rw [hnil] at hnext
          exact absurd (List.append_eq_nil_iff.1 hnext.symm).2 hbad.1
      refine ⟨h ++ (v ++ (p ++ pre)), bad, ?_, .cons hh hv hpad hpre, hbad⟩
      conv_lhs => rw [hbuf, hnext]
      simp only [List.append_assoc]
    | stop buf hm => exact ⟨[], buf, rfl, .nil, hm⟩
  · rintro ⟨pre, bad, rfl, hpre, hbad⟩
    rw [complete_append hpre, complete_malformed hbad]

/-! ## Encoding -/

variable (F) in
/-- The frame of a raw kind and a value, with its padding. -/
def frame (r : ρ) (v : List α) : List α :=
  F.put (F.header + v.length) r ++ (v ++ List.replicate (F.gap v.length) F.zero)

theorem length_frame (r : ρ) (v : List α) :
    (F.frame r v).length = F.header + F.align v.length := by
  rw [frame, List.length_append, List.length_append, F.put_size, List.length_replicate, add_gap]

theorem wellFormed_frame (r : ρ) {v : List α} (hv : F.header + v.length < F.limit) :
    F.WellFormed (F.frame r v) :=
  wellFormed_append (F.put_size _ r) (F.length_put _ r hv) _

/-- The frame read from a written one. -/
theorem front_frame (r : ρ) {v : List α} (hv : F.header + v.length < F.limit) :
    F.front (F.frame r v) = ⟨F.strip r, v⟩ := by
  rw [frame, front_append (F.put_size _ r) (F.length_put _ r hv), F.kind_put]

variable (F) in
/-- The frames of a list of raw kinds and values, one after the other. -/
def encode (l : List (ρ × List α)) : List α :=
  l.flatMap fun x => F.frame x.1 x.2

@[simp] theorem encode_nil : F.encode [] = [] := rfl

@[simp] theorem encode_cons (x : ρ × List α) (l : List (ρ × List α)) :
    F.encode (x :: l) = F.frame x.1 x.2 ++ F.encode l := rfl

theorem length_encode : ∀ l : List (ρ × List α),
    (F.encode l).length = (l.map fun x => F.header + F.align x.2.length).sum
  | [] => rfl
  | x :: l => by
    rw [encode_cons, List.length_append, length_frame, length_encode l, List.map_cons,
      List.sum_cons]

/-- Encoded frames are covered by what was encoded. -/
theorem covers_encode : ∀ l : List (ρ × List α), (∀ x ∈ l, F.header + x.2.length < F.limit) →
    F.Covers (F.encode l) (l.map fun x => ⟨F.strip x.1, x.2⟩)
  | [], _ => .nil
  | (r, v) :: l, hl => by
    have hlt : F.header + v.length < F.limit := hl (r, v) (by simp)
    have hr := covers_encode l fun x hx => hl x (by simp [hx])
    have hc := Covers.cons (F.put_size _ r) (F.length_put _ r hlt)
      (Or.inl (List.length_replicate (n := F.gap v.length) (a := F.zero))) hr
    rw [F.kind_put] at hc
    simpa [frame] using hc

theorem frame_inj {r : ρ} {v w : List α} (hv : F.header + v.length < F.limit)
    (hw : F.header + w.length < F.limit) : F.frame r v = F.frame r w ↔ v = w := by
  refine ⟨fun h => ?_, congrArg _⟩
  have hfront := front_frame r hv
  rw [h, front_frame r hw] at hfront
  exact (congrArg Frame.value hfront).symm

/-- Frames are encoded alike iff they have the same kinds, to a reader, and values. -/
theorem encode_inj_of_strip {l m : List (ρ × List α)}
    (hl : ∀ x ∈ l, F.header + x.2.length < F.limit) (hm : ∀ x ∈ m, F.header + x.2.length < F.limit)
    (h : F.encode l = F.encode m) :
    (l.map fun x => (⟨F.strip x.1, x.2⟩ : Frame α κ)) = m.map fun x => ⟨F.strip x.1, x.2⟩ := by
  rw [← (covers_encode l hl).walk.2, ← (covers_encode m hm).walk.2, h]

/-! ## Iterators -/

variable (F) in
/-- An iterator that yields one item for each frame, and at the first malformed frame an
error, after which it stops. -/
structure Iterates {ε : Type v} (items : List α → List (Except ε (Frame α κ))) : Prop where
  nil : items [] = []
  frame : ∀ buf, F.WellFormed buf → items buf = .ok (F.front buf) :: items (F.next buf)
  stop : ∀ buf, F.Malformed buf → ∃ e, items buf = [.error e]

/-- The items are the frames of the buffer, and an error iff it is not complete. -/
theorem Iterates.items {ε : Type v} {it : List α → List (Except ε (Frame α κ))}
    (hi : F.Iterates it) (buf : List α) :
    F.complete buf = true ∧ it buf = (F.frames buf).map .ok ∨
      F.complete buf = false ∧ ∃ e, it buf = (F.frames buf).map .ok ++ [.error e] := by
  induction buf using scan_induction (F := F) with
  | nil => exact Or.inl ⟨rfl, by rw [hi.nil, frames_nil, List.map_nil]⟩
  | frame buf hw ih =>
    rw [complete_wellFormed hw, frames_wellFormed hw, hi.frame buf hw]
    rcases ih with ⟨hc, ih⟩ | ⟨hc, e, ih⟩
    · exact Or.inl ⟨hc, by rw [ih, List.map_cons]⟩
    · exact Or.inr ⟨hc, e, by rw [ih, List.map_cons, List.cons_append]⟩
  | stop buf hm =>
    obtain ⟨e, he⟩ := hi.stop buf hm
    exact Or.inr ⟨complete_malformed hm, e, by rw [he, frames_malformed hm]; rfl⟩

/-- The items of whole frames are followed by those of what comes after. -/
theorem Iterates.append {ε : Type v} {it : List α → List (Except ε (Frame α κ))}
    (hi : F.Iterates it) {pre : List α} (hw : F.Whole pre) (rest : List α) :
    it (pre ++ rest) = it pre ++ it rest := by
  induction hw with
  | nil => rw [hi.nil, List.nil_append, List.nil_append]
  | @cons h v p pre hh hv hp hr ih =>
    have hwf := fun tail => wellFormed_append hh hv (p ++ tail)
    simp only [List.append_assoc]
    rw [hi.frame _ (hwf _), hi.frame _ (hwf _), next_padded hh hv hp, next_padded hh hv hp, ih,
      front_append hh hv, front_append hh hv, List.cons_append]

open Rust Rust.Outcome

/-- Read each item of an iterator over frames, up to the first fault. -/
def readAll {ε : Type v} {β : Type u} (read : Frame α κ → Outcome ε β)
    (items : List (Except ε (Frame α κ))) : Outcome ε (List β) :=
  collect (fun item => ofExcept item >>= read) items

section ReadAll

variable {ε : Type v} {β : Type u} {read : Frame α κ → Outcome ε β}

theorem readAll_map_ok (read : Frame α κ → Outcome ε β) :
    ∀ fs : List (Frame α κ), readAll read (fs.map .ok) = collect read fs
  | [] => rfl
  | f :: fs => by
    have ih := readAll_map_ok read fs
    simp only [readAll] at ih
    simp only [readAll, List.map_cons, collect, ofExcept_ok, ok_bind, ih]

theorem readAll_error_fault (read : Frame α κ → Outcome ε β) (e : ε) {t : ε ⊕ Panic} :
    ∀ fs : List (Frame α κ), (readAll read (fs.map .ok ++ [.error e])).fault = some t ↔
      (collect read fs).fault = some t ∨ (∃ as, collect read fs = ok as) ∧ t = .inl e
  | [] => by simp [readAll, collect, eq_comm]
  | f :: fs => by
    have ih := readAll_error_fault read e (t := t) fs
    simp only [readAll] at ih
    simp only [readAll, List.map_cons, List.cons_append, collect, ofExcept_ok, ok_bind]
    cases hf : read f with
    | err e => simp
    | panic p => simp
    | ok a =>
      simp only [ok_bind, pure_eq, bind_fault, fault_ok, reduceCtorEq, and_false, exists_false,
        or_false, ih, bind_eq_ok]
      constructor
      · rintro (h | ⟨⟨as, h⟩, ht⟩)
        · exact Or.inl h
        · exact Or.inr ⟨⟨_, as, h, rfl⟩, ht⟩
      · rintro (h | ⟨⟨-, as, h, -⟩, ht⟩)
        · exact Or.inl h
        · exact Or.inr ⟨⟨as, h⟩, ht⟩

variable {it : List α → List (Except ε (Frame α κ))} (hi : F.Iterates it) {buf : List α}

include hi

/-- Reading is `Ok` iff the buffer is complete and the reader accepts each frame, one
entry for each frame, in order. -/
theorem readAll_eq_ok {bs : List β} : readAll read (it buf) = ok bs ↔
    F.complete buf = true ∧ List.Forall₂ (fun f b => read f = ok b) (F.frames buf) bs := by
  rcases hi.items buf with ⟨hc, hit⟩ | ⟨hc, e, hit⟩
  · rw [hit, readAll_map_ok, collect_eq_ok, hc]
    simp
  · rw [hit, hc]
    simp only [Bool.false_eq_true, false_and, iff_false]
    intro h
    have hf := readAll_error_fault read e (t := .inl e) (F.frames buf)
    rw [h] at hf
    cases hcol : collect read (F.frames buf) with
    | ok as => simp [hcol] at hf
    | err e' =>
      have := (readAll_error_fault read e (t := .inl e') (F.frames buf)).2 (by simp [hcol])
      simp [h] at this
    | panic p =>
      have := (readAll_error_fault read e (t := .inr p) (F.frames buf)).2 (by simp [hcol])
      simp [h] at this

/-- Reading is `Ok` for some result iff the buffer is complete and the reader accepts each
frame. -/
theorem exists_readAll_iff : (∃ bs, readAll read (it buf) = ok bs) ↔
    F.complete buf = true ∧ ∀ f ∈ F.frames buf, ∃ b, read f = ok b := by
  simp only [readAll_eq_ok hi, exists_and_left, Outcome.exists_forall₂]

/-- Reading panics iff the reader panics on a frame and accepts those before it. -/
theorem readAll_panicked : (readAll read (it buf)).Panicked ↔
    ∃ pre f post, F.frames buf = pre ++ f :: post ∧ (∀ x ∈ pre, ∃ b, read x = ok b) ∧
      (read f).Panicked := by
  rw [← collect_panicked]
  rcases hi.items buf with ⟨-, hit⟩ | ⟨-, e, hit⟩
  · rw [hit, readAll_map_ok]
  · simp [hit, Outcome.Panicked, readAll_error_fault]

/-- If it is known which frames the reader accepts and on which it panics, it is known
when reading returns `Ok` and when it panics. -/
theorem readAll_settles {good bad : Frame α κ → Prop}
    (h : ∀ f, (read f).Settles (good f) (bad f)) (buf : List α) :
    (readAll read (it buf)).Settles (F.complete buf = true ∧ ∀ f ∈ F.frames buf, good f)
      (Reaches good bad (F.frames buf)) := by
  refine ⟨?_, ?_⟩
  · simp only [exists_readAll_iff hi, (h _).ok_iff]
  · simp only [readAll_panicked hi, (h _).ok_iff, (h _).panicked_iff, Reaches]

theorem readAll_complete (hc : F.complete buf = true) :
    readAll read (it buf) = collect read (F.frames buf) := by
  rcases hi.items buf with ⟨-, hit⟩ | ⟨hc', -⟩
  · rw [hit, readAll_map_ok]
  · rw [hc] at hc'
    cases hc'

/-- Encoded frames are read one after the other. -/
theorem readAll_encode {l : List (ρ × List α)}
    (hl : ∀ x ∈ l, F.header + x.2.length < F.limit) :
    readAll read (it (F.encode l)) = collect (fun x => read ⟨F.strip x.1, x.2⟩) l := by
  obtain ⟨hc, hfs⟩ := (covers_encode l hl).walk
  rw [readAll_complete hi hc, hfs, collect_map]

/-- Whole frames are read before what comes after them. -/
theorem readAll_append {pre : List α} (hw : F.Whole pre) (rest : List α) :
    readAll read (it (pre ++ rest)) = do
      let bs ← readAll read (it pre)
      let bs' ← readAll read (it rest)
      return bs ++ bs' := by
  rw [hi.append hw, readAll, collect_append]
  rfl

end ReadAll

/-! ## Buffers that read alike -/

variable (F) in
/-- Frames of the same kinds, with values that are related as the kind asks, and then equal
bytes. What else is in the headers, and the padding, is free. -/
inductive Resembles (r : κ → List α → List α → Prop) : List α → List α → Prop
  | rest (buf : List α) : Resembles r buf buf
  | frame {buf buf' : List α} (hw : F.WellFormed buf) (hw' : F.WellFormed buf')
      (hk : F.kind buf = F.kind buf')
      (hv : r (F.kind buf) (F.front buf).value (F.front buf').value)
      (hr : Resembles r (F.next buf) (F.next buf')) : Resembles r buf buf'

/-- A reader that does not tell related values apart does not tell such buffers apart. -/
theorem Resembles.readAll_eq {ε : Type v} {β : Type u} {read : Frame α κ → Outcome ε β}
    {it : List α → List (Except ε (Frame α κ))} (hi : F.Iterates it)
    {r : κ → List α → List α → Prop}
    (hread : ∀ k v v', r k v v' → read ⟨k, v⟩ = read ⟨k, v'⟩) {buf buf' : List α}
    (h : F.Resembles r buf buf') : readAll read (it buf) = readAll read (it buf') := by
  induction h with
  | rest buf => rfl
  | @frame buf buf' hw hw' hk hv hr ih =>
    have hfront : read (F.front buf) = read (F.front buf') := by
      have := hread _ _ _ hv
      rwa [show F.front buf' = ⟨F.kind buf, (F.front buf').value⟩ by rw [hk]; rfl]
    rw [hi.frame _ hw, hi.frame _ hw']
    simp only [readAll] at ih
    simp only [readAll, collect, ofExcept_ok, ok_bind, hfront, ih]

end Format

end Tlv

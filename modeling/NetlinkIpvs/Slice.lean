import NetlinkIpvs.Outcome

/-!
# Writing to slices

A `&mut [T]` argument is a function from the old contents to the new. Indexing outside
the slice panics. `onRange` is a call on the subslice `buf[start..stop]`, and on a
buffer cut at the ends of the range it acts on the middle part and leaves the rest
alone (`onRange_append`).
-/

namespace Rust.Slice

universe u

variable {α : Type u}

/-- `f(&mut buf[start..stop])`. -/
def onRange (buf : List α) (start stop : ℕ) (f : List α → Panics (List α)) : Panics (List α) :=
  if start ≤ stop ∧ stop ≤ buf.length then do
    let mid ← f ((buf.drop start).take (stop - start))
    return buf.take start ++ (mid ++ buf.drop stop)
  else .error .outOfBounds

/-- `buf[start..stop].fill(a)`. -/
def fill (buf : List α) (start stop : ℕ) (a : α) : Panics (List α) :=
  onRange buf start stop fun mid => .ok (List.replicate mid.length a)

/-- `buf[i] = a`. -/
def assign (buf : List α) (i : ℕ) (a : α) : Panics (List α) :=
  if i < buf.length then .ok (buf.set i a) else .error .outOfBounds

/-- `buf.copy_from_slice(src)`. -/
def copyFromSlice (src buf : List α) : Panics (List α) :=
  if buf.length = src.length then .ok src else .error .sizeMismatch

/-- `buf[i]`. -/
def index (buf : List α) (i : ℕ) : Panics α :=
  match buf[i]? with
  | some a => .ok a
  | none => .error .outOfBounds

/-- A call on the middle part of a buffer. -/
theorem onRange_append (pre mid post : List α) (f : List α → Panics (List α)) :
    onRange (pre ++ (mid ++ post)) pre.length (pre.length + mid.length) f =
      f mid >>= fun mid' => .ok (pre ++ (mid' ++ post)) := by
  have h1 : pre.length ≤ pre.length + mid.length ∧
      pre.length + mid.length ≤ (pre ++ (mid ++ post)).length := by
    simp only [List.length_append]
    omega
  rw [onRange, if_pos h1, List.drop_left' rfl, Nat.add_sub_cancel_left, List.take_left' rfl,
    List.take_left' rfl, ← List.drop_drop, List.drop_left' rfl, List.drop_left' rfl]
  rfl

/-- Filling the middle part of a buffer. -/
theorem fill_append (pre mid post : List α) (a : α) :
    fill (pre ++ (mid ++ post)) pre.length (pre.length + mid.length) a =
      .ok (pre ++ (List.replicate mid.length a ++ post)) :=
  onRange_append pre mid post _

/-- Assigning the first element of the rest of a buffer. -/
theorem assign_append (pre post : List α) (b a : α) :
    assign (pre ++ b :: post) pre.length a = .ok (pre ++ a :: post) := by
  rw [assign, if_pos (by simp), List.set_append_right _ _ (Nat.le_refl _), Nat.sub_self,
    List.set_cons_zero]

end Rust.Slice

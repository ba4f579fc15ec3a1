import Mathlib.Data.List.Basic

/-!
# Slices of a concatenation

`slice start stop xs` is the part of a list between two positions.  A slice of
parts put together is the parts' own slices put together, each with the
positions counted from where the part begins.
-/

namespace Slices

variable {α : Type}

def slice (start stop : Nat) (xs : List α) : List α := (xs.take stop).drop start

theorem length_slice (start stop : Nat) (xs : List α) :
    (slice start stop xs).length = min stop xs.length - start := by
  simp [slice]

theorem slice_eq_nil {start stop : Nat} {xs : List α}
    (outside : min stop xs.length ≤ start) : slice start stop xs = [] := by
  apply List.eq_nil_of_length_eq_zero
  rw [length_slice]
  omega

/-- A stop past the end is the end. -/
theorem slice_min (start stop : Nat) (xs : List α) :
    slice start (min stop xs.length) xs = slice start stop xs := by
  unfold slice
  rcases Nat.le_total stop xs.length with short | long
  · rw [Nat.min_eq_left short]
  · rw [Nat.min_eq_right long, List.take_length,
      List.take_of_length_le long]

theorem slice_append (start stop : Nat) (xs ys : List α) :
    slice start stop (xs ++ ys) =
      slice start stop xs ++ slice (start - xs.length) (stop - xs.length) ys := by
  unfold slice
  rw [List.take_append, List.drop_append, List.length_take]
  rcases Nat.le_total xs.length stop with covered | cut
  · rw [Nat.min_eq_right covered]
  · have nothing : stop - xs.length = 0 := by omega
    simp [nothing]

/-- The slices of parts that lie one after another from `base` on. -/
def pieces (start stop : Nat) : Nat → List (List α) → List (List α)
  | _, [] => []
  | base, part :: rest =>
      slice (start - base) (stop - base) part ::
        pieces start stop (base + part.length) rest

theorem flatten_pieces (start stop base : Nat) (parts : List (List α)) :
    (pieces start stop base parts).flatten =
      slice (start - base) (stop - base) parts.flatten := by
  induction parts generalizing base with
  | nil => simp [pieces, slice]
  | cons part rest ih =>
      rw [pieces, List.flatten_cons, ih, List.flatten_cons, slice_append,
        Nat.sub_sub, Nat.sub_sub]

end Slices

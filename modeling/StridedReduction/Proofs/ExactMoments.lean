import Mathlib.Algebra.Order.BigOperators.Group.List
import Mathlib.Algebra.Order.Field.Rat
import Mathlib.Tactic.FieldSimp
import Mathlib.Tactic.LinearCombination
import Mathlib.Tactic.Positivity
import Mathlib.Tactic.Ring
import StridedReduction.Proofs.LaneMoments

/-!
# Moments in exact arithmetic

Over the rational numbers the one pass over the elements finds what two passes would: after every
step the mean of the elements met so far and the sum of their squared distances from it.  What a new
element adds to that sum is found by moving the centre of the distances from the old mean to the new
one (`sum_sq_sub`), and the product of the distances from both means is just that (`Tracks.push`).
-/

namespace StridedReduction

/-- The arithmetic mean of rational numbers; without any it is zero. -/
def average (xs : List ℚ) : ℚ :=
  xs.sum / xs.length

/-- The sum of the squared distances of rational numbers from their mean. -/
def spread (xs : List ℚ) : ℚ :=
  (xs.map fun x => (x - average xs) ^ 2).sum

section Spread

variable (xs : List ℚ)

theorem length_mul_average : xs.length * average xs = xs.sum := by
  cases xs with
  | nil => simp
  | cons x xs =>
    have counted : ((x :: xs).length : ℚ) ≠ 0 := Nat.cast_ne_zero.mpr (Nat.succ_ne_zero _)
    rw [average, mul_div_cancel₀ _ counted]

private theorem sum_sq_sub_expanded (centre : ℚ) :
    (xs.map fun x => (x - centre) ^ 2).sum =
      (xs.map (· ^ 2)).sum - 2 * centre * xs.sum + xs.length * centre ^ 2 := by
  induction xs with
  | nil => simp
  | cons x xs induction =>
    simp only [List.map_cons, List.sum_cons, List.length_cons, induction]
    push_cast
    ring

/-- Distances from any centre exceed those from the mean by the distance between the two. -/
theorem sum_sq_sub (centre : ℚ) :
    (xs.map fun x => (x - centre) ^ 2).sum =
      spread xs + xs.length * (average xs - centre) ^ 2 := by
  have total := length_mul_average xs
  rw [spread, sum_sq_sub_expanded xs centre, sum_sq_sub_expanded xs (average xs)]
  linear_combination 2 * (centre - average xs) * total

theorem average_append_singleton (x : ℚ) :
    average (xs ++ [x]) = average xs + (x - average xs) / (xs.length + 1) := by
  have counted : (xs.length : ℚ) + 1 ≠ 0 := by positivity
  have total := length_mul_average xs
  rw [average, List.sum_append, List.sum_singleton, List.length_append, List.length_singleton]
  push_cast
  field_simp
  linear_combination -total

theorem spread_append_singleton (x : ℚ) :
    spread (xs ++ [x]) = (x - average (xs ++ [x])) * (x - average xs) + spread xs := by
  have counted : (xs.length : ℚ) + 1 ≠ 0 := by positivity
  have split : spread (xs ++ [x]) =
      spread xs + xs.length * (average xs - average (xs ++ [x])) ^ 2 +
        (x - average (xs ++ [x])) ^ 2 := by
    rw [spread, List.map_append, List.sum_append, sum_sq_sub, List.map_singleton,
      List.sum_singleton]
  rw [split, average_append_singleton]
  field_simp
  ring

variable {xs}

end Spread

namespace Moments

/-- The moments are those of the rational numbers met so far. -/
structure Tracks (m : Moments ℚ) (xs : List ℚ) : Prop where
  count_eq : m.count = xs.length
  mean_eq : m.mean = average xs
  squares_eq : m.squares = spread xs

theorem Tracks.push {m : Moments ℚ} {xs : List ℚ} (tracks : m.Tracks xs) (x : ℚ) :
    (m.push x).Tracks (xs ++ [x]) := by
  obtain ⟨count_eq, mean_eq, squares_eq⟩ := tracks
  have mean_next : (m.push x).mean = average (xs ++ [x]) := by
    rw [average_append_singleton, ← mean_eq, ← count_eq]
    simp [Moments.push]
  constructor
  case count_eq => simp [Moments.push, count_eq]
  case mean_eq => exact mean_next
  case squares_eq =>
    change (x - (m.push x).mean) * (x - m.mean) + m.squares = _
    rw [mean_next, mean_eq, squares_eq, spread_append_singleton]

end Moments

namespace Strided

end Strided

end StridedReduction

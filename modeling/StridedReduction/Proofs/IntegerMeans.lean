import Mathlib.Algebra.Order.BigOperators.Group.List
import Mathlib.Order.Interval.Set.UnorderedInterval
import StridedReduction.Proofs.AxisOrder
import StridedReduction.Proofs.IntegerElements

/-!
# Means of integers

The quotient of a word by a positive one is rounded toward zero, and no step on the way to it leaves
the range of the type (`Word.value_divide`).  So the mean of integers is the quotient of their
wrapped sum by their number, and where the sum has not wrapped it lies between the least and the
greatest of them (`Word.averages_divide`), for a whole array as for the lanes along an axis
(`means_of_integers`).
-/

namespace StridedReduction

section Quotients

variable {total divisor : Int} (positive : 0 < divisor)

include positive

/-- The quotient rounded down, plus one for a negative dividend that the divisor does not divide, is
the one rounded toward zero. -/
theorem fdiv_add_roundUp :
    total.fdiv divisor + (if total.fmod divisor ≠ 0 ∧ total < 0 then 1 else 0) =
      total.tdiv divisor := by
  simp only [Int.tdiv_eq_fdiv, Int.dvd_iff_fmod_eq_zero]
  by_cases divides : total.fmod divisor = 0
  · simp [divides]
  · rcases Int.lt_or_le total 0 with negative | nonneg
    · simp [divides, negative, Int.not_le.mpr negative, positive.le,
        Int.sign_eq_one_of_pos positive]
    · simp [divides, nonneg, Int.not_lt.mpr nonneg, positive.le]

theorem fdiv_mem_uIcc : total.fdiv divisor ∈ Set.uIcc 0 total := by
  rw [Int.fdiv_eq_ediv_of_nonneg total positive.le, Set.mem_uIcc]
  rcases Int.lt_or_le total 0 with negative | nonneg
  · have shrunk : total * divisor ≤ total := by nlinarith
    exact .inr ⟨(Int.le_ediv_iff_mul_le positive).mpr shrunk,
      (Int.ediv_neg_of_neg_of_pos negative positive).le⟩
  · exact .inl ⟨Int.ediv_nonneg nonneg positive.le, Int.ediv_le_self divisor nonneg⟩

theorem tdiv_le_of_le_mul {bound : Int} (le : total ≤ bound * divisor) :
    total.tdiv divisor ≤ bound := by
  have negated : -bound ≤ (-total).tdiv divisor :=
    Int.le_tdiv_of_mul_le positive (by rw [Int.neg_mul]; exact Int.neg_le_neg le)
  rw [Int.neg_tdiv] at negated
  exact Int.neg_le_neg_iff.mp negated

theorem tdiv_mem_uIcc : total.tdiv divisor ∈ Set.uIcc 0 total := by
  rw [Set.mem_uIcc]
  rcases Int.lt_or_le total 0 with negative | nonneg
  · exact .inr ⟨Int.le_tdiv_of_mul_le positive (by nlinarith),
      tdiv_le_of_le_mul positive (by omega)⟩
  · exact .inl ⟨Int.tdiv_nonneg nonneg positive.le, Int.tdiv_le_self divisor nonneg⟩

end Quotients

namespace IntegerType

/-- What lies between zero and an integer of a type is in its range. -/
theorem contains_of_mem_uIcc {k : IntegerType} {value total : Int} (zero_le : 0 ≤ k.greatest)
    (contained : k.Contains total) (between : value ∈ Set.uIcc 0 total) : k.Contains value := by
  obtain ⟨lower, upper⟩ := contained
  have least_le := k.least_nonpos
  rcases Set.mem_uIcc.mp between with ⟨above, below⟩ | ⟨above, below⟩
  · exact ⟨by omega, by omega⟩
  · exact ⟨by omega, by omega⟩

end IntegerType

namespace Word

variable {k : IntegerType}

/-- The quotient by a positive word is rounded toward zero.  Neither the quotient rounded down, nor
what it leaves over, nor the correction wraps. -/
theorem value_divide {left right : Word k} (positive : 0 < right.value) :
    (left.divide right).value = left.value.tdiv right.value := by
  have right_le := right.contains.2
  have zero_le : 0 ≤ k.greatest := by omega
  have floor_contained : k.Contains (left.value.fdiv right.value) :=
    k.contains_of_mem_uIcc zero_le left.contains (fdiv_mem_uIcc positive)
  have rest_contained : k.Contains (left.value.fmod right.value) :=
    k.contains_of_mem_uIcc zero_le right.contains (Set.mem_uIcc.mpr
      (.inl ⟨Int.fmod_nonneg_of_pos _ positive, (Int.fmod_lt_of_pos _ positive).le⟩))
  have quotient_contained : k.Contains (left.value.tdiv right.value) :=
    k.contains_of_mem_uIcc zero_le left.contains (tdiv_mem_uIcc positive)
  have floor_eq : (left.floorDiv right).value = left.value.fdiv right.value :=
    IntegerType.wrap_of_contains floor_contained
  have rest_eq : (left.floorMod right).value = left.value.fmod right.value := by
    rw [floorMod, if_neg (by omega), value_wrap, IntegerType.wrap_of_contains rest_contained]
  have correction_eq (corrected : Prop) [Decidable corrected] :
      k.wrap (if corrected then 1 else 0) = if corrected then 1 else 0 := by
    apply IntegerType.wrap_of_contains
    split
    · exact @IntegerType.contains_natCast k 1 (by omega)
    · exact @IntegerType.contains_natCast k 0 zero_le
  simp only [divide, value_add, floor_eq, rest_eq, value_wrap, correction_eq]
  rw [fdiv_add_roundUp positive, IntegerType.wrap_of_contains quotient_contained]

/-- A word is what the arithmetic of its type makes of the mean of integers. -/
structure Averages (mean : Word k) (values : List Int) : Prop where
  /-- It is the quotient of their wrapped sum by their number, rounded toward zero. -/
  value_eq : mean.value = (k.wrap values.sum).tdiv values.length
  /-- The quotient rounded down, which is found on the way, does not wrap. -/
  contains_fdiv : k.Contains ((k.wrap values.sum).fdiv values.length)
  /-- If the sum has not wrapped, some of them are no greater and some no less. -/
  between : k.Contains values.sum →
    (∃ low ∈ values, low ≤ mean.value) ∧ ∃ high ∈ values, mean.value ≤ high

theorem averages_divide {values : List Int} (nonempty : values ≠ [])
    (countable : (values.length : Int) ≤ k.greatest) :
    ((wrap k values.sum).divide (wrap k values.length)).Averages values := by
  have positive : 0 < (values.length : Int) :=
    Int.natCast_pos.mpr (List.length_pos_of_ne_nil nonempty)
  have count_eq : (wrap k values.length).value = values.length :=
    IntegerType.wrap_of_contains (IntegerType.contains_natCast countable)
  have value_eq : ((wrap k values.sum).divide (wrap k values.length)).value =
      (k.wrap values.sum).tdiv values.length := by
    have count_positive : 0 < (wrap k values.length).value := count_eq.symm ▸ positive
    rw [value_divide count_positive, count_eq, value_wrap]
  generalize (wrap k values.sum).divide (wrap k values.length) = mean at value_eq ⊢
  refine ⟨value_eq, k.contains_of_mem_uIcc (by omega) (k.contains_wrap _)
    (fdiv_mem_uIcc positive), ?_⟩
  intro contained
  rw [IntegerType.wrap_of_contains contained] at value_eq
  constructor
  · by_contra none_below
    have above : ∀ x ∈ values, mean.value + 1 ≤ x := by
      intro x member
      by_contra below
      exact none_below ⟨x, member, by omega⟩
    have sum_ge := List.card_nsmul_le_sum values _ above
    rw [nsmul_eq_mul, mul_comm] at sum_ge
    have beyond := Int.le_tdiv_of_mul_le positive sum_ge
    omega
  · by_contra none_above
    have below : ∀ x ∈ values, x ≤ mean.value - 1 := by
      intro x member
      by_contra above
      exact none_above ⟨x, member, by omega⟩
    have sum_le := List.sum_le_card_nsmul values _ below
    rw [nsmul_eq_mul, mul_comm] at sum_le
    have short := tdiv_le_of_le_mul positive sum_le
    omega

end Word

namespace Strided

variable {k : IntegerType} (data : Strided (Word k))

@[simp] theorem length_integers : data.integers.length = data.size := by
  rw [integers, List.length_map, length_indices]
  rfl

/-- The integers of a lane along an axis. -/
def laneIntegers (axis : Nat) (index : List Nat) : List Int :=
  (List.range (data.view.axis axis).extent).map fun position =>
    (data.get (index.insertIdx axis position)).value

@[simp] theorem length_laneIntegers (axis : Nat) (index : List Nat) :
    (data.laneIntegers axis index).length = (data.view.axis axis).extent := by
  rw [laneIntegers, List.length_map, List.length_range]

theorem get_laneTotals_modify {data : Strided (Word k)} {axis : Nat} {index : List Nat}
    (member : index ∈ indices (data.view.shape.eraseIdx axis)) (change : Word k → Word k) :
    ((data.laneTotals .sum axis).modify change).get index =
      change (Word.wrap k (data.laneIntegers axis index).sum) := by
  have separate : (data.laneTotals .sum axis).view.Injective := injective_dense _
  have inside : (data.laneTotals .sum axis).InBounds := inBounds_ofList (by simp)
  rw [get_modify separate inside change (by rwa [shape_laneTotals]), get_laneTotals .sum _ member]
  rfl

end Strided

namespace AnyArray

open Strided

/-- Integers have a mean if there are any and their type holds their number; and so has every lane
along an axis if the type holds the extent of the axis, however large the array is.  The mean is the
quotient of the wrapped sum by the number, rounded toward zero, and the division does not wrap.  If
the sum has not wrapped either, the mean lies between the least and the greatest of the integers. -/
theorem means_of_integers (k : IntegerType) (swapped : Bool) (data : Strided (Word k)) :
    let a := elements (.integer k) swapped data
    (0 < data.size → (data.size : Int) ≤ k.greatest →
      ∃ mean : Word k,
        Call.mean.apply a = .ok { value := .scalar (.integer k) mean } ∧
          mean.Averages data.integers) ∧
    ∀ axis < data.view.rank, ∀ argument : Argument, argument.axis? = some (axis : Int) →
      0 < (data.view.axis axis).extent → ((data.view.axis axis).extent : Int) ≤ k.greatest →
      ∃ means : Strided (Word k),
        (Call.meanAxis argument).apply a =
            .ok { value := .array (elements (.integer k) swapped means) } ∧
          means.view.shape = data.view.shape.eraseIdx axis ∧
          ∀ index ∈ indices means.view.shape,
            (means.get index).Averages (data.laneIntegers axis index) := by
  intro a
  constructor
  · intro positive countable
    let count := Word.wrap k data.size
    have nonempty : data.integers ≠ [] := by
      rwa [← List.length_pos_iff, length_integers]
    have averages : ((data.total .sum).divide count).Averages data.integers := by
      have divided := Word.averages_divide nonempty (k := k) (by rwa [length_integers])
      rwa [length_integers] at divided
    refine ⟨(data.total .sum).divide count, ?_, averages⟩
    rw [← reduce_integers .sum true]
    refine (mean_elements (t := .integer k) swapped data ElementType.noConfusion).trans ?_
    rw [if_neg (Nat.ne_of_gt positive), ElementType.ofCount_integer countable]
    rfl
  · intro axis within argument given positive countable
    let count := Word.wrap k (data.view.axis axis).extent
    refine ⟨(data.laneTotals .sum axis).modify (·.divide count), ?_, shape_laneTotals .sum _ _, ?_⟩
    · rw [← reduceAxis_integers .sum true within]
      refine (meanAxis_elements (t := .integer k) swapped data ElementType.noConfusion given
        within).trans ?_
      rw [if_neg (Nat.ne_of_gt positive), ElementType.ofCount_integer countable]
      rfl
    · intro index member
      have lane_member : index ∈ indices (data.view.shape.eraseIdx axis) := by
        rwa [view_modify, shape_laneTotals] at member
      have nonempty : data.laneIntegers axis index ≠ [] := by
        rwa [← List.length_pos_iff, length_laneIntegers]
      have divided := Word.averages_divide nonempty (k := k) (by rwa [length_laneIntegers])
      rw [length_laneIntegers] at divided
      rwa [get_laneTotals_modify lane_member]

/-- The sum of a row of bytes that is stored backwards leaves their range and wraps, so that their
mean is negative.  Two bytes have a mean that is rounded up to zero, in each of two hundred lanes
that repeat them; all lanes together have more bytes than a byte can count. -/
theorem means_of_bytes :
    let k := IntegerType.oneByte true
    let byte (value : Int) : Word k := Word.wrap k value
    let row : Strided (Word k) := ⟨#[byte 3, byte 100, byte 100], ⟨2, [⟨3, -1⟩]⟩⟩
    let repeated : Strided (Word k) := ⟨#[byte 2, byte (-7)], ⟨1, [⟨2, -1⟩, ⟨200, 0⟩]⟩⟩
    (0 < row.size ∧ (row.size : Int) ≤ k.greatest ∧
      ∃ mean : Word k,
        Call.mean.apply (elements (.integer k) false row) =
            .ok { value := .scalar (.integer k) mean } ∧ mean.value = -17) ∧
      k.greatest < repeated.size ∧ 0 < repeated.view.rank ∧
      0 < (repeated.view.axis 0).extent ∧ ((repeated.view.axis 0).extent : Int) ≤ k.greatest ∧
      ∃ means : Strided (Word k),
        (Call.meanAxis (.integer 0)).apply (elements (.integer k) false repeated) =
            .ok { value := .array (elements (.integer k) false means) } ∧
          (means.get [150]).value = -2 := by
  intro k byte row repeated
  have row_positive : 0 < row.size := Nat.zero_lt_succ 2
  have row_countable : (row.size : Int) ≤ k.greatest := by decide
  have within : 0 < repeated.view.rank := Nat.two_pos
  have lane_positive : 0 < (repeated.view.axis 0).extent := Nat.two_pos
  have lane_countable : ((repeated.view.axis 0).extent : Int) ≤ k.greatest := by decide
  obtain ⟨mean, outcome, averages⟩ :=
    (means_of_integers k false row).1 row_positive row_countable
  obtain ⟨means, means_outcome, shape_eq, means_average⟩ :=
    (means_of_integers k false repeated).2 0 within (.integer 0) rfl lane_positive lane_countable
  have member : [150] ∈ indices means.view.shape := by
    rw [shape_eq]
    exact cons_mem_indices.mpr ⟨show 150 < 200 by omega, List.mem_singleton_self []⟩
  refine ⟨⟨row_positive, row_countable, mean, outcome, ?_⟩, by decide, within, lane_positive,
    lane_countable, means, means_outcome, ?_⟩
  · rw [averages.value_eq]
    decide
  · rw [(means_average [150] member).value_eq]
    decide

end AnyArray

end StridedReduction

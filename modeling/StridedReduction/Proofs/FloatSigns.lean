import Mathlib.Order.Interval.Set.UnorderedInterval
import StridedReduction.Proofs.FloatOrder

/-!
# Signs of floating-point numbers

A number between two finite ones is finite (`isFinite_of_mem_uIcc`).  Numbers that are not negative
are kept by sums and by quotients by positive numbers, infinite or not, and a product of two finite
numbers of one sign is not negative.
-/

namespace StridedReduction

theorem Format.round_mem_uIcc (f : Format) {total first second : Int}
    (between : total ∈ Set.uIcc first second) :
    f.round total 1 ∈ Set.uIcc (f.round first 1) (f.round second 1) := by
  have monotone : Monotone fun total => f.round total 1 := fun _ _ le => f.round_one_mono le
  exact monotone.mapsTo_uIcc between

namespace Binary

variable {f : Format} {x y : Binary f}

theorem isFinite_or_eq_infinite (number : x.isNaN = false) (nonneg : 0 ≤ x.place) :
    x.isFinite ∨ x = .infinite false := by
  by_cases reached : (Nat.pow 2 f.ceiling : Nat) ≤ x.place
  · exact .inr (eq_infinite_of_ceiling_le reached)
  · exact .inl ((isFinite_iff_place number).mpr (by omega))

theorem exists_of_place_pos (finite : x.isFinite) (positive : 0 < x.place) :
    ∃ units representable, x = .finite false units representable := by
  obtain ⟨negative, units, representable, rfl⟩ := exists_of_isFinite finite
  cases negative with
  | false => exact ⟨units, representable, rfl⟩
  | true => simp [place, withSign] at positive; omega

/-- Numbers between finite ones are finite. -/
theorem isFinite_of_mem_uIcc {z : Binary f} (x_finite : x.isFinite) (y_finite : y.isFinite)
    (number : z.isNaN = false) (between : z.place ∈ Set.uIcc x.place y.place) : z.isFinite := by
  rw [isFinite_iff_place (isNaN_of_isFinite x_finite)] at x_finite
  rw [isFinite_iff_place (isNaN_of_isFinite y_finite)] at y_finite
  rw [isFinite_iff_place number]
  rw [Set.mem_uIcc] at between
  omega

theorem isFinite_of_nonneg_of_le (y_finite : y.isFinite) (number : x.isNaN = false)
    (nonneg : 0 ≤ x.place) (le : x.place ≤ y.place) : x.isFinite := by
  have zero_finite : (signedZero false : Binary f).isFinite := rfl
  apply isFinite_of_mem_uIcc zero_finite y_finite number
  rw [place_signedZero]
  exact Set.mem_uIcc_of_le nonneg le

theorem zero_le_iff {value : Binary f} :
    (signedZero false).le value = true ↔ value.isNaN = false ∧ 0 ≤ value.place := by
  cases number : value.isNaN with
  | true => cases value with
    | nan => simp [Binary.le, Binary.lt, Binary.equals, signedZero]
    | _ => cases number
  | false =>
    rw [le_iff_place rfl number, place_signedZero]
    simp

/-- Sums of numbers that are not negative are such numbers. -/
theorem add_nonneg (x_number : x.isNaN = false) (y_number : y.isNaN = false)
    (x_nonneg : 0 ≤ x.place) (y_nonneg : 0 ≤ y.place) :
    (x + y).isNaN = false ∧ 0 ≤ (x + y).place := by
  have top_nonneg : 0 ≤ (Binary.infinite false : Binary f).place := Int.natCast_nonneg _
  rcases isFinite_or_eq_infinite x_number x_nonneg with x_finite | rfl <;>
    rcases isFinite_or_eq_infinite y_number y_nonneg with y_finite | rfl
  · rw [place_add x_finite y_finite]
    exact ⟨isNaN_add x_finite y_finite, f.round_nonneg (by omega) 1⟩
  · obtain ⟨_, _, _, rfl⟩ := exists_of_isFinite x_finite
    exact ⟨rfl, top_nonneg⟩
  · obtain ⟨_, _, _, rfl⟩ := exists_of_isFinite y_finite
    exact ⟨rfl, top_nonneg⟩
  · exact ⟨rfl, top_nonneg⟩

/-- Quotients of numbers that are not negative by positive ones are not negative. -/
theorem div_nonneg (x_number : x.isNaN = false) (x_nonneg : 0 ≤ x.place) (y_finite : y.isFinite)
    (y_pos : 0 < y.place) : (x / y).isNaN = false ∧ 0 ≤ (x / y).place := by
  rcases isFinite_or_eq_infinite x_number x_nonneg with x_finite | rfl
  · rw [place_div x_finite y_finite y_pos]
    exact ⟨isNaN_div x_finite y_finite y_pos,
      f.round_nonneg (Int.mul_nonneg x_nonneg (Int.natCast_nonneg _)) _⟩
  · obtain ⟨_, _, rfl⟩ := exists_of_place_pos y_finite y_pos
    exact ⟨rfl, Int.natCast_nonneg _⟩

/-- Two numbers of one sign have a product that is not negative. -/
theorem mul_nonneg_of_mem_uIcc (x_finite : x.isFinite) (y_finite : y.isFinite)
    (between : x.place ∈ Set.uIcc 0 y.place) :
    (x * y).isNaN = false ∧ 0 ≤ (x * y).place := by
  have product_nonneg : 0 ≤ x.place * y.place := by
    rw [Set.mem_uIcc] at between
    rcases between with ⟨nonneg, le⟩ | ⟨le, nonpos⟩
    · exact Int.mul_nonneg nonneg (nonneg.trans le)
    · exact Int.mul_nonneg_of_nonpos_of_nonpos nonpos (le.trans nonpos)
  rw [place_mul x_finite y_finite]
  exact ⟨isNaN_mul x_finite y_finite, f.round_nonneg product_nonneg _⟩

end Binary

end StridedReduction

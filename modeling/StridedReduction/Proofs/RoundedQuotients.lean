import Mathlib.Data.Nat.Log
import Mathlib.Tactic.Linarith
import Mathlib.Tactic.Ring
import Mathlib.Tactic.SplitIfs
import StridedReduction.Float.Format

/-!
# Order of rounded quotients

Rounding keeps the order of quotients (`nearestEven_mono`, `roundSignificant_mono`) and leaves alone
whatever has few enough significant bits (`roundSignificant_mul`).  So a quotient is never rounded
past a number that needs no rounding.
-/

namespace StridedReduction

section Mono

variable {left right leftDenominator rightDenominator : Nat}
  (left_pos : 0 < leftDenominator) (right_pos : 0 < rightDenominator)
  (le : left * rightDenominator ≤ right * leftDenominator)

include left_pos right_pos le

private theorem quotient_le_quotient : left / leftDenominator ≤ right / rightDenominator := by
  rw [Nat.le_div_iff_mul_le right_pos]
  apply Nat.le_of_mul_le_mul_right _ left_pos
  calc left / leftDenominator * rightDenominator * leftDenominator
      = left / leftDenominator * leftDenominator * rightDenominator := by ring
    _ ≤ left * rightDenominator := Nat.mul_le_mul_right _ (Nat.div_mul_le_self _ _)
    _ ≤ right * leftDenominator := le

theorem nearestEven_mono :
    nearestEven left leftDenominator ≤ nearestEven right rightDenominator := by
  have quotient_le := quotient_le_quotient left_pos right_pos le
  by_cases apart : left / leftDenominator < right / rightDenominator
  · calc nearestEven left leftDenominator
        ≤ left / leftDenominator + 1 := nearestEven_le _ _
      _ ≤ right / rightDenominator := apart
      _ ≤ nearestEven right rightDenominator := le_nearestEven _ _
  · -- With one whole part the remainders decide, and they are ordered as the quotients are.
    have same : right / rightDenominator = left / leftDenominator := by omega
    have left_eq := Nat.div_add_mod left leftDenominator
    have right_eq := Nat.div_add_mod right rightDenominator
    rw [same] at right_eq
    have remainder_le :
        left % leftDenominator * rightDenominator ≤ right % rightDenominator * leftDenominator := by
      nlinarith
    have above (more : leftDenominator < 2 * (left % leftDenominator)) :
        rightDenominator < 2 * (right % rightDenominator) := by
      nlinarith
    have reached (half : leftDenominator = 2 * (left % leftDenominator)) :
        rightDenominator ≤ 2 * (right % rightDenominator) := by
      nlinarith
    simp only [nearestEven, same]
    split_ifs <;> omega

end Mono

section Significant

variable {precision : Nat} (precise : 0 < precision)

theorem excessBits_mono (precision : Nat) {left right : Nat} (le : left ≤ right) :
    excessBits precision left ≤ excessBits precision right := by
  have logs : left.log2 ≤ right.log2 := by
    rw [Nat.log2_eq_log_two, Nat.log2_eq_log_two]
    exact Nat.log_mono_right le
  unfold excessBits
  omega

theorem roundSignificant_le (precision numerator denominator : Nat) :
    roundSignificant precision numerator denominator ≤
      2 ^ (precision + excessBits precision (numerator / denominator)) := by
  have rounded_le := nearestEven_le numerator
    (denominator * 2 ^ excessBits precision (numerator / denominator))
  have quotient_lt := scaledQuotient_lt precision numerator denominator
  simp only [roundSignificant, Nat.pow_eq] at quotient_lt ⊢
  rw [Nat.pow_add]
  exact Nat.mul_le_mul_right _ (by omega)

include precise

/-- A value that is cut short keeps its leading bit. -/
theorem le_roundSignificant {numerator denominator : Nat}
    (cut : 0 < excessBits precision (numerator / denominator)) :
    2 ^ (precision - 1 + excessBits precision (numerator / denominator)) ≤
      roundSignificant precision numerator denominator := by
  generalize bits_eq : excessBits precision (numerator / denominator) = bits at cut
  have leading : precision - 1 + bits = (numerator / denominator).log2 := by
    unfold excessBits at bits_eq
    omega
  have nonzero : numerator / denominator ≠ 0 := by
    intro zero
    rw [zero, Nat.log2_zero] at leading
    omega
  have scaled : 2 ^ (precision - 1) ≤ numerator / (denominator * 2 ^ bits) := by
    rw [← Nat.div_div_eq_div_mul, Nat.le_div_iff_mul_le (Nat.two_pow_pos bits), ← Nat.pow_add,
      leading]
    exact Nat.log2_self_le nonzero
  have rounded_ge := le_nearestEven numerator (denominator * 2 ^ bits)
  rw [roundSignificant, bits_eq, Nat.pow_add]
  exact Nat.mul_le_mul_right _ (Nat.le_trans scaled rounded_ge)

theorem roundSignificant_mono {left right leftDenominator rightDenominator : Nat}
    (left_pos : 0 < leftDenominator) (right_pos : 0 < rightDenominator)
    (le : left * rightDenominator ≤ right * leftDenominator) :
    roundSignificant precision left leftDenominator ≤
      roundSignificant precision right rightDenominator := by
  have bits_le :=
    excessBits_mono precision (quotient_le_quotient left_pos right_pos le)
  rcases Nat.lt_or_eq_of_le bits_le with fewer | same
  · -- More bits are cut off the right one, so a power of two lies between the two.
    calc roundSignificant precision left leftDenominator
        ≤ 2 ^ (precision + excessBits precision (left / leftDenominator)) :=
          roundSignificant_le _ _ _
      _ ≤ 2 ^ (precision - 1 + excessBits precision (right / rightDenominator)) :=
          Nat.pow_le_pow_right (by omega) (by omega)
      _ ≤ roundSignificant precision right rightDenominator :=
          le_roundSignificant precise (by omega)
  · simp only [roundSignificant, same]
    generalize excessBits precision (right / rightDenominator) = bits
    have scale_pos : 0 < Nat.pow 2 bits := Nat.two_pow_pos bits
    apply Nat.mul_le_mul_right
    apply nearestEven_mono (Nat.mul_pos left_pos scale_pos) (Nat.mul_pos right_pos scale_pos)
    calc left * (rightDenominator * Nat.pow 2 bits)
        = left * rightDenominator * Nat.pow 2 bits := by ring
      _ ≤ right * leftDenominator * Nat.pow 2 bits := Nat.mul_le_mul_right _ le
      _ = right * (leftDenominator * Nat.pow 2 bits) := by ring

/-- A number with few enough significant bits is rounded to itself. -/
theorem roundSignificant_mul {digits shift denominator : Nat} (few : digits < 2 ^ precision)
    (positive : 0 < denominator) :
    roundSignificant precision (digits * 2 ^ shift * denominator) denominator =
      digits * 2 ^ shift := by
  have bits_le : excessBits precision (digits * 2 ^ shift) ≤ shift := by
    rcases Nat.eq_zero_or_pos digits with rfl | nonzero
    · simp [excessBits]
      omega
    · have below : (digits * 2 ^ shift).log2 < precision + shift := by
        rw [Nat.log2_lt (Nat.mul_pos nonzero (Nat.two_pow_pos shift)).ne', Nat.pow_add]
        exact Nat.mul_lt_mul_of_pos_right few (Nat.two_pow_pos shift)
      unfold excessBits
      omega
  simp only [roundSignificant, Nat.pow_eq, Nat.mul_div_cancel _ positive]
  generalize excessBits precision (digits * 2 ^ shift) = bits at bits_le
  obtain ⟨rest, rfl⟩ := Nat.exists_eq_add_of_le bits_le
  have regrouped : digits * 2 ^ (bits + rest) * denominator =
      digits * 2 ^ rest * (denominator * 2 ^ bits) := by
    rw [Nat.pow_add]
    ring
  rw [regrouped, nearestEven_mul _ (Nat.mul_pos positive (Nat.two_pow_pos bits)), Nat.pow_add]
  ring

end Significant

end StridedReduction

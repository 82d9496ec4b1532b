/-!
# Binary floating-point formats

The three interchange formats that array elements come in.  Every finite magnitude of a format is a
whole number of its least positive value, the *unit* `2 ^ (-places)`; the magnitudes that a format
holds are the unit counts with at most `precision` significant bits below `2 ^ ceiling`.

Rounding is exact arithmetic on natural numbers: a quotient goes to the nearest integer, or to the
nearest one with a bounded number of significant bits (`roundSignificant_eq`), ties to even.
-/

namespace StridedReduction

/-- The integer nearest to `numerator / denominator`; a half goes to the even neighbour. -/
def nearestEven (numerator denominator : Nat) : Nat :=
  let quotient := numerator / denominator
  let twice := 2 * (numerator % denominator)
  if twice < denominator then quotient
  else if denominator < twice then quotient + 1
  else quotient + quotient % 2

theorem nearestEven_le (numerator denominator : Nat) :
    nearestEven numerator denominator ≤ numerator / denominator + 1 := by
  unfold nearestEven
  dsimp only
  split
  · omega
  · split <;> omega

theorem le_nearestEven (numerator denominator : Nat) :
    numerator / denominator ≤ nearestEven numerator denominator := by
  unfold nearestEven
  dsimp only
  split
  · omega
  · split <;> omega

theorem nearestEven_mul (quotient : Nat) {denominator : Nat} (positive : 0 < denominator) :
    nearestEven (quotient * denominator) denominator = quotient := by
  simp [nearestEven, Nat.mul_div_cancel _ positive, positive]

/-- The number of low bits of `value` that lie beyond its `precision` leading bits. -/
def excessBits (precision value : Nat) : Nat :=
  value.log2 + 1 - precision

theorem lt_two_pow_excessBits (precision value : Nat) :
    value < Nat.pow 2 (precision + excessBits precision value) := by
  have fits : value.log2 + 1 ≤ precision + excessBits precision value := by
    unfold excessBits
    omega
  exact Nat.lt_of_lt_of_le Nat.lt_log2_self (Nat.pow_le_pow_right (by omega) fits)

/-- `numerator / denominator` rounded to the nearest value with at most `precision` significant
bits, a half going to the even neighbour; fractions are never kept. -/
def roundSignificant (precision numerator denominator : Nat) : Nat :=
  let shift := excessBits precision (numerator / denominator)
  nearestEven numerator (denominator * Nat.pow 2 shift) * Nat.pow 2 shift

/-- What is rounded to a whole number has at most `precision` bits before the point. -/
theorem scaledQuotient_lt (precision numerator denominator : Nat) :
    numerator / (denominator * Nat.pow 2 (excessBits precision (numerator / denominator))) <
      Nat.pow 2 precision := by
  simp only [Nat.pow_eq]
  rw [← Nat.div_div_eq_div_mul, Nat.div_lt_iff_lt_mul (Nat.two_pow_pos _), ← Nat.pow_add]
  exact lt_two_pow_excessBits precision _

/-- A rounded value is a number of at most `precision` bits, scaled by a power of two. -/
theorem roundSignificant_eq {precision : Nat} (positive : 0 < precision)
    (numerator denominator : Nat) :
    ∃ digits shift, digits < Nat.pow 2 precision ∧
      roundSignificant precision numerator denominator = digits * Nat.pow 2 shift := by
  have quotient_lt := scaledQuotient_lt precision numerator denominator
  simp only [roundSignificant, Nat.pow_eq] at quotient_lt ⊢
  generalize excessBits precision (numerator / denominator) = shift at quotient_lt ⊢
  have rounded_le := nearestEven_le numerator (denominator * 2 ^ shift)
  by_cases carries : nearestEven numerator (denominator * 2 ^ shift) = 2 ^ precision
  · refine ⟨2 ^ (precision - 1), shift + 1, Nat.pow_lt_pow_right (by omega) (by omega), ?_⟩
    rw [carries, ← Nat.pow_add, ← Nat.pow_add]
    congr 1
    omega
  · exact ⟨_, shift, by omega, rfl⟩

/-- The greatest `root` with `root * root ≤ value`, for a `value` below `4 ^ pairs`, found one
binary digit at a time. -/
def squareRootBelow : Nat → Nat → Nat
  | 0, _ => 0
  | pairs + 1, value =>
    let even := 2 * squareRootBelow pairs (value / 4)
    if (even + 1) * (even + 1) ≤ value then even + 1 else even

/-- The greatest number whose square is at most `value`. -/
def squareRoot (value : Nat) : Nat :=
  squareRootBelow (value.log2 / 2 + 1) value

/-- A binary interchange format. -/
inductive Format
  /-- Sixteen bits, eleven of them significant. -/
  | half
  /-- Thirty-two bits, twenty-four of them significant. -/
  | single
  /-- Sixty-four bits, fifty-three of them significant. -/
  | double
  deriving DecidableEq, Repr

namespace Format

/-- Number of significant bits, the leading one included. -/
def precision : Format → Nat
  | half => 11
  | single => 24
  | double => 53

/-- Width of the exponent field in bits. -/
def exponentBits : Format → Nat
  | half => 5
  | single => 8
  | double => 11

/-- Width of a whole element in bits. -/
def width (f : Format) : Nat :=
  f.precision + f.exponentBits

/-- The unit of the format is `2 ^ (-places)`. -/
def places (f : Format) : Nat :=
  Nat.pow 2 (f.exponentBits - 1) + f.precision - 3

/-- Finite magnitudes are less than `2 ^ ceiling` units. -/
def ceiling (f : Format) : Nat :=
  Nat.pow 2 f.exponentBits + f.precision - 3

/-- The number one, in units. -/
def one (f : Format) : Nat :=
  Nat.pow 2 f.places

/-- The largest finite magnitude, in units. -/
def largest (f : Format) : Nat :=
  (Nat.pow 2 f.precision - 1) * Nat.pow 2 (f.ceiling - f.precision)

/-- A count of units is held exactly when it is below the ceiling and has few enough significant
bits. -/
def Representable (f : Format) (units : Nat) : Prop :=
  units < Nat.pow 2 f.ceiling ∧
    ∃ digits shift, digits < Nat.pow 2 f.precision ∧ units = digits * Nat.pow 2 shift

theorem precision_pos (f : Format) : 0 < f.precision := by
  cases f <;> decide

theorem one_pos (f : Format) : 0 < f.one :=
  Nat.two_pow_pos _

theorem representable_zero (f : Format) : f.Representable 0 :=
  ⟨Nat.two_pow_pos _, 0, 0, Nat.two_pow_pos _, rfl⟩

theorem representable_roundSignificant (f : Format) {numerator denominator : Nat}
    (below : roundSignificant f.precision numerator denominator < Nat.pow 2 f.ceiling) :
    f.Representable (roundSignificant f.precision numerator denominator) :=
  ⟨below, roundSignificant_eq f.precision_pos numerator denominator⟩

end Format

end StridedReduction

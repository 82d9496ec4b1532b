import StridedReduction.Proofs.FloatArithmetic
import StridedReduction.Proofs.RoundedQuotients

/-!
# Places of floating-point numbers

Every number but not-a-number has a place on the line of the units of its format, where infinities
stand at the ceiling.  Comparisons are those of places, and each operation on finite numbers leads
to the place that its exact result is rounded to (`place_add`, `place_sub`, `place_mul`,
`place_div`).  The rounding of places keeps their order (`Format.round_mono`) and fixes those of
finite numbers (`Binary.round_place`).
-/

namespace StridedReduction

namespace Format

variable (f : Format)

/-- The place that a quotient of units is rounded to. -/
def round (numerator : Int) (denominator : Nat) : Int :=
  numerator.sign *
    (min (roundSignificant f.precision numerator.natAbs denominator) (Nat.pow 2 f.ceiling) : Nat)

theorem Representable.lt_ceiling {f : Format} {units : Nat}
    (representable : f.Representable units) :
    (units : Int) < 2 ^ f.ceiling := by
  exact_mod_cast representable.1

theorem round_natCast (numerator denominator : Nat) :
    f.round numerator denominator =
      (min (roundSignificant f.precision numerator denominator) (Nat.pow 2 f.ceiling) : Nat) := by
  cases numerator with
  | zero => simp [round]
  | succ numerator =>
    rw [round, Int.natAbs_natCast, Int.sign_eq_one_of_pos (Int.natCast_pos.mpr numerator.succ_pos),
      Int.one_mul]

@[simp] theorem round_zero (denominator : Nat) : f.round 0 denominator = 0 := by
  simp [round]

@[simp] theorem round_neg (numerator : Int) (denominator : Nat) :
    f.round (-numerator) denominator = -f.round numerator denominator := by
  rw [round, round, Int.sign_neg, Int.natAbs_neg, Int.neg_mul]

theorem round_nonneg {numerator : Int} (nonneg : 0 ≤ numerator) (denominator : Nat) :
    0 ≤ f.round numerator denominator := by
  obtain ⟨magnitude, rfl⟩ := Int.eq_ofNat_of_zero_le nonneg
  rw [round_natCast]
  exact Int.natCast_nonneg _

theorem round_natCast_mono {left right leftDenominator rightDenominator : Nat}
    (left_pos : 0 < leftDenominator) (right_pos : 0 < rightDenominator)
    (le : left * rightDenominator ≤ right * leftDenominator) :
    f.round left leftDenominator ≤ f.round right rightDenominator := by
  rw [round_natCast, round_natCast, Int.ofNat_le]
  exact min_le_min_right _ (roundSignificant_mono f.precision_pos left_pos right_pos le)

/-- Rounding keeps the order of quotients. -/
theorem round_mono {left right : Int} {leftDenominator rightDenominator : Nat}
    (left_pos : 0 < leftDenominator) (right_pos : 0 < rightDenominator)
    (le : left * rightDenominator ≤ right * leftDenominator) :
    f.round left leftDenominator ≤ f.round right rightDenominator := by
  rcases Int.le_total 0 left with left_nonneg | left_nonpos
  · have right_nonneg : 0 ≤ right := by
      have scaled : 0 ≤ right * leftDenominator :=
        (Int.mul_nonneg left_nonneg (Int.natCast_nonneg _)).trans le
      exact nonneg_of_mul_nonneg_left scaled (Int.natCast_pos.mpr left_pos)
    obtain ⟨left, rfl⟩ := Int.eq_ofNat_of_zero_le left_nonneg
    obtain ⟨right, rfl⟩ := Int.eq_ofNat_of_zero_le right_nonneg
    exact f.round_natCast_mono left_pos right_pos (by exact_mod_cast le)
  · obtain ⟨left, rfl⟩ := Int.exists_eq_neg_ofNat left_nonpos
    rcases Int.le_total 0 right with right_nonneg | right_nonpos
    · calc f.round (-(left : Int)) leftDenominator
          ≤ 0 := by
            rw [round_neg]
            exact Int.neg_nonpos_of_nonneg (f.round_nonneg (Int.natCast_nonneg left) _)
        _ ≤ f.round right rightDenominator := f.round_nonneg right_nonneg _
    · obtain ⟨right, rfl⟩ := Int.exists_eq_neg_ofNat right_nonpos
      rw [round_neg, round_neg, Int.neg_le_neg_iff]
      apply f.round_natCast_mono right_pos left_pos
      rw [Int.neg_mul, Int.neg_mul, Int.neg_le_neg_iff] at le
      exact_mod_cast le

theorem round_one_mono {least greatest : Int} (le : least ≤ greatest) :
    f.round least 1 ≤ f.round greatest 1 :=
  f.round_mono Nat.one_pos Nat.one_pos (by simpa using le)

/-- A place whose distance from zero is representable is rounded to itself. -/
theorem round_mul_of_representable {total : Int} (representable : f.Representable total.natAbs)
    {denominator : Nat} (positive : 0 < denominator) :
    f.round (total * denominator) denominator = total := by
  have upright : f.round (total.natAbs * denominator) denominator = total.natAbs := by
    obtain ⟨below, digits, shift, few, units_eq⟩ := representable
    have kept : roundSignificant f.precision (total.natAbs * denominator) denominator =
        total.natAbs := by
      rw [units_eq]
      exact roundSignificant_mul f.precision_pos few positive
    rw [← Int.natCast_mul, round_natCast, kept, Nat.min_eq_left (Nat.le_of_lt below)]
  rcases Int.natAbs_eq total with total_eq | total_eq
  · rwa [← total_eq] at upright
  · rw [total_eq, Int.neg_mul, round_neg, upright]

theorem round_one_of_representable {total : Int} (representable : f.Representable total.natAbs) :
    f.round total 1 = total := by
  simpa using f.round_mul_of_representable representable Nat.one_pos

/-- No number is rounded past a power of two. -/
theorem round_two_pow_le (exponent : Nat) :
    f.round (2 ^ exponent : Nat) 1 ≤ (2 ^ exponent : Nat) := by
  have few : 1 < 2 ^ f.precision := Nat.one_lt_two_pow f.precision_pos.ne'
  have kept : roundSignificant f.precision (1 * 2 ^ exponent * 1) 1 = 1 * 2 ^ exponent :=
    roundSignificant_mul f.precision_pos few Nat.one_pos
  rw [Nat.mul_one, Nat.one_mul] at kept
  rw [round_natCast, kept, Int.ofNat_le]
  exact Nat.min_le_left _ _

theorem representable_one : f.Representable 1 :=
  ⟨Nat.one_lt_two_pow (by cases f <;> decide), 1, 0, Nat.one_lt_two_pow f.precision_pos.ne', rfl⟩

/-- Whole units are never rounded to nothing. -/
theorem round_one_eq_zero {total : Int} : f.round total 1 = 0 ↔ total = 0 := by
  have unit : f.round 1 1 = 1 := f.round_one_of_representable f.representable_one
  constructor
  · intro vanishes
    rcases Int.lt_trichotomy total 0 with negative | zero | positive
    · have below := f.round_one_mono (show total ≤ -1 by omega)
      simp only [round_neg, unit] at below
      omega
    · exact zero
    · have above := f.round_one_mono (show 1 ≤ total by omega)
      simp only [unit] at above
      omega
  · rintro rfl
    exact f.round_zero 1

end Format

namespace Binary

variable {f : Format}

/-- The place of a number on the line of units.  Infinities stand at the ceiling, and not-a-number
is given place zero. -/
def place : Binary f → Int
  | .nan => 0
  | .infinite negative => withSign negative (Nat.pow 2 f.ceiling)
  | .finite negative units _ => withSign negative units

theorem exists_of_isFinite {x : Binary f} (finite : x.isFinite) :
    ∃ negative units representable, x = .finite negative units representable := by
  cases x with
  | finite negative units representable => exact ⟨negative, units, representable, rfl⟩
  | _ => simp [isFinite] at finite

@[simp] theorem place_signedZero (negative : Bool) :
    (signedZero negative : Binary f).place = 0 := by
  cases negative <;> rfl

theorem withSign_not (negative : Bool) (units : Nat) :
    withSign (!negative) units = -withSign negative units := by
  cases negative <;> simp [withSign]

theorem place_neg (x : Binary f) : (-x).place = -x.place := by
  cases x with
  | nan => rfl
  | infinite negative => exact withSign_not negative _
  | finite negative units _ => exact withSign_not negative units

theorem isFinite_neg (x : Binary f) : (-x).isFinite = x.isFinite := by
  cases x <;> rfl

theorem isNaN_of_isFinite {x : Binary f} (finite : x.isFinite) : x.isNaN = false := by
  obtain ⟨_, _, _, rfl⟩ := exists_of_isFinite finite
  rfl

/-- Finite numbers are those that stand below the ceiling. -/
theorem isFinite_iff_place {x : Binary f} (number : x.isNaN = false) :
    x.isFinite ↔ x.place.natAbs < Nat.pow 2 f.ceiling := by
  cases x with
  | nan => simp [isNaN] at number
  | infinite negative => cases negative <;> simp [isFinite, place, withSign]
  | finite negative units representable =>
    have below : units < Nat.pow 2 f.ceiling := representable.1
    cases negative <;> simpa [isFinite, place, withSign] using below

theorem exists_infinite_of_not_isFinite {x : Binary f} (number : x.isNaN = false)
    (infinite : ¬x.isFinite) : ∃ negative, x = .infinite negative := by
  cases x with
  | nan => cases number
  | infinite negative => exact ⟨negative, rfl⟩
  | finite => exact absurd rfl infinite

theorem natAbs_place_le (x : Binary f) : x.place.natAbs ≤ Nat.pow 2 f.ceiling := by
  cases x with
  | nan => exact Nat.zero_le _
  | infinite negative => cases negative <;> simp [place, withSign]
  | finite negative units representable =>
    have below : units < Nat.pow 2 f.ceiling := representable.1
    cases negative <;> simpa [place, withSign] using below.le

theorem eq_infinite_of_ceiling_le {x : Binary f} (above : (Nat.pow 2 f.ceiling : Nat) ≤ x.place) :
    x = .infinite false := by
  have ceiling_pos : 0 < Nat.pow 2 f.ceiling := Nat.two_pow_pos _
  cases x with
  | nan =>
    change ((Nat.pow 2 f.ceiling : Nat) : Int) ≤ 0 at above
    omega
  | infinite negative => cases negative with
    | false => rfl
    | true =>
      change _ ≤ -((Nat.pow 2 f.ceiling : Nat) : Int) at above
      omega
  | finite negative units representable =>
    have below : units < Nat.pow 2 f.ceiling := representable.1
    cases negative <;>
      simp only [place, withSign, if_true, Bool.false_eq_true, if_false] at above <;> omega

theorem eq_infinite_of_le_neg_ceiling {x : Binary f}
    (below : x.place ≤ -(Nat.pow 2 f.ceiling : Nat)) : x = .infinite true := by
  have mirrored : (Nat.pow 2 f.ceiling : Nat) ≤ (-x).place := by
    rw [place_neg]
    omega
  have negated := eq_infinite_of_ceiling_le mirrored
  cases x with
  | infinite negative => cases negative with
    | false => cases negated
    | true => rfl
  | _ => cases negated

@[simp] theorem isNaN_nearest (negative : Bool) (numerator denominator : Nat) :
    (nearest negative numerator denominator : Binary f).isNaN = false := by
  rw [nearest]
  split <;> rfl

theorem place_nearest (negative : Bool) (numerator denominator : Nat) :
    (nearest negative numerator denominator : Binary f).place =
      f.round (withSign negative numerator) denominator := by
  have magnitude : (nearest negative numerator denominator : Binary f).place =
      withSign negative (min (roundSignificant f.precision numerator denominator)
        (Nat.pow 2 f.ceiling)) := by
    rw [nearest]
    split
    case isTrue below => rw [Nat.min_eq_left (Nat.le_of_lt below), place]
    case isFalse reached => rw [Nat.min_eq_right (Nat.le_of_not_lt reached), place]
  have upright := f.round_natCast numerator denominator
  cases negative with
  | false => exact magnitude.trans upright.symm
  | true =>
    have mirrored := f.round_neg numerator denominator
    rw [upright] at mirrored
    exact magnitude.trans mirrored.symm

theorem representable_place {x : Binary f} (finite : x.isFinite) :
    f.Representable x.place.natAbs := by
  obtain ⟨negative, units, representable, rfl⟩ := exists_of_isFinite finite
  cases negative <;> simpa [place, withSign] using representable

/-- The place of a finite number needs no rounding. -/
theorem round_place {x : Binary f} (finite : x.isFinite) : f.round x.place 1 = x.place :=
  f.round_one_of_representable (representable_place finite)

section Comparisons

variable {x y : Binary f} (x_number : x.isNaN = false) (y_number : y.isNaN = false)

include x_number y_number

theorem lt_iff_place : x.lt y = true ↔ x.place < y.place := by
  have ceiling_pos : (0 : Int) < 2 ^ f.ceiling := Int.pow_pos (by decide)
  cases x with
  | nan => simp [isNaN] at x_number
  | infinite left =>
    cases y with
    | nan => simp [isNaN] at y_number
    | infinite right => cases left <;> cases right <;> simp [lt, place, withSign]
    | finite right _ representable =>
      have below := representable.lt_ceiling
      cases left <;> cases right <;> simp [lt, place, withSign] <;> omega
  | finite left _ representable =>
    cases y with
    | nan => simp [isNaN] at y_number
    | infinite right =>
      have below := representable.lt_ceiling
      cases left <;> cases right <;> simp [lt, place, withSign] <;> omega
    | finite right _ _ => simp [lt, place]

theorem equals_iff_place : x.equals y = true ↔ x.place = y.place := by
  have ceiling_pos : (0 : Int) < 2 ^ f.ceiling := Int.pow_pos (by decide)
  cases x with
  | nan => simp [isNaN] at x_number
  | infinite left =>
    cases y with
    | nan => simp [isNaN] at y_number
    | infinite right => cases left <;> cases right <;> simp [equals, place, withSign] <;> omega
    | finite right _ representable =>
      have below := representable.lt_ceiling
      cases left <;> cases right <;> simp [equals, place, withSign] <;> omega
  | finite left _ representable =>
    cases y with
    | nan => simp [isNaN] at y_number
    | infinite right =>
      have below := representable.lt_ceiling
      cases left <;> cases right <;> simp [equals, place, withSign] <;> omega
    | finite right _ _ => simp [equals, place]

theorem le_iff_place : x.le y = true ↔ x.place ≤ y.place := by
  rw [le, Bool.or_eq_true, lt_iff_place x_number y_number, equals_iff_place x_number y_number]
  omega

end Comparisons

theorem place_nearestTotal (negativeZero : Bool) (total : Int) :
    (nearestTotal negativeZero total : Binary f).place = f.round total 1 := by
  rw [nearestTotal, place_nearest]
  congr 1
  rcases Int.lt_trichotomy total 0 with negative | rfl | positive
  · rw [if_neg (by omega), decide_eq_true negative, withSign, if_pos rfl]
    omega
  · cases negativeZero <;> rfl
  · rw [if_neg (by omega), decide_eq_false (by omega), withSign, if_neg Bool.false_ne_true]
    omega

theorem withSign_xor_mul (left right : Bool) (leftUnits rightUnits : Nat) :
    withSign (left ^^ right) (leftUnits * rightUnits) =
      withSign left leftUnits * withSign right rightUnits := by
  cases left <;> cases right <;> simp [withSign]

section Operations

variable {x y : Binary f} (x_finite : x.isFinite) (y_finite : y.isFinite)

include x_finite y_finite

theorem isNaN_add : (x + y).isNaN = false := by
  obtain ⟨_, _, _, rfl⟩ := exists_of_isFinite x_finite
  obtain ⟨_, _, _, rfl⟩ := exists_of_isFinite y_finite
  exact isNaN_nearest _ _ _

theorem place_add : (x + y).place = f.round (x.place + y.place) 1 := by
  obtain ⟨_, _, _, rfl⟩ := exists_of_isFinite x_finite
  obtain ⟨_, _, _, rfl⟩ := exists_of_isFinite y_finite
  exact place_nearestTotal _ _

theorem isNaN_sub : (x - y).isNaN = false :=
  isNaN_add x_finite (y_finite ▸ isFinite_neg y)

theorem place_sub : (x - y).place = f.round (x.place - y.place) 1 := by
  rw [sub_eq_add_neg, place_add x_finite (y_finite ▸ isFinite_neg y), place_neg,
    Int.sub_eq_add_neg]

theorem isNaN_mul : (x * y).isNaN = false := by
  obtain ⟨_, _, _, rfl⟩ := exists_of_isFinite x_finite
  obtain ⟨_, _, _, rfl⟩ := exists_of_isFinite y_finite
  exact isNaN_nearest _ _ _

theorem place_mul : (x * y).place = f.round (x.place * y.place) f.one := by
  obtain ⟨left, leftUnits, _, rfl⟩ := exists_of_isFinite x_finite
  obtain ⟨right, rightUnits, _, rfl⟩ := exists_of_isFinite y_finite
  refine (place_nearest (left ^^ right) (leftUnits * rightUnits) f.one).trans ?_
  rw [withSign_xor_mul]
  rfl

variable (positive : 0 < y.place)

include positive

/-- A quotient by a positive number is rounded once. -/
theorem div_eq_nearest : ∃ negative units, x.place = withSign negative units ∧
    x / y = nearest negative (units * f.one) y.place.toNat := by
  obtain ⟨left, leftUnits, _, rfl⟩ := exists_of_isFinite x_finite
  obtain ⟨right, rightUnits, _, rfl⟩ := exists_of_isFinite y_finite
  cases right with
  | true => simp [place, withSign] at positive; omega
  | false =>
    have nonzero : rightUnits ≠ 0 := by
      rintro rfl
      simp [place, withSign] at positive
    refine ⟨left, leftUnits, rfl, ?_⟩
    change (if rightUnits = 0 then _ else nearest (left ^^ false) _ _) = _
    rw [if_neg nonzero, Bool.xor_false]
    rfl

theorem isNaN_div : (x / y).isNaN = false := by
  obtain ⟨_, _, _, quotient_eq⟩ := div_eq_nearest x_finite y_finite positive
  rw [quotient_eq, isNaN_nearest]

theorem place_div : (x / y).place = f.round (x.place * f.one) y.place.toNat := by
  obtain ⟨negative, units, place_eq, quotient_eq⟩ := div_eq_nearest x_finite y_finite positive
  rw [quotient_eq, place_nearest, place_eq]
  cases negative <;> simp [withSign]

end Operations

end Binary

end StridedReduction

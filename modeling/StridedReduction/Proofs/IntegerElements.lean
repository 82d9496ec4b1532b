import StridedReduction.Count
import StridedReduction.Proofs.FloatOrder

/-!
# Integers as floating-point numbers

The number that stands for an integer is reached through doubles, and both roundings keep the order
(`place_ofInt_mono`).  Integers of no more than the significant bits of a format are kept exactly
(`place_ofInt_of_natAbs_le`), so they are told apart from all others (`ofInt_eq_ofInt_iff`).  Up to
the greatest count of a format every integer is a finite number (`isFinite_ofInt`).
-/

namespace StridedReduction

namespace Format

variable (f : Format)

/-- The integers that are kept exactly are counts of units that the format holds. -/
theorem representable_mul_one {magnitude : Nat} (few : magnitude ≤ 2 ^ f.precision) :
    f.Representable (magnitude * f.one) := by
  have room : f.precision + f.places < f.ceiling := by cases f <;> decide
  have below : magnitude * f.one < Nat.pow 2 f.ceiling :=
    calc magnitude * 2 ^ f.places
        ≤ 2 ^ f.precision * 2 ^ f.places := Nat.mul_le_mul_right _ few
      _ = 2 ^ (f.precision + f.places) := (Nat.pow_add _ _ _).symm
      _ < 2 ^ f.ceiling := Nat.pow_lt_pow_right (by decide) room
  rcases Nat.lt_or_eq_of_le few with fewer | rfl
  · exact ⟨below, magnitude, f.places, fewer, rfl⟩
  · exact ⟨below, 1, f.precision + f.places, Nat.one_lt_two_pow f.precision_pos.ne',
      by rw [Nat.one_mul]; exact (Nat.pow_add _ _ _).symm⟩

theorem natAbs_mul_one (value : Int) : (value * f.one).natAbs = value.natAbs * f.one := by
  rw [Int.natAbs_mul, Int.natAbs_natCast]

theorem precision_le_double : f.precision ≤ Format.double.precision := by
  cases f <;> decide

end Format

namespace Binary

variable {f g : Format}

theorem isNaN_convert {x : Binary f} (number : x.isNaN = false) :
    (x.convert : Binary g).isNaN = false := by
  cases x with
  | nan => simp [isNaN] at number
  | infinite => rfl
  | finite => exact isNaN_nearest _ _ _

theorem place_convert {x : Binary f} (finite : x.isFinite) :
    (x.convert : Binary g).place = g.round (x.place * g.one) f.one := by
  obtain ⟨negative, units, _, rfl⟩ := exists_of_isFinite finite
  refine (place_nearest negative (units * g.one) f.one).trans ?_
  cases negative <;> simp [place, withSign]

/-- Conversion keeps the order of numbers. -/
theorem place_convert_mono {x y : Binary f} (x_number : x.isNaN = false)
    (y_number : y.isNaN = false) (le : x.place ≤ y.place) :
    (x.convert : Binary g).place ≤ (y.convert : Binary g).place := by
  have x_within := natAbs_place_le (x.convert : Binary g)
  have y_within := natAbs_place_le (y.convert : Binary g)
  by_cases y_top : (Nat.pow 2 f.ceiling : Nat) ≤ y.place
  · obtain rfl := eq_infinite_of_ceiling_le y_top
    change _ ≤ ((Nat.pow 2 g.ceiling : Nat) : Int)
    omega
  by_cases x_bottom : x.place ≤ -(Nat.pow 2 f.ceiling : Nat)
  · obtain rfl := eq_infinite_of_le_neg_ceiling x_bottom
    change -((Nat.pow 2 g.ceiling : Nat) : Int) ≤ _
    omega
  have x_finite : x.isFinite := (isFinite_iff_place x_number).mpr (by omega)
  have y_finite : y.isFinite := (isFinite_iff_place y_number).mpr (by omega)
  rw [place_convert x_finite, place_convert y_finite]
  apply g.round_mono f.one_pos f.one_pos
  exact Int.mul_le_mul_of_nonneg_right
    (Int.mul_le_mul_of_nonneg_right le (Int.natCast_nonneg _)) (Int.natCast_nonneg _)

theorem natCast_eq_ofInt (count : Nat) : (count : Binary f) = ofInt count := by
  -- Through any function: by itself the conversion would be evaluated.
  have cast_eq (convert : Nat → Binary f) : @Nat.cast _ ⟨convert⟩ count = convert count := rfl
  exact cast_eq fun count => ofInt count

theorem natCast_zero : ((0 : Nat) : Binary f) = signedZero false :=
  (natCast_eq_ofInt 0).trans ofInt_zero

@[simp] theorem isNaN_ofIntDirect (value : Int) : (ofIntDirect value : Binary f).isNaN = false :=
  isNaN_nearest _ _ _

@[simp] theorem isNaN_ofInt (value : Int) : (ofInt value : Binary f).isNaN = false :=
  isNaN_convert (isNaN_ofIntDirect value)

theorem place_ofIntDirect (value : Int) :
    (ofIntDirect value : Binary f).place = f.round (value * f.one) 1 := by
  rw [ofIntDirect, place_nearest]
  congr 1
  rcases Int.lt_or_le value 0 with negative | nonneg
  · have magnitude : (value.natAbs : Int) = -value := by omega
    rw [decide_eq_true negative, withSign, if_pos rfl, Int.natCast_mul, magnitude, Int.neg_mul,
      Int.neg_neg]
  · have magnitude : (value.natAbs : Int) = value := by omega
    rw [decide_eq_false (by omega), withSign, if_neg Bool.false_ne_true, Int.natCast_mul, magnitude]

theorem place_ofIntDirect_mono {left right : Int} (le : left ≤ right) :
    (ofIntDirect left : Binary f).place ≤ (ofIntDirect right : Binary f).place := by
  rw [place_ofIntDirect, place_ofIntDirect]
  exact f.round_one_mono (Int.mul_le_mul_of_nonneg_right le (Int.natCast_nonneg _))

theorem place_ofInt_mono {left right : Int} (le : left ≤ right) :
    (ofInt left : Binary f).place ≤ (ofInt right : Binary f).place :=
  place_convert_mono (isNaN_ofIntDirect left) (isNaN_ofIntDirect right) (place_ofIntDirect_mono le)

@[simp] theorem place_ofInt_zero : (ofInt 0 : Binary f).place = 0 := by
  rw [ofInt_zero, place_signedZero]

theorem place_ofIntDirect_of_natAbs_le {value : Int} (few : value.natAbs ≤ 2 ^ f.precision) :
    (ofIntDirect value : Binary f).place = value * f.one := by
  rw [place_ofIntDirect]
  apply f.round_one_of_representable
  rw [f.natAbs_mul_one]
  exact f.representable_mul_one few

theorem isFinite_of_place_eq {x : Binary f} (number : x.isNaN = false) {total : Int}
    (place_eq : x.place = total) (representable : f.Representable total.natAbs) : x.isFinite := by
  rw [isFinite_iff_place number, place_eq]
  exact representable.1

/-- Integers of no more than the significant bits of a format are kept exactly. -/
theorem place_ofInt_of_natAbs_le {value : Int} (few : value.natAbs ≤ 2 ^ f.precision) :
    (ofInt value : Binary f).place = value * f.one := by
  have few_double : value.natAbs ≤ 2 ^ Format.double.precision :=
    few.trans (Nat.pow_le_pow_right (by decide) f.precision_le_double)
  have double_eq := place_ofIntDirect_of_natAbs_le few_double
  have double_finite : (ofIntDirect value : Binary .double).isFinite := by
    apply isFinite_of_place_eq (isNaN_ofIntDirect value) double_eq
    rw [Format.natAbs_mul_one]
    exact Format.double.representable_mul_one few_double
  rw [ofInt, place_convert double_finite, double_eq, Int.mul_right_comm]
  apply f.round_mul_of_representable _ Format.double.one_pos
  rw [f.natAbs_mul_one]
  exact f.representable_mul_one few

theorem mul_one_le_place_ofInt {low value : Int} (few : low.natAbs ≤ 2 ^ f.precision)
    (le : low ≤ value) : low * f.one ≤ (ofInt value : Binary f).place := by
  rw [← place_ofInt_of_natAbs_le few]
  exact place_ofInt_mono le

/-- The place of an integer has the sign of the integer. -/
theorem place_ofInt_pos {value : Int} (positive : 0 < value) :
    0 < (ofInt value : Binary f).place := by
  have one_pos := f.one_pos
  have one_le : 1 * (f.one : Int) ≤ (ofInt value : Binary f).place :=
    mul_one_le_place_ofInt Nat.one_le_two_pow positive
  omega

theorem place_ofInt_neg {value : Int} (negative : value < 0) :
    (ofInt value : Binary f).place < 0 := by
  have place_neg_one : (ofInt (-1) : Binary f).place = -1 * f.one :=
    place_ofInt_of_natAbs_le Nat.one_le_two_pow
  have le_neg_one := place_ofInt_mono (f := f) (show value ≤ -1 by omega)
  have one_pos := f.one_pos
  omega

theorem place_ofInt_eq_zero {value : Int} : (ofInt value : Binary f).place = 0 ↔ value = 0 := by
  constructor
  · intro zero
    rcases Int.lt_trichotomy value 0 with negative | value_zero | positive
    · exact absurd zero (place_ofInt_neg negative).ne
    · exact value_zero
    · exact absurd zero (place_ofInt_pos positive).ne'
  · rintro rfl
    exact place_ofInt_zero

theorem place_ofInt_nonneg_iff {value : Int} : 0 ≤ (ofInt value : Binary f).place ↔ 0 ≤ value := by
  constructor
  · intro nonneg
    by_contra negative
    exact absurd nonneg (place_ofInt_neg (by omega)).not_ge
  · intro nonneg
    rw [← place_ofInt_zero (f := f)]
    exact place_ofInt_mono nonneg

/-- Numbers of one place other than zero are the same. -/
theorem eq_of_place_eq {x y : Binary f} (nonzero : x.place ≠ 0) (same : x.place = y.place) :
    x = y := by
  cases x with
  | nan => exact absurd rfl nonzero
  | infinite left => cases left with
    | false => exact (eq_infinite_of_ceiling_le (Int.le_of_eq same)).symm
    | true => exact (eq_infinite_of_le_neg_ceiling (Int.le_of_eq same.symm)).symm
  | finite left leftUnits left_representable =>
    have left_below := left_representable.lt_ceiling
    cases y with
    | nan => exact absurd same nonzero
    | infinite right => cases left <;> cases right <;> simp [place, withSign] at same <;> omega
    | finite right rightUnits _ =>
      cases left <;> cases right <;> simp [place, withSign] at same nonzero ⊢ <;> omega

/-- Integers that stand at one place are represented by one number. -/
theorem ofInt_eq_ofInt_iff {left right : Int} :
    (ofInt left : Binary f) = ofInt right ↔
      (ofInt left : Binary f).place = (ofInt right : Binary f).place := by
  constructor
  · intro same
    rw [same]
  · intro same
    by_cases zero : (ofInt left : Binary f).place = 0
    · rw [place_ofInt_eq_zero] at zero
      rw [zero, place_ofInt_zero, eq_comm, place_ofInt_eq_zero] at same
      rw [zero, same]
    · exact eq_of_place_eq zero same

section Counts

variable {count : Int} (nonneg : 0 ≤ count) (le : count ≤ (f.largest / f.one : Nat))

include nonneg le

theorem isFinite_ofIntDirect_of_le : (ofIntDirect count : Binary .double).isFinite := by
  have greatest_finite : (ofIntDirect (f.largest / f.one : Nat) : Binary .double).isFinite := by
    cases f <;> decide +kernel
  have nonneg_place : 0 ≤ (ofIntDirect count : Binary .double).place := by
    rw [place_ofIntDirect]
    exact Format.round_nonneg _ (Int.mul_nonneg nonneg (Int.natCast_nonneg _)) _
  have place_le := place_ofIntDirect_mono (f := .double) le
  rw [isFinite_iff_place (isNaN_ofIntDirect _)] at greatest_finite ⊢
  omega

/-- Up to the greatest count of a format every count is a finite number. -/
theorem isFinite_ofInt_of_le : (ofInt count : Binary f).isFinite := by
  have greatest_finite : (ofInt (f.largest / f.one : Nat) : Binary f).isFinite := by
    cases f <;> decide +kernel
  have nonneg_place := place_ofInt_nonneg_iff (f := f).mpr nonneg
  have place_le := place_ofInt_mono (f := f) le
  rw [isFinite_iff_place (isNaN_ofInt _)] at greatest_finite ⊢
  omega

end Counts

end Binary

namespace ElementType

theorem ofCount_integer {k : IntegerType} {count : Nat} (countable : (count : Int) ≤ k.greatest) :
    (integer k).ofCount count = .ok (Word.wrap k count) := by
  have contained : k.Contains count := IntegerType.contains_natCast countable
  have converted : Word.ofInt? k count = some ⟨count, contained⟩ := dif_pos contained
  have word_eq : (⟨count, contained⟩ : Word k) = Word.wrap k count :=
    Word.ext (IntegerType.wrap_of_contains contained).symm
  calc (integer k).ofCount count
      = (integer k).ofInt count := if_neg (Int.not_lt.mpr countable)
    _ = .ok (Word.wrap k count) := by rw [ofInt, converted, word_eq]

variable (f : Format)

theorem ofInt_real {value : Int} (finite : (Binary.ofIntDirect value : Binary .double).isFinite) :
    (real f).ofInt value = .ok (Binary.ofInt value : Binary f) := by
  rw [ofInt, if_pos finite]

theorem ofCount_of_le {count : Nat} (le : count ≤ f.largest / f.one) :
    (real f).ofCount count = .ok (Binary.ofInt count : Binary f) := by
  have finite : (Binary.ofIntDirect count : Binary .double).isFinite :=
    Binary.isFinite_ofIntDirect_of_le (f := f) (Int.natCast_nonneg count) (by omega)
  calc (real f).ofCount count
      = (real f).ofInt count := if_neg (by omega)
    _ = .ok (Binary.ofInt count : Binary f) := ofInt_real f finite

/-- Counts are refused beyond the largest finite number of a format, and only there. -/
theorem ofCount_real (count : Nat) :
    (real f).ofCount count =
      if f.largest / f.one < count then .error (.countTooLarge count (.real f))
      else .ok (Binary.ofInt count : Binary f) := by
  by_cases beyond : f.largest / f.one < count
  · rw [if_pos beyond]
    exact if_pos (Int.ofNat_lt.mpr beyond)
  · rw [if_neg beyond]
    exact ofCount_of_le f (by omega)

end ElementType

end StridedReduction

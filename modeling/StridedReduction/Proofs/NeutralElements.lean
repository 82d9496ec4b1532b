import StridedReduction.Element.Basic
import StridedReduction.Proofs.IntegerElements
import StridedReduction.Proofs.WordRing

/-!
# Neutral elements

Zero added to a number leaves it as it is, unless that is the negative zero; zero subtracted from a
number, one times a number and a number over one are that number, whichever it is.  No sum is the
negative zero but that of two such zeros (`Binary.eq_of_add_eq_signedZero`), so a sum that was
started from zero can be added to zero once more.  For complex numbers the same does not hold,
because one times an infinity is no infinity.
-/

namespace StridedReduction

theorem Format.representable_units_one (f : Format) : f.Representable f.one := by
  have kept := f.representable_mul_one Nat.one_le_two_pow
  rwa [Nat.one_mul] at kept

namespace Binary

variable {f : Format}

/-- A magnitude that the format holds is not rounded. -/
theorem nearest_of_representable (negative : Bool) {units denominator : Nat}
    (representable : f.Representable units) (positive : 0 < denominator) :
    (nearest negative (units * denominator) denominator : Binary f) =
      .finite negative units representable := by
  have kept : roundSignificant f.precision (units * denominator) denominator = units := by
    obtain ⟨-, digits, shift, few, rfl⟩ := representable
    exact roundSignificant_mul f.precision_pos few positive
  simp only [nearest, kept]
  exact dif_pos representable.1

theorem ofInt_one : (ofInt 1 : Binary f) = .finite false f.one f.representable_units_one := by
  have place_eq : (ofInt 1 : Binary f).place = 1 * f.one :=
    place_ofInt_of_natAbs_le Nat.one_le_two_pow
  have one_pos := f.one_pos
  apply eq_of_place_eq
  · omega
  · rw [place_eq, Int.one_mul]
    rfl

theorem one_mul (x : Binary f) : ofInt 1 * x = x := by
  rw [ofInt_one]
  cases x with
  | nan => rfl
  | infinite negative =>
    change (if f.one = 0 then _ else infinite (false ^^ negative)) = _
    rw [if_neg f.one_pos.ne', Bool.false_xor]
  | finite negative units representable =>
    change nearest (false ^^ negative) (f.one * units) f.one = _
    rw [Bool.false_xor, Nat.mul_comm, nearest_of_representable negative representable f.one_pos]

theorem div_one (x : Binary f) : x / ofInt 1 = x := by
  rw [ofInt_one]
  cases x with
  | nan => rfl
  | infinite negative =>
    change infinite (negative ^^ false) = _
    rw [Bool.xor_false]
  | finite negative units representable =>
    change (if f.one = 0 then _ else nearest (negative ^^ false) (units * f.one) f.one) = _
    rw [if_neg f.one_pos.ne', Bool.xor_false,
      nearest_of_representable negative representable f.one_pos]

theorem nearestTotal_withSign (negativeZero negative : Bool) {units : Nat} (nonzero : units ≠ 0)
    (representable : f.Representable units) :
    (nearestTotal negativeZero (withSign negative units) : Binary f) =
      .finite negative units representable := by
  have exact_eq := nearest_of_representable negative representable Nat.one_pos
  rw [Nat.mul_one] at exact_eq
  have total_ne : withSign negative units ≠ 0 := by
    cases negative <;> simpa [withSign] using nonzero
  have sign_eq : decide (withSign negative units < 0) = negative := by
    cases negative
    · simp [withSign]
    · simpa [withSign] using Nat.pos_of_ne_zero nonzero
  have magnitude : (withSign negative units).natAbs = units := by
    cases negative <;> simp [withSign]
  rw [nearestTotal, if_neg total_ne, sign_eq, magnitude, exact_eq]

theorem zero_add {x : Binary f} (upright : x ≠ signedZero true) : signedZero false + x = x := by
  cases x with
  | nan => rfl
  | infinite negative => rfl
  | finite negative units representable =>
    change nearestTotal false (0 + withSign negative units) = _
    rw [Int.zero_add]
    by_cases zero : units = 0
    · subst zero
      cases negative with
      | false => exact nearest_zero false 1
      | true => exact absurd rfl upright
    · exact nearestTotal_withSign false negative zero representable

theorem sub_zero (x : Binary f) : x - signedZero false = x := by
  cases x with
  | nan => rfl
  | infinite negative => rfl
  | finite negative units representable =>
    change nearestTotal (negative && true) (withSign negative units + 0) = _
    rw [Int.add_zero, Bool.and_true]
    by_cases zero : units = 0
    · subst zero
      cases negative
      · exact nearest_zero false 1
      · exact nearest_zero true 1
    · exact nearestTotal_withSign negative negative zero representable

theorem signedZero_ne : (signedZero false : Binary f) ≠ signedZero true := by
  intro same
  injection same
  contradiction

theorem eq_signedZero_of_place_eq_zero {x : Binary f} (finite : x.isFinite) (zero : x.place = 0) :
    ∃ negative, x = signedZero negative := by
  obtain ⟨negative, units, representable, rfl⟩ := exists_of_isFinite finite
  have no_units : units = 0 := by
    cases negative <;> simpa [place, withSign] using zero
  subst no_units
  exact ⟨negative, rfl⟩

/-- A sum is the negative zero only if both its terms are. -/
theorem eq_of_add_eq_signedZero {x y : Binary f} (sum_eq : x + y = signedZero true) :
    x = signedZero true ∧ y = signedZero true := by
  cases x with
  | nan => cases sum_eq
  | infinite left =>
    cases y with
    | nan => cases sum_eq
    | infinite right => cases left <;> cases right <;> cases sum_eq
    | finite right rightUnits _ => cases sum_eq
  | finite left leftUnits left_representable =>
    cases y with
    | nan => cases sum_eq
    | infinite right => cases sum_eq
    | finite right rightUnits right_representable =>
      change nearestTotal (left && right) (withSign left leftUnits + withSign right rightUnits) = _
        at sum_eq
      have total_eq : withSign left leftUnits + withSign right rightUnits = 0 := by
        have place_eq := congrArg place sum_eq
        rwa [place_nearestTotal, place_signedZero, Format.round_one_eq_zero] at place_eq
      rw [total_eq, nearestTotal, if_pos rfl, Int.natAbs_zero, nearest_zero] at sum_eq
      have both_negative : (left && right) = true := by
        injection sum_eq
      obtain ⟨rfl, rfl⟩ := Bool.and_eq_true_iff.mp both_negative
      simp only [withSign, if_true] at total_eq
      obtain ⟨rfl, rfl⟩ : leftUnits = 0 ∧ rightUnits = 0 := by omega
      exact ⟨rfl, rfl⟩

theorem foldl_add_ne_signedZero {start : Binary f} (upright : start ≠ signedZero true)
    (xs : List (Binary f)) : xs.foldl HAdd.hAdd start ≠ signedZero true := by
  induction xs generalizing start with
  | nil => exact upright
  | cons x xs induction => exact induction fun sum_eq => upright (eq_of_add_eq_signedZero sum_eq).1

end Binary

/-- A fold that has started from the identity can be combined with it once more, except for complex
numbers. -/
theorem Reduction.operation_identity_foldl {t : ElementType} (plain : ∀ f, t ≠ .complex f)
    (code : Reduction) (xs : List t.Carrier) :
    code.operation t (code.identity t) (xs.foldl (code.operation t) (code.identity t)) =
      xs.foldl (code.operation t) (code.identity t) := by
  cases t with
  | complex f => exact absurd rfl (plain f)
  | boolean =>
    cases code with
    | sum => exact Bool.false_or _
    | product => exact Bool.true_and _
  | integer k =>
    have left_id : ∀ x, code.operation (.integer k) (code.identity (.integer k)) x = x :=
      Std.LawfulLeftIdentity.left_id
    exact left_id _
  | real f =>
    cases code with
    | sum =>
      simp only [Reduction.operation, Reduction.identity, ElementType.add, ElementType.zero,
        Binary.ofInt_zero]
      exact Binary.zero_add (Binary.foldl_add_ne_signedZero Binary.signedZero_ne xs)
    | product =>
      simp only [Reduction.operation, Reduction.identity, ElementType.mul, ElementType.one,
        Binary.one_mul]

end StridedReduction

import StridedReduction.Proofs.FloatSigns
import StridedReduction.Proofs.IntegerElements
import StridedReduction.Proofs.Variance

/-!
# Degrees of freedom

A correction of a count is meant to be refused where it is negative or greater than the count.  But
both are rounded to numbers of the element type before they are compared, so a correction past the
count slips through where the format does not tell the two apart, and then nothing is left of the
count to divide by.
-/

namespace StridedReduction

section Corrections

variable (f : Format) (count : Nat) (correction : Int)

/-- The correction takes all of the count: both are one number of the format. -/
def Exhausts : Prop :=
  (Binary.ofInt correction : Binary f) = Binary.ofInt count

/-- The correction lies outside the count: below zero, or past the count and told apart from it. -/
def Outside : Prop :=
  correction < 0 ∨ ((count : Int) < correction ∧ ¬Exhausts f count correction)

variable {f count correction}

/-- Counts of fewer than the significant bits of the format are told apart from every integer. -/
theorem exhausts_iff_eq (few : count < 2 ^ f.precision) :
    Exhausts f count correction ↔ correction = count := by
  have one_pos : (0 : Int) < f.one := Int.natCast_pos.mpr f.one_pos
  have count_place : (Binary.ofInt count : Binary f).place = count * f.one :=
    Binary.place_ofInt_of_natAbs_le (by omega)
  constructor
  · intro exhausted
    have same : (Binary.ofInt correction : Binary f).place = count * f.one :=
      (Binary.ofInt_eq_ofInt_iff.mp exhausted).trans count_place
    rcases Int.lt_trichotomy correction count with less | equal | more
    · have nonneg : 0 ≤ correction := by
        rw [← Binary.place_ofInt_nonneg_iff (f := f), same]
        exact Int.mul_nonneg (Int.natCast_nonneg _) one_pos.le
      have correction_place : (Binary.ofInt correction : Binary f).place = correction * f.one :=
        Binary.place_ofInt_of_natAbs_le (by omega)
      rw [correction_place] at same
      exact Int.eq_of_mul_eq_mul_right one_pos.ne' same
    · exact equal
    · have next_le : ((count : Int) + 1) * f.one ≤ (Binary.ofInt correction : Binary f).place :=
        Binary.mul_one_le_place_ofInt (by omega) more
      rw [same, Int.add_mul] at next_le
      omega
  · rintro rfl
    rfl

/-- Inside the count are the corrections that are numbers from zero up to the count. -/
theorem not_outside_iff :
    ¬Outside f count correction ↔
      0 ≤ (Binary.ofInt correction : Binary f).place ∧
        (Binary.ofInt correction : Binary f).place ≤ (Binary.ofInt count : Binary f).place := by
  have same_iff : Exhausts f count correction ↔ _ := Binary.ofInt_eq_ofInt_iff
  rw [Outside, same_iff, Binary.place_ofInt_nonneg_iff]
  rcases Int.lt_or_le count correction with past | upto
  · have count_le := Binary.place_ofInt_mono (f := f) past.le
    omega
  · have le_count := Binary.place_ofInt_mono (f := f) upto
    omega

end Corrections

/-- Integers convert to the numbers that stand for them, unless they are beyond the doubles. -/
theorem Argument.toElement_integer (f : Format) (value : Int) :
    (Argument.integer value).toElement (.real f) =
      if (Binary.ofIntDirect value : Binary .double).isFinite then
        .ok (Binary.ofInt value : Binary f)
      else .error .outOfRange := by
  simp only [Argument.toElement, Argument.toDouble, Binary.ofInt]
  generalize (Binary.ofIntDirect value : Binary .double) = rounded
  split <;> rfl

theorem Binary.isFinite_of_isFinite_convert {f g : Format} {x : Binary f}
    (finite : (x.convert : Binary g).isFinite) : x.isFinite := by
  cases x with
  | finite => rfl
  | _ => exact finite

namespace ElementType

section Converted

variable {f : Format} {count : Int} {total taken : Binary f} {correction : Argument}
  (type : ItemType) (counted : (real f).ofCount count = .ok total)

include counted

theorem degreesOfFreedom_of_obstacle {obstacle : Argument.Obstacle}
    (refused : correction.toElement (real f) = .error obstacle) :
    (real f).degreesOfFreedom type count correction =
      .error (.ofObstacle correction type obstacle) := by
  rw [degreesOfFreedom, counted, refused]
  rfl

theorem degreesOfFreedom_of_converted (converted : correction.toElement (real f) = .ok taken) :
    (real f).degreesOfFreedom type count correction =
      if (Binary.ofInt 0).le taken && taken.le total then .ok (total - taken : Binary f)
      else .error (.correctionOutsideCount (.real f) taken count) := by
  simp only [degreesOfFreedom, counted, converted, bind, Except.bind, le, zero, sub?]
  rfl

variable {type}

theorem listedDegreesOfFreedom_of_converted {items : List Argument} {rank : Nat}
    (converted : Argument.onlyElement (real f) type items = .ok (rank, taken)) :
    (real f).listedDegreesOfFreedom type count items =
      if (Binary.ofInt 0).le taken && taken.le total then .ok (rank, (total - taken : Binary f))
      else .error (.listedCorrectionOutsideCount (.real f) rank taken count) := by
  simp only [listedDegreesOfFreedom, counted, converted, bind, Except.bind, le, zero, sub?]
  rfl

end Converted

variable {f : Format} {count : Nat} {total : Binary f} {correction : Int}
  (accepted : (real f).ofCount count = .ok total)

include accepted

theorem eq_ofInt_of_accepted : total = Binary.ofInt count ∧ total.isFinite := by
  rw [ofCount_real] at accepted
  split at accepted
  case isTrue => cases accepted
  case isFalse within =>
    have total_eq : total = Binary.ofInt count := (Except.ok.inj accepted).symm
    rw [total_eq]
    exact ⟨rfl, Binary.isFinite_ofInt_of_le (Int.natCast_nonneg count) (by omega)⟩

/-- A number from zero up to the total leaves such a number. -/
theorem sub_taken_nonneg {taken : Binary f}
    (inside : ((Binary.ofInt 0).le taken && taken.le total) = true) :
    (total - taken).isFinite ∧ 0 ≤ (total - taken).place := by
  have total_finite := (eq_ofInt_of_accepted accepted).2
  rw [Bool.and_eq_true, Binary.ofInt_zero] at inside
  obtain ⟨zero_le, le_total⟩ := inside
  obtain ⟨number, nonneg⟩ := Binary.zero_le_iff.mp zero_le
  rw [Binary.le_iff_place number (Binary.isNaN_of_isFinite total_finite)] at le_total
  have taken_finite := Binary.isFinite_of_nonneg_of_le total_finite number nonneg le_total
  have left_nonneg : 0 ≤ (total - taken).place := by
    rw [Binary.place_sub total_finite taken_finite]
    exact f.round_nonneg (by omega) 1
  have left_le : (total - taken).place ≤ total.place :=
    calc (total - taken).place
        = f.round (total.place - taken.place) 1 := Binary.place_sub total_finite taken_finite
      _ ≤ f.round total.place 1 := f.round_one_mono (by omega)
      _ = total.place := Binary.round_place total_finite
  have left_number := Binary.isNaN_sub total_finite taken_finite
  exact ⟨Binary.isFinite_of_nonneg_of_le total_finite left_number left_nonneg left_le, left_nonneg⟩

/-- What is compared: the numbers of the correction and of the count. -/
theorem le_zero_and_le_total_iff :
    ((Binary.ofInt 0).le (Binary.ofInt correction : Binary f) &&
      (Binary.ofInt correction : Binary f).le total) = true ↔ ¬Outside f count correction := by
  obtain ⟨total_eq, -⟩ := eq_ofInt_of_accepted accepted
  have compared {left right : Int} : (Binary.ofInt left : Binary f).le (Binary.ofInt right) = true ↔
      (Binary.ofInt left : Binary f).place ≤ (Binary.ofInt right : Binary f).place :=
    Binary.le_iff_place (Binary.isNaN_ofInt left) (Binary.isNaN_ofInt right)
  rw [total_eq, Bool.and_eq_true, compared, compared, Binary.place_ofInt_zero, not_outside_iff]

/-- A correction inside the count is finite, as the count is. -/
theorem isFinite_of_not_outside (inside : ¬Outside f count correction) :
    (Binary.ofInt correction : Binary f).isFinite := by
  obtain ⟨total_eq, total_finite⟩ := eq_ofInt_of_accepted accepted
  obtain ⟨nonneg, le⟩ := not_outside_iff.mp inside
  rw [Binary.isFinite_iff_place (Binary.isNaN_ofInt _)]
  rw [total_eq, Binary.isFinite_iff_place (Binary.isNaN_ofInt _)] at total_finite
  omega

theorem degreesOfFreedom_of_not_outside (type : ItemType) (inside : ¬Outside f count correction) :
    (real f).degreesOfFreedom type count (.integer correction) =
      .ok (total - Binary.ofInt correction : Binary f) := by
  have double_finite : (Binary.ofIntDirect correction : Binary .double).isFinite :=
    Binary.isFinite_of_isFinite_convert (isFinite_of_not_outside accepted inside)
  have converted := Argument.toElement_integer f correction
  rw [if_pos double_finite] at converted
  rw [degreesOfFreedom_of_converted type accepted converted,
    if_pos ((le_zero_and_le_total_iff accepted).mpr inside)]

theorem degreesOfFreedom_of_outside (type : ItemType) (outside : Outside f count correction) :
    ∃ failure, (real f).degreesOfFreedom type count (.integer correction) = .error failure ∧
      failure.kind = .value := by
  have converted := Argument.toElement_integer f correction
  split at converted
  · have compared := mt (le_zero_and_le_total_iff accepted).mp (not_not_intro outside)
    rw [degreesOfFreedom_of_converted type accepted converted, if_neg compared]
    exact ⟨_, rfl, rfl⟩
  · rw [degreesOfFreedom_of_obstacle type accepted converted]
    exact ⟨_, rfl, rfl⟩

/-- Nothing is left of the count exactly when the correction takes all of it. -/
theorem equals_zero_iff_exhausts (inside : ¬Outside f count correction) :
    (total - Binary.ofInt correction : Binary f).equals (.signedZero false) = true ↔
      Exhausts f count correction := by
  obtain ⟨total_eq, total_finite⟩ := eq_ofInt_of_accepted accepted
  have correction_finite := isFinite_of_not_outside accepted inside
  rw [Binary.equals_iff_place (Binary.isNaN_sub total_finite correction_finite) rfl,
    Binary.place_sub total_finite correction_finite, Binary.place_signedZero,
    Format.round_one_eq_zero, Exhausts, Binary.ofInt_eq_ofInt_iff, total_eq]
  omega

omit accepted

/-- Whatever the correction is, finitely many degrees of freedom are left, and not less than
none. -/
theorem degreesOfFreedom_nonneg {type : ItemType} {correction : Argument} {degrees : Binary f}
    (left : (real f).degreesOfFreedom type count correction = .ok degrees) :
    degrees.isFinite ∧ 0 ≤ degrees.place := by
  cases counted : (real f).ofCount count with
  | error failure =>
    rw [degreesOfFreedom, counted] at left
    cases left
  | ok total =>
    cases converted : correction.toElement (real f) with
    | error obstacle =>
      rw [degreesOfFreedom_of_obstacle type counted converted] at left
      cases left
    | ok taken =>
      rw [degreesOfFreedom_of_converted type counted converted] at left
      split at left
      case isTrue inside =>
        cases left
        exact sub_taken_nonneg counted inside
      case isFalse => cases left

theorem listedDegreesOfFreedom_nonneg {type : ItemType} {items : List Argument} {rank : Nat}
    {degrees : Binary f}
    (left : (real f).listedDegreesOfFreedom type count items = .ok (rank, degrees)) :
    degrees.isFinite ∧ 0 ≤ degrees.place := by
  cases counted : (real f).ofCount count with
  | error failure =>
    rw [listedDegreesOfFreedom, counted] at left
    cases left
  | ok total =>
    cases converted : Argument.onlyElement (real f) type items with
    | error failure =>
      rw [listedDegreesOfFreedom, counted, converted] at left
      cases left
    | ok only =>
      obtain ⟨axes, taken⟩ := only
      rw [listedDegreesOfFreedom_of_converted counted converted] at left
      split at left
      case isTrue inside =>
        cases left
        exact sub_taken_nonneg counted inside
      case isFalse => cases left

end ElementType

/-- An outcome that an integer correction of a count decides: it is refused as a bad value exactly
where the correction lies outside the count, and its results are as described otherwise. -/
structure DecidedBy {α : Type} (f : Format) (count : Nat) (correction : Int)
    (outcome : Except Failure α) (described : α → Prop) : Prop where
  refused_iff : (∃ failure, outcome = .error failure) ↔ Outside f count correction
  kind_eq : ∀ failure, outcome = .error failure → failure.kind = .value
  results : ∀ result, outcome = .ok result → described result

/-- The answer is a quotient by degrees of freedom, which are zero exactly where the correction
takes all of the count; then, and only then, it comes with a warning. -/
def DividedBy {f : Format} (count : Nat) (correction : Int) (quotient : Binary f → Value)
    (answer : Answer) : Prop :=
  ∃ degrees : Binary f, answer.value = quotient degrees ∧
    (degrees.equals (.signedZero false) = true ↔ Exhausts f count correction) ∧
    (.noDegreesOfFreedom ∈ answer.warnings ↔ Exhausts f count correction)

namespace DecidedBy

variable {α β : Type} {f : Format} {count : Nat} {correction : Int} {described : α → Prop}

theorem of_error (outside : Outside f count correction) {failure : Failure}
    (kind_eq : failure.kind = .value) :
    DecidedBy f count correction (.error failure) described where
  refused_iff := ⟨fun _ => outside, fun _ => ⟨failure, rfl⟩⟩
  kind_eq := by
    rintro _ ⟨⟩
    exact kind_eq
  results := by
    rintro _ ⟨⟩

theorem of_ok (inside : ¬Outside f count correction) {result : α} (holds : described result) :
    DecidedBy f count correction (.ok result) described where
  refused_iff := by
    constructor
    · rintro ⟨_, ⟨⟩⟩
    · exact fun outside => absurd outside inside
  kind_eq := by
    rintro _ ⟨⟩
  results := by
    rintro _ ⟨⟩
    exact holds

theorem map {outcome : Except Failure α} (decided : DecidedBy f count correction outcome described)
    {next : α → β} {described' : β → Prop}
    (carried : ∀ result, described result → described' (next result)) :
    DecidedBy f count correction (outcome.map next) described' := by
  cases outcome with
  | error failure => exact of_error (decided.refused_iff.mp ⟨failure, rfl⟩) (decided.kind_eq _ rfl)
  | ok result =>
    have inside : ¬Outside f count correction := by
      intro outside
      obtain ⟨_, ⟨⟩⟩ := decided.refused_iff.mpr outside
    exact of_ok inside (carried result (decided.results result rfl))

end DecidedBy

section Outcomes

variable {f : Format} {count : Nat} {total : Binary f}
  (accepted : (ElementType.real f).ofCount count = .ok total) (correction : Int)

include accepted

theorem degreesOfFreedom_decided (type : ItemType) :
    DecidedBy f count correction
      ((ElementType.real f).degreesOfFreedom type count (.integer correction))
      fun degrees : Binary f =>
        degrees.equals (.signedZero false) = true ↔ Exhausts f count correction := by
  by_cases outside : Outside f count correction
  · obtain ⟨failure, refused, kind_eq⟩ :=
      ElementType.degreesOfFreedom_of_outside accepted type outside
    rw [refused]
    exact .of_error outside kind_eq
  · rw [ElementType.degreesOfFreedom_of_not_outside accepted type outside]
    exact .of_ok outside (ElementType.equals_zero_iff_exhausts accepted outside)

/-- A quotient by the degrees of freedom comes with the warnings for them. -/
theorem quotient_decided (type : ItemType) (quotient : Binary f → Value) :
    DecidedBy f count correction
      (((ElementType.real f).degreesOfFreedom type count (.integer correction)).map
        fun degrees : Binary f =>
          { value := quotient degrees, warnings := AnyArray.divisionWarnings degrees })
      (DividedBy count correction quotient) := by
  refine (degreesOfFreedom_decided accepted correction type).map fun degrees zero_iff => ?_
  refine ⟨degrees, rfl, zero_iff, ?_⟩
  rw [← zero_iff]
  cases degrees_zero : degrees.equals (.signedZero false) <;>
    simp [AnyArray.divisionWarnings, degrees_zero]

/-- An integer correction is refused exactly where it is negative, or past the count and told apart
from it by the format, and nothing is left of the count exactly where the format does not tell the
two apart.  Up to the significant bits of the format it tells apart all integers.  The moments
refuse these corrections only, and divide by zero, with a warning, where nothing is left. -/
theorem integer_corrections :
    (∀ type, DecidedBy f count correction
      ((ElementType.real f).degreesOfFreedom type count (.integer correction))
      fun degrees : Binary f =>
        degrees.equals (.signedZero false) = true ↔ Exhausts f count correction) ∧
    (count < 2 ^ f.precision → (Exhausts f count correction ↔ correction = count)) ∧
    ∀ (swapped : Bool) (data : Strided (Binary f)),
      let a := AnyArray.elements (.real f) swapped data
      (data.size = count →
        DecidedBy f count correction ((Call.variance (some (.integer correction))).apply a)
          (DividedBy count correction fun degrees => .scalar (.real f) (data.squares / degrees)) ∧
        DecidedBy f count correction ((Call.deviation (some (.integer correction))).apply a)
          (DividedBy count correction fun degrees =>
            .scalar (.real f) (data.squares / degrees).sqrt)) ∧
      ∀ (axis : Argument) (position : Nat), axis.axis? = some (position : Int) →
        position < data.view.rank → (data.view.axis position).extent = count →
          DecidedBy f count correction
            ((Call.varianceAxis axis (some (.integer correction))).apply a)
            (DividedBy count correction fun degrees => .array (.elements (.real f) swapped
              ((data.squaresAxis position).modify fun x => x / degrees))) ∧
          DecidedBy f count correction
            ((Call.deviationAxis axis (some (.integer correction))).apply a)
            (DividedBy count correction fun degrees => .array (.elements (.real f) swapped
              ((data.squaresAxis position).modify fun x => (x / degrees).sqrt))) := by
  refine ⟨degreesOfFreedom_decided accepted correction, exhausts_iff_eq, ?_⟩
  intro swapped data a
  constructor
  · intro size_eq
    have outcome (operation : Operation)
        (complete : operation.missing (ElementType.real f).capabilities = [])
        (finish : {f : Format} → Binary f → Binary f) :
        DecidedBy f count correction (a.varianceOf operation finish (.integer correction))
          (DividedBy count correction fun degrees =>
            .scalar (.real f) (data.variance finish degrees)) := by
      rw [AnyArray.varianceOf_elements swapped data finish _ complete, size_eq]
      exact quotient_decided accepted correction _ _
    exact ⟨outcome .variance rfl id, outcome .deviation rfl Binary.sqrt⟩
  · intro axis position given within extent_eq
    have outcome (operation : Operation)
        (complete : operation.missing (ElementType.real f).capabilities = [])
        (finish : {f : Format} → Binary f → Binary f) :
        DecidedBy f count correction (a.variancesOf operation finish axis (.integer correction))
          (DividedBy count correction fun degrees =>
            .array (.elements (.real f) swapped (data.variances finish position degrees))) := by
      rw [AnyArray.variancesOf_elements swapped data finish _ complete given within, extent_eq]
      exact quotient_decided accepted correction _ _
    exact ⟨outcome .varianceAxis rfl id, outcome .deviationAxis rfl Binary.sqrt⟩

end Outcomes

/-- Two thousand and fifty is the first correction past two thousand and forty-eight halves that is
refused. -/
theorem integer_corrections_of_halves :
    let data : Strided (Binary .half) := ⟨#[Binary.ofInt 1], ⟨0, [⟨2048, 0⟩]⟩⟩
    (ElementType.real .half).ofCount (2048 : Nat) = .ok (Binary.ofInt 2048 : Binary .half) ∧
      data.size = 2048 ∧ Outside .half 2048 2050 ∧
      DecidedBy .half 2048 2050
        ((Call.variance (some (.integer 2050))).apply (.elements (.real .half) false data))
        (DividedBy 2048 2050 fun degrees => .scalar (.real .half) (data.squares / degrees)) := by
  intro data
  have accepted :
      (ElementType.real .half).ofCount (2048 : Nat) = .ok (Binary.ofInt 2048 : Binary .half) :=
    ElementType.ofCount_of_le .half (by decide)
  have outside : Outside .half 2048 2050 := by
    refine .inr ⟨by decide, ?_⟩
    rw [Exhausts]
    decide +kernel
  exact ⟨accepted, rfl, outside, ((integer_corrections accepted 2050).2.2 false data).1 rfl |>.1⟩

/-- Halves do not tell two thousand and forty-nine from two thousand and forty-eight, so the greater
of the two is accepted as a correction of the smaller one, though it should be refused, and leaves
zero. -/
theorem correction_past_halves_accepted :
    (ElementType.real .half).ofCount 2048 = .ok (Binary.ofInt 2048 : Binary .half) ∧
      (2048 : Int) < 2049 ∧
      (ElementType.real .half).degreesOfFreedom (.ofElement (.real .half)) 2048 (.integer 2049) =
        .ok (Binary.signedZero false : Binary .half) := by
  have accepted :
      (ElementType.real .half).ofCount (2048 : Nat) = .ok (Binary.ofInt 2048 : Binary .half) :=
    ElementType.ofCount_of_le .half (by decide)
  have inside : ¬Outside .half 2048 2049 := by
    rw [not_outside_iff]
    decide +kernel
  have difference : (Binary.ofInt 2048 - Binary.ofInt 2049 : Binary .half) = .signedZero false := by
    decide +kernel
  refine ⟨accepted, by decide, ?_⟩
  rw [← difference]
  exact ElementType.degreesOfFreedom_of_not_outside accepted _ inside

end StridedReduction

import StridedReduction.Proofs.DegreesOfFreedom
import StridedReduction.Proofs.RoundedMoments

/-!
# Signs of variances

The sum of the squared distances of finite elements from their mean, at any step of the pass over
them, and the variances that come from it by positive degrees of freedom, are not negative unless a
distance overflows (`variances_of_finite`).
-/

namespace StridedReduction

/-- The value is one number, as an element or as an array of one element. -/
inductive Value.Holds {f : Format} (x : Binary f) : Value → Prop
  | scalar : Holds x (.scalar (.real f) x)
  | single (rank : Nat) : Holds x (.array (.single (.real f) rank x))

namespace AnyArray

variable {f : Format} {swapped : Bool} {data : Strided (Binary f)} {answer : Answer}

theorem place_pos_of_no_warning {degrees : Binary f}
    (left : degrees.isFinite ∧ 0 ≤ degrees.place) (calm : divisionWarnings degrees = []) :
    degrees.isFinite ∧ 0 < degrees.place := by
  obtain ⟨finite, nonneg⟩ := left
  have nonzero : degrees.equals (.signedZero false) ≠ true := by
    intro zero
    simp [divisionWarnings, zero] at calm
  rw [ne_eq, Binary.equals_iff_place (Binary.isNaN_of_isFinite finite) rfl,
    Binary.place_signedZero] at nonzero
  exact ⟨finite, by omega⟩

/-- A variance without warnings is a quotient by positive degrees of freedom. -/
theorem variance_eq_quotient {correction : Option Argument}
    (answered : (Call.variance correction).apply (elements (.real f) swapped data) = .ok answer)
    (calm : answer.warnings = []) :
    ∃ degrees : Binary f, (degrees.isFinite ∧ 0 < degrees.place) ∧
      answer.value.Holds (data.variance id degrees) := by
  change (elements (.real f) swapped data).momentOf .variance id correction = _ at answered
  rcases Call.byKind_cases correction with ⟨items, by_kind⟩ | ⟨value, by_kind⟩ <;>
    rw [momentOf, by_kind] at answered
  · rw [listedVarianceOf_elements swapped data id rfl] at answered
    obtain ⟨⟨rank, degrees⟩, left, ⟨⟩⟩ := exists_of_bind_eq_ok answered
    exact ⟨degrees, place_pos_of_no_warning (ElementType.listedDegreesOfFreedom_nonneg left) calm,
      .single rank⟩
  · rw [varianceOf_elements swapped data id value rfl] at answered
    obtain ⟨degrees, left, ⟨⟩⟩ := exists_of_bind_eq_ok answered
    exact ⟨degrees, place_pos_of_no_warning (ElementType.degreesOfFreedom_nonneg left) calm,
      .scalar⟩

/-- Variances of lanes without warnings are quotients by positive degrees of freedom. -/
theorem variances_eq_quotients {axis : Argument} {position : Nat}
    (given : axis.axis? = some (position : Int)) (within : position < data.view.rank)
    {correction : Option Argument}
    (answered : (Call.varianceAxis axis correction).apply (elements (.real f) swapped data) =
      .ok answer)
    (calm : answer.warnings = []) :
    ∃ degrees : Binary f, (degrees.isFinite ∧ 0 < degrees.place) ∧
      answer.value =
        .array (elements (.real f) swapped (data.variances id position degrees)) := by
  change (elements (.real f) swapped data).momentsOf .varianceAxis id axis correction = _
    at answered
  rcases Call.byKind_cases correction with ⟨items, by_kind⟩ | ⟨value, by_kind⟩ <;>
    rw [momentsOf, by_kind] at answered
  · rw [listedVariancesOf_elements swapped data id rfl given within] at answered
    obtain ⟨⟨rank, degrees⟩, left, yielded⟩ := exists_of_bind_eq_ok answered
    dsimp only at yielded
    split at yielded
    case isTrue => cases yielded
    case isFalse =>
      cases yielded
      exact ⟨degrees,
        place_pos_of_no_warning (ElementType.listedDegreesOfFreedom_nonneg left) calm, rfl⟩
  · rw [variancesOf_elements swapped data id value rfl given within] at answered
    obtain ⟨degrees, left, ⟨⟩⟩ := exists_of_bind_eq_ok answered
    exact ⟨degrees, place_pos_of_no_warning (ElementType.degreesOfFreedom_nonneg left) calm, rfl⟩

theorem finite_lane {position : Nat} (within : position < data.view.rank)
    (finite : ∀ x ∈ data.toList, x.isFinite) {index : List Nat}
    (member : index ∈ indices (data.view.shape.eraseIdx position)) :
    ∀ x ∈ data.laneElements position index, x.isFinite := by
  intro x taken
  apply finite
  rw [← (Strided.flatMap_laneElements_perm data within).mem_iff]
  exact List.mem_flatMap.mpr ⟨index, member, taken⟩

/-- The sums of squares that the pass over finite elements finds are not negative, at any step and
in every lane, and neither are the variances by degrees of freedom other than zero; unless the
distance of the last element from the mean overflows, which then makes them negative infinity, or an
earlier one has, which leaves no number.  Neither happens where the doubles of all elements are
finite. -/
theorem variances_of_finite (f : Format) (swapped : Bool) (data : Strided (Binary f))
    (finite : ∀ x ∈ data.toList, x.isFinite) :
    let a := elements (.real f) swapped data
    (∀ steps, Dispersion (data.toList.take steps)
      (Moments.ofList (data.toList.take steps)).squares) ∧
    (∀ correction answer, (Call.variance correction).apply a = .ok answer →
      answer.warnings = [] → ∃ x, answer.value.Holds x ∧ Dispersion data.toList x) ∧
    ∀ (axis : Argument) (position : Nat), axis.axis? = some (position : Int) →
      position < data.view.rank →
        (∀ steps, List.Forall₂
          (fun index => Dispersion ((data.laneElements position index).take steps))
          (indices (data.view.shape.eraseIdx position)) (data.lanesAfter position steps).squares) ∧
        ∀ correction answer, (Call.varianceAxis axis correction).apply a = .ok answer →
          answer.warnings = [] → ∃ result : Strided (Binary f),
            answer.value = .array (elements (.real f) swapped result) ∧
              result.view.shape = data.view.shape.eraseIdx position ∧
              ∀ index ∈ indices (data.view.shape.eraseIdx position),
                Dispersion (data.laneElements position index) (result.get index) := by
  intro a
  refine ⟨?_, ?_, ?_⟩
  · intro steps
    exact dispersion_squares fun x member => finite x (List.mem_of_mem_take member)
  · intro correction answer answered calm
    obtain ⟨degrees, ⟨degrees_finite, positive⟩, holds⟩ := variance_eq_quotient answered calm
    exact ⟨_, holds, (dispersion_squares finite).div degrees_finite positive⟩
  · intro axis position given within
    refine ⟨?_, ?_⟩
    · intro steps
      rw [Strided.squares_lanesAfter within, List.forall₂_map_right_iff, List.forall₂_same]
      intro index member
      apply dispersion_squares
      exact fun x taken => finite_lane within finite member x (List.mem_of_mem_take taken)
    · intro correction answer answered calm
      obtain ⟨degrees, ⟨degrees_finite, positive⟩, value_eq⟩ :=
        variances_eq_quotients given within answered calm
      refine ⟨_, value_eq, Strided.shape_variances id data position degrees, ?_⟩
      intro index member
      rw [Strided.get_variances within id degrees member, Strided.variance,
        Strided.squares_through_lane within member]
      exact (dispersion_squares (finite_lane within finite member)).div degrees_finite positive

/-- The same halves met twice, once in each of two rows that are stored as one. -/
theorem variances_of_finite_rows :
    let data : Strided (Binary .half) :=
      ⟨#[Binary.ofInt 1, Binary.ofInt (-2), Binary.ofInt 4], ⟨2, [⟨2, 0⟩, ⟨3, -1⟩]⟩⟩
    (∀ x ∈ data.toList, x.isFinite) ∧ ∃ answer,
      (Call.varianceAxis (.integer 1) none).apply (elements (.real .half) false data) = .ok answer ∧
        answer.warnings = [] ∧ ∃ result : Strided (Binary .half),
          answer.value = .array (elements (.real .half) false result) ∧
            Dispersion [Binary.ofInt 4, Binary.ofInt (-2), Binary.ofInt 1] (result.get [0]) := by
  intro data
  have finite : ∀ x ∈ data.toList, x.isFinite := by decide +kernel
  have given : (Argument.integer 1).axis? = some ((1 : Nat) : Int) := rfl
  have within : 1 < data.view.rank := by decide
  have accepted :
      (ElementType.real .half).ofCount (3 : Nat) = .ok (Binary.ofInt 3 : Binary .half) :=
    ElementType.ofCount_of_le .half (by decide)
  have inside : ¬Outside .half 3 0 := by
    rw [not_outside_iff]
    decide +kernel
  have left := ElementType.degreesOfFreedom_of_not_outside accepted
    (elements (.real .half) false data).itemType inside
  have answered : (Call.varianceAxis (.integer 1) none).apply (elements (.real .half) false data) =
      .ok ⟨.array (elements (.real .half) false
        (data.variances id 1 (Binary.ofInt 3 - Binary.ofInt 0))), []⟩ := by
    change (elements (.real .half) false data).varianceAxis (.integer 1) (.integer 0) = _
    rw [varianceAxis, variancesOf_elements false data id _ rfl given within]
    have extent_eq : (data.view.axis 1).extent = 3 := rfl
    have calm : divisionWarnings (Binary.ofInt 3 - Binary.ofInt 0 : Binary .half) = [] := by
      decide +kernel
    rw [extent_eq, left, ← calm]
    rfl
  obtain ⟨-, -, along⟩ := variances_of_finite .half false data finite
  obtain ⟨result, value_eq, -, dispersion⟩ :=
    (along (.integer 1) 1 given within).2 none _ answered rfl
  have lane_eq : data.laneElements 1 [0] = [Binary.ofInt 4, Binary.ofInt (-2), Binary.ofInt 1] := by
    decide +kernel
  refine ⟨finite, _, answered, rfl, result, value_eq, ?_⟩
  rw [← lane_eq]
  exact dispersion [0] (by decide)

/-- The difference of the least and the greatest half overflows, and makes their sum of squares and
their variance negative infinity. -/
theorem variance_of_extreme_halves :
    let data : Strided (Binary .half) :=
      ⟨#[Binary.ofInt (-65504), Binary.ofInt 65504], ⟨0, [⟨2, 1⟩]⟩⟩
    (∀ x ∈ data.toList, x.isFinite) ∧ (Moments.ofList data.toList).squares = .infinite true ∧
      (Call.variance none).apply (elements (.real .half) false data) =
        .ok ⟨.scalar (.real .half) (.infinite true), []⟩ := by
  intro data
  have squares_eq : data.squares = .infinite true := by decide +kernel
  have accepted :
      (ElementType.real .half).ofCount (2 : Nat) = .ok (Binary.ofInt 2 : Binary .half) :=
    ElementType.ofCount_of_le .half (by decide)
  have inside : ¬Outside .half 2 0 := by
    rw [not_outside_iff]
    decide +kernel
  have left := ElementType.degreesOfFreedom_of_not_outside accepted
    (elements (.real .half) false data).itemType inside
  refine ⟨by decide +kernel, squares_eq, ?_⟩
  change (elements (.real .half) false data).variance (.integer 0) = _
  rw [variance, varianceOf_elements false data id _ rfl]
  have size_eq : data.size = 2 := rfl
  have quotient_eq :
      (.infinite true : Binary .half) / (Binary.ofInt 2 - Binary.ofInt 0) = .infinite true := by
    decide +kernel
  have calm : divisionWarnings (Binary.ofInt 2 - Binary.ofInt 0 : Binary .half) = [] := by
    decide +kernel
  rw [size_eq, left]
  change Except.ok (Answer.mk (.scalar (.real .half) (data.variance id _)) (divisionWarnings _)) = _
  rw [Strided.variance, squares_eq, normalized, quotient_eq, calm]
  rfl

end AnyArray

end StridedReduction

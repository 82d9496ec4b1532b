import StridedReduction.Proofs.NeutralElements
import StridedReduction.Proofs.RoundedVariances

/-!
# Moments of constant elements

The first of several equal finite elements becomes the mean without any rounding, and from then on
no distance from the mean is other than a zero, by whatever count it is divided
(`Moments.Settled.push`).  The squares stay the positive zero, and so do the variances and the
standard deviations by any degrees of freedom (`moments_of_constant`).
-/

namespace StridedReduction

namespace Binary

variable {f : Format} {x y : Binary f}

theorem isFinite_of_place_eq_zero (number : x.isNaN = false) (zero : x.place = 0) :
    x.isFinite := by
  rw [isFinite_iff_place number, zero]
  exact Nat.two_pow_pos _

/-- What equals a finite number is finite and stands at its place. -/
theorem place_eq_of_equals (finite : x.isFinite) (same : y.equals x = true) :
    y.isFinite ∧ y.place = x.place := by
  have number : y.isNaN = false := by
    cases y with
    | nan => cases same
    | _ => rfl
  rw [equals_iff_place number (isNaN_of_isFinite finite)] at same
  refine ⟨?_, same⟩
  rw [isFinite_iff_place (isNaN_of_isFinite finite)] at finite
  rwa [isFinite_iff_place number, same]

/-- The distance of numbers that stand at one place is a zero. -/
theorem sub_of_place_eq (x_finite : x.isFinite) (y_finite : y.isFinite)
    (same : x.place = y.place) : (x - y).isFinite ∧ (x - y).place = 0 := by
  have place_eq : (x - y).place = 0 := by
    rw [place_sub x_finite y_finite, same, Int.sub_self, f.round_zero]
  exact ⟨isFinite_of_place_eq_zero (isNaN_sub x_finite y_finite) place_eq, place_eq⟩

theorem signedZero_add_zero (negative : Bool) :
    signedZero negative + signedZero false = (signedZero false : Binary f) := by
  cases negative <;> exact nearest_zero false 1

theorem zero_div (finite : y.isFinite) (positive : 0 < y.place) :
    signedZero false / y = signedZero false := by
  obtain ⟨units, representable, rfl⟩ := exists_of_place_pos finite positive
  have nonzero : units ≠ 0 := by
    rintro rfl
    exact absurd positive (Int.lt_irrefl 0)
  change (if units = 0 then _ else nearest false (0 * f.one) units) = _
  rw [if_neg nonzero, Nat.zero_mul, nearest_zero]

end Binary

namespace Moments

variable {f : Format} {m : Moments (Binary f)} {x y : Binary f}

/-- Elements that have reached the mean keep the squares at zero. -/
theorem squares_push_of_reached (still : m.squares = .signedZero false) (y_finite : y.isFinite)
    (near : (y - m.mean).isFinite) (mean_finite : (m.push y).mean.isFinite)
    (reached : (m.push y).mean.place = y.place) : (m.push y).squares = .signedZero false := by
  obtain ⟨rest_finite, rest_zero⟩ := Binary.sub_of_place_eq y_finite mean_finite reached.symm
  have product_place : ((y - (m.push y).mean) * (y - m.mean)).place = 0 := by
    rw [Binary.place_mul rest_finite near, rest_zero, Int.zero_mul, f.round_zero]
  have product_finite :=
    Binary.isFinite_of_place_eq_zero (Binary.isNaN_mul rest_finite near) product_place
  obtain ⟨negative, product_eq⟩ :=
    Binary.eq_signedZero_of_place_eq_zero product_finite product_place
  change (y - (m.push y).mean) * (y - m.mean) + m.squares = _
  rw [product_eq, still, Binary.signedZero_add_zero]

/-- The moments after one or more elements that all equal `x`. -/
structure Settled (x : Binary f) (m : Moments (Binary f)) : Prop where
  sound : m.Sound
  mean_place : m.mean.place = x.place
  squares_eq : m.squares = .signedZero false

/-- The first element is its own distance from nothing, and is divided by one. -/
theorem settled_first (y_finite : y.isFinite) : Settled y (empty.push y) := by
  have mean_eq : (empty : Moments (Binary f)).mean = .signedZero false := Binary.natCast_zero
  have squares_eq : (empty : Moments (Binary f)).squares = .signedZero false := Binary.natCast_zero
  have distance_eq : y - (empty : Moments (Binary f)).mean = y := by
    rw [mean_eq, Binary.sub_zero]
  have near : (y - (empty : Moments (Binary f)).mean).isFinite :=
    (congrArg Binary.isFinite distance_eq).trans y_finite
  have next_eq : (empty.push y).mean = .signedZero false + y := by
    have count_eq : (empty : Moments (Binary f)).count + 1 = 1 := rfl
    rw [push, distance_eq, mean_eq, count_eq, Binary.natCast_eq_ofInt, Int.natCast_one,
      Binary.div_one]
  have reached : (empty.push y).mean.place = y.place := by
    rw [next_eq, Binary.place_add rfl y_finite, Binary.place_signedZero, Int.zero_add,
      Binary.round_place y_finite]
  obtain ⟨mean_finite, -⟩ := sound_empty.mean_mem y_finite near
  exact ⟨sound_empty.push y_finite near, reached,
    squares_push_of_reached squares_eq y_finite near mean_finite reached⟩

/-- Rounding leaves the mean where it is, because it lies between the old mean and the element. -/
theorem Settled.push (settled : Settled x m) (y_finite : y.isFinite) (same : y.place = x.place) :
    Settled x (m.push y) := by
  obtain ⟨sound, mean_place, squares_eq⟩ := settled
  obtain ⟨near, -⟩ :=
    Binary.sub_of_place_eq y_finite sound.mean_finite (same.trans mean_place.symm)
  obtain ⟨mean_finite, between⟩ := sound.mean_mem y_finite near
  rw [mean_place, same, Set.uIcc_self, Set.mem_singleton_iff] at between
  exact ⟨sound.push y_finite near, between,
    squares_push_of_reached squares_eq y_finite near mean_finite (between.trans same.symm)⟩

theorem settled_ofList {xs : List (Binary f)} (nonempty : xs ≠ [])
    (constant : ∀ y ∈ xs, y.isFinite ∧ y.place = x.place) : Settled x (ofList xs) := by
  induction xs using List.reverseRecOn with
  | nil => exact absurd rfl nonempty
  | append_singleton xs y induction =>
    obtain ⟨y_finite, same⟩ := constant y (by simp)
    rw [ofList_append_singleton]
    by_cases first : xs = []
    · obtain ⟨sound, mean_place, squares_eq⟩ := settled_first y_finite
      rw [first]
      exact ⟨sound, mean_place.trans same, squares_eq⟩
    · have before := induction first fun z member => constant z (by simp [member])
      exact before.push y_finite same

/-- The squares of equal finite elements are the positive zero. -/
theorem squares_of_constant {xs : List (Binary f)} (finite : x.isFinite)
    (constant : ∀ y ∈ xs, y.equals x = true) : (ofList xs).squares = .signedZero false := by
  by_cases nonempty : xs = []
  · rw [nonempty]
    exact Binary.natCast_zero
  · exact (settled_ofList nonempty fun y member =>
      Binary.place_eq_of_equals finite (constant y member)).squares_eq

end Moments

/-- What the correction of a moment leaves of a count, with the number of axes that it has as a
list. -/
def Call.remaining (f : Format) (type : ItemType) (count : Nat) (correction : Option Argument) :
    Except Failure (Nat × Binary f) :=
  byKind correction ((ElementType.real f).listedDegreesOfFreedom type count) fun value => do
    return (0, ← (ElementType.real f).degreesOfFreedom type count value)

namespace AnyArray

variable {f : Format} (swapped : Bool) (data : Strided (Binary f)) {correction : Option Argument}
  {rank : Nat} {degrees : Binary f}

theorem remaining_integer {type : ItemType} {count : Nat} {value : Int}
    (left : (ElementType.real f).degreesOfFreedom type count (.integer value) = .ok degrees) :
    Call.remaining f type count (some (.integer value)) = .ok (0, degrees) := by
  change (ElementType.real f).degreesOfFreedom type count (.integer value) >>= _ = _
  rw [left]
  rfl

/-- Where anything but zero is left of the count, it is finite and positive. -/
theorem place_pos_of_remaining {type : ItemType} {count : Nat}
    (left : Call.remaining f type count correction = .ok (rank, degrees))
    (calm : divisionWarnings degrees = []) : degrees.isFinite ∧ 0 < degrees.place := by
  apply place_pos_of_no_warning _ calm
  rw [Call.remaining] at left
  rcases Call.byKind_cases correction with ⟨items, by_kind⟩ | ⟨value, by_kind⟩ <;>
    rw [by_kind] at left
  · exact ElementType.listedDegreesOfFreedom_nonneg left
  · obtain ⟨_, single_left, ⟨⟩⟩ := exists_of_bind_eq_ok left
    exact ElementType.degreesOfFreedom_nonneg single_left

section Quotients

variable {operation : Operation} (finish : {f : Format} → Binary f → Binary f)
  (complete : operation.missing (ElementType.real f).capabilities = [])

include complete

theorem momentOf_of_remaining
    (left : Call.remaining f (elements (.real f) swapped data).itemType data.size correction =
      .ok (rank, degrees)) :
    ∃ value : Value,
      (elements (.real f) swapped data).momentOf operation finish correction =
          .ok ⟨value, divisionWarnings degrees⟩ ∧
        value.Holds (data.variance finish degrees) := by
  rw [Call.remaining] at left
  rcases Call.byKind_cases correction with ⟨items, by_kind⟩ | ⟨value, by_kind⟩ <;>
    rw [by_kind] at left
  · refine ⟨_, ?_, .single rank⟩
    rw [momentOf, by_kind, listedVarianceOf_elements swapped data finish complete, left]
    rfl
  · obtain ⟨_, single_left, ⟨⟩⟩ := exists_of_bind_eq_ok left
    refine ⟨_, ?_, .scalar⟩
    rw [momentOf, by_kind, varianceOf_elements swapped data finish _ complete, single_left]
    rfl

theorem momentsOf_of_remaining {axis : Argument} {position : Nat}
    (given : axis.axis? = some (position : Int)) (within : position < data.view.rank)
    (left : Call.remaining f (elements (.real f) swapped data).itemType
      (data.view.axis position).extent correction = .ok (rank, degrees))
    (fits : rank < data.view.rank) :
    (elements (.real f) swapped data).momentsOf operation finish axis correction =
      .ok ⟨.array (elements (.real f) swapped (data.variances finish position degrees)),
        divisionWarnings degrees⟩ := by
  rw [Call.remaining] at left
  rcases Call.byKind_cases correction with ⟨items, by_kind⟩ | ⟨value, by_kind⟩ <;>
    rw [by_kind] at left
  · rw [momentsOf, by_kind, listedVariancesOf_elements swapped data finish complete given within,
      left]
    exact if_neg (Nat.not_le_of_lt fits)
  · obtain ⟨_, single_left, ⟨⟩⟩ := exists_of_bind_eq_ok left
    rw [momentsOf, by_kind, variancesOf_elements swapped data finish _ complete given within,
      single_left]
    rfl

section Constant

variable (keeps_zero : finish (.signedZero false : Binary f) = .signedZero false)
  (calm : divisionWarnings degrees = [])

include keeps_zero calm

theorem momentOf_of_constant {x : Binary f} (finite : x.isFinite)
    (constant : ∀ y ∈ data.toList, y.equals x = true)
    (left : Call.remaining f (elements (.real f) swapped data).itemType data.size correction =
      .ok (rank, degrees)) :
    ∃ value : Value,
      (elements (.real f) swapped data).momentOf operation finish correction = .ok { value } ∧
        value.Holds (.signedZero false : Binary f) := by
  obtain ⟨degrees_finite, positive⟩ := place_pos_of_remaining left calm
  obtain ⟨value, answered, holds⟩ := momentOf_of_remaining swapped data finish complete left
  rw [calm] at answered
  rw [Strided.variance, Strided.squares, Moments.squares_of_constant finite constant, normalized,
    Binary.zero_div degrees_finite positive, keeps_zero] at holds
  exact ⟨value, answered, holds⟩

theorem momentsOf_of_constant {axis : Argument} {position : Nat}
    (given : axis.axis? = some (position : Int)) (within : position < data.view.rank)
    (left : Call.remaining f (elements (.real f) swapped data).itemType
      (data.view.axis position).extent correction = .ok (rank, degrees))
    (fits : rank < data.view.rank) :
    ∃ result : Strided (Binary f),
      (elements (.real f) swapped data).momentsOf operation finish axis correction =
          .ok { value := .array (elements (.real f) swapped result) } ∧
        result.view.shape = data.view.shape.eraseIdx position ∧
        ∀ index ∈ indices (data.view.shape.eraseIdx position), ∀ x : Binary f, x.isFinite →
          (∀ y ∈ data.laneElements position index, y.equals x = true) →
            result.get index = .signedZero false := by
  obtain ⟨degrees_finite, positive⟩ := place_pos_of_remaining left calm
  have answered := momentsOf_of_remaining swapped data finish complete given within left fits
  rw [calm] at answered
  refine ⟨_, answered, Strided.shape_variances finish data position degrees, ?_⟩
  intro index member x finite constant
  rw [Strided.get_variances within finish degrees member, Strided.variance,
    Strided.squares_through_lane within member, Moments.squares_of_constant finite constant,
    normalized, Binary.zero_div degrees_finite positive, keeps_zero]

end Constant

end Quotients

/-- Variances and standard deviations of finite elements that are all equal are the positive zero,
whatever finite number they are, zeros of either sign among them, and whatever the correction is, as
long as it leaves some degrees of freedom.  Along an axis the same holds for every such lane, next
to lanes of any elements; there a correction that is a list must have fewer axes than the array. -/
theorem moments_of_constant (f : Format) (swapped : Bool) (data : Strided (Binary f))
    (correction : Option Argument) {degrees : Binary f}
    (nonzero : degrees.equals (.signedZero false) = false) :
    let a := elements (.real f) swapped data
    (∀ (x : Binary f) (rank : Nat), x.isFinite → (∀ y ∈ data.toList, y.equals x = true) →
      Call.remaining f a.itemType data.size correction = .ok (rank, degrees) →
        ∀ call ∈ [Call.variance correction, Call.deviation correction], ∃ value : Value,
          call.apply a = .ok { value } ∧ value.Holds (.signedZero false : Binary f)) ∧
    ∀ (axis : Argument) (position rank : Nat), axis.axis? = some (position : Int) →
      position < data.view.rank → rank < data.view.rank →
      Call.remaining f a.itemType (data.view.axis position).extent correction =
        .ok (rank, degrees) →
        ∀ call ∈ [Call.varianceAxis axis correction, Call.deviationAxis axis correction],
          ∃ result : Strided (Binary f),
            call.apply a = .ok { value := .array (elements (.real f) swapped result) } ∧
              result.view.shape = data.view.shape.eraseIdx position ∧
              ∀ index ∈ indices (data.view.shape.eraseIdx position), ∀ x : Binary f, x.isFinite →
                (∀ y ∈ data.laneElements position index, y.equals x = true) →
                  result.get index = .signedZero false := by
  intro a
  have calm : divisionWarnings degrees = [] := by
    rw [divisionWarnings, nonzero, if_neg Bool.false_ne_true]
  simp only [List.forall_mem_cons, List.not_mem_nil, false_implies, implies_true, and_true]
  constructor
  · intro x rank finite constant left
    exact ⟨momentOf_of_constant swapped data id rfl rfl calm finite constant left,
      momentOf_of_constant swapped data Binary.sqrt rfl rfl calm finite constant left⟩
  · intro axis position rank given within fits left
    exact ⟨momentsOf_of_constant swapped data id rfl rfl calm given within left fits,
      momentsOf_of_constant swapped data Binary.sqrt rfl rfl calm given within left fits⟩

/-- The largest finite half three times, in a row that is stored backwards and in one of two that
are stored column by column, the other one without a finite mean. -/
theorem moments_of_constant_halves :
    let top : Binary .half := Binary.ofInt 65504
    let row : Strided (Binary .half) := ⟨#[top, top, top], ⟨2, [⟨3, -1⟩]⟩⟩
    let rows : Strided (Binary .half) :=
      ⟨#[top, .nan, top, Binary.ofInt 1, top, .infinite true], ⟨0, [⟨2, 1⟩, ⟨3, 2⟩]⟩⟩
    let correction : Option Argument := some (.integer 1)
    let degrees : Binary .half := Binary.ofInt 3 - Binary.ofInt 1
    top.isFinite ∧ degrees.equals (.signedZero false) = false ∧
      Call.remaining .half (elements (.real .half) false row).itemType 3 correction =
        .ok (0, degrees) ∧
      (∃ value : Value,
        (Call.deviation correction).apply (elements (.real .half) false row) = .ok { value } ∧
          value.Holds (.signedZero false : Binary .half)) ∧
      ∃ result : Strided (Binary .half),
        (Call.varianceAxis (.integer 1) correction).apply (elements (.real .half) false rows) =
            .ok { value := .array (elements (.real .half) false result) } ∧
          result.get [0] = .signedZero false := by
  intro top row rows correction degrees
  have finite : top.isFinite := by decide +kernel
  have nonzero : degrees.equals (.signedZero false) = false := by decide +kernel
  have accepted :
      (ElementType.real .half).ofCount (3 : Nat) = .ok (Binary.ofInt 3 : Binary .half) :=
    ElementType.ofCount_of_le .half (by decide)
  have inside : ¬Outside .half 3 1 := by
    rw [not_outside_iff]
    decide +kernel
  have left (type : ItemType) {count : Nat} (count_eq : count = 3) :
      Call.remaining .half type count correction = .ok (0, degrees) := by
    rw [count_eq]
    exact remaining_integer (ElementType.degreesOfFreedom_of_not_outside accepted type inside)
  have constant : ∀ y ∈ row.toList, y.equals top = true := by decide +kernel
  have lane_constant : ∀ y ∈ rows.laneElements 1 [0], y.equals top = true := by decide +kernel
  have within : 1 < rows.view.rank := by decide
  have fits : 0 < rows.view.rank := by decide
  obtain ⟨whole, -⟩ := moments_of_constant .half false row correction nonzero
  obtain ⟨-, along⟩ := moments_of_constant .half false rows correction nonzero
  refine ⟨finite, nonzero, left _ rfl, whole top 0 finite constant (left _ rfl) _ (by simp), ?_⟩
  obtain ⟨result, answered, -, elements_eq⟩ :=
    along (.integer 1) 1 0 rfl within fits (left _ rfl) (.varianceAxis (.integer 1) correction)
      (by simp)
  exact ⟨result, answered, elements_eq [0] (by decide) top finite lane_constant⟩

end AnyArray

end StridedReduction

import Mathlib.Algebra.Group.ForwardDiff
import StridedReduction.Array.Call
import StridedReduction.Proofs.Checks
import StridedReduction.Proofs.DifferenceRounds
import StridedReduction.Proofs.Reproducibility
import StridedReduction.Proofs.WordRing

/-!
# Laws of differences

Differences of integers are the alternating binomial sums of the exact integers, wrapped once
(`differences_of_integers`).  Differences of any elements compose: the difference of a difference is
that of the sum of the orders, element by element, and it fails where that one fails
(`differences_compose`).
-/

namespace StridedReduction

/-- An iterated difference of words is the alternating binomial sum of their integers. -/
theorem iterate_forwardDifference_eq_wrap {k : IntegerType} (f : Nat → Word k)
    (order position : Nat) :
    (forwardDifference fun left right => left - right)^[order] f position =
      Word.wrap k (∑ offset ∈ Finset.range (order + 1),
        (-1) ^ (order - offset) * (order.choose offset : Int) * (f (position + offset)).value) := by
  have step_eq : forwardDifference (fun left right : Word k => left - right) = fwdDiff 1 := rfl
  have wrapped (value : Int) : Word.wrap k value = Int.castRingHom (Word k) value := rfl
  rw [step_eq, fwdDiff_iter_eq_sum_shift, wrapped, map_sum]
  apply Finset.sum_congr rfl
  intro offset _
  rw [smul_eq_mul, Nat.mul_one]
  rfl

namespace Strided

/-- A difference of differences holds the same elements as the one of both orders at once, though in
an array of another size. -/
theorem difference_agrees_difference {α : Type} [Inhabited α] {a : Strided α} {axis : Nat}
    (within : axis < a.view.rank) (subtract : α → α → α) (zero : α) (first second : Nat) :
    (a.difference subtract zero (first + second) axis).Agrees
      ((a.difference subtract zero first axis).difference subtract zero second axis) := by
  let inner := a.difference subtract zero first axis
  have inner_within : axis < inner.view.rank := by rwa [rank_difference _ _ _ within]
  have inner_extent : (inner.view.axis axis).extent = (a.view.axis axis).extent - first :=
    extent_difference _ _ _ within
  have whole_within : axis < (a.difference subtract zero (first + second) axis).view.rank := by
    rwa [rank_difference _ _ _ within]
  apply Agrees.of_lanes whole_within
  case shape_eq =>
    rw [shape_difference _ _ _ within, shape_difference _ _ _ inner_within, inner_extent,
      shape_difference _ _ _ within, List.set_set, Nat.sub_sub]
  case lanes_eq =>
    intro index member position below
    rw [eraseIdx_shape_difference _ _ _ within] at member
    rw [extent_difference _ _ _ within] at below
    have inner_member : index ∈ indices (inner.view.shape.eraseIdx axis) := by
      rwa [eraseIdx_shape_difference _ _ _ within]
    rw [get_difference _ _ _ within member below,
      get_difference _ _ _ inner_within inner_member (by omega), Nat.add_comm,
      Function.iterate_add_apply]
    apply iterate_forwardDifference_congr
    intro source reached
    exact (get_difference _ _ _ within member (by omega)).symm

end Strided

namespace AnyArray

open Strided

theorem apply_difference {t : ElementType} (swapped : Bool) (data : Strided t.Carrier)
    {subtract : t.Carrier → t.Carrier → t.Carrier} (provided : t.sub? = some subtract)
    {axis order : Nat} (within : axis < data.view.rank) {number along : Option Argument}
    (order_given : (number.getD Call.defaultOrder).index? = some (order : Int))
    (axis_given : (along.getD Call.defaultAxis).axis? = some (axis : Int)) :
    (Call.difference number along).apply (elements t swapped data) =
      if order = 0 ∨ order < (data.view.axis axis).extent then
        .ok { value := .array (elements t swapped
          (data.difference subtract t.zero order axis)) }
      else .error (.orderTooLarge order axis (data.view.axis axis).extent) :=
  difference_elements swapped data provided order_given axis_given within

theorem apply_difference_of_accepted {t : ElementType} (swapped : Bool) (data : Strided t.Carrier)
    {subtract : t.Carrier → t.Carrier → t.Carrier} (provided : t.sub? = some subtract)
    {axis order : Nat} (within : axis < data.view.rank)
    (accepted : order = 0 ∨ order < (data.view.axis axis).extent) {number along : Option Argument}
    (order_given : (number.getD Call.defaultOrder).index? = some (order : Int))
    (axis_given : (along.getD Call.defaultAxis).axis? = some (axis : Int)) :
    (Call.difference number along).apply (elements t swapped data) =
      .ok { value := .array (elements t swapped (data.difference subtract t.zero order axis)) } :=
  (apply_difference swapped data provided within order_given axis_given).trans (if_pos accepted)

theorem apply_difference_integers {k : IntegerType} (swapped : Bool) {data : Strided (Word k)}
    {axis order : Nat} (within : axis < data.view.rank)
    (shorter : order < (data.view.axis axis).extent) {number along : Option Argument}
    (order_given : (number.getD Call.defaultOrder).index? = some (order : Int))
    (axis_given : (along.getD Call.defaultAxis).axis? = some (axis : Int)) :
    (Call.difference number along).apply (elements (.integer k) swapped data) =
      .ok { value := .array (elements (.integer k) swapped
        (data.difference (· - ·) (ElementType.integer k).zero order axis)) } :=
  apply_difference_of_accepted (t := .integer k) swapped data rfl within (.inr shorter)
    order_given axis_given

/-- The difference of an order below the extent of the axis is as much shorter along it, and holds
the alternating binomial sums of the exact integers, wrapped once. -/
theorem differences_of_integers (k : IntegerType) (swapped : Bool) (data : Strided (Word k))
    {axis order : Nat} (within : axis < data.view.rank)
    (shorter : order < (data.view.axis axis).extent) {number along : Option Argument}
    (order_given : (number.getD Call.defaultOrder).index? = some (order : Int))
    (axis_given : (along.getD Call.defaultAxis).axis? = some (axis : Int)) :
    let extent := (data.view.axis axis).extent
    ∃ result : Strided (Word k),
      (Call.difference number along).apply (elements (.integer k) swapped data) =
          .ok { value := .array (elements (.integer k) swapped result) } ∧
        result.view.shape = data.view.shape.set axis (extent - order) ∧
        ∀ index ∈ indices (data.view.shape.eraseIdx axis), ∀ position < extent - order,
          result.get (index.insertIdx axis position) =
            Word.wrap k (∑ offset ∈ Finset.range (order + 1),
              (-1) ^ (order - offset) * (order.choose offset : Int) *
                (data.get (index.insertIdx axis (position + offset))).value) := by
  intro extent
  have accepted : order = 0 ∨ order < (data.view.axis axis).extent := .inr shorter
  let subtract (left right : Word k) := left - right
  refine ⟨data.difference subtract (ElementType.integer k).zero order axis, ?_,
    shape_difference _ _ _ within, ?_⟩
  · have outcome :=
      apply_difference (t := .integer k) swapped data rfl within order_given axis_given
    rwa [if_pos accepted] at outcome
  · intro index member position below
    rw [get_difference _ _ _ within member below]
    exact iterate_forwardDifference_eq_wrap _ order position

/-- The third difference along a row of bytes that is stored backwards with gaps leaves the range of
bytes and wraps. -/
theorem third_difference_of_bytes :
    let k := IntegerType.oneByte true
    let byte (value : Int) : Word k := Word.wrap k value
    let data : Strided (Word k) :=
      ⟨#[byte 90, byte 1, byte (-8), byte 120, byte 9, byte 2, byte 3, byte 100],
        ⟨7, [⟨1, 50⟩, ⟨4, -2⟩]⟩⟩
    1 < data.view.rank ∧ 3 < (data.view.axis 1).extent ∧
      ∃ result : Strided (Word k),
        (Call.difference (some (.integer 3)) (some (.integer 1))).apply
            (elements (.integer k) false data) =
          .ok { value := .array (elements (.integer k) false result) } ∧
        result.view.shape = [1, 1] ∧
        (result.get [0, 0]).value = 1 - 3 * 120 + 3 * 2 - 100 + 512 := by
  intro k byte data
  have within : 1 < data.view.rank := by decide
  have shorter : 3 < (data.view.axis 1).extent := by decide
  obtain ⟨result, outcome, shape_eq, sums⟩ :=
    @differences_of_integers k false data 1 3 within shorter (some (.integer 3))
      (some (.integer 1)) rfl rfl
  have element := sums [0] (by decide) 0 (by decide)
  refine ⟨within, shorter, result, outcome, shape_eq, ?_⟩
  rw [show result.get [0, 0] = _ from element]
  decide

/-- The difference of a difference is the one of both orders at once: both have the same shape and
the same elements, whatever the elements are, or both fail on a value, because the orders together
are not below the extent of the axis. -/
theorem differences_compose {t : ElementType} (numeric : t ≠ .boolean) (swapped : Bool)
    (data : Strided t.Carrier) {axis first second : Nat} (within : axis < data.view.rank)
    {whole early late along : Option Argument}
    (whole_given : (whole.getD Call.defaultOrder).index? = some ((first + second : Nat) : Int))
    (early_given : (early.getD Call.defaultOrder).index? = some (first : Int))
    (late_given : (late.getD Call.defaultOrder).index? = some (second : Int))
    (axis_given : (along.getD Call.defaultAxis).axis? = some (axis : Int)) :
    let a := elements t swapped data
    let extent := (data.view.axis axis).extent
    let once := (Call.difference whole along).apply a
    let twice := (Call.difference late along).after ((Call.difference early along).apply a)
    (first + second = 0 ∨ first + second < extent →
      ∃ left right : Strided t.Carrier,
        once = .ok { value := .array (elements t swapped left) } ∧
          twice = .ok { value := .array (elements t swapped right) } ∧
          left.view.shape = data.view.shape.set axis (extent - (first + second)) ∧
          left.Agrees right) ∧
    (¬(first + second = 0 ∨ first + second < extent) →
      ∃ left right : Failure,
        once = .error left ∧ twice = .error right ∧ left.kind = .value ∧ right.kind = .value) := by
  intro a extent once twice
  obtain ⟨subtract, provided⟩ := ElementType.exists_sub numeric
  let inner := data.difference subtract t.zero first axis
  have inner_within : axis < inner.view.rank := by rwa [rank_difference _ _ _ within]
  have inner_extent : (inner.view.axis axis).extent = extent - first :=
    extent_difference _ _ _ within
  have once_eq := apply_difference swapped data provided within whole_given axis_given
  have early_eq := apply_difference swapped data provided within early_given axis_given
  have late_eq := apply_difference swapped inner provided inner_within late_given axis_given
  rw [inner_extent] at late_eq
  simp only [once, twice, a, once_eq, early_eq]
  constructor
  · intro accepted
    rw [if_pos accepted, if_pos (by omega), Call.after_array, late_eq, if_pos (by omega)]
    exact ⟨_, _, rfl, rfl, shape_difference _ _ _ within,
      difference_agrees_difference within subtract t.zero first second⟩
  · intro refused
    rw [if_neg refused]
    by_cases early_accepted : first = 0 ∨ first < extent
    · rw [if_pos early_accepted, Call.after_array, late_eq, if_neg (by omega)]
      exact ⟨_, _, rfl, rfl, rfl, rfl⟩
    · rw [if_neg early_accepted, Call.after_error]
      exact ⟨_, _, rfl, rfl, rfl, rfl⟩

/-- Complex numbers that are stored column by column: the second difference along a row of three is
a difference of differences, and a third one fails in one step as in two. -/
theorem differences_compose_of_columns :
    let t := ElementType.complex .single
    let entry (re im : Int) : t.Carrier := ⟨Binary.ofInt re, Binary.ofInt im⟩
    let data : Strided t.Carrier :=
      ⟨#[entry 3 1, entry 0 7, entry (-2) 5, entry 4 4, entry 1 0, entry 9 (-6)],
        ⟨0, [⟨2, 1⟩, ⟨3, 2⟩]⟩⟩
    let a := elements t false data
    let along : Option Argument := some (.integer 1)
    let difference (order : Int) := Call.difference (some (.integer order)) along
    t ≠ .boolean ∧ 1 < data.view.rank ∧
      (∃ left right : Strided t.Carrier,
        (difference 2).apply a = .ok { value := .array (elements t false left) } ∧
          (Call.difference none along).after ((Call.difference none along).apply a) =
            .ok { value := .array (elements t false right) } ∧
          left.view.shape = [2, 1] ∧ (elements t false left).Agrees (elements t false right)) ∧
      ∃ left right : Failure,
        (difference 3).apply a = .error left ∧
          (Call.difference none along).after ((difference 2).apply a) = .error right ∧
          left.kind = .value ∧ right.kind = .value := by
  intro t entry data a along difference
  have numeric : t ≠ .boolean := by decide
  have within : 1 < data.view.rank := by decide
  refine ⟨numeric, within, ?_, ?_⟩
  · obtain ⟨left, right, left_eq, right_eq, shape_eq, agrees⟩ :=
      (@differences_compose t numeric false data 1 1 1 within
        (some (.integer 2)) none none along rfl rfl rfl rfl).1 (by decide)
    exact ⟨left, right, left_eq, right_eq, shape_eq, .elements t false agrees⟩
  · exact (@differences_compose t numeric false data 1 2 1 within
      (some (.integer 3)) (some (.integer 2)) none along rfl rfl rfl rfl).2 (by decide)

end AnyArray

end StridedReduction

import StridedReduction.Proofs.AxisOrder
import StridedReduction.Proofs.Derivation
import StridedReduction.Proofs.Differences
import StridedReduction.Proofs.RunningProduct

/-!
# Sums and differences

A difference undoes a running fold by an operation that the subtraction undoes: what is left is the
array without its first position (`difference_agrees_of_runsAlong`).  The other way round the sum of
a lane of differences telescopes to its ends (`sum_forwardDifference`).  Both hold for the sums of
words, which wrap (`sums_and_differences_of_integers`).
-/

namespace StridedReduction

/-- The differences of neighbours add up to the difference of the ends. -/
theorem sum_forwardDifference {G : Type} [AddCommGroup G] (f : Nat → G) (count : Nat) :
    ((List.range count).map (forwardDifference (· - ·) f)).sum = f count - f 0 := by
  induction count with
  | zero => simp
  | succ count induction =>
    rw [List.range_succ, List.map_append, List.sum_append, induction, List.map_singleton,
      List.sum_singleton, forwardDifference]
    abel

namespace Strided

section Folds

variable {α : Type} [Inhabited α] {op subtract : α → α → α} {a b : Strided α} {axis : Nat}

/-- A difference undoes a running fold but for its first position. -/
theorem difference_agrees_of_runsAlong (undoes : ∀ x y, subtract (op x y) y = x) (zero : α)
    (runs : RunsAlong op axis a b) (within : axis < a.view.rank) :
    (b.difference subtract zero 1 axis).Agrees (a.through (a.view.slice axis .dropFirst)) := by
  have b_within : axis < b.view.rank := View.rank_eq_of_shape_eq runs.shape_eq ▸ within
  have b_extent := View.extent_eq_of_shape_eq runs.shape_eq axis
  have difference_within : axis < (b.difference subtract zero 1 axis).view.rank := by
    rwa [rank_difference _ _ _ b_within]
  apply Agrees.of_lanes difference_within
  case shape_eq =>
    rw [shape_difference _ _ _ b_within, runs.shape_eq, b_extent, through,
      View.shape_slice_dropFirst]
  case lanes_eq =>
    intro index member position below
    rw [eraseIdx_shape_difference _ _ _ b_within] at member
    rw [extent_difference _ _ _ b_within] at below
    have a_member : index ∈ indices (a.view.shape.eraseIdx axis) := runs.shape_eq ▸ member
    rw [get_difference _ _ _ b_within member below, Function.iterate_one, forwardDifference,
      runs.next_eq index a_member position (by omega), undoes,
      get_through_dropFirst within a_member (by omega)]

end Folds

variable {k : IntegerType} {data : Strided (Word k)} {axis : Nat}

theorem laneTotal_sum (data : Strided (Word k)) (axis : Nat) (index : List Nat) :
    data.laneTotal .sum axis index = (data.laneElements axis index).sum := by
  rw [← foldl_laneElements, Reduction.foldl_operation_eq_wrap, Reduction.exact, Word.wrap_sum]

/-- The sums of differences are the last sub-view less the first one of the differences of one order
less. -/
theorem get_laneTotals_difference (within : axis < data.view.rank) (zero : Word k) {order : Nat}
    {index : List Nat} (member : index ∈ indices (data.view.shape.eraseIdx axis))
    (shorter : order + 1 < (data.view.axis axis).extent) :
    let earlier := data.difference (· - ·) zero order axis
    let last := (data.view.axis axis).extent - order - 1
    ((data.difference (· - ·) zero (order + 1) axis).laneTotals .sum axis).get index =
      (earlier.through (earlier.view.fix axis last)).get index -
        (earlier.through (earlier.view.fix axis 0)).get index := by
  intro earlier last
  let lane (source : Nat) := data.get (index.insertIdx axis source)
  let differences := (forwardDifference (· - ·))^[order] lane
  have elements_eq : (data.difference (· - ·) zero (order + 1) axis).laneElements axis index =
      (List.range last).map (forwardDifference (· - ·) differences) := by
    rw [laneElements, extent_difference _ _ _ within, ← Nat.sub_sub]
    apply List.map_congr_left
    intro position position_mem
    have below : position < last := List.mem_range.mp position_mem
    rw [get_difference _ _ _ within member (by omega), Function.iterate_succ_apply']
  have get_earlier {position : Nat} (below : position < (data.view.axis axis).extent - order) :
      (earlier.through (earlier.view.fix axis position)).get index = differences position := by
    have earlier_within : axis < earlier.view.rank := by rwa [rank_difference _ _ _ within]
    have earlier_member : index ∈ indices (earlier.view.shape.eraseIdx axis) := by
      rwa [eraseIdx_shape_difference _ _ _ within]
    rw [earlier.get_through_fix earlier_within earlier_member,
      get_difference _ _ _ within member below]
  rw [get_laneTotals .sum _ (eraseIdx_shape_difference _ _ _ within ▸ member), laneTotal_sum,
    elements_eq, sum_forwardDifference, get_earlier (by omega), get_earlier (by omega)]

end Strided

namespace AnyArray

open Strided

/-- Integers that have been summed up in place along an axis of a dense copy have the integers from
the second position on as their differences.  The sums of differences along their axis are the last
sub-view less the first one of the differences of one order less.  Both hold whatever wraps. -/
theorem sums_and_differences_of_integers (k : IntegerType) (swapped : Bool)
    (data : Strided (Word k)) {axis : Nat} (within : axis < data.view.rank)
    (several : 2 ≤ (data.view.axis axis).extent) {along : Option Argument} {argument : Argument}
    (along_given : (along.getD Call.defaultAxis).axis? = some (axis : Int))
    (given : argument.axis? = some (axis : Int)) :
    let a := elements (.integer k) swapped data
    let extent := (data.view.axis axis).extent
    (∀ number : Option Argument, (number.getD Call.defaultOrder).index? = some 1 →
      ∃ (sums differences : Strided (Word k)) (rest : View),
        (BufferStep.accumulate axis .add).apply (.integer k) data.copy.view data.copy =
            (sums, none) ∧
          (Call.difference number along).apply (elements (.integer k) swapped sums) =
            .ok { value := .array (elements (.integer k) swapped differences) } ∧
          data.view.sliceAt axis { start := some 1 } = .ok rest ∧
          differences.Agrees (data.through rest)) ∧
    ∀ order, order + 1 < extent → ∀ fewer number : Option Argument,
      (fewer.getD Call.defaultOrder).index? = some (order : Int) →
      (number.getD Call.defaultOrder).index? = some ((order + 1 : Nat) : Int) →
      ∃ (earlier totals : Strided (Word k)) (first last : View),
        (Call.difference fewer along).apply a =
            .ok { value := .array (elements (.integer k) swapped earlier) } ∧
          (earlier.view.walk axis).views.head? = some first ∧
          (earlier.view.walk axis).views.getLast? = some last ∧
          (Call.sumAxis argument).after ((Call.difference number along).apply a) =
            .ok { value := .array (elements (.integer k) swapped totals) } ∧
          first.shape = totals.view.shape ∧ last.shape = totals.view.shape ∧
          totals.view.shape = data.view.shape.eraseIdx axis ∧
          ∀ index ∈ indices totals.view.shape,
            totals.get index =
              (earlier.through last).get index - (earlier.through first).get index := by
  intro a extent
  let zero := (ElementType.integer k).zero
  constructor
  · intro number number_given
    let sums := data.cumulative (ElementType.integer k).add axis
    have copy_within : axis < data.copy.view.rank := data.copy_agrees.rank_eq ▸ within
    have runs : RunsAlong (ElementType.integer k).add axis data sums := runsAlong_cumulative within
    have sums_within : axis < sums.view.rank := View.rank_eq_of_shape_eq runs.shape_eq ▸ within
    have sums_extent := View.extent_eq_of_shape_eq runs.shape_eq axis
    have summed : (BufferStep.accumulate axis .add).apply (.integer k) data.copy.view data.copy =
        (sums, none) := by
      rw [BufferStep.apply, BufferStep.accumulated_natCast (t := .integer k) copy_within rfl]
      rfl
    have first_order : (number.getD Call.defaultOrder).index? = some ((1 : Nat) : Int) :=
      number_given
    have outcome := apply_difference (t := .integer k) swapped sums rfl sums_within first_order
      along_given
    rw [if_pos (.inr (by omega))] at outcome
    exact ⟨sums, _, _, summed, outcome, View.sliceAt_natCast within (by simp),
      difference_agrees_of_runsAlong add_sub_cancel_right zero runs within⟩
  · intro order shorter fewer number fewer_given number_given
    let earlier := data.difference (fun left right : Word k => left - right) zero order axis
    let further := data.difference (fun left right : Word k => left - right) zero (order + 1) axis
    let last := extent - order - 1
    have earlier_within : axis < earlier.view.rank := by rwa [rank_difference _ _ _ within]
    have earlier_extent : (earlier.view.axis axis).extent = extent - order :=
      extent_difference _ _ _ within
    have further_within : axis < further.view.rank := by rwa [rank_difference _ _ _ within]
    have totals_shape :
        (further.laneTotals .sum axis).view.shape = data.view.shape.eraseIdx axis := by
      rw [shape_laneTotals, eraseIdx_shape_difference _ _ _ within]
    have fixed_shape (position : Nat) :
        (earlier.view.fix axis position).shape = (further.laneTotals .sum axis).view.shape := by
      rw [View.shape_fix, eraseIdx_shape_difference _ _ _ within, totals_shape]
    have earlier_outcome := apply_difference (t := .integer k) swapped data rfl within fewer_given
      along_given
    rw [if_pos (.inr (by omega))] at earlier_outcome
    have further_outcome := apply_difference (t := .integer k) swapped data rfl within number_given
      along_given
    rw [if_pos (.inr shorter)] at further_outcome
    have first_met : (earlier.view.walk axis).views.head? = some (earlier.view.fix axis 0) := by
      rw [List.head?_eq_getElem?, View.getElem?_walk_views earlier_within (by omega)]
    have last_met :
        (earlier.view.walk axis).views.getLast? = some (earlier.view.fix axis last) := by
      rw [View.getLast?_walk_views earlier_within (by omega), earlier_extent]
    refine ⟨earlier, further.laneTotals .sum axis, earlier.view.fix axis 0,
      earlier.view.fix axis last, earlier_outcome, first_met, last_met, ?_, fixed_shape 0,
      fixed_shape last, totals_shape, ?_⟩
    · rw [further_outcome, Call.after_array]
      exact apply_along_integers swapped further .sum given further_within
    · intro index member
      exact get_laneTotals_difference within zero (totals_shape ▸ member) shorter

/-- A row of bytes that is stored backwards: its running sums wrap at `128` and their differences
are the bytes again, and the second differences add up to what the first ones differ by at the
ends. -/
theorem sums_and_differences_of_backward_row :
    let k := IntegerType.oneByte true
    let byte (value : Int) : Word k := Word.wrap k value
    let data : Strided (Word k) :=
      ⟨#[byte 7, byte 50, byte (-100), byte 100], ⟨3, [⟨1, 9⟩, ⟨4, -1⟩]⟩⟩
    let a := elements (.integer k) false data
    let along : Option Argument := some (.integer 1)
    1 < data.view.rank ∧ 2 ≤ (data.view.axis 1).extent ∧
      (∃ sums differences : Strided (Word k),
        (BufferStep.accumulate 1 .add).apply (.integer k) data.copy.view data.copy =
            (sums, none) ∧
          (Call.difference none along).apply (elements (.integer k) false sums) =
            .ok { value := .array (elements (.integer k) false differences) } ∧
          differences.Agrees (data.through ⟨2, [⟨1, 9⟩, ⟨3, -1⟩]⟩)) ∧
      1 + 1 < (data.view.axis 1).extent ∧
      ∃ (earlier totals : Strided (Word k)) (first last : View),
        (Call.difference none along).apply a =
            .ok { value := .array (elements (.integer k) false earlier) } ∧
          (earlier.view.walk 1).views.head? = some first ∧
          (earlier.view.walk 1).views.getLast? = some last ∧
          (Call.sumAxis (.integer 1)).after
              ((Call.difference (some (.integer 2)) along).apply a) =
            .ok { value := .array (elements (.integer k) false totals) } ∧
          totals.get [0] = (earlier.through last).get [0] - (earlier.through first).get [0] := by
  intro k byte data a along
  have within : 1 < data.view.rank := Nat.one_lt_two
  have several : 2 ≤ (data.view.axis 1).extent := Nat.le_add_left 2 2
  have shorter : 1 + 1 < (data.view.axis 1).extent := Nat.lt_add_of_pos_right Nat.two_pos
  obtain ⟨undone, telescoped⟩ :=
    @sums_and_differences_of_integers k false data 1 within several along (.integer 1) rfl rfl
  refine ⟨within, several, ?_, shorter, ?_⟩
  · obtain ⟨sums, differences, rest, summed, outcome, sliced, agrees⟩ := undone none rfl
    have kept : data.view.sliceAt 1 { start := some 1 } = .ok ⟨2, [⟨1, 9⟩, ⟨3, -1⟩]⟩ :=
      View.sliceAt_eq_ok_iff.mpr ⟨within, ⟨1, 1, 3⟩, by decide, rfl⟩
    cases kept.symm.trans sliced
    exact ⟨sums, differences, summed, outcome, agrees⟩
  · obtain ⟨earlier, totals, first, last, earlier_outcome, first_met, last_met, totalled, -, -,
      shape_eq, totals_eq⟩ := telescoped 1 shorter none (some (.integer 2)) rfl rfl
    have member : [0] ∈ indices totals.view.shape := by
      rw [shape_eq]
      exact List.mem_singleton_self [0]
    exact ⟨earlier, totals, first, last, earlier_outcome, first_met, last_met, totalled,
      totals_eq [0] member⟩

end AnyArray

end StridedReduction

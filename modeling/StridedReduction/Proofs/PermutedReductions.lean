import StridedReduction.Proofs.Agreement
import StridedReduction.Proofs.AxisOrder
import StridedReduction.Proofs.AxisPermutation
import StridedReduction.Proofs.Checks
import StridedReduction.Proofs.IntegerElements

/-!
# Reductions along permuted axes

With its axes in another order an array is reduced along an axis to the same array with the
remaining axes in that order, to the last bit and whatever the operation, if no two axes are
tightest (`Strided.reduceAxis_permute`).  So sums, products and means along an axis go along with
the axes (`axisReductions_of_permuted`).
-/

namespace StridedReduction

namespace Strided

variable {α : Type} [Inhabited α] {order : List Nat}

/-- An array with its axes in another order holds its elements under the indices sorted back. -/
theorem get_permute (a : Strided α) (perm : order.Perm (List.range a.view.rank))
    {index : List Nat} (member : index ∈ indices (a.view.permute order).shape) :
    (a.through (a.view.permute order)).get index = a.get (View.sortedBack order index) :=
  congrArg (readCell a.buffer) (View.cell_permute perm member)

/-- Changing every element goes along with the axes. -/
theorem Agrees.modify_permute {a b : Strided α}
    (agrees : a.Agrees (b.through (b.view.permute order)))
    (perm : order.Perm (List.range b.view.rank)) (a_separate : a.view.Injective)
    (a_inside : a.InBounds) (b_separate : b.view.Injective) (b_inside : b.InBounds)
    (change : α → α) :
    (a.modify change).Agrees ((b.modify change).through (b.view.permute order)) := by
  refine ⟨agrees.shape_eq, ?_⟩
  intro index member
  have permuted_member : index ∈ indices (b.view.permute order).shape := agrees.shape_eq ▸ member
  have b_member := View.sortedBack_mem_indices perm permuted_member
  calc (a.modify change).get index
      = change (a.get index) := get_modify a_separate a_inside change member
    _ = change ((b.through (b.view.permute order)).get index) := by rw [agrees.get_eq index member]
    _ = change (b.get (View.sortedBack order index)) := by
        rw [get_permute b perm permuted_member]
    _ = (b.modify change).get (View.sortedBack order index) :=
        (get_modify b_separate b_inside change b_member).symm
    _ = ((b.modify change).through (b.view.permute order)).get index :=
        (get_permute (b.modify change) perm permuted_member).symm

section ReduceAxis

variable (op : α → α → α) (identity : α) (fast : Bool) (a : Strided α)

theorem injective_reduceAxis (axis : Nat) :
    (a.reduceAxis op identity fast axis).view.Injective :=
  injective_dense _

theorem inBounds_reduceAxis {axis : Nat} (within : axis < a.view.rank) :
    (a.reduceAxis op identity fast axis).InBounds := by
  rw [reduceAxis_eq_value op identity fast a within]
  exact inBounds_ofList (by simp)

variable (perm : order.Perm (List.range a.view.rank)) {position : Nat}
  (within : position < order.length) (single : a.view.HasSingleTightest)

include perm within single

/-- A reduction along an axis goes along with the axes. -/
theorem reduceAxis_permute :
    let result := a.reduceAxis op identity fast order[position]
    let remaining := View.orderWithout order position
    remaining.Perm (List.range result.view.rank) ∧
      ((a.through (a.view.permute order)).reduceAxis op identity fast position).Agrees
        (result.through (result.view.permute remaining)) := by
  intro result remaining
  have removed_within := View.getElem_lt_rank perm within
  have permuted_within : position < (a.view.permute order).rank := by
    rwa [View.rank_permute]
  -- The result is laid out anew: of the view that remains it has the shape only.
  have result_shape : result.view.shape = (a.view.base order[position]).shape := by
    rw [shape_reduceAxis, View.shape_base]
  have remaining_perm : remaining.Perm (List.range result.view.rank) := by
    rw [View.rank_eq_of_shape_eq result_shape]
    exact View.orderWithout_perm perm within
  have permuted_shape : (a.view.permute order).shape.eraseIdx position =
      (result.view.permute remaining).shape := by
    rw [View.shape_eraseIdx_permute (View.nodup_of_perm_range perm) within,
      View.shape_permute_of_shape_eq result_shape]
  refine ⟨remaining_perm, ?_, ?_⟩
  · rw [shape_reduceAxis]
    exact permuted_shape
  · rw [shape_reduceAxis]
    intro index member
    have sorted_member := View.sortedBack_mem_indices_eraseIdx perm within member
    rw [get_permute result remaining_perm (permuted_shape ▸ member),
      get_reduceAxis op identity fast _ permuted_within member,
      get_reduceAxis op identity fast a removed_within sorted_member]
    exact congrArg (Grouping.value op identity (readCell a.buffer))
      (View.laneGrouping_permute perm within single fast member)

end ReduceAxis

end Strided

namespace AnyArray

open Strided

/-- Two outcomes are arrays, the first one the second one with its axes in another order. -/
def YieldPermuted (t : ElementType) (swapped : Bool) (order : List Nat)
    (outcome other : Except Failure Answer) : Prop :=
  ∃ first second : Strided t.Carrier,
    outcome = .ok { value := .array (elements t swapped first) } ∧
      other = .ok { value := .array (elements t swapped second) } ∧
      first.Agrees (second.through (second.view.permute order))

/-- With its axes in another order an array has the sums and the products along an axis that it has
along the same axis in the old order, to the last bit, with the remaining axes put in the new order.
So it has the same means, or none because lanes are empty, or fails because the type has no element
for the length of a lane.  This takes an array of which only one axis is tightest. -/
theorem axisReductions_of_permuted {t : ElementType} (numeric : t ≠ .boolean) (swapped : Bool)
    {data : Strided t.Carrier} (single : data.view.HasSingleTightest) {order : List Nat}
    (perm : order.Perm (List.range data.view.rank)) {axis : Nat} (within : axis < order.length)
    {here there : Argument} (here_given : here.axis? = some (axis : Int))
    (there_given : there.axis? = some (order[axis] : Int)) :
    let a := elements t swapped data
    let permuted := elements t swapped (data.through (data.view.permute order))
    let extent := (data.view.axis order[axis]).extent
    let remaining := View.orderWithout order axis
    remaining.Perm (List.range (data.view.rank - 1)) ∧
      (∀ code : Reduction, YieldPermuted t swapped remaining
        ((code.along here).apply permuted) ((code.along there).apply a)) ∧
      (extent = 0 →
        (Call.meanAxis here).apply permuted = .ok { value := .absent } ∧
          (Call.meanAxis there).apply a = .ok { value := .absent }) ∧
      (extent ≠ 0 → ∀ failure, t.ofCount extent = .error failure →
        (Call.meanAxis here).apply permuted = .error failure ∧
          (Call.meanAxis there).apply a = .error failure) ∧
      (extent ≠ 0 → ∀ count, t.ofCount extent = .ok count →
        YieldPermuted t swapped remaining
          ((Call.meanAxis here).apply permuted) ((Call.meanAxis there).apply a)) := by
  intro a permuted extent remaining
  have removed_within := View.getElem_lt_rank perm within
  have permuted_within : axis < (data.through (data.view.permute order)).view.rank := by
    change axis < (data.view.permute order).rank
    rwa [View.rank_permute]
  have same_extent :
      ((data.through (data.view.permute order)).view.axis axis).extent = extent :=
    congrArg Axis.extent (View.axis_permute within)
  have mean_permuted := meanAxis_elements swapped (data.through (data.view.permute order)) numeric
    here_given permuted_within
  have mean_plain := meanAxis_elements swapped data numeric there_given removed_within
  rw [same_extent] at mean_permuted
  refine ⟨?_, ?_, ?_, ?_, ?_⟩
  · have remaining_perm := View.orderWithout_perm perm within
    have rank_eq := View.rank_base removed_within
    rwa [← rank_eq, Nat.add_sub_cancel]
  · intro code
    obtain ⟨-, agrees⟩ :=
      reduceAxis_permute (code.operation t) (code.identity t) true data perm within single
    exact ⟨_, _, apply_along swapped _ code numeric here_given permuted_within,
      apply_along swapped data code numeric there_given removed_within, agrees⟩
  · intro empty
    rw [if_pos empty] at mean_permuted mean_plain
    exact ⟨mean_permuted, mean_plain⟩
  · intro nonempty failure counted
    rw [if_neg nonempty, counted] at mean_permuted mean_plain
    exact ⟨mean_permuted, mean_plain⟩
  · intro nonempty count counted
    rw [if_neg nonempty, counted] at mean_permuted mean_plain
    obtain ⟨remaining_perm, agrees⟩ := reduceAxis_permute t.add t.zero true data perm within single
    exact ⟨_, _, mean_permuted, mean_plain, agrees.modify_permute remaining_perm
      (injective_reduceAxis _ _ _ _ _) (inBounds_reduceAxis _ _ _ _ permuted_within)
      (injective_reduceAxis _ _ _ _ _) (inBounds_reduceAxis _ _ _ _ removed_within) _⟩

/-- Four lanes of three halves whose sums depend on the order of the additions, met backwards and
moved between the other two axes, which are exchanged. -/
theorem axisReductions_of_permuted_halves :
    let t := ElementType.real .half
    let half (value : Int) : t.Carrier := Binary.ofInt value
    let data : Strided t.Carrier :=
      ⟨#[half 1, half 1, half 2048, half 3, half 0, half 5, half (-2048), half 1, half 2048, half 1,
        half 2048, half 1], ⟨2, [⟨2, 6⟩, ⟨2, 3⟩, ⟨3, -1⟩]⟩⟩
    let a := elements t false data
    let permuted := elements t false (data.through (data.view.permute [1, 2, 0]))
    t ≠ .boolean ∧ data.view.HasSingleTightest ∧ [1, 2, 0].Perm (List.range data.view.rank) ∧
      View.orderWithout [1, 2, 0] 1 = [1, 0] ∧
      YieldPermuted t false [1, 0]
        ((Call.sumAxis (.integer 1)).apply permuted) ((Call.sumAxis (.integer 2)).apply a) ∧
      (data.view.axis 2).extent ≠ 0 ∧ t.ofCount 3 = .ok (half 3) ∧
      YieldPermuted t false [1, 0]
        ((Call.meanAxis (.integer 1)).apply permuted) ((Call.meanAxis (.integer 2)).apply a) := by
  intro t half data a permuted
  have numeric : t ≠ .boolean := by decide
  have single : data.view.HasSingleTightest := by decide
  have perm : [1, 2, 0].Perm (List.range data.view.rank) := by decide
  have nonempty : (data.view.axis 2).extent ≠ 0 := by decide
  have counted : t.ofCount 3 = .ok (half 3) := ElementType.ofCount_of_le .half (by decide)
  obtain ⟨-, folds, -, -, means⟩ := axisReductions_of_permuted numeric false single perm
    (by decide : 1 < [1, 2, 0].length) (rfl : (Argument.integer 1).axis? = some 1)
    (rfl : (Argument.integer 2).axis? = some 2)
  exact ⟨numeric, single, perm, by decide, folds .sum, nonempty, counted, means nonempty _ counted⟩

end AnyArray

end StridedReduction

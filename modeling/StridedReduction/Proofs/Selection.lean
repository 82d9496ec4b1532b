import StridedReduction.Proofs.Buffer
import StridedReduction.Proofs.Traversal
import StridedReduction.View.Slice
import Mathlib.Tactic.Ring

/-!
# Selected positions of an axis

A slice shows at each of its positions the cell of the position that it keeps there
(`cell_select`).  Slices that cut an axis short at its end show its first positions (`leading`),
with the strides of the whole; so what is distinct and inside the buffer in the whole is so in the
slice.
-/

namespace StridedReduction

namespace View

variable {v : View} {axis : Nat}

theorem shape_select (v : View) (axis : Nat) (kept : Selection) :
    (v.select axis kept).shape = v.shape.set axis kept.count :=
  List.map_set

theorem eraseIdx_shape_select (v : View) (axis : Nat) (kept : Selection) :
    (v.select axis kept).shape.eraseIdx axis = v.shape.eraseIdx axis := by
  rw [shape_select, List.eraseIdx_set_eq]

@[simp] theorem rank_select (v : View) (axis : Nat) (kept : Selection) :
    (v.select axis kept).rank = v.rank :=
  List.length_set

theorem axis_select (within : axis < v.rank) (kept : Selection) :
    (v.select axis kept).axis axis = ⟨kept.count, (v.axis axis).stride * kept.step⟩ := by
  rw [View.axis, List.getD_eq_getElem?_getD, select, List.getElem?_set_self within,
    Option.getD_some]

/-- A position of a selection is the position that is kept there. -/
theorem cell_select (within : axis < v.rank) {index : List Nat}
    (member : index ∈ indices (v.shape.eraseIdx axis)) {kept : Selection} {position source : Nat}
    (kept_there : (source : Int) = kept.first + position * kept.step) :
    (v.select axis kept).cell (index.insertIdx axis position) =
      v.cell (index.insertIdx axis source) := by
  have within_kept : axis < (v.select axis kept).rank := by rwa [rank_select]
  have member_kept : index ∈ indices ((v.select axis kept).shape.eraseIdx axis) := by
    rwa [eraseIdx_shape_select]
  have rest_eq : (v.select axis kept).axes.eraseIdx axis = v.axes.eraseIdx axis :=
    List.eraseIdx_set_eq
  rw [cell_insertIdx within_kept member_kept, cell_insertIdx within member, rest_eq,
    axis_select within, kept_there, select]
  ring

/-- The view of the first positions of an axis. -/
def leading (v : View) (axis count : Nat) : View :=
  v.select axis ⟨0, 1, count⟩

@[simp] theorem shape_leading (v : View) (axis count : Nat) :
    (v.leading axis count).shape = v.shape.set axis count :=
  shape_select v axis _

@[simp] theorem rank_leading (v : View) (axis count : Nat) : (v.leading axis count).rank = v.rank :=
  rank_select v axis _

theorem extent_leading (within : axis < v.rank) (count : Nat) :
    ((v.leading axis count).axis axis).extent = count := by
  rw [leading, axis_select within]

theorem leading_leading (within : axis < v.rank) (count fewer : Nat) :
    (v.leading axis count).leading axis fewer = v.leading axis fewer := by
  rw [leading, select, leading, axis_select within, select, leading, select, List.set_set]
  simp

theorem leading_extent (within : axis < v.rank) : v.leading axis (v.axis axis).extent = v := by
  have listed : axis < v.axes.length := within
  have same_axes : v.axes.set axis (v.axis axis) = v.axes := by
    rw [axis_eq_getElem listed, List.set_getElem_self]
  rw [leading, select, Int.zero_mul, Int.add_zero, Int.mul_one, same_axes]

variable {count : Nat}

theorem cell_leading (within : axis < v.rank) {index : List Nat}
    (member : index ∈ indices (v.leading axis count).shape) :
    (v.leading axis count).cell index = v.cell index := by
  have within_leading : axis < (v.leading axis count).rank := by rwa [rank_leading]
  obtain ⟨rest, rest_member, position, -, rfl⟩ := exists_insertIdx_eq within_leading member
  rw [shape_leading, List.eraseIdx_set_eq] at rest_member
  exact cell_select within rest_member (by simp)

section Fits

variable (within : axis < v.rank) (fits : count ≤ (v.axis axis).extent)

include within fits

theorem mem_indices_of_leading {index : List Nat}
    (member : index ∈ indices (v.leading axis count).shape) : index ∈ indices v.shape := by
  have within_leading : axis < (v.leading axis count).rank := by rwa [rank_leading]
  obtain ⟨rest, rest_member, position, below, rfl⟩ := exists_insertIdx_eq within_leading member
  rw [shape_leading, List.eraseIdx_set_eq] at rest_member
  rw [extent_leading within] at below
  exact (insertIdx_mem_indices_shape within).mpr ⟨Nat.lt_of_lt_of_le below fits, rest_member⟩

theorem Injective.leading (separate : v.Injective) : (v.leading axis count).Injective := by
  intro left left_member right right_member same
  rw [cell_leading within left_member, cell_leading within right_member] at same
  exact separate (mem_indices_of_leading within fits left_member)
    (mem_indices_of_leading within fits right_member) same

theorem mem_cells_of_leading {cell : Int} (member : cell ∈ (v.leading axis count).cells) :
    cell ∈ v.cells := by
  rw [cells_eq_map_cell, List.mem_map] at member ⊢
  obtain ⟨index, index_member, rfl⟩ := member
  exact ⟨index, mem_indices_of_leading within fits index_member,
    (cell_leading within index_member).symm⟩

end Fits

/-- A slice without a step keeps what lies between its bounds. -/
private theorem slice_eq_select (v : View) (axis : Nat) (start stop : Option Int) {first last : Int}
    {count : Nat}
    (starts : (start.map (Slice.clamp (v.axis axis).extent 0 (v.axis axis).extent)).getD 0 = first)
    (stops : (stop.map (Slice.clamp (v.axis axis).extent 0 (v.axis axis).extent)).getD
      (v.axis axis).extent = last)
    (counted : (last - first).toNat = count) :
    v.slice axis { start, stop } = v.select axis ⟨first, 1, count⟩ := by
  have count_eq : (if first < last then ((last - first - 1) / 1 + 1).toNat else 0) = count := by
    split <;> omega
  have resolved : ({ start, stop } : Slice).resolve? (v.axis axis).extent =
      some ⟨first, 1, count⟩ := by
    rw [← count_eq, ← starts, ← stops]
    rfl
  rw [slice, resolved]

theorem slice_dropLast (v : View) (axis : Nat) :
    v.slice axis .dropLast = v.leading axis ((v.axis axis).extent - 1) := by
  have stops : Slice.clamp (v.axis axis).extent 0 (v.axis axis).extent (-1) =
      ((v.axis axis).extent - 1 : Nat) := by
    simp only [Slice.clamp]
    omega
  exact slice_eq_select v axis none (some (-1)) rfl stops (by omega)

theorem slice_dropLastTwo (v : View) (axis : Nat) :
    v.slice axis .dropLastTwo = v.leading axis ((v.axis axis).extent - 2) := by
  have stops : Slice.clamp (v.axis axis).extent 0 (v.axis axis).extent (-2) =
      ((v.axis axis).extent - 2 : Nat) := by
    simp only [Slice.clamp]
    omega
  exact slice_eq_select v axis none (some (-2)) rfl stops (by omega)

theorem slice_dropFirst (v : View) (axis : Nat) :
    v.slice axis .dropFirst =
      v.select axis ⟨min 1 (v.axis axis).extent, 1, (v.axis axis).extent - 1⟩ := by
  have starts : Slice.clamp (v.axis axis).extent 0 (v.axis axis).extent 1 =
      min 1 ((v.axis axis).extent : Int) := by
    simp only [Slice.clamp]
    omega
  have stops : (Option.map (Slice.clamp (v.axis axis).extent 0 (v.axis axis).extent) none).getD
      ((v.axis axis).extent : Int) = (v.axis axis).extent := rfl
  exact slice_eq_select v axis (some 1) none starts stops (by omega)

theorem shape_slice_dropLast (v : View) (axis : Nat) :
    (v.slice axis .dropLast).shape = v.shape.set axis ((v.axis axis).extent - 1) := by
  rw [slice_dropLast, shape_leading]

theorem shape_slice_dropFirst (v : View) (axis : Nat) :
    (v.slice axis .dropFirst).shape = v.shape.set axis ((v.axis axis).extent - 1) := by
  rw [slice_dropFirst, shape_select]

theorem slice_upTo (v : View) (axis : Nat) {count : Nat} (fits : count ≤ (v.axis axis).extent) :
    v.slice axis { start := some 0, stop := some count } = v.leading axis count := by
  have starts : Slice.clamp (v.axis axis).extent 0 (v.axis axis).extent 0 = 0 := by
    simp only [Slice.clamp]
    omega
  have stops : Slice.clamp (v.axis axis).extent 0 (v.axis axis).extent count = count := by
    simp only [Slice.clamp]
    omega
  exact slice_eq_select v axis (some 0) (some count) starts stops (by omega)

end View

namespace Strided

variable {α : Type} [Inhabited α] {a : Strided α} {axis : Nat} (within : axis < a.view.rank)
  {index : List Nat} (member : index ∈ indices (a.view.shape.eraseIdx axis))

include within member

theorem get_through_leading (count position : Nat) :
    (a.through (a.view.leading axis count)).get (index.insertIdx axis position) =
      a.get (index.insertIdx axis position) :=
  congrArg (readCell a.buffer) (View.cell_select within member (by simp))

theorem get_through_dropLast (position : Nat) :
    (a.through (a.view.slice axis .dropLast)).get (index.insertIdx axis position) =
      a.get (index.insertIdx axis position) := by
  rw [View.slice_dropLast, get_through_leading within member]

theorem get_through_dropFirst (positive : 0 < (a.view.axis axis).extent) (position : Nat) :
    (a.through (a.view.slice axis .dropFirst)).get (index.insertIdx axis position) =
      a.get (index.insertIdx axis (position + 1)) := by
  rw [View.slice_dropFirst]
  exact congrArg (readCell a.buffer) (View.cell_select within member (by simp only; omega))

end Strided

end StridedReduction

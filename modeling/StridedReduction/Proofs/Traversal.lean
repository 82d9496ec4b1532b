import StridedReduction.Proofs.Cells
import StridedReduction.Strided

/-!
# Rows, lanes and sub-views

How the parts of a view share its cells.  The rows in order list the cells of the view in order
(`flatMap_cells_rows`); position `k` of the lane at an index, that index of the `k`-th sub-view and
the index with `k` put in at the axis are one cell (`cell_lane`, `cell_fix`).
-/

namespace StridedReduction

namespace View

theorem flatMap_cells_rowsFrom (origin : Int) (axes : List Axis) :
    (rowsFrom origin axes).flatMap View.cells = cellsFrom origin axes := by
  induction axes generalizing origin with
  | nil => simp [rowsFrom, View.cells, cellsFrom]
  | cons axis axes induction =>
    cases axes with
    | nil => simp [rowsFrom, View.cells]
    | cons next axes => simp only [rowsFrom, List.flatMap_assoc, induction, cellsFrom]

theorem flatMap_cells_rows (v : View) : v.rows.flatMap View.cells = v.cells :=
  flatMap_cells_rowsFrom v.origin v.axes

variable {v : View} {axis : Nat}

theorem axis_eq_getElem (within : axis < v.axes.length) : v.axis axis = v.axes[axis] := by
  rw [View.axis, List.getD_eq_getElem?_getD, List.getElem?_eq_getElem within, Option.getD_some]

theorem map_axis_range (v : View) : (List.range v.rank).map v.axis = v.axes := by
  apply List.ext_getElem
  · simp [rank]
  · intro position _ listed
    rw [List.getElem_map, List.getElem_range, axis_eq_getElem listed]

theorem shape_base (v : View) (axis : Nat) : (v.base axis).shape = v.shape.eraseIdx axis := by
  rw [shape, base, shape, List.eraseIdx_map]

theorem shape_fix (v : View) (axis position : Nat) :
    (v.fix axis position).shape = v.shape.eraseIdx axis :=
  shape_base v axis

theorem getD_shape (v : View) (axis : Nat) : v.shape.getD axis 1 = (v.axis axis).extent := by
  simp only [shape, View.axis, List.getD_eq_getElem?_getD, List.getElem?_map]
  cases v.axes[axis]? <;> rfl

theorem getElem_shape (listed : axis < v.shape.length) :
    v.shape[axis] = (v.axis axis).extent := by
  rw [← getD_shape, List.getD_eq_getElem?_getD, List.getElem?_eq_getElem listed, Option.getD_some]

@[simp] theorem rank_dense (shape : List Nat) : (dense shape).rank = shape.length := by
  rw [← length_shape, shape_dense]

theorem rank_eq_of_shape_eq {v w : View} (same : v.shape = w.shape) : v.rank = w.rank := by
  rw [← length_shape, same, length_shape]

theorem extent_eq_of_shape_eq {v w : View} (same : v.shape = w.shape) (axis : Nat) :
    (v.axis axis).extent = (w.axis axis).extent := by
  rw [← getD_shape, same, getD_shape]

theorem rank_of_shape_eq_set {w : View} {count : Nat} (resized : w.shape = v.shape.set axis count) :
    w.rank = v.rank := by
  rw [← length_shape, resized, List.length_set, length_shape]

theorem extent_of_shape_eq_set {w : View} {count : Nat} (within : axis < v.rank)
    (resized : w.shape = v.shape.set axis count) : (w.axis axis).extent = count := by
  have listed : axis < v.shape.length := by simpa using within
  rw [← getD_shape, resized, List.getD_eq_getElem?_getD, List.getElem?_set_self listed,
    Option.getD_some]

theorem length_of_mem_indices_eraseIdx (within : axis < v.rank) {index : List Nat}
    (member : index ∈ indices (v.shape.eraseIdx axis)) : index.length + 1 = v.rank := by
  have lengths := length_of_mem_indices member
  rw [List.length_eraseIdx_of_lt (by simpa using within), length_shape] at lengths
  omega

theorem insertIdx_mem_indices_shape (within : axis < v.rank) {index : List Nat} {position : Nat} :
    index.insertIdx axis position ∈ indices v.shape ↔
      position < (v.axis axis).extent ∧ index ∈ indices (v.shape.eraseIdx axis) := by
  rw [insertIdx_mem_indices (by simpa using within), getD_shape]

/-- Every index is that of a lane with a position along it put in. -/
theorem exists_insertIdx_eq (within : axis < v.rank) {index : List Nat}
    (member : index ∈ indices v.shape) :
    ∃ rest ∈ indices (v.shape.eraseIdx axis), ∃ position < (v.axis axis).extent,
      rest.insertIdx axis position = index := by
  have reaches : axis < index.length := by
    rw [length_of_mem_indices member, length_shape]
    exact within
  have put_back : (index.eraseIdx axis).insertIdx axis index[axis] = index :=
    List.insertIdx_eraseIdx_getElem reaches
  rw [← put_back] at member
  obtain ⟨below, rest_member⟩ := (insertIdx_mem_indices_shape within).mp member
  exact ⟨_, rest_member, _, below, put_back⟩

variable (within : axis < v.rank) {index : List Nat}
  (member : index ∈ indices (v.shape.eraseIdx axis))

include within member

theorem cell_insertIdx (position : Nat) :
    v.cell (index.insertIdx axis position) =
      v.origin + (position * (v.axis axis).stride + displacement (v.axes.eraseIdx axis) index) := by
  have length_eq := length_of_mem_indices_eraseIdx within member
  have reaches : axis ≤ index.length := by omega
  rw [cell, displacement_insertIdx position within reaches]
  rfl

theorem cell_fix (position : Nat) :
    (v.fix axis position).cell index = v.cell (index.insertIdx axis position) := by
  rw [cell_insertIdx within member, ← Int.add_assoc]
  rfl

theorem cell_lane (position : Nat) :
    (v.lane axis index).cell [position] = v.cell (index.insertIdx axis position) := by
  rw [cell_insertIdx within member]
  simp only [lane, base, cell, displacement]
  omega

theorem cells_lane :
    (v.lane axis index).cells =
      (List.range (v.axis axis).extent).map fun position =>
        v.cell (index.insertIdx axis position) := by
  rw [cells_eq_map_cell]
  simp only [← cell_lane within member]
  simp [lane, shape, indices, ← List.map_eq_flatMap]

omit member

/-- The sub-views along an axis share out the cells of the view. -/
theorem flatMap_cells_subviews_perm : ((v.subviews axis).flatMap View.cells).Perm v.cells := by
  have listed : axis < v.axes.length := within
  have moved : (v.axis axis :: v.axes.eraseIdx axis).Perm v.axes := by
    rw [axis_eq_getElem listed]
    exact List.getElem_cons_eraseIdx_perm listed
  have perm := cellsFrom_perm moved v.origin
  rw [subviews, List.flatMap_map]
  exact perm

/-- The lanes along an axis share out the cells of the view. -/
theorem flatMap_cells_lanes_perm :
    ((indices (v.shape.eraseIdx axis)).flatMap fun index => (v.lane axis index).cells).Perm
      v.cells := by
  have lanes_eq : ((indices (v.shape.eraseIdx axis)).flatMap fun index =>
        (v.lane axis index).cells) =
      (indices (v.shape.eraseIdx axis)).flatMap fun index =>
        (List.range (v.axis axis).extent).flatMap fun position =>
          [v.cell (index.insertIdx axis position)] := by
    apply List.flatMap_congr
    intro index member
    rw [cells_lane within member, List.map_eq_flatMap]
  have subviews_eq : (v.subviews axis).flatMap View.cells =
      (List.range (v.axis axis).extent).flatMap fun position =>
        (indices (v.shape.eraseIdx axis)).flatMap fun index =>
          [v.cell (index.insertIdx axis position)] := by
    rw [subviews, List.flatMap_map]
    apply List.flatMap_congr
    intro position _
    rw [cells_eq_map_cell, shape_fix, ← List.map_eq_flatMap]
    exact List.map_congr_left fun index member => cell_fix within member position
  rw [lanes_eq]
  refine (perm_flatMap_flatMap _ _ _).trans ?_
  rw [← subviews_eq]
  exact flatMap_cells_subviews_perm within

end View

namespace Strided

variable {α : Type} [Inhabited α] (a : Strided α)

theorem flatMap_toList_rows :
    (a.view.rows.flatMap fun row => (a.through row).toList) = a.toList := by
  rw [toList, ← View.flatMap_cells_rows, List.map_flatMap]
  rfl

theorem toList_through_perm {view : View} (perm : view.cells.Perm a.view.cells) :
    (a.through view).toList.Perm a.toList :=
  perm.map _

theorem get_through_fix {axis : Nat} (within : axis < a.view.rank) {index : List Nat}
    (member : index ∈ indices (a.view.shape.eraseIdx axis)) (position : Nat) :
    (a.through (a.view.fix axis position)).get index = a.get (index.insertIdx axis position) :=
  congrArg (readCell a.buffer) (View.cell_fix within member position)

theorem toList_through_fix {axis : Nat} (within : axis < a.view.rank) (position : Nat) :
    (a.through (a.view.fix axis position)).toList =
      (indices (a.view.shape.eraseIdx axis)).map fun index =>
        a.get (index.insertIdx axis position) := by
  rw [toList_eq_map_get]
  change (indices (a.view.fix axis position).shape).map _ = _
  rw [View.shape_fix]
  apply List.map_congr_left
  intro index member
  exact a.get_through_fix within member position

/-- The elements of the lane along an axis at an index of the remaining axes. -/
def laneElements (axis : Nat) (index : List Nat) : List α :=
  (List.range (a.view.axis axis).extent).map fun position => a.get (index.insertIdx axis position)

theorem toList_through_lane {axis : Nat} (within : axis < a.view.rank) {index : List Nat}
    (member : index ∈ indices (a.view.shape.eraseIdx axis)) :
    (a.through (a.view.lane axis index)).toList = a.laneElements axis index := by
  change (a.view.lane axis index).cells.map _ = _
  rw [View.cells_lane within member, List.map_map]
  rfl

/-- The lanes along an axis share out the elements of the array. -/
theorem flatMap_laneElements_perm {axis : Nat} (within : axis < a.view.rank) :
    ((indices (a.view.shape.eraseIdx axis)).flatMap (a.laneElements axis)).Perm a.toList := by
  have perm := (View.flatMap_cells_lanes_perm within).map (readCell a.buffer)
  rw [List.map_flatMap] at perm
  refine .trans (.of_eq ?_) perm
  apply List.flatMap_congr
  intro index member
  exact (toList_through_lane a within member).symm

end Strided

end StridedReduction

import StridedReduction.Proofs.Derivation

/-!
# Lanes, sub-views and rows in order

The indices of a shape are listed in ascending order, the last position varying fastest
(`enumerates_indices`).  A lane is what the view becomes once its axis stands behind all others and
the other positions are given (`lane_eq_part`), a row what it becomes once all positions but the
last are given (`rows_eq_map_part`); so the rows are the lanes along the last axis
(`rows_eq_map_lanes`).  The main statement, `traversals_agree`, reads off which cell every step of a
traversal meets.
-/

namespace StridedReduction

/-- Whether a list names every index of a shape once, the last position varying fastest. -/
structure Enumerates (list : List (List Nat)) (shape : List Nat) : Prop where
  /-- Of two indices the one listed first has the smaller position where they first differ. -/
  ascending : list.Pairwise (· < ·)
  /-- What is listed has a position below each extent, and nothing that has is left out. -/
  complete : ∀ index, index ∈ list ↔ List.Forall₂ (· < ·) index shape

theorem enumerates_indices (shape : List Nat) : Enumerates (indices shape) shape :=
  ⟨pairwise_lt_indices shape, fun _ => mem_indices_iff⟩

namespace View

/-- The part of a view at positions of its first axes, which it no longer has. -/
def part (v : View) (index : List Nat) : View :=
  ⟨v.cell index, v.axes.drop index.length⟩

/-- The view with one axis moved behind all others. -/
def moveLast (v : View) (axis : Nat) : View :=
  v.permute ((List.range v.rank).eraseIdx axis ++ [axis])

theorem displacement_append (axes : List Axis) {front : List Axis} {index : List Nat}
    (reaches : index.length = front.length) :
    displacement (front ++ axes) index = displacement front index := by
  induction front generalizing index with
  | nil =>
    rw [List.length_nil, List.length_eq_zero_iff] at reaches
    simp [reaches, displacement]
  | cons axis front induction =>
    cases index with
    | nil => rfl
    | cons position index => simp [displacement, induction (by simpa using reaches)]

variable {v : View} {axis : Nat}

theorem moveLast_eq (v : View) (axis : Nat) :
    v.moveLast axis = ⟨v.origin, v.axes.eraseIdx axis ++ [v.axis axis]⟩ := by
  rw [moveLast, permute, List.map_append, ← List.eraseIdx_map, map_axis_range]
  rfl

theorem moveLast_of_last (last : axis + 1 = v.rank) : v.moveLast axis = v := by
  have within : axis < v.rank := by omega
  have listed : axis < v.axes.length := within
  have nonempty : v.axes ≠ [] := List.length_pos_iff.mp (axis.zero_le.trans_lt listed)
  have axis_eq : v.axis axis = v.axes.getLast nonempty := by
    rw [axis_eq_getElem listed, List.getLast_eq_getElem]
    congr 1
    exact Nat.eq_sub_of_add_eq last
  rw [moveLast_eq, axis_eq, ← List.dropLast_eq_eraseIdx last, List.dropLast_append_getLast]

theorem lane_eq_part (within : axis < v.rank) {index : List Nat}
    (member : index ∈ indices (v.shape.eraseIdx axis)) :
    v.lane axis index = (v.moveLast axis).part index := by
  have length_eq : index.length = (v.axes.eraseIdx axis).length := by
    have lengths := length_of_mem_indices_eraseIdx within member
    rw [List.length_eraseIdx_of_lt within]
    change _ = v.rank - 1
    omega
  rw [moveLast_eq, part, cell, displacement_append _ length_eq, length_eq, List.drop_left]
  rfl

theorem rowsFrom_eq_map_part (origin : Int) {axes : List Axis} (some_axis : axes ≠ []) :
    rowsFrom origin axes =
      (indices (axes.map Axis.extent).dropLast).map (View.mk origin axes).part := by
  induction axes generalizing origin with
  | nil => exact absurd rfl some_axis
  | cons axis axes induction =>
    cases axes with
    | nil => simp [rowsFrom, part, cell, displacement]
    | cons next axes =>
      -- A position of the first axis moves the origin of the rows along the other ones.
      simp only [rowsFrom, List.map_cons, List.dropLast_cons_cons, indices, List.map_flatMap,
        List.map_map]
      congr 1
      funext position
      rw [induction _ (List.cons_ne_nil next axes)]
      apply List.map_congr_left
      intro index _
      simp [part, cell, displacement, Int.add_assoc]

theorem rows_eq_map_part (positive : 0 < v.rank) :
    v.rows = (indices v.shape.dropLast).map v.part :=
  rowsFrom_eq_map_part v.origin (List.length_pos_iff.mp positive)

/-- The rows are the lanes along the last axis. -/
theorem rows_eq_map_lanes (last : axis + 1 = v.rank) :
    v.rows = (v.lanes axis).map Prod.snd := by
  have within : axis < v.rank := by omega
  have shape_eq : v.shape.dropLast = v.shape.eraseIdx axis :=
    List.dropLast_eq_eraseIdx (by rwa [length_shape])
  rw [rows_eq_map_part (axis.zero_le.trans_lt within), shape_eq, lanes, List.map_map, shape_base]
  apply List.map_congr_left
  intro index member
  calc v.part index
      = (v.moveLast axis).part index := by rw [moveLast_of_last last]
    _ = v.lane axis index := (lane_eq_part within member).symm

/-- How the lanes and the sub-views along an axis share out a view. -/
structure SharedOut (v : View) (axis : Nat) (lanes : List (List Nat × View))
    (subviews : List View) : Prop where
  /-- There is one lane for every index of the remaining axes, in the order of the indices. -/
  enumerates : Enumerates (lanes.map Prod.fst) (v.shape.eraseIdx axis)
  /-- There is one sub-view for every position along the axis. -/
  length_subviews : subviews.length = (v.axis axis).extent
  /-- A lane is as long as the axis. -/
  shape_lane : ∀ lane ∈ lanes, lane.2.shape = [(v.axis axis).extent]
  /-- A sub-view has the remaining axes. -/
  shape_subview : ∀ part ∈ subviews, part.shape = v.shape.eraseIdx axis
  /-- A position of the lane at an index, the index in the sub-view at that position and the index
  with the position put in are one cell. -/
  same_cell : ∀ index lane, (index, lane) ∈ lanes →
    ∀ (position : Nat) (below : position < subviews.length),
      lane.cell [position] = v.cell (index.insertIdx axis position) ∧
        subviews[position].cell index = v.cell (index.insertIdx axis position)
  /-- The lanes meet every cell of the view as often as the view does. -/
  cells_lanes : (lanes.flatMap fun lane => lane.2.cells).Perm v.cells
  /-- The sub-views meet every cell of the view as often as the view does. -/
  cells_subviews : (subviews.flatMap View.cells).Perm v.cells

theorem sharedOut (within : axis < v.rank) : v.SharedOut axis (v.lanes axis) (v.subviews axis) where
  enumerates := by
    have indices_eq : (v.lanes axis).map Prod.fst = indices (v.shape.eraseIdx axis) := by
      rw [lanes, List.map_map, shape_base]
      exact List.map_id _
    rw [indices_eq]
    exact enumerates_indices _
  length_subviews := by rw [subviews, List.length_map, List.length_range]
  shape_lane lane member := by
    obtain ⟨index, -, rfl⟩ := List.mem_map.mp member
    rfl
  shape_subview part member := by
    obtain ⟨position, -, rfl⟩ := List.mem_map.mp member
    exact shape_fix v axis position
  same_cell index lane member position below := by
    obtain ⟨index, listed, same⟩ := List.mem_map.mp member
    obtain ⟨rfl, rfl⟩ := Prod.mk.inj same
    rw [shape_base] at listed
    have subview_eq : (v.subviews axis)[position] = v.fix axis position := by
      simp only [subviews, List.getElem_map, List.getElem_range]
    rw [subview_eq]
    exact ⟨cell_lane within listed position, cell_fix within listed position⟩
  cells_lanes := by
    have shared := flatMap_cells_map_lanes_perm within
    rwa [List.flatMap_map] at shared
  cells_subviews := flatMap_cells_subviews_perm within

/-- Along every axis the lanes and the sub-views can be walked to their end, the lanes in the order
of their indices and the sub-views in that of their positions, and share out the view: what they
meet at an index and a position along the axis is the cell of the index with the position put in.
The rows are in order the lanes along the last axis, and one after the other they meet the cells of
all indices in order. -/
theorem traversals_agree (within : axis < v.rank) :
    ∃ lanes subviews last all,
      v.lanesAt (axis : Nat) = .ok lanes ∧ (v.walk (axis : Nat)).complete = .ok subviews ∧
        v.SharedOut axis lanes subviews ∧
        v.lanesAt (v.rank - 1 : Nat) = .ok last ∧ v.rows = last.map Prod.snd ∧
        Enumerates all v.shape ∧ v.rows.flatMap View.cells = all.map v.cell := by
  have last_within : v.rank - 1 < v.rank := by omega
  refine ⟨v.lanes axis, v.subviews axis, v.lanes (v.rank - 1), indices v.shape,
    lanesAt_natCast within, ?_, sharedOut within, lanesAt_natCast last_within, ?_,
    enumerates_indices v.shape, ?_⟩
  · rw [walk_natCast within]
    rfl
  · exact rows_eq_map_lanes (by omega)
  · rw [flatMap_cells_rows, cells_eq_map_cell]

/-- A grid that is stored downwards along its first axis and repeats its cells along the second. -/
theorem traversals_of_repeating_grid :
    let v : View := ⟨5, [⟨2, -3⟩, ⟨3, 0⟩, ⟨2, 7⟩]⟩
    1 < v.rank ∧
      ∃ lanes subviews last all,
        v.lanesAt 1 = .ok lanes ∧ (v.walk 1).complete = .ok subviews ∧
          v.SharedOut 1 lanes subviews ∧
          v.lanesAt 2 = .ok last ∧ v.rows = last.map Prod.snd ∧
          Enumerates all v.shape ∧ v.rows.flatMap View.cells = all.map v.cell := by
  intro v
  have within : 1 < v.rank := by decide
  exact ⟨within, traversals_agree within⟩

end View

end StridedReduction

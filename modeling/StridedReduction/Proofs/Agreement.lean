import StridedReduction.Array.Call
import StridedReduction.Array.Unchecked
import StridedReduction.Proofs.Broadcast
import StridedReduction.Proofs.Buffer
import StridedReduction.Proofs.Traversal

/-!
# Arrays with the same elements

Two arrays of one shape whose elements agree at every index, over buffers and views that need have
nothing to do with each other.  Their rows and their sub-views along an axis agree again, and so do
the ways in which these stretch to a shape.  What visits the elements in the order of the indices
therefore yields the same for both, down to the buffer and the strides of a result.
-/

namespace StridedReduction

namespace View

theorem fix_of_rank_le {v : View} {axis : Nat} (beyond : v.rank ≤ axis) (position : Nat) :
    v.fix axis position = v := by
  have no_axis : v.axis axis = ⟨1, 0⟩ := by
    rw [View.axis, List.getD_eq_getElem?_getD, List.getElem?_eq_none beyond, Option.getD_none]
  rw [fix, no_axis, List.eraseIdx_of_length_le beyond, Int.mul_zero, Int.add_zero]

end View

/-- What each of several steps yields may be mapped before or after they are run. -/
theorem map_mapM {ε β γ δ : Type} (step : β → Except ε γ) (image : γ → δ) (xs : List β) :
    (xs.mapM step).map (List.map image) = xs.mapM fun x => (step x).map image := by
  induction xs with
  | nil => rfl
  | cons x xs induction =>
    rw [List.mapM_cons, List.mapM_cons, ← induction]
    cases step x with
    | error failure => rfl
    | ok y => cases xs.mapM step <;> rfl

namespace Strided

variable {α : Type} [Inhabited α]

/-- A fold along an unchecked axis takes nothing of the stretched sub-views but their elements. -/
theorem reduceAxisAt_eq_bind (op : α → α → α) (identity : α) (a : Strided α) (axis : Int) :
    a.reduceAxisAt op identity false axis =
      ((a.view.walk axis).views.mapM fun part =>
        (stretched (Sequence.remove a.view.shape axis) part).map fun view =>
          (a.through view).toList).bind fun parts =>
      (a.view.walk axis).failure.elim
        (.ok (ofList (Sequence.remove a.view.shape axis) (parts.foldl (List.zipWith op)
          (List.replicate (extentProduct (Sequence.remove a.view.shape axis)) identity))))
        .error := by
  rw [← map_mapM]
  simp only [reduceAxisAt, accumulateInto]
  cases (a.view.walk axis).views.mapM (stretched (Sequence.remove a.view.shape axis)) with
  | error failure => rfl
  | ok parts =>
    cases (a.view.walk axis).failure with
    | some failure => rfl
    | none =>
      simp only [Except.map, Except.bind, List.foldl_map]
      rfl

/-- Two arrays have the same shape and the same elements. -/
structure Agrees (a b : Strided α) : Prop where
  shape_eq : a.view.shape = b.view.shape
  get_eq : ∀ index ∈ indices a.view.shape, a.get index = b.get index

namespace Agrees

theorem of_toList_eq {a b : Strided α} (shape_eq : a.view.shape = b.view.shape)
    (toList_eq : a.toList = b.toList) : a.Agrees b := by
  refine ⟨shape_eq, ?_⟩
  rw [toList_eq_map_get, toList_eq_map_get, ← shape_eq] at toList_eq
  exact List.map_inj_left.mp toList_eq

/-- Arrays agree when their lanes along an axis do. -/
theorem of_lanes {a b : Strided α} {axis : Nat} (within : axis < a.view.rank)
    (shape_eq : a.view.shape = b.view.shape)
    (lanes_eq : ∀ index ∈ indices (a.view.shape.eraseIdx axis), ∀ position,
      position < (a.view.axis axis).extent →
        a.get (index.insertIdx axis position) = b.get (index.insertIdx axis position)) :
    a.Agrees b := by
  refine ⟨shape_eq, ?_⟩
  intro index member
  obtain ⟨rest, rest_member, position, below, rfl⟩ := View.exists_insertIdx_eq within member
  exact lanes_eq rest rest_member position below

variable {a b : Strided α} (agrees : a.Agrees b)

include agrees

theorem toList_eq : a.toList = b.toList := by
  rw [toList_eq_map_get, toList_eq_map_get, ← agrees.shape_eq]
  exact List.map_congr_left agrees.get_eq

theorem size_eq : a.size = b.size :=
  congrArg extentProduct agrees.shape_eq

theorem rank_eq : a.view.rank = b.view.rank :=
  View.rank_eq_of_shape_eq agrees.shape_eq

theorem extent_eq (axis : Nat) : (a.view.axis axis).extent = (b.view.axis axis).extent :=
  View.extent_eq_of_shape_eq agrees.shape_eq axis

theorem copy_eq : a.copy = b.copy := by
  rw [copy, copy, agrees.shape_eq, agrees.toList_eq]

theorem fix (axis : Nat) {position : Nat} (below : position < (a.view.axis axis).extent) :
    (a.through (a.view.fix axis position)).Agrees (b.through (b.view.fix axis position)) := by
  by_cases within : axis < a.view.rank
  case neg =>
    have beyond : a.view.rank ≤ axis := Nat.not_lt.mp within
    rw [View.fix_of_rank_le beyond, View.fix_of_rank_le (agrees.rank_eq ▸ beyond)]
    exact agrees
  case pos =>
    have within_other : axis < b.view.rank := agrees.rank_eq ▸ within
    constructor
    case shape_eq =>
      change (a.view.fix axis position).shape = (b.view.fix axis position).shape
      rw [View.shape_fix, View.shape_fix, agrees.shape_eq]
    case get_eq =>
      intro index member
      have member : index ∈ indices (a.view.shape.eraseIdx axis) :=
        View.shape_fix a.view axis position ▸ member
      rw [a.get_through_fix within member,
        b.get_through_fix within_other (agrees.shape_eq ▸ member)]
      exact agrees.get_eq _ ((View.insertIdx_mem_indices_shape within).mpr ⟨below, member⟩)

/-- The elements of each sub-view along an axis. -/
theorem map_toList_subviews (axis : Nat) :
    ((a.view.subviews axis).map fun part => (a.through part).toList) =
      (b.view.subviews axis).map fun part => (b.through part).toList := by
  rw [View.subviews, View.subviews, List.map_map, List.map_map, ← agrees.extent_eq]
  apply List.map_congr_left
  intro position member
  exact (agrees.fix axis (List.mem_range.mp member)).toList_eq

/-- The elements of each row. -/
theorem map_toList_rows :
    (a.view.rows.map fun row => (a.through row).toList) =
      b.view.rows.map fun row => (b.through row).toList := by
  obtain ⟨buffer, origin, axes⟩ := a
  obtain ⟨other, other_origin, others⟩ := b
  induction axes generalizing origin other_origin others with
  | nil =>
    cases others with
    | cons _ _ => cases agrees.shape_eq
    | nil =>
      have same := agrees.toList_eq
      simpa [View.rows, View.rowsFrom, toList, through, View.cells, cellsFrom] using same
  | cons axis axes induction =>
    cases others with
    | nil => cases agrees.shape_eq
    | cons other_axis others =>
      have extent_eq : axis.extent = other_axis.extent := agrees.extent_eq 0
      cases axes with
      | nil =>
        cases others with
        | cons _ _ => exact absurd agrees.rank_eq (by simp [View.rank])
        | nil => exact congrArg (fun elements => [elements]) agrees.toList_eq
      | cons next axes =>
        cases others with
        | nil => exact absurd agrees.rank_eq (by simp [View.rank])
        | cons other_next others =>
          simp only [View.rows, View.rowsFrom, List.map_flatMap, ← extent_eq]
          apply List.flatMap_congr
          intro position member
          exact induction _ _ _ (agrees.fix 0 (List.mem_range.mp member))

theorem reduce_eq (op : α → α → α) (identity : α) :
    a.reduce op identity false = b.reduce op identity false := by
  have by_rows (c : Strided α) : c.reduce op identity false =
      (c.view.rows.map fun row => (c.through row).toList).foldl
        (fun total elements => op total (elements.foldl op identity)) identity := by
    rw [List.foldl_map]
    rfl
  rw [by_rows, by_rows, agrees.map_toList_rows]

theorem cumulative_eq (op : α → α → α) (axis : Nat) :
    a.cumulative op axis = b.cumulative op axis := by
  rw [cumulative, cumulative, agrees.copy_eq]

theorem difference_eq (subtract : α → α → α) (zero : α) (order axis : Nat) :
    a.difference subtract zero order axis = b.difference subtract zero order axis := by
  have start_eq : DifferenceState.start zero a axis = DifferenceState.start zero b axis := by
    rw [DifferenceState.start, DifferenceState.start, agrees.shape_eq, agrees.extent_eq,
      agrees.copy_eq]
  rw [difference, difference, start_eq, agrees.copy_eq]

section Moments

variable [Add α] [Sub α] [Mul α] [Div α] [NatCast α]

theorem squares_eq : a.squares = b.squares := by
  rw [squares, squares, agrees.toList_eq]

theorem squaresAxis_eq (axis : Nat) : a.squaresAxis axis = b.squaresAxis axis := by
  have by_subviews (c : Strided α) : c.squaresAxis axis =
      ofList (c.view.shape.eraseIdx axis)
        (((c.view.subviews axis).map fun part => (c.through part).toList).foldl LaneMoments.push
          (LaneMoments.empty (extentProduct (c.view.shape.eraseIdx axis)))).squares := by
    rw [List.foldl_map, squaresAxis, View.size, View.shape_base]
  rw [by_subviews, by_subviews, agrees.map_toList_subviews, agrees.shape_eq]

theorem variance_eq (finish : α → α) (degrees : α) :
    a.variance finish degrees = b.variance finish degrees := by
  rw [variance, variance, agrees.squares_eq]

theorem variances_eq (finish : α → α) (axis : Nat) (degrees : α) :
    a.variances finish axis degrees = b.variances finish axis degrees := by
  rw [variances, variances, agrees.squaresAxis_eq]

end Moments

/-- Walks along one number meet equally many sub-views of the same axis and end alike. -/
theorem exists_walk_eq (axis : Int) :
    ∃ count failure, count ≤ (a.view.axis axis.toNat).extent ∧
      a.view.walk axis = ⟨(List.range count).map (a.view.fix axis.toNat), failure⟩ ∧
      b.view.walk axis = ⟨(List.range count).map (b.view.fix axis.toNat), failure⟩ := by
  simp only [View.walk, ← agrees.shape_eq, ← agrees.extent_eq]
  cases extentAt? a.view.shape axis with
  | none => exact ⟨0, some .noSuchExtent, Nat.zero_le _, rfl, rfl⟩
  | some count => exact ⟨_, _, Nat.min_le_right count _, rfl, rfl⟩

omit agrees in
/-- Parts that agree stretch alike. -/
theorem map_toList_stretched {part other : View}
    (agrees : (a.through part).Agrees (b.through other)) (holder : List Nat) :
    ((stretched holder part).map fun view => (a.through view).toList) =
      (stretched holder other).map fun view => (b.through view).toList := by
  have shape_eq : part.shape = other.shape := agrees.shape_eq
  have stretch_iff : part.broadcast holder = none ↔ other.broadcast holder = none :=
    View.broadcast_eq_none_iff shape_eq
  rw [stretched, stretched]
  cases fits : part.broadcast holder with
  | none =>
    rw [stretch_iff.mp fits, ← shape_eq]
    cases broadcastShape holder part.shape <;> rfl
  | some view =>
    cases other_fits : other.broadcast holder with
    | none => simp [stretch_iff.mpr other_fits] at fits
    | some other_view =>
      have stretched_agree : (a.through view).Agrees (b.through other_view) := by
        constructor
        case shape_eq =>
          exact (View.shape_of_broadcast fits).trans (View.shape_of_broadcast other_fits).symm
        case get_eq =>
          intro index member
          have member : index ∈ indices holder := View.shape_of_broadcast fits ▸ member
          obtain ⟨source_mem, cell_eq⟩ := View.cell_of_broadcast fits member
          obtain ⟨_, other_cell_eq⟩ := View.cell_of_broadcast other_fits member
          have rank_eq : part.rank = other.rank := agrees.rank_eq
          have read := agrees.get_eq _ source_mem
          rw [get, get] at read ⊢
          change readCell a.buffer (view.cell index) = readCell b.buffer (other_view.cell index)
          rw [cell_eq, other_cell_eq, ← shape_eq, ← rank_eq]
          exact read
      exact congrArg Except.ok stretched_agree.toList_eq

theorem mapM_stretched_walk (axis : Int) (holder : List Nat) :
    ((a.view.walk axis).views.mapM fun part =>
        (stretched holder part).map fun view => (a.through view).toList) =
      (b.view.walk axis).views.mapM fun part =>
        (stretched holder part).map fun view => (b.through view).toList := by
  obtain ⟨count, failure, met, walk_eq, other_walk_eq⟩ := agrees.exists_walk_eq axis
  have each : ((List.range count).map fun position =>
      (stretched holder (a.view.fix axis.toNat position)).map fun view => (a.through view).toList) =
      (List.range count).map fun position =>
        (stretched holder (b.view.fix axis.toNat position)).map fun view =>
          (b.through view).toList := by
    apply List.map_congr_left
    intro position member
    have below : position < count := List.mem_range.mp member
    exact map_toList_stretched (agrees.fix axis.toNat (by omega)) holder
  rw [walk_eq, other_walk_eq, List.mapM_map, List.mapM_map]
  exact (List.mapM_map (g := id)).symm.trans ((congrArg (List.mapM id) each).trans List.mapM_map)

theorem reduceAxisAt_eq (op : α → α → α) (identity : α) (axis : Int) :
    a.reduceAxisAt op identity false axis = b.reduceAxisAt op identity false axis := by
  obtain ⟨count, failure, _, walk_eq, other_walk_eq⟩ := agrees.exists_walk_eq axis
  rw [reduceAxisAt_eq_bind, reduceAxisAt_eq_bind, agrees.mapM_stretched_walk, agrees.shape_eq,
    walk_eq, other_walk_eq]

end Agrees

theorem copy_agrees (a : Strided α) : a.copy.Agrees a :=
  .of_toList_eq (shape_ofList _ _) (toList_copy a)

end Strided

end StridedReduction

import StridedReduction.Array.Unchecked
import StridedReduction.Proofs.Traversal

/-!
# Axis numbers of an array

A number from zero up to the rank addresses the axis that it counts: the walk along it meets every
sub-view and reaches its end (`walk_natCast`), and the sub-views need no stretching to hold the
result.  So the fold along such a number is the one along the axis (`reduceAxisAt_natCast`).
-/

namespace StridedReduction

namespace View

variable {v : View} {axis : Nat}

theorem extentAt?_natCast (within : axis < v.rank) :
    extentAt? v.shape (axis : Int) = some (v.axis axis).extent := by
  have nonneg : ¬(axis : Int) < 0 := by omega
  have listed : axis < v.shape.length := by simpa using within
  simp only [extentAt?, nonneg, if_false, Int.toNat_natCast]
  rw [List.getElem?_eq_getElem listed, getElem_shape listed]

theorem walk_natCast (within : axis < v.rank) : v.walk (axis : Int) = ⟨v.subviews axis, none⟩ := by
  simp only [walk, extentAt?_natCast within, Int.toNat_natCast, Nat.min_self, Nat.le_refl, if_true]
  rfl

/-- The walk along an axis meets the sub-view at each position there. -/
theorem getElem?_walk_views (within : axis < v.rank) {position : Nat}
    (below : position < (v.axis axis).extent) :
    (v.walk (axis : Int)).views[position]? = some (v.fix axis position) := by
  rw [walk_natCast within, subviews, List.getElem?_map, List.getElem?_range below, Option.map_some]

theorem getLast?_walk_views (within : axis < v.rank) (positive : 0 < (v.axis axis).extent) :
    (v.walk (axis : Int)).views.getLast? = some (v.fix axis ((v.axis axis).extent - 1)) := by
  have length_eq : (v.walk (axis : Int)).views.length = (v.axis axis).extent := by
    rw [walk_natCast within, subviews, List.length_map, List.length_range]
  rw [List.getLast?_eq_getElem?, length_eq, getElem?_walk_views within (by omega)]

theorem stretch_extents (axes : List Axis) : stretch (axes.map Axis.extent) axes = some axes := by
  induction axes with
  | nil => rfl
  | cons axis axes induction => simp [stretch, induction]

theorem broadcast_shape (v : View) : v.broadcast v.shape = some v := by
  have nothing_missing : v.shape.length - v.rank = 0 := by
    rw [length_shape]
    omega
  have stretched : stretch v.shape v.axes = some v.axes := stretch_extents v.axes
  simp only [broadcast, nothing_missing, List.drop_zero, List.take_zero, stretched]
  rfl

theorem tightestOf_cons_ne_none (axis : Axis) (axes : List Axis) :
    tightestOf (axis :: axes) ≠ none := by
  rw [tightestOf]
  split
  · simp
  · split <;> simp

theorem requiredTightestAxis_eq_ok (within : axis < v.rank) :
    ∃ position, v.tightestAxis = some position ∧ v.requiredTightestAxis = .ok position := by
  obtain ⟨origin, axes⟩ := v
  cases axes with
  | nil => simp [rank] at within
  | cons head axes =>
    obtain ⟨tightest, found⟩ := Option.ne_none_iff_exists'.mp (tightestOf_cons_ne_none head axes)
    have tightest_eq : (View.mk origin (head :: axes)).tightestAxis = some tightest.1 := by
      rw [tightestAxis, found, Option.map_some]
    refine ⟨tightest.1, tightest_eq, ?_⟩
    rw [requiredTightestAxis, tightest_eq]

end View

namespace Strided

variable {α : Type} [Inhabited α] {a : Strided α} {axis : Nat}

theorem stretched_shape (part : View) : stretched part.shape part = .ok part := by
  rw [stretched, View.broadcast_shape]

/-- Parts of the shape that holds the result need no stretching. -/
theorem mapM_stretched {shape : List Nat} {parts : List View}
    (shaped : ∀ part ∈ parts, part.shape = shape) :
    parts.mapM (stretched shape) = .ok parts := by
  induction parts with
  | nil => rfl
  | cons part parts induction =>
    obtain ⟨head_shaped, rest_shaped⟩ := List.forall_mem_cons.mp shaped
    have head_ok : stretched shape part = .ok part := head_shaped ▸ stretched_shape part
    rw [List.mapM_cons, head_ok, induction rest_shaped]
    rfl

omit [Inhabited α] in
theorem mapM_stretched_subviews :
    (a.view.subviews axis).mapM (stretched (a.view.shape.eraseIdx axis)) =
      .ok (a.view.subviews axis) := by
  apply mapM_stretched
  intro part member
  obtain ⟨position, -, rfl⟩ := List.mem_map.mp member
  exact View.shape_fix a.view axis position

/-- With the number of an axis, an unchecked reduction is the reduction along that axis. -/
theorem reduceAxisAt_natCast (op : α → α → α) (identity : α) (fast : Bool)
    (within : axis < a.view.rank) :
    a.reduceAxisAt op identity fast (axis : Int) = .ok (a.reduceAxis op identity fast axis) := by
  have by_subviews :
      (do
        let parts ← (a.view.subviews axis).mapM (stretched (a.view.shape.eraseIdx axis))
        return ofList (a.view.shape.eraseIdx axis) (a.accumulateInto op
          (List.replicate (extentProduct (a.view.shape.eraseIdx axis)) identity) parts)) =
        (Except.ok (ofList (a.view.base axis).shape (a.reduceSubviews op identity axis)) :
          Except Failure (Strided α)) := by
    rw [mapM_stretched_subviews, ← View.shape_base]
    rfl
  obtain ⟨position, tightest_eq, required⟩ := View.requiredTightestAxis_eq_ok within
  -- The walk reaches its end, so the two sides can differ only in the path that they take.
  simp only [reduceAxisAt, View.walk_natCast within, Sequence.remove_natCast, reduceAxis, required,
    tightest_eq]
  cases fast with
  | false => exact by_subviews
  | true =>
    change (if (axis : Int) = position then _ else _) = _
    by_cases same : axis = position
    · subst same
      rw [if_pos rfl]
      rfl
    · rw [if_neg (by omega), if_neg (by simpa using Ne.symm same)]
      exact by_subviews

end Strided

end StridedReduction

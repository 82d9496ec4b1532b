import StridedReduction.Moments
import StridedReduction.Proofs.Buffer
import StridedReduction.Proofs.FloatArithmetic
import StridedReduction.Proofs.Traversal

/-!
# Moments of lanes

Lanes updated all at once keep, lane for lane, the moments of each lane on its own.  The two updates
round alike because they perform the same operations, except that the terms of one sum stand in the
other order; all that is needed of the arithmetic is that sums do not depend on it.  The main
statement is `squaresAxis_eq_ofList`.
-/

namespace StridedReduction

namespace LaneMoments

variable {α κ : Type} [NatCast α]

/-- The moments of several lanes hold those of one sequence of elements for every key. -/
structure Holds (m : LaneMoments α) (keys : List κ) (each : κ → Moments α) : Prop where
  count_eq : ∀ key, (each key).count = m.count
  means_eq : m.means = keys.map fun key => (each key).mean
  squares_eq : m.squares = keys.map fun key => (each key).squares

variable {m : LaneMoments α} {keys : List κ} {each : κ → Moments α}

theorem holds_empty (keys : List κ) :
    (empty keys.length : LaneMoments α).Holds keys fun _ => Moments.empty where
  count_eq _ := rfl
  means_eq := List.map_const'.symm
  squares_eq := List.map_const'.symm

namespace Holds

variable [Add α] [Sub α] [Mul α] [Div α] [Std.Commutative (HAdd.hAdd : α → α → α)]

/-- One more element in each lane. -/
theorem push (holds : m.Holds keys each) (entry : κ → α) :
    (m.push (keys.map entry)).Holds keys fun key => (each key).push (entry key) := by
  obtain ⟨count_eq, means_eq, squares_eq⟩ := holds
  have deltas : List.zipWith (· - ·) (keys.map entry) m.means =
      keys.map fun key => entry key - (each key).mean := by
    rw [means_eq, List.zipWith_map, List.zipWith_self]
  have means : (m.push (keys.map entry)).means =
      keys.map fun key => ((each key).push (entry key)).mean := by
    simp only [LaneMoments.push, Moments.push, means_eq, List.zipWith_map, List.zipWith_self,
      count_eq]
  constructor
  case count_eq =>
    intro key
    exact congrArg (· + 1) (count_eq key)
  case means_eq => exact means
  case squares_eq =>
    change List.zipWith (· + ·) m.squares (List.zipWith (· * ·)
      (List.zipWith (· - ·) (keys.map entry) (m.push (keys.map entry)).means)
      (List.zipWith (· - ·) (keys.map entry) m.means)) = _
    rw [means, deltas, squares_eq]
    simp only [List.zipWith_map, List.zipWith_self]
    apply List.map_congr_left
    intro key _
    -- The one sum whose terms a single lane adds in the other order.
    exact Std.Commutative.comm _ _

/-- One element after the other in each lane. -/
theorem foldl {β : Type} (holds : m.Holds keys each) (steps : List β) (entry : β → κ → α) :
    (steps.foldl (fun m step => m.push (keys.map (entry step))) m).Holds keys fun key =>
      (steps.map fun step => entry step key).foldl Moments.push (each key) := by
  induction steps generalizing m each with
  | nil => exact holds
  | cons step steps induction => exact induction (holds.push (entry step))

end Holds

end LaneMoments

namespace Strided

variable {α : Type} [Add α] [Sub α] [Mul α] [Div α] [NatCast α] [Inhabited α] {a : Strided α}
  {axis : Nat}

/-- The moments of the lanes along an axis after a number of elements of each. -/
def lanesAfter (a : Strided α) (axis steps : Nat) : LaneMoments α :=
  ((a.view.subviews axis).take steps).foldl (fun m part => m.push (a.through part).toList)
    (LaneMoments.empty (a.view.base axis).size)

theorem shape_squaresAxis (a : Strided α) (axis : Nat) :
    (a.squaresAxis axis).view.shape = a.view.shape.eraseIdx axis := by
  rw [squaresAxis, shape_ofList, View.shape_base]

theorem shape_variances (finish : α → α) (a : Strided α) (axis : Nat) (degrees : α) :
    (a.variances finish axis degrees).view.shape = a.view.shape.eraseIdx axis :=
  shape_squaresAxis a axis

variable (within : axis < a.view.rank)

include within

theorem squares_through_lane {index : List Nat}
    (member : index ∈ indices (a.view.shape.eraseIdx axis)) :
    (a.through (a.view.lane axis index)).squares =
      (Moments.ofList (a.laneElements axis index)).squares := by
  rw [squares, toList_through_lane a within member]

/-- After any number of steps the lanes have the squares that each has on its own. -/
theorem squares_lanesAfter [Std.Commutative (HAdd.hAdd : α → α → α)] (steps : Nat) :
    (a.lanesAfter axis steps).squares = (indices (a.view.shape.eraseIdx axis)).map fun index =>
      (Moments.ofList ((a.laneElements axis index).take steps)).squares := by
  let keys := indices (a.view.shape.eraseIdx axis)
  have walked := (LaneMoments.holds_empty (α := α) keys).foldl
    ((List.range (a.view.axis axis).extent).take steps) fun position index =>
      a.get (index.insertIdx axis position)
  have lane_count : (a.view.base axis).size = keys.length := by
    rw [View.size, View.shape_base, length_indices]
  simp only [lanesAfter, View.subviews, ← List.map_take, List.foldl_map,
    toList_through_fix a within, lane_count]
  refine walked.squares_eq.trans (List.map_congr_left fun index _ => ?_)
  rw [Moments.ofList, laneElements, List.map_take]

/-- The squares of all lanes at once are those of each lane on its own. -/
theorem squaresAxis_eq_ofList [Std.Commutative (HAdd.hAdd : α → α → α)] :
    a.squaresAxis axis = ofList (a.view.shape.eraseIdx axis)
      ((indices (a.view.shape.eraseIdx axis)).map fun index =>
        (a.through (a.view.lane axis index)).squares) := by
  have all_steps : a.squaresAxis axis = ofList (a.view.shape.eraseIdx axis)
      (a.lanesAfter axis (a.view.axis axis).extent).squares := by
    rw [squaresAxis, lanesAfter, View.shape_base, List.take_of_length_le]
    simp [View.subviews]
  rw [all_steps, squares_lanesAfter within]
  congr 1
  apply List.map_congr_left
  intro index member
  rw [squares_through_lane within member, List.take_of_length_le]
  simp [laneElements]

/-- The variances of all lanes at once are those of each lane on its own. -/
theorem get_variances [Std.Commutative (HAdd.hAdd : α → α → α)] (finish : α → α) (degrees : α)
    {index : List Nat} (member : index ∈ indices (a.view.shape.eraseIdx axis)) :
    (a.variances finish axis degrees).get index =
      (a.through (a.view.lane axis index)).variance finish degrees := by
  have shaped : index ∈ indices (a.squaresAxis axis).view.shape := by
    rwa [shape_squaresAxis]
  rw [variances, variance]
  rw [squaresAxis_eq_ofList within] at shaped ⊢
  rw [get_modify (injective_dense _) (inBounds_ofList (by simp)) _ shaped,
    get_ofList_map _ member]

end Strided

end StridedReduction

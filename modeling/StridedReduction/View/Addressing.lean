import StridedReduction.Failure
import StridedReduction.View.Slice

/-!
# Unchecked addressing

Parts of a view by an axis number that nobody has checked.  A negative number addresses the first
axis, while the extent to be walked is that of the axis counted from the end; faults show only where
an index is used.

A shape without the extent of such an axis is cut before and after it independently, so a position
outside repeats or drops nothing, while the last one counted from the end, `-1`, has the whole
sequence after it.
-/

namespace StridedReduction

namespace Sequence

variable {α : Type}

/-- The number of entries before a bound, which may count from the end. -/
def cutPoint (length : Nat) (bound : Int) : Nat :=
  if bound < 0 then (bound + length).toNat else min bound.toNat length

/-- The entries before a position. -/
def before (entries : List α) (position : Int) : List α :=
  entries.take (cutPoint entries.length position)

/-- The entries after a position. -/
def after (entries : List α) (position : Int) : List α :=
  entries.drop (cutPoint entries.length (position + 1))

/-- The entries without the one at a position. -/
def remove (entries : List α) (position : Int) : List α :=
  before entries position ++ after entries position

/-- The entries with another one at a position. -/
def replace (entries : List α) (position : Int) (entry : α) : List α :=
  before entries position ++ entry :: after entries position

theorem before_natCast (entries : List α) (position : Nat) :
    before entries position = entries.take position := by
  have nonneg : ¬(position : Int) < 0 := by omega
  simp only [before, cutPoint, nonneg, ↓reduceIte, Int.toNat_natCast]
  rcases Nat.le_total position entries.length with short | long
  · rw [Nat.min_eq_left short]
  · rw [Nat.min_eq_right long, List.take_of_length_le (Nat.le_refl _), List.take_of_length_le long]

theorem after_natCast (entries : List α) (position : Nat) :
    after entries position = entries.drop (position + 1) := by
  have nonneg : ¬(position : Int) + 1 < 0 := by omega
  have cast : ((position : Int) + 1).toNat = position + 1 := by omega
  simp only [after, cutPoint, nonneg, ↓reduceIte, cast]
  rcases Nat.le_total (position + 1) entries.length with short | long
  · rw [Nat.min_eq_left short]
  · rw [Nat.min_eq_right long, List.drop_eq_nil_of_le (Nat.le_refl _), List.drop_eq_nil_of_le long]

theorem remove_natCast (entries : List α) (position : Nat) :
    remove entries position = entries.eraseIdx position := by
  rw [remove, before_natCast, after_natCast, List.eraseIdx_eq_take_drop_succ]

end Sequence

/-- The extent of an axis, counted from the end when its number is negative. -/
def extentAt? (shape : List Nat) (axis : Int) : Option Nat :=
  let counted : Int := if axis < 0 then axis + shape.length else axis
  if counted < 0 then none else shape[counted.toNat]?

/-- Sub-views met along an axis, and the failure that ended the walk early. -/
structure Walk where
  /-- The sub-views met, in order. -/
  views : List View
  /-- What ended the walk, if it did not reach its end. -/
  failure : Option Failure

namespace Walk

/-- The sub-views of a walk that reached its end. -/
def complete (walk : Walk) : Except Failure (List View) :=
  match walk.failure with
  | none => .ok walk.views
  | some failure => .error failure

end Walk

namespace View

/-- The slice of an axis given by an unchecked number. -/
def sliceAt (v : View) (axis : Int) (s : Slice) : Except Failure View :=
  if axis.toNat < v.rank then
    match s.resolve? (v.axis axis.toNat).extent with
    | some kept => .ok (v.select axis.toNat kept)
    | none => .error .zeroStep
  else .error (.tooManyIndices v.rank (axis.toNat + 1))

/-- The walk along an axis given by an unchecked number. -/
def walk (v : View) (axis : Int) : Walk :=
  match extentAt? v.shape axis with
  | none => ⟨[], some .noSuchExtent⟩
  | some count =>
    let position := axis.toNat
    let extent := (v.axis position).extent
    ⟨(List.range (min count extent)).map (v.fix position),
      if count ≤ extent then none else some (.indexOutOfBounds extent position extent)⟩

/-- The lanes along an axis given by an unchecked number, with the indices of the shape that the
number is removed from. -/
def lanesAt (v : View) (axis : Int) : Except Failure (List (List Nat × View)) :=
  let counted : Int := if axis < 0 then axis + v.rank else axis
  if counted < 0 ∨ v.rank ≤ counted then .error (.movedAxisOutOfBounds axis v.rank)
  else
    let addressed := indices (Sequence.remove v.shape axis)
    match addressed with
    | [] => .ok []
    | index :: _ =>
      if v.rank < index.length then .error (.tooManyIndices v.rank index.length)
      else .ok (addressed.map fun index => (index, v.lane counted.toNat index))

/-- The axes in another order, given by unchecked numbers. -/
def transposeBy (v : View) (order : List Int) : Except Failure View := do
  if order.length ≠ v.rank then throw .permutationLength
  let chosen ← order.foldlM
    (fun chosen axis => do
      let counted : Int := if axis < 0 then axis + v.rank else axis
      if counted < 0 ∨ v.rank ≤ counted then throw (.axisOutOfBounds axis v.rank)
      if counted.toNat ∈ chosen then throw .repeatedAxis
      pure (chosen ++ [counted.toNat]))
    []
  pure (v.permute chosen)

/-- The number of the axis with the smallest absolute stride, of equals the last one. -/
def requiredTightestAxis (v : View) : Except Failure Nat :=
  match v.tightestAxis with
  | some axis => .ok axis
  | none => .error .noAxes

/-- The row itself if its cells are consecutive. -/
def denseRow (v : View) : Except Failure (Option View) :=
  if v.rank ≠ 1 then .error .notARow
  else .ok (if v.isDenseRow then some v else none)

/-- The strides that stretch the axes of a view to a shape of the same rank, from the last axis
back. -/
def stretch : List Nat → List Axis → Option (List Axis)
  | [], [] => some []
  | extent :: shape, axis :: axes =>
    (stretch shape axes).bind fun stretched =>
      if axis.extent = extent then some (axis :: stretched)
      else if axis.extent = 1 then some (⟨extent, 0⟩ :: stretched)
      else none
  | _, _ => none

/-- The view repeated along missing axes and axes of one position until it has the given shape. -/
def broadcast (v : View) (shape : List Nat) : Option View :=
  let missing := shape.length - v.rank
  ((stretch (shape.drop missing) v.axes).map fun axes =>
    ⟨v.origin, (shape.take missing).map (⟨·, 0⟩) ++ axes⟩)

end View

end StridedReduction

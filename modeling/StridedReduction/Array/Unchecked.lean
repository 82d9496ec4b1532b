import StridedReduction.Array.Operations
import StridedReduction.Fold
import StridedReduction.View.Addressing

/-!
# Unchecked operations

The folds beneath the public operations, on arrays of any element type and without checks of what
the type can do.  The fold along an axis takes a number that nobody has checked: the result has the
shape that the number is removed from, and the sub-views met on the walk along the axis are
stretched to it.
-/

namespace StridedReduction

namespace Strided

variable {α : Type} [Inhabited α]

/-- The extents that two shapes agree on, where an extent of one yields to the other. -/
def broadcastShape : List Nat → List Nat → Option (List Nat)
  | [], right => some right
  | left, [] => some left
  | left, right =>
    let rank := max left.length right.length
    let pad (shape : List Nat) := List.replicate (rank - shape.length) 1 ++ shape
    (List.zip (pad left) (pad right)).mapM fun (first, second) =>
      if first = second ∨ second = 1 then some first else if first = 1 then some second else none

/-- The view stretched to a shape that holds the result, or why it does not stretch. -/
def stretched (holder : List Nat) (part : View) : Except Failure View :=
  match part.broadcast holder with
  | some stretched => .ok stretched
  | none =>
    match broadcastShape holder part.shape with
    | some shape => .error (.resultTooLarge holder shape)
    | none => .error (.shapesDisagree [holder, part.shape, holder])

/-- The folds along an axis given by an unchecked number. -/
def reduceAxisAt (op : α → α → α) (identity : α) (fast : Bool) (a : Strided α) (axis : Int) :
    Except Failure (Strided α) := do
  let tightest ← if fast then some <$> a.view.requiredTightestAxis else pure none
  match tightest with
  | some position => if axis = position then return a.reduceAxis op identity true position
  | none => pure ()
  let shape := Sequence.remove a.view.shape axis
  let walk := a.view.walk axis
  let parts ← walk.views.mapM (stretched shape)
  match walk.failure with
  | some failure => throw failure
  | none =>
    return ofList shape (a.accumulateInto op (List.replicate (extentProduct shape) identity) parts)

end Strided

namespace AnyArray

/-- The reduction of all elements, with or without the fast paths. -/
def fold (a : AnyArray) (code : Reduction) (fast : Bool) : Except Failure Value :=
  match a with
  | elements t _ data => .ok (.scalar t (data.reduce (code.operation t) (code.identity t) fast))
  | items type _ => .error (.unsupportedType type)

/-- The reduction of the elements of a row one after the other. -/
def foldLeft (a : AnyArray) (code : Reduction) : Except Failure Value :=
  match a with
  | elements t _ data =>
    if data.view.rank ≠ 1 then .error .notARow
    else .ok (.scalar t (data.toList.foldl (code.operation t) (code.identity t)))
  | items type _ => .error (.unsupportedType type)

/-- The reductions along an axis given by an unchecked number. -/
def foldAxis (a : AnyArray) (axis : Int) (code : Reduction) (fast : Bool) : Except Failure Value :=
  match a with
  | elements t swapped data => do
    let result ← data.reduceAxisAt (code.operation t) (code.identity t) fast axis
    return .array (elements t swapped result)
  | items type _ => throw (.unsupportedType type)

end AnyArray

end StridedReduction

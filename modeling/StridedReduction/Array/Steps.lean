import StridedReduction.Array.Call
import StridedReduction.Array.Unchecked

/-!
# Steps in sequence

Runs of operations and view changes on one array after the other, and runs of changes to one buffer
seen through changing views.  A failing step leaves its run where it was, apart from cells that it
has already written.
-/

namespace StridedReduction

/-- A step of a chain. -/
inductive ChainStep
  /-- An operation on the current array. -/
  | call (operation : Call)
  /-- The axes of the current array in another order. -/
  | transpose (order : List Int)
  /-- A slice of an axis of the current array. -/
  | slice (axis : Int) (s : Slice)

namespace ChainStep

/-- The outcome of a step on what stands for the current array. -/
def apply (step : ChainStep) (current : Operand) : Except Failure Answer :=
  match step with
  | call operation => operation.run current
  | transpose order => do
    let a ← current.toArray "transpose"
    return { value := .array (a.through (← a.view.transposeBy order)) }
  | slice axis s => do
    let a ← current.toArray "ndim"
    return { value := .array (a.through (← a.view.sliceAt axis s)) }

/-- What the next step works on: the last array that a step has yielded, if any has. -/
def following (current : Operand) : Except Failure Answer → Operand
  | .ok { value := .array next, .. } => .array next false
  | _ => current

/-- The outcomes of steps, each on the array that the ones before it have led to. -/
def run (current : Operand) : List ChainStep → List (Except Failure Answer)
  | [] => []
  | step :: steps =>
    let outcome := step.apply current
    outcome :: run (following current outcome) steps

end ChainStep

/-- A step on a buffer and a view of it. -/
inductive BufferStep (α : Type)
  /-- The running fold along an axis. -/
  | accumulate (axis : Int) (operation : ElementwiseOperation)
  /-- Each sub-view along an axis filled with a value, the values in turn. -/
  | write (axis : Int) (values : List α)
  /-- A slice of an axis of the current view. -/
  | slice (axis : Int) (s : Slice)
  /-- The axes of the current view in another order. -/
  | transpose (order : List Int)
  /-- Back to the first view. -/
  | base

namespace BufferStep

/-- The buffer after sub-views are filled with values in turn, from a given turn on. -/
def fill {α : Type} (buffer : Array α) (values : List α) : Nat → List View → Array α
  | _, [] => buffer
  | turn, part :: parts =>
    match values[turn % values.length]? with
    | some x =>
      fill (writeCells buffer part.cells (List.replicate part.size x)) values (turn + 1) parts
    | none => buffer

/-- The buffer after a running fold along an axis given by an unchecked number, and what ended the
fold early.  Along an axis of at most one position nothing is done. -/
def accumulated (t : ElementType) (data : Strided t.Carrier) (axis : Int)
    (operation : ElementwiseOperation) : Array t.Carrier × Option Failure :=
  match extentAt? data.view.shape axis with
  | none => (data.buffer, some .noSuchExtent)
  | some extent =>
    if extent ≤ 1 then (data.buffer, none)
    else
      let walk := data.view.walk axis
      match operation.on? t with
      | some op => (accumulateViews op data.buffer walk.views, walk.failure)
      | none =>
        (data.buffer, if walk.views.length ≤ 1 then walk.failure else some .truthSubtraction)

/-- The array after a step from the array before it and the first view, and what failed. -/
def apply (t : ElementType) (first : View) (data : Strided t.Carrier) :
    BufferStep t.Carrier → Strided t.Carrier × Option Failure
  | accumulate axis operation =>
    let (buffer, failure) := accumulated t data axis operation
    ({ data with buffer }, failure)
  | write axis values =>
    let walk := data.view.walk axis
    ({ data with buffer := fill data.buffer values 0 walk.views }, walk.failure)
  | slice axis s => moved (data.view.sliceAt axis s)
  | transpose order => moved (data.view.transposeBy order)
  | base => (data.through first, none)
where
  /-- The array seen through a view that may have failed. -/
  moved : Except Failure View → Strided t.Carrier × Option Failure
    | .ok view => (data.through view, none)
    | .error failure => (data, some failure)

/-- The arrays after each of several steps, or what failed in its place. -/
def run (t : ElementType) (first : View) (data : Strided t.Carrier) :
    List (BufferStep t.Carrier) → List (Except Failure (Strided t.Carrier))
  | [] => []
  | step :: steps =>
    match step.apply t first data with
    | (after, none) => .ok after :: run t first after steps
    | (after, some failure) => .error failure :: run t first after steps

end BufferStep

end StridedReduction

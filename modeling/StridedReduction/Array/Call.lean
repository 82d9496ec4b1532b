import StridedReduction.Array.ListedCorrection

/-!
# Calls

The public operations with their arguments, as callers ask for them, and the defaults of the
arguments that may be left out.  What a caller hands to an operation in place of an array is an
array, a value that is taken for one, or no value at all.  What a call yields is an operand of the
next one; reductions of an array are calls, of all elements at once or of one axis after the other.
-/

namespace StridedReduction

/-- A public operation with its arguments; arguments that are left out have defaults. -/
inductive Call
  | sum
  | product
  | mean
  | sumAxis (axis : Argument)
  | productAxis (axis : Argument)
  | meanAxis (axis : Argument)
  | cumulativeProduct (axis : Argument)
  | difference (order axis : Option Argument)
  | variance (correction : Option Argument)
  | deviation (correction : Option Argument)
  | varianceAxis (axis : Argument) (correction : Option Argument)
  | deviationAxis (axis : Argument) (correction : Option Argument)

namespace Call

/-- The order of a difference unless another is given. -/
def defaultOrder : Argument := .integer 1

/-- The axis of a difference unless another is given. -/
def defaultAxis : Argument := .integer 0

/-- The correction of a moment unless another is given. -/
def defaultCorrection : Argument := .integer 0

/-- The property of an array that an operation asks for first. -/
def firstProperty : Call → String
  | sum => "dtype"
  | product => "dtype"
  | mean => "dtype"
  | variance _ => "dtype"
  | deviation _ => "dtype"
  | _ => "ndim"

/-- The outcome of an operation on an array. -/
def apply (call : Call) (a : AnyArray) : Except Failure Answer :=
  match call with
  | sum => a.sum
  | product => a.product
  | mean => a.mean
  | sumAxis axis => a.sumAxis axis
  | productAxis axis => a.productAxis axis
  | meanAxis axis => a.meanAxis axis
  | cumulativeProduct axis => a.cumulativeProduct axis
  | difference order axis => a.difference (order.getD defaultOrder) (axis.getD defaultAxis)
  | variance correction =>
    match correction.getD defaultCorrection with
    | .list items => a.listedVarianceOf .variance id items
    | single => a.variance single
  | deviation correction =>
    match correction.getD defaultCorrection with
    | .list items => a.listedVarianceOf .deviation Binary.sqrt items
    | single => a.deviation single
  | varianceAxis axis correction =>
    match correction.getD defaultCorrection with
    | .list items => a.listedVariancesOf .varianceAxis id axis items
    | single => a.varianceAxis axis single
  | deviationAxis axis correction =>
    match correction.getD defaultCorrection with
    | .list items => a.listedVariancesOf .deviationAxis Binary.sqrt axis items
    | single => a.deviationAxis axis single

end Call

/-- What a function is handed. -/
inductive Operand
  /-- An array, as itself or in the guise of a matrix. -/
  | array (a : AnyArray) (matrix : Bool)
  /-- Any other value. -/
  | value (x : Argument)

namespace Operand

/-- The name of the type of an operand. -/
def typeName : Operand → String
  | array _ matrix => if matrix then "matrix" else "ndarray"
  | value x => x.typeName

/-- The array that an operand is taken for: none for no value. -/
def toArray? : Operand → Except Failure (Option AnyArray)
  | array a _ => .ok (some a)
  | value .none => .ok none
  | value x => do return some (← x.toArray)

/-- The array that an operand is taken for; no value lacks the property that is asked for first. -/
def toArray (operand : Operand) (property : String) : Except Failure AnyArray := do
  match ← operand.toArray? with
  | some a => return a
  | none => throw (.absentArray property)

/-- The operand as a plain array; no value stays none. -/
def accept (operand : Operand) : Except Failure Operand := do
  match ← operand.toArray? with
  | some a => return array a false
  | none => return value .none

end Operand

namespace Value

/-- A result as what a further call is handed. -/
def operand : Value → Operand
  | absent => .value .none
  | scalar t x => .value (.element t x)
  | array a => .array a false
  | integer value => .value (.integer value)

end Value

namespace Call

/-- The outcome of an operation on what it is handed. -/
def run (call : Call) (operand : Operand) : Except Failure Answer := do
  call.apply (← operand.toArray call.firstProperty)

/-- The outcome of a call on what an earlier one has yielded.  A failure stands, and warnings add
up. -/
def after (call : Call) (earlier : Except Failure Answer) : Except Failure Answer := do
  let given ← earlier
  let answer ← call.run given.value.operand
  return { answer with warnings := given.warnings ++ answer.warnings }

@[simp] theorem after_error (call : Call) (failure : Failure) :
    call.after (.error failure) = .error failure := rfl

@[simp] theorem after_array (call : Call) (a : AnyArray) :
    call.after (.ok { value := .array a }) = call.apply a := by
  have run_eq : call.run (Value.array a).operand = call.apply a := rfl
  change (call.run (Value.array a).operand).bind _ = _
  rw [run_eq]
  cases call.apply a <;> rfl

end Call

namespace Reduction

/-- The call that reduces all elements. -/
def whole : Reduction → Call
  | sum => .sum
  | product => .product

/-- The call that reduces the lanes along an axis. -/
def along : Reduction → Argument → Call
  | sum => .sumAxis
  | product => .productAxis

/-- The outcome of reducing axes one after the other, each an axis of what the ones before it have
left. -/
def alongEach (code : Reduction) (axes : List Argument) (a : AnyArray) : Except Failure Answer :=
  axes.foldl (fun outcome axis => (code.along axis).after outcome) (.ok { value := .array a })

end Reduction

end StridedReduction

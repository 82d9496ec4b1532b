import StridedReduction.Array.Basic
import StridedReduction.Difference
import StridedReduction.Fold
import StridedReduction.Moments
import StridedReduction.Requirement

/-!
# Operations on arrays

The public operations: sums, products, means, moments, running products and differences of arrays of
declared types.  Each checks its axis first, then what the element type can do, then its other
arguments, and only then computes.
-/

namespace StridedReduction

/-- A remark that accompanies an answer. -/
inductive Warning
  /-- The correction leaves no degrees of freedom, so a moment was divided by zero. -/
  | noDegreesOfFreedom
  deriving DecidableEq, Repr

namespace Warning

/-- The text of a warning. -/
def message : Warning → String
  | noDegreesOfFreedom => "Degrees of freedom <= 0 for slice"

end Warning

/-- What an operation yields. -/
inductive Value
  /-- Nothing, where there are no elements to take a mean of. -/
  | absent
  /-- One element. -/
  | scalar (t : ElementType) (x : t.Carrier)
  /-- An array. -/
  | array (a : AnyArray)
  /-- An integer that has not become an element. -/
  | integer (value : Int)

/-- The outcome of an operation that succeeds. -/
structure Answer where
  /-- The result. -/
  value : Value
  /-- The warnings issued on the way. -/
  warnings : List Warning := []

/-- The axis that a caller's value stands for, counted from the first axis only.  A claimed number
of axes below zero is that of no array, and no axis is within it. -/
def checkedAxis (axis : Argument) (rank : Int) : Except Failure Nat :=
  match axis.axis? with
  | none => .error (.axisNotInteger axis)
  | some number =>
    if 0 ≤ number ∧ number < rank then .ok number.toNat else .error (.axisOutOfBounds number rank)

namespace AnyArray

/-- The reduction of all elements. -/
def reduceAll (operation : Operation) (code : Reduction) (a : AnyArray) :
    Except Failure Answer := do
  operation.check a.itemType
  match a with
  | elements t _ data =>
    return { value := .scalar t (data.reduce (code.operation t) (code.identity t) true) }
  | items type _ => throw (.unsupportedType type)

/-- The reduction of every lane along an axis. -/
def reduceLanes (operation : Operation) (code : Reduction) (a : AnyArray) (axis : Argument) :
    Except Failure Answer := do
  let axis ← checkedAxis axis a.view.rank
  operation.check a.itemType
  match a with
  | elements t swapped data =>
    let result := data.reduceAxis (code.operation t) (code.identity t) true axis
    return { value := .array (elements t swapped result) }
  | items type _ => throw (.unsupportedType type)

/-- The sum of all elements. -/
def sum (a : AnyArray) : Except Failure Answer :=
  a.reduceAll .sum .sum

/-- The product of all elements. -/
def product (a : AnyArray) : Except Failure Answer :=
  a.reduceAll .product .product

/-- The sums of the lanes along an axis. -/
def sumAxis (a : AnyArray) (axis : Argument) : Except Failure Answer :=
  a.reduceLanes .sumAxis .sum axis

/-- The products of the lanes along an axis. -/
def productAxis (a : AnyArray) (axis : Argument) : Except Failure Answer :=
  a.reduceLanes .productAxis .product axis

/-- The running products along an axis. -/
def cumulativeProduct (a : AnyArray) (axis : Argument) : Except Failure Answer := do
  let axis ← checkedAxis axis a.view.rank
  Operation.cumulativeProduct.check a.itemType
  match a with
  | elements t swapped data =>
    return { value := .array (elements t swapped (data.cumulative t.mul axis)) }
  | items type _ => throw (.unsupportedType type)

/-- The order of a difference along an axis, which must be longer than the order. -/
def checkedOrder (order : Argument) (axis length : Nat) : Except Failure Nat :=
  match order.index? with
  | none => .error (.orderNotInteger order)
  | some number =>
    if number < 0 then .error (.negativeOrder number)
    else if 0 < number ∧ (length : Int) ≤ number then
      .error (.orderTooLarge number.toNat axis length)
    else .ok number.toNat

/-- The forward differences of an order along an axis. -/
def difference (a : AnyArray) (order axis : Argument) : Except Failure Answer := do
  let axis ← checkedAxis axis a.view.rank
  Operation.difference.check a.itemType
  let order ← checkedOrder order axis (a.view.axis axis).extent
  match a with
  | elements t swapped data =>
    match t.sub? with
    | some subtract =>
      return { value := .array (elements t swapped (data.difference subtract t.zero order axis)) }
    | none => throw .truthSubtraction
  | items type _ => throw (.unsupportedType type)

/-- The mean of all elements, if there are any. -/
def mean (a : AnyArray) : Except Failure Answer := do
  Operation.mean.check a.itemType
  match a with
  | elements t _ data =>
    if data.size = 0 then return { value := .absent }
    let count ← t.ofCount data.size
    let total := data.reduce t.add t.zero true
    return { value := .scalar t (t.divideByCount total count) }
  | items type _ => throw (.unsupportedType type)

/-- The means of the lanes along an axis, if the lanes have any elements. -/
def meanAxis (a : AnyArray) (axis : Argument) : Except Failure Answer := do
  let axis ← checkedAxis axis a.view.rank
  Operation.meanAxis.check a.itemType
  match a with
  | elements t swapped data =>
    let length := (data.view.axis axis).extent
    if length = 0 then return { value := .absent }
    let count ← t.ofCount length
    let totals := data.reduceAxis t.add t.zero true axis
    return { value := .array (elements t swapped (totals.modify (t.divideByCount · count))) }
  | items type _ => throw (.unsupportedType type)

/-- The warnings that a division by the degrees of freedom calls for. -/
def divisionWarnings {f : Format} (degrees : Binary f) : List Warning :=
  if degrees.equals (Binary.signedZero false) then [.noDegreesOfFreedom] else []

/-- The variance of all elements, finished by a function. -/
def varianceOf (operation : Operation) (finish : {f : Format} → Binary f → Binary f) (a : AnyArray)
    (correction : Argument) : Except Failure Answer := do
  operation.check a.itemType
  match a with
  | elements (.real f) _ data =>
    let degrees ← (ElementType.real f).degreesOfFreedom a.itemType data.size correction
    return {
      value := .scalar (.real f) (data.variance finish degrees)
      warnings := divisionWarnings degrees }
  | _ => throw (.missingCapabilities operation a.itemType)

/-- The variances of the lanes along an axis, finished by a function. -/
def variancesOf (operation : Operation) (finish : {f : Format} → Binary f → Binary f) (a : AnyArray)
    (axis correction : Argument) : Except Failure Answer := do
  let axis ← checkedAxis axis a.view.rank
  operation.check a.itemType
  match a with
  | elements (.real f) swapped data =>
    let length := (data.view.axis axis).extent
    let degrees ← (ElementType.real f).degreesOfFreedom a.itemType length correction
    return {
      value := .array (elements (.real f) swapped (data.variances finish axis degrees))
      warnings := divisionWarnings degrees }
  | _ => throw (.missingCapabilities operation a.itemType)

/-- The variance of all elements. -/
def variance (a : AnyArray) (correction : Argument) : Except Failure Answer :=
  a.varianceOf .variance id correction

/-- The standard deviation of all elements. -/
def deviation (a : AnyArray) (correction : Argument) : Except Failure Answer :=
  a.varianceOf .deviation Binary.sqrt correction

/-- The variances of the lanes along an axis. -/
def varianceAxis (a : AnyArray) (axis correction : Argument) : Except Failure Answer :=
  a.variancesOf .varianceAxis id axis correction

/-- The standard deviations of the lanes along an axis. -/
def deviationAxis (a : AnyArray) (axis correction : Argument) : Except Failure Answer :=
  a.variancesOf .deviationAxis Binary.sqrt axis correction

end AnyArray

end StridedReduction

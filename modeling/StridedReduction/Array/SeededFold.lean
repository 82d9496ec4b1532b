import StridedReduction.Array.Operations
import StridedReduction.Count

/-!
# Folds from a given seed

The interleaved fold of a one-dimensional array from any starting value.  The partial results are
elements of the array's type, while the total is of the type that holds both the seed and the
elements.  A seed that is a plain integer or real takes the type of the elements where that holds
it.

The number of partial results must compare with one and be at least that, and the length of the
array is divided by it before it is used as a number of cells, so that a value which is no integer
fails in one way when the array has room for it and in another when it has not.
-/

namespace StridedReduction

namespace Argument

/-- Whether a value is less than one, for the values that compare with integers. -/
def lessThanOne? : Argument → Option Bool
  | boolean value => some !value
  | integer value => some (value < 1)
  | float value => some (value.lt (Binary.ofInt 1))
  | element .boolean value => some !value
  | element (.integer _) value => some (value.value < 1)
  | element (.real _) value => some (value.lt (Binary.ofInt 1))
  | element (.complex _) value =>
    let one := Complex.ofReal (Binary.ofInt 1)
    some (value.le one && !value.equals one)
  | _ => .none

/-- Whether a floating-point number of cells fits a length, as numbers of one format compare. -/
def fits {f : Format} (width : Binary f) (length : Nat) : Bool :=
  let length : Binary f := Binary.ofInt length
  length.isFinite && width.le length

/-- The number of partial results that a value of at least one asks for. -/
def toWidth (width : Argument) (length : Nat) : Except Failure Nat :=
  match width with
  | integer number => .ok number.toNat
  | boolean _ => truthWidth
  | float value => realWidth (fits value length)
  | element .boolean _ => truthWidth
  | element (.integer k) word => do
    let _ ← (ElementType.integer k).ofInt length
    return word.value.toNat
  | element (.real _) value => realWidth (fits value length)
  | element (.complex _) _ => .error (.unsupportedOperands "floor_divide")
  | width => .error (.widthIncomparable width)
where
  /-- A truth value counts as one, but no cells can be counted by it. -/
  truthWidth : Except Failure Nat :=
    if length = 0 then .ok 1 else .error (.widthNotInteger width)
  /-- A number that may have a fraction counts nothing. -/
  realWidth (fits : Bool) : Except Failure Nat :=
    .error (if fits then .widthNotInteger width else .fractionalBound)

/-- The number of partial results that a caller's value asks for, of a list of a length. -/
def checkedWidth (width : Argument) (length : Nat) : Except Failure Nat :=
  match width.lessThanOne? with
  | .none => .error (.widthIncomparable width)
  | some true => .error (.nonpositiveWidth width)
  | some false => width.toWidth length

end Argument

/-- What a fold starts from. -/
inductive Seed
  /-- The value that a reduction of the array would start from. -/
  | identity (code : Reduction)
  /-- A plain integer. -/
  | integer (value : Int)
  /-- A plain real number. -/
  | real (value : Binary .double)
  /-- A plain complex number. -/
  | complex (value : Complex .double)
  /-- An element of any type. -/
  | element (t : ElementType) (value : t.Carrier)

namespace Seed

/-- The seed itself, which is the fold of no elements. -/
def value (seed : Seed) (t : ElementType) : Value :=
  match seed with
  | identity code => .scalar t (code.identity t)
  | integer value => .integer value
  | real value => .scalar (.real .double) value
  | complex value => .scalar (.complex .double) value
  | element source value => .scalar source value

/-- The element that a seed becomes when it meets elements of type `t`, with its type. -/
def total (seed : Seed) (t : ElementType) :
    Except Failure ((source : ElementType) × source.Carrier) :=
  match seed with
  | identity code => .ok ⟨t, code.identity t⟩
  | element source value => .ok ⟨source, value⟩
  | integer value =>
    let target := if t = .boolean then .integer (.eightBytes true) else t
    (target.ofInt value).map (⟨target, ·⟩)
  | real value =>
    let source := ElementType.real .double
    let target :=
      match t with
      | .boolean => source
      | .integer _ => source
      | t => t
    .ok ⟨target, source.recast target value⟩
  | complex value =>
    let source := ElementType.complex .double
    let target :=
      match t with
      | .real f => .complex f.part
      | .complex f => .complex f
      | _ => source
    .ok ⟨target, source.recast target value⟩

end Seed

namespace AnyArray

/-- The operation on a type of elements. -/
def operationOn (operation : ElementwiseOperation) (t : ElementType) :
    Except Failure (t.Carrier → t.Carrier → t.Carrier) :=
  match operation.on? t with
  | some op => .ok op
  | none => .error .truthSubtraction

/-- The fold of elements from a seed. -/
def foldElements (t : ElementType) (elements : List t.Carrier) (seed : Seed)
    (operation : ElementwiseOperation) (width : Nat) : Except Failure Value := do
  if elements = [] then return seed.value t
  let ⟨source, start⟩ ← seed.total t
  let target := source.join t
  let terms ←
    if elements.length < width then pure elements
    else do
      let op ← operationOn operation t
      pure (interleavedTerms op (source.recast t start) width elements)
  let op ← operationOn operation target
  return .scalar target
    ((terms.map fun x => t.recast target x).foldl op
      (source.recast target start))

/-- The fold of a one-dimensional array from a seed. -/
def foldFrom (a : AnyArray) (seed : Seed) (operation : ElementwiseOperation) (width : Argument) :
    Except Failure Value := do
  if a.view.rank ≠ 1 then throw (.rankNotOne a.view.rank)
  let width ← width.checkedWidth a.view.size
  match a with
  | elements t _ data => foldElements t data.toList seed operation width
  | items type _ => throw (.unsupportedType type)

end AnyArray

end StridedReduction

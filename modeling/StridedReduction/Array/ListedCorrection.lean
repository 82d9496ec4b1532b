import StridedReduction.Array.Operations

/-!
# Corrections given as lists

A correction of a count may be given as a list, however deeply nested, of one number.  It then
stands for an array of one element, and so does what it leaves of the count: a variance that is
divided by it becomes an array of as many axes, and the variances of lanes must have that many axes
to hold their quotients.
-/

namespace StridedReduction

namespace Argument

/-- The element of type `t` that an item of a list stands for.  Signed integers are cut from any
element, as from plain numbers, and other types convert elements. -/
def itemElement (t : ElementType) (item : Argument) : Except Obstacle t.Carrier :=
  match t, item with
  | .integer k, element (.integer _) word =>
    if k.signed then wrapped k word.value else .ok (Word.wrap k word.value)
  | .integer k, element (.real f) x =>
    if k.signed then toWord k (float x.convert)
    else .ok ((ElementType.real f).convert (.integer k) x)
  | .integer k, element (.complex f) x =>
    if k.signed then toWord k (float x.re.convert)
    else .ok ((ElementType.complex f).convert (.integer k) x)
  | t, item => item.toElement t

/-- The only element of a list of items, with the number of its axes. -/
def onlyElement (t : ElementType) (type : ItemType) (items : List Argument) :
    Except Failure (Nat × t.Carrier) := do
  let given := list items
  let n := given.nest 0 Nesting.start
  if n.ragged then throw (.correctionUnconvertible given type)
  match given.leaves.mapM (itemElement t) with
  | .error obstacle => throw (.ofObstacle given type obstacle)
  | .ok [] => throw .emptyTruth
  | .ok [x] => return (n.depth, x)
  | .ok _ => throw .ambiguousTruth

end Argument

namespace ElementType

/-- What a correction given as a list leaves of a count, with the number of its axes. -/
def listedDegreesOfFreedom (t : ElementType) (type : ItemType) (count : Int)
    (items : List Argument) : Except Failure (Nat × t.Carrier) := do
  let total ← t.ofCount count
  let (rank, taken) ← Argument.onlyElement t type items
  if t.le t.zero taken && t.le taken total then
    match t.sub? with
    | some subtract => return (rank, subtract total taken)
    | none => throw .truthSubtraction
  else throw (.listedCorrectionOutsideCount t rank taken count)

end ElementType

/-- The array of one element with a number of axes. -/
def AnyArray.single (t : ElementType) (rank : Nat) (x : t.Carrier) : AnyArray :=
  elements t false (.ofList (List.replicate rank 1) [x])

namespace ItemType

/-- What a correction leaves of a count in a type of items: an element, or an array of one for a
correction given as a list. -/
def degreesLeft (type : ItemType) (count : Int) (correction : Argument) : Except Failure Value := do
  match correction with
  | .list items => do
    let t ← type.countable
    let (rank, degrees) ← t.listedDegreesOfFreedom type count items
    return .array (.single t rank degrees)
  | single => do
    let ⟨t, degrees⟩ ← type.degreesOfFreedom count single
    return .scalar t degrees

end ItemType

namespace AnyArray

/-- The variance of all elements, finished by a function, as an array of one element. -/
def listedVarianceOf (operation : Operation) (finish : {f : Format} → Binary f → Binary f)
    (a : AnyArray) (items : List Argument) : Except Failure Answer := do
  operation.check a.itemType
  match a with
  | elements (.real f) _ data =>
    let (rank, degrees) ← (ElementType.real f).listedDegreesOfFreedom a.itemType data.size items
    return {
      value := .array (single (.real f) rank (data.variance finish degrees))
      warnings := divisionWarnings degrees }
  | _ => throw (.missingCapabilities operation a.itemType)

/-- The variances of the lanes along an axis, finished by a function and held where their quotients
have no more axes than they. -/
def listedVariancesOf (operation : Operation) (finish : {f : Format} → Binary f → Binary f)
    (a : AnyArray) (axis : Argument) (items : List Argument) : Except Failure Answer := do
  let axis ← checkedAxis axis a.view.rank
  operation.check a.itemType
  match a with
  | elements (.real f) swapped data =>
    let length := (data.view.axis axis).extent
    let (rank, degrees) ← (ElementType.real f).listedDegreesOfFreedom a.itemType length items
    let shape := (data.squaresAxis axis).view.shape
    if shape.length < rank then
      throw (.resultTooLarge shape (List.replicate (rank - shape.length) 1 ++ shape))
    return {
      value := .array (elements (.real f) swapped (data.variances finish axis degrees))
      warnings := divisionWarnings degrees }
  | _ => throw (.missingCapabilities operation a.itemType)

end AnyArray

end StridedReduction

import StridedReduction.Failure

/-!
# Counts as elements

The element that stands for a count of elements, the division by it, and the number of degrees of
freedom that a correction leaves of it.
-/

namespace StridedReduction

namespace Failure

/-- Why a value that is no element-type number of the right size does not convert. -/
def ofObstacle (correction : Argument) (type : ItemType) : Argument.Obstacle → Failure
  | .outOfRange => .correctionOutOfRange correction type
  | .unconvertible => .correctionUnconvertible correction type

end Failure

namespace ElementType

/-- The element that an integer stands for. -/
def ofInt : (t : ElementType) → Int → Except Failure t.Carrier
  | boolean, value => .ok (decide (value ≠ 0))
  | integer k, value =>
    match Word.ofInt? k value with
    | some word => .ok word
    | none => .error (if k.Reads value then .integerOutOfRange value k else .integerUnread)
  | real _, value =>
    if (Binary.ofIntDirect value : Binary .double).isFinite then .ok (Binary.ofInt value)
    else .error .integerTooLarge
  | complex _, value =>
    if (Binary.ofIntDirect value : Binary .double).isFinite then
      .ok (Complex.ofReal (Binary.ofInt value))
    else .error .integerTooLarge

/-- The greatest count that a type of elements holds; truth values hold none. -/
def greatestCount? : ElementType → Option Int
  | boolean => none
  | integer k => some k.greatest
  | real f => some (f.largest / f.one : Nat)
  | complex f => some (f.largest / f.one : Nat)

/-- The element that stands for a count; counts beyond the finite elements are refused. -/
def ofCount (t : ElementType) (count : Int) : Except Failure t.Carrier :=
  match t.greatestCount? with
  | none => .error (.uncountable (.ofElement t))
  | some greatest => if greatest < count then .error (.countTooLarge count t) else t.ofInt count

/-- The quotient of a value by a count: rounded toward zero for integers, rounded to nearest for
floating-point and complex numbers.  Truth values are not divided. -/
def divideByCount : (t : ElementType) → t.Carrier → t.Carrier → t.Carrier
  | boolean => fun value _ => value
  | integer _ => Word.divide
  | real _ => fun value count => value / count
  | complex _ => fun value count => value / count

/-- The order `≤` of elements. -/
def le : (t : ElementType) → t.Carrier → t.Carrier → Bool
  | boolean => fun left right => !left || right
  | integer _ => fun left right => decide (left.value ≤ right.value)
  | real _ => Binary.le
  | complex _ => Complex.le

/-- What a correction leaves of a count: both are converted to elements, and the correction must lie
between zero and the count. -/
def degreesOfFreedom (t : ElementType) (type : ItemType) (count : Int) (correction : Argument) :
    Except Failure t.Carrier := do
  let total ← t.ofCount count
  match correction.toElement t with
  | .error obstacle => throw (.ofObstacle correction type obstacle)
  | .ok taken =>
    if t.le t.zero taken && t.le taken total then
      match t.sub? with
      | some subtract => return subtract total taken
      | none => throw .truthSubtraction
    else throw (.correctionOutsideCount t taken count)

end ElementType

namespace ItemType

/-- The same type in the machine's byte order, which text of any length does not have. -/
def machineOrdered (type : ItemType) : Except Failure ItemType :=
  if type.holdsVariableText then .error .unorderable else .ok type.native

/-- The element type of countable items. -/
def countable (type : ItemType) : Except Failure ElementType := do
  let type ← type.machineOrdered
  match type.elementType? with
  | some t => return t
  | none => throw (.uncountable type)

/-- The element that stands for a count in a type of items, with the type of the element. -/
def ofCount (type : ItemType) (count : Int) : Except Failure ((t : ElementType) × t.Carrier) := do
  let t ← type.countable
  return ⟨t, ← t.ofCount count⟩

/-- What a correction leaves of a count in a type of items, with the type of the element. -/
def degreesOfFreedom (type : ItemType) (count : Int) (correction : Argument) :
    Except Failure ((t : ElementType) × t.Carrier) := do
  let t ← type.countable
  return ⟨t, ← t.degreesOfFreedom type count correction⟩

end ItemType

end StridedReduction

import StridedReduction.Element.Descriptor
import StridedReduction.Element.Promotion
import StridedReduction.Element.Text
import StridedReduction.Text.Numeral
import StridedReduction.Text.Quoted

/-!
# Loosely typed arguments

The values that callers pass where a number is wanted, their type names and their texts, and the
conversion to an integer or to an element.
-/

namespace StridedReduction

/-- A value passed by a caller. -/
inductive Argument
  /-- No value. -/
  | none
  /-- A truth value. -/
  | boolean (value : Bool)
  /-- An integer of any size. -/
  | integer (value : Int)
  /-- A double. -/
  | float (value : Binary .double)
  /-- A complex number of doubles. -/
  | complex (value : Complex .double)
  /-- A text. -/
  | text (value : String)
  /-- A list of values. -/
  | list (items : List Argument)
  /-- An empty mapping. -/
  | mapping
  /-- An element of an array. -/
  | element (t : ElementType) (value : t.Carrier)

namespace Argument

/-- The name of the type of a value. -/
def typeName : Argument → String
  | none => "NoneType"
  | boolean _ => "bool"
  | integer _ => "int"
  | float _ => "float"
  | complex _ => "complex"
  | text _ => "str"
  | list _ => "list"
  | mapping => "dict"
  | element t _ => t.name

/-- The name of the type of a value, with its package for elements. -/
def qualifiedTypeName : Argument → String
  | element t _ => "numpy." ++ t.name
  | other => other.typeName

mutual

/-- The text of a value as messages show it. -/
def describe : Argument → String
  | none => "None"
  | boolean value => truthText value
  | integer value => toString value
  | float value => value.text .number
  | complex value => value.text
  | text value => quoted value
  | list items => "[" ++ ", ".intercalate (describeAll items) ++ "]"
  | mapping => "\x7b\x7d"
  | element t value => t.typedText value

/-- The texts of several values. -/
def describeAll : List Argument → List String
  | [] => []
  | item :: items => item.describe :: describeAll items

end

/-- The text of a value in the course of a sentence. -/
def plainText : Argument → String
  | text value => value
  | element t value => t.text value
  | other => other.describe

/-- The value as an integer, where integers and truth values are accepted. -/
def index? : Argument → Option Int
  | boolean value => some (if value then 1 else 0)
  | integer value => some value
  | element (.integer _) value => some value.value
  | _ => .none

/-- The value as an axis number, where truth values are not accepted. -/
def axis? : Argument → Option Int
  | integer value => some value
  | element (.integer _) value => some value.value
  | _ => .none

/-- Why a value does not convert to an element. -/
inductive Obstacle
  /-- The value is too large for the element type. -/
  | outOfRange
  /-- The value is not a number of the kind wanted. -/
  | unconvertible
  deriving DecidableEq, Repr

/-- The double that a value stands for. -/
def toDouble : Argument → Except Obstacle (Binary .double)
  | none => .ok .nan
  | boolean value => .ok (Binary.ofInt (if value then 1 else 0))
  | integer value =>
    let rounded : Binary .double := Binary.ofIntDirect value
    if rounded.isFinite then .ok rounded else .error .outOfRange
  | float value => .ok value
  | text value => (Numeral.float? value).elim (.error .unconvertible) .ok
  | complex _ => .error .unconvertible
  | list _ => .error .unconvertible
  | mapping => .error .unconvertible
  | element t value => .ok (t.convert (.real .double) value)

/-- The integer type's word of an integer that a number was cut to.  Integers that are not read are
out of range and others wrap. -/
def wrapped (k : IntegerType) (value : Int) : Except Obstacle (Word k) :=
  if k.Reads value then .ok (Word.wrap k value) else .error .outOfRange

/-- The word that a value stands for. -/
def toWord (k : IntegerType) : Argument → Except Obstacle (Word k)
  | boolean value => .ok (Word.wrap k (if value then 1 else 0))
  | integer value => (Word.ofInt? k value).elim (.error .outOfRange) .ok
  | float value =>
    match value with
    | .nan => .error .unconvertible
    | .infinite _ => .error .outOfRange
    | finite => wrapped k (ElementType.wholePart finite)
  | text value =>
    match Numeral.integer? value with
    | some value => (Word.ofInt? k value).elim (.error .outOfRange) .ok
    | .none => .error .unconvertible
  | _ => .error .unconvertible

/-- The element of type `t` that a value stands for. -/
def toElement (t : ElementType) (value : Argument) : Except Obstacle t.Carrier :=
  match value with
  | element source x => .ok (source.convert t x)
  | value =>
    match t with
    | .boolean =>
      match value with
      | boolean value => .ok value
      | integer value => .ok (value ≠ 0)
      | float value => .ok (!value.equals (Binary.signedZero false))
      | none => .ok false
      | _ => .error .unconvertible
    | .integer k => toWord k value
    | .real _ => (toDouble value).map Binary.convert
    | .complex _ =>
      match value with
      | none => .ok ⟨.nan, .nan⟩
      | complex value => .ok value.convert
      | text value => (Numeral.complex? value).elim (.error .unconvertible) fun x => .ok x.convert
      | value => (toDouble value).map fun x => Complex.ofReal x.convert

end Argument

end StridedReduction

import StridedReduction.Element.Basic
import StridedReduction.Element.TimeStep

/-!
# Type descriptors

The plain data types that an array may be declared with, the ones without reductions among them,
and their codes and names.
-/

namespace StridedReduction

/-- The data type of an array. -/
inductive DataType
  /-- A type with element operations. -/
  | element (t : ElementType)
  /-- Floating-point numbers of sixteen bytes. -/
  | extendedReal
  /-- Complex numbers of such parts. -/
  | extendedComplex
  /-- References to values of any kind. -/
  | object
  /-- Text of a fixed number of characters. -/
  | text (length : Nat)
  /-- Strings of a fixed number of bytes. -/
  | byteString (length : Nat)
  /-- Uninterpreted blocks of a fixed number of bytes. -/
  | block (length : Nat)
  /-- Points in time, counted in steps. -/
  | instant (step : Option TimeStep)
  /-- Spans of time, counted in steps. -/
  | duration (step : Option TimeStep)
  /-- Text of any length. -/
  | variableText
  deriving DecidableEq, Repr

/-- A data type together with the order of the bytes of its items. -/
structure Descriptor where
  /-- The data type. -/
  type : DataType
  /-- Whether items are stored with their bytes in reverse of the machine's order. -/
  swapped : Bool := false
  deriving DecidableEq, Repr

namespace ElementType

/-- The letter of a kind of elements. -/
def letter : ElementType → Char
  | boolean => 'b'
  | integer k => if k.signed then 'i' else 'u'
  | real _ => 'f'
  | complex _ => 'c'

/-- The name of a kind of elements. -/
def kindName : ElementType → String
  | boolean => "bool"
  | integer k => if k.signed then "int" else "uint"
  | real _ => "float"
  | complex _ => "complex"

/-- Bytes of one element. -/
def bytes : ElementType → Nat
  | boolean => 1
  | integer k => k.bytes
  | real f => f.width / 8
  | complex f => f.width / 4

/-- The name of an element type. -/
def name (t : ElementType) : String :=
  match t with
  | boolean => t.kindName
  | _ => t.kindName ++ toString (8 * t.bytes)

/-- Every element type. -/
def all : List ElementType :=
  let types : List (Bool → IntegerType) := [.oneByte, .twoBytes, .fourBytes, .eightBytes]
  boolean :: types.map (fun type => integer (type true)) ++
    types.map (fun type => integer (type false)) ++
    [real .half, real .single, real .double, complex .single, complex .double]

end ElementType

namespace DataType

/-- Bytes of one item. -/
def bytes : DataType → Nat
  | element t => t.bytes
  | extendedReal => 16
  | extendedComplex => 32
  | object => 8
  | text length => 4 * length
  | byteString length => length
  | block length => length
  | instant _ => 8
  | duration _ => 8
  | variableText => 16

/-- The code of a data type without its byte order. -/
def code : DataType → String
  | element t => t.letter.toString ++ toString t.bytes
  | extendedReal => "f16"
  | extendedComplex => "c32"
  | object => "O"
  | text length => "U" ++ toString length
  | byteString length => "S" ++ toString length
  | block length => "V" ++ toString length
  | instant step => "M8" ++ TimeStep.text step
  | duration step => "m8" ++ TimeStep.text step
  | variableText => "T16"

/-- Whether the items of a data type have more than one byte to order. -/
def ordered : DataType → Bool
  | element t => t.bytes ≠ 1
  | object => false
  | byteString _ => false
  | block _ => false
  | variableText => false
  | _ => true

end DataType

namespace Descriptor

/-- The descriptor of an element type in the machine's byte order. -/
def ofElement (t : ElementType) : Descriptor :=
  { type := .element t }

/-- The same data type in the machine's byte order. -/
def native (d : Descriptor) : Descriptor :=
  { d with swapped := false }

/-- A data type with a byte order, which types of single bytes do not have. -/
def ordered (type : DataType) (swapped : Bool) : Descriptor :=
  { type, swapped := swapped && type.ordered }

/-- The code of a descriptor: its byte order and the code of its data type. -/
def code (d : Descriptor) : String :=
  let order := if !d.type.ordered then "|" else if d.swapped then ">" else "<"
  order ++ d.type.code

/-- The name of a descriptor: of the data type in the machine's order, otherwise the code. -/
def name (d : Descriptor) : String :=
  if d.swapped then d.code
  else
    match d.type with
    | .element t => t.name
    | .extendedReal => "float128"
    | .extendedComplex => "complex256"
    | .object => "object"
    | .instant step => "datetime64" ++ TimeStep.text step
    | .duration step => "timedelta64" ++ TimeStep.text step
    | .variableText => "StringDType()"
    | _ => d.code

/-- The quoted code that a descriptor has inside a longer type: without a mark for items of single
bytes and without a length of zero. -/
def shortText (d : Descriptor) : String :=
  let order := if !d.type.ordered then "" else if d.swapped then ">" else "<"
  let code :=
    match d.type with
    | .element .boolean => "?"
    | .text 0 => "U"
    | .byteString 0 => "S"
    | .block 0 => "V"
    | .variableText => "T"
    | type => type.code
  "'" ++ order ++ code ++ "'"

/-- The element type that a descriptor describes, if it describes one. -/
def elementType? (d : Descriptor) : Option ElementType :=
  match d.type with
  | .element t => some t
  | _ => none

end Descriptor

end StridedReduction

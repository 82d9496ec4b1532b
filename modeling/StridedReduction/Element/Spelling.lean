import StridedReduction.Element.Descriptor
import StridedReduction.Element.SpellingFault

/-!
# Spelled types

The plain type that a text names: a letter, a letter with a size, a name, or a type of times with a
step in brackets.  A byte order may come before everything but a name.
-/

namespace StridedReduction

namespace DataType

/-- The integer type of the given number of bytes. -/
def integerOfBytes? (signed : Bool) : Nat → Option DataType
  | 1 => some (.element (.integer (.oneByte signed)))
  | 2 => some (.element (.integer (.twoBytes signed)))
  | 4 => some (.element (.integer (.fourBytes signed)))
  | 8 => some (.element (.integer (.eightBytes signed)))
  | _ => none

/-- The greatest number of bytes of an item. -/
def greatestSize : Nat := Nat.pow 2 31 - 1

/-- The data type of a kind letter and a size. -/
def ofKindAndSize? (kind : Char) (size : Nat) : Option DataType :=
  match kind, size with
  | 'b', 1 => some (.element .boolean)
  | 'i', size => integerOfBytes? true size
  | 'u', size => integerOfBytes? false size
  | 'f', 2 => some (.element (.real .half))
  | 'f', 4 => some (.element (.real .single))
  | 'f', 8 => some (.element (.real .double))
  | 'f', 16 => some .extendedReal
  | 'c', 8 => some (.element (.complex .single))
  | 'c', 16 => some (.element (.complex .double))
  | 'c', 32 => some .extendedComplex
  | 'O', 4 => some .object
  | 'O', 8 => some .object
  | 'U', length => if 4 * length ≤ greatestSize then some (.text length) else none
  | 'S', length => if length ≤ greatestSize then some (.byteString length) else none
  | 'a', length => if length ≤ greatestSize then some (.byteString length) else none
  | 'V', length => if length ≤ greatestSize then some (.block length) else none
  | 'M', 8 => some (.instant none)
  | 'm', 8 => some (.duration none)
  | _, _ => none

/-- The data types that have numbers, in their order. -/
def numbered : List DataType :=
  let signed (type : Bool → IntegerType) : DataType := .element (.integer (type true))
  let unsigned (type : Bool → IntegerType) : DataType := .element (.integer (type false))
  [.element .boolean, signed .oneByte, unsigned .oneByte, signed .twoBytes, unsigned .twoBytes,
    signed .fourBytes, unsigned .fourBytes, signed .eightBytes, unsigned .eightBytes,
    signed .eightBytes, unsigned .eightBytes, .element (.real .single), .element (.real .double),
    .extendedReal, .element (.complex .single), .element (.complex .double), .extendedComplex,
    .object, .byteString 0, .text 0, .block 0, .instant none, .duration none,
    .element (.real .half), .byteString 1]

/-- The data type of a character that stands alone: of a letter, or of the control character that is
the number of a type. -/
def ofCharacter? : Char → Option DataType
  | '?' => some (.element .boolean)
  | 'b' => integerOfBytes? true 1
  | 'B' => integerOfBytes? false 1
  | 'h' => integerOfBytes? true 2
  | 'H' => integerOfBytes? false 2
  | 'i' => integerOfBytes? true 4
  | 'I' => integerOfBytes? false 4
  | 'l' => integerOfBytes? true 8
  | 'L' => integerOfBytes? false 8
  | 'q' => integerOfBytes? true 8
  | 'Q' => integerOfBytes? false 8
  | 'p' => integerOfBytes? true 8
  | 'P' => integerOfBytes? false 8
  | 'n' => integerOfBytes? true 8
  | 'N' => integerOfBytes? false 8
  | 'e' => some (.element (.real .half))
  | 'f' => some (.element (.real .single))
  | 'd' => some (.element (.real .double))
  | 'g' => some .extendedReal
  | 'F' => some (.element (.complex .single))
  | 'D' => some (.element (.complex .double))
  | 'G' => some .extendedComplex
  | 'O' => some .object
  | 'U' => some (.text 0)
  | 'S' => some (.byteString 0)
  | 'a' => some (.byteString 0)
  | 'c' => some (.byteString 1)
  | 'V' => some (.block 0)
  | 'M' => some (.instant none)
  | 'm' => some (.duration none)
  | 'T' => some .variableText
  | c => numbered[c.toNat]?

/-- The names of data types other than the names of the element types. -/
def aliases : List (String × DataType) :=
  let signed (type : Bool → IntegerType) : DataType := .element (.integer (type true))
  let unsigned (type : Bool → IntegerType) : DataType := .element (.integer (type false))
  [("bool_", .element .boolean), ("byte", signed .oneByte), ("ubyte", unsigned .oneByte),
    ("short", signed .twoBytes), ("ushort", unsigned .twoBytes), ("intc", signed .fourBytes),
    ("uintc", unsigned .fourBytes), ("int", signed .eightBytes), ("int_", signed .eightBytes),
    ("uint", unsigned .eightBytes), ("intp", signed .eightBytes), ("uintp", unsigned .eightBytes),
    ("long", signed .eightBytes), ("ulong", unsigned .eightBytes),
    ("longlong", signed .eightBytes), ("ulonglong", unsigned .eightBytes),
    ("half", .element (.real .half)), ("single", .element (.real .single)),
    ("double", .element (.real .double)), ("float", .element (.real .double)),
    ("float128", .extendedReal), ("longdouble", .extendedReal),
    ("csingle", .element (.complex .single)), ("cdouble", .element (.complex .double)),
    ("complex", .element (.complex .double)), ("complex256", .extendedComplex),
    ("clongdouble", .extendedComplex), ("object", .object), ("object_", .object), ("str", .text 0),
    ("str_", .text 0), ("unicode", .text 0), ("bytes", .byteString 0), ("bytes_", .byteString 0),
    ("void", .block 0)]

/-- The names that data types no longer have. -/
def retiredNames : List String :=
  ["int0", "uint0", "void0", "object0", "str0", "bytes0", "bool8"]

/-- The data type of a code without byte order: a character, or a kind letter and a size. -/
def ofCode? (cs : List Char) : Option DataType :=
  match cs with
  | [] => none
  | [c] => ofCharacter? c
  | kind :: rest =>
    match Numeral.splitPaddedInteger? rest with
    | some (.ofNat size, []) => ofKindAndSize? kind size
    | _ => none

/-- The data type of a name. -/
def ofName? (name : String) : Option DataType :=
  match ElementType.all.find? (·.name = name) with
  | some t => some (.element t)
  | none => (aliases.find? (·.1 = name)).map (·.2)

/-- The stems of types of times, each with the type of a step. -/
def timeStems : List (String × (Option TimeStep → DataType)) :=
  [("M8", instant), ("m8", duration), ("timedelta64", duration), ("datetime64", instant)]

/-- The type of times whose stem a code starts with, and what follows the stem. -/
def splitTime? (cs : List Char) : Option ((Option TimeStep → DataType) × List Char) :=
  (timeStems.find? fun (stem, _) => stem.toList.isPrefixOf cs).map fun (stem, type) =>
    (type, cs.drop stem.length)

end DataType

namespace Descriptor

/-- Splits off a byte order; the flag tells the reverse of the machine's order. -/
def splitOrder : List Char → Bool × List Char
  | '>' :: cs => (true, cs)
  | '<' :: cs => (false, cs)
  | '=' :: cs => (false, cs)
  | '|' :: cs => (false, cs)
  | cs => (false, cs)

/-- The descriptor that a text spells. -/
def parse (text : String) : Except SpellingFault Descriptor :=
  let (swapped, code) := splitOrder text.toList
  match DataType.splitTime? code with
  | some (type, step) =>
    match TimeStep.parse step with
    | .ok step => .ok (ordered (type step) swapped)
    | .error fault => .error (.timeStep fault (String.ofList (step.takeWhile (· ≠ '\x00'))))
  | none =>
    match DataType.ofCode? code with
    | some type => .ok (ordered type swapped)
    | none =>
      match DataType.ofName? text with
      | some type => .ok (ordered type false)
      | none =>
        if DataType.retiredNames.contains (String.ofList code) then .error (.retired text)
        else .error (.unknown text)

end Descriptor

end StridedReduction

import StridedReduction.Element.Descriptor

/-!
# Types of items

What the items of an array may be: values of a plain type, grids of items of one type, or records
of several fields.  Only plain types may have element operations; arrays of grids are arrays of
what the grids hold, with the extents of the grid added to their own.
-/

namespace StridedReduction

/-- The text of extents in parentheses: a lone extent keeps its comma. -/
def extentsText (separator : String) : List Nat → String
  | [extent] => "(" ++ toString extent ++ ",)"
  | extents => "(" ++ separator.intercalate (extents.map toString) ++ ")"

/-- The type of the items of an array. -/
inductive ItemType
  /-- Values of a plain type. -/
  | plain (d : Descriptor)
  /-- Grids of the given extents. -/
  | grid (base : ItemType) (extents : List Nat)
  /-- Records of fields in a row. -/
  | record (fields : List ItemType)

namespace ItemType

/-- The items that are elements of a type in the machine's byte order. -/
def ofElement (t : ElementType) : ItemType :=
  plain (.ofElement t)

/-- The element type of plain items, if they have one. -/
def elementType? : ItemType → Option ElementType
  | plain d => d.elementType?
  | _ => none

mutual

/-- Bytes of one item. -/
def bytes : ItemType → Nat
  | plain d => d.type.bytes
  | grid base extents => base.bytes * extents.foldl (· * ·) 1
  | record fields => bytesOf fields

/-- Bytes of several items in a row. -/
def bytesOf : List ItemType → Nat
  | [] => 0
  | field :: fields => field.bytes + bytesOf fields

end

mutual

/-- The same type in the machine's byte order. -/
def native : ItemType → ItemType
  | plain d => plain d.native
  | grid base extents => grid base.native extents
  | record fields => record (nativeOf fields)

/-- Several types in the machine's byte order. -/
def nativeOf : List ItemType → List ItemType
  | [] => []
  | field :: fields => field.native :: nativeOf fields

end

mutual

/-- Whether text of any length is among what an item holds. -/
def holdsVariableText : ItemType → Bool
  | plain d => d.type = .variableText
  | grid base _ => base.holdsVariableText
  | record fields => anyHoldsVariableText fields

/-- Whether text of any length is among what several items hold. -/
def anyHoldsVariableText : List ItemType → Bool
  | [] => false
  | field :: fields => field.holdsVariableText || anyHoldsVariableText fields

end

mutual

/-- The text of a type; that of a grid stands in parentheses where the flag asks for them. -/
def text (enclosed : Bool) : ItemType → String
  | plain d => d.shortText
  | grid base extents =>
    let pair := base.text true ++ ", " ++ extentsText ", " extents
    if enclosed then "(" ++ pair ++ ")" else pair
  | record fields => "[" ++ ", ".intercalate (fieldTexts 0 fields) ++ "]"

/-- The texts of the fields of a record, which are named by their numbers from the given one on. -/
def fieldTexts (number : Nat) : List ItemType → List String
  | [] => []
  | field :: fields =>
    ("('f" ++ toString number ++ "', " ++ field.text false ++ ")") :: fieldTexts (number + 1) fields

end

/-- The name of a type: of a plain type its own, of any other its text. -/
def name : ItemType → String
  | plain d => d.name
  | type => type.text true

/-- The code of a type; types that are not plain count as blocks of bytes. -/
def code : ItemType → String
  | plain d => d.code
  | type => (Descriptor.ordered (.block type.bytes) false).code

/-- What arrays of a type hold. -/
def content : ItemType → ItemType
  | grid base _ => base.content
  | type => type

/-- The extents that a type adds to those of an array. -/
def contentExtents : ItemType → List Nat
  | grid base extents => extents ++ base.contentExtents
  | _ => []

end ItemType

end StridedReduction

import StridedReduction.Element.ItemType
import StridedReduction.Element.Spelling
import StridedReduction.Element.SpellingFault

/-!
# Spelled lists of types

A text with a comma outside brackets, or with a number at its start, is a list of entries.  An entry
is a type that a repetition may precede, with a byte order before either of them.  A repetition is a
number, or numbers with commas between them, which parentheses may surround.  One entry without a
comma after it stands for itself, any other list for a record with a field for each entry.
-/

namespace StridedReduction

/-- How often a type is repeated. -/
inductive Repetition
  /-- So many times in a row. -/
  | count (number : Nat)
  /-- In a grid of these extents. -/
  | extents (numbers : List Nat)
  deriving DecidableEq, Repr

namespace Repetition

/-- A piece of a list of numbers. -/
inductive Token
  /-- A run of digits. -/
  | number (digits : List Char)
  /-- A comma. -/
  | comma
  deriving DecidableEq, Repr

/-- The digits of a number as a piece, if there are any. -/
def Token.ofDigits (digits : List Char) : List Token :=
  if digits.isEmpty then [] else [number digits]

/-- Whether a number starts with a zero that is not all of it. -/
def Token.hasLeadingZero : Token → Bool
  | number digits => digits.head? = some '0' && digits.any (· ≠ '0')
  | comma => false

/-- The pieces of blanks, digits and commas that follow the digits of an unfinished number. -/
def tokens (digits : List Char) : List Char → List Token
  | [] => Token.ofDigits digits
  | c :: cs =>
    if c.isDigit then tokens (digits ++ [c]) cs
    else if c = ',' then Token.ofDigits digits ++ .comma :: tokens [] cs
    else Token.ofDigits digits ++ tokens [] cs

/-- The numbers at the head of a list, whether a comma follows one of them, and the pieces from the
first one out of place on. -/
def numbers : List Token → List Nat × Bool × List Token
  | [] => ([], false, [])
  | .comma :: rest => ([], false, .comma :: rest)
  | .number digits :: .comma :: rest =>
    let (values, _, misplaced) := numbers rest
    (Numeral.digitsValue digits :: values, true, misplaced)
  | .number digits :: misplaced => ([Numeral.digitsValue digits], false, misplaced)

/-- The repetition that a list of numbers spells, with a parenthesis before it, after it or both.  A
lone number without a comma is a count. -/
def parse (opened closed : Bool) (list : List Char) : Except RepetitionFault Repetition :=
  let pieces := tokens [] list
  if pieces.isEmpty && !opened && !closed then .error .blank
  else if pieces.any Token.hasLeadingZero then .error .leadingZero
  else if closed && !opened then .error .unopened
  else
    match numbers pieces with
    | ([value], false, []) => if opened && !closed then .error .unclosed else .ok (count value)
    | (values, _, []) => if opened && !closed then .error .unclosed else .ok (extents values)
    | (_, _, [.number _]) =>
      .error (if !opened then .misplaced else if closed then .adjacent else .unclosed)
    | (_, _, .number _ :: _) => .error (if opened then .adjacent else .misplaced)
    | (_, _, .comma :: _) => .error .misplaced

end Repetition

namespace ItemType

/-- An entry of a list of types. -/
structure Entry where
  /-- How often the type is repeated, if that is said. -/
  repetition : Option Repetition
  /-- The text of the type, with the reverse byte order if it is given. -/
  text : String

/-- Whether a character marks a byte order. -/
def isOrder (c : Char) : Bool :=
  c = '<' || c = '>' || c = '|' || c = '='

/-- Splits off the first character if it passes a test. -/
def splitIf (test : Char → Bool) : List Char → Option Char × List Char
  | [] => (none, [])
  | c :: cs => if test c then (some c, cs) else (none, c :: cs)

/-- Whether there is a comma outside brackets; `depth` brackets are open. -/
def hasOuterComma (depth : Int) : List Char → Bool
  | [] => false
  | ',' :: cs => depth = 0 || hasOuterComma depth cs
  | '[' :: cs => hasOuterComma (depth + 1) cs
  | ']' :: cs => hasOuterComma (depth - 1) cs
  | _ :: cs => hasOuterComma depth cs

/-- Whether a text is a list of types: a digit or an empty pair of parentheses at its start, which a
byte order may precede, or a comma outside brackets. -/
def isList (cs : List Char) : Bool :=
  let (order, rest) := splitIf isOrder cs
  let digit := (rest.head?.map Char.isDigit).getD false
  let pair := "()".toList.isPrefixOf rest && (order.isNone || 2 < rest.length)
  digit || pair || hasOuterComma 0 cs

/-- Splits off a repetition as it is spelled, if there is one. -/
def splitRepetition (cs : List Char) :
    Option (Except RepetitionFault Repetition) × List Char :=
  let unpadded := cs.dropWhile (· = ' ')
  let (opening, body) := splitIf (· = '(') unpadded
  let isListed (c : Char) : Bool := c = ' ' || c = ',' || c.isDigit
  let list := body.takeWhile isListed
  let (closing, rest) := splitIf (· = ')') (body.dropWhile isListed)
  let rest := rest.dropWhile (· = ' ')
  if rest.length = cs.length then (none, cs)
  else (some (Repetition.parse opening.isSome closing.isSome list), rest)

/-- Splits off a step in brackets, if there is one. -/
def splitBrackets (cs : List Char) : List Char × List Char :=
  match cs with
  | '[' :: rest =>
    let isInner (c : Char) : Bool := c.isAlphanum || c = ',' || c = '.'
    match rest.dropWhile isInner with
    | ']' :: after => ('[' :: rest.takeWhile isInner ++ [']'], after)
    | _ => ([], cs)
  | _ => ([], cs)

/-- Splits off the code or name of a type, if there is one. -/
def splitCode (cs : List Char) : List Char × List Char :=
  let isInner (c : Char) : Bool := c.isAlphanum || c = '.' || c = '?'
  let (brackets, rest) := splitBrackets (cs.dropWhile isInner)
  (cs.takeWhile isInner ++ brackets, rest)

/-- The mark of a byte order, where the order of the machine has one mark only. -/
def canonicalOrder (c : Char) : Char :=
  if c = '=' then '<' else c

/-- The one byte order that the marks before a repetition and before a type give. -/
def commonOrder : Option Char → Option Char → Except SpellingFault (Option Char)
  | none, second => .ok second
  | first, none => .ok first
  | some first, some second =>
    let first := canonicalOrder first
    let second := canonicalOrder second
    if first = second then .ok (some first) else .error (.conflictingOrders first second)

/-- What follows the comma after an entry, if there is a comma; blanks alone end the list. -/
def afterComma (rest : List Char) : Option (Option (List Char)) :=
  match rest.dropWhile isSpace with
  | [] => some none
  | ',' :: next => some (some (next.dropWhile isSpace))
  | _ => none

/-- The entries of a list from the entry of the given number on, and whether there is a comma after
one of them.  The fuel bounds the number of entries. -/
def entries (whole : String) : Nat → Nat → List Char → Except SpellingFault (List Entry × Bool)
  | _, _, [] => .ok ([], false)
  | 0, number, _ => .error (.unreadable number whole)
  | fuel + 1, number, cs => do
    let (first, cs) := splitIf isOrder cs
    let (repetition, cs) := splitRepetition cs
    let (second, cs) := splitIf isOrder cs
    let (code, rest) := splitCode cs
    match afterComma rest with
    | none => throw (.unreadable number whole)
    | some next =>
      let order ← commonOrder first second
      let text := String.ofList (if order = some '>' then '>' :: code else code)
      let repetition ←
        match repetition with
        | none => pure none
        | some (.ok repetition) => pure (some repetition)
        | some (.error fault) => throw (.repetitions fault)
      let (others, _) ← entries whole fuel (number + 1) (next.getD [])
      return (⟨repetition, text⟩ :: others, next.isSome)

/-- The greatest extent that can be counted. -/
def greatestExtent : Nat := Nat.pow 2 63 - 1

/-- The most extents that a grid can have. -/
def extentLimit : Nat := 64

/-- Items without a length of their own, given a length. -/
def withLength (type : ItemType) (length : Nat) : Except SpellingFault ItemType :=
  match type with
  | plain ⟨.text _, swapped⟩ =>
    if 4 * length ≤ DataType.greatestSize then .ok (plain ⟨.text length, swapped⟩)
    else .error .badLength
  | plain ⟨.byteString _, swapped⟩ => .ok (plain ⟨.byteString length, swapped⟩)
  | plain ⟨.block _, swapped⟩ => .ok (plain ⟨.block length, swapped⟩)
  | type => .ok type

/-- The grid of a type, whose size in bytes is bounded. -/
def gridOf (type : ItemType) (extents : List Nat) : Except SpellingFault ItemType :=
  if extentLimit < extents.length ∨ extents.any (greatestExtent < ·) then .error .badExtents
  else if extents.any (DataType.greatestSize < ·) then .error .extentTooLarge
  else if DataType.greatestSize < (grid type extents).bytes then .error .sizeTooLarge
  else .ok (grid type extents)

/-- A type repeated: a number is the length of items without one and the extent of a grid of others,
where once is the type itself. -/
def repeated (type : ItemType) (repetition : Repetition) : Except SpellingFault ItemType :=
  if type.bytes = 0 then
    match repetition with
    | .count length =>
      if DataType.greatestSize < length then .error .badLength else type.withLength length
    | .extents _ => .error .badLength
  else
    match repetition with
    | .count 1 => .ok type
    | .count number => gridOf type [number]
    | .extents [] => .ok type
    | .extents numbers => gridOf type numbers

/-- A field of a record. -/
def asField (type : ItemType) : Except SpellingFault ItemType :=
  match type with
  | plain ⟨.variableText, _⟩ => .error .variableField
  | type => .ok type

/-- The entries of a record; an empty one at the end does not count. -/
def recordEntries (entries : List Entry) : List Entry :=
  match entries.getLast? with
  | some ⟨none, ""⟩ => entries.dropLast
  | _ => entries

/-- The type that a text spells; the fuel bounds how deeply lists of one entry nest. -/
def parseWithin : Nat → String → Except SpellingFault ItemType
  | 0, text => .error (.unknown text)
  | fuel + 1, text =>
    let ofEntry (entry : Entry) : Except SpellingFault ItemType := do
      let type ← parseWithin fuel entry.text
      match entry.repetition with
      | none => return type
      | some repetition => type.repeated repetition
    if isList text.toList then do
      let (entries, separated) ← entries text text.length 1 text.toList
      match entries, separated with
      | [entry], false => ofEntry entry
      | entries, _ =>
        let fields ← (recordEntries entries).mapM fun entry => do asField (← ofEntry entry)
        if fields.isEmpty then throw .noFields
        return record fields
    else plain <$> Descriptor.parse text

/-- The type that a text spells. -/
def parse (text : String) : Except SpellingFault ItemType :=
  parseWithin (text.length + 1) text

end ItemType

end StridedReduction

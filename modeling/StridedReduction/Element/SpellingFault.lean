import StridedReduction.Element.TimeStep
import StridedReduction.Text.Quoted

/-!
# Faults of spelled types

Why a text that should name a type of items does not, the kind of each fault among the kinds of all
failures, and its message.
-/

namespace StridedReduction

/-- The kinds of failures. -/
inductive FailureKind
  /-- A value of the wrong type. -/
  | type
  /-- A value outside what is accepted. -/
  | value
  /-- A fault of an axis number. -/
  | axis
  /-- A fault of an index. -/
  | index
  /-- A number that a type cannot hold. -/
  | overflow
  /-- A name that is not listed. -/
  | key
  /-- A broken promise of the caller. -/
  | assertion
  /-- A result that its holder cannot store. -/
  | storage
  /-- A missing property. -/
  | property
  /-- A text that does not follow its grammar. -/
  | grammar
  deriving DecidableEq, Repr

/-- Why the number of repetitions of a type cannot be read. -/
inductive RepetitionFault
  /-- Nothing but blanks. -/
  | blank
  /-- A number starts with a zero. -/
  | leadingZero
  /-- A parenthesis is closed that was not opened. -/
  | unopened
  /-- A parenthesis is not closed. -/
  | unclosed
  /-- Two numbers in parentheses without a comma between them. -/
  | adjacent
  /-- A comma or a number out of place. -/
  | misplaced
  deriving DecidableEq, Repr

namespace RepetitionFault

/-- The message of a fault. -/
def message : RepetitionFault → String
  | blank => "invalid syntax (<unknown>, line 0)"
  | leadingZero =>
    "leading zeros in decimal integer literals are not permitted; " ++
      "use an 0o prefix for octal integers (<unknown>, line 1)"
  | unopened => "unmatched ')' (<unknown>, line 1)"
  | unclosed => "'(' was never closed (<unknown>, line 1)"
  | adjacent => "invalid syntax. Perhaps you forgot a comma? (<unknown>, line 1)"
  | misplaced => "invalid syntax (<unknown>, line 1)"

end RepetitionFault

/-- Why a text names no type of items. -/
inductive SpellingFault
  /-- No type has this name or code. -/
  | unknown (text : String)
  /-- The name is one that types no longer have. -/
  | retired (text : String)
  /-- The step of a type of times is not spelled as steps are. -/
  | timeStep (fault : TimeStepFault) (text : String)
  /-- A list of types cannot be read from the entry of the given number on. -/
  | unreadable (number : Nat) (text : String)
  /-- Two different byte orders are given for one entry of a list. -/
  | conflictingOrders (first second : Char)
  /-- The repetitions of an entry of a list cannot be read. -/
  | repetitions (fault : RepetitionFault)
  /-- A length is given that items cannot have. -/
  | badLength
  /-- Extents are given that no grid can have. -/
  | badExtents
  /-- An extent is too large. -/
  | extentTooLarge
  /-- Items are too large. -/
  | sizeTooLarge
  /-- A record has no fields. -/
  | noFields
  /-- A field of a record is text of any length. -/
  | variableField
  deriving DecidableEq, Repr

namespace SpellingFault

/-- The kind of a fault. -/
def kind : SpellingFault → FailureKind
  | unknown _ => .type
  | retired _ => .type
  | timeStep (.malformed _) _ => .type
  | timeStep .unknownUnit _ => .type
  | timeStep .unitlessDivision _ => .value
  | timeStep (.indivisible _) _ => .value
  | unreadable _ _ => .value
  | conflictingOrders _ _ => .value
  | repetitions _ => .grammar
  | badLength => .value
  | badExtents => .value
  | extentTooLarge => .value
  | sizeTooLarge => .value
  | noFields => .value
  | variableField => .type

/-- The message of a fault of the step of a type of times. -/
def timeStepMessage (text : String) : TimeStepFault → String
  | .malformed none => "Invalid datetime metadata string \"" ++ text ++ "\""
  | .malformed (some position) =>
    "Invalid datetime metadata string \"" ++ text ++ "\" at position " ++ toString position
  | .unknownUnit => "Invalid datetime unit in metadata string \"" ++ text ++ "\""
  | .unitlessDivision => "Can't use 'den' divisor with generic units"
  | .indivisible divisor =>
    "divisor (" ++ toString divisor ++
      ") is not a multiple of a lower-unit in datetime metadata \"" ++ text ++ "\""

/-- The message of a fault. -/
def message : SpellingFault → String
  | unknown text => "data type " ++ quoted text ++ " not understood"
  | retired text =>
    "Alias " ++ quoted text ++ " was removed in NumPy 2.0. Use a name without a digit at the end."
  | timeStep fault text => timeStepMessage text fault
  | unreadable number text =>
    "format number " ++ toString number ++ " of \"" ++ text ++ "\" is not recognized"
  | conflictingOrders first second =>
    "inconsistent byte-order specification " ++ String.ofList [first] ++ " and " ++
      String.ofList [second]
  | repetitions fault => fault.message
  | badLength => "invalid itemsize in generic type tuple"
  | badExtents => "invalid shape in fixed-type tuple."
  | extentTooLarge =>
    "invalid shape in fixed-type tuple: dimension does not fit into a C int."
  | sizeTooLarge =>
    "invalid shape in fixed-type tuple: dtype size in bytes must fit into a C int."
  | noFields => "Expected at least one field name"
  | variableField => "StringDType is not currently supported for structured dtype fields."

end SpellingFault

end StridedReduction

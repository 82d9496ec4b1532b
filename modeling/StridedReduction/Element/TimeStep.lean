import StridedReduction.Text.Numeral
import StridedReduction.Word

/-!
# Steps of time

The step that points and spans of time are counted in: a multiple of a unit.  A step is spelled in
brackets, `[10ms]`, and may be divided, `[s/100]`, where the quotient is a multiple of a smaller
unit.
-/

namespace StridedReduction

/-- A unit of time. -/
inductive TimeUnit
  | year
  | month
  | week
  | day
  | hour
  | minute
  | second
  | millisecond
  | microsecond
  | nanosecond
  | picosecond
  | femtosecond
  | attosecond
  deriving DecidableEq, Repr

namespace TimeUnit

/-- All units, from the longest to the shortest. -/
def all : List TimeUnit :=
  [year, month, week, day, hour, minute, second, millisecond, microsecond, nanosecond, picosecond,
    femtosecond, attosecond]

/-- The symbol of a unit. -/
def symbol : TimeUnit → String
  | year => "Y"
  | month => "M"
  | week => "W"
  | day => "D"
  | hour => "h"
  | minute => "m"
  | second => "s"
  | millisecond => "ms"
  | microsecond => "us"
  | nanosecond => "ns"
  | picosecond => "ps"
  | femtosecond => "fs"
  | attosecond => "as"

/-- The unit of a symbol; microseconds may also be written with a Greek letter. -/
def ofSymbol? (symbol : String) : Option TimeUnit :=
  if symbol = "μs" then some microsecond else all.find? (·.symbol = symbol)

/-- The smaller units that a unit is divided into, each with how many of it make up the unit.  The
row of the week ends with no years, which any divisor divides. -/
def parts : TimeUnit → List (Int × TimeUnit)
  | year => [(12, month), (52, week), (365, day)]
  | month => [(4, week), (30, day), (720, hour)]
  | week => [(7, day), (168, hour), (10080, minute), (0, year)]
  | day => [(24, hour), (1440, minute), (86400, second)]
  | hour => [(60, minute), (3600, second)]
  | minute => [(60, second), (60000, millisecond)]
  | second => [(1000, millisecond), (1000000, microsecond)]
  | millisecond => [(1000, microsecond), (1000000, nanosecond)]
  | microsecond => [(1000, nanosecond), (1000000, picosecond)]
  | nanosecond => [(1000, picosecond), (1000000, femtosecond)]
  | picosecond => [(1000, femtosecond), (1000000, attosecond)]
  | femtosecond => [(1000, attosecond)]
  | attosecond => []

end TimeUnit

/-- A multiple of a unit of time. -/
structure TimeStep where
  /-- How many units make up the step. -/
  count : Int
  /-- The unit. -/
  unit : TimeUnit
  deriving DecidableEq, Repr

/-- Why a spelling of a step is refused. -/
inductive TimeStepFault
  /-- The form is wrong, at a position where one is known. -/
  | malformed (position : Option Nat)
  /-- The unit is not one of the units of time. -/
  | unknownUnit
  /-- A step without a unit is divided. -/
  | unitlessDivision
  /-- No smaller unit divides into the divisor. -/
  | indivisible (divisor : Int)
  deriving DecidableEq, Repr

namespace TimeStep

/-- The type of the counts of units. -/
def countType : IntegerType := .fourBytes true

/-- A number as a count of units: cut to 64 bits and wrapped to 32. -/
def toCount (number : Int) : Int :=
  let wide := IntegerType.eightBytes true
  countType.wrap (max wide.least (min wide.greatest number))

/-- The text of a step in brackets; without a unit there is none. -/
def text : Option TimeStep → String
  | none => ""
  | some ⟨1, unit⟩ => "[" ++ unit.symbol ++ "]"
  | some ⟨count, unit⟩ => "[" ++ toString count ++ unit.symbol ++ "]"

/-- A part of a step: a multiple of the first smaller unit that the divisor divides. -/
def divide (step : TimeStep) (divisor : Int) : Except TimeStepFault TimeStep :=
  match step.unit.parts.find? fun (number, _) => number.tmod divisor = 0 with
  | some (number, unit) => .ok ⟨countType.wrap (step.count * number.tdiv divisor), unit⟩
  | none => .error (.indivisible divisor)

/-- A step after the division that a spelling ends with. -/
def divideSpelled (step : Option TimeStep) (divisor : Int) :
    Except TimeStepFault (Option TimeStep) :=
  if divisor = 1 then .ok step
  else
    match step with
    | none => .error .unitlessDivision
    | some step => do return some (← step.divide divisor)

/-- How many bytes characters take. -/
def byteSize (cs : List Char) : Nat :=
  (cs.map Char.utf8Size).foldr (· + ·) 0

/-- The step between the brackets of a spelling: an optional count, a unit and an optional divisor.
The text without a unit is spelled `generic`.  Positions count bytes from the opening bracket. -/
def parseInner (inner : List Char) : Except TimeStepFault (Option TimeStep) := do
  let faultAt (rest : List Char) : TimeStepFault :=
    .malformed (some (1 + byteSize inner - byteSize rest))
  let (count, rest) := (Numeral.splitPaddedInteger? inner).getD (1, inner)
  if ¬countType.Contains count ∨ count < 0 then throw (faultAt inner)
  let symbol := rest.takeWhile (· ≠ '/')
  if symbol.isEmpty then throw (faultAt rest)
  let step ←
    if symbol = "generic".toList then pure none
    else
      match TimeUnit.ofSymbol? (String.ofList symbol) with
      | some unit => pure (some ⟨count, unit⟩)
      | none => throw .unknownUnit
  match rest.dropWhile (· ≠ '/') with
  | [] => return step
  | _ :: divisor =>
    match Numeral.splitPaddedInteger? divisor with
    | some (number, []) => divideSpelled step (toCount number)
    | _ => throw (faultAt divisor)

/-- The step that a spelling in brackets stands for; nothing spells a step without a unit. -/
def parse (cs : List Char) : Except TimeStepFault (Option TimeStep) := do
  if cs.isEmpty then return none
  if byteSize cs < 3 then throw (.malformed none)
  match cs with
  | '[' :: rest =>
    let inner := rest.takeWhile (· ≠ ']')
    match rest.dropWhile (· ≠ ']') with
    | [] => throw (.malformed (some (byteSize cs)))
    | _ :: after =>
      if inner.isEmpty then throw (.malformed (some 1))
      let step ← parseInner inner
      if after.isEmpty then return step
      throw (.malformed (some (2 + byteSize inner)))
  | _ => throw (.malformed (some 1))

end TimeStep

end StridedReduction

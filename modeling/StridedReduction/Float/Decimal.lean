import StridedReduction.Float.Basic

/-!
# Decimal forms of floating-point numbers

The number nearest to a decimal, and the shortest decimal that reads back as a given number.  A
decimal with `n` digits that reads back is one of the two neighbours of the number on the grid of
`n`-digit decimals, so the search tries those two for each length in turn.

In a text the shortest decimal is written positionally when its leading digit is near the point and
with an exponent otherwise.
-/

namespace StridedReduction

/-- A nonnegative decimal `digits * 10 ^ exponent`. -/
structure Decimal where
  /-- The significant digits, read as one number. -/
  digits : Nat
  /-- The power of ten that scales the digits. -/
  exponent : Int
  deriving DecidableEq, Repr

namespace Decimal

/-- How many decimal digits a number has; zero has one. -/
def length (value : Nat) : Nat :=
  (Nat.toDigits 10 value).length

/-- The power of ten of the leading digit. -/
def leading (d : Decimal) : Int :=
  d.exponent + length d.digits - 1

/-- The same decimal without trailing zero digits; the fuel bounds how many there are. -/
def trimFrom : Nat → Decimal → Decimal
  | 0, d => d
  | fuel + 1, d =>
    if d.digits % 10 = 0 then trimFrom fuel ⟨d.digits / 10, d.exponent + 1⟩ else d

/-- The same decimal without trailing zero digits. -/
def trim (d : Decimal) : Decimal :=
  if d.digits = 0 then ⟨0, 0⟩ else trimFrom (length d.digits) d

/-- The power of ten of the leading digit of a positive quotient. -/
def leadingOf (numerator denominator : Nat) : Int :=
  if denominator ≤ numerator then length (numerator / denominator) - 1
  else -length ((denominator - 1) / numerator)

/-- The two neighbours of a quotient among the multiples of `10 ^ exponent`, the nearer first and
the even one first if both are equally near. -/
def neighbours (numerator denominator : Nat) (exponent : Int) : List Decimal :=
  let numerator := numerator * Nat.pow 10 (-exponent).toNat
  let denominator := denominator * Nat.pow 10 exponent.toNat
  let below := numerator / denominator
  let nearer := nearestEven numerator denominator
  let farther := if nearer = below then below + 1 else below
  [⟨nearer, exponent⟩, ⟨farther, exponent⟩]

end Decimal

namespace Binary

variable {f : Format}

/-- The number nearest to a signed decimal.  Decimals far outside the range of every format are
settled without computing their power of ten. -/
def ofDecimal (negative : Bool) (d : Decimal) : Binary f :=
  if d.digits = 0 then signedZero negative
  else if 400 < d.leading then .infinite negative
  else if d.leading < -400 then signedZero negative
  else
    nearest negative (d.digits * Nat.pow 10 d.exponent.toNat * f.one)
      (Nat.pow 10 (-d.exponent).toNat)

/-- The shortest decimal that reads back as `units` units: of the shortest ones the nearest.  The
lengths `count`, …, `count + fuel` are tried. -/
def shortestFrom (f : Format) (units : Nat) : Nat → Nat → Decimal
  | fuel, count =>
    let candidates :=
      Decimal.neighbours units f.one (Decimal.leadingOf units f.one + 1 - count)
    let readsBack (d : Decimal) : Bool :=
      roundSignificant f.precision (d.digits * Nat.pow 10 d.exponent.toNat * f.one)
        (Nat.pow 10 (-d.exponent).toNat) = units
    match candidates.find? readsBack with
    | some d => d.trim
    | none =>
      match fuel with
      | 0 => candidates.headD ⟨0, 0⟩
      | fuel + 1 => shortestFrom f units fuel (count + 1)

/-- The shortest decimal that reads back as a magnitude of `units` units. -/
def shortest (f : Format) (units : Nat) : Decimal :=
  if units = 0 then ⟨0, 0⟩ else shortestFrom f units 20 1

end Binary

/-- How a decimal is laid out. -/
structure DecimalLayout where
  /-- The least power of ten of a leading digit that is written positionally. -/
  leastPositional : Int
  /-- The greatest power of ten of a leading digit that is written positionally. -/
  greatestPositional : Int
  /-- What follows a positional number without a fraction. -/
  wholeSuffix : String
  /-- What follows a number with an exponent and without a fraction. -/
  mantissaSuffix : String
  /-- The least number of digits of an exponent. -/
  exponentDigits : Nat

namespace DecimalLayout

/-- Numbers stand positionally from `1e-4` to below `1e16`, with `.0` after a whole one, and
exponents have two digits or more. -/
def number : DecimalLayout := ⟨-4, 15, ".0", "", 2⟩

/-- Parts of complex numbers are written as numbers are, but whole ones without a point. -/
def part : DecimalLayout := { number with wholeSuffix := "" }

/-- A run of zero digits. -/
def zeros (count : Nat) : List Char :=
  List.replicate count '0'

/-- The text of a decimal with its point in place. -/
def positional (layout : DecimalLayout) (digits : List Char) (leading : Int) : String :=
  if leading < 0 then String.ofList ('0' :: '.' :: zeros (-leading - 1).toNat ++ digits)
  else
    let whole := leading.toNat + 1
    if digits.length ≤ whole then
      String.ofList (digits ++ zeros (whole - digits.length)) ++ layout.wholeSuffix
    else String.ofList (digits.take whole ++ '.' :: digits.drop whole)

/-- The text of a decimal with one digit before the point and an exponent. -/
def scientific (layout : DecimalLayout) (digits : List Char) (leading : Int) : String :=
  let fraction := digits.drop 1
  let mantissa :=
    String.ofList (digits.take 1) ++
      if fraction.isEmpty then layout.mantissaSuffix else String.ofList ('.' :: fraction)
  let exponent := Nat.toDigits 10 leading.natAbs
  let sign := if leading < 0 then '-' else '+'
  mantissa ++
    String.ofList ('e' :: sign :: zeros (layout.exponentDigits - exponent.length) ++ exponent)

/-- Whether a number with a leading digit of a power of ten is written positionally. -/
def isPositional (layout : DecimalLayout) (leading : Int) : Bool :=
  layout.leastPositional ≤ leading && leading ≤ layout.greatestPositional

/-- The text of a decimal. -/
def write (layout : DecimalLayout) (d : Decimal) : String :=
  let digits := Nat.toDigits 10 d.digits
  if layout.isPositional d.leading then layout.positional digits d.leading
  else layout.scientific digits d.leading

end DecimalLayout

namespace Binary

/-- The text of a number without its sign. -/
def magnitudeText (layout : DecimalLayout) {f : Format} : Binary f → String
  | .nan => "nan"
  | .infinite _ => "inf"
  | .finite _ units _ => layout.write (shortest f units)

/-- Whether the sign of a number is a minus. -/
def isNegative {f : Format} : Binary f → Bool
  | .nan => false
  | .infinite negative => negative
  | .finite negative _ _ => negative

/-- The text of a number in the digits that its own format needs. -/
def ownText (layout : DecimalLayout) {f : Format} (x : Binary f) : String :=
  (if x.isNegative then "-" else "") ++ x.magnitudeText layout

/-- The text of a number as that of the equal double. -/
def text (layout : DecimalLayout) {f : Format} (x : Binary f) : String :=
  (x.convert : Binary .double).ownText layout

end Binary

end StridedReduction

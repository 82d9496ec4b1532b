import StridedReduction.Float.Basic

/-!
# Interchange encodings

The bit pattern of a floating-point number and its hexadecimal text, most significant digit first.
The pattern of a magnitude counts the magnitudes of its format in order, so a magnitude of `units`
units with `shift` excess bits has the pattern `shift * 2 ^ (precision - 1) + units / 2 ^ shift`.
-/

namespace StridedReduction

/-- The value of a hexadecimal digit. -/
def hexDigit? (c : Char) : Option Nat :=
  if c.isDigit then some (c.toNat - '0'.toNat)
  else if 'a' ≤ c ∧ c ≤ 'f' then some (c.toNat - 'a'.toNat + 10)
  else if 'A' ≤ c ∧ c ≤ 'F' then some (c.toNat - 'A'.toNat + 10)
  else none

/-- The number that a run of hexadecimal digits stands for. -/
def hexValue? (digits : List Char) : Option Nat :=
  digits.foldlM (fun value c => (16 * value + ·) <$> hexDigit? c) 0

/-- The lowest `count` hexadecimal digits of `value`, highest first. -/
def hexDigits : Nat → Nat → List Char
  | 0, _ => []
  | count + 1, value => hexDigits count (value / 16) ++ [Nat.digitChar (value % 16)]

namespace Binary

variable {f : Format}

/-- The pattern of the infinite magnitude, the least pattern of no finite one. -/
def infinitePattern (f : Format) : Nat :=
  (Nat.pow 2 f.exponentBits - 1) * Nat.pow 2 (f.precision - 1)

/-- The pattern of a magnitude in units. -/
def magnitudePattern (f : Format) (units : Nat) : Nat :=
  let shift := excessBits f.precision units
  shift * Nat.pow 2 (f.precision - 1) + units / Nat.pow 2 shift

/-- The magnitude in units that has a given pattern. -/
def patternUnits (f : Format) (pattern : Nat) : Nat :=
  let leading := Nat.pow 2 (f.precision - 1)
  if pattern < leading then pattern
  else (leading + pattern % leading) * Nat.pow 2 (pattern / leading - 1)

/-- The bit pattern of a number; the one of not-a-number is its quiet positive pattern. -/
def toBits : Binary f → Nat
  | .nan => infinitePattern f + Nat.pow 2 (f.precision - 2)
  | .infinite negative => infinitePattern f + if negative then Nat.pow 2 (f.width - 1) else 0
  | .finite negative units _ =>
    magnitudePattern f units + if negative then Nat.pow 2 (f.width - 1) else 0

/-- The number with a given bit pattern. -/
def ofBits (bits : Nat) : Binary f :=
  let negative := bits.testBit (f.width - 1)
  let pattern := bits % Nat.pow 2 (f.width - 1)
  if infinitePattern f < pattern then .nan
  else if infinitePattern f = pattern then .infinite negative
  else nearest negative (patternUnits f pattern) 1

/-- The hexadecimal text of a number; all of not-a-number reads `nan`. -/
def encode (x : Binary f) : String :=
  if x.isNaN then "nan" else String.ofList (hexDigits (f.width / 4) x.toBits)

/-- The number that a hexadecimal text stands for. -/
def decode? (text : String) : Option (Binary f) :=
  if text = "nan" then some .nan else ofBits <$> hexValue? text.toList

end Binary

end StridedReduction

import StridedReduction.Complex
import StridedReduction.Float.Decimal

/-!
# Numerals

Reading integers, floating-point and complex numbers from text.  Blanks may surround a numeral,
single underscores may stand between two digits of any script, and infinities and not-a-number are
spelled in letters of either case.
-/

namespace StridedReduction

/-- Whether a character is one of the six blanks of ASCII. -/
def isAsciiBlank (c : Char) : Bool :=
  (9 ≤ c.toNat && c.toNat ≤ 13) || c.toNat == 0x20

/-- Whether a character is a blank: one of ASCII or one of Unicode above them. -/
def isBlank (c : Char) : Bool :=
  let code := c.toNat
  isAsciiBlank c || code == 0x85 || code == 0xA0 || code == 0x1680 ||
    (0x2000 ≤ code && code ≤ 0x200A) || code == 0x2028 || code == 0x2029 || code == 0x202F ||
    code == 0x205F || code == 0x3000

/-- Whether a character is white space: a blank or one of the four separators among the controls. -/
def isSpace (c : Char) : Bool :=
  isBlank c || (0x1C ≤ c.toNat && c.toNat ≤ 0x1F)

/-- The characters for zero of every decimal digit row of Unicode; the nine characters after each
are its other digits. -/
def digitZeros : List Nat :=
  [0x30, 0x660, 0x6F0, 0x7C0, 0x966, 0x9E6, 0xA66, 0xAE6, 0xB66, 0xBE6, 0xC66, 0xCE6, 0xD66, 0xDE6,
    0xE50, 0xED0, 0xF20, 0x1040, 0x1090, 0x17E0, 0x1810, 0x1946, 0x19D0, 0x1A80, 0x1A90, 0x1B50,
    0x1BB0, 0x1C40, 0x1C50, 0xA620, 0xA8D0, 0xA900, 0xA9D0, 0xA9F0, 0xAA50, 0xABF0, 0xFF10,
    0x104A0, 0x10D30, 0x11066, 0x110F0, 0x11136, 0x111D0, 0x112F0, 0x11450, 0x114D0, 0x11650,
    0x116C0, 0x11730, 0x118E0, 0x11950, 0x11C50, 0x11D50, 0x11DA0, 0x16A60, 0x16AC0, 0x16B50,
    0x1D7CE, 0x1D7D8, 0x1D7E2, 0x1D7EC, 0x1D7F6, 0x1E140, 0x1E2F0, 0x1E950, 0x1FBF0]

/-- The ASCII digit that a decimal digit of any script stands for; other characters are kept. -/
def asciiDigit (c : Char) : Char :=
  match digitZeros.find? fun row => row ≤ c.toNat && c.toNat < row + 10 with
  | some row => Nat.digitChar (c.toNat - row)
  | none => c

namespace Numeral

/-- The characters of a text without the blanks around them. -/
def trimmed (cs : List Char) : List Char :=
  ((cs.dropWhile isBlank).reverse.dropWhile isBlank).reverse

/-- The characters of a text without the blanks around them, digits of all scripts in ASCII. -/
def characters (text : String) : List Char :=
  (trimmed text.toList).map asciiDigit

/-- The characters without underscores; fails unless each underscore stands between two digits.  The
flag tells whether the character before was a digit. -/
def withoutSeparators? : Bool → List Char → Option (List Char)
  | _, [] => some []
  | _, ['_'] => none
  | afterDigit, '_' :: c :: rest =>
    if afterDigit && c.isDigit then (c :: ·) <$> withoutSeparators? true rest else none
  | _, c :: rest => (c :: ·) <$> withoutSeparators? c.isDigit rest

/-- Splits off a leading sign; the flag tells a minus. -/
def splitSign : List Char → Bool × List Char
  | '-' :: rest => (true, rest)
  | '+' :: rest => (false, rest)
  | rest => (false, rest)

/-- The number that a run of digits spells; an empty run spells zero. -/
def digitsValue (digits : List Char) : Nat :=
  digits.foldl (fun value c => 10 * value + (c.toNat - '0'.toNat)) 0

/-- Splits off a signed run of digits, if there is one. -/
def splitInteger? (cs : List Char) : Option (Int × List Char) :=
  let (negative, unsigned) := splitSign cs
  let digits := unsigned.takeWhile Char.isDigit
  if digits.isEmpty then none
  else
    let value : Int := digitsValue digits
    some (if negative then -value else value, unsigned.dropWhile Char.isDigit)

/-- Splits off a signed run of digits that ASCII blanks may precede. -/
def splitPaddedInteger? (cs : List Char) : Option (Int × List Char) :=
  splitInteger? (cs.dropWhile isAsciiBlank)

/-- How many digits an integer may be spelled with. -/
def digitLimit : Nat := 4300

/-- The integer that a text spells. -/
def integer? (text : String) : Option Int := do
  let cs ← withoutSeparators? false (characters text)
  match splitInteger? cs with
  | some (value, []) => if (cs.filter Char.isDigit).length ≤ digitLimit then some value else none
  | _ => none

/-- Splits off an exponent, which is zero where none is spelled in full. -/
def splitExponent (cs : List Char) : Int × List Char :=
  match cs with
  | c :: rest => if c.toLower = 'e' then (splitInteger? rest).getD (0, cs) else (0, cs)
  | [] => (0, cs)

/-- Splits off an unsigned decimal: digits around an optional point, at least one in all, and an
optional exponent. -/
def splitDecimal? (cs : List Char) : Option (Decimal × List Char) :=
  let whole := cs.takeWhile Char.isDigit
  let afterWhole := cs.dropWhile Char.isDigit
  let (fraction, afterFraction) :=
    match afterWhole with
    | '.' :: tail => (tail.takeWhile Char.isDigit, tail.dropWhile Char.isDigit)
    | _ => ([], afterWhole)
  if whole.isEmpty && fraction.isEmpty then none
  else
    let (exponent, rest) := splitExponent afterFraction
    some (⟨digitsValue (whole ++ fraction), exponent - fraction.length⟩, rest)

/-- What follows a word at the head of a text, if it is there in letters of either case. -/
def afterWord? (word : String) (cs : List Char) : Option (List Char) :=
  if word.toList.isPrefixOf (cs.map Char.toLower) then some (cs.drop word.length) else none

/-- Splits off a signed floating-point number or the name of a special value. -/
def splitFloat? (cs : List Char) : Option (Binary .double × List Char) :=
  let (negative, unsigned) := splitSign cs
  let word (name : String) (x : Binary .double) :=
    (afterWord? name unsigned).map fun rest => (x, rest)
  (splitDecimal? unsigned).map (fun (d, rest) => (Binary.ofDecimal negative d, rest)) <|>
    word "infinity" (.infinite negative) <|> word "inf" (.infinite negative) <|> word "nan" .nan

/-- The double that a text spells. -/
def float? (text : String) : Option (Binary .double) := do
  match splitFloat? (← withoutSeparators? false (characters text)) with
  | some (x, []) => some x
  | _ => none

/-- Splits off a floating-point number, or a sign that stands for the unit of its sign. -/
def splitFactor? (cs : List Char) : Option (Binary .double × List Char) :=
  splitFloat? cs <|>
    match cs with
    | '+' :: rest => some (Binary.ofInt 1, rest)
    | '-' :: rest => some (Binary.ofInt (-1), rest)
    | _ => none

/-- Whether characters are the lone letter of the imaginary unit. -/
def isImaginaryUnit : List Char → Bool
  | [c] => c = 'j' || c = 'J'
  | _ => false

/-- The complex number that a sum spells: a real part, an imaginary one or both, where the factor of
the imaginary unit may be left out. -/
def complexSum? (cs : List Char) : Option (Complex .double) :=
  let zero : Binary .double := Binary.signedZero false
  match splitFloat? cs with
  | some (x, []) => some ⟨x, zero⟩
  | some (x, rest) =>
    if isImaginaryUnit rest then some ⟨zero, x⟩
    else if rest.head? = some '+' ∨ rest.head? = some '-' then
      match splitFactor? rest with
      | some (y, tail) => if isImaginaryUnit tail then some ⟨x, y⟩ else none
      | none => none
    else none
  | none =>
    if isImaginaryUnit cs then some ⟨zero, Binary.ofInt 1⟩
    else
      match splitFactor? cs with
      | some (y, tail) => if isImaginaryUnit tail then some ⟨zero, y⟩ else none
      | none => none

/-- The complex number that a text spells; parentheses may surround the sum. -/
def complex? (text : String) : Option (Complex .double) := do
  let cs ← withoutSeparators? false (characters text)
  match cs with
  | '(' :: rest =>
    if rest.getLast? = some ')' then complexSum? (trimmed rest.dropLast) else none
  | cs => complexSum? cs

end Numeral

end StridedReduction

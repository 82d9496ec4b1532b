import StridedReduction.Element.Descriptor

/-!
# Text of elements

How an element is shown in a message, alone or in an array of one element.  The array is written as
the element in as many brackets as there are axes; its floating-point numbers keep at most eight
digits after the point, and the point even where none follow.
-/

namespace StridedReduction

/-- The text of a truth value. -/
def truthText (b : Bool) : String :=
  if b then "True" else "False"

namespace ElementType

/-- The text of an element. -/
def text : (t : ElementType) → t.Carrier → String
  | boolean, x => truthText x
  | integer _, x => toString x.value
  | real _, x => x.text .number
  | complex _, x => x.text

/-- The text of an element together with its type, in the digits that its own format needs. -/
def typedText : (t : ElementType) → t.Carrier → String
  | boolean, x => "np." ++ truthText x ++ "_"
  | integer k, x => "np." ++ (integer k).name ++ "(" ++ toString x.value ++ ")"
  | real f, x => "np." ++ (real f).name ++ "(" ++ x.ownText .number ++ ")"
  | complex f, x => "np." ++ (complex f).name ++ "(" ++ x.sumText (·.ownText .part) ++ ")"

end ElementType

namespace DecimalLayout

/-- Numbers in arrays stand positionally from `1e-4` to below `1e8`; whole ones end in a point. -/
def listed : DecimalLayout := ⟨-4, 7, ".", ".", 2⟩

/-- How many digits a number in an array keeps after the point. -/
def listedDigits : Nat := 8

end DecimalLayout

namespace Decimal

/-- The multiple of `10 ^ exponent` nearest to a quotient, without trailing zero digits. -/
def nearest (numerator denominator : Nat) (exponent : Int) : Decimal :=
  ((neighbours numerator denominator exponent).headD ⟨0, 0⟩).trim

end Decimal

namespace Binary

/-- The text of a number in an array, without its sign. -/
def listedMagnitude {f : Format} : Binary f → String
  | .finite _ units _ =>
    let d := shortest f units
    let layout := DecimalLayout.listed
    let positional := layout.isPositional d.leading
    let least := (if positional then 0 else d.leading) - DecimalLayout.listedDigits
    let kept := if least ≤ d.exponent then d else .nearest units f.one least
    let digits := Nat.toDigits 10 kept.digits
    if positional then layout.positional digits kept.leading
    else layout.scientific digits kept.leading
  | x => x.magnitudeText .listed

/-- The text of a number in an array; a sign before positive numbers is up to the caller. -/
def listedText (plus : String) {f : Format} (x : Binary f) : String :=
  (if x.isNegative then "-" else plus) ++ x.listedMagnitude

end Binary

namespace ElementType

/-- The text of an element in an array. -/
def listedText : (t : ElementType) → t.Carrier → String
  | boolean, x => truthText x
  | integer _, x => toString x.value
  | real _, x => x.listedText ""
  | complex _, x => x.re.listedText "" ++ x.im.listedText "+" ++ "j"

/-- The text of an array of one element with a number of axes. -/
def bracketed (t : ElementType) (rank : Nat) (x : t.Carrier) : String :=
  String.ofList (List.replicate rank '[') ++ t.listedText x ++
    String.ofList (List.replicate rank ']')

end ElementType

end StridedReduction

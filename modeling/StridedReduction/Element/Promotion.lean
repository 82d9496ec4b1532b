import StridedReduction.Element.Basic

/-!
# Promotion of element types

The least type that holds the values of two types, and the conversion of values between types.
-/

namespace StridedReduction

namespace IntegerType

/-- The least integer type that holds both types, if there is one. -/
def join? (left right : IntegerType) : Option IntegerType :=
  if left.signed = right.signed then
    some (if left.logBytes < right.logBytes then right else left)
  else
    let signed := if left.signed then left else right
    let unsigned := if left.signed then right else left
    if unsigned.logBytes < signed.logBytes then some signed
    else if wider : unsigned.logBytes.val + 1 < 4 then
      some ⟨true, ⟨unsigned.logBytes.val + 1, wider⟩⟩
    else none

/-- The least format that holds an integer type, as far as any does. -/
def format (k : IntegerType) : Format :=
  if k.bytes = 1 then .half else if k.bytes = 2 then .single else .double

end IntegerType

namespace Format

/-- The wider of two formats. -/
def join (left right : Format) : Format :=
  if left.width < right.width then right else left

/-- The narrowest format of complex parts that holds a format. -/
def part (f : Format) : Format :=
  f.join .single

end Format

namespace ElementType

/-- The least type that holds the values of both types.  Integers of 64 bits and mixed sign meet in
doubles. -/
def join : ElementType → ElementType → ElementType
  | boolean, right => right
  | left, boolean => left
  | integer left, integer right =>
    match left.join? right with
    | some k => integer k
    | none => real .double
  | integer left, real right => real (left.format.join right)
  | integer left, complex right => complex (left.format.join right).part
  | real left, integer right => real (left.join right.format)
  | real left, real right => real (left.join right)
  | real left, complex right => complex (left.join right)
  | complex left, integer right => complex (left.join right.format)
  | complex left, real right => complex (left.join right)
  | complex left, complex right => complex (left.join right)

/-- The floating-point number nearest to a fixed-width integer; halves are reached through
singles. -/
def realOfWord {k : IntegerType} (f : Format) (word : Word k) : Binary f :=
  match f with
  | .half => (Binary.ofIntDirect word.value : Binary .single).convert
  | .single => Binary.ofIntDirect word.value
  | .double => Binary.ofIntDirect word.value

/-- The integer that a floating-point number is cut to; numbers without one give the least integer
of 64 bits. -/
def wholePart {f : Format} (x : Binary f) : Int :=
  x.truncate?.getD (-(Nat.pow 2 63))

/-- The value of the type `target` that a value of the type `source` is converted to: rounded,
wrapped, cut toward zero, or stripped of its imaginary part. -/
def convert : (source target : ElementType) → source.Carrier → target.Carrier
  | boolean, target, x => if x then target.one else target.zero
  | integer _, boolean, x => decide (x.value ≠ 0)
  | integer _, integer k, x => Word.wrap k x.value
  | integer _, real f, x => realOfWord f x
  | integer _, complex f, x => Complex.ofReal (realOfWord f x)
  | real _, boolean, x => !x.equals (Binary.signedZero false)
  | real _, integer k, x => Word.wrap k (wholePart x)
  | real _, real _, x => x.convert
  | real _, complex _, x => Complex.ofReal x.convert
  | complex _, boolean, x => !x.equals (Complex.ofReal (Binary.signedZero false))
  | complex _, integer k, x => Word.wrap k (wholePart x.re)
  | complex _, real _, x => x.re.convert
  | complex _, complex _, x => x.convert

/-- The value of the type `target` that stands for a value: itself if it is of that type, otherwise
its conversion. -/
def recast (source target : ElementType) (x : source.Carrier) : target.Carrier :=
  if same : source = target then same ▸ x else convert source target x

@[simp] theorem recast_self (t : ElementType) (x : t.Carrier) : recast t t x = x := by
  simp [recast]

end ElementType

end StridedReduction

import StridedReduction.Float.Format

/-!
# Binary floating-point numbers

A number of a format is not-a-number, an infinity, or a signed whole number of units of the format.
Every operation computes its exact result and rounds it once, to nearest with ties to even.  There
is a single not-a-number, and zeros keep their signs.
-/

namespace StridedReduction

/-- A floating-point number of the format `f`. -/
inductive Binary (f : Format)
  /-- The result of an operation without a value. -/
  | nan
  /-- An infinity; the flag tells the negative one. -/
  | infinite (negative : Bool)
  /-- The number of magnitude `units` units; the flag tells a negative number or the negative
  zero. -/
  | finite (negative : Bool) (units : Nat) (representable : f.Representable units)
  deriving DecidableEq

namespace Binary

variable {f : Format}

/-- The number nearest to `numerator / denominator` units, of the given sign; from half a step above
the largest magnitude on it is infinite. -/
def nearest (negative : Bool) (numerator denominator : Nat) : Binary f :=
  if below : roundSignificant f.precision numerator denominator < Nat.pow 2 f.ceiling then
    .finite negative _ (f.representable_roundSignificant below)
  else .infinite negative

/-- The zero of the given sign. -/
def signedZero (negative : Bool) : Binary f :=
  .finite negative 0 f.representable_zero

instance : Inhabited (Binary f) := ⟨signedZero false⟩

/-- A magnitude with a sign. -/
def withSign (negative : Bool) (units : Nat) : Int :=
  if negative then -(units : Int) else units

/-- The number nearest to `total` units; `negativeZero` is the sign of an exact zero. -/
def nearestTotal (negativeZero : Bool) (total : Int) : Binary f :=
  nearest (if total = 0 then negativeZero else decide (total < 0)) total.natAbs 1

/-- Negation flips the sign, of zeros too. -/
protected def neg : Binary f → Binary f
  | .nan => .nan
  | .infinite negative => .infinite (!negative)
  | .finite negative units representable => .finite (!negative) units representable

/-- The magnitude of a number. -/
def abs : Binary f → Binary f
  | .nan => .nan
  | .infinite _ => .infinite false
  | .finite _ units representable => .finite false units representable

/-- The rounded sum.  A zero sum is negative only when both terms are. -/
protected def add : Binary f → Binary f → Binary f
  | .nan, _ => .nan
  | _, .nan => .nan
  | .infinite left, .infinite right => if left = right then .infinite left else .nan
  | .infinite left, .finite .. => .infinite left
  | .finite .., .infinite right => .infinite right
  | .finite left leftUnits _, .finite right rightUnits _ =>
    nearestTotal (left && right) (withSign left leftUnits + withSign right rightUnits)

/-- The rounded difference, the sum with the negated number. -/
protected def sub (left right : Binary f) : Binary f :=
  left.add right.neg

/-- The rounded product. -/
protected def mul : Binary f → Binary f → Binary f
  | .nan, _ => .nan
  | _, .nan => .nan
  | .infinite left, .infinite right => .infinite (left ^^ right)
  | .infinite left, .finite right units _ => if units = 0 then .nan else .infinite (left ^^ right)
  | .finite left units _, .infinite right => if units = 0 then .nan else .infinite (left ^^ right)
  | .finite left leftUnits _, .finite right rightUnits _ =>
    nearest (left ^^ right) (leftUnits * rightUnits) f.one

/-- The rounded quotient.  A nonzero number over a zero is infinite. -/
protected def div : Binary f → Binary f → Binary f
  | .nan, _ => .nan
  | _, .nan => .nan
  | .infinite _, .infinite _ => .nan
  | .infinite left, .finite right _ _ => .infinite (left ^^ right)
  | .finite left _ _, .infinite right => signedZero (left ^^ right)
  | .finite left leftUnits _, .finite right rightUnits _ =>
    if rightUnits = 0 then if leftUnits = 0 then .nan else .infinite (left ^^ right)
    else nearest (left ^^ right) (leftUnits * f.one) rightUnits

/-- The rounded square root.  Zeros are their own roots and negative numbers have none.  A root that
is not a whole number of units is rounded as if it lay half a unit above the whole one; it has so
many digits that this moves no rounding. -/
def sqrt : Binary f → Binary f
  | .nan => .nan
  | .infinite negative => if negative then .nan else .infinite false
  | .finite negative units representable =>
    if units = 0 then .finite negative units representable
    else if negative then .nan
    else
      let radicand := units * f.one
      let root := squareRoot radicand
      nearest false (2 * root + if root * root = radicand then 0 else 1) 2

instance : Neg (Binary f) := ⟨Binary.neg⟩
instance : Add (Binary f) := ⟨Binary.add⟩
instance : Sub (Binary f) := ⟨Binary.sub⟩
instance : Mul (Binary f) := ⟨Binary.mul⟩
instance : Div (Binary f) := ⟨Binary.div⟩

theorem sub_eq_add_neg (left right : Binary f) : left - right = left + -right := rfl

/-- Whether a number is not-a-number. -/
def isNaN : Binary f → Bool
  | .nan => true
  | _ => false

/-- Numerical `<`; false when either side is not-a-number. -/
def lt : Binary f → Binary f → Bool
  | .nan, _ => false
  | _, .nan => false
  | .infinite left, .infinite right => left && !right
  | .infinite left, .finite .. => left
  | .finite .., .infinite right => !right
  | .finite left leftUnits _, .finite right rightUnits _ =>
    withSign left leftUnits < withSign right rightUnits

/-- Numerical equality; the two zeros are equal and not-a-number equals nothing. -/
def equals : Binary f → Binary f → Bool
  | .infinite left, .infinite right => left == right
  | .finite left leftUnits _, .finite right rightUnits _ =>
    withSign left leftUnits == withSign right rightUnits
  | _, _ => false

/-- Numerical `≤`; false when either side is not-a-number. -/
def le (left right : Binary f) : Bool :=
  left.lt right || left.equals right

/-- Whether the first of two equal numbers is kept: halves keep it, and the second otherwise, which
tells only zeros apart. -/
def keepsFirst (left right : Binary f) : Bool :=
  f = .half && left.equals right

/-- The greater number; not-a-number wins. -/
def maximum (left right : Binary f) : Binary f :=
  if left.isNaN || right.lt left || left.keepsFirst right then left else right

/-- The smaller number; not-a-number wins. -/
def minimum (left right : Binary f) : Binary f :=
  if left.isNaN || left.lt right || left.keepsFirst right then left else right

/-- The number of the format `g` nearest to a number of the format `f`. -/
def convert {g : Format} : Binary f → Binary g
  | .nan => .nan
  | .infinite negative => .infinite negative
  | .finite negative units _ => nearest negative (units * g.one) f.one

/-- The number nearest to an integer. -/
def ofIntDirect (value : Int) : Binary f :=
  nearest (decide (value < 0)) (value.natAbs * f.one) 1

/-- The number that stands for an integer: the nearest double, rounded once more to the format. -/
def ofInt (value : Int) : Binary f :=
  (ofIntDirect value : Binary .double).convert

instance : NatCast (Binary f) := ⟨fun count => ofInt count⟩

/-- The whole part of a finite number, fractions dropped toward zero. -/
def truncate? : Binary f → Option Int
  | .finite negative units _ => some (withSign negative (units / f.one))
  | _ => none

/-- Whether a number is neither infinite nor not-a-number. -/
def isFinite : Binary f → Bool
  | .finite .. => true
  | _ => false

end Binary

end StridedReduction

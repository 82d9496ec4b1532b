import StridedReduction.Complex
import StridedReduction.Word

/-!
# Element types

The types that array elements come in, the values of each, and the operations folded over them.
-/

namespace StridedReduction

/-- The type of an array's elements. -/
inductive ElementType
  /-- Truth values. -/
  | boolean
  /-- Fixed-width integers. -/
  | integer (k : IntegerType)
  /-- Floating-point numbers. -/
  | real (f : Format)
  /-- Complex numbers of floating-point parts. -/
  | complex (f : Format)
  deriving DecidableEq, Repr

namespace ElementType

/-- The values of an element type. -/
@[reducible] def Carrier : ElementType → Type
  | boolean => Bool
  | integer k => Word k
  | real f => Binary f
  | complex f => Complex f

instance instDecidableEqCarrier : (t : ElementType) → DecidableEq t.Carrier
  | boolean => inferInstanceAs (DecidableEq Bool)
  | integer k => inferInstanceAs (DecidableEq (Word k))
  | real f => inferInstanceAs (DecidableEq (Binary f))
  | complex f => inferInstanceAs (DecidableEq (Complex f))

/-- The value that stands for zero, or for false. -/
def zero : (t : ElementType) → t.Carrier
  | boolean => false
  | integer k => Word.wrap k 0
  | real _ => Binary.ofInt 0
  | complex _ => Complex.ofReal (Binary.ofInt 0)

/-- The value that stands for one, or for true. -/
def one : (t : ElementType) → t.Carrier
  | boolean => true
  | integer k => Word.wrap k 1
  | real _ => Binary.ofInt 1
  | complex _ => Complex.ofReal (Binary.ofInt 1)

instance instInhabitedCarrier (t : ElementType) : Inhabited t.Carrier := ⟨t.zero⟩

/-- The sum of two values; of truth values, whether either is true. -/
def add : (t : ElementType) → t.Carrier → t.Carrier → t.Carrier
  | boolean => or
  | integer _ => fun left right => left + right
  | real _ => fun left right => left + right
  | complex _ => fun left right => left + right

/-- The product of two values; of truth values, whether both are true. -/
def mul : (t : ElementType) → t.Carrier → t.Carrier → t.Carrier
  | boolean => and
  | integer _ => fun left right => left * right
  | real _ => fun left right => left * right
  | complex _ => fun left right => left * right

/-- The difference of two values; truth values have none. -/
def sub? : (t : ElementType) → Option (t.Carrier → t.Carrier → t.Carrier)
  | boolean => none
  | integer _ => some fun left right => left - right
  | real _ => some fun left right => left - right
  | complex _ => some fun left right => left - right

/-- The greater of two values. -/
def maximum : (t : ElementType) → t.Carrier → t.Carrier → t.Carrier
  | boolean => or
  | integer _ => Word.maximum
  | real _ => Binary.maximum
  | complex _ => Complex.maximum

/-- The smaller of two values. -/
def minimum : (t : ElementType) → t.Carrier → t.Carrier → t.Carrier
  | boolean => and
  | integer _ => Word.minimum
  | real _ => Binary.minimum
  | complex _ => Complex.minimum

end ElementType

/-- The two reductions of an array to one value. -/
inductive Reduction
  /-- The sum of the elements. -/
  | sum
  /-- The product of the elements. -/
  | product
  deriving DecidableEq, Repr

namespace Reduction

/-- The operation that a reduction folds with. -/
def operation : Reduction → (t : ElementType) → t.Carrier → t.Carrier → t.Carrier
  | sum => ElementType.add
  | product => ElementType.mul

/-- The value that a reduction starts from. -/
def identity : Reduction → (t : ElementType) → t.Carrier
  | sum => ElementType.zero
  | product => ElementType.one

end Reduction

/-- The operations that apply to pairs of elements. -/
inductive ElementwiseOperation
  | add
  | subtract
  | multiply
  | maximum
  | minimum
  deriving DecidableEq, Repr

namespace ElementwiseOperation

/-- The operation on values of a type; truth values cannot be subtracted. -/
def on? : ElementwiseOperation → (t : ElementType) → Option (t.Carrier → t.Carrier → t.Carrier)
  | add, t => some t.add
  | subtract, t => t.sub?
  | multiply, t => some t.mul
  | maximum, t => some t.maximum
  | minimum, t => some t.minimum

end ElementwiseOperation

end StridedReduction

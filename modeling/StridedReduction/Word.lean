/-!
# Fixed-width integers

The integers of a fixed width, signed or not.  Arithmetic is that of the integers, wrapped back into
the range by a multiple of `2 ^ bits`.
-/

namespace StridedReduction

/-- A fixed-width integer type. -/
structure IntegerType where
  /-- Whether negative numbers are held. -/
  signed : Bool
  /-- The number of bytes is `2 ^ logBytes`. -/
  logBytes : Fin 4
  deriving DecidableEq, Repr

namespace IntegerType

/-- The type of one byte, signed or not. -/
def oneByte (signed : Bool) : IntegerType := ⟨signed, 0⟩

/-- The type of two bytes, signed or not. -/
def twoBytes (signed : Bool) : IntegerType := ⟨signed, 1⟩

/-- The type of four bytes, signed or not. -/
def fourBytes (signed : Bool) : IntegerType := ⟨signed, 2⟩

/-- The type of eight bytes, signed or not. -/
def eightBytes (signed : Bool) : IntegerType := ⟨signed, 3⟩

/-- Width in bytes. -/
def bytes (k : IntegerType) : Nat :=
  Nat.pow 2 k.logBytes.val

/-- Width in bits. -/
def bits (k : IntegerType) : Nat :=
  8 * k.bytes

/-- How many integers the type holds. -/
def modulus (k : IntegerType) : Nat :=
  Nat.pow 2 k.bits

/-- The least integer of the type. -/
def least (k : IntegerType) : Int :=
  if k.signed then -(Nat.pow 2 (k.bits - 1)) else 0

/-- The greatest integer of the type. -/
def greatest (k : IntegerType) : Int :=
  k.least + k.modulus - 1

/-- Whether an integer is in the range of the type. -/
def Contains (k : IntegerType) (value : Int) : Prop :=
  k.least ≤ value ∧ value ≤ k.greatest

instance (k : IntegerType) (value : Int) : Decidable (k.Contains value) :=
  inferInstanceAs (Decidable (_ ∧ _))

/-- Whether an integer fits the machine word that integers are read through on their way to the
type: unsigned for the wider unsigned types, signed for all others. -/
def Reads (k : IntegerType) (value : Int) : Prop :=
  -(Nat.pow 2 63) ≤ value ∧
    value < if k.signed || k.bits < 32 then Nat.pow 2 63 else Nat.pow 2 64

instance (k : IntegerType) (value : Int) : Decidable (k.Reads value) :=
  inferInstanceAs (Decidable (_ ∧ _))

/-- The integer of the range that differs from `value` by a multiple of the modulus. -/
def wrap (k : IntegerType) (value : Int) : Int :=
  (value - k.least) % k.modulus + k.least

theorem modulus_pos (k : IntegerType) : (0 : Int) < k.modulus :=
  Int.natCast_pos.2 (Nat.two_pow_pos _)

theorem contains_wrap (k : IntegerType) (value : Int) : k.Contains (k.wrap value) := by
  have lower := Int.emod_nonneg (value - k.least) (Int.ne_of_gt k.modulus_pos)
  have upper := Int.emod_lt_of_pos (value - k.least) k.modulus_pos
  unfold Contains wrap greatest
  omega

theorem wrap_of_contains {k : IntegerType} {value : Int} (within : k.Contains value) :
    k.wrap value = value := by
  unfold Contains greatest at within
  unfold wrap
  rw [Int.emod_eq_of_lt (by omega) (by omega)]
  omega

theorem least_nonpos (k : IntegerType) : k.least ≤ 0 := by
  unfold least
  split <;> omega

theorem contains_natCast {k : IntegerType} {count : Nat} (countable : (count : Int) ≤ k.greatest) :
    k.Contains count :=
  ⟨Int.le_trans k.least_nonpos (Int.natCast_nonneg count), countable⟩

end IntegerType

/-- An integer of the type `k`. -/
structure Word (k : IntegerType) where
  /-- The integer itself. -/
  value : Int
  /-- It is in the range of its type. -/
  contains : k.Contains value
  deriving DecidableEq

namespace Word

variable {k : IntegerType}

@[ext] theorem ext {left right : Word k} (same : left.value = right.value) : left = right := by
  cases left
  cases right
  cases same
  rfl

/-- The word that an integer wraps to. -/
def wrap (k : IntegerType) (value : Int) : Word k :=
  ⟨k.wrap value, k.contains_wrap value⟩

/-- The word of an integer in the range of the type. -/
def ofInt? (k : IntegerType) (value : Int) : Option (Word k) :=
  if within : k.Contains value then some ⟨value, within⟩ else none

@[simp] theorem value_wrap (value : Int) : (wrap k value).value = k.wrap value := rfl

@[simp] theorem wrap_value (word : Word k) : wrap k word.value = word :=
  ext (IntegerType.wrap_of_contains word.contains)

instance : Inhabited (Word k) := ⟨wrap k 0⟩
instance : NatCast (Word k) := ⟨fun count => wrap k count⟩
instance : Add (Word k) := ⟨fun left right => wrap k (left.value + right.value)⟩
instance : Sub (Word k) := ⟨fun left right => wrap k (left.value - right.value)⟩
instance : Mul (Word k) := ⟨fun left right => wrap k (left.value * right.value)⟩

theorem value_add (left right : Word k) :
    (left + right).value = k.wrap (left.value + right.value) := rfl

/-- The quotient rounded down; over zero it is zero. -/
def floorDiv (left right : Word k) : Word k :=
  wrap k (left.value.fdiv right.value)

/-- What the quotient rounded down leaves over, of the sign of the divisor; over zero it is zero. -/
def floorMod (left right : Word k) : Word k :=
  if right.value = 0 then wrap k 0 else wrap k (left.value.fmod right.value)

/-- The quotient rounded down, plus one for a negative dividend that the divisor does not divide.
Over a positive divisor it is the quotient rounded toward zero. -/
def divide (left right : Word k) : Word k :=
  let roundUp : Int := if (left.floorMod right).value ≠ 0 ∧ left.value < 0 then 1 else 0
  left.floorDiv right + wrap k roundUp

/-- The greater of two words. -/
def maximum (left right : Word k) : Word k :=
  if right.value < left.value then left else right

/-- The smaller of two words. -/
def minimum (left right : Word k) : Word k :=
  if left.value < right.value then left else right

end Word

end StridedReduction

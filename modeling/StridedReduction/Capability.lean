import StridedReduction.Element.ItemType

/-!
# Capabilities

What the items of a type offer, what each operation on arrays needs, and what is missing between
the two.
-/

namespace StridedReduction

/-- One thing that elements can do. -/
inductive Capability
  /-- There is a zero. -/
  | zero
  /-- There is a one. -/
  | one
  /-- Elements add. -/
  | add
  /-- Elements subtract. -/
  | subtract
  /-- Elements multiply. -/
  | multiply
  /-- Elements divide. -/
  | divide
  /-- Elements are ordered. -/
  | order
  /-- Elements have square roots. -/
  | squareRoot
  /-- Counts convert to elements. -/
  | fromCount
  deriving DecidableEq, Repr

namespace Capability

/-- All capabilities, in the order of their bits. -/
def all : List Capability :=
  [zero, one, add, subtract, multiply, divide, order, squareRoot, fromCount]

/-- The name of a capability. -/
def name : Capability → String
  | zero => "ZERO"
  | one => "ONE"
  | add => "ADD"
  | subtract => "SUB"
  | multiply => "MUL"
  | divide => "DIV"
  | order => "ORDER"
  | squareRoot => "SQRT"
  | fromCount => "FROM_COUNT"

/-- The bit that stands for a capability in a mask. -/
def bit (c : Capability) : Nat :=
  Nat.pow 2 (all.idxOf c)

theorem mem_all (c : Capability) : c ∈ all := by
  cases c <;> decide

/-- The capabilities of numbers that neither compare nor have roots. -/
def arithmetic : List Capability :=
  [zero, one, add, subtract, multiply, divide, fromCount]

/-- The mask of a list of capabilities. -/
def mask (capabilities : List Capability) : Nat :=
  (capabilities.map bit).foldr (· + ·) 0

end Capability

namespace ElementType

/-- What the elements of a type can do. -/
def capabilities : ElementType → List Capability
  | boolean => []
  | integer _ => .order :: Capability.arithmetic
  | real _ => .order :: .squareRoot :: Capability.arithmetic
  | complex _ => Capability.arithmetic

end ElementType

namespace DataType

/-- What the items of a data type can do. -/
def capabilities : DataType → List Capability
  | element t => t.capabilities
  | extendedReal => (ElementType.real .double).capabilities
  | extendedComplex => (ElementType.complex .double).capabilities
  | _ => []

end DataType

namespace ItemType

/-- What items can do, where only plain ones can do anything. -/
def capabilities : ItemType → List Capability
  | plain d => d.type.capabilities
  | _ => []

end ItemType

/-- An operation on arrays. -/
inductive Operation
  | sum
  | sumAxis
  | product
  | productAxis
  | cumulativeProduct
  | mean
  | meanAxis
  | difference
  | variance
  | deviation
  | varianceAxis
  | deviationAxis
  deriving DecidableEq, Repr

namespace Operation

/-- All operations. -/
def all : List Operation :=
  [sum, sumAxis, product, productAxis, cumulativeProduct, mean, meanAxis, difference, variance,
    deviation, varianceAxis, deviationAxis]

/-- The name of an operation. -/
def name : Operation → String
  | sum => "sum"
  | sumAxis => "sum_axis"
  | product => "product"
  | productAxis => "product_axis"
  | cumulativeProduct => "cumprod"
  | mean => "mean"
  | meanAxis => "mean_axis"
  | difference => "diff"
  | variance => "var"
  | deviation => "std"
  | varianceAxis => "var_axis"
  | deviationAxis => "std_axis"

/-- The operation of a name. -/
def ofName? (name : String) : Option Operation :=
  all.find? (·.name = name)

/-- The capabilities that an operation needs. -/
def requirements : Operation → List Capability
  | sum => [.zero, .add]
  | sumAxis => [.zero, .add]
  | product => [.one, .multiply]
  | productAxis => [.one, .multiply]
  | cumulativeProduct => [.one, .multiply]
  | mean => [.zero, .add, .divide, .fromCount]
  | meanAxis => [.zero, .add, .divide, .fromCount]
  | difference => [.zero, .subtract]
  | variance => .order :: .squareRoot :: Capability.arithmetic
  | deviation => .order :: .squareRoot :: Capability.arithmetic
  | varianceAxis => .order :: .squareRoot :: Capability.arithmetic
  | deviationAxis => .order :: .squareRoot :: Capability.arithmetic

/-- The capabilities that an operation needs and that are not offered, by their bits in order. -/
def missing (operation : Operation) (offered : List Capability) : List Capability :=
  Capability.all.filter fun c => c ∈ operation.requirements && c ∉ offered

theorem mem_missing {operation : Operation} {offered : List Capability} {c : Capability} :
    c ∈ operation.missing offered ↔ c ∈ operation.requirements ∧ c ∉ offered := by
  simp [missing, Capability.mem_all]

end Operation

end StridedReduction

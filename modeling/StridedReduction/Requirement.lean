import StridedReduction.Count
import StridedReduction.Element.Compound

/-!
# Requirements on types of items

What a type of items given by its text offers, and the refusal of types whose items lack what an
operation needs.
-/

namespace StridedReduction

namespace ItemType

/-- The type of items that a text spells. -/
def read (text : String) : Except Failure ItemType :=
  (parse text).mapError .misspelled

/-- Whether items have operations at all, whatever their byte order. -/
def isSupported (type : ItemType) : Except Failure Bool := do
  return (← type.machineOrdered).elementType?.isSome

/-- The mask of what items can do. -/
def capabilityMask (type : ItemType) : Nat :=
  Capability.mask type.capabilities

/-- The value that a reduction of items starts from, with the type of the value. -/
def identity (type : ItemType) (code : Reduction) :
    Except Failure ((t : ElementType) × t.Carrier) :=
  match type with
  | plain ⟨.element t, _⟩ => .ok ⟨t, code.identity t⟩
  | plain ⟨.instant _, _⟩ => .error .unitlessInstant
  | type => .error (.unsupportedType type)

end ItemType

namespace Operation

/-- Refuses types whose items lack what an operation needs. -/
def check (operation : Operation) (type : ItemType) : Except Failure Unit := do
  if !(← type.isSupported) then throw (.unsupportedType type)
  if operation.missing type.capabilities ≠ [] then throw (.missingCapabilities operation type)

/-- The check of the operation of a name on a type given by its text. -/
def checkNamed (name type : String) : Except Failure Unit :=
  match ofName? name with
  | none => .error .unlistedOperation
  | some operation => do operation.check (← ItemType.read type)

/-- The names of what the operation of a name lacks in a type given by its text. -/
def missingNames (name type : String) : Except Failure (List String) :=
  match ofName? name with
  | none => .error (.unknownOperation name)
  | some operation => do
    return (operation.missing (← ItemType.read type).capabilities).map Capability.name

end Operation

end StridedReduction

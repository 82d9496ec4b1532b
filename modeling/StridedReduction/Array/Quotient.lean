import StridedReduction.Array.Operations

/-!
# Quotients by a count

The quotient of an element or of an array by a count.  Truth values have no quotients of their own
type, so theirs are doubles.  An array keeps its type, and its quotients by a count of another type
are found in the type that holds both and then stored, if values of that type may be.
-/

namespace StridedReduction

namespace ElementType

/-- The type that quotients by a count of another type are found in. -/
def quotientType (t count : ElementType) : ElementType :=
  match t, t.join count with
  | _, boolean => real .double
  | boolean, integer _ => real .double
  | _, common => common

/-- The place of a type in the order of kinds. -/
def kindRank : ElementType → Nat
  | boolean => 0
  | integer k => if k.signed then 2 else 1
  | real _ => 3
  | complex _ => 4

/-- Whether values of a type may be stored in another: in one of the same kind or a later one. -/
def StoresIn (t holder : ElementType) : Prop :=
  t.kindRank ≤ holder.kindRank

instance (t holder : ElementType) : Decidable (t.StoresIn holder) :=
  inferInstanceAs (Decidable (_ ≤ _))

/-- The quotient of an element by a count of another type, with the type that it is found in. -/
def quotient (t source : ElementType) (value : t.Carrier) (count : source.Carrier) :
    (common : ElementType) × common.Carrier :=
  let common := t.quotientType source
  ⟨common, common.divideByCount (t.recast common value) (source.recast common count)⟩

/-- Why the quotients by a count of another type cannot be stored in their place, if they cannot. -/
def quotientFault? (t source : ElementType) (holder : ItemType) : Option Failure :=
  let common := t.quotientType source
  match t, common with
  | integer _, complex _ => some (.unsupportedOperands "remainder")
  | integer _, _ =>
    if common.StoresIn t then none else some (.resultUnstorable "floor_divide" common holder)
  | _, _ => if common.StoresIn t then none else some (.resultUnstorable "divide" common holder)

end ElementType

namespace AnyArray

/-- The quotients of the elements by a count, which may be an element of another type. -/
def divideByCount (a : AnyArray) (source : ElementType) (count : source.Carrier) :
    Except Failure AnyArray :=
  match a with
  | elements t swapped data =>
    match t.quotientFault? source a.itemType with
    | some fault => .error fault
    | none =>
      .ok (elements t swapped (data.modify fun value =>
        let ⟨common, result⟩ := t.quotient source value count
        common.recast t result))
  | items type _ => .error (.unsupportedType type)

end AnyArray

end StridedReduction

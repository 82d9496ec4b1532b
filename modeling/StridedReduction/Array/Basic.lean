import StridedReduction.Element.Promotion
import StridedReduction.Failure
import StridedReduction.Strided

/-!
# Arrays of declared types

An array as callers hand it over: strided elements of an element type, or an array of items without
operations, of which only the view is known.

Nested lists are taken for arrays: dense ones of the shape of the lists and of the data type that
holds all their leaves.  Lists nest as deeply as their first leaf; a list or a leaf at another
depth, or a list of another length than the first at its depth, makes the nesting ragged.
-/

namespace StridedReduction

/-- An array of a declared type. -/
inductive AnyArray
  /-- Elements of the type `t`, stored with swapped bytes or not. -/
  | elements (t : ElementType) (swapped : Bool) (data : Strided t.Carrier)
  /-- Items without operations. -/
  | items (type : ItemType) (view : View)

namespace AnyArray

/-- The type of the items. -/
def itemType : AnyArray → ItemType
  | elements t swapped _ => .plain (.ordered (.element t) swapped)
  | items type _ => type

/-- The logical array over the cells of the buffer. -/
def view : AnyArray → View
  | elements _ _ data => data.view
  | items _ view => view

/-- The same buffer seen through another view. -/
def through (a : AnyArray) (view : View) : AnyArray :=
  match a with
  | elements t swapped data => elements t swapped (data.through view)
  | items type _ => items type view

/-- The array of a type over zeros.  Text without a length gets one of a single character. -/
def zeros (type : ItemType) (view : View) (cells : Nat) : AnyArray :=
  match type with
  | .plain ⟨.element t, swapped⟩ => elements t swapped ⟨Array.replicate cells t.zero, view⟩
  | .plain ⟨.text 0, swapped⟩ => items (.plain ⟨.text 1, swapped⟩) view
  | .plain ⟨.byteString 0, swapped⟩ => items (.plain ⟨.byteString 1, swapped⟩) view
  | type => items type view

/-- The dense array of a type over zeros.  Grids add their extents to the shape. -/
def denseZeros (type : ItemType) (shape : List Nat) : AnyArray :=
  let shape := shape ++ type.contentExtents
  zeros type.content (.dense shape) (extentProduct shape)

end AnyArray

namespace DataType

/-- How many characters the texts of the elements of a type take. -/
def textLength : ElementType → Nat
  | .boolean => 5
  | .integer k =>
    match k.bytes, k.signed with
    | 1, true => 4
    | 1, false => 3
    | 2, true => 6
    | 2, false => 5
    | 4, true => 11
    | 4, false => 10
    | _, true => 21
    | _, false => 20
  | .real _ => 32
  | .complex _ => 64

/-- The least data type that holds the items of both types, where leaves of lists have them. -/
def join : DataType → DataType → DataType
  | element left, element right => element (left.join right)
  | text left, text right => text (max left right)
  | text length, element t => text (max length (textLength t))
  | element t, text length => text (max length (textLength t))
  | _, _ => object

end DataType

namespace Argument

/-- The data type of a leaf. -/
def leafType : Argument → DataType
  | boolean _ => .element .boolean
  | integer value =>
    let signed := IntegerType.eightBytes true
    let unsigned := IntegerType.eightBytes false
    if signed.Contains value then .element (.integer signed)
    else if unsigned.Contains value then .element (.integer unsigned)
    else .object
  | float _ => .element (.real .double)
  | complex _ => .element (.complex .double)
  | text value => .text value.length
  | element t _ => .element t
  | none => .object
  | mapping => .object
  | list _ => .object

mutual

/-- The leaves in order. -/
def leaves : Argument → List Argument
  | list items => leavesOf items
  | leaf => [leaf]

/-- The leaves of several values in order. -/
def leavesOf : List Argument → List Argument
  | [] => []
  | item :: items => item.leaves ++ leavesOf items

end

/-- How deeply lists may nest. -/
def depthLimit : Nat := 64

/-- The shape found so far of nested lists. -/
structure Nesting where
  /-- The extents of the depths met so far. -/
  shape : List Nat
  /-- The depth that leaves lie at, as far as it is known. -/
  depth : Nat
  /-- Whether a leaf or an empty list has been met, so that the shape is settled. -/
  settled : Bool
  /-- Whether the nesting is ragged. -/
  ragged : Bool

namespace Nesting

/-- Nothing met yet. -/
def start : Nesting :=
  ⟨[], depthLimit, false, false⟩

/-- A leaf at a depth. -/
def leaf (n : Nesting) (depth : Nat) : Nesting :=
  if n.depth = depth then { n with settled := true }
  else { n with depth, ragged := n.ragged || n.settled, settled := true }

/-- A list of a length at a depth above the limit; the flag tells whether its items are to be
visited. -/
def enter (n : Nesting) (depth length : Nat) : Nesting × Bool :=
  if !n.settled then
    let shape := n.shape.take depth ++ [length]
    if length = 0 then ({ n with shape, depth := depth + 1, settled := true }, false)
    else ({ n with shape }, true)
  else if n.shape.getD depth 0 = length then (n, true)
  else ({ n with depth, ragged := true }, false)

end Nesting

mutual

/-- The nesting after a value at a depth. -/
def nest (depth : Nat) (n : Nesting) : Argument → Nesting
  | list items =>
    if depth = n.depth then { n.leaf depth with ragged := true }
    else
      match n.enter depth items.length with
      | (n, true) => nestAll (depth + 1) n items
      | (n, false) => n
  | _ => n.leaf depth

/-- The nesting after several values at a depth. -/
def nestAll (depth : Nat) (n : Nesting) : List Argument → Nesting
  | [] => n
  | item :: items => nestAll depth (item.nest depth n) items

end

/-- The leaves as elements of a type; a leaf that is no number counts as zero. -/
def elementsOf (t : ElementType) (leaves : List Argument) : List t.Carrier :=
  leaves.map fun leaf => (leaf.toElement t).toOption.getD t.zero

/-- The dense array of nested lists. -/
def toArray (value : Argument) : Except Failure AnyArray :=
  let n := value.nest 0 Nesting.start
  let shape := n.shape.take n.depth
  if n.ragged then
    .error (if n.depth = depthLimit then .nestedTooDeeply depthLimit else .ragged shape)
  else
    let leaves := value.leaves
    let type : DataType :=
      match leaves with
      | [] => .element (.real .double)
      | leaf :: rest => rest.foldl (fun type leaf => type.join leaf.leafType) leaf.leafType
    match type with
    | .element t => .ok (.elements t false (.ofList shape (elementsOf t leaves)))
    | type => .ok (.denseZeros (.plain { type }) shape)

end Argument

end StridedReduction

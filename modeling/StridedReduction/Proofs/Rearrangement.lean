import Mathlib.Logic.Relation
import StridedReduction.Fold
import StridedReduction.Proofs.Checks
import StridedReduction.Proofs.KeptPositions
import StridedReduction.Proofs.MemoryOrder

/-!
# Rearranged views

Changes of the order and the directions of axes, and of axes of a single position.  One of them
meets the same cells in another order (`Rearranges.cells_perm`), hence so do any number of them, and
where the cells form a run the walk in memory order is the same (`memoryOrder_eq_of_perm`).  So what
is folded along that walk is bit for bit the same, whatever the operation
(`reductions_of_rearranged`).
-/

namespace StridedReduction

namespace Slice

/-- All positions, the last one first. -/
def backwards : Slice := { step := some (-1) }

theorem resolve_backwards (extent : Nat) :
    backwards.resolve? extent = some ⟨extent - 1, -1, extent⟩ := by
  have counted : (if (-1 : Int) < extent - 1 then
      (((extent : Int) - 1 - -1 - 1) / 1 + 1).toNat else 0) = extent := by
    split <;> omega
  exact congrArg (fun count => some (Selection.mk (extent - 1) (-1) count)) counted

end Slice

namespace View

/-- The view with an axis of a single position put in, of any stride. -/
def insertUnit (v : View) (axis : Nat) (stride : Int) : View :=
  ⟨v.origin, v.axes.insertIdx axis ⟨1, stride⟩⟩

/-- One change of the order or the direction of axes, or of the axes of a single position. -/
inductive Rearranges : View → View → Prop
  /-- The axes in another order. -/
  | permute (v : View) {order : List Nat} (perm : order.Perm (List.range v.rank)) :
      Rearranges v (v.permute order)
  /-- An axis walked backwards. -/
  | reverse (v : View) {axis : Nat} (within : axis < v.rank) :
      Rearranges v (v.slice axis .backwards)
  /-- An axis of a single position put in. -/
  | insertUnit (v : View) {axis : Nat} (within : axis ≤ v.rank) (stride : Int) :
      Rearranges v (v.insertUnit axis stride)
  /-- An axis of a single position taken out. -/
  | removeUnit (v : View) {axis : Nat} (within : axis < v.rank)
      (single : (v.axis axis).extent = 1) : Rearranges v (v.base axis)

variable {v w : View} {axis : Nat}

theorem cells_permute_perm {order : List Nat} (perm : order.Perm (List.range v.rank)) :
    (v.permute order).cells.Perm v.cells := by
  have reordered : (order.map v.axis).Perm v.axes := v.map_axis_range ▸ perm.map v.axis
  exact cellsFrom_perm reordered v.origin

theorem slice_backwards (v : View) (axis : Nat) :
    v.slice axis .backwards =
      v.select axis ⟨(v.axis axis).extent - 1, -1, (v.axis axis).extent⟩ := by
  rw [slice, Slice.resolve_backwards]

theorem cells_backwards_perm (within : axis < v.rank) :
    (v.slice axis .backwards).cells.Perm v.cells := by
  have there := Slice.within_of_resolve (Slice.resolve_backwards (v.axis axis).extent)
  have listed : axis < v.shape.length := by simpa using within
  have same_shape : v.shape.set axis (v.axis axis).extent = v.shape := by
    rw [← getElem_shape listed, List.set_getElem_self]
  rw [slice_backwards]
  refine (cells_select_subperm within there).perm_of_length_le ?_
  rw [length_cells, length_cells, size, size, shape_select, same_shape]

theorem cells_insertUnit_perm (within : axis ≤ v.rank) (stride : Int) :
    (v.insertUnit axis stride).cells.Perm v.cells := by
  have moved := cellsFrom_perm (List.perm_insertIdx ⟨1, stride⟩ v.axes within) v.origin
  rwa [cellsFrom_unit] at moved

theorem cells_base_perm (within : axis < v.rank) (single : (v.axis axis).extent = 1) :
    (v.base axis).cells.Perm v.cells := by
  have only : v.subviews axis = [v.base axis] := by
    rw [subviews, single]
    simp [fix, base]
  have perm := flatMap_cells_subviews_perm within
  rwa [only, List.flatMap_singleton] at perm

/-- A change meets the cells that were met before. -/
theorem Rearranges.cells_perm (changed : Rearranges v w) : w.cells.Perm v.cells := by
  cases changed with
  | permute order_perm => exact cells_permute_perm order_perm
  | reverse within => exact cells_backwards_perm within
  | insertUnit within stride => exact cells_insertUnit_perm within stride
  | removeUnit within single => exact cells_base_perm within single

/-- So do any number of changes. -/
theorem cells_perm_of_rearranged (rearranged : Relation.ReflTransGen Rearranges v w) :
    w.cells.Perm v.cells := by
  induction rearranged with
  | refl => exact .refl _
  | tail _ changed induction => exact changed.cells_perm.trans induction

end View

namespace Strided

variable {α : Type} [Inhabited α] {a : Strided α}

theorem reduce_eq_interleavedFold (op : α → α → α) (identity : α) {run : View}
    (ordered : a.view.memoryOrder = some run) :
    a.reduce op identity true =
      interleavedFold op identity reductionWidth (a.through run).toList := by
  simp only [reduce, if_true, ordered]

theorem reduce_of_empty (op : α → α → α) (identity : α) (empty : a.view.size = 0) :
    a.reduce op identity true = interleavedFold op identity reductionWidth [] := by
  rw [reduce_eq_interleavedFold op identity (View.memoryOrder_of_empty empty)]
  rfl

/-- An array that can be walked in memory order reduces to the same value, to the last bit, through
every view of the same cells. -/
theorem reduce_through_eq {view : View} (perm : view.cells.Perm a.view.cells)
    (walked : a.view.memoryOrder ≠ none) (op : α → α → α) (identity : α) :
    (a.through view).reduce op identity true = a.reduce op identity true := by
  by_cases empty : a.view.size = 0
  · have size_eq : view.size = a.view.size := by simpa using perm.length_eq
    have view_empty : (a.through view).view.size = 0 := size_eq.trans empty
    rw [reduce_of_empty op identity empty, reduce_of_empty op identity view_empty]
  · obtain ⟨run, ordered⟩ := Option.ne_none_iff_exists'.mp walked
    have view_ordered : (a.through view).view.memoryOrder = some run :=
      (View.memoryOrder_eq_of_perm perm empty).trans ordered
    rw [reduce_eq_interleavedFold op identity ordered,
      reduce_eq_interleavedFold op identity view_ordered]
    rfl

end Strided

namespace AnyArray

/-- Sums, products and means of an array that can be walked in memory order are to the last bit
those of the array with its axes in another order, walked backwards, or with axes of a single
position put in or taken out, because the walk is the same; a mean fails only if the type has no
element for the number of elements. -/
theorem reductions_of_rearranged {t : ElementType} (numeric : t ≠ .boolean) (swapped : Bool)
    (data : Strided t.Carrier) {view : View}
    (rearranged : Relation.ReflTransGen View.Rearranges data.view view)
    (walked : data.view.memoryOrder ≠ none) :
    let a := elements t swapped data
    let b := elements t swapped (data.through view)
    (view.memoryOrder = data.view.memoryOrder ∨ data.view.size = 0 ∧ view.size = 0) ∧
      (∀ code : Reduction, ∃ x : t.Carrier,
        code.whole.apply a = .ok { value := .scalar t x } ∧
          code.whole.apply b = .ok { value := .scalar t x }) ∧
      Call.mean.apply b = Call.mean.apply a ∧
      ∀ failure, Call.mean.apply a = .error failure → t.ofCount data.size = .error failure := by
  intro a b
  have perm := View.cells_perm_of_rearranged rearranged
  have size_eq : view.size = data.view.size := by simpa using perm.length_eq
  refine ⟨?_, ?_, ?_, ?_⟩
  · by_cases empty : data.view.size = 0
    · exact .inr ⟨empty, size_eq.trans empty⟩
    · exact .inl (View.memoryOrder_eq_of_perm perm empty)
  · intro code
    refine ⟨_, apply_whole swapped data code numeric, ?_⟩
    rw [apply_whole swapped _ code numeric, Strided.reduce_through_eq perm walked]
  · have count_eq : (data.through view).size = data.size := size_eq
    change b.mean = a.mean
    rw [mean_elements swapped _ numeric, mean_elements swapped _ numeric, count_eq,
      Strided.reduce_through_eq perm walked]
  · exact fun failure failed => ofCount_eq_of_mean_eq swapped data numeric failed

/-- Halves whose sum depends on the order of the additions, stored row by row: the array with its
rows and columns exchanged, the columns met backwards and another unit axis in between. -/
theorem halves_of_rearranged :
    let t := ElementType.real .half
    let half (value : Int) : t.Carrier := Binary.ofInt value
    let data : Strided t.Carrier :=
      ⟨#[half 2048, half 1, half 1, half (-2048), half 3, half 1],
        ⟨0, [⟨1, 5⟩, ⟨2, 3⟩, ⟨3, 1⟩]⟩⟩
    let view : View := ⟨2, [⟨3, -1⟩, ⟨1, 77⟩, ⟨2, 3⟩]⟩
    let a := elements t false data
    let b := elements t false (data.through view)
    t ≠ .boolean ∧ Relation.ReflTransGen View.Rearranges data.view view ∧
      data.view.memoryOrder ≠ none ∧ view.memoryOrder = data.view.memoryOrder ∧
      (∃ x : t.Carrier, Call.sum.apply a = .ok { value := .scalar t x } ∧
        Call.sum.apply b = .ok { value := .scalar t x }) ∧
      Call.mean.apply b = Call.mean.apply a := by
  intro t half data view a b
  have numeric : t ≠ .boolean := by decide
  have walked : data.view.memoryOrder ≠ none := by decide
  let squeezed := data.view.base 0
  let columns := squeezed.permute [1, 0]
  let backwards := columns.slice 0 .backwards
  have unit_out : data.view.Rearranges squeezed :=
    .removeUnit data.view (by decide) (by decide)
  have exchanged : squeezed.Rearranges columns := .permute squeezed (by decide)
  have reversed : columns.Rearranges backwards := .reverse columns (by decide)
  have unit_in : backwards.Rearranges (backwards.insertUnit 1 77) :=
    .insertUnit backwards (by decide) 77
  have view_eq : backwards.insertUnit 1 77 = view := by decide
  have rearranged : Relation.ReflTransGen View.Rearranges data.view view :=
    view_eq ▸ (((Relation.ReflTransGen.single unit_out).tail exchanged).tail reversed).tail unit_in
  obtain ⟨walks, totals, means, -⟩ := reductions_of_rearranged numeric false data rearranged walked
  have nonempty : data.view.size ≠ 0 := by decide
  exact ⟨numeric, rearranged, walked, walks.resolve_right fun empty => nonempty empty.1,
    totals .sum, means⟩

end AnyArray

end StridedReduction

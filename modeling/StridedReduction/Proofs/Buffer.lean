import StridedReduction.Proofs.Cells
import StridedReduction.Strided

/-!
# Reading and writing cells

A write changes the one cell that it names.  Writes to distinct cells inside the buffer are all read
back (`map_readCell_writeCells`) and every other cell keeps its content
(`readCell_writeCells_of_not_mem`); so an array whose indices address distinct cells holds what is
assigned to it (`toList_assign`).  Arrays made of a list hold that list (`toList_ofList`).
-/

namespace StridedReduction

variable {α : Type}

/-- Whether a cell lies in a buffer. -/
def InBuffer (buffer : Array α) (cell : Int) : Prop :=
  0 ≤ cell ∧ cell < buffer.size

@[simp] theorem size_writeCell (buffer : Array α) (cell : Int) (x : α) :
    (writeCell buffer cell x).size = buffer.size := by
  rw [writeCell]
  split
  · rfl
  · exact Array.size_setIfInBounds

@[simp] theorem size_writeCells (buffer : Array α) (cells : List Int) (xs : List α) :
    (writeCells buffer cells xs).size = buffer.size := by
  induction cells generalizing buffer xs with
  | nil => rfl
  | cons cell cells induction =>
    cases xs with
    | nil => rfl
    | cons x xs => rw [writeCells, induction, size_writeCell]

variable [Inhabited α]

theorem readCell_writeCell_self {buffer : Array α} {cell : Int} (inside : InBuffer buffer cell)
    (x : α) : readCell (writeCell buffer cell x) cell = x := by
  obtain ⟨lower, upper⟩ := inside
  have nonneg : ¬cell < 0 := by omega
  have below : cell.toNat < buffer.size := by omega
  rw [readCell, writeCell, if_neg nonneg, if_neg nonneg, Array.getD_eq_getD_getElem?,
    Array.getElem?_setIfInBounds_self_of_lt below, Option.getD_some]

theorem readCell_writeCell_of_ne (buffer : Array α) {written cell : Int} (other : written ≠ cell)
    (x : α) : readCell (writeCell buffer written x) cell = readCell buffer cell := by
  rw [readCell, readCell, writeCell]
  split
  case isTrue => rfl
  case isFalse nonneg =>
    split
    case isTrue => rfl
    case isFalse written_nonneg =>
      have apart : written.toNat ≠ cell.toNat := by omega
      rw [Array.getD_eq_getD_getElem?, Array.getD_eq_getD_getElem?,
        Array.getElem?_setIfInBounds_ne apart]

theorem readCell_writeCells_of_not_mem (buffer : Array α) {cells : List Int} {cell : Int}
    (absent : cell ∉ cells) (xs : List α) :
    readCell (writeCells buffer cells xs) cell = readCell buffer cell := by
  induction cells generalizing buffer xs with
  | nil => rfl
  | cons written cells induction =>
    cases xs with
    | nil => rfl
    | cons x xs =>
      rw [List.mem_cons, not_or] at absent
      obtain ⟨different, rest_absent⟩ := absent
      rw [writeCells, induction _ rest_absent, readCell_writeCell_of_ne buffer (Ne.symm different)]

/-- What is written to distinct cells is read back. -/
theorem map_readCell_writeCells {buffer : Array α} {cells : List Int} {xs : List α}
    (separate : cells.Nodup) (inside : ∀ cell ∈ cells, InBuffer buffer cell)
    (fits : xs.length = cells.length) :
    cells.map (readCell (writeCells buffer cells xs)) = xs := by
  induction cells generalizing buffer xs with
  | nil => exact (List.length_eq_zero_iff.mp fits).symm
  | cons cell cells induction =>
    cases xs with
    | nil => simp at fits
    | cons x xs =>
      obtain ⟨fresh, rest_separate⟩ := List.nodup_cons.mp separate
      obtain ⟨cell_inside, rest_inside⟩ := List.forall_mem_cons.mp inside
      have still_inside : ∀ rest ∈ cells, InBuffer (writeCell buffer cell x) rest := by
        intro rest member
        rw [InBuffer, size_writeCell]
        exact rest_inside rest member
      rw [writeCells, List.map_cons, readCell_writeCells_of_not_mem _ fresh,
        readCell_writeCell_self cell_inside,
        induction rest_separate still_inside (by simpa using fits)]

namespace Strided

/-- Whether every cell that an array addresses lies in its buffer. -/
def InBounds (a : Strided α) : Prop :=
  ∀ cell ∈ a.view.cells, InBuffer a.buffer cell

section OfList

variable {shape : List Nat} {elements : List α} (fits : elements.length = extentProduct shape)

omit [Inhabited α] in
@[simp] theorem shape_ofList (shape : List Nat) (elements : List α) :
    (ofList shape elements).view.shape = shape :=
  View.shape_dense shape

include fits

omit [Inhabited α] in
theorem inBounds_ofList : (ofList shape elements).InBounds := by
  intro cell member
  rw [ofList, cells_dense, mem_consecutive] at member
  have size_eq : (ofList shape elements).buffer.size = extentProduct shape := by
    rw [ofList, List.size_toArray, fits]
  rw [InBuffer, size_eq]
  omega

theorem toList_ofList : (ofList shape elements).toList = elements := by
  rw [toList, ofList, cells_dense, consecutive, List.map_map, ← fits]
  apply List.ext_getElem
  · simp
  · intro position left_below right_below
    simp [readCell, Array.getD_eq_getD_getElem?, right_below]

end OfList

theorem toList_copy (a : Strided α) : a.copy.toList = a.toList :=
  toList_ofList a.length_toList

/-- An array holds a function of the index when its elements in order are those of the function. -/
theorem get_of_toList_eq {a : Strided α} {element : List Nat → α}
    (listed : a.toList = (indices a.view.shape).map element) {index : List Nat}
    (member : index ∈ indices a.view.shape) : a.get index = element index := by
  rw [toList_eq_map_get] at listed
  exact List.map_inj_left.mp listed index member

/-- A dense array made of a function of the index holds it. -/
theorem get_ofList_map {shape : List Nat} (element : List Nat → α) {index : List Nat}
    (member : index ∈ indices shape) :
    (ofList shape ((indices shape).map element)).get index = element index := by
  apply get_of_toList_eq
  · rw [toList_ofList (by simp), shape_ofList]
  · rwa [shape_ofList]

@[simp] theorem view_modify (a : Strided α) (change : α → α) :
    (a.modify change).view = a.view := rfl

theorem toList_assign {a : Strided α} (separate : a.view.Injective) (inside : a.InBounds)
    {elements : List α} (fits : elements.length = a.size) :
    (a.assign elements).toList = elements :=
  map_readCell_writeCells (View.injective_iff_nodup.mp separate) inside
    (by rw [fits, View.length_cells, size])

theorem toList_modify {a : Strided α} (separate : a.view.Injective) (inside : a.InBounds)
    (change : α → α) : (a.modify change).toList = a.toList.map change :=
  toList_assign separate inside (by rw [List.length_map, length_toList])

theorem get_modify {a : Strided α} (separate : a.view.Injective) (inside : a.InBounds)
    (change : α → α) {index : List Nat} (member : index ∈ indices a.view.shape) :
    (a.modify change).get index = change (a.get index) := by
  have listed : (a.modify change).toList =
      (indices (a.modify change).view.shape).map fun index => change (a.get index) := by
    rw [toList_modify separate inside, toList_eq_map_get, List.map_map]
    rfl
  exact get_of_toList_eq listed member

theorem injective_dense (shape : List Nat) : (View.dense shape).Injective := by
  rw [View.injective_iff_nodup, cells_dense]
  exact nodup_consecutive 0 _

end Strided

end StridedReduction

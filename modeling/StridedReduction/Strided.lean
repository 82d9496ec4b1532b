import StridedReduction.View.Slice

/-!
# Strided arrays

A buffer together with a view of it.  The elements in the order of the indices are `toList`; copies
are dense, and writing through a view changes the cells that it addresses.
-/

namespace StridedReduction

variable {α : Type}

/-- The content of a cell; outside the buffer there is the default element. -/
def readCell [Inhabited α] (buffer : Array α) (cell : Int) : α :=
  if cell < 0 then default else buffer.getD cell.toNat default

/-- The buffer with one cell changed; outside the buffer nothing changes. -/
def writeCell (buffer : Array α) (cell : Int) (x : α) : Array α :=
  if cell < 0 then buffer else buffer.setIfInBounds cell.toNat x

/-- The buffer with cells changed one after the other. -/
def writeCells (buffer : Array α) : List Int → List α → Array α
  | cell :: cells, x :: xs => writeCells (writeCell buffer cell x) cells xs
  | _, _ => buffer

/-- A buffer seen through a view. -/
structure Strided (α : Type) where
  /-- The cells. -/
  buffer : Array α
  /-- The logical array over the cells. -/
  view : View
  deriving Inhabited

namespace Strided

/-- The dense array of a shape with the given elements in the order of the indices. -/
def ofList (shape : List Nat) (elements : List α) : Strided α :=
  ⟨elements.toArray, .dense shape⟩

/-- The same buffer seen through another view. -/
def through (a : Strided α) (view : View) : Strided α :=
  { a with view }

/-- The number of elements. -/
def size (a : Strided α) : Nat :=
  a.view.size

variable [Inhabited α]

/-- The elements in the order of the indices. -/
def toList (a : Strided α) : List α :=
  a.view.cells.map (readCell a.buffer)

@[simp] theorem length_toList (a : Strided α) : a.toList.length = a.size := by
  simp [toList, size]

/-- The element at an index. -/
def get (a : Strided α) (index : List Nat) : α :=
  readCell a.buffer (a.view.cell index)

theorem toList_eq_map_get (a : Strided α) : a.toList = (indices a.view.shape).map a.get := by
  simp [toList, View.cells_eq_map_cell, get]

/-- A dense array with the same elements. -/
def copy (a : Strided α) : Strided α :=
  ofList a.view.shape a.toList

/-- The array with new elements written through its view in the order of the indices. -/
def assign (a : Strided α) (elements : List α) : Strided α :=
  { a with buffer := writeCells a.buffer a.view.cells elements }

/-- The array with every element changed by a function. -/
def modify (a : Strided α) (change : α → α) : Strided α :=
  a.assign (a.toList.map change)

end Strided

end StridedReduction

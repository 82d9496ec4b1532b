/-!
# Views

A view lays a logical array over the cells of a buffer: an axis with extent `n` and stride `s` sends
its position `k < n` to the displacement `k * s`, and the cell of an index is the origin plus the
displacements of its positions.  Strides may be negative or zero, and distinct indices may share a
cell.  The main statement, `cells_eq_map_cell`, reads the cells in the order of the indices.

A view whose cells form one run without gaps or repetitions can be walked as that run, whatever the
order and the directions of its axes (`View.memoryOrder`).
-/

namespace StridedReduction

/-- One axis of a view. -/
structure Axis where
  /-- The number of positions along the axis. -/
  extent : Nat
  /-- The number of cells from one position to the next. -/
  stride : Int
  deriving DecidableEq, Repr, Inhabited

/-- A logical array over the cells of a buffer. -/
structure View where
  /-- The cell of the index whose positions are all zero. -/
  origin : Int
  /-- The axes, the slowest one first. -/
  axes : List Axis
  deriving DecidableEq, Repr, Inhabited

/-- The product of extents. -/
def extentProduct : List Nat → Nat
  | [] => 1
  | extent :: shape => extent * extentProduct shape

/-- Every index into a shape, the last position varying fastest. -/
def indices : List Nat → List (List Nat)
  | [] => [[]]
  | extent :: shape =>
    (List.range extent).flatMap fun position => (indices shape).map (position :: ·)

theorem length_of_mem_indices {shape index : List Nat} (member : index ∈ indices shape) :
    index.length = shape.length := by
  induction shape generalizing index with
  | nil => simp_all [indices]
  | cons extent shape induction =>
    simp only [indices, List.mem_flatMap, List.mem_map] at member
    obtain ⟨position, -, rest, rest_mem, rfl⟩ := member
    simp [induction rest_mem]

@[simp] theorem length_indices (shape : List Nat) :
    (indices shape).length = extentProduct shape := by
  induction shape with
  | nil => rfl
  | cons extent shape induction =>
    simp only [indices, extentProduct, List.length_flatMap, List.length_map, induction,
      List.map_const', List.sum_replicate_nat, List.length_range]

/-- The displacement of an index along axes. -/
def displacement : List Axis → List Nat → Int
  | axis :: axes, position :: index => position * axis.stride + displacement axes index
  | _, _ => 0

/-- The cells of axes from an origin, in the order of the indices. -/
def cellsFrom (origin : Int) : List Axis → List Int
  | [] => [origin]
  | axis :: axes =>
    (List.range axis.extent).flatMap fun (position : Nat) =>
      cellsFrom (origin + position * axis.stride) axes

theorem cellsFrom_eq_map (origin : Int) (axes : List Axis) :
    cellsFrom origin axes =
      (indices (axes.map Axis.extent)).map fun index => origin + displacement axes index := by
  induction axes generalizing origin with
  | nil => simp [cellsFrom, indices, displacement]
  | cons axis axes induction =>
    simp only [cellsFrom, List.map_cons, indices, List.map_flatMap, List.map_map]
    congr 1
    funext position
    rw [induction]
    apply List.map_congr_left
    intro index _
    simp [displacement, Int.add_assoc]

namespace View

/-- The extents of the axes. -/
def shape (v : View) : List Nat :=
  v.axes.map Axis.extent

/-- The number of axes. -/
def rank (v : View) : Nat :=
  v.axes.length

/-- The number of indices. -/
def size (v : View) : Nat :=
  extentProduct v.shape

/-- The cell of an index. -/
def cell (v : View) (index : List Nat) : Int :=
  v.origin + displacement v.axes index

/-- The cells in the order of the indices. -/
def cells (v : View) : List Int :=
  cellsFrom v.origin v.axes

theorem cells_eq_map_cell (v : View) : v.cells = (indices v.shape).map v.cell :=
  cellsFrom_eq_map v.origin v.axes

@[simp] theorem length_cells (v : View) : v.cells.length = v.size := by
  simp [cells_eq_map_cell, size]

@[simp] theorem length_shape (v : View) : v.shape.length = v.rank := by
  simp [shape, rank]

/-- The axis at a position, of extent one if there is none. -/
def axis (v : View) (position : Nat) : Axis :=
  v.axes.getD position ⟨1, 0⟩

/-- The axes of a shape laid out without gaps, the last axis fastest.  Axes without positions count
as one position wide. -/
def denseAxes : List Nat → List Axis
  | [] => []
  | extent :: shape => ⟨extent, extentProduct (shape.filter (· ≠ 0))⟩ :: denseAxes shape

/-- The view of a shape over a buffer of its own. -/
def dense (shape : List Nat) : View :=
  ⟨0, denseAxes shape⟩

@[simp] theorem shape_dense (shape : List Nat) : (dense shape).shape = shape := by
  simp only [dense, View.shape]
  induction shape with
  | nil => rfl
  | cons extent shape induction => simp [denseAxes, induction]

/-- The sub-view at one position of an axis, which it no longer has. -/
def fix (v : View) (axis position : Nat) : View :=
  ⟨v.origin + position * (v.axis axis).stride, v.axes.eraseIdx axis⟩

/-- The sub-views along an axis, in order. -/
def subviews (v : View) (axis : Nat) : List View :=
  (List.range (v.axis axis).extent).map (v.fix axis)

/-- The view of the first position of an axis, which it no longer has. -/
def base (v : View) (axis : Nat) : View :=
  ⟨v.origin, v.axes.eraseIdx axis⟩

/-- The lane along an axis at an index of the remaining axes. -/
def lane (v : View) (axis : Nat) (index : List Nat) : View :=
  ⟨(v.base axis).cell index, [v.axis axis]⟩

/-- The lanes along an axis with their indices, in order. -/
def lanes (v : View) (axis : Nat) : List (List Nat × View) :=
  (indices (v.base axis).shape).map fun index => (index, v.lane axis index)

/-- The rows of axes from an origin: the lanes along the last axis.  Without axes there is one row
of one cell. -/
def rowsFrom (origin : Int) : List Axis → List View
  | [] => [⟨origin, [⟨1, 1⟩]⟩]
  | [axis] => [⟨origin, [axis]⟩]
  | axis :: axes =>
    (List.range axis.extent).flatMap fun (position : Nat) =>
      rowsFrom (origin + position * axis.stride) axes

/-- The rows of a view in order. -/
def rows (v : View) : List View :=
  rowsFrom v.origin v.axes

/-- Whether the cells of a one-dimensional view are consecutive. -/
def isDenseRow (v : View) : Bool :=
  match v.axes with
  | [axis] => axis.extent ≤ 1 || axis.stride == 1
  | _ => false

/-- The position of the axis with the smallest absolute stride and that stride; of equals the last
one. -/
def tightestOf : List Axis → Option (Nat × Nat)
  | [] => none
  | axis :: axes =>
    match tightestOf axes with
    | none => some (0, axis.stride.natAbs)
    | some (position, magnitude) =>
      if axis.stride.natAbs < magnitude then some (0, axis.stride.natAbs)
      else some (position + 1, magnitude)

/-- The axis with the smallest absolute stride, of equals the last one. -/
def tightestAxis (v : View) : Option Nat :=
  (tightestOf v.axes).map (·.1)

end View

namespace Axis

/-- Puts an axis in front of the first one whose stride is not larger. -/
def insertByStride (axis : Axis) : List Axis → List Axis
  | [] => [axis]
  | next :: axes =>
    if next.stride ≤ axis.stride then axis :: next :: axes
    else next :: axis.insertByStride axes

/-- The axes by descending stride, those of equal stride in their given order. -/
def sortByStride (axes : List Axis) : List Axis :=
  axes.foldr insertByStride []

/-- Whether each axis strides over exactly the cells of the axes after it. -/
def packed : List Axis → Bool
  | [] => true
  | axis :: axes =>
    axis.stride == (extentProduct (axes.map Axis.extent) : Int) && packed axes

/-- How far the last position of an axis lies below the first. -/
def descent (axis : Axis) : Int :=
  if axis.stride < 0 then (axis.extent - 1) * axis.stride else 0

end Axis

namespace View

/-- The view without its axes of a single position. -/
def squeeze (v : View) : View :=
  ⟨v.origin, v.axes.filter (·.extent ≠ 1)⟩

/-- The view with every axis of negative stride walked backwards. -/
def ascending (v : View) : View :=
  ⟨v.origin + (v.axes.map Axis.descent).foldr (· + ·) 0,
    v.axes.map fun axis => ⟨axis.extent, axis.stride.natAbs⟩⟩

/-- One row over all cells of the view in ascending order, if they form one run. -/
def memoryOrder (v : View) : Option View :=
  if v.size = 0 then some ⟨v.origin, [⟨0, 1⟩]⟩
  else
    let upward := v.squeeze.ascending
    if Axis.packed (Axis.sortByStride upward.axes) then some ⟨upward.origin, [⟨v.size, 1⟩]⟩
    else none

end View

end StridedReduction

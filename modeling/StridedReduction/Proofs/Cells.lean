import Mathlib.Data.Multiset.Bind
import Mathlib.Data.Set.Function
import StridedReduction.Proofs.Indices
import StridedReduction.View.Basic

/-!
# Cells of axes

The cells that axes address, under a move of the origin, in another order of the axes and for axes
that stride over exactly the cells of those after them.  The main statements are `cellsFrom_perm`,
`cellsFrom_of_packed` and `cells_dense`.
-/

namespace StridedReduction

/-- The cells from a first one upwards. -/
def consecutive (first : Int) (count : Nat) : List Int :=
  (List.range count).map fun (offset : Nat) => first + offset

@[simp] theorem length_consecutive (first : Int) (count : Nat) :
    (consecutive first count).length = count := by
  simp [consecutive]

@[simp] theorem consecutive_zero (first : Int) : consecutive first 0 = [] := rfl

theorem mem_consecutive {first cell : Int} {count : Nat} :
    cell ∈ consecutive first count ↔ first ≤ cell ∧ cell < first + count := by
  simp only [consecutive, List.mem_map, List.mem_range]
  constructor
  · rintro ⟨offset, below, rfl⟩
    omega
  · rintro ⟨lower, upper⟩
    exact ⟨(cell - first).toNat, by omega, by omega⟩

theorem pairwise_consecutive (first : Int) (count : Nat) :
    (consecutive first count).Pairwise (· < ·) := by
  rw [consecutive, List.pairwise_map]
  exact List.pairwise_lt_range.imp fun below => by omega

theorem nodup_consecutive (first : Int) (count : Nat) : (consecutive first count).Nodup :=
  (pairwise_consecutive first count).imp fun below => by omega

theorem consecutive_add (first : Int) (left right : Nat) :
    consecutive first (left + right) =
      consecutive first left ++ consecutive (first + left) right := by
  simp only [consecutive, List.range_add, List.map_append, List.map_map]
  congr 1
  apply List.map_congr_left
  intro offset _
  simp [Int.add_assoc]

/-- Runs of one width, each starting where the one before it ends, are one run. -/
theorem flatMap_consecutive (first : Int) (blocks width : Nat) :
    ((List.range blocks).flatMap fun (block : Nat) =>
      consecutive (first + block * width) width) = consecutive first (blocks * width) := by
  induction blocks with
  | zero => simp
  | succ blocks induction =>
    rw [List.range_succ, List.flatMap_append, induction, Nat.succ_mul, consecutive_add]
    simp

/-- Positions met backwards. -/
theorem reverse_range (count : Nat) :
    (List.range count).reverse = (List.range count).map (count - 1 - ·) := by
  rw [List.range_eq_range', List.reverse_range', Nat.zero_add, List.range_eq_range']

@[simp] theorem cellsFrom_nil (origin : Int) : cellsFrom origin [] = [origin] := rfl

theorem mem_cellsFrom {origin cell : Int} {axes : List Axis} :
    cell ∈ cellsFrom origin axes ↔
      ∃ index ∈ indices (axes.map Axis.extent), origin + displacement axes index = cell := by
  rw [cellsFrom_eq_map, List.mem_map]

@[simp] theorem length_cellsFrom (origin : Int) (axes : List Axis) :
    (cellsFrom origin axes).length = extentProduct (axes.map Axis.extent) := by
  rw [cellsFrom_eq_map, List.length_map, length_indices]

theorem cellsFrom_eq_nil {origin : Int} {axes : List Axis}
    (empty : extentProduct (axes.map Axis.extent) = 0) : cellsFrom origin axes = [] := by
  rw [← List.length_eq_zero_iff, length_cellsFrom, empty]

theorem cellsFrom_add (origin shift : Int) (axes : List Axis) :
    cellsFrom (origin + shift) axes = (cellsFrom shift axes).map (origin + ·) := by
  simp only [cellsFrom_eq_map, List.map_map]
  apply List.map_congr_left
  intro index _
  simp [Int.add_assoc]

/-- An axis of a single position addresses nothing of its own. -/
@[simp] theorem cellsFrom_unit (origin stride : Int) (axes : List Axis) :
    cellsFrom origin (⟨1, stride⟩ :: axes) = cellsFrom origin axes := by
  simp [cellsFrom]

theorem cellsFrom_row (origin : Int) (extent : Nat) :
    cellsFrom origin [⟨extent, 1⟩] = consecutive origin extent := by
  simp [cellsFrom, consecutive, List.map_eq_flatMap]

theorem perm_flatMap_flatMap {α β γ : Type} (left : List α) (right : List β)
    (cell : α → β → List γ) :
    (left.flatMap fun first => right.flatMap fun second => cell first second).Perm
      (right.flatMap fun second => left.flatMap fun first => cell first second) := by
  have interchanged := Multiset.bind_bind (left : Multiset α) (right : Multiset β)
    (f := fun first second => (cell first second : Multiset γ))
  simpa only [Multiset.coe_bind, Multiset.coe_eq_coe] using interchanged

/-- The order of the axes only decides in which order the cells are met. -/
theorem cellsFrom_perm {left right : List Axis} (perm : left.Perm right) (origin : Int) :
    (cellsFrom origin left).Perm (cellsFrom origin right) := by
  induction perm generalizing origin with
  | nil => exact .refl _
  | cons axis _ induction => exact .flatMap_left _ fun position _ => induction _
  | swap first second axes =>
    simp only [cellsFrom]
    refine (perm_flatMap_flatMap _ _ _).trans (.of_eq ?_)
    simp only [Int.add_right_comm]
  | trans _ _ left right => exact (left origin).trans (right origin)

theorem cellsFrom_filter (origin : Int) (axes : List Axis) :
    cellsFrom origin (axes.filter (·.extent ≠ 1)) = cellsFrom origin axes := by
  induction axes generalizing origin with
  | nil => rfl
  | cons axis axes induction =>
    by_cases single : axis.extent = 1
    · obtain ⟨extent, stride⟩ := axis
      obtain rfl : extent = 1 := single
      rw [List.filter_cons_of_neg (by simp), induction, cellsFrom_unit]
    · rw [List.filter_cons_of_pos (by simpa using single)]
      simp only [cellsFrom, induction]

theorem cellsFrom_of_packed {axes : List Axis} (packed : Axis.packed axes) (origin : Int) :
    cellsFrom origin axes = consecutive origin (extentProduct (axes.map Axis.extent)) := by
  induction axes generalizing origin with
  | nil => simp [consecutive]
  | cons axis axes induction =>
    rw [Axis.packed, Bool.and_eq_true, beq_iff_eq] at packed
    obtain ⟨stride_eq, rest_packed⟩ := packed
    simp only [cellsFrom, induction rest_packed, stride_eq, List.map_cons, extentProduct_cons]
    exact flatMap_consecutive origin axis.extent _

theorem packed_denseAxes {shape : List Nat} (nonzero : ∀ extent ∈ shape, extent ≠ 0) :
    Axis.packed (View.denseAxes shape) := by
  induction shape with
  | nil => rfl
  | cons extent shape induction =>
    have rest_nonzero : ∀ rest ∈ shape, rest ≠ 0 := fun rest member =>
      nonzero rest (List.mem_cons_of_mem extent member)
    have kept : shape.filter (· ≠ 0) = shape := by
      simpa [List.filter_eq_self] using rest_nonzero
    have extents_eq : (View.denseAxes shape).map Axis.extent = shape := View.shape_dense shape
    rw [View.denseAxes, Axis.packed, kept, extents_eq, induction rest_nonzero]
    simp

/-- A dense view lists the cells of its buffer in order. -/
theorem cells_dense (shape : List Nat) :
    (View.dense shape).cells = consecutive 0 (extentProduct shape) := by
  by_cases nonzero : ∀ extent ∈ shape, extent ≠ 0
  · have listed := cellsFrom_of_packed (packed_denseAxes nonzero) 0
    rwa [show (View.denseAxes shape).map Axis.extent = shape from View.shape_dense shape] at listed
  · have empty : extentProduct shape = 0 := by
      rwa [← extentProduct_ne_zero, not_not] at nonzero
    rw [empty, consecutive_zero, ← List.length_eq_zero_iff, View.length_cells, View.size,
      View.shape_dense, empty]

namespace View

/-- The indices into a view. -/
def indexSet (v : View) : Set (List Nat) :=
  {index | index ∈ indices v.shape}

/-- The cells that a view addresses. -/
def footprint (v : View) : Set Int :=
  v.cell '' v.indexSet

/-- Distinct indices address distinct cells. -/
def Injective (v : View) : Prop :=
  Set.InjOn v.cell v.indexSet

theorem mem_footprint {v : View} {cell : Int} : cell ∈ v.footprint ↔ cell ∈ v.cells := by
  rw [cells_eq_map_cell, List.mem_map]
  rfl

theorem injective_iff_nodup {v : View} : v.Injective ↔ v.cells.Nodup := by
  rw [cells_eq_map_cell, List.nodup_map_iff_inj_on (nodup_indices v.shape)]
  constructor
  · intro injective left left_mem right right_mem same
    exact injective left_mem right_mem same
  · intro separate left left_mem right right_mem same
    exact separate left left_mem right right_mem same

end View

end StridedReduction

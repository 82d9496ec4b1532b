import Mathlib.Data.List.Sort
import Mathlib.Order.Bounds.Basic
import Mathlib.Tactic.Ring
import StridedReduction.Proofs.Tiling

/-!
# Views that form one run

A view can be walked in memory order exactly when its cells, each addressed by one index, are
consecutive.  Squeezing, walking backwards and sorting only change the order in which the cells are
met (`cellsFrom_upward_perm`), packed axes address one run, and sorted axes that tile a run are
packed.
-/

namespace StridedReduction

namespace Axis

/-- Whether an axis may stand in front of another by descending stride. -/
def Descends (first second : Axis) : Prop :=
  second.stride ≤ first.stride

instance : DecidableRel Descends := fun first second =>
  inferInstanceAs (Decidable (second.stride ≤ first.stride))

instance : Std.Total Descends := ⟨fun first second => Int.le_total second.stride first.stride⟩

instance : IsTrans Axis Descends := ⟨fun _ _ _ left right => Int.le_trans right left⟩

theorem insertByStride_eq_orderedInsert (axis : Axis) (axes : List Axis) :
    axis.insertByStride axes = axes.orderedInsert Descends axis := by
  induction axes with
  | nil => rfl
  | cons next axes induction =>
    rw [insertByStride, List.orderedInsert_cons, induction]
    rfl

theorem sortByStride_eq_insertionSort (axes : List Axis) :
    sortByStride axes = axes.insertionSort Descends := by
  induction axes with
  | nil => rfl
  | cons axis axes induction =>
    rw [List.insertionSort_cons, ← induction, ← insertByStride_eq_orderedInsert]
    rfl

theorem sortByStride_perm (axes : List Axis) : (sortByStride axes).Perm axes := by
  rw [sortByStride_eq_insertionSort]
  exact List.perm_insertionSort Descends axes

theorem pairwise_sortByStride (axes : List Axis) : (sortByStride axes).Pairwise Descends := by
  rw [sortByStride_eq_insertionSort]
  exact List.pairwise_insertionSort Descends axes

end Axis

namespace View

theorem cells_squeeze (v : View) : v.squeeze.cells = v.cells :=
  cellsFrom_filter v.origin v.axes

/-- An axis walked backwards from its last position meets the same cells. -/
private theorem flatMap_ascending_perm {β : Type} (axis : Axis) (part : Int → List β) :
    ((List.range axis.extent).flatMap fun (position : Nat) =>
      part (axis.descent + position * axis.stride.natAbs)).Perm
      ((List.range axis.extent).flatMap fun (position : Nat) => part (position * axis.stride)) := by
  by_cases upward : 0 ≤ axis.stride
  · have magnitude : (axis.stride.natAbs : Int) = axis.stride := by omega
    simp [Axis.descent, Int.not_lt.mpr upward, magnitude]
  · have magnitude : (axis.stride.natAbs : Int) = -axis.stride := by omega
    have mirrored : ((List.range axis.extent).flatMap fun (position : Nat) =>
        part (axis.descent + position * axis.stride.natAbs)) =
        (List.range axis.extent).reverse.flatMap fun (position : Nat) =>
          part (position * axis.stride) := by
      rw [reverse_range, List.flatMap_map]
      apply List.flatMap_congr
      intro position member
      have below := List.mem_range.mp member
      congr 1
      rw [Axis.descent, if_pos (Int.not_le.mp upward), magnitude]
      push_cast [Nat.sub_sub, Nat.cast_sub (show 1 + position ≤ axis.extent by omega)]
      ring
    rw [mirrored]
    exact (List.reverse_perm _).flatMap_right _

private theorem cellsFrom_ascending_perm (origin : Int) (axes : List Axis) :
    (cellsFrom (origin + (axes.map Axis.descent).foldr (· + ·) 0)
      (axes.map fun axis => ⟨axis.extent, axis.stride.natAbs⟩)).Perm (cellsFrom origin axes) := by
  induction axes generalizing origin with
  | nil => simp
  | cons axis axes induction =>
    have shifted : ∀ position : Nat,
        (cellsFrom (origin + ((axis :: axes).map Axis.descent).foldr (· + ·) 0 +
            position * axis.stride.natAbs)
          (axes.map fun axis => ⟨axis.extent, axis.stride.natAbs⟩)).Perm
        (cellsFrom (origin + (axis.descent + position * axis.stride.natAbs)) axes) := by
      intro position
      convert induction (origin + (axis.descent + position * axis.stride.natAbs)) using 2
      rw [List.map_cons, List.foldr_cons]
      ring
    simp only [cellsFrom]
    exact (List.Perm.flatMap_left _ fun position _ => shifted position).trans
      (flatMap_ascending_perm axis fun step => cellsFrom (origin + step) axes)

theorem cells_ascending_perm (v : View) : v.ascending.cells.Perm v.cells :=
  cellsFrom_ascending_perm v.origin v.axes

/-- The axes that `memoryOrder` tests: squeezed, walked upwards and sorted. -/
def upwardAxes (v : View) : List Axis :=
  Axis.sortByStride v.squeeze.ascending.axes

theorem cellsFrom_upward_perm (v : View) :
    (cellsFrom v.squeeze.ascending.origin v.upwardAxes).Perm v.cells := by
  have sorted := cellsFrom_perm (Axis.sortByStride_perm v.squeeze.ascending.axes)
    v.squeeze.ascending.origin
  have ascended := cells_ascending_perm v.squeeze
  rw [cells_squeeze] at ascended
  exact sorted.trans ascended

theorem stride_nonneg_of_mem_upwardAxes {v : View} {axis : Axis} (member : axis ∈ v.upwardAxes) :
    0 ≤ axis.stride := by
  have ascended := (Axis.sortByStride_perm v.squeeze.ascending.axes).mem_iff.mp member
  obtain ⟨_, _, rfl⟩ := List.mem_map.mp ascended
  exact Int.natCast_nonneg _

theorem one_lt_extent_of_mem_upwardAxes {v : View} (nonempty : v.size ≠ 0) {axis : Axis}
    (member : axis ∈ v.upwardAxes) : 1 < axis.extent := by
  have ascended := (Axis.sortByStride_perm v.squeeze.ascending.axes).mem_iff.mp member
  obtain ⟨given, given_mem, rfl⟩ := List.mem_map.mp ascended
  obtain ⟨given_mem, not_single⟩ := List.mem_filter.mp given_mem
  have nonzero : given.extent ≠ 0 :=
    extentProduct_ne_zero.mp nonempty given.extent (List.mem_map_of_mem given_mem)
  have not_one : given.extent ≠ 1 := by simpa using not_single
  change 1 < given.extent
  omega

theorem extentProduct_upwardAxes (v : View) :
    extentProduct (v.upwardAxes.map Axis.extent) = v.size := by
  simpa using v.cellsFrom_upward_perm.length_eq

/-- Without negative strides the origin is the least cell. -/
private theorem origin_eq_least {v : View} (nonempty : v.size ≠ 0) {least : Int}
    (run : v.cells.Perm (consecutive least v.size)) : v.squeeze.ascending.origin = least := by
  have members (cell : Int) := (v.cellsFrom_upward_perm.trans run).mem_iff (a := cell)
  simp only [mem_cellsFrom, mem_consecutive] at members
  have positive : ∀ extent ∈ v.upwardAxes.map Axis.extent, 0 < extent := by
    intro extent member
    obtain ⟨axis, axis_mem, rfl⟩ := List.mem_map.mp member
    exact Nat.zero_lt_of_lt (one_lt_extent_of_mem_upwardAxes nonempty axis_mem)
  have origin_within := (members v.squeeze.ascending.origin).mp
    ⟨_, replicate_zero_mem_indices positive, by rw [displacement_replicate_zero, Int.add_zero]⟩
  obtain ⟨index, _, index_eq⟩ := (members least).mpr ⟨Int.le_refl least, by omega⟩
  have above : 0 ≤ displacement v.upwardAxes index :=
    displacement_nonneg (fun _ => stride_nonneg_of_mem_upwardAxes) index
  omega

theorem tiles_upwardAxes {v : View} (nonempty : v.size ≠ 0) {least : Int}
    (run : v.cells.Perm (consecutive least v.size)) : Tiles v.upwardAxes := by
  have perm := v.cellsFrom_upward_perm.trans run
  have shifted : consecutive least v.size = (consecutive 0 v.size).map (least + ·) := by
    simp [consecutive]
  have moved := cellsFrom_add least 0 v.upwardAxes
  rw [Int.add_zero] at moved
  rw [origin_eq_least nonempty run, moved, shifted,
    List.map_perm_map_iff (fun _ _ => Int.add_left_cancel)] at perm
  rwa [Tiles, extentProduct_upwardAxes]

/-- A view with indices is walked in memory order exactly along the run of its cells. -/
theorem memoryOrder_eq_some_iff {v run : View} (nonempty : v.size ≠ 0) :
    v.memoryOrder = some run ↔
      run.axes = [⟨v.size, 1⟩] ∧ v.cells.Perm (consecutive run.origin v.size) := by
  have unfolded : v.memoryOrder =
      if Axis.packed v.upwardAxes then some ⟨v.squeeze.ascending.origin, [⟨v.size, 1⟩]⟩
      else none := by
    rw [memoryOrder, if_neg nonempty]
    rfl
  rw [unfolded]
  constructor
  · intro ordered
    split at ordered
    next packed =>
      obtain rfl := Option.some.inj ordered
      have perm := v.cellsFrom_upward_perm
      rw [cellsFrom_of_packed packed, extentProduct_upwardAxes] at perm
      exact ⟨rfl, perm.symm⟩
    next => simp at ordered
  · rintro ⟨axes_eq, perm⟩
    have packed := Axis.packed_of_tiles (tiles_upwardAxes nonempty perm)
      (fun axis => one_lt_extent_of_mem_upwardAxes nonempty)
      (fun axis => stride_nonneg_of_mem_upwardAxes) (Axis.pairwise_sortByStride _)
    rw [if_pos packed, origin_eq_least nonempty perm, ← axes_eq]

theorem memoryOrder_of_empty {v : View} (empty : v.size = 0) :
    v.memoryOrder = some ⟨v.origin, [⟨0, 1⟩]⟩ := by
  simp [memoryOrder, empty]

/-- The walk in memory order meets the same cells. -/
theorem cells_perm_of_memoryOrder {v run : View} (ordered : v.memoryOrder = some run) :
    run.cells.Perm v.cells := by
  by_cases empty : v.size = 0
  · rw [memoryOrder_of_empty empty] at ordered
    obtain rfl := Option.some.inj ordered
    have no_cells : v.cells = [] := cellsFrom_eq_nil empty
    rw [no_cells, View.cells, cellsFrom_row, consecutive_zero]
  · obtain ⟨axes_eq, perm⟩ := (memoryOrder_eq_some_iff empty).mp ordered
    rw [View.cells, axes_eq, cellsFrom_row]
    exact perm.symm

/-- Where the walk in memory order leads is decided by the cells. -/
theorem memoryOrder_eq_of_perm {v w : View} (perm : w.cells.Perm v.cells) (nonempty : v.size ≠ 0) :
    w.memoryOrder = v.memoryOrder := by
  have size_eq : w.size = v.size := by simpa using perm.length_eq
  apply Option.ext
  intro run
  rw [memoryOrder_eq_some_iff nonempty, memoryOrder_eq_some_iff (size_eq ▸ nonempty), size_eq,
    perm.congr_left]

theorem perm_consecutive_iff {v : View} {least : Int} :
    v.cells.Perm (consecutive least v.size) ↔
      v.Injective ∧ v.footprint = {cell | least ≤ cell ∧ cell < least + v.size} := by
  constructor
  · intro perm
    refine ⟨injective_iff_nodup.mpr (perm.nodup_iff.mpr (nodup_consecutive _ _)), ?_⟩
    ext cell
    rw [mem_footprint, perm.mem_iff, mem_consecutive, Set.mem_ofPred_eq]
  · rintro ⟨injective, covered⟩
    rw [List.perm_ext_iff_of_nodup (injective_iff_nodup.mp injective) (nodup_consecutive _ _)]
    intro cell
    rw [← mem_footprint, covered, mem_consecutive, Set.mem_ofPred_eq]

/-- A view with indices has a walk in memory order exactly when its indices address distinct cells
that form one run; the walk then starts at the least of them and meets each once, upwards.  A view
without indices has a walk without cells. -/
theorem memoryOrder_exists_iff_run (v : View) :
    (v.size ≠ 0 →
      (v.memoryOrder ≠ none ↔
        v.Injective ∧
          ∃ least : Int, v.footprint = {cell | least ≤ cell ∧ cell < least + v.size}) ∧
      ∀ run, v.memoryOrder = some run →
        run.axes = [⟨v.size, 1⟩] ∧ IsLeast v.footprint run.origin ∧
          run.cells.Perm v.cells ∧ run.cells.Pairwise (· < ·)) ∧
    (v.size = 0 → ∃ run, v.memoryOrder = some run ∧ run.shape = [0]) := by
  refine ⟨fun nonempty => ⟨?_, ?_⟩, fun empty => ⟨_, memoryOrder_of_empty empty, rfl⟩⟩
  · rw [Option.ne_none_iff_exists']
    constructor
    · rintro ⟨run, ordered⟩
      obtain ⟨_, perm⟩ := (memoryOrder_eq_some_iff nonempty).mp ordered
      obtain ⟨injective, covered⟩ := perm_consecutive_iff.mp perm
      exact ⟨injective, run.origin, covered⟩
    · rintro ⟨injective, least, covered⟩
      have perm := perm_consecutive_iff.mpr ⟨injective, covered⟩
      exact ⟨⟨least, [⟨v.size, 1⟩]⟩, (memoryOrder_eq_some_iff nonempty).mpr ⟨rfl, perm⟩⟩
  · intro run ordered
    obtain ⟨axes_eq, perm⟩ := (memoryOrder_eq_some_iff nonempty).mp ordered
    obtain ⟨_, covered⟩ := perm_consecutive_iff.mp perm
    refine ⟨axes_eq, ?_, cells_perm_of_memoryOrder ordered, ?_⟩
    · rw [covered]
      exact ⟨⟨Int.le_refl _, by omega⟩, fun cell member => member.1⟩
    · rw [View.cells, axes_eq, cellsFrom_row]
      exact pairwise_consecutive _ _

/-- Six cells met out of order, with one axis walked downwards and a stray stride on an axis of one
position, form the run from eleven on. -/
theorem run_of_downward_grid :
    let v : View := ⟨12, [⟨2, -1⟩, ⟨1, 99⟩, ⟨3, 2⟩]⟩
    v.size ≠ 0 ∧ v.memoryOrder = some ⟨11, [⟨6, 1⟩]⟩ ∧ v.Injective ∧
      ∃ least : Int, v.footprint = {cell | least ≤ cell ∧ cell < least + 6} := by
  intro v
  have nonempty : v.size ≠ 0 := by decide
  have ordered : v.memoryOrder = some ⟨11, [⟨6, 1⟩]⟩ := by decide
  obtain ⟨injective, covered⟩ := ((memoryOrder_exists_iff_run v).1 nonempty).1.mp
    (by rw [ordered]; exact Option.some_ne_none _)
  exact ⟨nonempty, ordered, injective, covered⟩

end View

end StridedReduction

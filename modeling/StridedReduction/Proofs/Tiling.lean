import Mathlib.Data.List.Nodup
import Mathlib.Data.Nat.Find
import StridedReduction.Proofs.Cells

/-!
# Axes that tile a run

Axes without negative strides, the first of them of the largest stride, whose displacements are the
numbers below their count, each met once.  The first axis steps over the whole run that the others
tile: nothing below its stride may be missed by the others, and a step of theirs that reached beyond
it would meet a displacement twice.  The main statement is `Axis.packed_of_tiles`.
-/

namespace StridedReduction

theorem displacement_nonneg {axes : List Axis} (upward : ∀ axis ∈ axes, 0 ≤ axis.stride)
    (index : List Nat) : 0 ≤ displacement axes index := by
  induction axes generalizing index with
  | nil => simp [displacement]
  | cons axis axes induction =>
    cases index with
    | nil => simp [displacement]
    | cons position index =>
      have step := Int.mul_nonneg (Int.natCast_nonneg position) (upward axis List.mem_cons_self)
      have rest := induction (fun other member => upward other (List.mem_cons_of_mem axis member))
        index
      rw [displacement]
      omega

theorem displacement_replicate_zero (axes : List Axis) (count : Nat) :
    displacement axes (List.replicate count 0) = 0 := by
  induction axes generalizing count with
  | nil => simp [displacement]
  | cons axis axes induction =>
    cases count with
    | zero => simp [displacement]
    | succ count => simp [List.replicate_succ, displacement, induction]

/-- Displacements leave no gap wider than the largest stride: below every displacement each window
of that width holds another one. -/
theorem exists_displacement_in_window {axes : List Axis} {bound target : Int} {index : List Nat}
    (steps : ∀ axis ∈ axes, 0 ≤ axis.stride ∧ axis.stride ≤ bound) (bound_pos : 0 < bound)
    (target_nonneg : 0 ≤ target) (member : index ∈ indices (axes.map Axis.extent))
    (reaches : target ≤ displacement axes index) :
    ∃ smaller ∈ indices (axes.map Axis.extent),
      target ≤ displacement axes smaller ∧ displacement axes smaller < target + bound := by
  induction axes generalizing index with
  | nil => exact ⟨index, member, reaches, by simp only [displacement]; omega⟩
  | cons axis axes induction =>
    have rest_steps : ∀ other ∈ axes, 0 ≤ other.stride ∧ other.stride ≤ bound :=
      fun other other_mem => steps other (List.mem_cons_of_mem axis other_mem)
    obtain ⟨_, stride_le⟩ := steps axis List.mem_cons_self
    cases index with
    | nil => simp at member
    | cons position index =>
      rw [List.map_cons, cons_mem_indices] at member
      obtain ⟨below, rest_member⟩ := member
      by_cases rest_reaches : target ≤ displacement axes index
      · obtain ⟨smaller, smaller_mem, lower, upper⟩ := induction rest_steps rest_member rest_reaches
        refine ⟨0 :: smaller, ?_, ?_⟩
        · rw [List.map_cons, cons_mem_indices]
          exact ⟨by omega, smaller_mem⟩
        · simpa [displacement] using ⟨lower, upper⟩
      · -- the first position that reaches the target overshoots it by less than a stride
        have reached : ∃ first : Nat, target ≤ first * axis.stride + displacement axes index :=
          ⟨position, reaches⟩
        let first := Nat.find reached
        have first_reaches : target ≤ first * axis.stride + displacement axes index :=
          Nat.find_spec reached
        have first_le : first ≤ position := Nat.find_min' reached reaches
        refine ⟨first :: index, ?_, first_reaches, ?_⟩
        · rw [List.map_cons, cons_mem_indices]
          exact ⟨by omega, rest_member⟩
        · obtain ⟨previous, first_eq⟩ : ∃ previous, first = previous + 1 := by
            refine Nat.exists_eq_succ_of_ne_zero fun zero => rest_reaches ?_
            simpa [zero] using first_reaches
          have missed := Nat.find_min reached (show previous < first by omega)
          rw [displacement, first_eq]
          push_cast
          rw [Int.add_mul]
          omega

/-- The displacements of the axes, each met once, are the numbers below their count. -/
def Tiles (axes : List Axis) : Prop :=
  (cellsFrom 0 axes).Perm (consecutive 0 (extentProduct (axes.map Axis.extent)))

namespace Tiles

variable {axes rest : List Axis} {head : Axis}

theorem eq_of_displacement_eq (tiles : Tiles axes) (left right : List Nat)
    (left_mem : left ∈ indices (axes.map Axis.extent))
    (right_mem : right ∈ indices (axes.map Axis.extent))
    (same : displacement axes left = displacement axes right) : left = right := by
  have nodup : (cellsFrom 0 axes).Nodup := (List.Perm.nodup_iff tiles).mpr (nodup_consecutive _ _)
  rw [cellsFrom_eq_map] at nodup
  exact List.inj_on_of_nodup_map nodup left_mem right_mem (by rw [same])

theorem reaches_iff (tiles : Tiles axes) (cell : Int) :
    (∃ index ∈ indices (axes.map Axis.extent), displacement axes index = cell) ↔
      0 ≤ cell ∧ cell < extentProduct (axes.map Axis.extent) := by
  have members := List.Perm.mem_iff (a := cell) tiles
  simpa [mem_cellsFrom, mem_consecutive] using members

private theorem zeros_mem (nonzero : ∀ axis ∈ rest, axis.extent ≠ 0) :
    List.replicate rest.length 0 ∈ indices (rest.map Axis.extent) := by
  have positive : ∀ extent ∈ rest.map Axis.extent, 0 < extent := by
    intro extent member
    obtain ⟨axis, axis_mem, rfl⟩ := List.mem_map.mp member
    exact Nat.pos_of_ne_zero (nonzero axis axis_mem)
  simpa using replicate_zero_mem_indices positive

/-- What the axes reach below the stride of the first one, the others reach. -/
theorem exists_rest_displacement (tiles : Tiles (head :: rest))
    (upward : ∀ axis ∈ head :: rest, 0 ≤ axis.stride) (cell : Int) (nonneg : 0 ≤ cell)
    (below_stride : cell < head.stride)
    (below_count : cell < extentProduct ((head :: rest).map Axis.extent)) :
    ∃ index ∈ indices (rest.map Axis.extent), displacement rest index = cell := by
  obtain ⟨index, index_mem, index_eq⟩ := (tiles.reaches_iff cell).mpr ⟨nonneg, below_count⟩
  cases index with
  | nil => simp at index_mem
  | cons position index =>
    rw [List.map_cons, cons_mem_indices] at index_mem
    have rest_nonneg := displacement_nonneg
      (fun axis member => upward axis (List.mem_cons_of_mem head member)) index
    rw [displacement] at index_eq
    have position_zero : position = 0 := by
      by_contra positive
      have step : 1 * head.stride ≤ position * head.stride :=
        Int.mul_le_mul_of_nonneg_right (by omega) (upward head List.mem_cons_self)
      omega
    exact ⟨index, index_mem.2, by simpa [position_zero] using index_eq⟩

variable (tiles : Tiles (head :: rest)) (many : 1 < head.extent)
  (nonzero : ∀ axis ∈ rest, axis.extent ≠ 0) (upward : ∀ axis ∈ head :: rest, 0 ≤ axis.stride)

include tiles many nonzero

theorem stride_lt_count : head.stride < extentProduct ((head :: rest).map Axis.extent) := by
  refine ((tiles.reaches_iff head.stride).mp ⟨1 :: List.replicate rest.length 0, ?_, ?_⟩).2
  · exact cons_mem_indices.mpr ⟨many, zeros_mem nonzero⟩
  · simp [displacement, displacement_replicate_zero]

include upward

theorem stride_pos : 0 < head.stride := by
  rcases Int.lt_or_eq_of_le (upward head List.mem_cons_self) with positive | zero
  · exact positive
  · have collision := tiles.eq_of_displacement_eq
      (0 :: List.replicate rest.length 0) (1 :: List.replicate rest.length 0)
      (cons_mem_indices.mpr ⟨by omega, zeros_mem nonzero⟩)
      (cons_mem_indices.mpr ⟨many, zeros_mem nonzero⟩)
      (by simp [displacement, ← zero])
    simp at collision

variable (sorted : ∀ axis ∈ rest, axis.stride ≤ head.stride)

include sorted

/-- A displacement of the rest at or beyond the stride of the first axis could be cut back to one
below twice the stride, which the first axis reaches by one step of its own. -/
theorem rest_lt_stride {index : List Nat} (member : index ∈ indices (rest.map Axis.extent)) :
    displacement rest index < head.stride := by
  have stride_pos := tiles.stride_pos many nonzero upward
  by_contra beyond
  obtain ⟨far, far_mem, far_ge, far_lt⟩ := exists_displacement_in_window
    (fun axis axis_mem => ⟨upward axis (List.mem_cons_of_mem head axis_mem), sorted axis axis_mem⟩)
    stride_pos (Int.le_of_lt stride_pos) member (Int.not_lt.mp beyond)
  have far_below := ((tiles.reaches_iff (displacement rest far)).mp
    ⟨0 :: far, cons_mem_indices.mpr ⟨by omega, far_mem⟩, by simp [displacement]⟩).2
  obtain ⟨near, near_mem, near_eq⟩ := tiles.exists_rest_displacement upward
    (displacement rest far - head.stride) (by omega) (by omega) (by omega)
  have collision := tiles.eq_of_displacement_eq (1 :: near) (0 :: far)
    (cons_mem_indices.mpr ⟨many, near_mem⟩) (cons_mem_indices.mpr ⟨by omega, far_mem⟩)
    (by simp only [displacement]; omega)
  simp at collision

theorem rest_perm : (cellsFrom 0 rest).Perm (consecutive 0 head.stride.toNat) := by
  have stride_pos := tiles.stride_pos many nonzero upward
  have rest_nodup : (cellsFrom 0 rest).Nodup := by
    rw [cellsFrom_eq_map, List.nodup_map_iff_inj_on (nodup_indices _)]
    intro left left_mem right right_mem same
    have joined := tiles.eq_of_displacement_eq (0 :: left) (0 :: right)
      (cons_mem_indices.mpr ⟨by omega, left_mem⟩) (cons_mem_indices.mpr ⟨by omega, right_mem⟩)
      (by simpa [displacement] using same)
    exact (List.cons.inj joined).2
  rw [List.perm_ext_iff_of_nodup rest_nodup (nodup_consecutive _ _)]
  intro cell
  rw [mem_cellsFrom, mem_consecutive]
  constructor
  · rintro ⟨index, index_mem, rfl⟩
    have lower := displacement_nonneg
      (fun axis member => upward axis (List.mem_cons_of_mem head member)) index
    have upper := tiles.rest_lt_stride many nonzero upward sorted index_mem
    omega
  · rintro ⟨lower, upper⟩
    have count := tiles.stride_lt_count many nonzero
    obtain ⟨index, index_mem, rfl⟩ := tiles.exists_rest_displacement upward
      cell lower (by omega) (by omega)
    exact ⟨index, index_mem, Int.zero_add _⟩

/-- The first axis steps over exactly the run that the others tile. -/
theorem stride_eq : head.stride = extentProduct (rest.map Axis.extent) := by
  have stride_pos := tiles.stride_pos many nonzero upward
  have lengths := (tiles.rest_perm many nonzero upward sorted).length_eq
  rw [length_cellsFrom, length_consecutive] at lengths
  omega

theorem tail : Tiles rest := by
  have perm := tiles.rest_perm many nonzero upward sorted
  rwa [tiles.stride_eq many nonzero upward sorted, Int.toNat_natCast] at perm

end Tiles

/-- Sorted axes of several positions that tile a run are packed. -/
theorem Axis.packed_of_tiles {axes : List Axis} (tiles : Tiles axes)
    (many : ∀ axis ∈ axes, 1 < axis.extent) (upward : ∀ axis ∈ axes, 0 ≤ axis.stride)
    (sorted : axes.Pairwise fun first second => second.stride ≤ first.stride) :
    Axis.packed axes := by
  induction axes with
  | nil => rfl
  | cons head rest induction =>
    obtain ⟨head_sorted, rest_sorted⟩ := List.pairwise_cons.mp sorted
    have head_many := many head List.mem_cons_self
    have rest_many : ∀ axis ∈ rest, 1 < axis.extent := fun axis member =>
      many axis (List.mem_cons_of_mem head member)
    have nonzero : ∀ axis ∈ rest, axis.extent ≠ 0 := fun axis member =>
      Nat.ne_of_gt (Nat.zero_lt_of_lt (rest_many axis member))
    have rest_packed := induction (tiles.tail head_many nonzero upward head_sorted) rest_many
      (fun axis member => upward axis (List.mem_cons_of_mem head member)) rest_sorted
    rw [Axis.packed, Bool.and_eq_true, beq_iff_eq]
    exact ⟨tiles.stride_eq head_many nonzero upward head_sorted, rest_packed⟩

end StridedReduction

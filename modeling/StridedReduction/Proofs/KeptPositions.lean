import StridedReduction.Proofs.Selection

/-!
# Kept positions

The positions that a slice keeps are positions of its axis, and none is kept twice, whatever its
bounds are and however it steps (`Slice.within_of_resolve`).  So a slice meets some of the cells of
the view, none of them more often (`cells_select_subperm`).
-/

namespace StridedReduction

theorem subperm_flatMap {α β : Type} {left right : List α} (fewer : left.Subperm right)
    (f : α → List β) : (left.flatMap f).Subperm (right.flatMap f) := by
  obtain ⟨middle, perm, sublist⟩ := fewer
  exact ⟨middle.flatMap f, perm.flatMap_right f, sublist.flatMap f⟩

theorem nodup_of_subperm {α : Type} {left right : List α} (fewer : left.Subperm right)
    (distinct : right.Nodup) : left.Nodup := by
  obtain ⟨middle, perm, sublist⟩ := fewer
  exact perm.nodup_iff.mp (distinct.sublist sublist)

/-- A step that is counted before a bound ends before it. -/
theorem add_mul_lt_of_lt_count {first last width : Int} (forward : 0 < width) {position : Nat}
    (counted : position < if first < last then ((last - first - 1) / width + 1).toNat else 0) :
    first + position * width < last := by
  have ordered : first < last := by
    by_contra beyond
    rw [if_neg beyond] at counted
    omega
  rw [if_pos ordered] at counted
  have nonneg : 0 ≤ (last - first - 1) / width := Int.ediv_nonneg (by omega) forward.le
  have within_quotient : (position : Int) ≤ (last - first - 1) / width := by omega
  have covered : position * width ≤ last - first - 1 :=
    (Int.le_ediv_iff_mul_le forward).mp within_quotient
  omega

namespace Selection

variable {kept : Selection} {extent : Nat}

/-- The positions kept, in the order in which they are met. -/
def positions (kept : Selection) : List Nat :=
  (List.range kept.count).map fun (position : Nat) => (kept.first + position * kept.step).toNat

/-- Whether an axis of the given extent has all positions kept, none of them kept twice. -/
structure Within (kept : Selection) (extent : Nat) : Prop where
  /-- The selection moves on. -/
  moves : kept.step ≠ 0
  /-- It neither begins nor ends outside the axis. -/
  inside : ∀ position < kept.count,
    0 ≤ kept.first + position * kept.step ∧ kept.first + position * kept.step < extent

theorem Within.positions_subperm (within : kept.Within extent) :
    kept.positions.Subperm (List.range extent) := by
  have distinct : kept.positions.Nodup := by
    refine List.Nodup.map_on ?_ List.nodup_range
    intro left left_mem right right_mem same
    have left_inside := within.inside left (List.mem_range.mp left_mem)
    have right_inside := within.inside right (List.mem_range.mp right_mem)
    have same_product : (left : Int) * kept.step = right * kept.step := by omega
    exact Int.ofNat.inj (mul_right_cancel₀ within.moves same_product)
  refine distinct.subperm ?_
  intro source member
  obtain ⟨position, position_mem, rfl⟩ := List.mem_map.mp member
  have inside := within.inside position (List.mem_range.mp position_mem)
  exact List.mem_range.mpr (by omega)

end Selection

namespace Slice

variable {extent : Nat}

/-- A bound lies between the ends of the axis, wherever it was asked for. -/
theorem bound_mem (extent : Nat) (bound : Option Int) {least greatest omitted : Int}
    (least_le : least ≤ omitted) (le_greatest : omitted ≤ greatest) :
    least ≤ (bound.map (clamp extent least greatest)).getD omitted ∧
      (bound.map (clamp extent least greatest)).getD omitted ≤ greatest := by
  cases bound with
  | none => exact ⟨least_le, le_greatest⟩
  | some bound =>
    simp only [Option.map_some, Option.getD_some, clamp]
    omega

theorem selection_within (s : Slice) (extent : Nat) {step : Int} (moves : step ≠ 0) :
    (s.selection extent step).Within extent := by
  have least_le : (-1 : Int) ≤ extent - 1 := by omega
  have nonneg : (0 : Int) ≤ extent := Int.natCast_nonneg extent
  refine ⟨?_, ?_⟩
  · rw [selection]
    split <;> exact moves
  rcases lt_or_gt_of_ne moves with backward | forward
  · have starts := bound_mem extent s.start least_le (Int.le_refl _)
    have stops := bound_mem extent s.stop (Int.le_refl _) least_le
    rw [selection, if_neg (by omega : ¬0 < step)]
    intro position counted
    have ends := add_mul_lt_of_lt_count (Int.neg_pos_of_neg backward) counted
    have descends : position * step ≤ 0 :=
      Int.mul_nonpos_of_nonneg_of_nonpos (Int.natCast_nonneg position) backward.le
    rw [Int.mul_neg] at ends
    simp only
    omega
  · have starts := bound_mem extent s.start (Int.le_refl _) nonneg
    have stops := bound_mem extent s.stop nonneg (Int.le_refl _)
    rw [selection, if_pos forward]
    intro position counted
    have ends := add_mul_lt_of_lt_count forward counted
    have ascends : 0 ≤ position * step := Int.mul_nonneg (Int.natCast_nonneg position) forward.le
    simp only
    omega

/-- Only a step of zero keeps a slice from being taken. -/
theorem resolve?_eq_none_iff {s : Slice} : s.resolve? extent = none ↔ s.step = some 0 := by
  rw [resolve?]
  cases s.step with
  | none => simp
  | some step => by_cases still : step = 0 <;> simp [still]

/-- What a slice keeps is there. -/
theorem within_of_resolve {s : Slice} {kept : Selection}
    (resolved : s.resolve? extent = some kept) : kept.Within extent := by
  by_cases still : s.step.getD 1 = 0
  · simp [resolve?, still] at resolved
  · simp only [resolve?, if_neg still, Option.some.injEq] at resolved
    exact resolved ▸ s.selection_within extent still

end Slice

namespace View

variable {v : View} {axis : Nat}

theorem subviews_select (within : axis < v.rank) {kept : Selection}
    (there : kept.Within (v.axis axis).extent) :
    (v.select axis kept).subviews axis = kept.positions.map (v.fix axis) := by
  rw [subviews, axis_select within, Selection.positions, List.map_map]
  apply List.map_congr_left
  intro position member
  have source_eq := Int.toNat_of_nonneg (there.inside position (List.mem_range.mp member)).1
  rw [Function.comp_apply, fix, fix, axis_select within, source_eq, select, List.eraseIdx_set_eq]
  congr 1
  ring

/-- Positions kept of an axis show sub-views that were there, none of them twice. -/
theorem cells_select_subperm (within : axis < v.rank) {kept : Selection}
    (there : kept.Within (v.axis axis).extent) : (v.select axis kept).cells.Subperm v.cells := by
  have within_kept : axis < (v.select axis kept).rank := by rwa [rank_select]
  have fewer := subperm_flatMap there.positions_subperm fun position => (v.fix axis position).cells
  have part := flatMap_cells_subviews_perm within_kept
  have whole := flatMap_cells_subviews_perm within
  rw [subviews_select within there, List.flatMap_map] at part
  rw [subviews, List.flatMap_map] at whole
  exact part.symm.subperm.trans (fewer.trans whole.subperm)

end View

end StridedReduction

import StridedReduction.Proofs.Addressing
import StridedReduction.Proofs.Rearrangement

/-!
# Derived views

Slices, orders of the axes, sub-views, lanes, rows and the walk in memory order are views of cells
that were there before: each one meets some of the cells of the view that it is taken from, and none
more often (`Derives.cells_subperm`).  So does whatever a succession of them leads to, however far
the bounds of the slices lie outside the axes and whichever axes are walked backwards or are empty.
Hence nothing is read or written outside the array, and cells that were distinct stay distinct
(`derived_views`).
-/

namespace StridedReduction

namespace View

variable {v w : View} {axis : Nat}

theorem sliceAt_eq_ok_iff {s : Slice} :
    v.sliceAt axis s = .ok w ↔
      axis < v.rank ∧ ∃ kept, s.resolve? (v.axis axis).extent = some kept ∧
        w = v.select axis kept := by
  simp only [sliceAt, Int.toNat_natCast]
  split
  case isTrue within =>
    cases s.resolve? (v.axis axis).extent with
    | none => simp
    | some kept => simp [within, eq_comm]
  case isFalse beyond => simp [beyond]

/-- With the number of an axis and a step that moves, an unchecked slice is the slice. -/
theorem sliceAt_natCast (within : axis < v.rank) {s : Slice} (moves : s.step ≠ some 0) :
    v.sliceAt axis s = .ok (v.slice axis s) := by
  have resolves : s.resolve? (v.axis axis).extent ≠ none := mt Slice.resolve?_eq_none_iff.mp moves
  obtain ⟨kept, resolved⟩ := Option.ne_none_iff_exists'.mp resolves
  rw [sliceAt_eq_ok_iff, slice, resolved]
  exact ⟨within, kept, rfl, rfl⟩

theorem lanesAt_natCast (within : axis < v.rank) : v.lanesAt axis = .ok (v.lanes axis) := by
  have counted : ¬((axis : Int) < 0 ∨ (v.rank : Int) ≤ axis) := by omega
  have nonneg : ¬(axis : Int) < 0 := by omega
  have shape_eq : Sequence.remove v.shape (axis : Int) = (v.base axis).shape := by
    rw [Sequence.remove_natCast, shape_base]
  simp only [lanesAt, if_neg nonneg, if_neg counted, shape_eq, lanes, Int.toNat_natCast]
  cases addressed : indices (v.base axis).shape with
  | nil => rfl
  | cons index rest =>
    have short : ¬v.rank < index.length := by
      have member : index ∈ indices (v.shape.eraseIdx axis) := by
        rw [← shape_base, addressed]
        exact List.mem_cons_self
      have length_eq := length_of_mem_indices_eraseIdx within member
      omega
    simp only [if_neg short]

theorem lanesAt_eq_ok_iff {lanes : List (List Nat × View)} :
    v.lanesAt axis = .ok lanes ↔ axis < v.rank ∧ lanes = v.lanes axis := by
  rcases Nat.lt_or_ge axis v.rank with within | beyond
  · simp [lanesAt_natCast within, within, eq_comm]
  · have nonneg : ¬(axis : Int) < 0 := by omega
    have outside : (axis : Int) < 0 ∨ (v.rank : Int) ≤ axis := by omega
    simp only [lanesAt, if_neg nonneg, if_pos outside]
    simp [Nat.not_lt.mpr beyond]

theorem mem_walk_views_iff : w ∈ (v.walk axis).views ↔ axis < v.rank ∧ w ∈ v.subviews axis := by
  rcases Nat.lt_or_ge axis v.rank with within | beyond
  · simp [walk_natCast within, within]
  · have nonneg : ¬(axis : Int) < 0 := by omega
    have missing : v.shape[axis]? = none := List.getElem?_eq_none (by rwa [length_shape])
    simp only [walk, extentAt?, if_neg nonneg, Int.toNat_natCast, missing]
    simp [Nat.not_lt.mpr beyond]

/-- The axes chosen so far with one more, counted from the end if its number is negative. -/
def chooseAxis (rank : Nat) (chosen : List Nat) (axis : Int) : Except Failure (List Nat) :=
  let counted : Int := if axis < 0 then axis + rank else axis
  if counted < 0 ∨ rank ≤ counted then .error (.axisOutOfBounds axis rank)
  else if counted.toNat ∈ chosen then .error .repeatedAxis
  else .ok (chosen ++ [counted.toNat])

theorem transposeBy_eq (v : View) (order : List Int) :
    v.transposeBy order =
      if order.length ≠ v.rank then .error .permutationLength
      else (order.foldlM (chooseAxis v.rank) []).map v.permute := by
  have step_eq : (fun chosen axis => do
      let counted : Int := if axis < 0 then axis + v.rank else axis
      if counted < 0 ∨ v.rank ≤ counted then throw (.axisOutOfBounds axis v.rank)
      if counted.toNat ∈ chosen then throw .repeatedAxis
      pure (chosen ++ [counted.toNat])) = chooseAxis v.rank := by
    funext chosen axis
    simp only [chooseAxis]
    split
    · rfl
    · split <;> rfl
  simp only [transposeBy] at step_eq ⊢
  rw [step_eq]
  split
  · rfl
  · cases order.foldlM (chooseAxis v.rank) [] <;> rfl

section ChooseAxis

variable {rank : Nat} {chosen all : List Nat}

theorem subperm_of_chooseAxis {number : Int} (distinct : chosen.Subperm (List.range rank))
    (added : chooseAxis rank chosen number = .ok all) :
    all.Subperm (List.range rank) ∧ all.length = chosen.length + 1 := by
  simp only [chooseAxis] at added
  generalize (if number < 0 then number + rank else number : Int) = counted at added
  split_ifs at added with outside repeated
  obtain rfl := Except.ok.inj added
  refine ⟨List.Nodup.subperm ?_ ?_, by simp⟩
  · rw [← List.concat_eq_append]
    exact (nodup_of_subperm distinct List.nodup_range).concat repeated
  · intro position member
    rcases List.mem_append.mp member with earlier | last
    · exact distinct.subset earlier
    · rw [List.mem_singleton.mp last]
      exact List.mem_range.mpr (by omega)

theorem subperm_of_foldlM_chooseAxis {order : List Int}
    (distinct : chosen.Subperm (List.range rank))
    (ran : order.foldlM (chooseAxis rank) chosen = .ok all) :
    all.Subperm (List.range rank) ∧ all.length = chosen.length + order.length := by
  induction order generalizing chosen with
  | nil =>
    cases ran
    exact ⟨distinct, rfl⟩
  | cons number order induction =>
    rw [List.foldlM_cons] at ran
    cases added : chooseAxis rank chosen number with
    | error failure =>
      rw [added] at ran
      cases ran
    | ok longer =>
      rw [added] at ran
      obtain ⟨longer_distinct, longer_length⟩ := subperm_of_chooseAxis distinct added
      obtain ⟨all_distinct, all_length⟩ := induction longer_distinct ran
      refine ⟨all_distinct, ?_⟩
      rw [all_length, longer_length, List.length_cons]
      omega

theorem foldlM_chooseAxis_natCast {order : List Nat} (distinct : (chosen ++ order).Nodup)
    (below : ∀ position ∈ order, position < rank) :
    (order.map Nat.cast).foldlM (chooseAxis rank) chosen = .ok (chosen ++ order) := by
  induction order generalizing chosen with
  | nil => simp [pure, Except.pure]
  | cons position order induction =>
    obtain ⟨position_below, order_below⟩ := List.forall_mem_cons.mp below
    have fresh : position ∉ chosen := fun earlier =>
      List.disjoint_of_nodup_append distinct earlier List.mem_cons_self
    have added : chooseAxis rank chosen position = .ok (chosen ++ [position]) := by
      have nonneg : ¬(position : Int) < 0 := by omega
      have listed : ¬((position : Int) < 0 ∨ (rank : Int) ≤ position) := by omega
      simp only [chooseAxis, if_neg nonneg, if_neg listed, Int.toNat_natCast, if_neg fresh]
    rw [List.map_cons, List.foldlM_cons, added]
    have longer_distinct : ((chosen ++ [position]) ++ order).Nodup := by
      rwa [List.append_assoc, List.singleton_append]
    have ran := induction longer_distinct order_below
    rwa [List.append_assoc, List.singleton_append] at ran

end ChooseAxis

theorem exists_perm_of_transposeBy {order : List Int} (permuted : v.transposeBy order = .ok w) :
    ∃ chosen : List Nat, chosen.Perm (List.range v.rank) ∧ w = v.permute chosen := by
  rw [transposeBy_eq] at permuted
  split at permuted
  case isTrue => cases permuted
  case isFalse lengths =>
    cases ran : order.foldlM (chooseAxis v.rank) [] with
    | error failure =>
      rw [ran] at permuted
      cases permuted
    | ok chosen =>
      rw [ran] at permuted
      obtain ⟨distinct, length_eq⟩ := subperm_of_foldlM_chooseAxis (List.nil_subperm) ran
      refine ⟨chosen, distinct.perm_of_length_le ?_, (Except.ok.inj permuted).symm⟩
      rw [List.length_range, length_eq, List.length_nil]
      omega

theorem transposeBy_natCast {order : List Nat} (perm : order.Perm (List.range v.rank)) :
    v.transposeBy (order.map Nat.cast) = .ok (v.permute order) := by
  have lengths : ¬(order.map (Nat.cast : Nat → Int)).length ≠ v.rank := by
    simpa using perm.length_eq
  have distinct : ([] ++ order).Nodup := perm.nodup_iff.mpr List.nodup_range
  have below : ∀ position ∈ order, position < v.rank := fun position member =>
    List.mem_range.mp (perm.subset member)
  rw [transposeBy_eq, if_neg lengths, foldlM_chooseAxis_natCast distinct below]
  rfl

/-- One view taken of another. -/
inductive Derives (v : View) : View → Prop
  /-- A slice of an axis. -/
  | slice {axis : Nat} {s : Slice} {w : View} (sliced : v.sliceAt axis s = .ok w) : Derives v w
  /-- The axes in another order. -/
  | permute {order : List Int} {w : View} (permuted : v.transposeBy order = .ok w) : Derives v w
  /-- A sub-view along an axis. -/
  | subview {axis : Nat} {w : View} (met : w ∈ (v.walk axis).views) : Derives v w
  /-- A lane along an axis. -/
  | lane {axis : Nat} {lanes : List (List Nat × View)} (walked : v.lanesAt axis = .ok lanes)
      {index : List Nat} {w : View} (met : (index, w) ∈ lanes) : Derives v w
  /-- A row. -/
  | row {w : View} (met : w ∈ v.rows) : Derives v w
  /-- The walk in memory order. -/
  | memoryOrder {w : View} (ordered : v.memoryOrder = some w) : Derives v w

theorem cells_subperm_of_mem {parts : List View} (met : w ∈ parts)
    (shared : (parts.flatMap View.cells).Perm v.cells) : w.cells.Subperm v.cells := by
  have part := subperm_flatMap (List.singleton_sublist.mpr met).subperm View.cells
  rw [List.flatMap_singleton] at part
  exact part.trans shared.subperm

theorem flatMap_cells_map_lanes_perm (within : axis < v.rank) :
    (((v.lanes axis).map Prod.snd).flatMap View.cells).Perm v.cells := by
  rw [lanes, List.map_map, List.flatMap_map, shape_base]
  exact flatMap_cells_lanes_perm within

/-- A view taken of another meets some of its cells, none of them more often. -/
theorem Derives.cells_subperm (derived : v.Derives w) : w.cells.Subperm v.cells := by
  cases derived with
  | slice sliced =>
    obtain ⟨within, kept, resolved, rfl⟩ := sliceAt_eq_ok_iff.mp sliced
    exact cells_select_subperm within (Slice.within_of_resolve resolved)
  | permute permuted =>
    obtain ⟨chosen, perm, rfl⟩ := exists_perm_of_transposeBy permuted
    exact (cells_permute_perm perm).subperm
  | subview met =>
    obtain ⟨within, part⟩ := mem_walk_views_iff.mp met
    exact cells_subperm_of_mem part (flatMap_cells_subviews_perm within)
  | lane walked met =>
    obtain ⟨within, rfl⟩ := lanesAt_eq_ok_iff.mp walked
    exact cells_subperm_of_mem (List.mem_map_of_mem (f := Prod.snd) met)
      (flatMap_cells_map_lanes_perm within)
  | row met => exact cells_subperm_of_mem met (.of_eq (flatMap_cells_rows v))
  | memoryOrder ordered => exact (cells_perm_of_memoryOrder ordered).subperm

/-- So does whatever a succession of them leads to. -/
theorem cells_subperm_of_derived (derived : Relation.ReflTransGen Derives v w) :
    w.cells.Subperm v.cells := by
  induction derived with
  | refl => exact .refl _
  | tail _ taken induction => exact taken.cells_subperm.trans induction

/-- Whether every step with valid arguments leads to views. -/
structure Divisible (v : View) : Prop where
  /-- An axis can be sliced by every step but zero. -/
  slice : ∀ axis < v.rank, ∀ s : Slice, s.step ≠ some 0 → ∃ w, v.sliceAt axis s = .ok w
  /-- The axes can be put in every order. -/
  permute : ∀ order : List Nat, order.Perm (List.range v.rank) →
    v.transposeBy (order.map Nat.cast) = .ok (v.permute order)
  /-- The walk along an axis meets every sub-view. -/
  subviews : ∀ axis < v.rank, (v.walk axis).complete = .ok (v.subviews axis)
  /-- Every lane along an axis can be reached. -/
  lanes : ∀ axis < v.rank, v.lanesAt axis = .ok (v.lanes axis)

theorem divisible (v : View) : v.Divisible where
  slice _ within _ moves := ⟨_, sliceAt_natCast within moves⟩
  permute _ perm := transposeBy_natCast perm
  subviews _ within := by
    rw [walk_natCast within]
    rfl
  lanes _ within := lanesAt_natCast within

end View

namespace Strided

variable {α : Type} {a : Strided α} {view : View}

/-- A succession of slices, orders of the axes, sub-views, lanes, rows and walks in memory order
always leads to a view of cells of the array, so of cells of its buffer, and if distinct indices of
the array address distinct cells, so do those of the view.  What is written through the view
changes nothing outside the array.  No step with valid arguments fails. -/
theorem derived_views (derived : Relation.ReflTransGen View.Derives a.view view) :
    view.footprint ⊆ a.view.footprint ∧
      (a.InBounds → (a.through view).InBounds) ∧
      (a.view.Injective → view.Injective) ∧
      (∀ [Inhabited α] (elements : List α), ∀ cell ∉ a.view.footprint,
        readCell ((a.through view).assign elements).buffer cell = readCell a.buffer cell) ∧
      view.Divisible := by
  have fewer := View.cells_subperm_of_derived derived
  refine ⟨?_, ?_, ?_, ?_, view.divisible⟩
  · intro cell member
    exact View.mem_footprint.mpr (fewer.subset (View.mem_footprint.mp member))
  · exact fun inside cell member => inside cell (fewer.subset member)
  · intro separate
    exact View.injective_iff_nodup.mpr
      (nodup_of_subperm fewer (View.injective_iff_nodup.mp separate))
  · intro _ elements cell outside
    have absent : cell ∉ view.cells := fun member =>
      outside (View.mem_footprint.mpr (fewer.subset member))
    exact readCell_writeCells_of_not_mem a.buffer absent elements

/-- A grid stored backwards: every other column from beyond the last one down, the columns met in
place of the rows, the last two rows, and of those the lane of the second one. -/
theorem derived_views_of_grid :
    let a : Strided Nat :=
      ⟨#[0, 1, 2, 3, 4, 5, 6, 7, 8, 9, 10, 11], ⟨11, [⟨3, -4⟩, ⟨4, -1⟩]⟩⟩
    let view : View := ⟨0, [⟨2, 2⟩]⟩
    Relation.ReflTransGen View.Derives a.view view ∧ view.footprint ⊆ a.view.footprint ∧
      (a.through view).InBounds ∧ view.Injective ∧ view.Divisible := by
  intro a view
  let columns : View := ⟨8, [⟨3, -4⟩, ⟨2, 2⟩]⟩
  let exchanged : View := ⟨8, [⟨2, 2⟩, ⟨3, -4⟩]⟩
  let last : View := ⟨4, [⟨2, 2⟩, ⟨2, -4⟩]⟩
  let downward : Slice := { start := some 9, step := some (-2) }
  let lastTwo : Slice := { start := some (-2), stop := some 40 }
  have sliced : a.view.sliceAt 1 downward = .ok columns :=
    View.sliceAt_eq_ok_iff.mpr ⟨by decide, ⟨3, -2, 2⟩, by decide, by decide⟩
  have permuted : columns.transposeBy [-1, 0] = .ok exchanged := rfl
  have shortened : exchanged.sliceAt 1 lastTwo = .ok last :=
    View.sliceAt_eq_ok_iff.mpr ⟨by decide, ⟨1, 1, 2⟩, by decide, by decide⟩
  have walked : last.lanesAt 0 = .ok (last.lanes 0) := View.lanesAt_natCast (by decide)
  have reached : last.Derives view := .lane walked (show ([1], view) ∈ last.lanes 0 by decide)
  have derived : Relation.ReflTransGen View.Derives a.view view :=
    (((Relation.ReflTransGen.single (.slice sliced)).tail (.permute permuted)).tail
      (.slice shortened)).tail reached
  have inside : a.InBounds := by
    simp only [InBounds, InBuffer]
    decide
  have separate : a.view.Injective := View.injective_iff_nodup.mpr (by decide)
  obtain ⟨covered, stays_inside, stays_separate, -, divisible⟩ := derived_views derived
  exact ⟨derived, covered, stays_inside inside, stays_separate separate, divisible⟩

end Strided

end StridedReduction

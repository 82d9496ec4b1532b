import Mathlib.Algebra.BigOperators.Group.List.Basic
import Mathlib.Data.List.GetD
import StridedReduction.Proofs.Grouping
import StridedReduction.Proofs.TightestAxis
import StridedReduction.View.Slice

/-!
# Axes in another order

An index of a view whose axes are in another order names the positions in that order; sorted back,
they are an index of the view itself, of the same cell (`cell_permute`).  An axis that is taken out
leaves the other ones in their order (`base_permute`), so the lanes along it are those of the view
itself (`lane_permute`).  A tightest axis without rival stays the tightest wherever it is moved
(`tightestAxis_permute`), so these lanes are grouped alike (`laneGrouping_permute`).
-/

namespace StridedReduction

theorem displacement_map {κ : Type} (keys : List κ) (axisOf : κ → Axis) (positionOf : κ → Nat) :
    displacement (keys.map axisOf) (keys.map positionOf) =
      (keys.map fun key => positionOf key * (axisOf key).stride).sum := by
  induction keys with
  | nil => rfl
  | cons key keys induction => simp [displacement, induction]

theorem map_mem_indices {κ : Type} {keys : List κ} {extentOf positionOf : κ → Nat} :
    keys.map positionOf ∈ indices (keys.map extentOf) ↔
      ∀ key ∈ keys, positionOf key < extentOf key := by
  induction keys with
  | nil => simp
  | cons key keys induction => simp [induction]

namespace View

variable {v : View} {order index : List Nat} {position : Nat}

/-- The position along an axis in an index for the axes in some order. -/
def positionAlong (order index : List Nat) (axis : Nat) : Nat :=
  index.getD (order.idxOf axis) 0

/-- The positions of an index for the axes in some order, sorted by axis. -/
def sortedBack (order index : List Nat) : List Nat :=
  (List.range order.length).map (positionAlong order index)

theorem map_positionAlong (distinct : order.Nodup) (length_eq : index.length = order.length) :
    order.map (positionAlong order index) = index := by
  apply List.ext_getElem
  · rw [List.length_map, length_eq]
  · intro place _ listed
    rw [List.getElem_map, positionAlong, distinct.idxOf_getElem, List.getD_eq_getElem _ _ listed]

theorem nodup_of_perm_range {count : Nat} (perm : order.Perm (List.range count)) : order.Nodup :=
  perm.nodup_iff.mpr List.nodup_range

theorem length_of_perm_range {count : Nat} (perm : order.Perm (List.range count)) :
    order.length = count := by
  simpa using perm.length_eq

@[simp] theorem rank_permute (v : View) (order : List Nat) :
    (v.permute order).rank = order.length := by
  rw [rank, permute, List.length_map]

theorem shape_permute (v : View) (order : List Nat) :
    (v.permute order).shape = order.map fun axis => (v.axis axis).extent := by
  rw [shape, permute, List.map_map]
  rfl

theorem shape_permute_of_shape_eq {w : View} (same : v.shape = w.shape) (order : List Nat) :
    (v.permute order).shape = (w.permute order).shape := by
  simp only [shape_permute, extent_eq_of_shape_eq same]

theorem shape_eq_map_range (v : View) :
    v.shape = (List.range v.rank).map fun axis => (v.axis axis).extent := by
  rw [shape, ← map_axis_range, List.map_map]
  rfl

section Permute

variable (perm : order.Perm (List.range v.rank)) (member : index ∈ indices (v.permute order).shape)

include perm member

theorem map_positionAlong_of_mem : order.map (positionAlong order index) = index := by
  apply map_positionAlong (nodup_of_perm_range perm)
  rw [length_of_mem_indices member, length_shape, rank_permute]

theorem cell_permute : (v.permute order).cell index = v.cell (sortedBack order index) := by
  calc (v.permute order).cell index
      = v.origin + displacement (order.map v.axis) (order.map (positionAlong order index)) := by
        rw [map_positionAlong_of_mem perm member]
        rfl
    _ = v.origin + displacement ((List.range v.rank).map v.axis)
          ((List.range v.rank).map (positionAlong order index)) := by
        rw [displacement_map, displacement_map, (perm.map _).sum_eq]
    _ = v.cell (sortedBack order index) := by
        rw [map_axis_range, sortedBack, length_of_perm_range perm]
        rfl

theorem sortedBack_mem_indices : sortedBack order index ∈ indices v.shape := by
  have listed := map_positionAlong_of_mem perm member
  rw [shape_permute, ← listed, map_mem_indices] at member
  rw [shape_eq_map_range, sortedBack, length_of_perm_range perm, map_mem_indices]
  exact fun axis within => member axis (perm.mem_iff.mpr within)

end Permute

/-- The number that an axis has once another one is gone. -/
def renumber (removed axis : Nat) : Nat :=
  if removed < axis then axis - 1 else axis

/-- The order of the remaining axes once the one at a position of the order is gone. -/
def orderWithout (order : List Nat) (position : Nat) : List Nat :=
  (order.eraseIdx position).map (renumber (order.getD position 0))

theorem axis_base {removed axis : Nat} (other : axis ≠ removed) :
    (v.base removed).axis (renumber removed axis) = v.axis axis := by
  simp only [base, View.axis, renumber, List.getD_eq_getElem?_getD, List.getElem?_eraseIdx]
  split <;> split <;> congr 2 <;> omega

theorem rank_base {axis : Nat} (within : axis < v.rank) : (v.base axis).rank + 1 = v.rank :=
  List.length_eraseIdx_add_one within

section Without

variable (distinct : order.Nodup) (within : position < order.length)

include distinct within

theorem ne_of_mem_eraseIdx {axis : Nat} (member : axis ∈ order.eraseIdx position) :
    axis ≠ order[position] := by
  obtain ⟨other, other_within, apart, rfl⟩ := List.mem_eraseIdx_iff_getElem.mp member
  rwa [Ne, distinct.getElem_inj_iff]

/-- The axes that remain of a view with its axes in another order are in that order. -/
theorem base_permute (v : View) :
    (v.permute order).base position =
      (v.base order[position]).permute (orderWithout order position) := by
  have axes_eq : (order.map v.axis).eraseIdx position =
      (orderWithout order position).map (v.base order[position]).axis := by
    rw [List.eraseIdx_map, orderWithout, List.map_map, List.getD_eq_getElem _ _ within]
    apply List.map_congr_left
    intro axis member
    exact (axis_base (ne_of_mem_eraseIdx distinct within member)).symm
  exact congrArg (View.mk v.origin) axes_eq

theorem shape_eraseIdx_permute (v : View) :
    (v.permute order).shape.eraseIdx position =
      ((v.base order[position]).permute (orderWithout order position)).shape := by
  rw [← shape_base, base_permute distinct within]

end Without

section Removal

variable (perm : order.Perm (List.range v.rank)) (within : position < order.length)

include perm within

omit perm in
theorem axis_permute : (v.permute order).axis position = v.axis order[position] := by
  have listed : position < (v.permute order).axes.length := by simpa [permute] using within
  rw [axis_eq_getElem listed]
  exact List.getElem_map _

theorem getElem_lt_rank : order[position] < v.rank :=
  List.mem_range.mp (perm.subset (List.getElem_mem within))

theorem orderWithout_perm :
    (orderWithout order position).Perm (List.range (v.base order[position]).rank) := by
  have distinct := nodup_of_perm_range perm
  have order_length := length_of_perm_range perm
  have removed_within := getElem_lt_rank perm within
  have rank_eq := rank_base removed_within
  have apart {axis : Nat} (member : axis ∈ order.eraseIdx position) : axis ≠ order[position] :=
    ne_of_mem_eraseIdx distinct within member
  rw [orderWithout, List.getD_eq_getElem _ _ within]
  -- The new numbers differ and are below the new rank, and there are as many of them.
  refine (List.Nodup.subperm ?_ ?_).perm_of_length_le ?_
  · apply (distinct.eraseIdx position).map_on
    intro first first_member second second_member same
    have first_apart := apart first_member
    have second_apart := apart second_member
    simp only [renumber] at same
    split at same <;> split at same <;> omega
  · intro number listed
    obtain ⟨axis, member, rfl⟩ := List.mem_map.mp listed
    have axis_apart := apart member
    have axis_within := List.mem_range.mp (perm.subset (List.mem_of_mem_eraseIdx member))
    rw [List.mem_range, renumber]
    split <;> omega
  · rw [List.length_range, List.length_map, List.length_eraseIdx_of_lt within]
    omega

section Lane

variable (member : index ∈ indices ((v.permute order).shape.eraseIdx position))

include member

theorem sortedBack_mem_indices_eraseIdx :
    sortedBack (orderWithout order position) index ∈
      indices (v.shape.eraseIdx order[position]) := by
  rw [shape_eraseIdx_permute (nodup_of_perm_range perm) within] at member
  rw [← shape_base]
  exact sortedBack_mem_indices (orderWithout_perm perm within) member

/-- The lanes along an axis are the same views in whichever order the axes are. -/
theorem lane_permute :
    (v.permute order).lane position index =
      v.lane order[position] (sortedBack (orderWithout order position) index) := by
  have distinct := nodup_of_perm_range perm
  rw [shape_eraseIdx_permute distinct within] at member
  rw [lane, lane, base_permute distinct within, cell_permute (orderWithout_perm perm within) member,
    axis_permute within]

end Lane

theorem isTightest_permute :
    (v.permute order).IsTightest position ↔ v.IsTightest order[position] := by
  have order_length := length_of_perm_range perm
  have position_within : position < v.rank := by omega
  simp only [IsTightest, rank_permute, order_length, axis_permute within, position_within,
    getElem_lt_rank perm within, true_and]
  constructor
  · intro least other other_within
    have listed : other ∈ order := perm.mem_iff.mpr (List.mem_range.mpr other_within)
    obtain ⟨place, place_within, rfl⟩ := List.getElem_of_mem listed
    rw [← axis_permute place_within]
    exact least place (by omega)
  · intro least place place_within
    have place_listed : place < order.length := by omega
    rw [axis_permute place_listed]
    exact least _ (getElem_lt_rank perm place_listed)

end Removal

theorem hasSingleTightest_permute (perm : order.Perm (List.range v.rank))
    (single : v.HasSingleTightest) : (v.permute order).HasSingleTightest := by
  intro first second first_tightest second_tightest
  have first_within : first < order.length := by simpa using first_tightest.1
  have second_within : second < order.length := by simpa using second_tightest.1
  have same := single _ _ ((isTightest_permute perm first_within).mp first_tightest)
    ((isTightest_permute perm second_within).mp second_tightest)
  exact (nodup_of_perm_range perm).getElem_inj_iff.mp same

section Single

variable (perm : order.Perm (List.range v.rank)) (within : position < order.length)
  (single : v.HasSingleTightest)

include perm within single

/-- A tightest axis without rival is found wherever it is moved. -/
theorem tightestAxis_permute :
    (v.permute order).tightestAxis = some position ↔ v.tightestAxis = some order[position] := by
  rw [tightestAxis_eq_some_iff single,
    tightestAxis_eq_some_iff (hasSingleTightest_permute perm single),
    isTightest_permute perm within]

/-- The lanes along an axis are grouped alike in whichever order the axes are. -/
theorem laneGrouping_permute (fast : Bool)
    (member : index ∈ indices ((v.permute order).shape.eraseIdx position)) :
    (v.permute order).laneGrouping fast position index =
      v.laneGrouping fast order[position] (sortedBack (orderWithout order position) index) := by
  have same_path : ((v.permute order).tightestAxis == some position) =
      (v.tightestAxis == some order[position]) := by
    rw [Bool.eq_iff_iff, beq_iff_eq, beq_iff_eq, tightestAxis_permute perm within single]
  simp only [laneGrouping, same_path, lane_permute perm within member]

end Single

end View

end StridedReduction

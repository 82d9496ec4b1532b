import Mathlib.Data.List.Perm.Basic
import Mathlib.Algebra.Order.Group.Multiset
import StridedReduction.Proofs.AxisReduction

/-!
# Groupings

In which order a reduction combines which entries is a tree, decided by the layout of the array
alone.  Its entries are the cells of the array, each as often as an index addresses it, because the
entries of a tree are themselves the value of the tree under the union of multisets, which is
associative and commutative (`keys_grouping`).  The reduction is the value of the tree under the
operation of the elements, whatever that is (`reduce_eq_value`); so two layouts of one array reduce
to values that differ only by the grouping.
-/

namespace StridedReduction

/-- The grouping of entries that a fold combines. -/
inductive Grouping (κ : Type)
  /-- Where a fold starts. -/
  | start
  /-- A single entry. -/
  | entry (key : κ)
  /-- Two groups combined. -/
  | join (left right : Grouping κ)

namespace Grouping

variable {ι κ α : Type}

instance : Inhabited (Grouping κ) := ⟨start⟩

/-- The entries from left to right. -/
def keys : Grouping κ → List κ
  | start => []
  | entry key => [key]
  | join left right => left.keys ++ right.keys

/-- What the groups combine to. -/
def value (op : α → α → α) (identity : α) (element : κ → α) : Grouping κ → α
  | start => identity
  | entry key => element key
  | join left right => op (left.value op identity element) (right.value op identity element)

/-- The same groups of other entries. -/
def map (rename : ι → κ) : Grouping ι → Grouping κ
  | start => start
  | entry key => entry (rename key)
  | join left right => join (left.map rename) (right.map rename)

theorem value_map (op : α → α → α) (identity : α) (element : κ → α) (rename : ι → κ)
    (g : Grouping ι) :
    (g.map rename).value op identity element =
      g.value op identity fun key => element (rename key) := by
  induction g with
  | start => rfl
  | entry key => rfl
  | join left right left_value right_value =>
    simp only [map, value, left_value, right_value]

private theorem exists_map_eq_of_map_eq_keys {rename : ι → κ} {g : Grouping κ} {names : List ι}
    (named : names.map rename = g.keys) :
    ∃ original : Grouping ι, original.keys = names ∧ original.map rename = g := by
  induction g generalizing names with
  | start =>
    rw [keys, List.map_eq_nil_iff] at named
    exact ⟨start, named.symm, rfl⟩
  | entry key =>
    obtain ⟨name, rfl, rfl⟩ := List.map_eq_singleton_iff.mp named
    exact ⟨entry name, rfl, rfl⟩
  | join left right left_original right_original =>
    obtain ⟨front, back, rfl, front_eq, back_eq⟩ := List.map_eq_append_iff.mp named
    obtain ⟨first, first_keys, first_map⟩ := left_original front_eq
    obtain ⟨second, second_keys, second_map⟩ := right_original back_eq
    exact ⟨join first second, by rw [keys, first_keys, second_keys],
      by rw [map, first_map, second_map]⟩

/-- Entries that occur under other names, perhaps several names for one entry, can be named. -/
theorem exists_map_eq {rename : ι → κ} {g : Grouping κ} {names : List ι}
    (perm : g.keys.Perm (names.map rename)) :
    ∃ original : Grouping ι, original.keys.Perm names ∧ original.map rename = g := by
  have each : List.Forall₂ (fun key name => key = rename name) (names.map rename) names := by
    rw [List.forall₂_map_left_iff, List.forall₂_same]
    intro name _
    rfl
  obtain ⟨ordered, named, ordered_perm⟩ := List.perm_comp_forall₂ perm each
  have named_eq : ordered.map rename = g.keys := by
    rw [← List.forall₂_map_right_iff, List.forall₂_eq_eq_eq] at named
    exact named.symm
  obtain ⟨original, keys_eq, map_eq⟩ := exists_map_eq_of_map_eq_keys named_eq
  exact ⟨original, keys_eq ▸ ordered_perm, map_eq⟩

section Folds

variable (op : α → α → α) (identity : α) (element : κ → α)

theorem value_foldl (g : Grouping κ) (groups : List (Grouping κ)) :
    (groups.foldl join g).value op identity element =
      (groups.map (value op identity element)).foldl op (g.value op identity element) :=
  map_foldl (fun _ _ => rfl) g groups

theorem value_interleavedFold (width : Nat) (groups : List (Grouping κ)) :
    (interleavedFold join start width groups).value op identity element =
      interleavedFold op identity width (groups.map (value op identity element)) :=
  map_interleavedFold (fun _ _ => rfl) start width groups

theorem keys_foldl (g : Grouping κ) (groups : List (Grouping κ)) :
    (groups.foldl join g).keys = g.keys ++ groups.flatMap keys := by
  induction groups generalizing g with
  | nil => simp
  | cons first groups induction => simp [induction, keys]

/-- An interleaved fold takes the entries of its groups in another order. -/
theorem keys_interleavedFold (width : Nat) (groups : List (Grouping κ)) :
    (interleavedFold join start width groups).keys.Perm (groups.flatMap keys) := by
  let tally (g : Grouping κ) : Multiset κ := g.keys
  have keeps (left right : Grouping κ) : tally (join left right) = tally left + tally right :=
    (Multiset.coe_add left.keys right.keys).symm
  have united (tallies : List (Multiset κ)) :
      interleavedFold HAdd.hAdd 0 width tallies = tallies.foldl HAdd.hAdd 0 :=
    interleavedFold_eq_foldl width tallies
  have counted : tally (interleavedFold join start width groups) =
      tally (groups.foldl join start) := by
    rw [map_interleavedFold keeps, map_foldl keeps]
    exact united _
  have listed := Multiset.coe_eq_coe.mp counted
  rwa [keys_foldl] at listed

end Folds

end Grouping

open Grouping

namespace View

/-- How the cells of one row are grouped. -/
def rowGrouping (fast : Bool) (row : View) : Grouping Int :=
  let entries := row.cells.map entry
  if fast && row.isDenseRow then interleavedFold join start reductionWidth entries
  else entries.foldl join start

/-- How the cells of a view are grouped. -/
def grouping (fast : Bool) (v : View) : Grouping Int :=
  match if fast then v.memoryOrder else none with
  | some run => interleavedFold join start reductionWidth (run.cells.map entry)
  | none => (v.rows.map (rowGrouping fast)).foldl join start

private theorem flatMap_keys_entry {κ : Type} (keys : List κ) :
    (keys.map entry).flatMap Grouping.keys = keys := by
  rw [List.flatMap_map]
  exact List.flatMap_singleton' keys

theorem keys_rowGrouping (fast : Bool) (row : View) :
    (row.rowGrouping fast).keys.Perm row.cells := by
  rw [rowGrouping]
  split
  case isTrue =>
    have perm := keys_interleavedFold reductionWidth (row.cells.map entry)
    rwa [flatMap_keys_entry] at perm
  case isFalse =>
    rw [keys_foldl, flatMap_keys_entry]
    exact .refl _

/-- The cells of a view are grouped without loss or repetition. -/
theorem keys_grouping (fast : Bool) (v : View) : (v.grouping fast).keys.Perm v.cells := by
  rw [grouping]
  split
  case h_1 run found =>
    have ordered : v.memoryOrder = some run := by
      cases fast with
      | true => exact found
      | false => cases found
    have perm := keys_interleavedFold reductionWidth (run.cells.map entry)
    rw [flatMap_keys_entry] at perm
    exact perm.trans (cells_perm_of_memoryOrder ordered)
  case h_2 =>
    rw [keys_foldl, List.flatMap_map, ← flatMap_cells_rows]
    exact .flatMap_left _ fun row _ => keys_rowGrouping fast row

/-- A row of nine, walked downwards: the partial results are paired across their halves. -/
example : (grouping true ⟨8, [⟨9, -1⟩]⟩).keys = [0, 4, 1, 5, 2, 6, 3, 7, 8] := by decide

/-- How the cells of the lane along an axis at an index of the remaining axes are grouped. -/
def laneGrouping (fast : Bool) (v : View) (axis : Nat) (index : List Nat) : Grouping Int :=
  let lane := v.lane axis index
  if fast && v.tightestAxis == some axis then lane.grouping true
  else (lane.cells.map entry).foldl join start

theorem keys_laneGrouping (fast : Bool) (v : View) (axis : Nat) (index : List Nat) :
    (v.laneGrouping fast axis index).keys.Perm (v.lane axis index).cells := by
  rw [laneGrouping]
  split
  case isTrue => exact keys_grouping true _
  case isFalse =>
    rw [keys_foldl, flatMap_keys_entry]
    exact .refl _

end View

namespace Strided

variable {α : Type} [Inhabited α] (op : α → α → α) (identity : α) (fast : Bool) (a : Strided α)

theorem map_value_entry (view : View) :
    (view.cells.map entry).map (value op identity (readCell a.buffer)) =
      (a.through view).toList := by
  rw [List.map_map]
  rfl

theorem reduceRow_eq_value (row : View) :
    a.reduceRow op identity fast row =
      (row.rowGrouping fast).value op identity (readCell a.buffer) := by
  rw [reduceRow, View.rowGrouping]
  split
  case isTrue => rw [value_interleavedFold, map_value_entry]
  case isFalse =>
    rw [value_foldl, map_value_entry]
    rfl

/-- A reduction is the value of the grouping of its cells, whatever the operation. -/
theorem reduce_eq_value :
    a.reduce op identity fast = (a.view.grouping fast).value op identity (readCell a.buffer) := by
  rw [reduce, View.grouping]
  cases if fast then a.view.memoryOrder else none with
  | some run => rw [value_interleavedFold, map_value_entry]
  | none =>
    simp only [reduceRows, reduceRow_eq_value]
    rw [value_foldl, List.map_map, List.foldl_map]
    rfl

/-- A reduction along an axis holds the values of the groupings of its lanes. -/
theorem reduceAxis_eq_value {axis : Nat} (within : axis < a.view.rank) :
    a.reduceAxis op identity fast axis = ofList (a.view.shape.eraseIdx axis)
      ((indices (a.view.shape.eraseIdx axis)).map fun index =>
        (a.view.laneGrouping fast axis index).value op identity (readCell a.buffer)) := by
  rw [reduceAxis, View.shape_base]
  apply congrArg (ofList _)
  simp only [View.laneGrouping]
  split
  case isTrue =>
    rw [reduceLanes_eq]
    simp only [reduce_eq_value]
    rfl
  case isFalse =>
    rw [reduceSubviews_eq within]
    apply List.map_congr_left
    intro index member
    rw [value_foldl, map_value_entry, toList_through_lane a within member]
    rfl

theorem get_reduceAxis {axis : Nat} (within : axis < a.view.rank) {index : List Nat}
    (member : index ∈ indices (a.view.shape.eraseIdx axis)) :
    (a.reduceAxis op identity fast axis).get index =
      (a.view.laneGrouping fast axis index).value op identity (readCell a.buffer) := by
  rw [reduceAxis_eq_value op identity fast a within, get_ofList_map _ member]

end Strided

namespace View

/-- The grouping of the cells names each index once. -/
theorem exists_indexGrouping (fast : Bool) (v : View) :
    ∃ g : Grouping (List Nat), g.keys.Perm (indices v.shape) ∧ g.map v.cell = v.grouping fast := by
  have perm := keys_grouping fast v
  rw [cells_eq_map_cell] at perm
  exact exists_map_eq perm

/-- The grouping of the cells of a lane names each position along the axis once. -/
theorem exists_positionGrouping (fast : Bool) {v : View} {axis : Nat} (within : axis < v.rank)
    {index : List Nat} (member : index ∈ indices (v.shape.eraseIdx axis)) :
    ∃ g : Grouping Nat, g.keys.Perm (List.range (v.axis axis).extent) ∧
      (g.map fun position => v.cell (index.insertIdx axis position)) =
        v.laneGrouping fast axis index := by
  have perm := keys_laneGrouping fast v axis index
  rw [cells_lane within member] at perm
  exact exists_map_eq perm

end View

namespace AnyArray

/-- Every layout groups the indices of an array in a way of its own, each index once, and decides
nothing else: over every buffer and every type of elements, a sum or product is the value of that
grouping under the addition or multiplication of the elements.  Along an axis the same holds for the
positions of each lane. -/
theorem reductions_are_groupings (v : View) (fast : Bool) :
    (∃ g : Grouping (List Nat), g.keys.Perm (indices v.shape) ∧
      ∀ (t : ElementType) (swapped : Bool) (buffer : Array t.Carrier) (code : Reduction),
        let data : Strided t.Carrier := ⟨buffer, v⟩
        (elements t swapped data).fold code fast =
          .ok (.scalar t (g.value (code.operation t) (code.identity t) data.get))) ∧
    ∀ axis < v.rank, ∃ g : List Nat → Grouping Nat,
      (∀ index ∈ indices (v.shape.eraseIdx axis),
        (g index).keys.Perm (List.range (v.axis axis).extent)) ∧
      ∀ (t : ElementType) (swapped : Bool) (buffer : Array t.Carrier) (code : Reduction),
        let data : Strided t.Carrier := ⟨buffer, v⟩
        ∃ result : Strided t.Carrier,
          (elements t swapped data).foldAxis axis code fast =
              .ok (.array (elements t swapped result)) ∧
            result.view.shape = v.shape.eraseIdx axis ∧
            ∀ index ∈ indices (v.shape.eraseIdx axis),
              result.get index = (g index).value (code.operation t) (code.identity t)
                fun position => data.get (index.insertIdx axis position) := by
  constructor
  · obtain ⟨g, perm, named⟩ := v.exists_indexGrouping fast
    refine ⟨g, perm, ?_⟩
    intro t swapped buffer code data
    have reduced := Strided.reduce_eq_value (code.operation t) (code.identity t) fast data
    rw [← named, value_map] at reduced
    have folded : (elements t swapped data).fold code fast =
        .ok (.scalar t (data.reduce (code.operation t) (code.identity t) fast)) :=
      rfl
    rw [folded, reduced]
    rfl
  · intro axis within
    have each : ∀ index ∈ indices (v.shape.eraseIdx axis), ∃ g : Grouping Nat,
        g.keys.Perm (List.range (v.axis axis).extent) ∧
          (g.map fun position => v.cell (index.insertIdx axis position)) =
            v.laneGrouping fast axis index :=
      fun index member => View.exists_positionGrouping fast within member
    choose! g found using each
    refine ⟨g, fun index member => (found index member).1, ?_⟩
    intro t swapped buffer code data
    refine ⟨_, foldAxis_elements swapped within code fast, ?_, ?_⟩
    · rw [Strided.reduceAxis_eq_value _ _ fast data within, Strided.shape_ofList]
    · intro index member
      rw [Strided.get_reduceAxis _ _ fast data within member, ← (found index member).2, value_map]
      rfl

end AnyArray

end StridedReduction

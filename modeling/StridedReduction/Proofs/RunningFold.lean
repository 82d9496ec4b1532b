import Mathlib.Data.List.Chain
import StridedReduction.Fold
import StridedReduction.Proofs.Agreement

/-!
# Running folds in place

Sub-views that are combined in turn, each with the one before it.  While the fold is on its way the
sub-views behind it hold their final elements and those ahead their old ones, because no two of them
share a cell (`isChain_accumulateAfter`); cells of none are never written.  So every lane runs
through its fold, whatever the operation (`runsAlong_accumulate`).
-/

namespace StridedReduction

section Buffers

variable {α : Type} [Inhabited α] (op : α → α → α)

@[simp] theorem size_combineInto (buffer : Array α) (current previous : View) :
    (combineInto op buffer current previous).size = buffer.size :=
  size_writeCells _ _ _

theorem readCell_combineInto_of_not_mem (buffer : Array α) {current : View} {cell : Int}
    (absent : cell ∉ current.cells) (previous : View) :
    readCell (combineInto op buffer current previous) cell = readCell buffer cell :=
  readCell_writeCells_of_not_mem buffer absent _

theorem map_readCell_combineInto {buffer : Array α} {current previous : View}
    (separate : current.cells.Nodup) (inside : ∀ cell ∈ current.cells, InBuffer buffer cell)
    (same_size : previous.size = current.size) :
    current.cells.map (readCell (combineInto op buffer current previous)) =
      List.zipWith op (current.cells.map (readCell buffer))
        (previous.cells.map (readCell buffer)) := by
  apply map_readCell_writeCells separate inside
  simp [same_size]

/-- Views of one size, no two of them with a cell in common, all in a buffer. -/
structure Apart (buffer : Array α) (views : List View) : Prop where
  separate : (views.flatMap View.cells).Nodup
  inside : ∀ cell ∈ views.flatMap View.cells, InBuffer buffer cell
  same_size : ∀ v ∈ views, ∀ w ∈ views, v.size = w.size

namespace Apart

variable {buffer other : Array α} {v : View} {views : List View}

omit [Inhabited α]

theorem of_size_eq (apart : Apart buffer views) (size_eq : other.size = buffer.size) :
    Apart other views := by
  obtain ⟨separate, inside, same_size⟩ := apart
  refine ⟨separate, ?_, same_size⟩
  intro cell member
  rw [InBuffer, size_eq]
  exact inside cell member

theorem tail (apart : Apart buffer (v :: views)) : Apart buffer views := by
  obtain ⟨separate, inside, same_size⟩ := apart
  rw [List.flatMap_cons, List.nodup_append'] at separate
  exact ⟨separate.2.1, fun cell member => inside cell (List.mem_append_right _ member),
    fun v v_mem w w_mem =>
      same_size v (List.mem_cons_of_mem _ v_mem) w (List.mem_cons_of_mem _ w_mem)⟩

theorem separate_head (apart : Apart buffer (v :: views)) : v.cells.Nodup :=
  (List.nodup_append'.mp apart.separate).1

theorem disjoint_head (apart : Apart buffer (v :: views)) :
    v.cells.Disjoint (views.flatMap View.cells) :=
  (List.nodup_append'.mp apart.separate).2.2

theorem inside_head (apart : Apart buffer (v :: views)) :
    ∀ cell ∈ v.cells, InBuffer buffer cell :=
  fun cell member => apart.inside cell (List.mem_append_left _ member)

end Apart

/-- The new elements of a view are its old ones combined with the new ones of the view before. -/
def Follows (old new : Array α) (earlier later : View) : Prop :=
  later.cells.map (readCell new) =
    List.zipWith op (later.cells.map (readCell old)) (earlier.cells.map (readCell new))

@[simp] theorem size_accumulateAfter (buffer : Array α) (previous : View) (views : List View) :
    (accumulateAfter op buffer previous views).size = buffer.size := by
  induction views generalizing buffer previous with
  | nil => rfl
  | cons current rest induction => rw [accumulateAfter, induction, size_combineInto]

theorem readCell_accumulateAfter_of_not_mem (buffer : Array α) (previous : View)
    {views : List View} {cell : Int} (absent : cell ∉ views.flatMap View.cells) :
    readCell (accumulateAfter op buffer previous views) cell = readCell buffer cell := by
  induction views generalizing buffer previous with
  | nil => rfl
  | cons current rest induction =>
    rw [List.flatMap_cons, List.mem_append, not_or] at absent
    obtain ⟨not_current, not_rest⟩ := absent
    rw [accumulateAfter, induction _ _ not_rest, readCell_combineInto_of_not_mem op _ not_current]

theorem map_readCell_accumulateAfter_of_disjoint (buffer : Array α) (previous : View)
    {view : View} {views : List View}
    (disjoint : view.cells.Disjoint (views.flatMap View.cells)) :
    view.cells.map (readCell (accumulateAfter op buffer previous views)) =
      view.cells.map (readCell buffer) := by
  apply List.map_congr_left
  intro cell member
  exact readCell_accumulateAfter_of_not_mem op buffer previous (disjoint member)

/-- Halfway through, the sub-views that are still ahead hold their old elements, and the one before
them holds its final ones. -/
theorem isChain_accumulateAfter {old buffer : Array α} {previous : View} {views : List View}
    (apart : Apart buffer (previous :: views))
    (ahead : ∀ cell ∈ views.flatMap View.cells, readCell buffer cell = readCell old cell) :
    (previous :: views).IsChain (Follows op old (accumulateAfter op buffer previous views)) := by
  induction views generalizing buffer previous with
  | nil => exact .singleton previous
  | cons current rest induction =>
    have later_apart : Apart buffer (current :: rest) := apart.tail
    let next := combineInto op buffer current previous
    have next_apart : Apart next (current :: rest) :=
      later_apart.of_size_eq (size_combineInto op buffer current previous)
    have next_ahead : ∀ cell ∈ rest.flatMap View.cells, readCell next cell = readCell old cell := by
      intro cell member
      have not_current : cell ∉ current.cells :=
        fun present => later_apart.disjoint_head present member
      rw [readCell_combineInto_of_not_mem op buffer not_current]
      exact ahead cell (List.mem_append_right _ member)
    refine List.isChain_cons_cons.mpr ⟨?_, induction next_apart next_ahead⟩
    -- Both views keep what they hold now: the one is behind and the other is written just here.
    have previous_final :=
      map_readCell_accumulateAfter_of_disjoint op buffer previous apart.disjoint_head
    have current_final :=
      map_readCell_accumulateAfter_of_disjoint op next current next_apart.disjoint_head
    have current_old : current.cells.map (readCell buffer) = current.cells.map (readCell old) :=
      List.map_congr_left fun cell member => ahead cell (List.mem_append_left _ member)
    have same_size : previous.size = current.size :=
      apart.same_size _ List.mem_cons_self _ (List.mem_cons_of_mem _ List.mem_cons_self)
    rw [Follows, previous_final, ← current_old]
    exact current_final.trans
      (map_readCell_combineInto op later_apart.separate_head later_apart.inside_head same_size)

variable {buffer : Array α} {views : List View}

@[simp] theorem size_accumulateViews : (accumulateViews op buffer views).size = buffer.size := by
  cases views with
  | nil => rfl
  | cons first rest => exact size_accumulateAfter op buffer first rest

theorem readCell_accumulateViews_of_not_mem {cell : Int}
    (absent : cell ∉ views.flatMap View.cells) :
    readCell (accumulateViews op buffer views) cell = readCell buffer cell := by
  cases views with
  | nil => rfl
  | cons first rest =>
    exact readCell_accumulateAfter_of_not_mem op buffer first fun present =>
      absent (List.mem_append_right _ present)

theorem isChain_accumulateViews (apart : Apart buffer views) :
    views.IsChain (Follows op buffer (accumulateViews op buffer views)) := by
  cases views with
  | nil => exact .nil
  | cons first rest => exact isChain_accumulateAfter op apart fun _ _ => rfl

theorem map_readCell_accumulateViews_first {first : View} {rest : List View}
    (apart : Apart buffer (first :: rest)) :
    first.cells.map (readCell (accumulateViews op buffer (first :: rest))) =
      first.cells.map (readCell buffer) :=
  map_readCell_accumulateAfter_of_disjoint op buffer first apart.disjoint_head

end Buffers

namespace Strided

variable {α : Type} [Inhabited α] {op : α → α → α} {a : Strided α} {axis : Nat}

/-- The elements of an array run through the fold of another one along an axis: in every lane the
first element is kept and each further one is combined with the new one before it. -/
structure RunsAlong (op : α → α → α) (axis : Nat) (old new : Strided α) : Prop where
  shape_eq : new.view.shape = old.view.shape
  first_eq : ∀ index ∈ indices (old.view.shape.eraseIdx axis), 0 < (old.view.axis axis).extent →
    new.get (index.insertIdx axis 0) = old.get (index.insertIdx axis 0)
  next_eq : ∀ index ∈ indices (old.view.shape.eraseIdx axis), ∀ position,
    position + 1 < (old.view.axis axis).extent →
      new.get (index.insertIdx axis (position + 1)) =
        op (old.get (index.insertIdx axis (position + 1))) (new.get (index.insertIdx axis position))

omit [Inhabited α] in
theorem apart_subviews (within : axis < a.view.rank) (separate : a.view.Injective)
    (inside : a.InBounds) : Apart a.buffer (a.view.subviews axis) := by
  have perm := View.flatMap_cells_subviews_perm within
  constructor
  case separate => exact perm.nodup_iff.mpr (View.injective_iff_nodup.mp separate)
  case inside => exact fun cell member => inside cell (perm.mem_iff.mp member)
  case same_size =>
    intro v v_mem w w_mem
    obtain ⟨_, -, rfl⟩ := List.mem_map.mp v_mem
    obtain ⟨_, -, rfl⟩ := List.mem_map.mp w_mem
    rw [View.size, View.shape_fix, View.size, View.shape_fix]

theorem runsAlong_accumulate (within : axis < a.view.rank) (separate : a.view.Injective)
    (inside : a.InBounds) : RunsAlong op axis a (a.accumulate op axis) := by
  have apart := apart_subviews within separate inside
  have read_old (position : Nat) := toList_through_fix a within position
  have read_new (position : Nat) :
      ((a.accumulate op axis).through (a.view.fix axis position)).toList =
        (indices (a.view.shape.eraseIdx axis)).map fun index =>
          (a.accumulate op axis).get (index.insertIdx axis position) :=
    toList_through_fix (a.accumulate op axis) within position
  constructor
  case shape_eq => rfl
  case first_eq =>
    intro index member positive
    obtain ⟨count, extent_eq⟩ := Nat.exists_eq_succ_of_ne_zero (Nat.ne_of_gt positive)
    have split : a.view.subviews axis = a.view.fix axis 0 ::
        (List.range count).map fun position => a.view.fix axis (position + 1) := by
      rw [View.subviews, extent_eq, List.range_succ_eq_map, List.map_cons, List.map_map]
      rfl
    have kept := map_readCell_accumulateViews_first op (split ▸ apart)
    rw [← split] at kept
    exact List.map_inj_left.mp ((read_new 0).symm.trans (kept.trans (read_old 0))) index member
  case next_eq =>
    intro index member position below
    have chain := isChain_accumulateViews op apart
    rw [View.subviews, List.isChain_map, List.isChain_range] at chain
    have follows := chain position (by omega)
    have listed := (read_new (position + 1)).symm.trans (follows.trans
      (congrArg₂ (List.zipWith op) (read_old (position + 1)) (read_new position)))
    rw [List.zipWith_map, List.zipWith_self] at listed
    exact List.map_inj_left.mp listed index member

theorem size_accumulate (op : α → α → α) (a : Strided α) (axis : Nat) :
    (a.accumulate op axis).buffer.size = a.buffer.size :=
  size_accumulateViews op

theorem readCell_accumulate_of_not_mem (op : α → α → α) (within : axis < a.view.rank) {cell : Int}
    (absent : cell ∉ a.view.footprint) :
    readCell (a.accumulate op axis).buffer cell = readCell a.buffer cell := by
  apply readCell_accumulateViews_of_not_mem
  rwa [(View.flatMap_cells_subviews_perm within).mem_iff, ← View.mem_footprint]

namespace RunsAlong

variable {old other new : Strided α}

theorem of_agrees (runs : RunsAlong op axis old new) (agrees : old.Agrees other)
    (within : axis < old.view.rank) : RunsAlong op axis other new := by
  obtain ⟨shape_eq, first_eq, next_eq⟩ := runs
  have kept {index : List Nat} (member : index ∈ indices (old.view.shape.eraseIdx axis))
      {position : Nat} (below : position < (old.view.axis axis).extent) :
      old.get (index.insertIdx axis position) = other.get (index.insertIdx axis position) :=
    agrees.get_eq _ ((View.insertIdx_mem_indices_shape within).mpr ⟨below, member⟩)
  constructor
  case shape_eq => exact shape_eq.trans agrees.shape_eq
  case first_eq =>
    intro index member positive
    rw [← agrees.shape_eq] at member
    rw [← agrees.extent_eq] at positive
    rw [first_eq index member positive, kept member positive]
  case next_eq =>
    intro index member position below
    rw [← agrees.shape_eq] at member
    rw [← agrees.extent_eq] at below
    rw [next_eq index member position below, kept member below]

end RunsAlong

end Strided

end StridedReduction

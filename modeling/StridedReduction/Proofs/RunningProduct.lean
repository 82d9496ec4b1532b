import StridedReduction.Array.Steps
import StridedReduction.Proofs.Addressing
import StridedReduction.Proofs.Checks
import StridedReduction.Proofs.Memory
import StridedReduction.Proofs.RunningFold

/-!
# Running products

A running product is a running fold in place on a copy, which is dense and therefore without
repeated cells whatever the layout of the array.  In a memory of numbered buffers the fold goes from
element to element and writes where it reads; on views without repeated cells that leaves what the
fold of whole sub-views leaves (`Memory.load_accumulate`).  The copy has a buffer of its own, so the
array is still there afterwards (`Memory.buffer_cumulative_of_lt`).
-/

namespace StridedReduction

namespace Strided

variable {α : Type} [Inhabited α] {op : α → α → α} {a : Strided α} {axis : Nat}

theorem runsAlong_cumulative (within : axis < a.view.rank) :
    RunsAlong op axis a (a.cumulative op axis) := by
  have within_copy : axis < a.copy.view.rank := a.copy_agrees.rank_eq ▸ within
  have runs : RunsAlong op axis a.copy (a.copy.accumulate op axis) :=
    runsAlong_accumulate within_copy (injective_dense _) (inBounds_ofList a.length_toList)
  exact runs.of_agrees a.copy_agrees within_copy

end Strided

namespace Memory

variable {α : Type} [Inhabited α] (op : α → α → α)

/-- The memory after each view of a buffer is combined in place with the one before it. -/
def accumulateAfter (number : Nat) (memory : Memory α) : View → List View → Memory α
  | _, [] => memory
  | previous, current :: rest =>
    accumulateAfter number
      (memory.combine op ⟨number, current⟩ ⟨number, previous⟩ ⟨number, current⟩) current rest

/-- The memory after the running fold along an axis of the array at a place, one element after the
other where it stands. -/
def accumulate (p : Placed) (axis : Nat) (memory : Memory α) : Memory α :=
  match p.view.subviews axis with
  | [] => memory
  | first :: rest => memory.accumulateAfter op p.buffer first rest

/-- The memory after the running fold along an axis of a copy of the array at a place, which is put
into a buffer of its own. -/
def cumulative (source : Placed) (axis : Nat) (memory : Memory α) : Memory α :=
  let copy := (memory.load source).copy
  (memory.allocate copy.buffer).accumulate op ⟨memory.size, copy.view⟩ axis

theorem buffer_combine_in_place {current previous : View} (separate : current.cells.Nodup)
    (disjoint : previous.cells.Disjoint current.cells) (shape_eq : previous.shape = current.shape)
    (number : Nat) (memory : Memory α) :
    (memory.combine op ⟨number, current⟩ ⟨number, previous⟩ ⟨number, current⟩).buffer number =
      combineInto op (memory.buffer number) current previous := by
  let written : Placed := ⟨number, current⟩
  let read : Placed := ⟨number, previous⟩
  have read_ahead : read.ReadsAhead written (indices current.shape) :=
    Placed.readsAhead_of_disjoint shape_eq disjoint
  have written_ahead : written.ReadsAhead written (indices current.shape) :=
    Placed.readsAhead_self (View.injective_iff_nodup.mpr separate)
  have loaded : (memory.combine op written read written).load written = _ :=
    load_combine written_ahead read_ahead memory
  rw [combineInto, View.cells_eq_map_cell previous, shape_eq, View.cells_eq_map_cell current,
    List.map_map, List.map_map, List.zipWith_map, List.zipWith_self, ← View.cells_eq_map_cell]
  exact congrArg Strided.buffer loaded

theorem buffer_accumulateAfter {previous : View} {views : List View}
    (separate : ((previous :: views).flatMap View.cells).Nodup) {shape : List Nat}
    (shapes : ∀ view ∈ previous :: views, view.shape = shape) (number : Nat) (memory : Memory α) :
    (memory.accumulateAfter op number previous views).buffer number =
      StridedReduction.accumulateAfter op (memory.buffer number) previous views := by
  induction views generalizing memory previous with
  | nil => rfl
  | cons current rest induction =>
    rw [List.flatMap_cons, List.nodup_append'] at separate
    obtain ⟨-, later_separate, apart⟩ := separate
    obtain ⟨previous_shape, later_shapes⟩ := List.forall_mem_cons.mp shapes
    have current_separate : current.cells.Nodup := (List.nodup_append'.mp later_separate).1
    have disjoint : previous.cells.Disjoint current.cells :=
      fun _ member other => apart member (List.mem_append_left _ other)
    have shape_eq : previous.shape = current.shape :=
      previous_shape.trans (later_shapes _ List.mem_cons_self).symm
    rw [accumulateAfter, induction later_separate later_shapes,
      buffer_combine_in_place op current_separate disjoint shape_eq,
      StridedReduction.accumulateAfter]

theorem buffer_accumulateAfter_of_ne {number other : Nat} (different : other ≠ number)
    (memory : Memory α) (previous : View) (views : List View) :
    (memory.accumulateAfter op number previous views).buffer other = memory.buffer other := by
  induction views generalizing memory previous with
  | nil => rfl
  | cons current rest induction =>
    rw [accumulateAfter, induction, buffer_combine_of_ne different]

theorem buffer_accumulate_of_ne {p : Placed} {other : Nat} (different : other ≠ p.buffer)
    (axis : Nat) (memory : Memory α) :
    (memory.accumulate op p axis).buffer other = memory.buffer other := by
  rw [accumulate]
  split
  · rfl
  · exact buffer_accumulateAfter_of_ne op different _ _ _

/-- From element to element in memory a running fold does what it does to whole sub-views. -/
theorem load_accumulate {p : Placed} {axis : Nat} (within : axis < p.view.rank)
    (separate : p.view.Injective) (memory : Memory α) :
    (memory.accumulate op p axis).load p = (memory.load p).accumulate op axis := by
  have parts_separate : ((p.view.subviews axis).flatMap View.cells).Nodup :=
    (View.flatMap_cells_subviews_perm within).nodup_iff.mpr (View.injective_iff_nodup.mp separate)
  have shapes : ∀ view ∈ p.view.subviews axis, view.shape = p.view.shape.eraseIdx axis := by
    intro view member
    obtain ⟨position, -, rfl⟩ := List.mem_map.mp member
    exact View.shape_fix p.view axis position
  have buffer_eq : (memory.accumulate op p axis).buffer p.buffer =
      accumulateViews op (memory.buffer p.buffer) (p.view.subviews axis) := by
    rw [accumulate]
    cases split : p.view.subviews axis with
    | nil => rfl
    | cons first rest =>
      rw [split] at parts_separate shapes
      exact buffer_accumulateAfter op parts_separate shapes p.buffer memory
  rw [load, buffer_eq]
  rfl

theorem load_cumulative {source : Placed} {axis : Nat} (within : axis < source.view.rank)
    (memory : Memory α) :
    (memory.cumulative op source axis).load ⟨memory.size, .dense source.view.shape⟩ =
      (memory.load source).cumulative op axis := by
  let copy := (memory.load source).copy
  have within_copy : axis < copy.view.rank :=
    (memory.load source).copy_agrees.rank_eq ▸ within
  have folded := load_accumulate op (p := ⟨memory.size, copy.view⟩) within_copy
    (Strided.injective_dense _) (memory.allocate copy.buffer)
  rwa [load_allocate] at folded

theorem buffer_cumulative_of_lt {memory : Memory α} {number : Nat} (older : number < memory.size)
    (source : Placed) (axis : Nat) :
    (memory.cumulative op source axis).buffer number = memory.buffer number := by
  rw [cumulative, buffer_accumulate_of_ne op (Nat.ne_of_lt older), buffer_allocate_of_lt older]

end Memory

namespace BufferStep

/-- With the number of an axis, an unchecked step is the running fold along that axis; where the
axis has at most one position the fold has nothing to do either. -/
theorem accumulated_natCast {t : ElementType} {data : Strided t.Carrier} {axis : Nat}
    (within : axis < data.view.rank) {operation : ElementwiseOperation}
    {op : t.Carrier → t.Carrier → t.Carrier} (provided : operation.on? t = some op) :
    accumulated t data axis operation = ((data.accumulate op axis).buffer, none) := by
  simp only [accumulated, View.extentAt?_natCast within, View.walk_natCast within, provided]
  split
  case isFalse => rfl
  case isTrue short =>
    have extent_cases : (data.view.axis axis).extent = 0 ∨ (data.view.axis axis).extent = 1 := by
      omega
    rw [Strided.accumulate, View.subviews]
    rcases extent_cases with extent_eq | extent_eq <;> rw [extent_eq] <;> rfl

end BufferStep

namespace AnyArray

open Strided

/-- A running fold in place leaves every lane run through the fold and every other cell as it was,
whatever the operation, on any view without repeated cells.  So a running product holds in every
lane the products of its elements with the ones before them, whatever the layout of the array.  It
is what stands in a new buffer of memory after the fold from element to element of a copy of the
array there, and every buffer that was there before is unchanged. -/
theorem runningFolds_in_place {t : ElementType} (swapped : Bool) (data : Strided t.Carrier)
    {axis : Nat} (within : axis < data.view.rank) :
    (∀ op : t.Carrier → t.Carrier → t.Carrier, data.view.Injective → data.InBounds →
      let after := data.accumulate op axis
      RunsAlong op axis data after ∧
        after.buffer.size = data.buffer.size ∧
        (∀ cell ∉ data.view.footprint, readCell after.buffer cell = readCell data.buffer cell) ∧
        ∀ operation : ElementwiseOperation, operation.on? t = some op →
          BufferStep.accumulated t data axis operation = (after.buffer, none)) ∧
    (t ≠ .boolean → ∀ argument : Argument, argument.axis? = some (axis : Int) →
      ∃ result : Strided t.Carrier,
        (Call.cumulativeProduct argument).apply (elements t swapped data) =
            .ok { value := .array (elements t swapped result) } ∧
          RunsAlong t.mul axis data result ∧
          ∀ (memory : Memory t.Carrier) (source : Placed), memory.load source = data →
            let after := memory.cumulative t.mul source axis
            after.load ⟨memory.size, .dense data.view.shape⟩ = result ∧
              ∀ number < memory.size, after.buffer number = memory.buffer number) := by
  constructor
  · intro op separate inside after
    exact ⟨runsAlong_accumulate within separate inside, size_accumulate op data axis,
      fun cell absent => readCell_accumulate_of_not_mem op within absent,
      fun operation provided => BufferStep.accumulated_natCast within provided⟩
  · intro numeric argument given
    have runs : RunsAlong t.mul axis data (data.cumulative t.mul axis) :=
      runsAlong_cumulative within
    refine ⟨_, cumulativeProduct_elements swapped data numeric given within, runs, ?_⟩
    rintro memory source rfl after
    exact ⟨Memory.load_cumulative t.mul within memory,
      fun number older => Memory.buffer_cumulative_of_lt t.mul older source axis⟩

/-- Differences run down two rows of bytes that are stored crosswise behind two other cells, which
stay; the running products are held in order in another buffer, and all of the bytes stay. -/
theorem runningFolds_of_crossed_rows :
    let k := IntegerType.oneByte true
    let byte (value : Int) : Word k := Word.wrap k value
    let data : Strided (Word k) :=
      ⟨#[byte 91, byte 92, byte 3, byte (-2), byte 5, byte 10, byte 7, byte 20],
        ⟨6, [⟨2, 1⟩, ⟨3, -2⟩]⟩⟩
    let after := data.accumulate (· - ·) 1
    1 < data.view.rank ∧ data.view.Injective ∧ data.InBounds ∧
      RunsAlong (· - ·) 1 data after ∧
      after.buffer.toList.map Word.value = [91, 92, 5, 8, -2, -10, 7, 20] ∧
      ∃ result : Strided (Word k),
        (Call.cumulativeProduct (.integer 1)).apply (elements (.integer k) false data) =
            .ok { value := .array (elements (.integer k) false result) } ∧
          (result.get [1, 2]).value = 112 ∧
          ((Memory.mk #[data.buffer]).cumulative (· * ·) ⟨0, data.view⟩ 1).buffer 0 =
            data.buffer := by
  intro k byte data after
  have within : 1 < data.view.rank := by decide
  have separate : data.view.Injective := by
    rw [View.injective_iff_nodup]
    decide
  have inside : data.InBounds := by
    unfold InBounds InBuffer
    decide
  obtain ⟨folds, products⟩ := runningFolds_in_place (t := .integer k) false data within
  obtain ⟨result, outcome, runs, in_memory⟩ := products (by decide) (.integer 1) rfl
  have runs_down := (folds (· - ·) separate inside).1
  obtain ⟨-, kept⟩ := in_memory ⟨#[data.buffer]⟩ ⟨0, data.view⟩ rfl
  refine ⟨within, separate, inside, runs_down, by decide, result, outcome, ?_,
    kept 0 Nat.zero_lt_one⟩
  have first : result.get [1, 0] = byte 20 := runs.first_eq [1] (by decide) (by decide)
  have second : result.get [1, 1] = byte 10 * result.get [1, 0] :=
    runs.next_eq [1] (by decide) 0 (by decide)
  have third : result.get [1, 2] = byte (-2) * result.get [1, 1] :=
    runs.next_eq [1] (by decide) 1 (by decide)
  rw [third, second, first]
  decide

end AnyArray

end StridedReduction

import StridedReduction.Proofs.Differences
import StridedReduction.Proofs.Memory

/-!
# The buffers of differences

A difference computation run on a memory of numbered buffers, element by element.  Its two arrays
change roles after every round, yet they never share a buffer, and neither of them is in a buffer
that was there before (`Exchange.separated_after`).  A round therefore never writes what it still
has to read, and memory holds the two arrays that a `DifferenceState` keeps as values
(`Exchange.contents_after`).  The result starts at the first cell of its buffer, with the strides of
a dense array whose extent depends on the parity of the order (`difference_in_two_buffers`).
-/

namespace StridedReduction

variable {α : Type}

namespace View

/-- The strides of the axes. -/
def strides (v : View) : List Int :=
  v.axes.map Axis.stride

theorem strides_leading {v : View} {axis : Nat} (within : axis < v.rank) (count : Nat) :
    (v.leading axis count).strides = v.strides := by
  have listed : axis < v.axes.length := within
  have listed_strides : axis < (v.axes.map Axis.stride).length := by rwa [List.length_map]
  have same_stride : (v.axis axis).stride = (v.axes.map Axis.stride)[axis] := by
    rw [axis_eq_getElem listed, List.getElem_map]
  rw [strides, leading, select, List.map_set, Int.mul_one, same_stride, List.set_getElem_self,
    strides]

end View

namespace Strided

namespace Leads

variable {part : Strided α} {shape : List Nat} {axis count : Nat}
  (leads : part.Leads shape axis count)

include leads

theorem origin_eq : part.view.origin = 0 := by
  rw [leads.view_eq, View.leading, View.select, Int.zero_mul, Int.add_zero, View.dense]

theorem strides_eq (within : axis < shape.length) :
    part.view.strides = (View.dense shape).strides := by
  rw [leads.view_eq, View.strides_leading (by rwa [View.rank_dense])]

end Leads

/-- After an even number of rounds the differences are in an array as long as the one that they are
of, after an odd number in one that is a position shorter. -/
theorem holderShape_eq (a : Strided α) (axis rounds : Nat) :
    a.holderShape axis rounds = a.view.shape.set axis
      (if Even rounds then (a.view.axis axis).extent else (a.view.axis axis).extent - 1) := by
  by_cases even : Even rounds
  · rw [holderShape, Nat.even_iff.mp even, if_pos even, Nat.sub_zero]
  · rw [holderShape, Nat.not_even_iff.mp even, if_neg even]

end Strided

/-- A difference computation in memory. -/
structure Exchange (α : Type) where
  /-- All buffers. -/
  memory : Memory α
  /-- Where the differences so far are. -/
  current : Placed
  /-- Where the next differences go. -/
  scratch : Placed

namespace Exchange

/-- The two arrays as values. -/
def contents (e : Exchange α) : DifferenceState α :=
  ⟨e.memory.load e.current, e.memory.load e.scratch⟩

/-- The part of the current array without its last position. -/
def head (e : Exchange α) (axis : Nat) : Placed :=
  e.current.slice axis .dropLast

/-- The part of the current array without its first position. -/
def tail (e : Exchange α) (axis : Nat) : Placed :=
  e.current.slice axis .dropFirst

variable [Inhabited α]

/-- Before the first round the two arrays are put into a new buffer each. -/
def start (zero : α) (memory : Memory α) (source : Placed) (axis : Nat) : Exchange α :=
  let values := DifferenceState.start zero (memory.load source) axis
  ⟨(memory.allocate values.current.buffer).allocate values.scratch.buffer,
    ⟨memory.size, values.current.view⟩, ⟨memory.size + 1, values.scratch.view⟩⟩

/-- One round: the differences of neighbours are written to the scratch array, the two arrays change
roles, and the new scratch array becomes two positions shorter. -/
def next (subtract : α → α → α) (axis : Nat) (e : Exchange α) : Exchange α :=
  ⟨e.memory.combine subtract (e.tail axis) (e.head axis) e.scratch, e.scratch,
    e.current.slice axis .dropLastTwo⟩

/-- The computation on an array in memory after a number of rounds. -/
def after (subtract : α → α → α) (zero : α) (memory : Memory α) (source : Placed)
    (axis rounds : Nat) : Exchange α :=
  (next subtract axis)^[rounds] (start zero memory source axis)

/-- The two arrays are in two buffers that the memory did not have before, and the buffers that it
had are unchanged. -/
structure Separated (memory : Memory α) (e : Exchange α) : Prop where
  apart : e.current.buffer ≠ e.scratch.buffer
  current_fresh : memory.size ≤ e.current.buffer
  scratch_fresh : memory.size ≤ e.scratch.buffer
  kept : ∀ number < memory.size, e.memory.buffer number = memory.buffer number

theorem separated_start (zero : α) (memory : Memory α) (source : Placed) (axis : Nat) :
    (start zero memory source axis).Separated memory := by
  refine ⟨Nat.ne_of_lt (Nat.lt_succ_self _), Nat.le_refl _, Nat.le_succ _, ?_⟩
  intro number older
  rw [start, Memory.buffer_allocate_of_lt (by rw [Memory.size_allocate]; omega),
    Memory.buffer_allocate_of_lt older]

/-- A round only writes to the buffer of the scratch array. -/
theorem Separated.next {memory : Memory α} {e : Exchange α} (separated : e.Separated memory)
    (subtract : α → α → α) (axis : Nat) : (e.next subtract axis).Separated memory := by
  obtain ⟨apart, current_fresh, scratch_fresh, kept⟩ := separated
  refine ⟨apart.symm, scratch_fresh, current_fresh, ?_⟩
  intro number older
  have other : number ≠ e.scratch.buffer := by omega
  rw [Exchange.next, Memory.buffer_combine_of_ne other, kept number older]

theorem separated_after (subtract : α → α → α) (zero : α) (memory : Memory α) (source : Placed)
    (axis rounds : Nat) : (after subtract zero memory source axis rounds).Separated memory := by
  induction rounds with
  | zero => exact separated_start zero memory source axis
  | succ rounds induction =>
    rw [after, Function.iterate_succ_apply']
    exact induction.next subtract axis

theorem contents_start (zero : α) (memory : Memory α) (source : Placed) (axis : Nat) :
    (start zero memory source axis).contents =
      DifferenceState.start zero (memory.load source) axis := by
  let values := DifferenceState.start zero (memory.load source) axis
  let once := memory.allocate values.current.buffer
  have size_once : once.size = memory.size + 1 := Memory.size_allocate memory _
  have current_eq : (once.allocate values.scratch.buffer).load ⟨memory.size, values.current.view⟩ =
      values.current := by
    have older : memory.size < once.size := by omega
    rw [Memory.load, Memory.buffer_allocate_of_lt older, Memory.buffer_allocate_self]
  have scratch_eq :
      (once.allocate values.scratch.buffer).load ⟨memory.size + 1, values.scratch.view⟩ =
        values.scratch := by
    rw [← size_once, Memory.load_allocate]
  exact congrArg₂ DifferenceState.mk current_eq scratch_eq

/-- In memory a round does to the two arrays what it does to them as values, because its operands
are not in the buffer that it writes to. -/
theorem contents_next {e : Exchange α} (apart : e.current.buffer ≠ e.scratch.buffer) {axis : Nat}
    (fits : e.current.view.shape.set axis ((e.current.view.axis axis).extent - 1) =
      e.scratch.view.shape) (subtract : α → α → α) :
    (e.next subtract axis).contents = e.contents.next subtract axis := by
  have tail_apart : (e.tail axis).buffer ≠ e.scratch.buffer := apart
  have head_apart : (e.head axis).buffer ≠ e.scratch.buffer := apart
  have rest_apart : (e.current.slice axis .dropLastTwo).buffer ≠ e.scratch.buffer := apart
  have written : (e.next subtract axis).memory.load e.scratch =
      (e.contents.next subtract axis).current := by
    rw [Exchange.next, Memory.load_combine (Placed.readsAhead_of_ne tail_apart _)
      (Placed.readsAhead_of_ne head_apart _), ← fits]
    exact congrArg (e.memory.load e.scratch).assign
      (Strided.zipWith_slices subtract (e.memory.load e.current) axis).symm
  have unwritten : (e.next subtract axis).memory.load (e.current.slice axis .dropLastTwo) =
      (e.contents.next subtract axis).scratch :=
    Memory.load_combine_of_ne rest_apart e.memory
  exact congrArg₂ DifferenceState.mk written unwritten

section Rounds

variable (subtract : α → α → α) (zero : α) (memory : Memory α) {source : Placed} {axis : Nat}
  (within : axis < source.view.rank) (rounds : Nat)

include within

theorem contents_after :
    (after subtract zero memory source axis rounds).contents =
      (DifferenceState.start zero (memory.load source) axis).run subtract axis rounds := by
  induction rounds with
  | zero => exact contents_start zero memory source axis
  | succ rounds induction =>
    have reached : DifferenceState.Reached subtract (memory.load source) axis rounds
        (after subtract zero memory source axis rounds).contents :=
      induction ▸ DifferenceState.reached_run within zero rounds
    rw [after, Function.iterate_succ_apply', DifferenceState.run_succ, ← induction]
    exact contents_next (separated_after subtract zero memory source axis rounds).apart
      (reached.shape_differences within) subtract

theorem reached_after :
    DifferenceState.Reached subtract (memory.load source) axis rounds
      (after subtract zero memory source axis rounds).contents := by
  rw [contents_after subtract zero memory within]
  exact DifferenceState.reached_run within zero rounds

theorem load_after :
    (after subtract zero memory source axis rounds).contents.current =
      (memory.load source).difference subtract zero rounds axis := by
  rw [contents_after subtract zero memory within, Strided.difference_eq_current]

end Rounds

/-- What holds before a round of the difference of an array in memory: the shapes of the two arrays
and of what is subtracted, and where they are. -/
structure Ready (source : Placed) (axis round : Nat) (e : Exchange α) : Prop where
  current_shape :
    e.current.view.shape = source.view.shape.set axis ((source.view.axis axis).extent - round)
  scratch_shape : e.scratch.view.shape =
    source.view.shape.set axis ((source.view.axis axis).extent - round - 1)
  apart : e.current.buffer ≠ e.scratch.buffer
  current_fresh : e.current.buffer ≠ source.buffer
  scratch_fresh : e.scratch.buffer ≠ source.buffer
  tail_shape : (e.tail axis).view.shape = e.scratch.view.shape
  head_shape : (e.head axis).view.shape = e.scratch.view.shape
  tail_disjoint : e.scratch.footprint ∩ (e.tail axis).footprint = ∅
  head_disjoint : e.scratch.footprint ∩ (e.head axis).footprint = ∅

theorem ready_after (subtract : α → α → α) (zero : α) {memory : Memory α} {source : Placed}
    (allocated : source.buffer < memory.size) {axis : Nat} (within : axis < source.view.rank)
    (round : Nat) : (after subtract zero memory source axis round).Ready source axis round := by
  have reached := reached_after subtract zero memory within round
  obtain ⟨apart, current_fresh, scratch_fresh, -⟩ :=
    separated_after subtract zero memory source axis round
  have fits := reached.shape_differences within
  exact {
    current_shape := reached.current_shape
    scratch_shape := reached.scratch_shape
    apart
    current_fresh := Nat.ne_of_gt (Nat.lt_of_lt_of_le allocated current_fresh)
    scratch_fresh := Nat.ne_of_gt (Nat.lt_of_lt_of_le allocated scratch_fresh)
    tail_shape := (View.shape_slice_dropFirst _ _).trans fits
    head_shape := (View.shape_slice_dropLast _ _).trans fits
    tail_disjoint := Placed.footprint_inter_eq_empty apart.symm
    head_disjoint := Placed.footprint_inter_eq_empty apart.symm }

end Exchange

namespace AnyArray

/-- Before each of its rounds a difference has its two arrays in two buffers other than that of its
argument, and what is subtracted has the shape of the array that the differences are written to and
shares no cell with it; so memory holds what the rounds make of values.  The result is what the last
round has written: it starts at the first cell of its buffer, with the strides of a dense array that
is as long as the argument for even orders and a position shorter for odd ones.  No buffer that was
there before has changed. -/
theorem difference_in_two_buffers {t : ElementType} (swapped : Bool) (memory : Memory t.Carrier)
    {source : Placed} (allocated : source.buffer < memory.size) {axis order : Nat}
    (within : axis < source.view.rank) (shorter : order < (source.view.axis axis).extent)
    {number along : Option Argument}
    (order_given : (number.getD Call.defaultOrder).index? = some (order : Int))
    (axis_given : (along.getD Call.defaultAxis).axis? = some (axis : Int))
    (subtract : t.Carrier → t.Carrier → t.Carrier) :
    let extent := (source.view.axis axis).extent
    let full := source.view.shape.set axis (if Even order then extent else extent - 1)
    let data := memory.load source
    let after := Exchange.after subtract t.zero memory source axis
    let result := (after order).memory.load (after order).current
    (∀ round < order, (after round).Ready source axis round ∧
        (after round).contents =
          (DifferenceState.start t.zero data axis).run subtract axis round) ∧
      (t.sub? = some subtract →
        (Call.difference number along).apply (elements t swapped data) =
          .ok { value := .array (elements t swapped result) }) ∧
      result.view.shape = source.view.shape.set axis (extent - order) ∧
      result.view.origin = 0 ∧ result.view.strides = (View.dense full).strides ∧
      result.buffer.size = extentProduct full ∧
      ∀ number < memory.size, (after order).memory.buffer number = memory.buffer number := by
  intro extent full data after result
  have result_eq : result = data.difference subtract t.zero order axis :=
    Exchange.load_after subtract t.zero memory within order
  have full_eq : full = data.holderShape axis order := (data.holderShape_eq axis order).symm
  have leads : result.Leads full axis (extent - order) :=
    full_eq ▸ (Exchange.reached_after subtract t.zero memory within order).current_leads
  have within_full : axis < full.length := by rwa [List.length_set, View.length_shape]
  refine ⟨?_, ?_, ?_, leads.origin_eq, leads.strides_eq within_full, leads.size_eq,
    (Exchange.separated_after subtract t.zero memory source axis order).kept⟩
  · intro round _
    exact ⟨Exchange.ready_after subtract t.zero allocated within round,
      Exchange.contents_after subtract t.zero memory within round⟩
  · intro provided
    have outcome := apply_difference swapped data provided within order_given axis_given
    rwa [if_pos (.inr shorter), ← result_eq] at outcome
  · rw [leads.shape_eq, List.set_set]

/-- Two rows of bytes that are stored backwards in the second of two buffers: the third difference
keeps the gaps of rows of three, of which it only has the first position. -/
theorem difference_in_two_buffers_of_backward_rows :
    let k := IntegerType.oneByte true
    let byte (value : Int) : Word k := Word.wrap k value
    let memory : Memory (Word k) :=
      ⟨#[#[byte 9], #[byte 1, byte 0, byte 5, byte 2, byte 7, byte 7, byte (-3), byte 4]]⟩
    let source : Placed := ⟨1, ⟨7, [⟨2, -4⟩, ⟨4, -1⟩]⟩⟩
    let after := Exchange.after (fun left right : Word k => left - right)
      (ElementType.integer k).zero memory source 1
    let result := (after 3).memory.load (after 3).current
    source.buffer < memory.size ∧ 1 < source.view.rank ∧ 3 < (source.view.axis 1).extent ∧
      (after 2).Ready source 1 2 ∧
      (Call.difference (some (.integer 3)) (some (.integer 1))).apply
          (elements (.integer k) false (memory.load source)) =
        .ok { value := .array (elements (.integer k) false result) } ∧
      result.view.shape = [2, 1] ∧ result.view.origin = 0 ∧ result.view.strides = [3, 1] ∧
      (after 3).memory.buffer 0 = #[byte 9] := by
  intro k byte memory source after result
  have allocated : source.buffer < memory.size := Nat.one_lt_two
  have within : 1 < source.view.rank := Nat.one_lt_two
  have shorter : 3 < (source.view.axis 1).extent := Nat.lt_succ_self 3
  obtain ⟨ready, outcome, shape_eq, origin_eq, strides_eq, -, kept⟩ :=
    @difference_in_two_buffers (.integer k) false memory source allocated 1 3 within shorter
      (some (.integer 3)) (some (.integer 1)) rfl rfl fun left right : Word k => left - right
  exact ⟨allocated, within, shorter, (ready 2 (Nat.lt_succ_self 2)).1, outcome rfl, shape_eq,
    origin_eq, strides_eq, kept 0 Nat.zero_lt_two⟩

end AnyArray

end StridedReduction

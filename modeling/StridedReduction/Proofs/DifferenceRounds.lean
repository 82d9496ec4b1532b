import Mathlib.Logic.Function.Iterate
import StridedReduction.Proofs.Agreement
import StridedReduction.Proofs.Selection

/-!
# Rounds of differences

After every round the two arrays of a difference computation are the leading parts of two dense
arrays, one as long as the array along the axis and one a position shorter, which change roles; and
the current one holds in every lane the forward difference iterated as often as there were rounds
(`reached_run`).  What the reused array held before is overwritten as far as its view reaches.  So
the result and its strides are determined for every operation (`view_difference`,
`get_difference`).
-/

namespace StridedReduction

variable {α : Type}

/-- The forward difference of a sequence. -/
def forwardDifference (subtract : α → α → α) (f : Nat → α) (position : Nat) : α :=
  subtract (f (position + 1)) (f position)

/-- An iterated difference reads no further than its order. -/
theorem iterate_forwardDifference_congr (subtract : α → α → α) {f g : Nat → α}
    {order position : Nat} (same : ∀ source ≤ position + order, f source = g source) :
    (forwardDifference subtract)^[order] f position =
      (forwardDifference subtract)^[order] g position := by
  induction order generalizing f g with
  | zero => exact same position (Nat.le_refl position)
  | succ order induction =>
    rw [Function.iterate_succ_apply, Function.iterate_succ_apply]
    apply induction
    intro source within
    rw [forwardDifference, forwardDifference, same (source + 1) (by omega),
      same source (by omega)]

namespace Strided

/-- An array is seen through the first positions along an axis of a dense array. -/
structure Leads (part : Strided α) (shape : List Nat) (axis count : Nat) : Prop where
  view_eq : part.view = (View.dense shape).leading axis count
  size_eq : part.buffer.size = extentProduct shape

namespace Leads

variable {part : Strided α} {shape : List Nat} {axis count : Nat}

theorem of_dense {buffer : Array α} (within : axis < shape.length)
    (full : shape.getD axis 1 = count) (size_eq : buffer.size = extentProduct shape) :
    Leads ⟨buffer, .dense shape⟩ shape axis count := by
  refine ⟨?_, size_eq⟩
  have within_dense : axis < (View.dense shape).rank := by rwa [View.rank_dense]
  have extent_eq : ((View.dense shape).axis axis).extent = count := by
    rw [← View.getD_shape, View.shape_dense, full]
  rw [← extent_eq, View.leading_extent within_dense]

section Views

variable (leads : part.Leads shape axis count) (within : axis < shape.length)

include leads

theorem shape_eq : part.view.shape = shape.set axis count := by
  rw [leads.view_eq, View.shape_leading, View.shape_dense]

include within

theorem within_view : axis < part.view.rank := by
  rwa [← View.length_shape, leads.shape_eq, List.length_set]

theorem extent_eq : (part.view.axis axis).extent = count := by
  rw [leads.view_eq, View.extent_leading]
  rwa [View.rank_dense]

/-- What an array is shortened to leads the same dense array. -/
theorem dropLastTwo :
    (part.through (part.view.slice axis .dropLastTwo)).Leads shape axis (count - 2) := by
  refine ⟨?_, leads.size_eq⟩
  change part.view.slice axis .dropLastTwo = _
  rw [View.slice_dropLastTwo, leads.extent_eq within, leads.view_eq, View.leading_leading]
  rwa [View.rank_dense]

end Views

section Writing

variable [Inhabited α] (leads : part.Leads shape axis count) (within : axis < shape.length)
  (fits : count ≤ shape.getD axis 1)

include leads

omit [Inhabited α] in
theorem assign (elements : List α) : (part.assign elements).Leads shape axis count :=
  ⟨leads.view_eq, (size_writeCells _ _ _).trans leads.size_eq⟩

include within fits

/-- What is written to an array that leads a dense one is read back, whatever it held before. -/
theorem toList_assign {elements : List α} (full : elements.length = part.size) :
    (part.assign elements).toList = elements := by
  have within_dense : axis < (View.dense shape).rank := by rwa [View.rank_dense]
  have fits_dense : count ≤ ((View.dense shape).axis axis).extent := by
    rwa [← View.getD_shape, View.shape_dense]
  have separate : part.view.Injective := by
    rw [leads.view_eq]
    exact (injective_dense shape).leading within_dense fits_dense
  have inside : part.InBounds := by
    intro cell member
    rw [leads.view_eq] at member
    have reached := View.mem_cells_of_leading within_dense fits_dense member
    rw [cells_dense, mem_consecutive] at reached
    rw [InBuffer, leads.size_eq]
    omega
  exact Strided.toList_assign separate inside full

end Writing

end Leads

end Strided

namespace Strided

/-- The shape of the dense array that the differences are in after a number of rounds. -/
def holderShape (a : Strided α) (axis rounds : Nat) : List Nat :=
  a.view.shape.set axis ((a.view.axis axis).extent - rounds % 2)

variable {a : Strided α} {axis : Nat}

theorem holderShape_add_two (rounds : Nat) :
    a.holderShape axis (rounds + 2) = a.holderShape axis rounds := by
  rw [holderShape, Nat.add_mod_right, holderShape]

theorem length_holderShape (rounds : Nat) :
    (a.holderShape axis rounds).length = a.view.rank := by
  rw [holderShape, List.length_set, View.length_shape]

theorem getD_holderShape (within : axis < a.view.rank) (rounds : Nat) :
    (a.holderShape axis rounds).getD axis 1 = (a.view.axis axis).extent - rounds % 2 := by
  have listed : axis < a.view.shape.length := by simpa using within
  rw [holderShape, List.getD_eq_getElem?_getD, List.getElem?_set_self listed, Option.getD_some]

theorem holderShape_zero (within : axis < a.view.rank) : a.holderShape axis 0 = a.view.shape := by
  have listed : axis < a.view.shape.length := by simpa using within
  rw [holderShape, Nat.zero_mod, Nat.sub_zero, ← View.getElem_shape listed, List.set_getElem_self]

theorem set_holderShape (rounds count : Nat) :
    (a.holderShape axis rounds).set axis count = a.view.shape.set axis count := by
  rw [holderShape, List.set_set]

/-- The differences of neighbours along an axis, in the order of the indices. -/
theorem zipWith_slices [Inhabited α] (subtract : α → α → α) (a : Strided α) (axis : Nat) :
    let tail := a.through (a.view.slice axis .dropFirst)
    let head := a.through (a.view.slice axis .dropLast)
    List.zipWith subtract tail.toList head.toList =
      (indices (a.view.shape.set axis ((a.view.axis axis).extent - 1))).map fun index =>
        subtract (tail.get index) (head.get index) := by
  intro tail head
  have tail_shape : tail.view.shape = a.view.shape.set axis ((a.view.axis axis).extent - 1) :=
    View.shape_slice_dropFirst a.view axis
  have head_shape : head.view.shape = a.view.shape.set axis ((a.view.axis axis).extent - 1) :=
    View.shape_slice_dropLast a.view axis
  rw [toList_eq_map_get, toList_eq_map_get, tail_shape, head_shape, List.zipWith_map,
    List.zipWith_self]

end Strided

namespace DifferenceState

open Strided

variable [Inhabited α] {subtract : α → α → α} {a : Strided α} {axis : Nat}

theorem run_succ (subtract : α → α → α) (axis rounds : Nat) (state : DifferenceState α) :
    run subtract axis (rounds + 1) state = (run subtract axis rounds state).next subtract axis := by
  induction rounds generalizing state with
  | zero => rfl
  | succ rounds induction => rw [run, induction, run]

/-- What a computation has reached after a number of rounds on an array. -/
structure Reached (subtract : α → α → α) (a : Strided α) (axis rounds : Nat)
    (state : DifferenceState α) : Prop where
  current_leads : state.current.Leads (a.holderShape axis rounds) axis
    ((a.view.axis axis).extent - rounds)
  scratch_leads : state.scratch.Leads (a.holderShape axis (rounds + 1)) axis
    ((a.view.axis axis).extent - (rounds + 1))
  get_eq : ∀ index ∈ indices (a.view.shape.eraseIdx axis), ∀ position,
    position < (a.view.axis axis).extent - rounds →
      state.current.get (index.insertIdx axis position) =
        (forwardDifference subtract)^[rounds] (fun source => a.get (index.insertIdx axis source))
          position

section Shapes

variable {rounds : Nat} {state : DifferenceState α} (reached : Reached subtract a axis rounds state)

include reached

theorem Reached.current_shape :
    state.current.view.shape = a.view.shape.set axis ((a.view.axis axis).extent - rounds) := by
  rw [reached.current_leads.shape_eq, set_holderShape]

theorem Reached.scratch_shape :
    state.scratch.view.shape =
      a.view.shape.set axis ((a.view.axis axis).extent - (rounds + 1)) := by
  rw [reached.scratch_leads.shape_eq, set_holderShape]

end Shapes

variable (within : axis < a.view.rank)

include within

/-- At the start the array is copied, and as yet nothing is in the other one. -/
theorem reached_start (zero : α) : Reached subtract a axis 0 (start zero a axis) := by
  have listed (rounds : Nat) : axis < (a.holderShape axis rounds).length := by
    rwa [length_holderShape]
  constructor
  case current_leads =>
    have shape_eq := holderShape_zero within
    have leads : Leads a.copy (a.holderShape axis 0) axis (a.view.axis axis).extent := by
      rw [shape_eq]
      exact Leads.of_dense (shape_eq ▸ listed 0) (View.getD_shape _ _)
        (by rw [List.size_toArray, length_toList]; rfl)
    exact leads
  case scratch_leads =>
    exact Leads.of_dense (listed 1) (getD_holderShape within 1)
      (by rw [List.size_toArray, List.length_replicate])
  case get_eq =>
    intro index member position below
    have index_mem : index.insertIdx axis position ∈ indices a.copy.view.shape := by
      rw [a.copy_agrees.shape_eq]
      exact (View.insertIdx_mem_indices_shape within).mpr ⟨below, member⟩
    exact a.copy_agrees.get_eq _ index_mem

/-- The differences of the current array are as many as the other array has room for. -/
theorem Reached.shape_differences {rounds : Nat} {state : DifferenceState α}
    (reached : Reached subtract a axis rounds state) :
    state.current.view.shape.set axis ((state.current.view.axis axis).extent - 1) =
      state.scratch.view.shape := by
  have listed : axis < (a.holderShape axis rounds).length := by rwa [length_holderShape]
  rw [reached.scratch_shape, reached.current_leads.extent_eq listed, reached.current_shape,
    List.set_set, Nat.sub_sub]

theorem Reached.next {rounds : Nat} {state : DifferenceState α}
    (reached : Reached subtract a axis rounds state) :
    Reached subtract a axis (rounds + 1) (state.next subtract axis) := by
  have scratch_shape := reached.scratch_shape
  have same_shape := reached.shape_differences within
  obtain ⟨current_leads, scratch_leads, get_eq⟩ := reached
  have listed (rounds : Nat) : axis < (a.holderShape axis rounds).length := by
    rwa [length_holderShape]
  have current_within := current_leads.within_view (listed rounds)
  have current_extent := current_leads.extent_eq (listed rounds)
  let tail := state.current.through (state.current.view.slice axis .dropFirst)
  let head := state.current.through (state.current.view.slice axis .dropLast)
  have written : (state.next subtract axis).current.toList =
      (indices state.scratch.view.shape).map fun index =>
        subtract (tail.get index) (head.get index) := by
    rw [← same_shape, ← zipWith_slices]
    apply scratch_leads.toList_assign (listed (rounds + 1))
    · rw [getD_holderShape within]
      omega
    · rw [zipWith_slices, same_shape, List.length_map, length_indices]
      rfl
  constructor
  case current_leads => exact scratch_leads.assign _
  case scratch_leads =>
    have leads := current_leads.dropLastTwo (listed rounds)
    rw [← holderShape_add_two] at leads
    exact leads
  case get_eq =>
    intro index member position below
    have index_mem : index.insertIdx axis position ∈ indices state.scratch.view.shape := by
      have scratch_within := scratch_leads.within_view (listed (rounds + 1))
      rw [View.insertIdx_mem_indices_shape scratch_within,
        scratch_leads.extent_eq (listed (rounds + 1)), scratch_shape, List.eraseIdx_set_eq]
      exact ⟨below, member⟩
    have member_current : index ∈ indices (state.current.view.shape.eraseIdx axis) := by
      rwa [current_leads.shape_eq, set_holderShape, List.eraseIdx_set_eq]
    have read : (state.next subtract axis).current.get (index.insertIdx axis position) =
        subtract (tail.get (index.insertIdx axis position))
          (head.get (index.insertIdx axis position)) :=
      get_of_toList_eq written index_mem
    rw [read, get_through_dropLast current_within member_current,
      get_through_dropFirst current_within member_current (by omega),
      get_eq index member (position + 1) (by omega), get_eq index member position (by omega),
      Function.iterate_succ_apply', forwardDifference]

theorem reached_run (zero : α) (rounds : Nat) :
    Reached subtract a axis rounds ((start zero a axis).run subtract axis rounds) := by
  induction rounds with
  | zero => exact reached_start within zero
  | succ rounds induction =>
    rw [run_succ]
    exact induction.next within

end DifferenceState

namespace Strided

variable [Inhabited α] (subtract : α → α → α) (zero : α) {a : Strided α} (order : Nat) {axis : Nat}

/-- Nothing has been computed before the first round, so order zero is no exception. -/
theorem difference_eq_current :
    a.difference subtract zero order axis =
      ((DifferenceState.start zero a axis).run subtract axis order).current := by
  cases order <;> rfl

variable (within : axis < a.view.rank)

include within

/-- A difference keeps the strides of the dense array that it is in. -/
theorem view_difference :
    (a.difference subtract zero order axis).view =
      (View.dense (a.holderShape axis order)).leading axis ((a.view.axis axis).extent - order) := by
  rw [difference_eq_current]
  exact (DifferenceState.reached_run within zero order).current_leads.view_eq

theorem shape_difference :
    (a.difference subtract zero order axis).view.shape =
      a.view.shape.set axis ((a.view.axis axis).extent - order) := by
  rw [view_difference subtract zero order within, View.shape_leading, View.shape_dense,
    set_holderShape]

theorem rank_difference : (a.difference subtract zero order axis).view.rank = a.view.rank :=
  View.rank_of_shape_eq_set (shape_difference subtract zero order within)

theorem extent_difference :
    ((a.difference subtract zero order axis).view.axis axis).extent =
      (a.view.axis axis).extent - order :=
  View.extent_of_shape_eq_set within (shape_difference subtract zero order within)

theorem eraseIdx_shape_difference :
    (a.difference subtract zero order axis).view.shape.eraseIdx axis =
      a.view.shape.eraseIdx axis := by
  rw [shape_difference subtract zero order within, List.eraseIdx_set_eq]

/-- A difference holds in every lane the forward difference iterated as often as its order. -/
theorem get_difference {index : List Nat} (member : index ∈ indices (a.view.shape.eraseIdx axis))
    {position : Nat} (below : position < (a.view.axis axis).extent - order) :
    (a.difference subtract zero order axis).get (index.insertIdx axis position) =
      (forwardDifference subtract)^[order] (fun source => a.get (index.insertIdx axis source))
        position := by
  rw [difference_eq_current]
  exact (DifferenceState.reached_run within zero order).get_eq index member position below

end Strided

end StridedReduction

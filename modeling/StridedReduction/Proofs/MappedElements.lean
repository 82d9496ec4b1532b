import StridedReduction.Proofs.Differences
import StridedReduction.Proofs.InterleavedFold

/-!
# Mapped elements

A function that keeps an operation may be applied to the elements before or after they are reduced
or differenced: which of them are combined, in which order and where the results are stored is
decided by the view alone (`Strided.reduce_map`, `Strided.reduceAxis_map`,
`Strided.difference_map`).  Taking the real or the imaginary part keeps sums and differences of
complex numbers, so either part of a result is the result of that part (`results_by_parts`).
-/

namespace StridedReduction

variable {α β : Type}

theorem writeCell_map (image : α → β) (buffer : Array α) (cell : Int) (x : α) :
    writeCell (buffer.map image) cell (image x) = (writeCell buffer cell x).map image := by
  rw [writeCell, writeCell]
  split
  · rfl
  · exact Array.map_setIfInBounds.symm

theorem writeCells_map (image : α → β) (buffer : Array α) (cells : List Int) (xs : List α) :
    writeCells (buffer.map image) cells (xs.map image) =
      (writeCells buffer cells xs).map image := by
  induction cells generalizing buffer xs with
  | nil => rfl
  | cons cell cells induction =>
    cases xs with
    | nil => rfl
    | cons x xs => rw [List.map_cons, writeCells, writeCell_map, induction, writeCells]

namespace Strided

/-- The array with every cell of its buffer changed by a function. -/
def map (image : α → β) (a : Strided α) : Strided β :=
  ⟨a.buffer.map image, a.view⟩

@[simp] theorem view_map (image : α → β) (a : Strided α) : (a.map image).view = a.view := rfl

theorem ofList_map (image : α → β) (shape : List Nat) (xs : List α) :
    ofList shape (xs.map image) = (ofList shape xs).map image := by
  rw [ofList, ofList, map, List.map_toArray]

theorem assign_map (image : α → β) (a : Strided α) (xs : List α) :
    (a.map image).assign (xs.map image) = (a.assign xs).map image :=
  congrArg (Strided.mk · a.view) (writeCells_map image a.buffer a.view.cells xs)

end Strided

section Maps

variable [Inhabited α] [Inhabited β] {image : α → β} (keeps_default : image default = default)

include keeps_default

theorem readCell_map (buffer : Array α) (cell : Int) :
    readCell (buffer.map image) cell = image (readCell buffer cell) := by
  rw [readCell, readCell]
  split
  · exact keeps_default.symm
  · simp only [Array.getD_eq_getD_getElem?, Array.getElem?_map]
    cases buffer[cell.toNat]? with
    | none => exact keeps_default.symm
    | some x => rfl

namespace Strided

theorem toList_map (a : Strided α) : (a.map image).toList = a.toList.map image := by
  rw [toList, toList, List.map_map]
  exact List.map_congr_left fun cell _ => readCell_map keeps_default a.buffer cell

theorem copy_map (a : Strided α) : (a.map image).copy = a.copy.map image := by
  rw [copy, copy, toList_map keeps_default, ofList_map]
  rfl

section Reductions

variable {op : α → α → α} {combine : β → β → β}
  (keeps : ∀ left right, image (op left right) = combine (image left) (image right))
  (identity : α) (fast : Bool) (a : Strided α)

include keeps

theorem reduceRow_map (row : View) :
    (a.map image).reduceRow combine (image identity) fast row =
      image (a.reduceRow op identity fast row) := by
  have elements_eq : ((a.map image).through row).toList = (a.through row).toList.map image :=
    toList_map keeps_default (a.through row)
  rw [reduceRow, reduceRow, elements_eq]
  split
  · exact (map_interleavedFold keeps identity reductionWidth _).symm
  · exact (map_foldl keeps identity _).symm

/-- The mapped array is reduced to the mapped reduction. -/
theorem reduce_map :
    (a.map image).reduce combine (image identity) fast = image (a.reduce op identity fast) := by
  have elements_eq (view : View) :
      ((a.map image).through view).toList = (a.through view).toList.map image :=
    toList_map keeps_default (a.through view)
  rw [reduce, reduce, view_map]
  cases if fast then a.view.memoryOrder else none with
  | some run =>
    simp only [elements_eq]
    exact (map_interleavedFold keeps identity reductionWidth _).symm
  | none =>
    apply List.foldl_hom
    intro total row
    rw [reduceRow_map keeps_default keeps, keeps]

theorem accumulateInto_map (totals : List α) (subviews : List View) :
    (a.map image).accumulateInto combine (totals.map image) subviews =
      (a.accumulateInto op totals subviews).map image := by
  apply List.foldl_hom
  intro totals part
  rw [← zipWith_map_image keeps, ← toList_map keeps_default]
  rfl

/-- The mapped lanes are reduced to the mapped reductions, in a buffer of the same layout. -/
theorem reduceAxis_map (axis : Nat) :
    (a.map image).reduceAxis combine (image identity) fast axis =
      (a.reduceAxis op identity fast axis).map image := by
  have lanes_eq : (a.map image).reduceLanes combine (image identity) axis =
      (a.reduceLanes op identity axis).map image := by
    rw [reduceLanes, reduceLanes, List.map_map]
    apply List.map_congr_left
    intro lane _
    exact reduce_map keeps_default keeps identity true (a.through lane.2)
  have subviews_eq : (a.map image).reduceSubviews combine (image identity) axis =
      (a.reduceSubviews op identity axis).map image := by
    rw [reduceSubviews, reduceSubviews, ← accumulateInto_map keeps_default keeps,
      List.map_replicate]
    rfl
  rw [reduceAxis, reduceAxis, view_map, lanes_eq, subviews_eq, ← ofList_map]
  split <;> rfl

end Reductions

end Strided

namespace DifferenceState

/-- The state with every cell of both buffers changed by a function. -/
def map (image : α → β) (state : DifferenceState α) : DifferenceState β :=
  ⟨state.current.map image, state.scratch.map image⟩

theorem start_map (zero : α) (a : Strided α) (axis : Nat) :
    start (image zero) (a.map image) axis = (start zero a axis).map image := by
  rw [start, start, map, Strided.copy_map keeps_default, Strided.view_map, ← Strided.ofList_map,
    List.map_replicate]

variable {subtract : α → α → α} {subtractImages : β → β → β}
  (keeps : ∀ left right, image (subtract left right) = subtractImages (image left) (image right))

include keeps

theorem next_map (axis : Nat) (state : DifferenceState α) :
    (state.map image).next subtractImages axis = (state.next subtract axis).map image := by
  let view := state.current.view
  have elements_eq (part : Slice) :
      ((state.current.map image).through (view.slice axis part)).toList =
        (state.current.through (view.slice axis part)).toList.map image :=
    Strided.toList_map keeps_default (state.current.through (view.slice axis part))
  have assigned := Strided.assign_map image state.scratch
    (List.zipWith subtract (state.current.through (view.slice axis .dropFirst)).toList
      (state.current.through (view.slice axis .dropLast)).toList)
  rw [← zipWith_map_image keeps, ← elements_eq, ← elements_eq] at assigned
  exact congrArg (DifferenceState.mk · _) assigned

theorem run_map (axis rounds : Nat) (state : DifferenceState α) :
    (state.map image).run subtractImages axis rounds =
      (state.run subtract axis rounds).map image := by
  induction rounds generalizing state with
  | zero => rfl
  | succ rounds induction => rw [run, next_map keeps_default keeps, induction, run]

end DifferenceState

/-- The mapped array has the mapped differences, in a buffer of the same layout. -/
theorem Strided.difference_map {subtract : α → α → α} {subtractImages : β → β → β}
    (keeps : ∀ left right, image (subtract left right) = subtractImages (image left) (image right))
    (zero : α) (a : Strided α) (order axis : Nat) :
    (a.map image).difference subtractImages (image zero) order axis =
      (a.difference subtract zero order axis).map image := by
  rw [difference, difference]
  split
  · exact copy_map keeps_default a
  · rw [DifferenceState.start_map keeps_default, DifferenceState.run_map keeps_default keeps]
    rfl

end Maps

namespace AnyArray

open Strided

section Calls

variable {t u : ElementType} {image : t.Carrier → u.Carrier} (numeric : u ≠ .boolean)
  (keeps_zero : image t.zero = u.zero) (swapped : Bool) (data : Strided t.Carrier)

include numeric keeps_zero

theorem apply_sum_map
    (keeps : ∀ left right, image (t.add left right) = u.add (image left) (image right)) :
    Call.sum.apply (elements u swapped (data.map image)) =
      .ok { value := .scalar u (image (data.reduce t.add t.zero true)) } := by
  rw [← reduce_map keeps_zero keeps, keeps_zero]
  exact apply_whole swapped (data.map image) .sum numeric

theorem apply_sumAxis_map
    (keeps : ∀ left right, image (t.add left right) = u.add (image left) (image right))
    {along : Argument} {axis : Nat} (given : along.axis? = some (axis : Int))
    (within : axis < data.view.rank) :
    (Call.sumAxis along).apply (elements u swapped (data.map image)) =
      .ok { value := .array (elements u swapped
        ((data.reduceAxis t.add t.zero true axis).map image)) } := by
  rw [← reduceAxis_map keeps_zero keeps, keeps_zero]
  exact apply_along swapped (data.map image) .sum numeric given within

omit numeric in
theorem apply_difference_map {subtract : t.Carrier → t.Carrier → t.Carrier}
    {subtractImages : u.Carrier → u.Carrier → u.Carrier} (provided : u.sub? = some subtractImages)
    (keeps : ∀ left right, image (subtract left right) = subtractImages (image left) (image right))
    {number along : Option Argument} {order axis : Nat}
    (order_given : (number.getD Call.defaultOrder).index? = some (order : Int))
    (axis_given : (along.getD Call.defaultAxis).axis? = some (axis : Int))
    (within : axis < data.view.rank) (accepted : order = 0 ∨ order < (data.view.axis axis).extent) :
    (Call.difference number along).apply (elements u swapped (data.map image)) =
      .ok { value := .array (elements u swapped
        ((data.difference subtract t.zero order axis).map image)) } := by
  rw [← difference_map keeps_zero keeps, keeps_zero]
  exact apply_difference_of_accepted swapped (data.map image) provided within accepted order_given
    axis_given

end Calls

/-- Whether a call answers complex numbers with an array of complex numbers, and the real and the
imaginary parts of them with the parts of that array. -/
def AnsweredByParts {f : Format} (swapped : Bool) (data : Strided (Complex f)) (call : Call) :
    Prop :=
  ∃ result : Strided (Complex f),
    call.apply (elements (.complex f) swapped data) =
        .ok { value := .array (elements (.complex f) swapped result) } ∧
      call.apply (elements (.real f) swapped (data.map Complex.re)) =
        .ok { value := .array (elements (.real f) swapped (result.map Complex.re)) } ∧
      call.apply (elements (.real f) swapped (data.map Complex.im)) =
        .ok { value := .array (elements (.real f) swapped (result.map Complex.im)) }

/-- The sum of complex numbers, the sums along an axis and the differences of every order have as
their real and imaginary parts what the same call yields for the real parts and for the imaginary
parts, stored in the same way: the exact bits, and for arrays of them the exact strides. -/
theorem results_by_parts (f : Format) (swapped : Bool) (data : Strided (Complex f)) :
    (∃ total : Complex f,
      Call.sum.apply (elements (.complex f) swapped data) =
          .ok { value := .scalar (.complex f) total } ∧
        Call.sum.apply (elements (.real f) swapped (data.map Complex.re)) =
          .ok { value := .scalar (.real f) total.re } ∧
        Call.sum.apply (elements (.real f) swapped (data.map Complex.im)) =
          .ok { value := .scalar (.real f) total.im }) ∧
    (∀ (along : Argument) (axis : Nat), along.axis? = some (axis : Int) →
      axis < data.view.rank → AnsweredByParts swapped data (.sumAxis along)) ∧
    ∀ (number along : Option Argument) (order axis : Nat),
      (number.getD Call.defaultOrder).index? = some (order : Int) →
      (along.getD Call.defaultAxis).axis? = some (axis : Int) →
      axis < data.view.rank → order = 0 ∨ order < (data.view.axis axis).extent →
        AnsweredByParts swapped data (.difference number along) := by
  let t := ElementType.complex f
  let part := ElementType.real f
  have numeric : t ≠ .boolean := by simp [t]
  have part_numeric : part ≠ .boolean := by simp [part]
  have re_zero : Complex.re t.zero = part.zero := by
    simp only [t, part, ElementType.zero, Complex.ofReal]
  have im_zero : Complex.im t.zero = part.zero := by
    simp only [t, part, ElementType.zero, Complex.ofReal, Binary.ofInt_zero]
  refine ⟨⟨_, apply_whole (t := t) swapped data .sum numeric, ?_, ?_⟩, ?_, ?_⟩
  · exact apply_sum_map part_numeric re_zero swapped data Complex.re_add
  · exact apply_sum_map part_numeric im_zero swapped data Complex.im_add
  · intro along axis given within
    exact ⟨_, apply_along (t := t) swapped data .sum numeric given within,
      apply_sumAxis_map part_numeric re_zero swapped data Complex.re_add given within,
      apply_sumAxis_map part_numeric im_zero swapped data Complex.im_add given within⟩
  · intro number along order axis order_given axis_given within accepted
    exact ⟨_,
      apply_difference_of_accepted (t := t) swapped data rfl within accepted order_given axis_given,
      apply_difference_map (t := t) (u := part) re_zero swapped data rfl Complex.re_sub order_given
        axis_given within accepted,
      apply_difference_map (t := t) (u := part) im_zero swapped data rfl Complex.im_sub order_given
        axis_given within accepted⟩

/-- Complex numbers that are stored column by column, the columns in reverse: the two parts of their
sum, of the sums of the rows and of the second differences along the rows. -/
theorem results_by_parts_of_columns :
    let entry (re im : Int) : Complex .single := ⟨Binary.ofInt re, Binary.ofInt im⟩
    let data : Strided (Complex .single) :=
      ⟨#[entry 3 1, entry 0 7, entry (-2) 5, entry 4 4, entry 1 0, entry 9 (-6)],
        ⟨4, [⟨2, 1⟩, ⟨3, -2⟩]⟩⟩
    let parts (image : Complex .single → Binary .single) :=
      elements (.real .single) false (data.map image)
    let along : Argument := .integer 1
    1 < data.view.rank ∧ 2 < (data.view.axis 1).extent ∧
      (∃ total : Complex .single,
        Call.sum.apply (parts Complex.re) = .ok { value := .scalar (.real .single) total.re } ∧
          Call.sum.apply (parts Complex.im) = .ok { value := .scalar (.real .single) total.im }) ∧
      AnsweredByParts false data (.sumAxis along) ∧
      AnsweredByParts false data (.difference (some (.integer 2)) (some along)) := by
  intro entry data parts along
  have within : 1 < data.view.rank := by decide
  have shorter : 2 < (data.view.axis 1).extent := by decide
  obtain ⟨⟨total, -, reals, imaginaries⟩, sums, differences⟩ :=
    results_by_parts .single false data
  exact ⟨within, shorter, ⟨total, reals, imaginaries⟩, sums along 1 rfl within,
    differences (some (.integer 2)) (some along) 2 1 rfl rfl within (.inr shorter)⟩

end AnyArray

end StridedReduction

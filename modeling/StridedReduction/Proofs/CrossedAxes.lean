import StridedReduction.Proofs.AxisPermutation
import StridedReduction.Proofs.Telescoping

/-!
# Differences across axes

What an additive function makes of the members of a sequence has the differences that it makes of
the differences of the sequence (`iterate_forwardDifference_map`).  The difference along another
axis and the sum of another axis are such functions.  So differences along two axes can be taken in
either order, and sums of an axis before or after differences along another one, whatever wraps
(`differences_across_axes`).
-/

namespace StridedReduction

section Additive

variable {G : Type} [AddCommGroup G]

/-- The difference of an order at a position, as an additive function of the sequence. -/
def differenceHom (order position : Nat) : (Nat → G) →+ G :=
  .mk' (fun f => (forwardDifference (· - ·))^[order] f position) fun f g =>
    congrFun (fwdDiff_iter_add 1 f g order) position

/-- The sum of the first members, as an additive function of the sequence. -/
def sumHom (count : Nat) : (Nat → G) →+ G :=
  .mk' (fun f => ((List.range count).map f).sum) fun _ _ => List.sum_map_add

theorem sumHom_congr {f g : Nat → G} {count : Nat} (same : ∀ source < count, f source = g source) :
    sumHom count f = sumHom count g :=
  congrArg List.sum
    (List.map_congr_left fun source member => same source (List.mem_range.mp member))

/-- Differences may be taken before or after an additive function. -/
theorem iterate_forwardDifference_map {κ : Type} (total : (κ → G) →+ G) (grid : Nat → κ → G)
    (order position : Nat) :
    (forwardDifference (· - ·))^[order] (fun source => total (grid source)) position =
      total fun key =>
        (forwardDifference (· - ·))^[order] (fun source => grid source key) position := by
  induction order generalizing grid with
  | zero => rfl
  | succ order induction =>
    have step : forwardDifference (· - ·) (fun source => total (grid source)) =
        fun source => total fun key =>
          forwardDifference (· - ·) (fun source => grid source key) source := by
      funext source
      exact (map_sub total (grid (source + 1)) (grid source)).symm
    simp only [Function.iterate_succ_apply, step]
    exact induction _

end Additive

namespace View

/-- The earlier of two axes keeps its number once the later one is gone, and the later one moves up
once the earlier one is gone. -/
theorem renumber_of_le {first later : Nat} (ordered : first ≤ later) :
    renumber first (later + 1) = later ∧ renumber (later + 1) first = first := by
  simp only [renumber]
  split <;> split <;> omega

/-- An index with a position along each of two axes put in. -/
def crossing (first second : Nat) (rest : List Nat) (position other : Nat) : List Nat :=
  (rest.insertIdx (renumber first second) other).insertIdx first position

/-- The shape without two of its axes. -/
def shapeWithout (v : View) (first second : Nat) : List Nat :=
  (v.shape.eraseIdx first).eraseIdx (renumber first second)

section Apart

variable {v : View} {first second : Nat} (apart : first ≠ second)

include apart

/-- Two entries can be taken out in either order. -/
theorem eraseIdx_eraseIdx_renumber {α : Type} (list : List α) :
    (list.eraseIdx first).eraseIdx (renumber first second) =
      (list.eraseIdx second).eraseIdx (renumber second first) := by
  wlog before : first < second generalizing first second
  · exact (this apart.symm (by omega)).symm
  obtain ⟨later, rfl⟩ : ∃ later, second = later + 1 := Nat.exists_eq_add_one.mpr (by omega)
  obtain ⟨moved, kept⟩ := renumber_of_le (Nat.le_of_lt_succ before)
  rw [moved, kept, eraseIdx_eraseIdx list (Nat.le_of_lt_succ before)]

/-- An entry can be replaced before or after another one is taken out. -/
theorem eraseIdx_set_renumber {α : Type} (list : List α) (entry : α) :
    (list.set first entry).eraseIdx second =
      (list.eraseIdx second).set (renumber second first) entry := by
  rw [renumber]
  split
  · rw [List.eraseIdx_set_lt (by omega)]
  · rw [List.eraseIdx_set_gt (by omega)]

theorem shapeWithout_comm (v : View) : v.shapeWithout first second = v.shapeWithout second first :=
  eraseIdx_eraseIdx_renumber apart v.shape

/-- Positions can be put in in either order. -/
theorem crossing_comm {rest : List Nat} (first_le : first < rest.length + 2)
    (second_le : second < rest.length + 2) (position other : Nat) :
    crossing first second rest position other = crossing second first rest other position := by
  wlog before : first < second generalizing first second position other
  · exact (this apart.symm second_le first_le other position (by omega)).symm
  obtain ⟨later, rfl⟩ : ∃ later, second = later + 1 := Nat.exists_eq_add_one.mpr (by omega)
  obtain ⟨moved, kept⟩ := renumber_of_le (Nat.le_of_lt_succ before)
  rw [crossing, crossing, moved, kept]
  exact (List.insertIdx_comm position other (Nat.le_of_lt_succ before) (by omega)).symm

variable (first_within : first < v.rank) (second_within : second < v.rank)

include first_within second_within

theorem renumber_lt_rank_base : renumber first second < (v.base first).rank := by
  have rank_eq := rank_base first_within
  rw [renumber]
  split <;> omega

theorem insertIdx_renumber_mem_indices {rest : List Nat} {other : Nat} :
    rest.insertIdx (renumber first second) other ∈ indices (v.shape.eraseIdx first) ↔
      other < (v.axis second).extent ∧ rest ∈ indices (v.shapeWithout first second) := by
  have within := renumber_lt_rank_base apart first_within second_within
  rw [← shape_base, insertIdx_mem_indices_shape within, axis_base apart.symm, shape_base]
  rfl

theorem length_of_mem_indices_shapeWithout {rest : List Nat}
    (member : rest ∈ indices (v.shapeWithout first second)) : rest.length + 2 = v.rank := by
  have within := renumber_lt_rank_base apart first_within second_within
  have rank_eq := rank_base first_within
  have member_base : rest ∈ indices ((v.base first).shape.eraseIdx (renumber first second)) := by
    rwa [shape_base]
  have length_eq := length_of_mem_indices_eraseIdx within member_base
  omega

/-- Every index is one with positions along two axes put in. -/
theorem exists_crossing_eq {index : List Nat} (member : index ∈ indices v.shape) :
    ∃ rest ∈ indices (v.shapeWithout first second), ∃ position < (v.axis first).extent,
      ∃ other < (v.axis second).extent, crossing first second rest position other = index := by
  obtain ⟨lane, lane_member, position, position_below, rfl⟩ :=
    exists_insertIdx_eq first_within member
  have within := renumber_lt_rank_base apart first_within second_within
  have lane_member_base : lane ∈ indices (v.base first).shape := by
    rwa [shape_base]
  obtain ⟨rest, rest_member, other, other_below, rfl⟩ :=
    exists_insertIdx_eq within lane_member_base
  rw [axis_base apart.symm] at other_below
  rw [shape_base] at rest_member
  exact ⟨rest, rest_member, position, position_below, other, other_below, rfl⟩

end Apart

end View

namespace Strided

variable {α : Type} [Inhabited α]

open View

section Apart

variable {a : Strided α} {first second : Nat} (apart : first ≠ second)
  (first_within : first < a.view.rank) (second_within : second < a.view.rank)

include apart first_within second_within

/-- Arrays agree when they do at every crossing of two axes. -/
theorem Agrees.of_crossings {b : Strided α} (shape_eq : a.view.shape = b.view.shape)
    (crossings_eq : ∀ rest ∈ indices (a.view.shapeWithout first second),
      ∀ position < (a.view.axis first).extent, ∀ other < (a.view.axis second).extent,
        a.get (crossing first second rest position other) =
          b.get (crossing first second rest position other)) : a.Agrees b := by
  refine ⟨shape_eq, ?_⟩
  intro index member
  obtain ⟨rest, rest_member, position, below, other, other_below, rfl⟩ :=
    exists_crossing_eq apart first_within second_within member
  exact crossings_eq rest rest_member position below other other_below

/-! ## Differences across an axis -/

variable (subtract : α → α → α) (zero : α) (order : Nat)

omit second_within in
theorem extent_difference_of_ne :
    ((a.difference subtract zero order first).view.axis second).extent =
      (a.view.axis second).extent := by
  rw [← getD_shape, shape_difference _ _ _ first_within, List.getD_eq_getElem?_getD,
    List.getElem?_set_ne apart, ← List.getD_eq_getElem?_getD, getD_shape]

omit apart second_within in
theorem shapeWithout_difference :
    (a.difference subtract zero order first).view.shapeWithout first second =
      a.view.shapeWithout first second := by
  rw [shapeWithout, eraseIdx_shape_difference _ _ _ first_within, shapeWithout]

theorem get_difference_crossing {rest : List Nat}
    (member : rest ∈ indices (a.view.shapeWithout first second)) {position other : Nat}
    (below : position < (a.view.axis first).extent - order)
    (other_below : other < (a.view.axis second).extent) :
    (a.difference subtract zero order first).get (crossing first second rest position other) =
      (forwardDifference subtract)^[order]
        (fun source => a.get (crossing first second rest source other)) position := by
  apply get_difference _ _ _ first_within _ below
  exact (insertIdx_renumber_mem_indices apart first_within second_within).mpr ⟨other_below, member⟩

/-- A difference along a second axis takes differences of those along the first. -/
theorem get_difference_difference (further : Nat) {rest : List Nat}
    (member : rest ∈ indices (a.view.shapeWithout first second)) {position other : Nat}
    (below : position < (a.view.axis first).extent - order)
    (other_below : other < (a.view.axis second).extent - further) :
    ((a.difference subtract zero order first).difference subtract zero further second).get
        (crossing first second rest position other) =
      (forwardDifference subtract)^[further] (fun target =>
        (forwardDifference subtract)^[order]
          (fun source => a.get (crossing first second rest source target)) position) other := by
  let inner := a.difference subtract zero order first
  have inner_rank : inner.view.rank = a.view.rank := rank_difference _ _ _ first_within
  have inner_extent : (inner.view.axis second).extent = (a.view.axis second).extent :=
    extent_difference_of_ne apart first_within subtract zero order
  have inner_first : (inner.view.axis first).extent = (a.view.axis first).extent - order :=
    extent_difference _ _ _ first_within
  have inner_member : rest ∈ indices (inner.view.shapeWithout second first) := by
    rwa [shapeWithout_comm apart.symm, shapeWithout_difference first_within]
  have length_eq := length_of_mem_indices_shapeWithout apart first_within second_within member
  have exchanged (target : Nat) :
      crossing first second rest position target = crossing second first rest target position :=
    crossing_comm apart (by omega) (by omega) position target
  rw [exchanged, get_difference_crossing apart.symm (inner_rank ▸ second_within)
    (inner_rank ▸ first_within) subtract zero further inner_member (by omega) (by omega)]
  apply iterate_forwardDifference_congr
  intro target reached
  rw [← exchanged]
  exact get_difference_crossing apart first_within second_within subtract zero order member below
    (by omega)

end Apart

variable {k : IntegerType} {data : Strided (Word k)} {first second : Nat} (apart : first ≠ second)
  (first_within : first < data.view.rank) (second_within : second < data.view.rank)

include apart first_within second_within

/-- Differences along two axes can be taken in either order. -/
theorem difference_difference_agrees (zero : Word k) (order further : Nat) :
    ((data.difference (· - ·) zero order first).difference (· - ·) zero further second).Agrees
      ((data.difference (· - ·) zero further second).difference (· - ·) zero order first) := by
  let left := data.difference (· - ·) zero order first
  let right := data.difference (· - ·) zero further second
  let both := left.difference (· - ·) zero further second
  have left_rank : left.view.rank = data.view.rank := rank_difference _ _ _ first_within
  have right_rank : right.view.rank = data.view.rank := rank_difference _ _ _ second_within
  have left_first : first < left.view.rank := left_rank ▸ first_within
  have left_second : second < left.view.rank := left_rank ▸ second_within
  have right_first : first < right.view.rank := right_rank ▸ first_within
  have both_rank : both.view.rank = left.view.rank := rank_difference _ _ _ left_second
  have left_extent : (left.view.axis second).extent = (data.view.axis second).extent :=
    extent_difference_of_ne apart first_within _ _ _
  have right_extent : (right.view.axis first).extent = (data.view.axis first).extent :=
    extent_difference_of_ne apart.symm second_within _ _ _
  apply Agrees.of_crossings apart (both_rank ▸ left_first) (both_rank ▸ left_second)
  case shape_eq =>
    rw [shape_difference _ _ _ left_second, left_extent, shape_difference _ _ _ first_within,
      shape_difference _ _ _ right_first, right_extent, shape_difference _ _ _ second_within,
      List.set_comm _ _ apart]
  case crossings_eq =>
    intro rest member position below other other_below
    rw [shapeWithout_comm apart, shapeWithout_difference left_second, shapeWithout_comm apart.symm,
      shapeWithout_difference first_within] at member
    rw [extent_difference_of_ne apart.symm left_second, extent_difference _ _ _ first_within]
      at below
    rw [extent_difference _ _ _ left_second, left_extent] at other_below
    have length_eq := length_of_mem_indices_shapeWithout apart first_within second_within member
    have exchanged (source target : Nat) :
        crossing first second rest source target = crossing second first rest target source :=
      crossing_comm apart (by omega) (by omega) source target
    have member_exchanged : rest ∈ indices (data.view.shapeWithout second first) := by
      rwa [shapeWithout_comm apart.symm]
    rw [get_difference_difference apart first_within second_within _ _ _ _ member below other_below,
      exchanged, get_difference_difference apart.symm second_within first_within _ _ _ _
        member_exchanged other_below below]
    simp only [← exchanged]
    exact iterate_forwardDifference_map (differenceHom order position)
      (fun target source => data.get (crossing first second rest source target)) further other

omit apart first_within second_within in
theorem shape_laneTotals_base (data : Strided (Word k)) (axis : Nat) :
    (data.laneTotals .sum axis).view.shape = (data.view.base axis).shape := by
  rw [shape_laneTotals, shape_base]

theorem renumber_lt_rank_laneTotals :
    renumber second first < (data.laneTotals .sum second).view.rank := by
  rw [rank_eq_of_shape_eq (shape_laneTotals_base data second)]
  exact renumber_lt_rank_base apart.symm second_within first_within

omit first_within second_within in
theorem extent_laneTotals_renumber :
    ((data.laneTotals .sum second).view.axis (renumber second first)).extent =
      (data.view.axis first).extent := by
  rw [extent_eq_of_shape_eq (shape_laneTotals_base data second), axis_base apart]

theorem get_laneTotals_crossing {rest : List Nat}
    (member : rest ∈ indices (data.view.shapeWithout first second)) {position : Nat}
    (below : position < (data.view.axis first).extent) :
    (data.laneTotals .sum second).get (rest.insertIdx (renumber second first) position) =
      sumHom (data.view.axis second).extent fun other =>
        data.get (crossing first second rest position other) := by
  have length_eq := length_of_mem_indices_shapeWithout apart first_within second_within member
  have lane_member : rest.insertIdx (renumber second first) position ∈
      indices (data.view.shape.eraseIdx second) := by
    rw [shapeWithout_comm apart] at member
    exact (insertIdx_renumber_mem_indices apart.symm second_within first_within).mpr
      ⟨below, member⟩
  rw [get_laneTotals .sum _ lane_member, laneTotal_sum]
  simp only [crossing_comm apart (show first < rest.length + 2 by omega)
    (show second < rest.length + 2 by omega)]
  rfl

/-- Sums of an axis can be taken before or after differences along another one. -/
theorem difference_laneTotals_agrees (zero : Word k) (order : Nat) :
    ((data.laneTotals .sum second).difference (· - ·) zero order (renumber second first)).Agrees
      ((data.difference (· - ·) zero order first).laneTotals .sum second) := by
  let sums := data.laneTotals .sum second
  let differences := data.difference (· - ·) zero order first
  let moved := renumber second first
  have moved_within : moved < sums.view.rank :=
    renumber_lt_rank_laneTotals apart first_within second_within
  have moved_extent : (sums.view.axis moved).extent = (data.view.axis first).extent :=
    extent_laneTotals_renumber apart
  have total_rank : (sums.difference (· - ·) zero order moved).view.rank = sums.view.rank :=
    rank_difference _ _ _ moved_within
  have differences_rank : differences.view.rank = data.view.rank :=
    rank_difference _ _ _ first_within
  have second_extent : (differences.view.axis second).extent = (data.view.axis second).extent :=
    extent_difference_of_ne apart first_within _ _ _
  apply Agrees.of_lanes (total_rank ▸ moved_within)
  case shape_eq =>
    rw [shape_difference _ _ _ moved_within, moved_extent, shape_laneTotals, shape_laneTotals,
      shape_difference _ _ _ first_within, eraseIdx_set_renumber apart]
  case lanes_eq =>
    intro rest member position below
    rw [eraseIdx_shape_difference _ _ _ moved_within] at member
    rw [extent_difference _ _ _ moved_within] at below
    have crossing_member : rest ∈ indices (data.view.shapeWithout first second) := by
      rwa [shape_laneTotals, ← shapeWithout, ← shapeWithout_comm apart] at member
    have crossing_below : position < (data.view.axis first).extent - order := moved_extent ▸ below
    let grid (source target : Nat) := data.get (crossing first second rest source target)
    have get_sums : ∀ source ≤ position + order,
        sums.get (rest.insertIdx moved source) =
          sumHom (data.view.axis second).extent (grid source) := by
      intro source reached
      exact get_laneTotals_crossing apart first_within second_within crossing_member (by omega)
    have get_total : (differences.laneTotals .sum second).get (rest.insertIdx moved position) =
        sumHom (data.view.axis second).extent fun target =>
          (forwardDifference (· - ·))^[order] (fun source => grid source target) position := by
      rw [get_laneTotals_crossing apart (differences_rank ▸ first_within)
        (differences_rank ▸ second_within) (shapeWithout_difference first_within _ _ _ ▸
          crossing_member) (by rwa [extent_difference _ _ _ first_within]), second_extent]
      apply sumHom_congr
      intro target target_below
      exact get_difference_crossing apart first_within second_within _ zero order crossing_member
        crossing_below target_below
    rw [get_difference _ _ _ moved_within member below, iterate_forwardDifference_congr _ get_sums,
      get_total]
    exact iterate_forwardDifference_map (sumHom (data.view.axis second).extent) grid order position

end Strided

namespace AnyArray

open Strided

/-- Operations on integers along different axes do not depend on which comes first: differences
along both axes yield the same array in either order, and so do the differences along one and the
sums of the other, whose axis moves up once an earlier one is summed. -/
theorem differences_across_axes (k : IntegerType) (swapped : Bool) (data : Strided (Word k))
    {first second : Nat} (apart : first ≠ second) (first_within : first < data.view.rank)
    (second_within : second < data.view.rank) {order : Nat}
    (shorter : order < (data.view.axis first).extent) {number along : Option Argument}
    (order_given : (number.getD Call.defaultOrder).index? = some (order : Int))
    (along_given : (along.getD Call.defaultAxis).axis? = some (first : Int)) :
    let a := elements (.integer k) swapped data
    let remaining := data.view.shape.set first ((data.view.axis first).extent - order)
    (∀ further < (data.view.axis second).extent, ∀ other across : Option Argument,
      (other.getD Call.defaultOrder).index? = some (further : Int) →
      (across.getD Call.defaultAxis).axis? = some (second : Int) →
      ∃ left right : Strided (Word k),
        (Call.difference other across).after ((Call.difference number along).apply a) =
            .ok { value := .array (elements (.integer k) swapped left) } ∧
          (Call.difference number along).after ((Call.difference other across).apply a) =
            .ok { value := .array (elements (.integer k) swapped right) } ∧
          left.view.shape = remaining.set second ((data.view.axis second).extent - further) ∧
          left.Agrees right) ∧
    ∀ (argument : Argument) (moved : Option Argument),
      argument.axis? = some (second : Int) →
      (moved.getD Call.defaultAxis).axis? = some (View.renumber second first : Int) →
      ∃ left right : Strided (Word k),
        (Call.difference number moved).after ((Call.sumAxis argument).apply a) =
            .ok { value := .array (elements (.integer k) swapped left) } ∧
          (Call.sumAxis argument).after ((Call.difference number along).apply a) =
            .ok { value := .array (elements (.integer k) swapped right) } ∧
          left.view.shape = remaining.eraseIdx second ∧ left.Agrees right := by
  intro a remaining
  let zero := (ElementType.integer k).zero
  let inner := data.difference (· - ·) zero order first
  have inner_rank : inner.view.rank = data.view.rank := rank_difference _ _ _ first_within
  have inner_within : second < inner.view.rank := inner_rank ▸ second_within
  have inner_extent : (inner.view.axis second).extent = (data.view.axis second).extent :=
    extent_difference_of_ne apart first_within _ _ _
  have inner_shape : inner.view.shape = remaining := shape_difference _ _ _ first_within
  have inner_outcome := apply_difference_integers swapped first_within shorter order_given
    along_given
  constructor
  · intro further further_shorter other across further_given across_given
    let outer := data.difference (· - ·) zero further second
    have outer_rank : outer.view.rank = data.view.rank := rank_difference _ _ _ second_within
    have outer_extent : (outer.view.axis first).extent = (data.view.axis first).extent :=
      extent_difference_of_ne apart.symm second_within _ _ _
    have outer_outcome := apply_difference_integers swapped second_within further_shorter
      further_given across_given
    refine ⟨inner.difference (· - ·) zero further second,
      outer.difference (· - ·) zero order first, ?_, ?_, ?_,
      difference_difference_agrees apart first_within second_within zero order further⟩
    · rw [inner_outcome, Call.after_array]
      exact apply_difference_integers swapped inner_within (inner_extent ▸ further_shorter)
        further_given across_given
    · rw [outer_outcome, Call.after_array]
      exact apply_difference_integers swapped (outer_rank ▸ first_within) (outer_extent ▸ shorter)
        order_given along_given
    · rw [shape_difference _ _ _ inner_within, inner_shape, inner_extent]
  · intro argument moved given moved_given
    let sums := data.laneTotals .sum second
    have moved_within : View.renumber second first < sums.view.rank :=
      renumber_lt_rank_laneTotals apart first_within second_within
    have moved_extent :
        (sums.view.axis (View.renumber second first)).extent = (data.view.axis first).extent :=
      extent_laneTotals_renumber apart
    have agrees := difference_laneTotals_agrees apart first_within second_within zero order
    refine ⟨sums.difference (· - ·) zero order (View.renumber second first),
      inner.laneTotals .sum second, ?_, ?_, ?_, agrees⟩
    · rw [show (Call.sumAxis argument).apply a = _ from
        apply_along_integers swapped data .sum given second_within, Call.after_array]
      exact apply_difference_integers swapped moved_within (moved_extent ▸ shorter) order_given
        moved_given
    · rw [inner_outcome, Call.after_array]
      exact apply_along_integers swapped inner .sum given inner_within
    · rw [agrees.shape_eq, shape_laneTotals, inner_shape]

/-- Bytes in a grid of three axes, rows met upwards from the last: differences along rows and across
them leave the range of bytes and wrap alike in either order, and so do those along the sums of the
columns. -/
theorem differences_across_axes_of_bytes :
    let k := IntegerType.oneByte true
    let byte (value : Int) : Word k := Word.wrap k value
    let data : Strided (Word k) :=
      ⟨#[byte 100, byte (-100), byte 7, byte 50, byte (-90), byte 120],
        ⟨4, [⟨3, -2⟩, ⟨1, 9⟩, ⟨2, 1⟩]⟩⟩
    let a := elements (.integer k) false data
    let along (axis : Int) := Call.difference none (some (.integer axis))
    0 ≠ 2 ∧ 0 < data.view.rank ∧ 2 < data.view.rank ∧ 1 < (data.view.axis 2).extent ∧
      (∃ left right : Strided (Word k),
        (along 0).after ((along 2).apply a) =
            .ok { value := .array (elements (.integer k) false left) } ∧
          (along 2).after ((along 0).apply a) =
            .ok { value := .array (elements (.integer k) false right) } ∧
          left.view.shape = [2, 1, 1] ∧ left.Agrees right) ∧
      ∃ left right : Strided (Word k),
        (along 1).after ((Call.sumAxis (.integer 0)).apply a) =
            .ok { value := .array (elements (.integer k) false left) } ∧
          (Call.sumAxis (.integer 0)).after ((along 2).apply a) =
            .ok { value := .array (elements (.integer k) false right) } ∧
          left.view.shape = [1, 1] ∧ left.Agrees right := by
  intro k byte data a along
  have apart : 2 ≠ 0 := by decide
  have last_within : 2 < data.view.rank := by decide
  have first_within : 0 < data.view.rank := by decide
  have shorter : 1 < (data.view.axis 2).extent := by decide
  obtain ⟨differences, sums⟩ := @differences_across_axes k false data 2 0 apart last_within
    first_within 1 shorter none (some (.integer 2)) rfl rfl
  exact ⟨apart.symm, first_within, last_within, shorter,
    differences 1 (by decide) none (some (.integer 0)) rfl rfl,
    sums (.integer 0) (some (.integer 1)) rfl rfl⟩

end AnyArray

end StridedReduction

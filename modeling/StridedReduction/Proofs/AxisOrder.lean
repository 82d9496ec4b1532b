import StridedReduction.Array.Call
import StridedReduction.Proofs.AxisReduction

/-!
# Reductions of one axis after another

A reduction along an axis keeps the reduction of all elements (`reduce_reduceAxis`), and along two
axes in turn it does not matter which one goes first (`reduceAxis_reduceAxis`), as long as neither
does the order of the operands.  So integers can be summed or multiplied one axis at a time, as many
axes as there are, in any order (`axes_reduced_in_turn`).
-/

namespace StridedReduction

namespace Strided

variable {α : Type} [Inhabited α]

section Shapes

variable (op : α → α → α) (identity : α) (fast : Bool) (a : Strided α) {axis other : Nat}

theorem shape_reduceAxis (axis : Nat) :
    (a.reduceAxis op identity fast axis).view.shape = a.view.shape.eraseIdx axis := by
  rw [reduceAxis, shape_ofList, View.shape_base]

theorem rank_reduceAxis (within : axis < a.view.rank) :
    (a.reduceAxis op identity fast axis).view.rank + 1 = a.view.rank := by
  rw [← View.length_shape, shape_reduceAxis, List.length_eraseIdx_of_lt (by simpa using within),
    View.length_shape]
  omega

/-- Axes in front of a reduced one stay where they are. -/
theorem extent_reduceAxis_of_lt (before : other < axis) :
    ((a.reduceAxis op identity fast axis).view.axis other).extent = (a.view.axis other).extent := by
  rw [← View.getD_shape, ← View.getD_shape, shape_reduceAxis, List.getD_eq_getElem?_getD,
    List.getElem?_eraseIdx_of_lt before, List.getD_eq_getElem?_getD]

/-- Axes behind a reduced one move up. -/
theorem extent_reduceAxis_of_ge (behind : axis ≤ other) :
    ((a.reduceAxis op identity fast axis).view.axis other).extent =
      (a.view.axis (other + 1)).extent := by
  rw [← View.getD_shape, ← View.getD_shape, shape_reduceAxis, List.getD_eq_getElem?_getD,
    List.getElem?_eraseIdx_of_ge behind, List.getD_eq_getElem?_getD]

end Shapes

variable {op : α → α → α} {identity : α} [Std.Associative op] [Std.Commutative op]
  [Std.LawfulIdentity op identity] {a : Strided α} {axis : Nat}

omit [Inhabited α] [Std.Commutative op] in
theorem foldl_map_foldl {β : Type} (parts : β → List α) (xs : List β) :
    (xs.map fun x => (parts x).foldl op identity).foldl op identity =
      (xs.flatMap parts).foldl op identity := by
  simp only [List.foldl_map, List.foldl_flatMap, op_foldl_identity]

theorem toList_reduceAxis (within : axis < a.view.rank) (fast : Bool) :
    (a.reduceAxis op identity fast axis).toList =
      (indices (a.view.shape.eraseIdx axis)).map fun index =>
        (a.laneElements axis index).foldl op identity := by
  rw [reduceAxis_eq_ofList within, reduceSubviews_eq within, toList_ofList (by simp)]

/-- Reducing along an axis first does not change the reduction of all elements. -/
theorem reduce_reduceAxis (within : axis < a.view.rank) (fast : Bool) :
    (a.reduceAxis op identity fast axis).reduce op identity fast = a.reduce op identity fast := by
  rw [reduce_eq_foldl, reduce_eq_foldl, toList_reduceAxis within, foldl_map_foldl,
    (flatMap_laneElements_perm a within).foldl_op_eq]

theorem get_reduceAxis_eq_foldl (within : axis < a.view.rank) (fast : Bool) {index : List Nat}
    (member : index ∈ indices (a.view.shape.eraseIdx axis)) :
    (a.reduceAxis op identity fast axis).get index =
      (a.laneElements axis index).foldl op identity := by
  apply get_of_toList_eq
  · rw [toList_reduceAxis within, shape_reduceAxis]
  · rwa [shape_reduceAxis]

/-- The lanes of an array of reduced lanes hold the elements of two axes. -/
theorem foldl_laneElements_reduceAxis (within : axis < a.view.rank) (fast : Bool) {other : Nat}
    {index : List Nat} :
    let reduced := a.reduceAxis op identity fast axis
    other < reduced.view.rank → index ∈ indices (reduced.view.shape.eraseIdx other) →
      (reduced.laneElements other index).foldl op identity =
        ((List.range (reduced.view.axis other).extent).flatMap fun position =>
          a.laneElements axis (index.insertIdx other position)).foldl op identity := by
  intro reduced other_within member
  rw [← foldl_map_foldl]
  apply congrArg (List.foldl op identity)
  apply List.map_congr_left
  intro position position_member
  have below := List.mem_range.mp position_member
  apply get_reduceAxis_eq_foldl within
  rw [← shape_reduceAxis op identity fast]
  exact (View.insertIdx_mem_indices_shape other_within).mpr ⟨below, member⟩

/-- Two axes can be reduced in either order; the later one moves up once the earlier one is gone. -/
theorem reduceAxis_reduceAxis {first later : Nat} (ordered : first ≤ later)
    (within : later + 1 < a.view.rank) (fast : Bool) :
    (a.reduceAxis op identity fast (later + 1)).reduceAxis op identity fast first =
      (a.reduceAxis op identity fast first).reduceAxis op identity fast later := by
  let lower := a.reduceAxis op identity fast (later + 1)
  let upper := a.reduceAxis op identity fast first
  have first_within : first < a.view.rank := by omega
  have lower_within : first < lower.view.rank := by
    have rank_eq : lower.view.rank + 1 = a.view.rank := rank_reduceAxis op identity fast a within
    omega
  have upper_within : later < upper.view.rank := by
    have rank_eq : upper.view.rank + 1 = a.view.rank :=
      rank_reduceAxis op identity fast a first_within
    omega
  have remaining_eq : lower.view.shape.eraseIdx first = upper.view.shape.eraseIdx later := by
    rw [shape_reduceAxis, shape_reduceAxis, eraseIdx_eraseIdx _ ordered]
  rw [reduceAxis_eq_ofList lower_within, reduceAxis_eq_ofList upper_within,
    reduceSubviews_eq lower_within, reduceSubviews_eq upper_within, remaining_eq]
  apply congrArg (ofList _)
  apply List.map_congr_left
  intro index member
  have lower_member : index ∈ indices (lower.view.shape.eraseIdx first) := remaining_eq ▸ member
  have reaches : later ≤ index.length := by
    have length_eq := View.length_of_mem_indices_eraseIdx upper_within member
    omega
  rw [foldl_laneElements_reduceAxis within fast lower_within lower_member,
    foldl_laneElements_reduceAxis first_within fast upper_within member,
    extent_reduceAxis_of_lt _ _ _ _ (Nat.lt_succ_of_le ordered),
    extent_reduceAxis_of_ge _ _ _ _ ordered]
  -- Both fold the elements of a grid, the one row by row and the other column by column.
  apply List.Perm.foldl_op_eq
  simp only [laneElements, List.map_eq_flatMap]
  refine (perm_flatMap_flatMap _ _ _).trans (.of_eq ?_)
  simp only [List.insertIdx_comm _ _ ordered reaches]

end Strided

/-- Arguments for axes of an array that are reduced one after the other: each stands for an axis
within the rank that is left. -/
inductive AxesWithin : Nat → List Argument → Prop
  | nil (rank : Nat) : AxesWithin rank []
  | cons {rank position : Nat} {axis : Argument} {axes : List Argument}
      (given : axis.axis? = some (position : Int)) (within : position < rank + 1)
      (rest : AxesWithin rank axes) : AxesWithin (rank + 1) (axis :: axes)

namespace Strided

variable {k : IntegerType} (code : Reduction) {data : Strided (Word k)}

theorem rank_laneTotals {axis : Nat} (within : axis < data.view.rank) :
    (data.laneTotals code axis).view.rank + 1 = data.view.rank := by
  rw [← reduceAxis_integers code true within, rank_reduceAxis _ _ _ _ within]

theorem total_laneTotals {axis : Nat} (within : axis < data.view.rank) :
    (data.laneTotals code axis).total code = data.total code := by
  rw [← reduce_integers code true, ← reduceAxis_integers code true within, reduce_reduceAxis within,
    reduce_integers]

theorem laneTotals_laneTotals {first later : Nat} (ordered : first ≤ later)
    (within : later + 1 < data.view.rank) :
    (data.laneTotals code (later + 1)).laneTotals code first =
      (data.laneTotals code first).laneTotals code later := by
  have first_within : first < data.view.rank := by omega
  have lower_rank := rank_laneTotals code within
  have upper_rank := rank_laneTotals code first_within
  have exchanged := @reduceAxis_reduceAxis _ _ (code.operation (.integer k))
    (code.identity (.integer k)) _ _ _ data first later ordered within true
  rwa [reduceAxis_integers code true within, reduceAxis_integers code true first_within,
    reduceAxis_integers code true (by omega), reduceAxis_integers code true (by omega)] at exchanged

end Strided

namespace AnyArray

open Strided

variable {k : IntegerType} (swapped : Bool) (data : Strided (Word k)) (code : Reduction)

theorem apply_whole_integers :
    code.whole.apply (elements (.integer k) swapped data) =
      .ok { value := .scalar (.integer k) (data.total code) } := by
  rw [← reduce_integers code true]
  exact apply_whole (t := .integer k) swapped data code ElementType.noConfusion

theorem apply_along_integers {axis : Argument} {position : Nat}
    (given : axis.axis? = some (position : Int)) (within : position < data.view.rank) :
    (code.along axis).apply (elements (.integer k) swapped data) =
      .ok { value := .array (elements (.integer k) swapped (data.laneTotals code position)) } := by
  rw [← reduceAxis_integers code true within]
  exact apply_along (t := .integer k) swapped data code ElementType.noConfusion given within

/-- However many axes have been reduced, the total is what it was. -/
theorem exists_alongEach {rank : Nat} {axes : List Argument} (axes_within : AxesWithin rank axes)
    {data : Strided (Word k)} (rank_eq : data.view.rank = rank) :
    ∃ result : Strided (Word k),
      code.alongEach axes (elements (.integer k) swapped data) =
          .ok { value := .array (elements (.integer k) swapped result) } ∧
        result.total code = data.total code := by
  induction axes_within generalizing data with
  | nil rank => exact ⟨data, rfl, rfl⟩
  | @cons rank position axis axes given within rest induction =>
    have position_within : position < data.view.rank := rank_eq ▸ within
    have next_rank := rank_laneTotals code position_within
    obtain ⟨result, outcome, total_eq⟩ :=
      @induction (data.laneTotals code position) (by omega)
    refine ⟨result, ?_, total_eq.trans (total_laneTotals code position_within)⟩
    rw [Reduction.alongEach, List.foldl_cons, Call.after_array,
      apply_along_integers swapped data code given position_within]
    exact outcome

/-- Integers are summed or multiplied one axis at a time as they are all at once: whichever axes are
reduced first, in whatever order, the total is the same, and two axes yield the same array in either
order. -/
theorem axes_reduced_in_turn (k : IntegerType) (swapped : Bool) (data : Strided (Word k))
    (code : Reduction) :
    let a := elements (.integer k) swapped data
    let rank := data.view.rank
    code.whole.apply a = .ok { value := .scalar (.integer k) (data.total code) } ∧
      (∀ axes, AxesWithin rank axes →
        code.whole.after (code.alongEach axes a) = code.whole.apply a) ∧
      ∀ first second, first < second → second < rank → ∀ early late moved : Argument,
        early.axis? = some (first : Int) → late.axis? = some (second : Int) →
        moved.axis? = some ((second - 1 : Nat) : Int) →
        ∃ result : Strided (Word k),
          code.alongEach [late, early] a =
              .ok { value := .array (elements (.integer k) swapped result) } ∧
            code.alongEach [early, moved] a =
              .ok { value := .array (elements (.integer k) swapped result) } := by
  intro a rank
  refine ⟨apply_whole_integers swapped data code, ?_, ?_⟩
  · intro axes axes_within
    obtain ⟨result, outcome, total_eq⟩ := exists_alongEach swapped code axes_within rfl
    rw [outcome, Call.after_array, apply_whole_integers, total_eq, apply_whole_integers]
  · intro first second before within early late moved early_given late_given moved_given
    obtain ⟨later, rfl⟩ : ∃ later, second = later + 1 := Nat.exists_eq_add_one.mpr (by omega)
    have first_within : first < data.view.rank := Nat.lt_trans before within
    have lower_rank := rank_laneTotals code within
    have upper_rank := rank_laneTotals code first_within
    simp only [Reduction.alongEach, List.foldl_cons, List.foldl_nil, Call.after_array, a]
    rw [apply_along_integers swapped data code late_given within,
      apply_along_integers swapped data code early_given first_within,
      Call.after_array, Call.after_array,
      apply_along_integers swapped _ code early_given (by omega),
      apply_along_integers swapped _ code moved_given (by omega),
      laneTotals_laneTotals code (Nat.le_of_lt_succ before) within]
    exact ⟨_, rfl, rfl⟩

/-- Bytes in a grid of three axes, rows met upwards from the last: summed from the back or from the
front they wrap at `128` once.  Two rows without entries have products of one. -/
theorem bytes_reduced_in_turn :
    let k := IntegerType.oneByte true
    let byte (value : Int) : Word k := Word.wrap k value
    let data : Strided (Word k) :=
      ⟨#[byte 100, byte 3, byte 50, byte 4, byte (-90), byte 120],
        ⟨4, [⟨3, -2⟩, ⟨1, 9⟩, ⟨2, 1⟩]⟩⟩
    let a := elements (.integer k) false data
    let empty := elements (.integer k) false (.ofList [2, 0] [])
    AxesWithin data.view.rank [.integer 2, .integer 0, .integer 0] ∧
      Call.sum.after (Reduction.sum.alongEach [.integer 2, .integer 0, .integer 0] a) =
        .ok { value := .scalar (.integer k) (byte (-69)) } ∧
      (∃ result : Strided (Word k),
        Reduction.sum.alongEach [.integer 2, .integer 0] a =
            .ok { value := .array (elements (.integer k) false result) } ∧
          Reduction.sum.alongEach [.integer 0, .integer 1] a =
            .ok { value := .array (elements (.integer k) false result) }) ∧
      Call.product.after (Reduction.product.alongEach [.integer 1] empty) =
        .ok { value := .scalar (.integer k) (byte 1) } := by
  intro k byte data a empty
  have axes_within : AxesWithin data.view.rank [.integer 2, .integer 0, .integer 0] :=
    .cons rfl (by decide) (.cons rfl (by decide) (.cons rfl (by decide) (.nil 0)))
  have last_within : AxesWithin 2 [.integer 1] := .cons rfl (by decide) (.nil 1)
  obtain ⟨total_eq, in_turn, exchanged⟩ := axes_reduced_in_turn k false data .sum
  obtain ⟨one_eq, empty_in_turn, -⟩ := axes_reduced_in_turn k false (.ofList [2, 0] []) .product
  have sum_eq : data.total .sum = byte (-69) := by decide
  refine ⟨axes_within, ?_, exchanged 0 2 (by decide) (by decide) _ _ _ rfl rfl rfl, ?_⟩
  · exact (in_turn _ axes_within).trans (sum_eq ▸ total_eq)
  · exact (empty_in_turn _ last_within).trans one_eq

end AnyArray

end StridedReduction

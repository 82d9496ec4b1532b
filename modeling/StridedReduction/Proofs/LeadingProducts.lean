import StridedReduction.Proofs.AxisOrder
import StridedReduction.Proofs.Derivation
import StridedReduction.Proofs.RunningProduct

/-!
# Products of the first positions

Where the order of two operands does not matter, a running fold holds at each position the fold of
the elements up to it (`RunsAlong.get_eq_foldl`).  Where their grouping does not matter either, its
sub-view at a position is the reduction of the slice that ends there, whichever path the strides of
the slice choose (`RunsAlong.fix_agrees_reduceAxis`); for integers the sub-views of the running
product are the products of the slices (`runningProducts_of_slices`).
-/

namespace StridedReduction

namespace Strided

section Folds

variable {α : Type} [Inhabited α] {op : α → α → α} {identity : α} [Std.Associative op]
  [Std.Commutative op] [Std.LawfulIdentity op identity] {a b : Strided α} {axis : Nat}

omit [Std.Associative op] [Std.Commutative op] [Std.LawfulIdentity op identity] in
theorem laneElements_leading (within : axis < a.view.rank) {index : List Nat}
    (member : index ∈ indices (a.view.shape.eraseIdx axis)) (count : Nat) :
    (a.through (a.view.leading axis count)).laneElements axis index =
      (List.range count).map fun position => a.get (index.insertIdx axis position) := by
  have extent_eq : ((a.through (a.view.leading axis count)).view.axis axis).extent = count :=
    View.extent_leading within count
  rw [laneElements, extent_eq]
  apply List.map_congr_left
  intro position _
  exact get_through_leading within member count position

namespace RunsAlong

omit [Std.Associative op] in
/-- A running fold holds at each position the fold of the elements up to it. -/
theorem get_eq_foldl (runs : RunsAlong op axis a b) {index : List Nat}
    (member : index ∈ indices (a.view.shape.eraseIdx axis)) {position : Nat}
    (below : position < (a.view.axis axis).extent) :
    b.get (index.insertIdx axis position) =
      ((List.range (position + 1)).map fun source =>
        a.get (index.insertIdx axis source)).foldl op identity := by
  induction position with
  | zero =>
    rw [runs.first_eq index member below]
    exact (Std.LawfulLeftIdentity.left_id _).symm
  | succ position induction =>
    -- The loop has the new element on the left of what it has folded, the fold on the right.
    rw [runs.next_eq index member position below, induction (by omega),
      List.range_succ (n := position + 1), List.map_append, List.foldl_append]
    exact Std.Commutative.comm _ _

/-- The sub-view of a running fold at a position is the reduction of the slice that ends there. -/
theorem fix_agrees_reduceAxis (runs : RunsAlong op axis a b) (within : axis < a.view.rank)
    {position : Nat} (below : position < (a.view.axis axis).extent) (fast : Bool) :
    (b.through (b.view.fix axis position)).Agrees
      ((a.through (a.view.leading axis (position + 1))).reduceAxis op identity fast axis) := by
  let part := a.through (a.view.leading axis (position + 1))
  have part_within : axis < part.view.rank := by
    rwa [show part.view.rank = a.view.rank from View.rank_leading _ _ _]
  have part_shape : part.view.shape.eraseIdx axis = a.view.shape.eraseIdx axis :=
    View.eraseIdx_shape_select _ _ _
  have fixed_shape : (b.view.fix axis position).shape = a.view.shape.eraseIdx axis := by
    rw [View.shape_fix, runs.shape_eq]
  have b_within : axis < b.view.rank := View.rank_eq_of_shape_eq runs.shape_eq ▸ within
  constructor
  case shape_eq =>
    rw [shape_reduceAxis, part_shape]
    exact fixed_shape
  case get_eq =>
    intro index member
    have member : index ∈ indices (a.view.shape.eraseIdx axis) := fixed_shape ▸ member
    rw [b.get_through_fix b_within (runs.shape_eq ▸ member), runs.get_eq_foldl member below,
      get_reduceAxis_eq_foldl part_within fast (part_shape ▸ member),
      laneElements_leading within member]

end RunsAlong

end Folds

end Strided

namespace AnyArray

open Strided

/-- Every sub-view of a running product of integers along an axis is the product along that axis of
the slice of all positions up to it, taken of the array itself: both have the remaining axes, and
both hold the exact product of the first elements of each lane, wrapped once. -/
theorem runningProducts_of_slices (k : IntegerType) (swapped : Bool) (data : Strided (Word k))
    {axis position : Nat} (within : axis < data.view.rank)
    (below : position < (data.view.axis axis).extent) {argument : Argument}
    (given : argument.axis? = some (axis : Int)) :
    let a := elements (.integer k) swapped data
    let remaining := data.view.shape.eraseIdx axis
    ∃ (running products : Strided (Word k)) (part slice : View),
      (Call.cumulativeProduct argument).apply a =
          .ok { value := .array (elements (.integer k) swapped running) } ∧
        (running.view.walk axis).views[position]? = some part ∧
        data.view.sliceAt axis { start := some 0, stop := some (position + 1 : Nat) } =
          .ok slice ∧
        (Call.productAxis argument).apply (a.through slice) =
          .ok { value := .array (elements (.integer k) swapped products) } ∧
        (running.through part).Agrees products ∧
        products.view.shape = remaining ∧
        ∀ index ∈ indices remaining, products.get index =
          Word.wrap k ((List.range (position + 1)).map fun source =>
            (data.get (index.insertIdx axis source)).value).prod := by
  intro a remaining
  let running := data.cumulative (ElementType.integer k).mul axis
  let slice := data.view.leading axis (position + 1)
  have runs : RunsAlong (Reduction.product.operation (.integer k)) axis data running :=
    runsAlong_cumulative within
  have running_within : axis < running.view.rank :=
    View.rank_eq_of_shape_eq runs.shape_eq ▸ within
  have below_running : position < (running.view.axis axis).extent := by
    rwa [View.extent_eq_of_shape_eq runs.shape_eq]
  have sliced : data.view.sliceAt axis { start := some 0, stop := some (position + 1 : Nat) } =
      .ok slice := by
    rw [View.sliceAt_natCast within (by simp), View.slice_upTo _ _ below]
  have slice_within : axis < (data.through slice).view.rank := by
    rwa [show (data.through slice).view.rank = data.view.rank from View.rank_leading _ _ _]
  have slice_shape : (data.through slice).view.shape.eraseIdx axis = remaining :=
    View.eraseIdx_shape_select _ _ _
  have agrees : (running.through (running.view.fix axis position)).Agrees
      ((data.through slice).laneTotals .product axis) := by
    rw [← reduceAxis_integers .product true slice_within]
    exact runs.fix_agrees_reduceAxis within below true
  refine ⟨running, (data.through slice).laneTotals .product axis,
    running.view.fix axis position, slice,
    cumulativeProduct_elements (t := .integer k) swapped data ElementType.noConfusion given within,
    View.getElem?_walk_views running_within below_running, sliced,
    apply_along_integers swapped _ .product given slice_within, agrees, ?_, ?_⟩
  · rw [shape_laneTotals, slice_shape]
  · intro index member
    rw [get_laneTotals .product _ (slice_shape ▸ member), ← foldl_laneElements,
      laneElements_leading within member, Reduction.foldl_operation_eq_wrap, List.map_map]
    rfl

/-- Two rows of bytes that are stored backwards: the products of the first two bytes of each row
leave the range of bytes and wrap. -/
theorem runningProducts_of_backward_rows :
    let k := IntegerType.oneByte true
    let byte (value : Int) : Word k := Word.wrap k value
    let data : Strided (Word k) :=
      ⟨#[byte 2, byte (-4), byte 50, byte 7, byte 3, byte 100], ⟨5, [⟨2, -3⟩, ⟨3, -1⟩]⟩⟩
    let a := elements (.integer k) false data
    1 < data.view.rank ∧ 1 < (data.view.axis 1).extent ∧
      ∃ (running products : Strided (Word k)) (part slice : View),
        (Call.cumulativeProduct (.integer 1)).apply a =
            .ok { value := .array (elements (.integer k) false running) } ∧
          (running.view.walk 1).views[1]? = some part ∧
          data.view.sliceAt 1 { start := some 0, stop := some 2 } = .ok slice ∧
          (Call.productAxis (.integer 1)).apply (a.through slice) =
            .ok { value := .array (elements (.integer k) false products) } ∧
          (running.through part).Agrees products ∧
          (products.get [0]).value = 300 - 256 ∧ (products.get [1]).value = -200 + 256 := by
  intro k byte data a
  have within : 1 < data.view.rank := Nat.one_lt_two
  have below : 1 < (data.view.axis 1).extent := Nat.one_lt_succ_succ 1
  obtain ⟨running, products, part, slice, run, met, sliced, multiplied, agrees, -, totals⟩ :=
    @runningProducts_of_slices k false data 1 1 within below (.integer 1) rfl
  refine ⟨within, below, running, products, part, slice, run, met, sliced, multiplied, agrees,
    ?_, ?_⟩
  · rw [totals [0] (by decide)]
    decide
  · rw [totals [1] (by decide)]
    decide

end AnyArray

end StridedReduction

import StridedReduction.Proofs.Addressing
import StridedReduction.Proofs.Buffer
import StridedReduction.Proofs.Reduction

/-!
# Reductions along an axis

Accumulating the sub-views of an axis folds every lane from the left, whatever the operation
(`reduceSubviews_eq`); reducing lane by lane folds every lane on its own (`reduceLanes_eq`).  Where
the order of a fold does not matter both are the same array, and for integers its elements are the
exact sums or products of the lanes, wrapped once.
-/

namespace StridedReduction

/-- Elementwise accumulation of lists of one entry per key is a fold for every key. -/
theorem foldl_zipWith_map {α κ β : Type} (op : α → α → α) (keys : List κ) (start : κ → α)
    (entry : β → κ → α) (steps : List β) :
    steps.foldl (fun totals step => List.zipWith op totals (keys.map (entry step)))
        (keys.map start) =
      keys.map fun key =>
        steps.foldl (fun total step => op total (entry step key)) (start key) := by
  induction steps generalizing start with
  | nil => rfl
  | cons step steps induction =>
    rw [List.foldl_cons, List.zipWith_map, List.zipWith_self, induction]
    rfl

namespace Strided

section Lanes

variable {α : Type} [Inhabited α] {a : Strided α} {axis : Nat} (within : axis < a.view.rank)

include within

theorem accumulateInto_subviews (op : α → α → α) (start : List Nat → α) :
    a.accumulateInto op ((indices (a.view.shape.eraseIdx axis)).map start)
        (a.view.subviews axis) =
      (indices (a.view.shape.eraseIdx axis)).map fun index =>
        (a.laneElements axis index).foldl op (start index) := by
  simp only [accumulateInto, View.subviews, List.foldl_map, toList_through_fix a within,
    laneElements]
  exact foldl_zipWith_map op _ start _ _

/-- Accumulating sub-views folds every lane from the left. -/
theorem reduceSubviews_eq (op : α → α → α) (identity : α) :
    a.reduceSubviews op identity axis =
      (indices (a.view.shape.eraseIdx axis)).map fun index =>
        (a.laneElements axis index).foldl op identity := by
  rw [← accumulateInto_subviews within, List.map_const', length_indices, ← View.shape_base]
  rfl

omit within in
theorem reduceLanes_eq (op : α → α → α) (identity : α) :
    a.reduceLanes op identity axis =
      (indices (a.view.shape.eraseIdx axis)).map fun index =>
        (a.through (a.view.lane axis index)).reduce op identity true := by
  rw [reduceLanes, View.lanes, List.map_map, View.shape_base]
  rfl

section Commutative

variable {op : α → α → α} {identity : α} [Std.Associative op] [Std.Commutative op]
  [Std.LawfulIdentity op identity]

theorem reduceLanes_eq_reduceSubviews :
    a.reduceLanes op identity axis = a.reduceSubviews op identity axis := by
  rw [reduceLanes_eq, reduceSubviews_eq within]
  apply List.map_congr_left
  intro index member
  rw [reduce_eq_foldl, toList_through_lane a within member]

theorem reduceAxis_eq_ofList (fast : Bool) :
    a.reduceAxis op identity fast axis =
      ofList (a.view.shape.eraseIdx axis) (a.reduceSubviews op identity axis) := by
  rw [reduceAxis, View.shape_base, reduceLanes_eq_reduceSubviews within, ite_self]

end Commutative

end Lanes

variable {k : IntegerType}

/-- The exact sum or product of the integers of a lane, wrapped once. -/
def laneTotal (code : Reduction) (data : Strided (Word k)) (axis : Nat) (index : List Nat) :
    Word k :=
  Word.wrap k (code.exact ((List.range (data.view.axis axis).extent).map fun position =>
    (data.get (index.insertIdx axis position)).value))

/-- The totals of the lanes along an axis. -/
def laneTotals (code : Reduction) (data : Strided (Word k)) (axis : Nat) : Strided (Word k) :=
  ofList (data.view.shape.eraseIdx axis)
    ((indices (data.view.shape.eraseIdx axis)).map (data.laneTotal code axis))

theorem foldl_laneElements (code : Reduction) (data : Strided (Word k)) (axis : Nat)
    (index : List Nat) :
    (data.laneElements axis index).foldl (code.operation (.integer k))
        (code.identity (.integer k)) =
      data.laneTotal code axis index := by
  rw [code.foldl_operation_eq_wrap, laneElements, List.map_map]
  rfl

theorem shape_laneTotals (code : Reduction) (data : Strided (Word k)) (axis : Nat) :
    (data.laneTotals code axis).view.shape = data.view.shape.eraseIdx axis :=
  shape_ofList _ _

theorem get_laneTotals (code : Reduction) (data : Strided (Word k)) {axis : Nat} {index : List Nat}
    (member : index ∈ indices (data.view.shape.eraseIdx axis)) :
    (data.laneTotals code axis).get index = data.laneTotal code axis index :=
  get_ofList_map _ member

theorem reduceAxis_integers (code : Reduction) (fast : Bool) {data : Strided (Word k)} {axis : Nat}
    (within : axis < data.view.rank) :
    data.reduceAxis (code.operation (.integer k)) (code.identity (.integer k)) fast axis =
      data.laneTotals code axis := by
  rw [reduceAxis_eq_ofList within, reduceSubviews_eq within]
  apply congrArg (ofList _)
  apply List.map_congr_left
  intro index _
  exact foldl_laneElements code data axis index

end Strided

namespace AnyArray

open Strided

theorem foldAxis_elements {t : ElementType} (swapped : Bool) {data : Strided t.Carrier} {axis : Nat}
    (within : axis < data.view.rank) (code : Reduction) (fast : Bool) :
    (elements t swapped data).foldAxis axis code fast =
      .ok (.array (elements t swapped
        (data.reduceAxis (code.operation t) (code.identity t) fast axis))) := by
  rw [foldAxis, reduceAxisAt_natCast _ _ fast within]
  rfl

theorem foldAxis_integers {k : IntegerType} (swapped : Bool) {data : Strided (Word k)} {axis : Nat}
    (within : axis < data.view.rank) (code : Reduction) (fast : Bool) :
    (elements (.integer k) swapped data).foldAxis axis code fast =
      .ok (.array (elements (.integer k) swapped (data.laneTotals code axis))) := by
  rw [← reduceAxis_integers code fast within]
  exact foldAxis_elements (t := .integer k) swapped within code fast

/-- Along every axis, with the fast paths or without, integers reduce to an array of the remaining
axes that holds at each index the exact sum or product of the lane there, wrapped once; reducing
lane by lane and accumulating sub-views agree whichever axis is the tightest. -/
theorem axisReductions_of_integers (k : IntegerType) (swapped : Bool) (data : Strided (Word k))
    {axis : Nat} (within : axis < data.view.rank) (code : Reduction) :
    let remaining := data.view.shape.eraseIdx axis
    ∃ result : Strided (Word k),
      (∀ fast, (elements (.integer k) swapped data).foldAxis axis code fast =
        .ok (.array (elements (.integer k) swapped result))) ∧
      result.view.shape = remaining ∧
      (∀ index ∈ indices remaining,
        result.get index = Word.wrap k (code.exact ((List.range (data.view.axis axis).extent).map
          fun position => (data.get (index.insertIdx axis position)).value))) ∧
      data.reduceLanes (code.operation (.integer k)) (code.identity (.integer k)) axis =
        data.reduceSubviews (code.operation (.integer k)) (code.identity (.integer k)) axis := by
  intro remaining
  refine ⟨data.laneTotals code axis, foldAxis_integers swapped within code, shape_ofList _ _, ?_,
    reduceLanes_eq_reduceSubviews within⟩
  intro index member
  exact get_laneTotals code data member

/-- Along both axes of two rows of bytes, the second row met first, sums wrap at `128`. -/
theorem byte_grid_sums :
    let k := IntegerType.oneByte true
    let data : Strided (Word k) :=
      ⟨#[Word.wrap k 100, Word.wrap k 3, Word.wrap k 50, Word.wrap k 4], ⟨2, [⟨2, -2⟩, ⟨2, 1⟩]⟩⟩
    0 < data.view.rank ∧
      ∃ result : Strided (Word k),
        (∀ fast, (elements (.integer k) false data).foldAxis 0 .sum fast =
          .ok (.array (elements (.integer k) false result))) ∧
        result.view.shape = [2] ∧
        (result.get [0]).value = -106 ∧ (result.get [1]).value = 7 := by
  intro k data
  have within : 0 < data.view.rank := by decide
  obtain ⟨result, reduced, shape_eq, totals, _⟩ :=
    axisReductions_of_integers k false data within .sum
  refine ⟨within, result, reduced, shape_eq, ?_, ?_⟩
  · rw [totals [0] (by decide)]
    decide
  · rw [totals [1] (by decide)]
    decide

end AnyArray

end StridedReduction

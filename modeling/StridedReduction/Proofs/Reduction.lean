import StridedReduction.Array.Unchecked
import StridedReduction.Proofs.Checks
import StridedReduction.Proofs.InterleavedFold
import StridedReduction.Proofs.MemoryOrder
import StridedReduction.Proofs.Traversal
import StridedReduction.Proofs.WordRing

/-!
# Reductions of all elements

Under an operation that is associative and commutative and has the identity that a fold starts
from, each of the three ways to fold an array is the left fold of its elements
(`reduceRows_eq_foldl`, `reduce_eq_foldl`).  For integers that is the exact sum or product, wrapped
once (`fold_integers`).
-/

namespace StridedReduction

namespace Strided

variable {α : Type} [Inhabited α] {op : α → α → α} {identity : α} [Std.Associative op]
  [Std.Commutative op] [Std.LawfulIdentity op identity]

theorem reduceRow_eq_foldl (fast : Bool) (a : Strided α) (row : View) :
    a.reduceRow op identity fast row = (a.through row).toList.foldl op identity := by
  rw [reduceRow]
  split
  · exact interleavedFold_eq_foldl reductionWidth _
  · rfl

/-- Whether dense rows keep partial results or not, the rows make up the fold of all elements. -/
theorem reduceRows_eq_foldl (fast : Bool) (a : Strided α) :
    a.reduceRows op identity fast = a.toList.foldl op identity := by
  simp only [reduceRows, reduceRow_eq_foldl, op_foldl_identity]
  rw [← flatMap_toList_rows, List.foldl_flatMap]

/-- The elements met in memory order are those met in the order of the indices. -/
theorem interleavedFold_memoryOrder {a : Strided α} {run : View}
    (ordered : a.view.memoryOrder = some run) (width : Nat) :
    interleavedFold op identity width (a.through run).toList = a.toList.foldl op identity := by
  have same_elements : (a.through run).toList.Perm a.toList :=
    a.toList_through_perm (View.cells_perm_of_memoryOrder ordered)
  rw [interleavedFold_eq_foldl, same_elements.foldl_op_eq]

theorem reduce_eq_foldl (fast : Bool) (a : Strided α) :
    a.reduce op identity fast = a.toList.foldl op identity := by
  rw [reduce]
  split
  case h_1 run found =>
    have ordered : a.view.memoryOrder = some run := by
      cases fast with
      | true => exact found
      | false => cases found
    exact interleavedFold_memoryOrder ordered reductionWidth
  case h_2 => exact reduceRows_eq_foldl fast a

variable {k : IntegerType}

/-- The integers of an array in the order of the indices. -/
def integers (data : Strided (Word k)) : List Int :=
  (indices data.view.shape).map fun index => (data.get index).value

theorem map_value_toList (data : Strided (Word k)) :
    data.toList.map Word.value = data.integers := by
  rw [toList_eq_map_get, List.map_map]
  rfl

/-- The exact sum or product of the integers of an array, wrapped once. -/
def total (code : Reduction) (data : Strided (Word k)) : Word k :=
  Word.wrap k (code.exact data.integers)

theorem foldl_integers (code : Reduction) (data : Strided (Word k)) :
    data.toList.foldl (code.operation (.integer k)) (code.identity (.integer k)) =
      data.total code := by
  rw [code.foldl_operation_eq_wrap, map_value_toList, total]

theorem reduce_integers (code : Reduction) (fast : Bool) (data : Strided (Word k)) :
    data.reduce (code.operation (.integer k)) (code.identity (.integer k)) fast =
      data.total code := by
  rw [reduce_eq_foldl, foldl_integers]

end Strided

namespace AnyArray

open Strided

variable {k : IntegerType} (swapped : Bool) (data : Strided (Word k)) (code : Reduction)

theorem fold_integers (fast : Bool) :
    (elements (.integer k) swapped data).fold code fast =
      .ok (.scalar (.integer k) (data.total code)) := by
  rw [← reduce_integers code fast]
  rfl

theorem foldLeft_integers (row : data.view.rank = 1) :
    (elements (.integer k) swapped data).foldLeft code =
      .ok (.scalar (.integer k) (data.total code)) := by
  rw [foldLeft, if_neg (not_not.mpr row), ← foldl_integers]
  rfl

theorem reduceAll_integers {operation : Operation}
    (complete : operation.missing (ElementType.integer k).capabilities = []) :
    (elements (.integer k) swapped data).reduceAll operation code =
      .ok { value := .scalar (.integer k) (data.total code) } := by
  rw [reduceAll_elements (t := .integer k) swapped data code complete, ← reduce_integers code true]
  rfl

/-- Every way to reduce integers yields their exact sum or product, wrapped once: in memory order
where there is one, row by row with partial results or without, and in a row one element after the
other.  So sums and products are those of any other array with the same integers. -/
theorem reductions_of_integers (k : IntegerType) (swapped : Bool) (data : Strided (Word k)) :
    let a := elements (.integer k) swapped data
    let op (code : Reduction) := code.operation (.integer k)
    let identity (code : Reduction) := code.identity (.integer k)
    (∀ code fast, a.fold code fast = .ok (.scalar (.integer k) (data.total code))) ∧
      (∀ code run, data.view.memoryOrder = some run →
        interleavedFold (op code) (identity code) reductionWidth (data.through run).toList =
          data.total code) ∧
      (∀ code fast, data.reduceRows (op code) (identity code) fast = data.total code) ∧
      (data.view.rank = 1 →
        ∀ code, a.foldLeft code = .ok (.scalar (.integer k) (data.total code))) ∧
      a.sum = .ok { value := .scalar (.integer k) (data.total .sum) } ∧
      a.product = .ok { value := .scalar (.integer k) (data.total .product) } ∧
      ∀ (other : Strided (Word k)) (order : Bool), other.integers = data.integers →
        (elements (.integer k) order other).sum = a.sum ∧
          (elements (.integer k) order other).product = a.product := by
  intro a op identity
  have sums (order : Bool) (other : Strided (Word k)) :
      (elements (.integer k) order other).sum =
        .ok { value := .scalar (.integer k) (other.total .sum) } :=
    reduceAll_integers order other .sum rfl
  have products (order : Bool) (other : Strided (Word k)) :
      (elements (.integer k) order other).product =
        .ok { value := .scalar (.integer k) (other.total .product) } :=
    reduceAll_integers order other .product rfl
  refine ⟨fold_integers swapped data, ?_, ?_,
    fun row code => foldLeft_integers swapped data code row, sums swapped data,
    products swapped data, ?_⟩
  · intro code run ordered
    rw [interleavedFold_memoryOrder ordered, foldl_integers]
  · intro code fast
    rw [reduceRows_eq_foldl, foldl_integers]
  · intro other order same
    have same_total (code : Reduction) : other.total code = data.total code := by
      rw [total, same, total]
    rw [sums, sums, products, products, same_total, same_total]
    exact ⟨rfl, rfl⟩

end AnyArray

end StridedReduction

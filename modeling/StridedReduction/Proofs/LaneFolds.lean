import StridedReduction.Proofs.AxisReduction
import StridedReduction.Proofs.NeutralElements
import StridedReduction.Proofs.Rearrangement
import StridedReduction.Proofs.Reproducibility
import StridedReduction.Proofs.TightestAxis

/-!
# Lanes folded from the left

A lane is folded with partial results only if its cells are consecutive, upwards or downwards, and
it is long enough to fill a block.  Any other lane is folded from the left, perhaps combined with
the identity once more (`Strided.reduce_row`), so that reducing lane by lane and accumulating
sub-views agree to the last bit.
-/

namespace StridedReduction

/-- Whether lanes along an axis are taken element after element: because they have no second one,
because their elements are apart, or because they go upwards and are too short to fill a block of
partial results. -/
def Axis.IsLoose (axis : Axis) : Prop :=
  axis.extent ≤ 1 ∨ (axis.stride ≠ 1 ∧ axis.stride ≠ -1) ∨
    axis.stride = 1 ∧ axis.extent < reductionWidth

instance (axis : Axis) : Decidable axis.IsLoose :=
  inferInstanceAs (Decidable (_ ∨ _))

namespace View

variable {origin : Int} {row : Axis}

theorem size_row : (View.mk origin [row]).size = row.extent := by
  simp [size, shape]

/-- A row whose cells are met upwards one after the other is its own walk in memory order. -/
theorem memoryOrder_of_dense (dense : row.extent ≤ 1 ∨ row.stride = 1) :
    (View.mk origin [row]).memoryOrder = some ⟨origin, [⟨row.extent, 1⟩]⟩ := by
  obtain ⟨extent, stride⟩ := row
  change extent ≤ 1 ∨ stride = 1 at dense
  rcases Nat.lt_trichotomy extent 1 with none | rfl | several
  · obtain rfl : extent = 0 := by omega
    rfl
  · simp [memoryOrder, size, shape, squeeze, ascending, Axis.sortByStride, Axis.packed]
  · obtain rfl : stride = 1 := by omega
    have size_eq : (View.mk origin [⟨extent, 1⟩]).size = extent := size_row
    rw [memoryOrder_eq_some_iff (by omega), size_eq]
    exact ⟨rfl, .of_eq (cellsFrom_row origin extent)⟩

theorem cells_of_dense (dense : row.extent ≤ 1 ∨ row.stride = 1) :
    (View.mk origin [⟨row.extent, 1⟩]).cells = (View.mk origin [row]).cells := by
  obtain ⟨extent, stride⟩ := row
  change extent ≤ 1 ∨ stride = 1 at dense
  rcases Nat.lt_trichotomy extent 1 with none | rfl | several
  · obtain rfl : extent = 0 := by omega
    rfl
  · exact (cellsFrom_unit origin 1 []).trans (cellsFrom_unit origin stride []).symm
  · obtain rfl : stride = 1 := by omega
    rfl

theorem memoryOrder_of_sparse (several : 1 < row.extent) (sparse : row.stride.natAbs ≠ 1) :
    (View.mk origin [row]).memoryOrder = none := by
  have nonempty : row.extent ≠ 0 := by omega
  have kept : row.extent ≠ 1 := by omega
  have gaps : |row.stride| ≠ 1 := by
    rw [Int.abs_eq_natAbs]
    omega
  simp [memoryOrder, squeeze, ascending, Axis.sortByStride, Axis.insertByStride, Axis.packed, size,
    shape, kept, nonempty, gaps]

end View

namespace Strided

variable {α : Type} [Inhabited α] {op : α → α → α} {identity : α}

/-- A row that is too sparse or too short for partial results is folded from the left. -/
theorem reduce_row (idle : ∀ xs : List α, op identity (xs.foldl op identity) = xs.foldl op identity)
    (a : Strided α) {origin : Int} {row : Axis} (loose : row.IsLoose) :
    (a.through ⟨origin, [row]⟩).reduce op identity true =
      (a.through ⟨origin, [row]⟩).toList.foldl op identity := by
  rw [Axis.IsLoose] at loose
  by_cases dense : row.extent ≤ 1 ∨ row.stride = 1
  · have ordered : (a.through ⟨origin, [row]⟩).view.memoryOrder =
        some ⟨origin, [⟨row.extent, 1⟩]⟩ := View.memoryOrder_of_dense dense
    have same_elements : ((a.through ⟨origin, [row]⟩).through ⟨origin, [⟨row.extent, 1⟩]⟩).toList =
        (a.through ⟨origin, [row]⟩).toList :=
      congrArg (List.map (readCell a.buffer)) (View.cells_of_dense dense)
    have short : (a.through ⟨origin, [row]⟩).toList.length < reductionWidth := by
      have length_eq : (a.through ⟨origin, [row]⟩).size = row.extent := View.size_row
      have one_lt : 1 < reductionWidth := by decide
      rw [length_toList, length_eq]
      omega
    rw [reduce_eq_interleavedFold op identity ordered, same_elements, interleavedFold,
      interleavedTerms_of_length_lt op identity short]
  · have several : 1 < row.extent := by omega
    have sparse : row.stride.natAbs ≠ 1 := by omega
    have unordered : (a.through ⟨origin, [row]⟩).view.memoryOrder = none :=
      View.memoryOrder_of_sparse several sparse
    have gaps : (View.mk origin [row]).isDenseRow = false := by
      simpa [View.isDenseRow] using dense
    have one_row : (a.through ⟨origin, [row]⟩).reduceRows op identity true =
        op identity ((a.through ⟨origin, [row]⟩).reduceRow op identity true ⟨origin, [row]⟩) := rfl
    simp only [reduce, if_true, unordered, one_row, reduceRow, gaps]
    exact idle _

section Lanes

variable (idle : ∀ xs : List α, op identity (xs.foldl op identity) = xs.foldl op identity)
  {a : Strided α} {axis : Nat} (within : axis < a.view.rank)
  (loose : (a.view.axis axis).IsLoose)

include idle within loose

theorem reduceAxis_of_loose (fast : Bool) :
    a.reduceAxis op identity fast axis =
      ofList (a.view.shape.eraseIdx axis) ((indices (a.view.shape.eraseIdx axis)).map fun index =>
        (a.laneElements axis index).foldl op identity) := by
  rw [reduceAxis, View.shape_base]
  apply congrArg (ofList _)
  split
  case isTrue =>
    rw [reduceLanes_eq]
    apply List.map_congr_left
    intro index member
    rw [← toList_through_lane a within member]
    exact reduce_row idle a loose
  case isFalse => exact reduceSubviews_eq within op identity

end Lanes

end Strided

namespace AnyArray

open Strided

/-- Along the tightest axis the folds lane by lane and those of all lanes at once are the same to
the last bit, provided that the lanes have one element at most, or gaps between their elements, or
go upwards and are too short for partial results.  Both hold the left folds of the lanes.  This
needs an identity that can be taken twice, which complex numbers do not have. -/
theorem axisReductions_of_loose_lanes {t : ElementType} (plain : ∀ f, t ≠ .complex f)
    (swapped : Bool) {data : Strided t.Carrier} {axis : Nat}
    (tightest : data.view.tightestAxis = some axis) (loose : (data.view.axis axis).IsLoose)
    (code : Reduction) :
    let remaining := data.view.shape.eraseIdx axis
    ∃ result : Strided t.Carrier,
      (∀ fast, (elements t swapped data).foldAxis axis code fast =
        .ok (.array (elements t swapped result))) ∧
      result.view.shape = remaining ∧
      ∀ index ∈ indices remaining,
        result.get index =
          (data.laneElements axis index).foldl (code.operation t) (code.identity t) := by
  intro remaining
  have within : axis < data.view.rank := (View.isTightest_of_tightestAxis_eq tightest).1
  refine ⟨ofList remaining ((indices remaining).map fun index =>
    (data.laneElements axis index).foldl (code.operation t) (code.identity t)), ?_,
    shape_ofList _ _, ?_⟩
  · intro fast
    rw [foldAxis_elements swapped within,
      reduceAxis_of_loose (code.operation_identity_foldl plain) within loose]
  · exact fun index member => get_ofList_map _ member

/-- Two rows of halves met backwards with gaps between them, the second one of negative zeros: the
sums are those from the left on both paths, and no negative zero is left. -/
theorem axisReductions_of_loose_halves :
    let t := ElementType.real .half
    let half (value : Int) : t.Carrier := Binary.ofInt value
    let below : t.Carrier := Binary.signedZero true
    let data : Strided t.Carrier :=
      ⟨#[half 2048, half 5, half 1, below, half 3, below, half 5, below],
        ⟨4, [⟨2, 3⟩, ⟨3, -2⟩]⟩⟩
    (∀ f, t ≠ .complex f) ∧ data.view.tightestAxis = some 1 ∧ (data.view.axis 1).IsLoose ∧
      ∃ result : Strided t.Carrier,
        (∀ fast, (elements t false data).foldAxis (1 : Nat) .sum fast =
          .ok (.array (elements t false result))) ∧
        result.view.shape = [2] ∧
        result.get [0] = half 2052 ∧ result.get [1] = Binary.signedZero false := by
  intro t half below data
  have plain : ∀ f, t ≠ .complex f := fun f => nofun
  have tightest : data.view.tightestAxis = some 1 := by decide
  have loose : (data.view.axis 1).IsLoose := by decide
  obtain ⟨result, reduced, shape_eq, folds⟩ :=
    axisReductions_of_loose_lanes plain false tightest loose .sum
  have folds_alike : ∀ index ∈ indices [2], result.get index =
      (data.laneElements 1 index).foldl HAdd.hAdd (Binary.ofInt 0) := by
    rw [← Agrees.default_real]
    exact folds
  refine ⟨plain, tightest, loose, result, reduced, shape_eq, ?_, ?_⟩
  · rw [folds_alike [0] (by decide)]
    decide +kernel
  · rw [folds_alike [1] (by decide)]
    decide +kernel

end AnyArray

end StridedReduction

import StridedReduction.Array.Call
import StridedReduction.Array.Unchecked
import StridedReduction.Proofs.Agreement
import StridedReduction.Proofs.FloatArithmetic

/-!
# Operations that do not see the layout

Moments, running products, differences and reductions without the fast paths visit elements in the
order of the indices.  On arrays of one type with the same elements they have the same outcome, the
failure, the warnings and the strides of the result included, however the arrays are laid out.
-/

namespace StridedReduction.AnyArray

/-- Two arrays have one type, one shape and the same elements, if items of the type have
operations. -/
inductive Agrees : AnyArray → AnyArray → Prop
  | elements (t : ElementType) (swapped : Bool) {data other : Strided t.Carrier}
      (agrees : data.Agrees other) : Agrees (elements t swapped data) (elements t swapped other)
  | items (type : ItemType) {view other : View} (shape_eq : view.shape = other.shape) :
      Agrees (items type view) (items type other)

namespace Agrees

/-- Cells outside a buffer hold the same number whether it is read as an element or as a number. -/
theorem default_real (f : Format) :
    ElementType.instInhabitedCarrier (.real f) = Binary.instInhabited :=
  congrArg Inhabited.mk Binary.ofInt_zero

theorem real_iff {f : Format} {data other : Strided (Binary f)} :
    @Strided.Agrees _ (ElementType.instInhabitedCarrier (.real f)) data other ↔
      data.Agrees other := by
  rw [default_real]

variable {a b : AnyArray} (agrees : a.Agrees b)

include agrees

theorem itemType_eq : a.itemType = b.itemType := by
  cases agrees <;> rfl

theorem shape_eq : a.view.shape = b.view.shape := by
  cases agrees with
  | elements t swapped agrees => exact agrees.shape_eq
  | items type shape_eq => exact shape_eq

theorem rank_eq : a.view.rank = b.view.rank :=
  View.rank_eq_of_shape_eq agrees.shape_eq

theorem extent_eq (axis : Nat) : (a.view.axis axis).extent = (b.view.axis axis).extent :=
  View.extent_eq_of_shape_eq agrees.shape_eq axis

variable (operation : Operation) (finish : {f : Format} → Binary f → Binary f)

theorem varianceOf_eq (correction : Argument) :
    a.varianceOf operation finish correction = b.varianceOf operation finish correction := by
  unfold varianceOf
  cases agrees with
  | items => rfl
  | elements t swapped agrees =>
    cases t with
    | real f =>
      have agrees := real_iff.mp agrees
      simp only [agrees.size_eq, agrees.variance_eq]
      rfl
    | _ => rfl

theorem listedVarianceOf_eq (corrections : List Argument) :
    a.listedVarianceOf operation finish corrections =
      b.listedVarianceOf operation finish corrections := by
  unfold listedVarianceOf
  cases agrees with
  | items => rfl
  | elements t swapped agrees =>
    cases t with
    | real f =>
      have agrees := real_iff.mp agrees
      simp only [agrees.size_eq, agrees.variance_eq]
      rfl
    | _ => rfl

theorem variancesOf_eq (axis correction : Argument) :
    a.variancesOf operation finish axis correction =
      b.variancesOf operation finish axis correction := by
  unfold variancesOf
  rw [agrees.rank_eq]
  cases agrees with
  | items => rfl
  | elements t swapped agrees =>
    cases t with
    | real f =>
      have agrees := real_iff.mp agrees
      simp only [agrees.extent_eq, agrees.variances_eq]
      rfl
    | _ => rfl

theorem listedVariancesOf_eq (axis : Argument) (corrections : List Argument) :
    a.listedVariancesOf operation finish axis corrections =
      b.listedVariancesOf operation finish axis corrections := by
  unfold listedVariancesOf
  rw [agrees.rank_eq]
  cases agrees with
  | items => rfl
  | elements t swapped agrees =>
    cases t with
    | real f =>
      have agrees := real_iff.mp agrees
      simp only [agrees.extent_eq, agrees.squaresAxis_eq, agrees.variances_eq]
      rfl
    | _ => rfl

omit operation

theorem cumulativeProduct_eq (axis : Argument) :
    a.cumulativeProduct axis = b.cumulativeProduct axis := by
  unfold cumulativeProduct
  rw [agrees.rank_eq, agrees.itemType_eq]
  cases agrees with
  | items => rfl
  | elements t swapped agrees => simp only [agrees.cumulative_eq]

theorem difference_eq (order axis : Argument) :
    a.difference order axis = b.difference order axis := by
  unfold difference
  simp only [agrees.rank_eq, agrees.itemType_eq, agrees.extent_eq]
  cases agrees with
  | items => rfl
  | elements t swapped agrees => simp only [agrees.difference_eq]

theorem fold_eq (code : Reduction) : a.fold code false = b.fold code false := by
  unfold fold
  cases agrees with
  | items => rfl
  | elements t swapped agrees => simp only [agrees.reduce_eq]

theorem foldAxis_eq (axis : Int) (code : Reduction) :
    a.foldAxis axis code false = b.foldAxis axis code false := by
  unfold foldAxis
  cases agrees with
  | items => rfl
  | elements t swapped agrees => simp only [agrees.reduceAxisAt_eq]

end Agrees

/-- Operations that visit elements in the order of the indices have one outcome on all arrays of a
type with the same elements, for any arguments: the same failure, or the same elements, warnings and
strides. -/
theorem outcomes_eq_of_agrees {a b : AnyArray} (agrees : a.Agrees b) :
    (∀ correction, (Call.variance correction).apply a = (Call.variance correction).apply b) ∧
      (∀ correction, (Call.deviation correction).apply a = (Call.deviation correction).apply b) ∧
      (∀ axis correction,
        (Call.varianceAxis axis correction).apply a =
          (Call.varianceAxis axis correction).apply b) ∧
      (∀ axis correction,
        (Call.deviationAxis axis correction).apply a =
          (Call.deviationAxis axis correction).apply b) ∧
      (∀ axis, (Call.cumulativeProduct axis).apply a = (Call.cumulativeProduct axis).apply b) ∧
      (∀ order axis,
        (Call.difference order axis).apply a = (Call.difference order axis).apply b) ∧
      (∀ code, a.fold code false = b.fold code false) ∧
      ∀ axis code, a.foldAxis axis code false = b.foldAxis axis code false := by
  refine ⟨?_, ?_, ?_, ?_, agrees.cumulativeProduct_eq, fun _ _ => agrees.difference_eq _ _,
    agrees.fold_eq, agrees.foldAxis_eq⟩
  · intro correction
    simp only [Call.apply, variance, agrees.varianceOf_eq, agrees.listedVarianceOf_eq]
  · intro correction
    simp only [Call.apply, deviation, agrees.varianceOf_eq, agrees.listedVarianceOf_eq]
  · intro axis correction
    simp only [Call.apply, varianceAxis, agrees.variancesOf_eq, agrees.listedVariancesOf_eq]
  · intro axis correction
    simp only [Call.apply, deviationAxis, agrees.variancesOf_eq, agrees.listedVariancesOf_eq]

/-- A row that is stored backwards and met twice, and the same halves stored in order. -/
theorem outcomes_eq_of_stored_backwards :
    let half (value : Int) : Binary .half := Binary.ofInt value
    let a := elements (.real .half) false
      ⟨#[half 4, half (-2), half 1], ⟨2, [⟨2, 0⟩, ⟨3, -1⟩]⟩⟩
    let b := elements (.real .half) false
      (.ofList [2, 3] [half 1, half (-2), half 4, half 1, half (-2), half 4])
    a.Agrees b ∧
      (Call.deviationAxis (.integer 1) (some (.float (Binary.ofInt 1)))).apply a =
        (Call.deviationAxis (.integer 1) (some (.float (Binary.ofInt 1)))).apply b ∧
      ((Call.cumulativeProduct (.integer 0)).apply b).isOk = true ∧
      (Call.cumulativeProduct (.integer 0)).apply a =
        (Call.cumulativeProduct (.integer 0)).apply b ∧
      a.foldAxis (-1) .sum false = b.foldAxis (-1) .sum false := by
  intro half a b
  have agrees : a.Agrees b :=
    .elements (.real .half) false (Agrees.real_iff.mpr ⟨rfl, by decide +kernel⟩)
  obtain ⟨-, -, -, deviations, products, -, -, folds⟩ := outcomes_eq_of_agrees agrees
  exact ⟨agrees, deviations _ _, by decide +kernel, products _, folds _ _⟩

end StridedReduction.AnyArray

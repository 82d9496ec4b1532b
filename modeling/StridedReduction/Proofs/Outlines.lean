import StridedReduction.Proofs.Outcomes

/-!
# Outlines of answers

Arrays of one type and one shape have the same outcome up to their elements: the same failure with
its message, or answers of one form with the same warnings.  With the kinds of failures and the
forms that `Call.outcome` decides, this is all there is to a call but for its numbers
(`AnyArray.outcomes_decided`).
-/

namespace StridedReduction

/-- What is seen of an answer but for the elements. -/
def Answer.outline (answer : Answer) : Form × List Warning :=
  (answer.value.form, answer.warnings)

theorem outline_bind {β : Type} {left right : Except Failure β}
    {leftNext rightNext : β → Except Failure Answer} (same : left = right)
    (agree : ∀ x, left = .ok x →
      (leftNext x).map Answer.outline = (rightNext x).map Answer.outline) :
    (left >>= leftNext).map Answer.outline = (right >>= rightNext).map Answer.outline := by
  subst same
  cases left with
  | error failure => rfl
  | ok x => exact agree x rfl

section Outline

variable {t : ElementType} {leftSwapped rightSwapped : Bool} {left right : Strided t.Carrier}
  (same_type : (AnyArray.elements t leftSwapped left).itemType =
    (AnyArray.elements t rightSwapped right).itemType)
  (same_shape : left.view.shape = right.view.shape)

include same_type

theorem outline_array {leftResult rightResult : Strided t.Carrier} (warnings : List Warning)
    (same_shape : leftResult.view.shape = rightResult.view.shape) :
    (.ok ⟨.array (.elements t leftSwapped leftResult), warnings⟩ : Except Failure Answer).map
        Answer.outline =
      (.ok ⟨.array (.elements t rightSwapped rightResult), warnings⟩ : Except Failure Answer).map
        Answer.outline := by
  have form_eq : (Value.array (.elements t leftSwapped leftResult)).form =
      (Value.array (.elements t rightSwapped rightResult)).form :=
    congrArg₂ Form.array same_type same_shape
  simp only [Except.map, Answer.outline, form_eq]

include same_shape

theorem outline_along (axis : Argument) (operation : Operation)
    {leftNext rightNext : Nat → Except Failure Answer}
    (agree : ∀ position < left.view.rank,
      (leftNext position).map Answer.outline = (rightNext position).map Answer.outline) :
    (checkedAxis axis left.view.rank >>= fun position =>
        operation.check (AnyArray.elements t leftSwapped left).itemType >>= fun _ =>
          leftNext position).map Answer.outline =
      (checkedAxis axis right.view.rank >>= fun position =>
        operation.check (AnyArray.elements t rightSwapped right).itemType >>= fun _ =>
          rightNext position).map Answer.outline := by
  have same_rank : left.view.rank = right.view.rank := View.rank_eq_of_shape_eq same_shape
  refine outline_bind (congrArg (fun rank : Nat => checkedAxis axis rank) same_rank) ?_
  intro position accepted
  refine outline_bind (congrArg operation.check same_type) fun _ _ => ?_
  exact agree position (given_of_checkedAxis_eq accepted).2

theorem outline_varianceOf (operation : Operation) (finish : {f : Format} → Binary f → Binary f)
    (correction : Argument) :
    ((AnyArray.elements t leftSwapped left).varianceOf operation finish correction).map
        Answer.outline =
      ((AnyArray.elements t rightSwapped right).varianceOf operation finish correction).map
        Answer.outline := by
  have same_size : left.size = right.size := congrArg extentProduct same_shape
  refine outline_bind (congrArg operation.check same_type) fun _ _ => ?_
  cases t with
  | real f =>
    dsimp only
    rw [same_size, same_type]
    exact outline_bind rfl fun _ _ => rfl
  | _ => rw [same_type]

theorem outline_variancesOf (operation : Operation) (finish : {f : Format} → Binary f → Binary f)
    (axis correction : Argument) :
    ((AnyArray.elements t leftSwapped left).variancesOf operation finish axis correction).map
        Answer.outline =
      ((AnyArray.elements t rightSwapped right).variancesOf operation finish axis correction).map
        Answer.outline := by
  have same_extent := View.extent_eq_of_shape_eq same_shape
  refine outline_along same_type same_shape axis operation fun position _ => ?_
  cases t with
  | real f =>
    dsimp only
    rw [same_extent, same_type]
    refine outline_bind rfl fun _ _ => outline_array same_type _ ?_
    rw [Strided.shape_variances, Strided.shape_variances, same_shape]
  | _ => rw [same_type]

theorem outline_apply_elements (call : Call)
    (single : ∀ items, call.correction? ≠ some (.list items)) :
    (call.apply (AnyArray.elements t leftSwapped left)).map Answer.outline =
      (call.apply (AnyArray.elements t rightSwapped right)).map Answer.outline := by
  have same_size : left.size = right.size := congrArg extentProduct same_shape
  have same_extent := View.extent_eq_of_shape_eq same_shape
  cases call with
  | sum => exact outline_bind (congrArg _ same_type) fun _ _ => rfl
  | product => exact outline_bind (congrArg _ same_type) fun _ _ => rfl
  | sumAxis axis =>
    refine outline_along same_type same_shape axis .sumAxis fun position _ => ?_
    refine outline_array same_type [] ?_
    rw [Strided.shape_reduceAxis, Strided.shape_reduceAxis, same_shape]
  | productAxis axis =>
    refine outline_along same_type same_shape axis .productAxis fun position _ => ?_
    refine outline_array same_type [] ?_
    rw [Strided.shape_reduceAxis, Strided.shape_reduceAxis, same_shape]
  | cumulativeProduct axis =>
    refine outline_along same_type same_shape axis .cumulativeProduct fun position _ => ?_
    refine outline_array same_type [] ?_
    exact (View.shape_dense _).trans (same_shape.trans (View.shape_dense _).symm)
  | mean =>
    refine outline_bind (congrArg _ same_type) fun _ _ => ?_
    simp only [same_size]
    split
    · rfl
    · exact outline_bind rfl fun _ _ => rfl
  | meanAxis axis =>
    refine outline_along same_type same_shape axis .meanAxis fun position _ => ?_
    change (if (left.view.axis position).extent = 0 then _ else _ : Except Failure Answer).map _ =
      (if (right.view.axis position).extent = 0 then _ else _ : Except Failure Answer).map _
    rw [same_extent]
    split
    · rfl
    · refine outline_bind rfl fun _ _ => outline_array same_type [] ?_
      rw [Strided.view_modify, Strided.view_modify, Strided.shape_reduceAxis,
        Strided.shape_reduceAxis, same_shape]
  | difference order axis =>
    refine outline_along same_type same_shape _ .difference fun position within => ?_
    refine outline_bind (congrArg _ (same_extent position)) fun number _ => ?_
    dsimp only
    cases t.sub? with
    | none => rfl
    | some subtract =>
      refine outline_array same_type [] ?_
      have right_within : position < right.view.rank := by
        rwa [← View.rank_eq_of_shape_eq same_shape]
      rw [Strided.shape_difference _ _ _ within, Strided.shape_difference _ _ _ right_within,
        same_shape, same_extent]
  | variance correction =>
    rw [apply_variance correction single, apply_variance correction single]
    exact outline_varianceOf same_type same_shape .variance id _
  | deviation correction =>
    rw [apply_deviation correction single, apply_deviation correction single]
    exact outline_varianceOf same_type same_shape .deviation Binary.sqrt _
  | varianceAxis axis correction =>
    rw [apply_varianceAxis correction single, apply_varianceAxis correction single]
    exact outline_variancesOf same_type same_shape .varianceAxis id axis _
  | deviationAxis axis correction =>
    rw [apply_deviationAxis correction single, apply_deviationAxis correction single]
    exact outline_variancesOf same_type same_shape .deviationAxis Binary.sqrt axis _

end Outline

theorem outline_apply_items (call : Call) (single : ∀ items, call.correction? ≠ some (.list items))
    (type : ItemType) {left right : View} (same_shape : left.shape = right.shape) :
    (call.apply (.items type left)).map Answer.outline =
      (call.apply (.items type right)).map Answer.outline := by
  have same_rank (axis : Argument) :
      checkedAxis axis left.rank = checkedAxis axis right.rank :=
    congrArg (fun rank : Nat => checkedAxis axis rank) (View.rank_eq_of_shape_eq same_shape)
  have same_extent := View.extent_eq_of_shape_eq same_shape
  cases call with
  | sum => rfl
  | product => rfl
  | mean => rfl
  | sumAxis axis => exact outline_bind (same_rank axis) fun _ _ => rfl
  | productAxis axis => exact outline_bind (same_rank axis) fun _ _ => rfl
  | meanAxis axis => exact outline_bind (same_rank axis) fun _ _ => rfl
  | cumulativeProduct axis => exact outline_bind (same_rank axis) fun _ _ => rfl
  | difference order axis =>
    refine outline_bind (same_rank _) fun position _ => outline_bind rfl fun _ _ => ?_
    exact outline_bind (congrArg _ (same_extent position)) fun _ _ => rfl
  | variance correction =>
    rw [apply_variance correction single, apply_variance correction single]
    rfl
  | deviation correction =>
    rw [apply_deviation correction single, apply_deviation correction single]
    rfl
  | varianceAxis axis correction =>
    rw [apply_varianceAxis correction single, apply_varianceAxis correction single]
    exact outline_bind (same_rank axis) fun _ _ => rfl
  | deviationAxis axis correction =>
    rw [apply_deviationAxis correction single, apply_deviationAxis correction single]
    exact outline_bind (same_rank axis) fun _ _ => rfl

namespace AnyArray

/-- Items without operations are of a type that has none. -/
def Proper : AnyArray → Prop
  | elements _ _ _ => True
  | items type _ => type.elementType? = none

/-- A call on any array has the outcome that the type and the shape of the array and the arguments
of the call decide: the kind of the first fault in a fixed order of checks, or else an answer, of a
form that is decided as well.  Arrays of one type and one shape even share the failure with its
message, and the warnings.  Once a count of elements is accepted, so is every number up to it that
the pass over them counts. -/
theorem outcomes_decided (call : Call) (single : ∀ items, call.correction? ≠ some (.list items))
    (a : AnyArray) (proper : a.Proper) :
    formOf (call.apply a) = call.outcome a.itemType a.view.shape ∧
      (∀ b : AnyArray, b.Proper → b.itemType = a.itemType → b.view.shape = a.view.shape →
        (call.apply b).map Answer.outline = (call.apply a).map Answer.outline) ∧
      ∀ (f : Format) (count : Nat) (total : Binary f),
        (ElementType.real f).ofCount count = .ok total → ∀ step ≤ count,
          (ElementType.real f).ofInt step = .ok (step : Binary f) := by
  refine ⟨?_, ?_, ?_⟩
  · cases a with
    | elements t swapped data => exact formOf_apply_elements swapped data call single
    | items type view => exact formOf_apply_items call single view proper
  · intro b b_proper same_type same_shape
    -- What is made of elements is of the element type that the type of the items names.
    have same_elements := congrArg ItemType.elementType? same_type
    cases a with
    | elements t swapped data =>
      cases b with
      | elements _ _ _ =>
        cases same_elements
        exact outline_apply_elements same_type same_shape call single
      | items type view => cases b_proper.symm.trans same_elements
    | items type view =>
      cases b with
      | elements _ _ _ => cases same_elements.trans proper
      | items _ _ =>
        cases same_type
        exact outline_apply_items call single type same_shape
  · intro f count total accepted step within
    rw [ElementType.ofCount_real] at accepted
    split at accepted
    case isTrue => cases accepted
    case isFalse counted =>
      rw [Binary.natCast_eq_ofInt]
      apply ElementType.ofInt_real
      exact Binary.isFinite_ofIntDirect_of_le (f := f) (Int.natCast_nonneg step) (by omega)

/-- Three bytes in a row have no third difference. -/
theorem no_third_difference_of_three :
    let k := IntegerType.oneByte true
    let call := Call.difference (some (.integer 3)) none
    let a : AnyArray := .elements (.integer k) false ⟨#[Word.wrap k 7], ⟨0, [⟨3, 0⟩]⟩⟩
    (∀ items, call.correction? ≠ some (.list items)) ∧ a.Proper ∧
      formOf (call.apply a) = .error .value := by
  intro k call a
  have single : ∀ items, call.correction? ≠ some (.list items) := by
    rintro items ⟨⟩
  exact ⟨single, trivial, (outcomes_decided call single a trivial).1⟩

end AnyArray

end StridedReduction

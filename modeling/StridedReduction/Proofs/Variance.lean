import StridedReduction.Array.Call
import StridedReduction.Proofs.Checks
import StridedReduction.Proofs.LaneMoments

/-!
# Variances of lanes

The variances along an axis are those of the lanes on their own, and they fail just as the variance
of a single lane does: what is checked is the number of degrees of freedom, which depends only on
the type, the length of the lanes and the correction.  A correction given as a list makes an array
of each of these variances, with as many axes as the list is deep, and along an axis that only
succeeds for arrays of more axes (`AgreesWithListedLanes`).
-/

namespace StridedReduction

/-- What is done with the correction of a moment, which is a list of items or a single value. -/
def Call.byKind {β : Type} (correction : Option Argument) (listed : List Argument → β)
    (single : Argument → β) : β :=
  match correction.getD defaultCorrection with
  | .list items => listed items
  | value => single value

theorem Call.byKind_cases (correction : Option Argument) :
    (∃ items, ∀ {β : Type} (listed : List Argument → β) single,
      byKind correction listed single = listed items) ∨
    ∃ value, ∀ {β : Type} (listed : List Argument → β) single,
      byKind correction listed single = single value := by
  cases given : correction.getD defaultCorrection with
  | list items => exact .inl ⟨items, fun listed single => by rw [byKind, given]⟩
  | _ => exact .inr ⟨_, fun listed single => by rw [byKind, given]⟩

namespace AnyArray

/-- A moment of all elements. -/
def momentOf (operation : Operation) (finish : {f : Format} → Binary f → Binary f) (a : AnyArray)
    (correction : Option Argument) : Except Failure Answer :=
  Call.byKind correction (a.listedVarianceOf operation finish) (a.varianceOf operation finish)

/-- The moments of the lanes along an axis. -/
def momentsOf (operation : Operation) (finish : {f : Format} → Binary f → Binary f) (a : AnyArray)
    (axis : Argument) (correction : Option Argument) : Except Failure Answer :=
  Call.byKind correction (a.listedVariancesOf operation finish axis)
    (a.variancesOf operation finish axis)

section Answers

variable {a : AnyArray} {answer : Answer} {operation : Operation}
  {finish : {f : Format} → Binary f → Binary f} {axis correction : Argument}
  {items : List Argument}

/-- Only real numbers have a variance, and only if the correction leaves some of their number. -/
theorem exists_of_varianceOf_eq (answered : a.varianceOf operation finish correction = .ok answer) :
    ∃ f swapped, ∃ (data : Strided (Binary f)) (degrees : Binary f),
      a = elements (.real f) swapped data ∧
        (ElementType.real f).degreesOfFreedom a.itemType data.size correction = .ok degrees := by
  obtain ⟨_, -, rest⟩ := exists_of_bind_eq_ok answered
  cases a with
  | items type view => cases rest
  | elements t swapped data =>
    cases t with
    | real f =>
      obtain ⟨degrees, left, -⟩ := exists_of_bind_eq_ok rest
      exact ⟨f, swapped, data, degrees, rfl, left⟩
    | _ => cases rest

theorem exists_of_listedVarianceOf_eq
    (answered : a.listedVarianceOf operation finish items = .ok answer) :
    ∃ f swapped, ∃ (data : Strided (Binary f)) (left : Nat × Binary f),
      a = elements (.real f) swapped data ∧
        (ElementType.real f).listedDegreesOfFreedom a.itemType data.size items = .ok left := by
  obtain ⟨_, -, rest⟩ := exists_of_bind_eq_ok answered
  cases a with
  | items type view => cases rest
  | elements t swapped data =>
    cases t with
    | real f =>
      obtain ⟨left, remaining, -⟩ := exists_of_bind_eq_ok rest
      exact ⟨f, swapped, data, left, rfl, remaining⟩
    | _ => cases rest

theorem exists_of_variancesOf_eq
    (answered : a.variancesOf operation finish axis correction = .ok answer) :
    ∃ f swapped, ∃ (data : Strided (Binary f)) (position : Nat) (degrees : Binary f),
      a = elements (.real f) swapped data ∧ checkedAxis axis data.view.rank = .ok position ∧
        (ElementType.real f).degreesOfFreedom a.itemType (data.view.axis position).extent
          correction = .ok degrees := by
  obtain ⟨position, accepted, checked⟩ := exists_of_bind_eq_ok answered
  obtain ⟨_, -, rest⟩ := exists_of_bind_eq_ok checked
  cases a with
  | items type view => cases rest
  | elements t swapped data =>
    cases t with
    | real f =>
      obtain ⟨degrees, left, -⟩ := exists_of_bind_eq_ok rest
      exact ⟨f, swapped, data, position, degrees, rfl, accepted, left⟩
    | _ => cases rest

theorem exists_of_listedVariancesOf_eq
    (answered : a.listedVariancesOf operation finish axis items = .ok answer) :
    ∃ f swapped, ∃ (data : Strided (Binary f)) (position : Nat) (left : Nat × Binary f),
      a = elements (.real f) swapped data ∧ checkedAxis axis data.view.rank = .ok position ∧
        (ElementType.real f).listedDegreesOfFreedom a.itemType (data.view.axis position).extent
          items = .ok left := by
  obtain ⟨position, accepted, checked⟩ := exists_of_bind_eq_ok answered
  obtain ⟨_, -, rest⟩ := exists_of_bind_eq_ok checked
  cases a with
  | items type view => cases rest
  | elements t swapped data =>
    cases t with
    | real f =>
      obtain ⟨left, remaining, -⟩ := exists_of_bind_eq_ok rest
      exact ⟨f, swapped, data, position, left, rfl, accepted, remaining⟩
    | _ => cases rest

end Answers

variable {f : Format} (swapped : Bool) (data : Strided (Binary f)) {operation : Operation}
  (finish : {f : Format} → Binary f → Binary f) (correction : Argument)
  (complete : operation.missing (ElementType.real f).capabilities = [])

include complete

theorem varianceOf_elements :
    (elements (.real f) swapped data).varianceOf operation finish correction = do
      let degrees ← (ElementType.real f).degreesOfFreedom
        (elements (.real f) swapped data).itemType data.size correction
      return {
        value := .scalar (.real f) (data.variance finish degrees)
        warnings := divisionWarnings degrees } := by
  rw [varianceOf, check_elements (t := .real f), if_pos complete]
  rfl

theorem variancesOf_elements {axis : Argument} {position : Nat}
    (given : axis.axis? = some (position : Int)) (within : position < data.view.rank) :
    (elements (.real f) swapped data).variancesOf operation finish axis correction = do
      let degrees ← (ElementType.real f).degreesOfFreedom
        (elements (.real f) swapped data).itemType (data.view.axis position).extent correction
      return {
        value := .array (elements (.real f) swapped (data.variances finish position degrees))
        warnings := divisionWarnings degrees } := by
  have axis_checked :
      checkedAxis axis (elements (.real f) swapped data).view.rank = .ok position :=
    checkedAxis_natCast given within
  rw [variancesOf, axis_checked, check_elements (t := .real f), if_pos complete]
  rfl

theorem listedVarianceOf_elements (items : List Argument) :
    (elements (.real f) swapped data).listedVarianceOf operation finish items = do
      let (rank, degrees) ← (ElementType.real f).listedDegreesOfFreedom
        (elements (.real f) swapped data).itemType data.size items
      return {
        value := .array (single (.real f) rank (data.variance finish degrees))
        warnings := divisionWarnings degrees } := by
  rw [listedVarianceOf, check_elements (t := .real f), if_pos complete]
  rfl

theorem listedVariancesOf_elements {axis : Argument} {position : Nat}
    (given : axis.axis? = some (position : Int)) (within : position < data.view.rank)
    (items : List Argument) :
    (elements (.real f) swapped data).listedVariancesOf operation finish axis items = do
      let (rank, degrees) ← (ElementType.real f).listedDegreesOfFreedom
        (elements (.real f) swapped data).itemType (data.view.axis position).extent items
      if data.view.rank ≤ rank then
        let shape := data.view.shape.eraseIdx position
        throw (.resultTooLarge shape (List.replicate (rank - shape.length) 1 ++ shape))
      else
        return {
          value := .array (elements (.real f) swapped (data.variances finish position degrees))
          warnings := divisionWarnings degrees } := by
  have axis_checked :
      checkedAxis axis (elements (.real f) swapped data).view.rank = .ok position :=
    checkedAxis_natCast given within
  have shape_eq := Strided.shape_squaresAxis data position
  have rank_eq : (data.view.shape.eraseIdx position).length + 1 = data.view.rank := by
    rw [List.length_eraseIdx_add_one (by rwa [View.length_shape]), View.length_shape]
  have deep_iff (rank : Nat) :
      (data.view.shape.eraseIdx position).length < rank ↔ data.view.rank ≤ rank := by
    omega
  rw [listedVariancesOf, axis_checked, check_elements (t := .real f), if_pos complete]
  simp only [bind, Except.bind, shape_eq, deep_iff]
  rfl

omit complete

/-- The outcome for all lanes along an axis agrees with those for single lanes.  It fails as the
outcome for any row of their length fails; otherwise it holds at each index what the lane there
yields, with the same warnings. -/
structure AgreesWithLanes (axis : Nat) (outcome : Except Failure Answer)
    (single : AnyArray → Except Failure Answer) : Prop where
  fails_iff : ∀ (row : Strided (Binary f)) (failure : Failure),
    row.view.shape = [(data.view.axis axis).extent] →
      (outcome = .error failure ↔ single (elements (.real f) swapped row) = .error failure)
  lanes : ∀ answer, outcome = .ok answer → ∃ result : Strided (Binary f),
    answer.value = .array (elements (.real f) swapped result) ∧
      result.view.shape = data.view.shape.eraseIdx axis ∧
      ∀ index ∈ indices (data.view.shape.eraseIdx axis),
        single (elements (.real f) swapped (data.through (data.view.lane axis index))) =
          .ok { value := .scalar (.real f) (result.get index), warnings := answer.warnings }

/-- What a list as the correction does differently for all lanes along an axis, by what it leaves of
their length.  A single lane then yields an array of one element, with as many axes as the list is
deep, and the outcome holds their elements only if the array of the lanes has more axes. -/
structure AgreesWithListedLanes (axis : Nat) (left : Except Failure (Nat × Binary f))
    (outcome : Except Failure Answer) (listed : AnyArray → Except Failure Answer) : Prop where
  refused : ∀ failure, left = .error failure → outcome = .error failure ∧
    ∀ row : Strided (Binary f), row.view.shape = [(data.view.axis axis).extent] →
      listed (elements (.real f) swapped row) = .error failure
  too_deep : ∀ depth degrees, left = .ok (depth, degrees) → data.view.rank ≤ depth →
    let shape := data.view.shape.eraseIdx axis
    outcome = .error (.resultTooLarge shape (List.replicate (depth - shape.length) 1 ++ shape))
  lanes : ∀ depth degrees, left = .ok (depth, degrees) → depth < data.view.rank →
    ∃ result : Strided (Binary f),
      outcome = .ok ⟨.array (elements (.real f) swapped result), divisionWarnings degrees⟩ ∧
        result.view.shape = data.view.shape.eraseIdx axis ∧
        ∀ index ∈ indices (data.view.shape.eraseIdx axis),
          listed (elements (.real f) swapped (data.through (data.view.lane axis index))) =
            .ok ⟨.array (single (.real f) depth (result.get index)), divisionWarnings degrees⟩

variable {swapped data}

omit finish correction in
theorem size_of_row {row : Strided (Binary f)} {extent : Nat}
    (shape_eq : row.view.shape = [extent]) : row.size = extent := by
  rw [Strided.size, View.size, shape_eq]
  exact Nat.mul_one extent

theorem variancesOf_agree {operationAxis operation : Operation}
    (complete_axis : operationAxis.missing (ElementType.real f).capabilities = [])
    (complete : operation.missing (ElementType.real f).capabilities = [])
    {axis : Argument} {position : Nat} (given : axis.axis? = some (position : Int))
    (within : position < data.view.rank) :
    AgreesWithLanes swapped data position
      ((elements (.real f) swapped data).variancesOf operationAxis finish axis correction)
      fun row => row.varianceOf operation finish correction := by
  -- Both outcomes are decided by one number of degrees of freedom: the lanes and the row have one
  -- length and one type.
  constructor
  case fails_iff =>
    intro row failure shape_eq
    have size_eq : row.size = (data.view.axis position).extent := size_of_row shape_eq
    have same_type :
        (elements (.real f) swapped row).itemType = (elements (.real f) swapped data).itemType :=
      rfl
    rw [variancesOf_elements swapped data finish correction complete_axis given within,
      varianceOf_elements swapped row finish correction complete, size_eq, same_type]
    cases (ElementType.real f).degreesOfFreedom (elements (.real f) swapped data).itemType
        (data.view.axis position).extent correction with
    | error cause => exact Iff.rfl
    | ok degrees => simp [bind, Except.bind, pure, Except.pure]
  case lanes =>
    intro answer yielded
    rw [variancesOf_elements swapped data finish correction complete_axis given within] at yielded
    cases checked : (ElementType.real f).degreesOfFreedom
        (elements (.real f) swapped data).itemType (data.view.axis position).extent correction with
    | error cause =>
      rw [checked] at yielded
      cases yielded
    | ok degrees =>
      rw [checked] at yielded
      cases yielded
      refine ⟨_, rfl, Strided.shape_variances finish data position degrees, ?_⟩
      intro index member
      have length_eq : (data.through (data.view.lane position index)).size =
          (data.view.axis position).extent :=
        size_of_row rfl
      have same_type :
          (elements (.real f) swapped (data.through (data.view.lane position index))).itemType =
            (elements (.real f) swapped data).itemType :=
        rfl
      rw [varianceOf_elements swapped _ finish correction complete, length_eq, same_type, checked,
        Strided.get_variances within finish degrees member]
      rfl

theorem listedVariancesOf_agree {operationAxis operation : Operation}
    (complete_axis : operationAxis.missing (ElementType.real f).capabilities = [])
    (complete : operation.missing (ElementType.real f).capabilities = [])
    {axis : Argument} {position : Nat} (given : axis.axis? = some (position : Int))
    (within : position < data.view.rank) (items : List Argument) :
    AgreesWithListedLanes swapped data position
      ((ElementType.real f).listedDegreesOfFreedom (elements (.real f) swapped data).itemType
        (data.view.axis position).extent items)
      ((elements (.real f) swapped data).listedVariancesOf operationAxis finish axis items)
      fun row => row.listedVarianceOf operation finish items := by
  have outcome_eq :=
    listedVariancesOf_elements swapped data finish complete_axis given within items
  -- What the list leaves depends on the type and the length only, which all lanes share.
  have listed_eq {row : Strided (Binary f)}
      (shape_eq : row.view.shape = [(data.view.axis position).extent]) :=
    size_of_row shape_eq ▸ listedVarianceOf_elements swapped row finish complete items
  have same_type (row : Strided (Binary f)) :
      (elements (.real f) swapped row).itemType = (elements (.real f) swapped data).itemType := rfl
  constructor
  case refused =>
    intro failure left
    refine ⟨?_, fun row shape_eq => ?_⟩
    · rw [outcome_eq, left]
      rfl
    · rw [listed_eq shape_eq, same_type, left]
      rfl
  case too_deep =>
    intro depth degrees left deep
    rw [outcome_eq, left]
    exact if_pos deep
  case lanes =>
    intro depth degrees left fits
    refine ⟨data.variances finish position degrees, ?_,
      Strided.shape_variances finish data position degrees, ?_⟩
    · rw [outcome_eq, left]
      exact if_neg (Nat.not_le_of_lt fits)
    · intro index member
      rw [listed_eq rfl, same_type, left, Strided.get_variances within finish degrees member]
      rfl

/-- The variances and the standard deviations along any axis agree with those of the lanes on their
own, bit for bit, whatever single value the correction is. -/
theorem axisMoments_agree_with_lanes (f : Format) (swapped : Bool) (data : Strided (Binary f))
    {axis : Argument} {position : Nat} (given : axis.axis? = some (position : Int))
    (within : position < data.view.rank) (correction : Option Argument)
    (single : ∀ items, correction ≠ some (.list items)) :
    let a := elements (.real f) swapped data
    AgreesWithLanes swapped data position ((Call.varianceAxis axis correction).apply a)
        (Call.variance correction).apply ∧
      AgreesWithLanes swapped data position ((Call.deviationAxis axis correction).apply a)
        (Call.deviation correction).apply := by
  intro a
  have both (value : Argument) :
      AgreesWithLanes swapped data position (a.varianceAxis axis value) (·.variance value) ∧
        AgreesWithLanes swapped data position (a.deviationAxis axis value) (·.deviation value) :=
    ⟨variancesOf_agree id value rfl rfl given within,
      variancesOf_agree Binary.sqrt value rfl rfl given within⟩
  cases correction with
  | none => exact both Call.defaultCorrection
  | some value =>
    cases value with
    | list items => exact absurd rfl (single items)
    | _ => exact both _

/-- With a list as the correction they do so as well, unless the list is as deep as the array has
axes. -/
theorem axisMoments_agree_with_listed_lanes (f : Format) (swapped : Bool)
    (data : Strided (Binary f)) {axis : Argument} {position : Nat}
    (given : axis.axis? = some (position : Int)) (within : position < data.view.rank)
    (items : List Argument) :
    let a := elements (.real f) swapped data
    let left := (ElementType.real f).listedDegreesOfFreedom a.itemType
      (data.view.axis position).extent items
    AgreesWithListedLanes swapped data position left
        ((Call.varianceAxis axis (some (.list items))).apply a)
        (Call.variance (some (.list items))).apply ∧
      AgreesWithListedLanes swapped data position left
        ((Call.deviationAxis axis (some (.list items))).apply a)
        (Call.deviation (some (.list items))).apply :=
  ⟨listedVariancesOf_agree id rfl rfl given within items,
    listedVariancesOf_agree Binary.sqrt rfl rfl given within items⟩

/-- The same halves met twice, once in each of two rows that are stored as one, have a variance in
each row, and the variances of both rows agree with them. -/
theorem broadcast_rows_agree :
    let data : Strided (Binary .half) :=
      ⟨#[Binary.ofInt 1, Binary.ofInt (-2), Binary.ofInt 4], ⟨2, [⟨2, 0⟩, ⟨3, -1⟩]⟩⟩
    let outcome := (Call.varianceAxis (.integer 1) (some (.integer 1))).apply
      (elements (.real .half) false data)
    (Argument.integer 1).axis? = some ((1 : Nat) : Int) ∧ 1 < data.view.rank ∧
      outcome.isOk = true ∧
      AgreesWithLanes false data 1 outcome (Call.variance (some (.integer 1))).apply := by
  intro data outcome
  have given : (Argument.integer 1).axis? = some ((1 : Nat) : Int) := rfl
  have within : 1 < data.view.rank := by decide
  have single : ∀ items, some (Argument.integer 1) ≠ some (.list items) := by
    intro items same
    cases same
  have agreement := axisMoments_agree_with_lanes .half false data given within _ single
  exact ⟨given, within, by decide +kernel, agreement.1⟩

end AnyArray

end StridedReduction

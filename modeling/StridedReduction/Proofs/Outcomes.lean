import StridedReduction.Proofs.AxisOrder
import StridedReduction.Proofs.DegreesOfFreedom
import StridedReduction.Proofs.DifferenceRounds

/-!
# Outcomes of calls

Whether a call has an answer, what kind of fault it has otherwise, and what shape and type the
answer is of are decided by the type and the shape of the array and by the arguments of the call
(`Call.outcome`); the elements and their layout play no part.  Everything is checked before anything
is computed, in one order for all operations: the axis, the type, and then the other arguments.
-/

namespace StridedReduction

/-- What an operation yields, but for the elements. -/
inductive Form
  /-- Nothing. -/
  | absent
  /-- One element of a type. -/
  | scalar (t : ElementType)
  /-- An array of items of a type, of a shape. -/
  | array (type : ItemType) (shape : List Nat)
  /-- An integer that has not become an element. -/
  | integer

/-- The form of a value. -/
def Value.form : Value → Form
  | absent => .absent
  | scalar t _ => .scalar t
  | array a => .array a.itemType a.view.shape
  | integer _ => .integer

/-- The kind of a failure, or the form of what is answered. -/
def formOf (outcome : Except Failure Answer) : Except FailureKind Form :=
  (outcome.mapError Failure.kind).map (·.value.form)

namespace ElementType

/-- A count is greater than all finite elements of a type of numbers. -/
def Exceeded (t : ElementType) (count : Nat) : Prop :=
  match t with
  | boolean => True
  | integer k => k.greatest < count
  | real f => f.largest < count * f.one
  | complex f => f.largest < count * f.one

instance (t : ElementType) (count : Nat) : Decidable (t.Exceeded count) :=
  match t with
  | boolean => inferInstanceAs (Decidable True)
  | integer k => inferInstanceAs (Decidable (k.greatest < count))
  | real f => inferInstanceAs (Decidable (f.largest < count * f.one))
  | complex f => inferInstanceAs (Decidable (f.largest < count * f.one))

/-- What becomes of an average of a number of elements. -/
def averaged (t : ElementType) (count : Nat) (form : Form) : Except FailureKind Form :=
  if count = 0 then .ok .absent
  else if t.Exceeded count then .error .overflow
  else .ok form

/-- What becomes of a moment of a number of elements with a correction, which only real numbers
have. -/
def corrected (t : ElementType) (count : Nat) (correction : Argument) (form : Form) :
    Except FailureKind Form :=
  match t with
  | real f =>
    if (real f).Exceeded count then .error .overflow
    else
      match correction.toElement (real f) with
      | .error .unconvertible => .error .type
      | .error .outOfRange => .error .value
      | .ok taken =>
        if (Binary.ofInt 0).le taken && taken.le (Binary.ofInt count : Binary f) then .ok form
        else .error .value
  | _ => .error .type

end ElementType

/-- What becomes of a call along an axis, which must be an integer from zero up to the rank. -/
def alongAxis (axis : Argument) (rank : Nat) (settled : Nat → Except FailureKind Form) :
    Except FailureKind Form :=
  match axis.axis? with
  | none => .error .type
  | some number => if 0 ≤ number ∧ number < rank then settled number.toNat else .error .axis

/-- What becomes of an operation on elements of a type, which must not lack any capability. -/
def Operation.completed (operation : Operation) (t : ElementType)
    (concluded : Except FailureKind Form) : Except FailureKind Form :=
  if operation.missing t.capabilities = [] then concluded else .error .type

namespace Call

/-- The operation that is called. -/
def operation : Call → Operation
  | sum => .sum
  | product => .product
  | mean => .mean
  | sumAxis _ => .sumAxis
  | productAxis _ => .productAxis
  | meanAxis _ => .meanAxis
  | cumulativeProduct _ => .cumulativeProduct
  | difference _ _ => .difference
  | variance _ => .variance
  | deviation _ => .deviation
  | varianceAxis _ _ => .varianceAxis
  | deviationAxis _ _ => .deviationAxis

/-- The axis that an operation runs along, if it runs along one. -/
def axis? : Call → Option Argument
  | sumAxis axis => some axis
  | productAxis axis => some axis
  | meanAxis axis => some axis
  | cumulativeProduct axis => some axis
  | difference _ axis => some (axis.getD defaultAxis)
  | varianceAxis axis _ => some axis
  | deviationAxis axis _ => some axis
  | _ => none

/-- The correction of a moment. -/
def correction? : Call → Option Argument
  | variance correction => correction
  | deviation correction => correction
  | varianceAxis _ correction => correction
  | deviationAxis _ correction => correction
  | _ => none

/-- What becomes of a call on elements of a type once its axis and the type are accepted. -/
def concluded (call : Call) (t : ElementType) (type : ItemType) (shape : List Nat) (axis : Nat) :
    Except FailureKind Form :=
  let size := extentProduct shape
  let length := shape.getD axis 1
  let reduced := Form.array type (shape.eraseIdx axis)
  match call with
  | sum => .ok (.scalar t)
  | product => .ok (.scalar t)
  | sumAxis _ => .ok reduced
  | productAxis _ => .ok reduced
  | cumulativeProduct _ => .ok (.array type shape)
  | difference order _ =>
    match (order.getD defaultOrder).index? with
    | none => .error .type
    | some number =>
      if number < 0 ∨ 1 ≤ number ∧ length ≤ number then .error .value
      else .ok (.array type (shape.set axis (length - number.toNat)))
  | mean => t.averaged size (.scalar t)
  | meanAxis _ => t.averaged length reduced
  | variance correction => t.corrected size (correction.getD defaultCorrection) (.scalar t)
  | deviation correction => t.corrected size (correction.getD defaultCorrection) (.scalar t)
  | varianceAxis _ correction => t.corrected length (correction.getD defaultCorrection) reduced
  | deviationAxis _ correction => t.corrected length (correction.getD defaultCorrection) reduced

/-- What becomes of a call once its axis is accepted: the type must be supported and complete. -/
def settled (call : Call) (type : ItemType) (shape : List Nat) (axis : Nat) :
    Except FailureKind Form :=
  match type.elementType? with
  | none => .error .type
  | some t => call.operation.completed t (call.concluded t type shape axis)

/-- What becomes of a call on an array of a type and a shape. -/
def outcome (call : Call) (type : ItemType) (shape : List Nat) : Except FailureKind Form :=
  match call.axis? with
  | none => call.settled type shape 0
  | some axis => alongAxis axis shape.length (call.settled type shape)

end Call

section Checks

theorem formOf_along {axis : Argument} (view : View) {next : Nat → Except Failure Answer}
    {settled : Nat → Except FailureKind Form}
    (agree : ∀ position : Nat, axis.axis? = some (position : Int) → position < view.rank →
      formOf (next position) = settled position) :
    formOf (checkedAxis axis view.rank >>= next) = alongAxis axis view.shape.length settled := by
  rw [View.length_shape, alongAxis]
  cases given : axis.axis? with
  | none =>
    rw [checkedAxis, given]
    rfl
  | some number =>
    by_cases within : 0 ≤ number ∧ number < view.rank
    · obtain ⟨position, rfl⟩ := Int.eq_ofNat_of_zero_le within.1
      have below : position < view.rank := by omega
      rw [checkedAxis_natCast given below]
      simp only [if_pos within, Int.toNat_natCast]
      exact agree position given below
    · simp only [checkedAxis, given, if_neg within]
      rfl

theorem elementType?_native (type : ItemType) : type.native.elementType? = type.elementType? := by
  cases type <;> rfl

theorem formOf_check_items {type : ItemType} (without : type.elementType? = none)
    (operation : Operation) (next : Unit → Except Failure Answer) :
    formOf (operation.check type >>= next) = .error .type := by
  rw [Operation.check, ItemType.isSupported, ItemType.machineOrdered]
  split
  case isTrue => rfl
  case isFalse =>
    simp only [bind, Except.bind, pure, Except.pure, elementType?_native, without]
    rfl

variable {t : ElementType} (swapped : Bool) (data : Strided t.Carrier)

theorem formOf_check {operation : Operation} {next : Unit → Except Failure Answer}
    {concluded : Except FailureKind Form}
    (agree : operation.missing t.capabilities = [] → formOf (next ()) = concluded) :
    formOf (operation.check (AnyArray.elements t swapped data).itemType >>= next) =
      operation.completed t concluded := by
  rw [AnyArray.check_elements, Operation.completed]
  by_cases complete : operation.missing t.capabilities = []
  · rw [if_pos complete, if_pos complete]
    exact agree complete
  · rw [if_neg complete, if_neg complete]
    rfl

end Checks

namespace ElementType

variable {t : ElementType} {count : Nat}

theorem exceeded_real {f : Format} : (real f).Exceeded count ↔ f.largest / f.one < count :=
  (Nat.div_lt_iff_lt_mul f.one_pos).symm

theorem ofCount_of_exceeded (numeric : t ≠ .boolean) (exceeded : t.Exceeded count) :
    t.ofCount count = .error (.countTooLarge count t) := by
  cases t with
  | boolean => exact absurd rfl numeric
  | integer k => exact if_pos exceeded
  | real f => exact if_pos (Int.ofNat_lt.mpr (exceeded_real.mp exceeded))
  | complex f => exact if_pos (Int.ofNat_lt.mpr (exceeded_real.mp exceeded))

/-- The element that a count is converted to where it is accepted. -/
def ofNat : (t : ElementType) → Nat → t.Carrier
  | boolean, count => decide (count ≠ 0)
  | integer k, count => Word.wrap k count
  | real _, count => Binary.ofInt count
  | complex _, count => Complex.ofReal (Binary.ofInt count)

/-- A count that is not greater than all finite elements converts to an element. -/
theorem ofCount_eq_ofNat (numeric : t ≠ .boolean) (within : ¬t.Exceeded count) :
    t.ofCount count = .ok (t.ofNat count) := by
  cases t with
  | boolean => exact absurd rfl numeric
  | integer k => exact ofCount_integer (Int.not_lt.mp within)
  | real f => exact ofCount_of_le f (Nat.not_lt.mp (mt exceeded_real.mpr within))
  | complex f =>
    have le : count ≤ f.largest / f.one := Nat.not_lt.mp (mt exceeded_real.mpr within)
    have finite : (Binary.ofIntDirect count : Binary .double).isFinite :=
      Binary.isFinite_ofIntDirect_of_le (f := f) (Int.natCast_nonneg count) (by omega)
    refine (if_neg (by omega)).trans ?_
    rw [ofInt, if_pos finite, ofNat]

end ElementType

section Conclusions

variable {t : ElementType} {count : Nat} {form : Form}

theorem formOf_averaged (numeric : t ≠ .boolean) {empty : Answer}
    (absent : empty.value.form = .absent) {answer : t.Carrier → Answer}
    (answered : ∀ x, (answer x).value.form = form) :
    formOf (if count = 0 then .ok empty else t.ofCount count >>= fun x => .ok (answer x)) =
      t.averaged count form := by
  rw [ElementType.averaged]
  split
  case isTrue => exact congrArg Except.ok absent
  case isFalse =>
    by_cases exceeded : t.Exceeded count
    · rw [ElementType.ofCount_of_exceeded numeric exceeded, if_pos exceeded]
      rfl
    · rw [ElementType.ofCount_eq_ofNat numeric exceeded, if_neg exceeded]
      exact congrArg Except.ok (answered _)

theorem formOf_corrected {f : Format} (type : ItemType) (correction : Argument)
    {answer : Binary f → Answer} (answered : ∀ degrees, (answer degrees).value.form = form) :
    formOf ((ElementType.real f).degreesOfFreedom type count correction >>= fun degrees =>
        .ok (answer degrees)) =
      (ElementType.real f).corrected count correction form := by
  rw [ElementType.corrected]
  by_cases exceeded : (ElementType.real f).Exceeded count
  · rw [if_pos exceeded, ElementType.degreesOfFreedom,
      ElementType.ofCount_of_exceeded (by rintro ⟨⟩) exceeded]
    rfl
  · have counted : (ElementType.real f).ofCount count = .ok (Binary.ofInt count : Binary f) :=
      ElementType.ofCount_of_le f (Nat.not_lt.mp (mt ElementType.exceeded_real.mpr exceeded))
    rw [if_neg exceeded]
    cases converted : correction.toElement (.real f) with
    | error obstacle =>
      rw [ElementType.degreesOfFreedom_of_obstacle type counted converted]
      cases obstacle <;> rfl
    | ok taken =>
      rw [ElementType.degreesOfFreedom_of_converted type counted converted]
      by_cases inside : ((Binary.ofInt 0).le taken && taken.le (Binary.ofInt count)) = true
      · simp only [if_pos inside]
        exact congrArg Except.ok (answered _)
      · simp only [if_neg inside]
        rfl

theorem formOf_checkedOrder (order : Argument) (axis length : Nat) (form : Nat → Form)
    {next : Nat → Except Failure Answer}
    (agree : ∀ number, formOf (next number) = .ok (form number)) :
    formOf (AnyArray.checkedOrder order axis length >>= next) =
      match order.index? with
      | none => .error .type
      | some number =>
        if number < 0 ∨ 1 ≤ number ∧ length ≤ number then .error .value
        else .ok (form number.toNat) := by
  rw [AnyArray.checkedOrder]
  cases order.index? with
  | none => rfl
  | some number =>
    by_cases negative : number < 0
    · simp only [if_pos negative, if_pos (Or.inl negative)]
      rfl
    · by_cases reached : 1 ≤ number ∧ (length : Int) ≤ number
      · have positive : 0 < number ∧ (length : Int) ≤ number := reached
        simp only [if_neg negative, if_pos positive, if_pos (Or.inr reached)]
        rfl
      · have accepted : ¬(0 < number ∧ (length : Int) ≤ number) := reached
        simp only [if_neg negative, if_neg accepted, if_neg (not_or.mpr ⟨negative, reached⟩)]
        exact agree _

end Conclusions

/-! ## Calls on elements -/

section Elements

variable {t : ElementType} (swapped : Bool) (data : Strided t.Carrier)

theorem numeric_of_complete {operation : Operation}
    (complete : operation.missing t.capabilities = []) : t ≠ .boolean := by
  rintro rfl
  revert complete
  cases operation <;> decide

/-- Only real numbers have square roots. -/
theorem real_of_complete {operation : Operation} (rooted : .squareRoot ∈ operation.requirements)
    (complete : operation.missing t.capabilities = []) : ∃ f, t = .real f := by
  have offered : .squareRoot ∈ t.capabilities := by
    by_contra absent
    have lacking := Operation.mem_missing.mpr ⟨rooted, absent⟩
    rw [complete] at lacking
    cases lacking
  cases t with
  | real f => exact ⟨f, rfl⟩
  | _ => simp [ElementType.capabilities, Capability.arithmetic] at offered

theorem formOf_array {result : Strided t.Carrier} {warnings : List Warning} {shape : List Nat}
    (shape_eq : result.view.shape = shape) :
    formOf (.ok ⟨.array (.elements t swapped result), warnings⟩) =
      .ok (.array (AnyArray.elements t swapped data).itemType shape) := by
  rw [← shape_eq]
  rfl

theorem formOf_reduceAll (operation : Operation) (code : Reduction) :
    formOf ((AnyArray.elements t swapped data).reduceAll operation code) =
      operation.completed t (.ok (.scalar t)) :=
  formOf_check swapped data fun _ => rfl

theorem formOf_reduceLanes (operation : Operation) (code : Reduction) (axis : Argument) :
    formOf ((AnyArray.elements t swapped data).reduceLanes operation code axis) =
      alongAxis axis data.view.shape.length fun position => operation.completed t
        (.ok (.array (AnyArray.elements t swapped data).itemType
          (data.view.shape.eraseIdx position))) := by
  refine formOf_along data.view fun position _ _ => ?_
  refine formOf_check swapped data fun _ => ?_
  exact formOf_array swapped data (Strided.shape_reduceAxis _ _ _ _ position)

theorem formOf_varianceOf {operation : Operation} (rooted : .squareRoot ∈ operation.requirements)
    (finish : {f : Format} → Binary f → Binary f) (correction : Argument) :
    formOf ((AnyArray.elements t swapped data).varianceOf operation finish correction) =
      operation.completed t (t.corrected data.size correction (.scalar t)) := by
  refine formOf_check swapped data fun complete => ?_
  obtain ⟨f, rfl⟩ := real_of_complete rooted complete
  exact formOf_corrected _ correction fun _ => rfl

theorem formOf_variancesOf {operation : Operation} (rooted : .squareRoot ∈ operation.requirements)
    (finish : {f : Format} → Binary f → Binary f) (axis correction : Argument) :
    formOf ((AnyArray.elements t swapped data).variancesOf operation finish axis correction) =
      alongAxis axis data.view.shape.length fun position => operation.completed t
        (t.corrected (data.view.shape.getD position 1) correction
          (.array (AnyArray.elements t swapped data).itemType
            (data.view.shape.eraseIdx position))) := by
  refine formOf_along data.view fun position _ _ => ?_
  refine formOf_check swapped data fun complete => ?_
  obtain ⟨f, rfl⟩ := real_of_complete rooted complete
  rw [View.getD_shape]
  refine formOf_corrected _ correction fun degrees => ?_
  have shape_eq := Strided.shape_variances finish data position degrees
  exact congrArg (Form.array _) shape_eq

/-- A correction that is no list is taken as it is. -/
theorem apply_single {β : Type} {correction : Option Argument}
    (single : ∀ items, correction ≠ some (.list items)) (listed : List Argument → β)
    (plain : Argument → β) :
    (match correction.getD Call.defaultCorrection with
      | .list items => listed items
      | value => plain value) = plain (correction.getD Call.defaultCorrection) := by
  cases correction with
  | none => rfl
  | some value => cases value with
    | list items => exact absurd rfl (single items)
    | _ => rfl

section Single

variable (correction : Option Argument) (single : ∀ items, correction ≠ some (.list items))
  (a : AnyArray) (axis : Argument)

include single

theorem apply_variance :
    (Call.variance correction).apply a = a.variance (correction.getD Call.defaultCorrection) :=
  apply_single single _ _

theorem apply_deviation :
    (Call.deviation correction).apply a = a.deviation (correction.getD Call.defaultCorrection) :=
  apply_single single _ _

theorem apply_varianceAxis :
    (Call.varianceAxis axis correction).apply a =
      a.varianceAxis axis (correction.getD Call.defaultCorrection) :=
  apply_single single _ _

theorem apply_deviationAxis :
    (Call.deviationAxis axis correction).apply a =
      a.deviationAxis axis (correction.getD Call.defaultCorrection) :=
  apply_single single _ _

end Single

/-- A call on elements ends as their type and shape decide. -/
theorem formOf_apply_elements (call : Call)
    (single : ∀ items, call.correction? ≠ some (.list items)) :
    formOf (call.apply (AnyArray.elements t swapped data)) =
      call.outcome (AnyArray.elements t swapped data).itemType data.view.shape := by
  cases call with
  | sum => exact formOf_reduceAll swapped data .sum .sum
  | product => exact formOf_reduceAll swapped data .product .product
  | sumAxis axis => exact formOf_reduceLanes swapped data .sumAxis .sum axis
  | productAxis axis => exact formOf_reduceLanes swapped data .productAxis .product axis
  | cumulativeProduct axis =>
    refine formOf_along data.view fun position _ _ => ?_
    refine formOf_check swapped data fun _ => ?_
    exact formOf_array swapped data (View.shape_dense data.view.shape)
  | difference order axis =>
    refine formOf_along data.view fun position _ within => ?_
    refine formOf_check swapped data fun complete => ?_
    rw [Call.concluded, View.getD_shape]
    refine formOf_checkedOrder _ position _ (fun number => .array _
      (data.view.shape.set position ((data.view.axis position).extent - number))) fun number => ?_
    obtain ⟨subtract, provided⟩ := ElementType.exists_sub (numeric_of_complete complete)
    simp only [provided]
    exact formOf_array swapped data (Strided.shape_difference subtract t.zero number within)
  | mean =>
    refine formOf_check swapped data fun complete => ?_
    exact formOf_averaged (numeric_of_complete complete) rfl fun _ => rfl
  | meanAxis axis =>
    refine formOf_along data.view fun position _ _ => ?_
    refine formOf_check swapped data fun complete => ?_
    rw [Call.concluded, View.getD_shape]
    refine formOf_averaged (numeric_of_complete complete) rfl fun count => ?_
    exact congrArg (Form.array _) (Strided.shape_reduceAxis t.add t.zero true data position)
  | variance correction =>
    rw [apply_variance correction single]
    exact formOf_varianceOf swapped data (by decide) id _
  | deviation correction =>
    rw [apply_deviation correction single]
    exact formOf_varianceOf swapped data (by decide) Binary.sqrt _
  | varianceAxis axis correction =>
    rw [apply_varianceAxis correction single]
    exact formOf_variancesOf swapped data (by decide) id axis _
  | deviationAxis axis correction =>
    rw [apply_deviationAxis correction single]
    exact formOf_variancesOf swapped data (by decide) Binary.sqrt axis _

end Elements

theorem formOf_apply_items (call : Call) (single : ∀ items, call.correction? ≠ some (.list items))
    {type : ItemType} (view : View) (without : type.elementType? = none) :
    formOf (call.apply (.items type view)) = call.outcome type view.shape := by
  have settled_eq (axis : Nat) : call.settled type view.shape axis = .error .type := by
    rw [Call.settled, without]
  have along (axis : Argument) (operation : Operation) (next : Nat → Unit → Except Failure Answer) :
      formOf (checkedAxis axis view.rank >>= fun position =>
          operation.check type >>= next position) =
        alongAxis axis view.shape.length (call.settled type view.shape) := by
    refine formOf_along view fun position _ _ => ?_
    rw [settled_eq]
    exact formOf_check_items without operation _
  have whole (operation : Operation) (next : Unit → Except Failure Answer) :
      formOf (operation.check type >>= next) = call.settled type view.shape 0 := by
    rw [settled_eq]
    exact formOf_check_items without operation _
  cases call with
  | sum => exact whole .sum _
  | product => exact whole .product _
  | mean => exact whole .mean _
  | sumAxis axis => exact along axis .sumAxis _
  | productAxis axis => exact along axis .productAxis _
  | meanAxis axis => exact along axis .meanAxis _
  | cumulativeProduct axis => exact along axis .cumulativeProduct _
  | difference order axis => exact along _ .difference _
  | variance correction =>
    rw [apply_variance correction single]
    exact whole .variance _
  | deviation correction =>
    rw [apply_deviation correction single]
    exact whole .deviation _
  | varianceAxis axis correction =>
    rw [apply_varianceAxis correction single]
    exact along axis .varianceAxis _
  | deviationAxis axis correction =>
    rw [apply_deviationAxis correction single]
    exact along axis .deviationAxis _

end StridedReduction

import StridedReduction.Array.Call

/-!
# Checks before an operation

What is checked before anything is computed depends on the type, the rank and the arguments only.
An element type passes the check of an operation exactly when nothing that the operation needs is
missing, whatever the order of its bytes (`check_elements`); an axis passes exactly when it is an
integer from zero up to the rank (`checkedAxis_natCast`).
-/

namespace StridedReduction

theorem checkedAxis_natCast {axis : Argument} {position rank : Nat}
    (given : axis.axis? = some (position : Int)) (within : position < rank) :
    checkedAxis axis rank = .ok position := by
  have in_bounds : (0 : Int) ≤ position ∧ (position : Int) < rank := by omega
  simp only [checkedAxis, given]
  rw [if_pos in_bounds, Int.toNat_natCast]

theorem given_of_checkedAxis_eq {axis : Argument} {rank position : Nat}
    (accepted : checkedAxis axis rank = .ok position) :
    axis.axis? = some (position : Int) ∧ position < rank := by
  rw [checkedAxis] at accepted
  split at accepted
  case h_1 => cases accepted
  case h_2 number given =>
    split at accepted
    case isTrue within =>
      cases accepted
      exact ⟨by rw [given, Int.toNat_of_nonneg within.1], by omega⟩
    case isFalse => cases accepted

/-- Numbers of every kind do arithmetic. -/
theorem ElementType.missing_eq_nil {t : ElementType} (numeric : t ≠ .boolean)
    {operation : Operation}
    (arithmetic : ∀ needed ∈ operation.requirements, needed ∈ Capability.arithmetic) :
    operation.missing t.capabilities = [] := by
  have offered : ∀ c ∈ Capability.arithmetic, c ∈ t.capabilities := by
    cases t with
    | boolean => exact absurd rfl numeric
    | _ => simp +contextual [capabilities]
  rw [List.eq_nil_iff_forall_not_mem]
  intro needed member
  obtain ⟨required, absent⟩ := Operation.mem_missing.mp member
  exact absent (offered needed (arithmetic needed required))

theorem ElementType.exists_sub {t : ElementType} (numeric : t ≠ .boolean) :
    ∃ subtract, t.sub? = some subtract := by
  cases t with
  | boolean => exact absurd rfl numeric
  | _ => exact ⟨_, rfl⟩

namespace AnyArray

theorem exists_of_bind_eq_ok {β γ : Type} {checked : Except Failure β} {next : β → Except Failure γ}
    {result : γ} (yielded : checked >>= next = .ok result) :
    ∃ b, checked = .ok b ∧ next b = .ok result := by
  cases checked with
  | error failure => cases yielded
  | ok b => exact ⟨b, rfl, yielded⟩

theorem checkedOrder_natCast {order : Argument} {number : Nat}
    (given : order.index? = some (number : Int)) (axis length : Nat) :
    checkedOrder order axis length =
      if number = 0 ∨ number < length then .ok number
      else .error (.orderTooLarge number axis length) := by
  have nonneg : ¬(number : Int) < 0 := by omega
  simp only [checkedOrder, given, if_neg nonneg, Int.toNat_natCast]
  by_cases accepted : number = 0 ∨ number < length
  · rw [if_pos accepted, if_neg (by omega)]
  · rw [if_neg accepted, if_pos (by omega)]

variable {operation : Operation} {t : ElementType} (swapped : Bool) (data : Strided t.Carrier)

theorem check_elements (operation : Operation) :
    operation.check (elements t swapped data).itemType =
      if operation.missing t.capabilities = [] then .ok ()
      else .error (.missingCapabilities operation (elements t swapped data).itemType) := by
  have offered : (elements t swapped data).itemType.capabilities = t.capabilities := rfl
  have supported : (elements t swapped data).itemType.isSupported = .ok true := by
    cases t <;> rfl
  rw [Operation.check, supported, offered]
  by_cases complete : operation.missing t.capabilities = []
  · rw [if_pos complete]
    simp only [complete]
    rfl
  · rw [if_neg complete]
    change (if _ then _ else _) = _
    rw [if_pos complete]
    rfl

theorem cumulativeProduct_elements (numeric : t ≠ .boolean) {axis : Argument} {position : Nat}
    (given : axis.axis? = some (position : Int)) (within : position < data.view.rank) :
    (elements t swapped data).cumulativeProduct axis =
      .ok { value := .array (elements t swapped (data.cumulative t.mul position)) } := by
  have axis_checked : checkedAxis axis ((elements t swapped data).view.rank) = .ok position :=
    checkedAxis_natCast given within
  rw [cumulativeProduct, axis_checked, check_elements,
    if_pos (ElementType.missing_eq_nil numeric (by decide))]
  rfl

/-- An order is accepted when the axis is longer, and order zero for every axis. -/
theorem difference_elements {subtract : t.Carrier → t.Carrier → t.Carrier}
    (provided : t.sub? = some subtract) {order axis : Argument} {number position : Nat}
    (order_given : order.index? = some (number : Int))
    (axis_given : axis.axis? = some (position : Int)) (within : position < data.view.rank) :
    (elements t swapped data).difference order axis =
      if number = 0 ∨ number < (data.view.axis position).extent then
        .ok { value := .array (elements t swapped
          (data.difference subtract t.zero number position)) }
      else .error (.orderTooLarge number position (data.view.axis position).extent) := by
  have axis_checked : checkedAxis axis ((elements t swapped data).view.rank) = .ok position :=
    checkedAxis_natCast axis_given within
  have numeric : t ≠ .boolean := by
    rintro rfl
    cases provided
  rw [difference, axis_checked, check_elements,
    if_pos (ElementType.missing_eq_nil numeric (by decide))]
  change (checkedOrder order position (data.view.axis position).extent).bind _ = _
  rw [checkedOrder_natCast order_given]
  split
  · simp only [provided]
    rfl
  · rfl

theorem mean_elements (numeric : t ≠ .boolean) :
    (elements t swapped data).mean =
      if data.size = 0 then .ok { value := .absent }
      else (t.ofCount data.size).map fun count =>
        { value := .scalar t (t.divideByCount (data.reduce t.add t.zero true) count) } := by
  rw [mean, check_elements, if_pos (ElementType.missing_eq_nil numeric (by decide))]
  by_cases empty : data.size = 0
  · simp only [if_pos empty]
    rfl
  · simp only [if_neg empty]
    cases t.ofCount data.size <;> rfl

/-- A mean fails only if the type has no element for the number of elements. -/
theorem ofCount_eq_of_mean_eq (numeric : t ≠ .boolean) {failure : Failure}
    (failed : (elements t swapped data).mean = .error failure) :
    t.ofCount data.size = .error failure := by
  rw [mean_elements swapped data numeric] at failed
  split at failed
  case isTrue => cases failed
  case isFalse =>
    cases counted : t.ofCount data.size with
    | error refusal =>
      rw [counted] at failed
      cases failed
      rfl
    | ok count =>
      rw [counted] at failed
      cases failed

theorem meanAxis_elements (numeric : t ≠ .boolean) {axis : Argument} {position : Nat}
    (given : axis.axis? = some (position : Int)) (within : position < data.view.rank) :
    (elements t swapped data).meanAxis axis =
      if (data.view.axis position).extent = 0 then .ok { value := .absent }
      else (t.ofCount (data.view.axis position).extent).map fun count =>
        { value := .array (elements t swapped
          ((data.reduceAxis t.add t.zero true position).modify (t.divideByCount · count))) } := by
  have axis_checked : checkedAxis axis ((elements t swapped data).view.rank) = .ok position :=
    checkedAxis_natCast given within
  rw [meanAxis, axis_checked, check_elements,
    if_pos (ElementType.missing_eq_nil numeric (by decide))]
  by_cases empty : (data.view.axis position).extent = 0
  · rw [if_pos empty]
    exact if_pos empty
  · rw [if_neg empty]
    refine (if_neg empty).trans ?_
    cases t.ofCount (data.view.axis position).extent <;> rfl

variable (code : Reduction) (complete : operation.missing t.capabilities = [])

include complete

theorem reduceAll_elements :
    (elements t swapped data).reduceAll operation code =
      .ok { value := .scalar t (data.reduce (code.operation t) (code.identity t) true) } := by
  rw [reduceAll, check_elements, if_pos complete]
  rfl

theorem reduceLanes_elements {axis : Argument} {position : Nat}
    (given : axis.axis? = some (position : Int)) (within : position < data.view.rank) :
    (elements t swapped data).reduceLanes operation code axis =
      .ok { value := .array (elements t swapped
        (data.reduceAxis (code.operation t) (code.identity t) true position)) } := by
  have axis_checked : checkedAxis axis ((elements t swapped data).view.rank) = .ok position :=
    checkedAxis_natCast given within
  rw [reduceLanes, axis_checked, check_elements, if_pos complete]
  rfl

end AnyArray

namespace AnyArray

variable {t : ElementType} (swapped : Bool) (data : Strided t.Carrier) (code : Reduction)
  (numeric : t ≠ .boolean)

include numeric

theorem apply_whole :
    code.whole.apply (elements t swapped data) =
      .ok { value := .scalar t (data.reduce (code.operation t) (code.identity t) true) } := by
  cases code with
  | sum =>
    exact reduceAll_elements swapped data .sum (ElementType.missing_eq_nil numeric (by decide))
  | product =>
    exact reduceAll_elements swapped data .product (ElementType.missing_eq_nil numeric (by decide))

theorem apply_along {axis : Argument} {position : Nat} (given : axis.axis? = some (position : Int))
    (within : position < data.view.rank) :
    (code.along axis).apply (elements t swapped data) =
      .ok { value := .array (elements t swapped
        (data.reduceAxis (code.operation t) (code.identity t) true position)) } := by
  cases code with
  | sum =>
    exact reduceLanes_elements swapped data .sum (ElementType.missing_eq_nil numeric (by decide))
      given within
  | product =>
    exact reduceLanes_elements swapped data .product
      (ElementType.missing_eq_nil numeric (by decide)) given within

end AnyArray

end StridedReduction

import StridedReduction.Proofs.Outcomes

/-!
# Counts as divisors

A count is refused exactly when it is greater than every finite element of the type.  Any other
stands for a finite element of at least one, because the conversion keeps the order and the greatest
accepted count is converted to a finite number (`ElementType.Counts`).  So whatever a mean or a step
of a moment is divided by is finite and not zero: the steps of the pass count up to a number that
was accepted before it began (`counts_are_divisors`).
-/

namespace StridedReduction

namespace Format

variable (f : Format)

theorem precision_le_ceiling : f.precision ≤ f.ceiling := by
  cases f <;> decide

theorem two_pow_ceiling : 2 ^ f.ceiling = 2 ^ f.precision * 2 ^ (f.ceiling - f.precision) := by
  rw [← Nat.pow_add, Nat.add_sub_cancel' f.precision_le_ceiling]

theorem representable_largest : f.Representable f.largest := by
  have digits_lt : 2 ^ f.precision - 1 < 2 ^ f.precision :=
    Nat.sub_one_lt (Nat.two_pow_pos _).ne'
  refine ⟨?_, 2 ^ f.precision - 1, f.ceiling - f.precision, digits_lt, rfl⟩
  calc (2 ^ f.precision - 1) * 2 ^ (f.ceiling - f.precision)
      < 2 ^ f.precision * 2 ^ (f.ceiling - f.precision) :=
        Nat.mul_lt_mul_of_pos_right digits_lt (Nat.two_pow_pos _)
    _ = 2 ^ f.ceiling := f.two_pow_ceiling.symm

/-- Magnitudes below the ceiling with few enough digits have the largest one as a bound. -/
theorem Representable.le_largest {f : Format} {units : Nat}
    (representable : f.Representable units) : units ≤ f.largest := by
  obtain ⟨below, digits, shift, few, rfl⟩ := representable
  let top := f.ceiling - f.precision
  rcases Nat.le_total shift top with low | high
  · exact Nat.mul_le_mul (Nat.le_sub_one_of_lt few) (Nat.pow_le_pow_right (by decide) low)
  · -- All of the shift past the top one goes into the digits.
    have units_eq : digits * 2 ^ shift = digits * 2 ^ (shift - top) * 2 ^ top := by
      rw [Nat.mul_assoc, ← Nat.pow_add, Nat.sub_add_cancel high]
    have fewer : digits * 2 ^ (shift - top) < 2 ^ f.precision := by
      apply Nat.lt_of_mul_lt_mul_right (a := 2 ^ top)
      rw [← units_eq]
      exact below.trans_eq f.two_pow_ceiling
    exact units_eq.trans_le (Nat.mul_le_mul_right _ (Nat.le_sub_one_of_lt fewer))

end Format

namespace ElementType

/-- Whether an element is finite, a complex one in both parts. -/
def IsFinite : (t : ElementType) → t.Carrier → Prop
  | boolean, _ => True
  | integer _, _ => True
  | real _, x => x.isFinite
  | complex _, z => z.re.isFinite ∧ z.im.isFinite

/-- How many units of its type an element has, a complex one in its real part. -/
def units : (t : ElementType) → t.Carrier → Int
  | boolean, truth => if truth then 1 else 0
  | integer _, word => word.value
  | real _, x => x.place
  | complex _, z => z.re.place

/-- The number one, in units of a type. -/
def unit : ElementType → Nat
  | boolean => 1
  | integer _ => 1
  | real f => f.one
  | complex f => f.one

/-- Whether a count is greater than every finite element, or every real part of one. -/
def Surpassed (t : ElementType) (count : Int) : Prop :=
  ∀ x : t.Carrier, t.IsFinite x → t.units x < count * t.unit

theorem place_le_units {f : Format} (negative : Bool) (units : Nat)
    (representable : f.Representable units) :
    (Binary.finite negative units representable : Binary f).place ≤ units := by
  cases negative
  · exact Int.le_refl _
  · exact (Int.neg_nonpos_of_nonneg (Int.natCast_nonneg units)).trans (Int.natCast_nonneg units)

theorem forall_place_lt_iff {f : Format} {count : Nat} :
    (∀ x : Binary f, x.isFinite → x.place < (count : Int) * f.one) ↔
      f.largest < count * f.one := by
  rw [← Int.ofNat_lt, Int.natCast_mul]
  constructor
  · intro surpassed
    exact surpassed (.finite false f.largest f.representable_largest) rfl
  · intro exceeded x finite
    obtain ⟨negative, units, representable, rfl⟩ := Binary.exists_of_isFinite finite
    have place_le := place_le_units negative units representable
    have le := Int.ofNat_le.mpr representable.le_largest
    exact (place_le.trans le).trans_lt exceeded

/-- A count is refused exactly when it surpasses the finite elements. -/
theorem surpassed_iff {t : ElementType} (numeric : t ≠ .boolean) {count : Nat} :
    t.Surpassed count ↔ t.Exceeded count := by
  cases t with
  | boolean => exact absurd rfl numeric
  | integer k =>
    have modulus_pos := k.modulus_pos
    have greatest_contained : k.Contains k.greatest := by
      constructor
      · rw [IntegerType.greatest]
        omega
      · exact Int.le_refl _
    constructor
    · intro surpassed
      have beyond := surpassed ⟨k.greatest, greatest_contained⟩ trivial
      rwa [unit, Int.natCast_one, Int.mul_one] at beyond
    · intro exceeded word _
      rw [unit, Int.natCast_one, Int.mul_one]
      exact word.contains.2.trans_lt exceeded
  | real f => exact forall_place_lt_iff
  | complex f =>
    refine Iff.trans ⟨fun surpassed x finite => ?_, fun below z finite => ?_⟩ forall_place_lt_iff
    · exact surpassed (Complex.ofReal x) ⟨finite, rfl⟩
    · exact below z.re finite.1

/-- The element stands for a count: it is finite and at least one, and for integers it is the count
itself. -/
structure Counts (t : ElementType) (count : Int) (x : t.Carrier) : Prop where
  finite : t.IsFinite x
  one_le : t.le t.one x = true
  exact_of_integer : ∀ k, t = .integer k → t.units x = count

variable {t : ElementType} {count : Nat}

theorem Exceeded.mono {fewer : Nat} (le : fewer ≤ count) (exceeded : t.Exceeded fewer) :
    t.Exceeded count := by
  cases t with
  | boolean => trivial
  | integer k => exact lt_of_lt_of_le exceeded (Int.ofNat_le.mpr le)
  | real f => exact lt_of_lt_of_le exceeded (Nat.mul_le_mul_right f.one le)
  | complex f => exact lt_of_lt_of_le exceeded (Nat.mul_le_mul_right f.one le)

theorem le_ofReal {f : Format} (x y : Binary f) :
    (Complex.ofReal x).le (Complex.ofReal y) = x.le y := by
  have zero_le : (Binary.signedZero false : Binary f).le (Binary.signedZero false) = true :=
    Binary.zero_le_iff.mpr ⟨rfl, (Binary.place_signedZero false).ge⟩
  have zero_number : (Binary.signedZero false : Binary f).isNaN = false := rfl
  simp only [Complex.le, Complex.ofReal, zero_le, zero_number, Bool.not_false, Bool.and_true]
  rfl

theorem isFinite_ofReal {f : Format} {x : Binary f} (finite : x.isFinite) :
    (complex f).IsFinite (Complex.ofReal x) :=
  ⟨finite, rfl⟩

theorem units_ofReal {f : Format} (x : Binary f) : (complex f).units (Complex.ofReal x) = x.place :=
  rfl

/-- Accepted counts are converted in their order. -/
theorem ofNat_mono {fewer : Nat} (le : fewer ≤ count) (within : ¬t.Exceeded count) :
    t.le (t.ofNat fewer) (t.ofNat count) = true := by
  have numbers_le (f : Format) :
      (Binary.ofInt fewer : Binary f).le (Binary.ofInt count) = true := by
    rw [Binary.le_iff_place (Binary.isNaN_ofInt _) (Binary.isNaN_ofInt _)]
    exact Binary.place_ofInt_mono (Int.ofNat_le.mpr le)
  cases t with
  | boolean => exact absurd trivial within
  | integer k =>
    have count_le : (count : Int) ≤ k.greatest := Int.not_lt.mp within
    have fewer_le : (fewer : Int) ≤ k.greatest := (Int.ofNat_le.mpr le).trans count_le
    apply decide_eq_true
    simp only [ofNat, Word.value_wrap]
    rw [IntegerType.wrap_of_contains (IntegerType.contains_natCast fewer_le),
      IntegerType.wrap_of_contains (IntegerType.contains_natCast count_le)]
    exact Int.ofNat_le.mpr le
  | real f => exact numbers_le f
  | complex f => exact (le_ofReal _ _).trans (numbers_le f)

theorem ofNat_one (numeric : t ≠ .boolean) : t.ofNat 1 = t.one := by
  cases t with
  | boolean => exact absurd rfl numeric
  | _ => simp only [ofNat, one, Int.natCast_one]

theorem counts_ofNat (numeric : t ≠ .boolean) (positive : 1 ≤ count) (within : ¬t.Exceeded count) :
    t.Counts count (t.ofNat count) := by
  have number_finite {f : Format} (le : count ≤ f.largest / f.one) :
      (Binary.ofInt count : Binary f).isFinite :=
    Binary.isFinite_ofInt_of_le (Int.natCast_nonneg count) (Int.ofNat_le.mpr le)
  refine ⟨?_, ?_, ?_⟩
  · cases t with
    | boolean => trivial
    | integer k => trivial
    | real f => exact number_finite (Nat.not_lt.mp (mt exceeded_real.mpr within))
    | complex f =>
      exact isFinite_ofReal (number_finite (Nat.not_lt.mp (mt exceeded_real.mpr within)))
  · rw [← ofNat_one numeric]
    exact ofNat_mono positive within
  · rintro k rfl
    exact IntegerType.wrap_of_contains (IntegerType.contains_natCast (Int.not_lt.mp within))

/-- A quotient may be taken by the element: it is finite and not zero. -/
def IsDivisor (t : ElementType) (x : t.Carrier) : Prop :=
  t.IsFinite x ∧ t.units x ≠ 0

theorem isDivisor_of_accepted {x : t.Carrier} (nonzero : count ≠ 0)
    (accepted : t.ofCount count = .ok x) : t.IsDivisor x := by
  have numeric : t ≠ .boolean := by
    rintro rfl
    cases accepted
  have within : ¬t.Exceeded count := by
    intro exceeded
    rw [ofCount_of_exceeded numeric exceeded] at accepted
    cases accepted
  rw [ofCount_eq_ofNat numeric within] at accepted
  cases accepted
  refine ⟨(counts_ofNat numeric (Nat.pos_of_ne_zero nonzero) within).finite, ?_⟩
  have number_ne (f : Format) : (Binary.ofInt count : Binary f).place ≠ 0 := by
    rw [ne_eq, Binary.place_ofInt_eq_zero]
    omega
  cases t with
  | boolean => exact absurd rfl numeric
  | integer k =>
    have exact_eq : (integer k).units ((integer k).ofNat count) = count :=
      IntegerType.wrap_of_contains (IntegerType.contains_natCast (Int.not_lt.mp within))
    omega
  | real f => exact number_ne f
  | complex f => exact (units_ofReal _).trans_ne (number_ne f)

theorem exists_of_degreesOfFreedom_eq {type : ItemType} {correction : Argument}
    {degrees : t.Carrier} (left : t.degreesOfFreedom type count correction = .ok degrees) :
    ∃ total, t.ofCount count = .ok total := by
  obtain ⟨total, counted, -⟩ := AnyArray.exists_of_bind_eq_ok left
  exact ⟨total, counted⟩

theorem exists_of_listedDegreesOfFreedom_eq {type : ItemType} {items : List Argument}
    {left : Nat × t.Carrier} (remaining : t.listedDegreesOfFreedom type count items = .ok left) :
    ∃ total, t.ofCount count = .ok total := by
  obtain ⟨total, counted, -⟩ := AnyArray.exists_of_bind_eq_ok remaining
  exact ⟨total, counted⟩

/-- Every number up to an accepted count is a divisor. -/
theorem exists_divisor_of_le {f : Format} {total : Binary f}
    (accepted : (real f).ofCount count = .ok total) {number : Nat} (positive : number ≠ 0)
    (le : number ≤ count) :
    (real f).ofInt number = .ok (Binary.ofInt number : Binary f) ∧
      (real f).IsDivisor (Binary.ofInt number) := by
  have count_le : count ≤ f.largest / f.one := by
    rw [ofCount_real] at accepted
    split at accepted
    case isTrue => cases accepted
    case isFalse within => exact Nat.not_lt.mp within
  have number_le : number ≤ f.largest / f.one := le.trans count_le
  exact ⟨ofInt_real f (Binary.isFinite_ofIntDirect_of_le (f := f) (Int.natCast_nonneg number)
      (Int.ofNat_le.mpr number_le)),
    isDivisor_of_accepted positive (ofCount_of_le f number_le)⟩

end ElementType

namespace Moments

variable {α : Type} [Add α] [Sub α] [Mul α] [Div α] [NatCast α]

theorem count_ofList (xs : List α) : (ofList xs).count = xs.length := by
  induction xs using List.reverseRecOn with
  | nil => rfl
  | append_singleton xs x induction =>
    rw [ofList_append_singleton, List.length_append, List.length_singleton, ← induction]
    rfl

end Moments

theorem LaneMoments.count_foldl {α β : Type} [Add α] [Sub α] [Mul α] [Div α] [NatCast α]
    (parts : List β) (entries : β → List α) (m : LaneMoments α) :
    (parts.foldl (fun m part => m.push (entries part)) m).count = m.count + parts.length := by
  induction parts generalizing m with
  | nil => rfl
  | cons part parts induction =>
    rw [List.foldl_cons, induction, List.length_cons]
    exact Nat.succ_add_eq_add_succ m.count parts.length

namespace Strided

variable {f : Format} (data : Strided (Binary f)) (axis : Nat)

theorem count_lanesAfter {steps : Nat} (within : steps ≤ (data.view.axis axis).extent) :
    (data.lanesAfter axis steps).count = steps := by
  rw [lanesAfter, LaneMoments.count_foldl, View.subviews, List.length_take, List.length_map,
    List.length_range, Nat.min_eq_left within]
  exact Nat.zero_add steps

/-- Each step of the pass over all elements divides by the number of elements met so far, which
converts to a divisor. -/
def StepsDivide : Prop :=
  ∀ steps < data.size, ∃ divisor : Binary f,
    (ElementType.real f).ofInt (steps + 1 : Nat) = .ok divisor ∧
      (ElementType.real f).IsDivisor divisor ∧
      ∀ x, ((Moments.ofList (data.toList.take steps)).push x).mean =
        (Moments.ofList (data.toList.take steps)).mean +
          (x - (Moments.ofList (data.toList.take steps)).mean) / divisor

/-- Each step of the pass along an axis divides all lanes by the number of their elements met so
far, which converts to a divisor. -/
def LaneStepsDivide : Prop :=
  ∀ steps < (data.view.axis axis).extent, ∃ divisor : Binary f,
    (ElementType.real f).ofInt (steps + 1 : Nat) = .ok divisor ∧
      (ElementType.real f).IsDivisor divisor ∧
      ∀ xs, ((data.lanesAfter axis steps).push xs).means =
        List.zipWith (fun mean delta => mean + delta / divisor) (data.lanesAfter axis steps).means
          (List.zipWith (· - ·) xs (data.lanesAfter axis steps).means)

variable {data axis} {total : Binary f}

theorem stepsDivide_of_accepted (accepted : (ElementType.real f).ofCount data.size = .ok total) :
    data.StepsDivide := by
  intro steps below
  obtain ⟨converted, divisor⟩ :=
    ElementType.exists_divisor_of_le accepted (Nat.succ_ne_zero steps) below
  refine ⟨_, converted, divisor, fun x => ?_⟩
  have count_eq : (Moments.ofList (data.toList.take steps)).count = steps := by
    rw [Moments.count_ofList, List.length_take, length_toList, Nat.min_eq_left below.le]
  rw [Moments.push, count_eq, Binary.natCast_eq_ofInt]

theorem laneStepsDivide_of_accepted
    (accepted : (ElementType.real f).ofCount (data.view.axis axis).extent = .ok total) :
    data.LaneStepsDivide axis := by
  intro steps below
  obtain ⟨converted, divisor⟩ :=
    ElementType.exists_divisor_of_le accepted (Nat.succ_ne_zero steps) below
  refine ⟨_, converted, divisor, fun xs => ?_⟩
  rw [LaneMoments.push, count_lanesAfter data axis below.le, Binary.natCast_eq_ofInt]

end Strided

/-! ## Calls that are answered -/

theorem ItemType.ofCount_plain (t : ElementType) (swapped : Bool) (count : Int) :
    (ItemType.plain ⟨.element t, swapped⟩).ofCount count = (t.ofCount count).map (Sigma.mk t) := by
  cases swapped <;> cases t <;> rfl

namespace AnyArray

variable {a : AnyArray} {answer : Answer} {axis : Argument}

/-- The mean of any elements divides by their number. -/
theorem mean_divides (answered : a.mean = .ok answer) :
    answer.value = .absent ∨ ∃ t swapped, ∃ (data : Strided t.Carrier) (count : t.Carrier),
      a = elements t swapped data ∧ t.ofCount data.size = .ok count ∧ t.IsDivisor count ∧
        answer.value = .scalar t (t.divideByCount (data.reduce t.add t.zero true) count) := by
  obtain ⟨_, -, rest⟩ := exists_of_bind_eq_ok answered
  cases a with
  | items type view => cases rest
  | elements t swapped data =>
    dsimp only at rest
    split at rest
    case isTrue =>
      cases rest
      exact .inl rfl
    case isFalse nonempty =>
      obtain ⟨count, counted, ⟨⟩⟩ := exists_of_bind_eq_ok rest
      exact .inr ⟨t, swapped, data, count, rfl, counted,
        ElementType.isDivisor_of_accepted nonempty counted, rfl⟩

/-- The means along an axis divide by its extent. -/
theorem meanAxis_divides (answered : a.meanAxis axis = .ok answer) :
    answer.value = .absent ∨ ∃ t swapped, ∃ (data : Strided t.Carrier) (position : Nat)
        (count : t.Carrier),
      a = elements t swapped data ∧ axis.axis? = some (position : Int) ∧
        position < data.view.rank ∧ t.ofCount (data.view.axis position).extent = .ok count ∧
        t.IsDivisor count ∧
        answer.value = .array (elements t swapped
          ((data.reduceAxis t.add t.zero true position).modify (t.divideByCount · count))) := by
  obtain ⟨position, accepted, checked⟩ := exists_of_bind_eq_ok answered
  obtain ⟨given, within⟩ := given_of_checkedAxis_eq accepted
  obtain ⟨_, -, rest⟩ := exists_of_bind_eq_ok checked
  cases a with
  | items type view => cases rest
  | elements t swapped data =>
    dsimp only at rest
    split at rest
    case isTrue =>
      cases rest
      exact .inl rfl
    case isFalse nonempty =>
      obtain ⟨count, counted, ⟨⟩⟩ := exists_of_bind_eq_ok rest
      exact .inr ⟨t, swapped, data, position, count, rfl, given, within, counted,
        ElementType.isDivisor_of_accepted nonempty counted, rfl⟩

variable {operation : Operation} {finish : {f : Format} → Binary f → Binary f}
  {correction : Option Argument}

/-- Only real numbers have moments, and only where their number is accepted. -/
theorem momentOf_divides (answered : a.momentOf operation finish correction = .ok answer) :
    ∃ f swapped, ∃ data : Strided (Binary f),
      a = elements (.real f) swapped data ∧ data.StepsDivide := by
  rcases Call.byKind_cases correction with ⟨items, by_kind⟩ | ⟨value, by_kind⟩ <;>
    rw [momentOf, by_kind] at answered
  · obtain ⟨f, swapped, data, left, rfl, remaining⟩ := exists_of_listedVarianceOf_eq answered
    obtain ⟨total, counted⟩ := ElementType.exists_of_listedDegreesOfFreedom_eq remaining
    exact ⟨f, swapped, data, rfl, Strided.stepsDivide_of_accepted counted⟩
  · obtain ⟨f, swapped, data, degrees, rfl, remaining⟩ := exists_of_varianceOf_eq answered
    obtain ⟨total, counted⟩ := ElementType.exists_of_degreesOfFreedom_eq remaining
    exact ⟨f, swapped, data, rfl, Strided.stepsDivide_of_accepted counted⟩

theorem momentsOf_divides (answered : a.momentsOf operation finish axis correction = .ok answer) :
    ∃ f swapped, ∃ (data : Strided (Binary f)) (position : Nat),
      a = elements (.real f) swapped data ∧ axis.axis? = some (position : Int) ∧
        position < data.view.rank ∧ data.LaneStepsDivide position := by
  rcases Call.byKind_cases correction with ⟨items, by_kind⟩ | ⟨value, by_kind⟩ <;>
    rw [momentsOf, by_kind] at answered
  · obtain ⟨f, swapped, data, position, left, rfl, accepted, remaining⟩ :=
      exists_of_listedVariancesOf_eq answered
    obtain ⟨given, within⟩ := given_of_checkedAxis_eq accepted
    obtain ⟨total, counted⟩ := ElementType.exists_of_listedDegreesOfFreedom_eq remaining
    exact ⟨f, swapped, data, position, rfl, given, within,
      Strided.laneStepsDivide_of_accepted counted⟩
  · obtain ⟨f, swapped, data, position, degrees, rfl, accepted, remaining⟩ :=
      exists_of_variancesOf_eq answered
    obtain ⟨given, within⟩ := given_of_checkedAxis_eq accepted
    obtain ⟨total, counted⟩ := ElementType.exists_of_degreesOfFreedom_eq remaining
    exact ⟨f, swapped, data, position, rfl, given, within,
      Strided.laneStepsDivide_of_accepted counted⟩

/-- A count is refused, as an overflow, exactly when it is greater than every finite element of the
type; any other is a finite element of at least one, which is not smaller for a greater count, and
for integers it is the count itself.  So every mean that is answered is a quotient by a number that
is finite and not zero, and so is every step of every variance and standard deviation that is
answered, whatever the elements are. -/
theorem counts_are_divisors :
    (∀ (t : ElementType) (swapped : Bool) (count : Int), t ≠ .boolean → 1 ≤ count →
      let convert := (ItemType.plain ⟨.element t, swapped⟩).ofCount
      ((∃ failure, convert count = .error failure ∧ failure.kind = .overflow) ↔
        t.Surpassed count) ∧
      (¬t.Surpassed count → ∃ x, convert count = .ok ⟨t, x⟩ ∧ t.Counts count x ∧
        ∀ fewer, 1 ≤ fewer → fewer ≤ count →
          ∃ y, convert fewer = .ok ⟨t, y⟩ ∧ t.le y x = true)) ∧
    ∀ (a : AnyArray) (answer : Answer),
      (Call.mean.apply a = .ok answer →
        answer.value = .absent ∨ ∃ t swapped, ∃ (data : Strided t.Carrier) (count : t.Carrier),
          a = elements t swapped data ∧ t.ofCount data.size = .ok count ∧ t.IsDivisor count ∧
            answer.value =
              .scalar t (t.divideByCount (data.reduce t.add t.zero true) count)) ∧
      (∀ axis, (Call.meanAxis axis).apply a = .ok answer →
        answer.value = .absent ∨ ∃ t swapped, ∃ (data : Strided t.Carrier) (position : Nat)
            (count : t.Carrier),
          a = elements t swapped data ∧ axis.axis? = some (position : Int) ∧
            position < data.view.rank ∧ t.ofCount (data.view.axis position).extent = .ok count ∧
            t.IsDivisor count ∧
            answer.value = .array (elements t swapped
              ((data.reduceAxis t.add t.zero true position).modify (t.divideByCount · count)))) ∧
      (∀ correction, ∀ call ∈ [Call.variance correction, Call.deviation correction],
        call.apply a = .ok answer → ∃ f swapped, ∃ data : Strided (Binary f),
          a = elements (.real f) swapped data ∧ data.StepsDivide) ∧
      ∀ axis correction,
        ∀ call ∈ [Call.varianceAxis axis correction, Call.deviationAxis axis correction],
          call.apply a = .ok answer → ∃ f swapped, ∃ (data : Strided (Binary f)) (position : Nat),
            a = elements (.real f) swapped data ∧ axis.axis? = some (position : Int) ∧
              position < data.view.rank ∧ data.LaneStepsDivide position := by
  refine ⟨?_, fun a answer => ⟨mean_divides, fun axis => meanAxis_divides, ?_, ?_⟩⟩
  · intro t swapped count numeric positive convert
    obtain ⟨count, rfl⟩ := Int.eq_ofNat_of_zero_le (by omega : 0 ≤ count)
    have converted (count : Nat) : convert count = (t.ofCount count).map (Sigma.mk t) :=
      ItemType.ofCount_plain t swapped count
    rw [ElementType.surpassed_iff numeric, converted]
    by_cases exceeded : t.Exceeded count
    · rw [ElementType.ofCount_of_exceeded numeric exceeded]
      exact ⟨iff_of_true ⟨_, rfl, rfl⟩ exceeded, fun within => absurd exceeded within⟩
    · rw [ElementType.ofCount_eq_ofNat numeric exceeded]
      refine ⟨iff_of_false ?_ exceeded, fun within => ⟨_, rfl,
        ElementType.counts_ofNat numeric (by omega) within, ?_⟩⟩
      · rintro ⟨_, ⟨⟩, -⟩
      · intro fewer fewer_positive le
        obtain ⟨fewer, rfl⟩ := Int.eq_ofNat_of_zero_le (by omega : 0 ≤ fewer)
        have fewer_le : fewer ≤ count := Int.ofNat_le.mp le
        refine ⟨_, ?_, ElementType.ofNat_mono fewer_le within⟩
        rw [converted, ElementType.ofCount_eq_ofNat numeric
          (mt (ElementType.Exceeded.mono fewer_le) within)]
        rfl
  · intro correction
    simp only [List.forall_mem_cons, List.not_mem_nil, false_implies, implies_true, and_true]
    have divides {operation : Operation} {finish : {f : Format} → Binary f → Binary f}
        (answered : a.momentOf operation finish correction = .ok answer) :=
      momentOf_divides answered
    exact ⟨@divides .variance id, @divides .deviation Binary.sqrt⟩
  · intro axis correction
    simp only [List.forall_mem_cons, List.not_mem_nil, false_implies, implies_true, and_true]
    have divides {operation : Operation} {finish : {f : Format} → Binary f → Binary f}
        (answered : a.momentsOf operation finish axis correction = .ok answer) :=
      momentsOf_divides answered
    exact ⟨@divides .varianceAxis id, @divides .deviationAxis Binary.sqrt⟩

/-- Halves with swapped bytes count up to the largest of them and no further, and a variance of
halves divides by divisors only. -/
theorem counts_are_divisors_of_halves :
    let t := ElementType.real .half
    let convert := (ItemType.plain ⟨.element t, true⟩).ofCount
    let data : Strided (Binary .half) :=
      ⟨#[Binary.ofInt 1, Binary.ofInt (-2), Binary.ofInt 4], ⟨2, [⟨3, -1⟩]⟩⟩
    (∃ failure, convert 65505 = .error failure ∧ failure.kind = .overflow) ∧
      (∃ x, convert 65504 = .ok ⟨t, x⟩ ∧ t.Counts 65504 x) ∧
      ∃ answer, (Call.variance none).apply (elements t false data) = .ok answer ∧
        data.StepsDivide := by
  intro t convert data
  obtain ⟨conversions, calls⟩ := counts_are_divisors
  have numeric : t ≠ .boolean := by decide
  have beyond : t.Surpassed (65505 : Nat) := (ElementType.surpassed_iff numeric).mpr (by decide)
  have within : ¬t.Surpassed (65504 : Nat) := by
    rw [ElementType.surpassed_iff numeric]
    decide
  have refused := (conversions t true 65505 numeric (by decide)).1.mpr beyond
  obtain ⟨x, converted, counts, -⟩ := (conversions t true 65504 numeric (by decide)).2 within
  have accepted : t.ofCount (3 : Nat) = .ok (Binary.ofInt 3 : Binary .half) :=
    ElementType.ofCount_of_le .half (by decide)
  have inside : ¬Outside .half 3 0 := by
    rw [not_outside_iff]
    decide +kernel
  have left := ElementType.degreesOfFreedom_of_not_outside accepted
    (elements t false data).itemType inside
  have answered : ∃ answer, (Call.variance none).apply (elements t false data) = .ok answer := by
    change ∃ answer, (elements t false data).variance (.integer 0) = .ok answer
    have size_eq : data.size = 3 := rfl
    rw [variance, varianceOf_elements false data id _ rfl, size_eq, left]
    exact ⟨_, rfl⟩
  obtain ⟨answer, answered⟩ := answered
  obtain ⟨f, swapped, data', same, divides⟩ :=
    (calls (elements t false data) answer).2.2.1 none (.variance none) (by simp) answered
  have same_elements : elements (.real .half) false data = elements (.real f) swapped data' :=
    same
  cases same_elements
  exact ⟨refused, ⟨x, converted, counts⟩, answer, answered, divides⟩

end AnyArray

end StridedReduction

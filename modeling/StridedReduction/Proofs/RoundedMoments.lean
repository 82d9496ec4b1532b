import StridedReduction.Proofs.FloatSigns
import StridedReduction.Proofs.IntegerElements
import StridedReduction.Proofs.LaneMoments

/-!
# Moments in rounded arithmetic

As long as the distance of a finite element from the mean is finite, rounding moves the mean towards
the element and never past it (`Moments.Sound.mean_mem`).  So the distances from the old and the new
mean have one sign, and what their product adds to the sum of squares is not negative.  Where the
distance overflows, the product is negative infinity, and from then on the mean is no number.
-/

namespace StridedReduction

namespace Format

variable (f : Format)

/-- Odd functions need to be bounded on one side of zero only. -/
private theorem mem_uIcc_of_odd (value bound : Int → Int)
    (value_neg : ∀ gap, value (-gap) = -value gap) (bound_neg : ∀ gap, bound (-gap) = -bound gap)
    (within : ∀ gap, 0 ≤ gap → 0 ≤ value gap ∧ value gap ≤ bound gap) (gap : Int) :
    value gap ∈ Set.uIcc 0 (bound gap) := by
  rw [Set.mem_uIcc]
  rcases Int.le_total 0 gap with nonneg | nonpos
  · exact .inl (within gap nonneg)
  · have mirrored := within (-gap) (by omega)
    rw [value_neg, bound_neg] at mirrored
    omega

/-- A quotient by one or more lies between zero and what is divided. -/
theorem round_quotient_mem_round {count : Nat} (one_le : f.one ≤ count) (total : Int) :
    f.round (total * f.one) count ∈ Set.uIcc 0 (f.round total 1) := by
  have one_pos := f.one_pos
  apply mem_uIcc_of_odd (fun total => f.round (total * f.one) count) fun total => f.round total 1
  · intro total
    simp only [Int.neg_mul, round_neg]
  · intro total
    exact f.round_neg total 1
  · intro total nonneg
    refine ⟨f.round_nonneg (Int.mul_nonneg nonneg (Int.natCast_nonneg _)) _, ?_⟩
    apply f.round_mono (by omega) Nat.one_pos
    rw [Int.natCast_one, Int.mul_one]
    exact Int.mul_le_mul_of_nonneg_left (Int.ofNat_le.mpr one_le) nonneg

/-- A quotient by two or more of a rounded distance lies between zero and the exact distance,
because a power of two lies between them. -/
theorem round_quotient_mem {count : Nat} (two_le : 2 * f.one ≤ count) (gap : Int) :
    f.round (f.round gap 1 * f.one) count ∈ Set.uIcc 0 gap := by
  have one_pos := f.one_pos
  apply mem_uIcc_of_odd (fun gap => f.round (f.round gap 1 * f.one) count) id
  · intro gap
    simp only [round_neg, Int.neg_mul]
  · exact fun _ => rfl
  · intro gap nonneg
    obtain ⟨gap, rfl⟩ := Int.eq_ofNat_of_zero_le nonneg
    have rounded_nonneg := f.round_nonneg nonneg 1
    refine ⟨f.round_nonneg (Int.mul_nonneg rounded_nonneg (Int.natCast_nonneg _)) _, ?_⟩
    rcases Nat.eq_zero_or_pos gap with rfl | positive
    · simp
    · have below : gap ≤ 2 ^ (gap.log2 + 1) := Nat.lt_log2_self.le
      have rounded_le : f.round gap 1 ≤ (2 ^ (gap.log2 + 1) : Nat) :=
        (f.round_one_mono (Int.ofNat_le.mpr below)).trans (f.round_two_pow_le _)
      have halved : f.round gap 1 * f.one ≤ (2 ^ gap.log2 : Nat) * count :=
        calc f.round gap 1 * f.one
            ≤ (2 ^ (gap.log2 + 1) : Nat) * f.one :=
              Int.mul_le_mul_of_nonneg_right rounded_le (Int.natCast_nonneg _)
          _ = (2 ^ gap.log2 : Nat) * (2 * f.one : Nat) := by
              push_cast
              ring
          _ ≤ (2 ^ gap.log2 : Nat) * count :=
              Int.mul_le_mul_of_nonneg_left (Int.ofNat_le.mpr two_le) (Int.natCast_nonneg _)
      calc f.round (f.round gap 1 * f.one) count
          ≤ f.round (2 ^ gap.log2 : Nat) 1 := by
            apply f.round_mono (by omega) Nat.one_pos
            rwa [Int.natCast_one, Int.mul_one]
        _ ≤ (2 ^ gap.log2 : Nat) := f.round_two_pow_le _
        _ ≤ gap := Int.ofNat_le.mpr (Nat.log2_self_le positive.ne')

end Format

namespace Moments

variable {f : Format} {m : Moments (Binary f)} {x : Binary f}

/-- The moments of finite elements before any distance from the mean has overflowed. -/
structure Sound (m : Moments (Binary f)) : Prop where
  mean_finite : m.mean.isFinite
  mean_of_empty : m.count = 0 → m.mean.place = 0
  squares_number : m.squares.isNaN = false
  squares_nonneg : 0 ≤ m.squares.place

theorem sound_empty : Sound (empty : Moments (Binary f)) := by
  constructor <;> simp only [empty, Binary.natCast_zero]
  · rfl
  · exact fun _ => Binary.place_signedZero false
  · rfl
  · exact (Binary.place_signedZero false).ge

namespace Sound

variable (sound : m.Sound) (x_finite : x.isFinite) (near : (x - m.mean).isFinite)

include sound x_finite near

/-- The mean moves towards the element by no more than the exact distance. -/
theorem move_mem :
    let move := (x - m.mean) / ((m.count + 1 : Nat) : Binary f)
    move.isFinite ∧ move.place ∈ Set.uIcc 0 (x.place - m.mean.place) := by
  have distance_place := Binary.place_sub x_finite sound.mean_finite
  have distance_kept := Binary.round_place near
  generalize x - m.mean = distance at near distance_place distance_kept
  rw [Binary.natCast_eq_ofInt]
  have count_number := Binary.isNaN_ofInt (f := f) (m.count + 1 : Nat)
  have count_pos : 0 < (Binary.ofInt (m.count + 1 : Nat) : Binary f).place :=
    Binary.place_ofInt_pos (by omega)
  rcases Binary.isFinite_or_eq_infinite count_number count_pos.le with count_finite | top
  · have one_le : f.one ≤ (Binary.ofInt (m.count + 1 : Nat) : Binary f).place.toNat := by
      have low : 1 * (f.one : Int) ≤ (Binary.ofInt (m.count + 1 : Nat) : Binary f).place :=
        Binary.mul_one_le_place_ofInt Nat.one_le_two_pow (by omega)
      omega
    have move_place := Binary.place_div near count_finite count_pos
    have move_number := Binary.isNaN_div near count_finite count_pos
    have towards := f.round_quotient_mem_round one_le distance.place
    rw [← move_place, distance_kept] at towards
    have zero_finite : (Binary.signedZero false : Binary f).isFinite := rfl
    refine ⟨Binary.isFinite_of_mem_uIcc zero_finite near move_number ?_, ?_⟩
    · rwa [Binary.place_signedZero]
    · rcases Nat.eq_zero_or_pos m.count with empty | counted
      · -- The first distance is the element itself, which needs no rounding.
        rw [sound.mean_of_empty empty, Int.sub_zero] at distance_place ⊢
        rwa [distance_place, Binary.round_place x_finite] at towards
      · have two_le : 2 * (f.one : Int) ≤ (Binary.ofInt (m.count + 1 : Nat) : Binary f).place :=
          Binary.mul_one_le_place_ofInt (by cases f <;> decide) (by omega)
        rw [move_place, distance_place]
        exact f.round_quotient_mem (by omega) _
  · rw [top]
    obtain ⟨_, _, _, rfl⟩ := Binary.exists_of_isFinite near
    refine ⟨rfl, ?_⟩
    exact (Binary.place_signedZero _).symm ▸ Set.left_mem_uIcc

/-- Rounding moves the mean towards the element and never past it. -/
theorem mean_mem :
    (m.push x).mean.isFinite ∧ (m.push x).mean.place ∈ Set.uIcc m.mean.place x.place := by
  obtain ⟨move_finite, move_mem⟩ := sound.move_mem x_finite near
  have mean_place := Binary.place_add sound.mean_finite move_finite
  have between : (m.push x).mean.place ∈ Set.uIcc m.mean.place x.place := by
    have exact_between : m.mean.place + ((x - m.mean) / ((m.count + 1 : Nat) : Binary f)).place ∈
        Set.uIcc m.mean.place x.place := by
      rw [Set.mem_uIcc] at move_mem ⊢
      omega
    have rounded := f.round_mem_uIcc exact_between
    rwa [← mean_place, Binary.round_place sound.mean_finite, Binary.round_place x_finite] at rounded
  have number := Binary.isNaN_add sound.mean_finite move_finite
  exact ⟨Binary.isFinite_of_mem_uIcc sound.mean_finite x_finite number between, between⟩

/-- The distance from the new mean lies between zero and that from the old one. -/
theorem rest_mem :
    (x - (m.push x).mean).isFinite ∧
      (x - (m.push x).mean).place ∈ Set.uIcc 0 (x - m.mean).place := by
  obtain ⟨mean_finite, mean_mem⟩ := sound.mean_mem x_finite near
  have between : (x - (m.push x).mean).place ∈ Set.uIcc 0 (x - m.mean).place := by
    have exact_between : x.place - (m.push x).mean.place ∈ Set.uIcc 0 (x.place - m.mean.place) := by
      rw [Set.mem_uIcc] at mean_mem ⊢
      omega
    have rounded := f.round_mem_uIcc exact_between
    rwa [f.round_zero, ← Binary.place_sub x_finite mean_finite,
      ← Binary.place_sub x_finite sound.mean_finite] at rounded
  have zero_finite : (Binary.signedZero false : Binary f).isFinite := rfl
  have number := Binary.isNaN_sub x_finite mean_finite
  refine ⟨Binary.isFinite_of_mem_uIcc zero_finite near number ?_, between⟩
  rwa [Binary.place_signedZero]

/-- One more element keeps the sum of squares from being negative. -/
theorem push : (m.push x).Sound := by
  obtain ⟨mean_finite, -⟩ := sound.mean_mem x_finite near
  obtain ⟨rest_finite, rest_mem⟩ := sound.rest_mem x_finite near
  obtain ⟨product_number, product_nonneg⟩ :=
    Binary.mul_nonneg_of_mem_uIcc rest_finite near rest_mem
  have sum := Binary.add_nonneg product_number sound.squares_number product_nonneg
    sound.squares_nonneg
  exact ⟨mean_finite, fun counted => absurd counted (Nat.succ_ne_zero _), sum.1, sum.2⟩

end Sound

section Overflow

variable (x_finite : x.isFinite)

theorem count_eq_finite_or_infinite (count : Nat) :
    (∃ units representable, ((count + 1 : Nat) : Binary f) = .finite false units representable) ∨
      ((count + 1 : Nat) : Binary f) = .infinite false := by
  rw [Binary.natCast_eq_ofInt]
  have count_pos : 0 < (Binary.ofInt (count + 1 : Nat) : Binary f).place :=
    Binary.place_ofInt_pos (by omega)
  rcases Binary.isFinite_or_eq_infinite (Binary.isNaN_ofInt _) count_pos.le with finite | top
  · exact .inl (Binary.exists_of_place_pos finite count_pos)
  · exact .inr top

include x_finite

/-- At an overflow the product of the distances is negative infinity. -/
theorem push_of_overflow (mean_finite : m.mean.isFinite) {negative : Bool}
    (far : x - m.mean = .infinite negative) :
    (m.push x).mean.isFinite = false ∧
      ((m.push x).squares = .nan ∨ (m.push x).squares = .infinite true) := by
  have mean_eq :
      (m.push x).mean = m.mean + .infinite negative / ((m.count + 1 : Nat) : Binary f) := by
    rw [← far]
    rfl
  have squares_eq : (m.push x).squares =
      (x - (m.push x).mean) * .infinite negative + m.squares := by
    rw [← far]
    rfl
  obtain ⟨_, _, _, mean_form⟩ := Binary.exists_of_isFinite mean_finite
  obtain ⟨_, _, _, x_form⟩ := Binary.exists_of_isFinite x_finite
  rw [squares_eq, mean_eq, mean_form, x_form]
  rcases count_eq_finite_or_infinite (f := f) m.count with ⟨_, _, count_form⟩ | count_form
  · rw [count_form]
    refine ⟨rfl, ?_⟩
    cases negative <;> cases m.squares with
    | nan => exact .inl rfl
    | infinite other => cases other with
      | false => exact .inl rfl
      | true => exact .inr rfl
    | finite => exact .inr rfl
  · rw [count_form]
    exact ⟨rfl, .inl rfl⟩

/-- After an overflow nothing is a number. -/
theorem push_after_overflow (mean_infinite : m.mean.isFinite = false) :
    (m.push x).mean = .nan ∧ (m.push x).squares = .nan := by
  have mean_eq : (m.push x).mean = .nan := by
    change m.mean + (x - m.mean) / ((m.count + 1 : Nat) : Binary f) = .nan
    obtain ⟨_, _, _, x_form⟩ := Binary.exists_of_isFinite x_finite
    rw [x_form]
    cases mean_form : m.mean with
    | nan => rfl
    | finite =>
      rw [mean_form] at mean_infinite
      cases mean_infinite
    | infinite negative =>
      rcases count_eq_finite_or_infinite (f := f) m.count with ⟨_, _, count_form⟩ | count_form
      · rw [count_form]
        cases negative <;> rfl
      · rw [count_form]
        rfl
  refine ⟨mean_eq, ?_⟩
  change (x - (m.push x).mean) * (x - m.mean) + m.squares = .nan
  obtain ⟨_, _, _, x_form⟩ := Binary.exists_of_isFinite x_finite
  rw [mean_eq, x_form]
  rfl

end Overflow

section Doubles

variable (mean_finite : m.mean.isFinite) (mean_double : (m.mean + m.mean).isFinite)
  (x_finite : x.isFinite) (x_double : (x + x).isFinite)

include mean_finite mean_double x_finite x_double

/-- A difference lies between the doubles of what is subtracted and of what it is subtracted
from. -/
theorem near_of_doubles : (x - m.mean).isFinite := by
  have mirrored_finite : (-(m.mean + m.mean)).isFinite := by
    rwa [Binary.isFinite_neg]
  have exact_between : x.place - m.mean.place ∈
      Set.uIcc (x.place + x.place) (-(m.mean.place + m.mean.place)) := by
    rw [Set.mem_uIcc]
    omega
  have rounded := f.round_mem_uIcc exact_between
  rw [f.round_neg, ← Binary.place_add x_finite x_finite, ← Binary.place_add mean_finite mean_finite,
    ← Binary.place_neg, ← Binary.place_sub x_finite mean_finite] at rounded
  exact Binary.isFinite_of_mem_uIcc x_double mirrored_finite
    (Binary.isNaN_sub x_finite mean_finite) rounded

theorem double_of_mean_mem {y : Binary f} (y_finite : y.isFinite)
    (between : y.place ∈ Set.uIcc m.mean.place x.place) : (y + y).isFinite := by
  have exact_between : y.place + y.place ∈
      Set.uIcc (m.mean.place + m.mean.place) (x.place + x.place) := by
    rw [Set.mem_uIcc] at between ⊢
    omega
  have rounded := f.round_mem_uIcc exact_between
  rw [← Binary.place_add x_finite x_finite, ← Binary.place_add mean_finite mean_finite,
    ← Binary.place_add y_finite y_finite] at rounded
  exact Binary.isFinite_of_mem_uIcc mean_double x_double (Binary.isNaN_add y_finite y_finite)
    rounded

end Doubles

/-- The distance of the last element from the mean of those before it overflows. -/
def LastOverflows (xs : List (Binary f)) : Prop :=
  ∃ before x negative, xs = before ++ [x] ∧ (ofList before).mean.isFinite ∧
    x - (ofList before).mean = .infinite negative

/-- The moments of finite elements are sound where all doubles are finite, and wherever no distance
has overflowed. -/
structure Passed (xs : List (Binary f)) (m : Moments (Binary f)) : Prop where
  sound_of_doubles : (∀ x ∈ xs, (x + x).isFinite) → m.Sound ∧ (m.mean + m.mean).isFinite
  sound_or_overflow : m.Sound ∨ m.mean.isFinite = false ∧
    (m.squares = .nan ∨ m.squares = .infinite true ∧ LastOverflows xs)

theorem passed_empty : Passed [] (empty : Moments (Binary f)) := by
  refine ⟨fun _ => ⟨sound_empty, ?_⟩, .inl sound_empty⟩
  have zero_finite : (Binary.signedZero false : Binary f).isFinite := rfl
  simp only [empty, Binary.natCast_zero]
  rw [Binary.isFinite_iff_place (Binary.isNaN_add zero_finite zero_finite),
    Binary.place_add zero_finite zero_finite, Binary.place_signedZero, Int.add_zero, f.round_zero]
  exact Nat.two_pow_pos _

theorem Passed.push {xs : List (Binary f)} (passed : Passed xs (ofList xs))
    (x_finite : x.isFinite) : Passed (xs ++ [x]) ((ofList xs).push x) := by
  constructor
  case sound_of_doubles =>
    intro doubles
    have x_double : (x + x).isFinite := doubles x (by simp)
    obtain ⟨sound, mean_double⟩ :=
      passed.sound_of_doubles fun y member => doubles y (by simp [member])
    have near := near_of_doubles sound.mean_finite mean_double x_finite x_double
    obtain ⟨mean_finite, mean_mem⟩ := sound.mean_mem x_finite near
    exact ⟨sound.push x_finite near,
      double_of_mean_mem sound.mean_finite mean_double x_finite x_double mean_finite mean_mem⟩
  case sound_or_overflow =>
    rcases passed.sound_or_overflow with sound | ⟨mean_infinite, -⟩
    · by_cases near : (x - (ofList xs).mean).isFinite
      · exact .inl (sound.push x_finite near)
      · obtain ⟨negative, far⟩ := Binary.exists_infinite_of_not_isFinite
          (Binary.isNaN_sub x_finite sound.mean_finite) near
        obtain ⟨mean_infinite, squares_eq⟩ := push_of_overflow x_finite sound.mean_finite far
        exact .inr ⟨mean_infinite, squares_eq.imp_right fun infinite =>
          ⟨infinite, xs, x, negative, rfl, sound.mean_finite, far⟩⟩
    · obtain ⟨mean_eq, squares_eq⟩ := push_after_overflow x_finite mean_infinite
      exact .inr ⟨mean_eq ▸ rfl, .inl squares_eq⟩

theorem passed_ofList {xs : List (Binary f)} (finite : ∀ x ∈ xs, x.isFinite) :
    Passed xs (ofList xs) := by
  induction xs using List.reverseRecOn with
  | nil => exact passed_empty
  | append_singleton xs x induction =>
    have before := induction fun y member => finite y (by simp [member])
    rw [ofList_append_singleton]
    exact before.push (finite x (by simp))

end Moments

section Dispersion

variable {f : Format} {xs : List (Binary f)}

/-- What the squared distances of finite elements from their mean may come to: a number that is not
negative; or else the double of some element overflows, and it is negative infinity because the
distance of the last element overflows, or no number. -/
inductive Dispersion (xs : List (Binary f)) : Binary f → Prop
  | nonneg {value : Binary f} (le : (Binary.signedZero false).le value = true) :
    Dispersion xs value
  | overflow (large : ∃ x ∈ xs, (x + x).isFinite = false) (last : Moments.LastOverflows xs) :
    Dispersion xs (.infinite true)
  | nan (large : ∃ x ∈ xs, (x + x).isFinite = false) : Dispersion xs .nan

theorem dispersion_squares (finite : ∀ x ∈ xs, x.isFinite) :
    Dispersion xs (Moments.ofList xs).squares := by
  obtain ⟨sound_of_doubles, sound_or_overflow⟩ := Moments.passed_ofList finite
  have of_sound (sound : (Moments.ofList xs).Sound) : Dispersion xs (Moments.ofList xs).squares :=
    .nonneg (Binary.zero_le_iff.mpr ⟨sound.squares_number, sound.squares_nonneg⟩)
  by_cases large : ∃ x ∈ xs, (x + x).isFinite = false
  · rcases sound_or_overflow with sound | ⟨-, nan | ⟨infinite, last⟩⟩
    · exact of_sound sound
    · rw [nan]
      exact .nan large
    · rw [infinite]
      exact .overflow large last
  · have doubles : ∀ x ∈ xs, (x + x).isFinite := by
      simpa using large
    exact of_sound (sound_of_doubles doubles).1

/-- Division by positive degrees of freedom keeps signs. -/
theorem Dispersion.div {squares degrees : Binary f} (dispersion : Dispersion xs squares)
    (finite : degrees.isFinite) (positive : 0 < degrees.place) :
    Dispersion xs (squares / degrees) := by
  cases dispersion with
  | nonneg le =>
    obtain ⟨number, nonneg⟩ := Binary.zero_le_iff.mp le
    exact .nonneg (Binary.zero_le_iff.mpr (Binary.div_nonneg number nonneg finite positive))
  | overflow large last =>
    obtain ⟨_, _, rfl⟩ := Binary.exists_of_place_pos finite positive
    exact .overflow large last
  | nan large =>
    obtain ⟨_, _, _, rfl⟩ := Binary.exists_of_isFinite finite
    exact .nan large

end Dispersion

end StridedReduction

import Mathlib.Algebra.Order.BigOperators.Group.List
import StridedReduction.Proofs.Grouping
import StridedReduction.Proofs.NeutralElements
import StridedReduction.Proofs.Reproducibility

/-!
# Exact sums

Floating-point numbers that are integers are added without rounding as long as the exact sum has no
more bits than the format keeps (`Binary.Represents.add`).  If the magnitudes of all elements add up
to no more than that, then so does every group of them, whichever way they are grouped
(`Grouping.represents_value`), and since every sum is started from zero no negative zero is left
(`Grouping.value_ne_signedZero`).  So the sums of such elements are exact whatever the layout.
-/

namespace StridedReduction

theorem natAbs_sum_map_le {α : Type} {values : List α} {number : α → Int} {budget : Nat}
    (few : (values.map fun value => (number value).natAbs).sum ≤ budget) :
    (values.map number).sum.natAbs ≤ budget := by
  have subadditive := List.le_sum_of_subadditive Int.natAbs Int.natAbs_zero.le Int.natAbs_add_le
    (values.map number)
  rw [List.map_map] at subadditive
  exact subadditive.trans few

namespace Binary

variable {f : Format} {x y : Binary f} {value other : Int}

/-- Whether a number is the integer `value`, a zero of either sign for zero. -/
def Represents (x : Binary f) (value : Int) : Prop :=
  x.isFinite ∧ x.place = value * f.one

instance (x : Binary f) (value : Int) : Decidable (x.Represents value) :=
  inferInstanceAs (Decidable (_ ∧ _))

theorem represents_signedZero (negative : Bool) : (signedZero negative : Binary f).Represents 0 :=
  ⟨rfl, by rw [place_signedZero, Int.zero_mul]⟩

theorem representable_natAbs_mul_one (few : value.natAbs ≤ 2 ^ f.precision) :
    f.Representable (value * f.one).natAbs := by
  rw [f.natAbs_mul_one]
  exact f.representable_mul_one few

/-- Integers are added without rounding while the sum has few enough bits. -/
theorem Represents.add (left : x.Represents value) (right : y.Represents other)
    (few : (value + other).natAbs ≤ 2 ^ f.precision) : (x + y).Represents (value + other) := by
  obtain ⟨x_finite, x_place⟩ := left
  obtain ⟨y_finite, y_place⟩ := right
  have held := representable_natAbs_mul_one few
  have place_eq : (x + y).place = (value + other) * f.one := by
    rw [place_add x_finite y_finite, x_place, y_place, ← Int.add_mul,
      f.round_one_of_representable held]
  exact ⟨isFinite_of_place_eq (isNaN_add x_finite y_finite) place_eq held, place_eq⟩

/-- Whether a number is the integer `value`, the positive zero for zero. -/
def Encodes (x : Binary f) (value : Int) : Prop :=
  x.Represents value ∧ x ≠ signedZero true

/-- An integer of few enough bits has one encoding. -/
theorem encodes_iff_eq_ofInt (few : value.natAbs ≤ 2 ^ f.precision) :
    x.Encodes value ↔ x = ofInt value := by
  have place_eq := place_ofInt_of_natAbs_le (f := f) few
  constructor
  · rintro ⟨⟨finite, x_place⟩, upright⟩
    by_cases zero : x.place = 0
    · have value_eq : value = 0 := by
        rw [x_place] at zero
        exact (Int.mul_eq_zero.mp zero).resolve_right (by have := f.one_pos; omega)
      obtain ⟨negative, rfl⟩ := eq_signedZero_of_place_eq_zero finite zero
      rw [value_eq, ofInt_zero]
      cases negative with
      | false => rfl
      | true => exact absurd rfl upright
    · exact eq_of_place_eq zero (x_place.trans place_eq.symm)
  · intro x_eq
    have held := representable_natAbs_mul_one few
    rw [x_eq]
    refine ⟨⟨isFinite_of_place_eq (isNaN_ofInt value) place_eq held, place_eq⟩, ?_⟩
    intro below
    have place_zero : (ofInt value : Binary f).place = 0 := by
      rw [below, place_signedZero]
    rw [place_ofInt_eq_zero.mp place_zero, ofInt_zero] at below
    exact signedZero_ne below

end Binary

namespace Grouping

variable {κ ι : Type}

/-- Whether a fold is started anywhere among the groups. -/
def Starts : Grouping κ → Prop
  | start => True
  | entry _ => False
  | join left right => left.Starts ∨ right.Starts

theorem starts_map {rename : ι → κ} {g : Grouping ι} : (g.map rename).Starts ↔ g.Starts := by
  induction g with
  | start => exact Iff.rfl
  | entry key => exact Iff.rfl
  | join left right left_iff right_iff => exact or_congr left_iff right_iff

theorem starts_foldl {g : Grouping κ} (starts : g.Starts) (groups : List (Grouping κ)) :
    (groups.foldl join g).Starts := by
  induction groups generalizing g with
  | nil => exact starts
  | cons first groups induction => exact induction (.inl starts)

theorem starts_interleavedFold (width : Nat) (groups : List (Grouping κ)) :
    (interleavedFold join start width groups).Starts :=
  starts_foldl (g := start) trivial _

variable {f : Format} {element : κ → Binary f} {number : κ → Int} {g : Grouping κ}

/-- However integers are grouped, no group of them needs rounding. -/
theorem represents_value (integral : ∀ key ∈ g.keys, (element key).Represents (number key))
    (few : (g.keys.map fun key => (number key).natAbs).sum ≤ 2 ^ f.precision) :
    (g.value HAdd.hAdd (Binary.signedZero false) element).Represents (g.keys.map number).sum := by
  induction g with
  | start => exact Binary.represents_signedZero false
  | entry key => simpa [keys, value] using integral key List.mem_cons_self
  | join left right left_represents right_represents =>
    -- Either part has no more than the budget of both, and their sum has no more either.
    obtain ⟨left_integral, right_integral⟩ := List.forall_mem_append.mp integral
    have total_few := natAbs_sum_map_le few
    rw [keys, List.map_append, List.sum_append] at few total_few
    rw [keys, List.map_append, List.sum_append]
    exact (left_represents left_integral (by omega)).add
      (right_represents right_integral (by omega)) total_few

/-- A sum that has been started somewhere is not the negative zero. -/
theorem value_ne_signedZero (starts : g.Starts) :
    g.value HAdd.hAdd (Binary.signedZero false) element ≠ Binary.signedZero true := by
  induction g with
  | start => exact Binary.signedZero_ne
  | entry key => exact starts.elim
  | join left right left_upright right_upright =>
    intro sum_eq
    obtain ⟨left_eq, right_eq⟩ := Binary.eq_of_add_eq_signedZero sum_eq
    exact starts.elim (left_upright · left_eq) (right_upright · right_eq)

theorem value_eq_ofInt (starts : g.Starts)
    (integral : ∀ key ∈ g.keys, (element key).Represents (number key))
    (few : (g.keys.map fun key => (number key).natAbs).sum ≤ 2 ^ f.precision) :
    g.value HAdd.hAdd (Binary.signedZero false) element = Binary.ofInt (g.keys.map number).sum := by
  rw [← Binary.encodes_iff_eq_ofInt (natAbs_sum_map_le few)]
  exact ⟨represents_value integral few, value_ne_signedZero starts⟩

end Grouping

namespace View

open Grouping

theorem starts_grouping (fast : Bool) (v : View) : (v.grouping fast).Starts := by
  rw [grouping]
  split
  · exact starts_interleavedFold _ _
  · exact starts_foldl (g := start) trivial _

theorem starts_laneGrouping (fast : Bool) (v : View) (axis : Nat) (index : List Nat) :
    (v.laneGrouping fast axis index).Starts := by
  rw [laneGrouping]
  split
  · exact starts_grouping true _
  · exact starts_foldl (g := start) trivial _

section Lanes

variable {v : View} {axis : Nat} (within : axis < v.rank) {index : List Nat}
  (member : index ∈ indices (v.shape.eraseIdx axis))

include within member

/-- The indices along a lane are indices of the view, none of them twice. -/
theorem laneIndices_subperm :
    ((List.range (v.axis axis).extent).map fun position => index.insertIdx axis position).Subperm
      (indices v.shape) := by
  have length_eq := length_of_mem_indices_eraseIdx within member
  have reaches : axis ≤ index.length := by omega
  apply List.Nodup.subperm
  · apply List.nodup_range.map
    intro first second same
    have entries_eq := congrArg (·[axis]?) same
    simpa [List.getElem?_insertIdx_self, reaches] using entries_eq
  · intro full listed
    obtain ⟨position, below, rfl⟩ := List.mem_map.mp listed
    exact (insertIdx_mem_indices_shape within).mpr ⟨List.mem_range.mp below, member⟩

theorem sum_lane_le (weight : List Nat → Nat) :
    ((List.range (v.axis axis).extent).map fun position =>
      weight (index.insertIdx axis position)).sum ≤ ((indices v.shape).map weight).sum := by
  obtain ⟨chosen, perm, sublist⟩ := laneIndices_subperm within member
  have chosen_le : (chosen.map weight).sum ≤ ((indices v.shape).map weight).sum :=
    (sublist.map weight).sum_le_sum fun _ _ => Nat.zero_le _
  rwa [(perm.map weight).sum_eq, List.map_map] at chosen_le

end Lanes

end View

namespace Strided

variable {f : Format} {data : Strided (Binary f)} {number : List Nat → Int}
  (integral : ∀ index ∈ indices data.view.shape, (data.get index).Represents (number index))
  (few : ((indices data.view.shape).map fun index => (number index).natAbs).sum ≤ 2 ^ f.precision)

include integral few

theorem reduce_of_integral (fast : Bool) :
    data.reduce HAdd.hAdd (Binary.signedZero false) fast =
      Binary.ofInt ((indices data.view.shape).map number).sum := by
  obtain ⟨g, perm, named⟩ := data.view.exists_indexGrouping fast
  have starts : g.Starts := Grouping.starts_map.mp (named ▸ View.starts_grouping fast data.view)
  rw [reduce_eq_value, ← named, Grouping.value_map, ← (perm.map number).sum_eq]
  apply Grouping.value_eq_ofInt starts
  · exact fun index listed => integral index (perm.mem_iff.mp listed)
  · rwa [(perm.map fun index => (number index).natAbs).sum_eq]

theorem reduceAxis_of_integral {axis : Nat} (within : axis < data.view.rank) (fast : Bool) :
    data.reduceAxis HAdd.hAdd (Binary.signedZero false) fast axis =
      ofList (data.view.shape.eraseIdx axis)
        ((indices (data.view.shape.eraseIdx axis)).map fun index =>
          Binary.ofInt ((List.range (data.view.axis axis).extent).map fun position =>
            number (index.insertIdx axis position)).sum) := by
  rw [reduceAxis_eq_value _ _ fast data within]
  apply congrArg (ofList _)
  apply List.map_congr_left
  intro index member
  obtain ⟨g, perm, named⟩ := View.exists_positionGrouping fast within member
  have starts : g.Starts :=
    Grouping.starts_map.mp (named ▸ View.starts_laneGrouping fast data.view axis index)
  rw [← named, Grouping.value_map, ← (perm.map _).sum_eq]
  apply Grouping.value_eq_ofInt starts
  · intro position listed
    have below := List.mem_range.mp (perm.mem_iff.mp listed)
    exact integral _ ((View.insertIdx_mem_indices_shape within).mpr ⟨below, member⟩)
  · rw [(perm.map _).sum_eq]
    exact (View.sum_lane_le within member _).trans few

end Strided

namespace AnyArray

open Strided

variable {f : Format} (swapped : Bool) {data : Strided (Binary f)}

theorem fold_sum_real (fast : Bool) :
    (elements (.real f) swapped data).fold .sum fast =
      .ok (.scalar (.real f) (data.reduce HAdd.hAdd (Binary.signedZero false) fast)) := by
  have folded : (elements (.real f) swapped data).fold .sum fast =
      .ok (.scalar (.real f) (@reduce (Binary f) (ElementType.instInhabitedCarrier (.real f))
        HAdd.hAdd (Binary.ofInt 0) fast data)) :=
    rfl
  rw [folded, Agrees.default_real, Binary.ofInt_zero]

theorem foldAxis_sum_real {axis : Nat} (within : axis < data.view.rank) (fast : Bool) :
    (elements (.real f) swapped data).foldAxis axis .sum fast =
      .ok (.array (elements (.real f) swapped
        (data.reduceAxis HAdd.hAdd (Binary.signedZero false) fast axis))) := by
  have folded : (elements (.real f) swapped data).foldAxis axis .sum fast =
      .ok (.array (elements (.real f) swapped
        (@reduceAxis (Binary f) (ElementType.instInhabitedCarrier (.real f))
          HAdd.hAdd (Binary.ofInt 0) fast data axis))) :=
    foldAxis_elements (t := .real f) swapped within .sum fast
  rw [folded, Agrees.default_real, Binary.ofInt_zero]

/-- Numbers that are integers, zeros of either sign among them, are summed without rounding if their
magnitudes add up to no more than the format counts exactly: the sum of all elements and the sums
along every axis are the encodings of the exact sums.  So every layout of such numbers has the same
sums on every path, to the last bit. -/
theorem sums_of_integral (f : Format) (swapped : Bool) {data : Strided (Binary f)}
    {number : List Nat → Int}
    (integral : ∀ index ∈ indices data.view.shape, (data.get index).Represents (number index))
    (few : ((indices data.view.shape).map fun index => (number index).natAbs).sum ≤
      2 ^ f.precision) :
    let a := elements (.real f) swapped data
    let total := ((indices data.view.shape).map number).sum
    let laneTotal (axis : Nat) (index : List Nat) :=
      ((List.range (data.view.axis axis).extent).map fun position =>
        number (index.insertIdx axis position)).sum
    let laneTotals (axis : Nat) : Strided (Binary f) :=
      ofList (data.view.shape.eraseIdx axis) ((indices (data.view.shape.eraseIdx axis)).map
        fun index => Binary.ofInt (laneTotal axis index))
    ((∀ fast, a.fold .sum fast = .ok (.scalar (.real f) (Binary.ofInt total))) ∧
      (Binary.ofInt total : Binary f).Encodes total) ∧
    (∀ axis < data.view.rank,
      (∀ fast, a.foldAxis axis .sum fast =
        .ok (.array (elements (.real f) swapped (laneTotals axis)))) ∧
      ∀ index ∈ indices (data.view.shape.eraseIdx axis),
        ((laneTotals axis).get index).Encodes (laneTotal axis index)) ∧
    ∀ other : Strided (Binary f), other.view.shape = data.view.shape →
      (∀ index ∈ indices data.view.shape, (other.get index).Represents (number index)) →
      let b := elements (.real f) swapped other
      ∀ fast path, b.fold .sum fast = a.fold .sum path ∧
        ∀ axis < data.view.rank, b.foldAxis axis .sum fast = a.foldAxis axis .sum path := by
  intro a total laneTotal laneTotals
  have total_few := natAbs_sum_map_le few
  have whole (fast : Bool) : a.fold .sum fast = .ok (.scalar (.real f) (Binary.ofInt total)) := by
    rw [fold_sum_real, reduce_of_integral integral few]
  have along {axis : Nat} (within : axis < data.view.rank) (fast : Bool) :
      a.foldAxis axis .sum fast =
        .ok (.array (elements (.real f) swapped (laneTotals axis))) := by
    rw [foldAxis_sum_real swapped within, reduceAxis_of_integral integral few within]
  refine ⟨⟨whole, (Binary.encodes_iff_eq_ofInt total_few).mpr rfl⟩, ?_, ?_⟩
  · intro axis within
    refine ⟨along within, ?_⟩
    intro index member
    have lane_few := natAbs_sum_map_le ((View.sum_lane_le within member _).trans few)
    rw [Binary.encodes_iff_eq_ofInt lane_few, get_ofList_map _ member]
  · intro other same alike b fast path
    rw [← same] at alike few
    constructor
    · rw [whole, fold_sum_real, reduce_of_integral alike few, same]
    · intro axis within
      have other_within : axis < other.view.rank := by rwa [View.rank_eq_of_shape_eq same]
      rw [along within, foldAxis_sum_real swapped other_within,
        reduceAxis_of_integral alike few other_within, same, View.extent_eq_of_shape_eq same]

/-- Two rows of halves met backwards with gaps between them.  The magnitudes add up to all that
halves count exactly, and the column of negative zeros sums to the positive one. -/
theorem sums_of_integral_halves :
    let half (value : Int) : Binary .half := Binary.ofInt value
    let below : Binary .half := Binary.signedZero true
    let data : Strided (Binary .half) :=
      ⟨#[half (-5), half 9, below, half 2, half 2040, below, half 9, half 1],
        ⟨4, [⟨2, 3⟩, ⟨3, -2⟩]⟩⟩
    let number (index : List Nat) : Int :=
      ([[2040, 0, -5], [1, 0, 2]].getD (index.getD 0 0) []).getD (index.getD 1 0) 0
    let a := elements (.real .half) false data
    (∀ index ∈ indices data.view.shape, (data.get index).Represents (number index)) ∧
      ((indices data.view.shape).map fun index => (number index).natAbs).sum ≤
        2 ^ Format.half.precision ∧
      (∀ fast, a.fold .sum fast = .ok (.scalar (.real .half) (half 2038))) ∧
      ∀ fast, a.foldAxis (0 : Nat) .sum fast = .ok (.array (elements (.real .half) false
        (ofList [3] [half 2041, Binary.signedZero false, half (-3)]))) := by
  intro half below data number a
  have integral : ∀ index ∈ indices data.view.shape,
      (data.get index).Represents (number index) := by
    decide +kernel
  have few : ((indices data.view.shape).map fun index => (number index).natAbs).sum ≤
      2 ^ Format.half.precision := by
    decide
  obtain ⟨⟨whole, -⟩, along, -⟩ := sums_of_integral .half false integral few
  refine ⟨integral, few, whole, ?_⟩
  intro fast
  rw [(along 0 (by decide)).1 fast, ← Binary.ofInt_zero]
  rfl

end AnyArray

end StridedReduction

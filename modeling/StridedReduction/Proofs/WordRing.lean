import Mathlib.Algebra.Ring.InjSurj
import Mathlib.Algebra.BigOperators.Group.List.Basic
import Mathlib.Data.Int.ModEq
import StridedReduction.Element.Basic

/-!
# The ring of words

Wrapping depends on an integer only modulo the number of words, so it carries the ring of integers
over to the words of a type.  The main statement, `foldl_operation_eq_wrap`, is that a fold of words
by a reduction wraps the exact sum or product of their integers once.
-/

namespace StridedReduction

namespace IntegerType

variable (k : IntegerType)

theorem wrap_modEq (value : Int) : k.wrap value ≡ value [ZMOD k.modulus] := by
  have residue : (value - k.least) % k.modulus ≡ value - k.least [ZMOD k.modulus] :=
    Int.mod_modEq _ _
  simpa [wrap] using residue.add_right k.least

theorem wrap_eq_wrap_iff {left right : Int} :
    k.wrap left = k.wrap right ↔ left ≡ right [ZMOD k.modulus] := by
  constructor
  · intro same
    exact (k.wrap_modEq left).symm.trans (same ▸ k.wrap_modEq right)
  · intro congruent
    have shifted : (left - k.least) % k.modulus = (right - k.least) % k.modulus :=
      congruent.sub_right k.least
    rw [wrap, wrap, shifted]

end IntegerType

namespace Word

variable {k : IntegerType}

theorem wrap_eq_wrap_iff {left right : Int} :
    wrap k left = wrap k right ↔ left ≡ right [ZMOD k.modulus] := by
  rw [← k.wrap_eq_wrap_iff, Word.ext_iff]
  rfl

/-- Wrapping once at the end is wrapping whatever is congruent. -/
private theorem wrap_eq_of_modEq {left right : Int} (congruent : right ≡ left [ZMOD k.modulus]) :
    wrap k left = wrap k right :=
  wrap_eq_wrap_iff.mpr congruent.symm

theorem wrap_surjective : Function.Surjective (wrap k) := fun word => ⟨word.value, wrap_value word⟩

theorem wrap_add (left right : Int) : wrap k (left + right) = wrap k left + wrap k right :=
  wrap_eq_of_modEq ((k.wrap_modEq left).add (k.wrap_modEq right))

theorem wrap_sub (left right : Int) : wrap k (left - right) = wrap k left - wrap k right :=
  wrap_eq_of_modEq ((k.wrap_modEq left).sub (k.wrap_modEq right))

theorem wrap_mul (left right : Int) : wrap k (left * right) = wrap k left * wrap k right :=
  wrap_eq_of_modEq ((k.wrap_modEq left).mul (k.wrap_modEq right))

instance : Zero (Word k) := ⟨wrap k 0⟩
instance : One (Word k) := ⟨wrap k 1⟩
instance : Neg (Word k) := ⟨fun word => wrap k (-word.value)⟩
instance : IntCast (Word k) := ⟨wrap k⟩
instance : SMul Nat (Word k) := ⟨fun count word => wrap k (count * word.value)⟩
instance : SMul Int (Word k) := ⟨fun count word => wrap k (count * word.value)⟩
instance : Pow (Word k) Nat := ⟨fun word exponent => wrap k (word.value ^ exponent)⟩

instance : CommRing (Word k) :=
  wrap_surjective.commRing (wrap k) rfl rfl wrap_add wrap_mul
    (fun value => wrap_eq_of_modEq (k.wrap_modEq value).neg)
    wrap_sub
    (fun count value => by
      rw [nsmul_eq_mul]
      exact wrap_eq_of_modEq ((Int.ModEq.refl (count : Int)).mul (k.wrap_modEq value)))
    (fun count value => wrap_eq_of_modEq ((Int.ModEq.refl count).mul (k.wrap_modEq value)))
    (fun value exponent => wrap_eq_of_modEq ((k.wrap_modEq value).pow exponent))
    (fun _ => rfl) (fun _ => rfl)

theorem wrap_sum (words : List (Word k)) : wrap k (words.map value).sum = words.sum := by
  induction words with
  | nil => rfl
  | cons word words induction =>
    rw [List.map_cons, List.sum_cons, wrap_add, wrap_value, induction, List.sum_cons]

theorem wrap_prod (words : List (Word k)) : wrap k (words.map value).prod = words.prod := by
  induction words with
  | nil => rfl
  | cons word words induction =>
    rw [List.map_cons, List.prod_cons, wrap_mul, wrap_value, induction, List.prod_cons]

end Word

namespace Reduction

/-- The exact sum or product of integers. -/
def exact : Reduction → List Int → Int
  | sum, values => values.sum
  | product, values => values.prod

variable {k : IntegerType} (code : Reduction)

instance : Std.Associative (code.operation (.integer k)) := by
  cases code
  · exact ⟨add_assoc (G := Word k)⟩
  · exact ⟨mul_assoc (G := Word k)⟩

instance : Std.Commutative (code.operation (.integer k)) := by
  cases code
  · exact ⟨add_comm (G := Word k)⟩
  · exact ⟨mul_comm (G := Word k)⟩

instance : Std.LawfulIdentity (code.operation (.integer k)) (code.identity (.integer k)) := by
  cases code
  · exact { left_id := zero_add (M := Word k), right_id := add_zero (M := Word k) }
  · exact { left_id := one_mul (M := Word k), right_id := mul_one (M := Word k) }

theorem foldl_operation_eq_wrap (words : List (Word k)) :
    words.foldl (code.operation (.integer k)) (code.identity (.integer k)) =
      Word.wrap k (code.exact (words.map Word.value)) := by
  cases code with
  | sum =>
    rw [exact, Word.wrap_sum, List.sum_eq_foldl]
    rfl
  | product =>
    rw [exact, Word.wrap_prod, List.prod_eq_foldl]
    rfl

end Reduction

end StridedReduction

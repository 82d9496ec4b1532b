import StridedReduction.Float.Basic

/-!
# Laws of floating-point arithmetic

Rounding once keeps the laws of exact arithmetic that do not regroup terms: sums do not depend on
the order of their two terms (`Binary.add_comm`).  The integer zero stands for the positive zero
(`Binary.ofInt_zero`).
-/

namespace StridedReduction

@[simp] theorem roundSignificant_zero (precision denominator : Nat) :
    roundSignificant precision 0 denominator = 0 := by
  simp [roundSignificant, nearestEven]

namespace Binary

variable {f : Format}

@[simp] theorem nearest_zero (negative : Bool) (denominator : Nat) :
    (nearest negative 0 denominator : Binary f) = signedZero negative := by
  have below : 0 < Nat.pow 2 f.ceiling := Nat.two_pow_pos _
  simp only [nearest, roundSignificant_zero, dif_pos below, signedZero]

theorem ofInt_zero : (ofInt 0 : Binary f) = signedZero false := by
  simp [ofInt, ofIntDirect, convert, signedZero]

theorem add_comm (left right : Binary f) : left + right = right + left := by
  cases left with
  | nan => cases right <;> rfl
  | infinite left =>
    cases right with
    | nan => rfl
    | infinite right => cases left <;> cases right <;> rfl
    | finite _ _ _ => rfl
  | finite left leftUnits _ =>
    cases right with
    | nan => rfl
    | infinite _ => rfl
    | finite right rightUnits _ =>
      change nearestTotal (left && right) (withSign left leftUnits + withSign right rightUnits) =
        nearestTotal (right && left) (withSign right rightUnits + withSign left leftUnits)
      rw [Bool.and_comm, Int.add_comm]

instance : Std.Commutative (HAdd.hAdd : Binary f → Binary f → Binary f) := ⟨add_comm⟩

end Binary

end StridedReduction

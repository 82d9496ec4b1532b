import StridedReduction.Proofs.Addressing

/-!
# The tightest axis

The axis that lanes are taken along on the fast path is one whose stride no other axis undercuts
(`isTightest_of_tightestAxis_eq`).  Where only one axis has the smallest absolute stride it is that
axis (`tightestAxis_eq_some_iff`), whatever the order in which the axes are looked at.
-/

namespace StridedReduction

namespace View

theorem tightestOf_eq_some {axes : List Axis} {position magnitude : Nat}
    (found : tightestOf axes = some (position, magnitude)) :
    ∃ within : position < axes.length, axes[position].stride.natAbs = magnitude ∧
      ∀ axis ∈ axes, magnitude ≤ axis.stride.natAbs := by
  induction axes generalizing position magnitude with
  | nil => cases found
  | cons axis axes induction =>
    rw [tightestOf] at found
    cases rest_found : tightestOf axes with
    | none =>
      have no_rest : axes = [] := by
        cases axes with
        | nil => rfl
        | cons next axes => exact absurd rest_found (tightestOf_cons_ne_none next axes)
      rw [rest_found] at found
      cases found
      simp [no_rest]
    | some rest =>
      obtain ⟨below, rest_eq, rest_le⟩ := induction rest_found
      rw [rest_found] at found
      dsimp only at found
      split at found
      case isTrue shorter =>
        cases found
        refine ⟨Nat.succ_pos _, rfl, List.forall_mem_cons.mpr ⟨Nat.le_refl _, ?_⟩⟩
        intro other member
        exact shorter.le.trans (rest_le other member)
      case isFalse longer =>
        cases found
        exact ⟨Nat.succ_lt_succ below, rest_eq,
          List.forall_mem_cons.mpr ⟨Nat.le_of_not_lt longer, rest_le⟩⟩

/-- Whether no axis has a smaller absolute stride. -/
def IsTightest (v : View) (axis : Nat) : Prop :=
  axis < v.rank ∧ ∀ other < v.rank, (v.axis axis).stride.natAbs ≤ (v.axis other).stride.natAbs

/-- Whether only one axis has the smallest absolute stride. -/
def HasSingleTightest (v : View) : Prop :=
  ∀ first second, v.IsTightest first → v.IsTightest second → first = second

instance (v : View) (axis : Nat) : Decidable (v.IsTightest axis) :=
  inferInstanceAs (Decidable (_ ∧ _))

theorem hasSingleTightest_iff {v : View} :
    v.HasSingleTightest ↔ ∀ first < v.rank, ∀ second < v.rank,
      v.IsTightest first → v.IsTightest second → first = second :=
  ⟨fun single first _ second _ => single first second,
    fun single first second first_tightest second_tightest =>
      single first first_tightest.1 second second_tightest.1 first_tightest second_tightest⟩

instance (v : View) : Decidable v.HasSingleTightest :=
  decidable_of_iff' _ hasSingleTightest_iff

variable {v : View} {axis : Nat}

theorem isTightest_of_tightestAxis_eq (found : v.tightestAxis = some axis) : v.IsTightest axis := by
  obtain ⟨⟨position, magnitude⟩, best, rfl⟩ := Option.map_eq_some_iff.mp found
  obtain ⟨within, stride_eq, least⟩ := tightestOf_eq_some best
  refine ⟨within, ?_⟩
  intro other other_within
  rw [axis_eq_getElem within, axis_eq_getElem other_within, stride_eq]
  exact least _ (List.getElem_mem other_within)

theorem tightestAxis_eq_some_iff (single : v.HasSingleTightest) :
    v.tightestAxis = some axis ↔ v.IsTightest axis := by
  constructor
  · exact isTightest_of_tightestAxis_eq
  · intro tightest
    obtain ⟨position, found, -⟩ := requiredTightestAxis_eq_ok tightest.1
    rw [found, single position axis (isTightest_of_tightestAxis_eq found) tightest]

end View

end StridedReduction

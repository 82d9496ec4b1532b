import Mathlib.Data.List.Basic
import StridedReduction.CallStack

/-!
# The frame of a warning

A warning is attributed to the nearest frame whose module has a name that does not start with that
of the package (`warningFrame?_eq_some_iff`).  That is never a module of the package, but a module
outside of it can have such a name too.  So a warning reaches the nearest frame outside the package
exactly when that frame's module has no such name (`warning_reaches_nearest_iff`), and otherwise
passes it over.
-/

namespace StridedReduction.CallStack

variable {modules : List String} {position : Nat}

/-- Whether a module is the package or one of its submodules. -/
def IsMember (module : String) : Prop :=
  module = packageName ∨ (packageName ++ ".").toList <+: module.toList

instance : DecidablePred IsMember :=
  fun _ => inferInstanceAs (Decidable (_ ∨ _))

/-- Whether the frame at a position is the nearest one whose module has a property. -/
structure IsNearest (property : String → Prop) (modules : List String) (position : Nat) :
    Prop where
  /-- The stack reaches as far as the frame. -/
  below : position < modules.length
  /-- The module of the frame has the property. -/
  holds : property modules[position]
  /-- No module of a nearer frame has it. -/
  nearer : ∀ (other : Nat) (closer : other < position), ¬property modules[other]

theorem isPackageModule_iff {module : String} :
    isPackageModule module ↔ packageName.toList <+: module.toList :=
  List.isPrefixOf_iff_prefix

theorem isPackageModule_of_isMember {module : String} (member : IsMember module) :
    isPackageModule module := by
  rw [isPackageModule_iff]
  rcases member with rfl | submodule
  · exact List.prefix_rfl
  · rw [String.toList_append] at submodule
    exact (List.prefix_append _ _).trans submodule

theorem packageDepth_eq_findIdx (modules : List String) :
    packageDepth modules = modules.findIdx (!isPackageModule ·) := by
  rw [packageDepth, List.takeWhile_eq_take_findIdx_not, List.length_take,
    Nat.min_eq_left List.findIdx_le_length]

theorem packageDepth_eq_iff (below : position < modules.length) :
    packageDepth modules = position ↔ IsNearest (¬isPackageModule ·) modules position := by
  rw [packageDepth_eq_findIdx, List.findIdx_eq below]
  constructor
  · rintro ⟨outside, inside⟩
    exact ⟨below, by simpa using outside, fun other closer => by simpa using inside other closer⟩
  · intro nearest
    exact ⟨by simpa using nearest.holds,
      fun other closer => by simpa using nearest.nearer other closer⟩

/-- The frame that issues a warning is one of the package, below the stack. -/
theorem userLevel_warningModule (modules : List String) :
    userLevel (warningModule :: modules) = packageDepth modules + 2 := by
  rw [userLevel_cons, if_pos (by decide), userLevel]

theorem warningFrame?_eq_some_iff :
    warningFrame? modules = some position ↔ IsNearest (¬isPackageModule ·) modules position := by
  rw [warningFrame?, userLevel_warningModule, Nat.add_sub_cancel]
  constructor
  · intro found
    obtain ⟨below, same⟩ := Option.ite_none_right_eq_some.mp found
    have depth_eq : packageDepth modules = position := Option.some.inj same
    rw [depth_eq] at below
    exact (packageDepth_eq_iff below).mp depth_eq
  · intro nearest
    have depth_eq := (packageDepth_eq_iff nearest.below).mpr nearest
    rw [depth_eq, if_pos nearest.below]

/-- Where a stack has a frame outside the package, the level of a warning and the frame that it is
attributed to are those of the nearest such frame exactly when the name of that frame's module does
not start with that of the package.  No warning is attributed to a nearer frame. -/
theorem warning_reaches_nearest_iff (nearest : IsNearest (¬IsMember ·) modules position) :
    let alike := packageName.toList <+: (modules.get ⟨position, nearest.below⟩).toList
    (userLevel (warningModule :: modules) = position + 2 ↔ ¬alike) ∧
      (warningFrame? modules = some position ↔ ¬alike) ∧
      ∀ frame, warningFrame? modules = some frame → position ≤ frame := by
  intro alike
  -- Nearer frames are members, so their names start alike and only this frame's name decides.
  have nearest_iff : IsNearest (¬isPackageModule ·) modules position ↔ ¬alike := by
    constructor
    · exact fun found => mt isPackageModule_iff.mpr found.holds
    · intro different
      refine ⟨nearest.below, mt isPackageModule_iff.mp different, fun other closer => ?_⟩
      exact not_not.mpr (isPackageModule_of_isMember (not_not.mp (nearest.nearer other closer)))
  refine ⟨?_, warningFrame?_eq_some_iff.trans nearest_iff, ?_⟩
  · rw [userLevel_warningModule, Nat.add_right_cancel_iff, packageDepth_eq_iff nearest.below,
      nearest_iff]
  · intro frame found
    by_contra closer
    have outside := (warningFrame?_eq_some_iff.mp found).holds
    have member := nearest.nearer frame (Nat.lt_of_not_le closer)
    exact outside (isPackageModule_of_isMember (not_not.mp member))

/-- From inside the package a warning reaches the application that called it. -/
theorem warning_reaches_application :
    let modules := ["ndreduce.module", "ndreduce", "application", "ndreduce.fold"]
    IsNearest (¬IsMember ·) modules 2 ∧ userLevel (warningModule :: modules) = 4 ∧
      warningFrame? modules = some 2 := by
  intro modules
  have nearest : IsNearest (¬IsMember ·) modules 2 := ⟨by decide, by decide, by decide⟩
  have different : ¬packageName.toList <+: "application".toList := by decide
  obtain ⟨level_iff, frame_iff, -⟩ := warning_reaches_nearest_iff nearest
  exact ⟨nearest, level_iff.mpr different, frame_iff.mpr different⟩

/-- A module outside the package whose name starts like that of the package is passed over, and the
warning is attributed to its caller. -/
theorem warning_passes_lookalike :
    let modules := ["ndreduce_tools", "app"]
    IsNearest (¬IsMember ·) modules 0 ∧ userLevel (warningModule :: modules) ≠ 2 ∧
      warningFrame? modules = some 1 := by
  exact ⟨⟨by decide, by decide, by decide⟩, by decide, by decide⟩

end StridedReduction.CallStack

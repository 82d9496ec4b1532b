/-!
# Call stacks

Which frame of a call stack a warning is attributed to: the nearest one outside the package, told by
the names of the modules that the frames belong to.  Stacks are listed from the innermost frame
outwards.
-/

namespace StridedReduction.CallStack

/-- The name that the modules of the package start with. -/
def packageName : String := "ndreduce"

/-- The module of the frame that issues warnings. -/
def warningModule : String := packageName ++ ".utils"

/-- Whether a module is taken for one of the package. -/
def isPackageModule (module : String) : Bool :=
  packageName.toList.isPrefixOf module.toList

/-- How many frames from the innermost one on belong to the package. -/
def packageDepth (modules : List String) : Nat :=
  (modules.takeWhile isPackageModule).length

/-- The level of the nearest frame outside the package; the innermost frame has level one. -/
def userLevel (modules : List String) : Nat :=
  packageDepth modules + 1

/-- The position of the frame that a warning issued by the innermost frame is attributed to, if the
stack reaches so far.  The warning's own frame lies below the stack. -/
def warningFrame? (modules : List String) : Option Nat :=
  let position := userLevel (warningModule :: modules) - 2
  if position < modules.length then some position else none

@[simp] theorem userLevel_nil : userLevel [] = 1 := rfl

theorem userLevel_cons (module : String) (modules : List String) :
    userLevel (module :: modules) =
      if isPackageModule module then userLevel modules + 1 else 1 := by
  by_cases package : isPackageModule module <;>
    simp [userLevel, packageDepth, package]

end StridedReduction.CallStack

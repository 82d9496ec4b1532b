import StridedReduction.Strided

/-!
# Differences

The `n`-th forward difference along an axis.  Two buffers take turns: each round writes the
differences of one into the other, whose view is two positions shorter every time it is reused.  The
result therefore keeps the strides of a buffer that is longer than itself along the axis.
-/

namespace StridedReduction

variable {α : Type} [Inhabited α]

/-- The two arrays of a difference computation. -/
structure DifferenceState (α : Type) where
  /-- The differences so far. -/
  current : Strided α
  /-- Where the next differences go, one position shorter along the axis. -/
  scratch : Strided α

namespace DifferenceState

/-- The state before the first round: a copy of the array, and zeros for its differences. -/
def start (zero : α) (a : Strided α) (axis : Nat) : DifferenceState α :=
  let shape := a.view.shape.set axis ((a.view.axis axis).extent - 1)
  ⟨a.copy, .ofList shape (List.replicate (extentProduct shape) zero)⟩

/-- One round: the differences of the current array become the current one, and what they were
computed from becomes scratch. -/
def next (subtract : α → α → α) (axis : Nat) (state : DifferenceState α) : DifferenceState α :=
  let view := state.current.view
  let head := state.current.through (view.slice axis .dropLast)
  let tail := state.current.through (view.slice axis .dropFirst)
  ⟨state.scratch.assign (List.zipWith subtract tail.toList head.toList),
    state.current.through (view.slice axis .dropLastTwo)⟩

/-- The state after a number of rounds. -/
def run (subtract : α → α → α) (axis : Nat) : Nat → DifferenceState α → DifferenceState α
  | 0, state => state
  | rounds + 1, state => run subtract axis rounds (state.next subtract axis)

end DifferenceState

namespace Strided

/-- The difference of the given order along an axis that is longer than the order. -/
def difference (subtract : α → α → α) (zero : α) (a : Strided α) (order axis : Nat) : Strided α :=
  if order = 0 then a.copy
  else ((DifferenceState.start zero a axis).run subtract axis order).current

end Strided

end StridedReduction

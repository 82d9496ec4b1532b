import StridedReduction.View.Basic

/-!
# Slices

A slice keeps every `step`-th position of an axis from a start to before a stop.  Bounds may count
from the end and may lie outside the axis; they are moved to its nearest end.
-/

namespace StridedReduction

/-- A slice of an axis; bounds that are left out reach as far as the axis. -/
structure Slice where
  /-- The first position. -/
  start : Option Int := none
  /-- The position to stop before. -/
  stop : Option Int := none
  /-- The distance between kept positions, negative to walk backwards. -/
  step : Option Int := none
  deriving DecidableEq, Repr

/-- The positions that a slice keeps of an axis. -/
structure Selection where
  /-- The first position kept. -/
  first : Int
  /-- The distance between kept positions. -/
  step : Int
  /-- How many positions are kept. -/
  count : Nat
  deriving DecidableEq, Repr

namespace Slice

/-- A bound counted from the start and moved into `least … greatest`. -/
def clamp (extent : Nat) (least greatest bound : Int) : Int :=
  let counted := if bound < 0 then bound + extent else bound
  max least (min greatest counted)

/-- The positions that a slice of step `step` keeps of an axis. -/
def selection (s : Slice) (extent : Nat) (step : Int) : Selection :=
  if 0 < step then
    let first := (s.start.map (clamp extent 0 extent)).getD 0
    let last := (s.stop.map (clamp extent 0 extent)).getD extent
    ⟨first, step, if first < last then ((last - first - 1) / step + 1).toNat else 0⟩
  else
    let first := (s.start.map (clamp extent (-1) (extent - 1))).getD (extent - 1)
    let last := (s.stop.map (clamp extent (-1) (extent - 1))).getD (-1)
    ⟨first, step, if last < first then ((first - last - 1) / -step + 1).toNat else 0⟩

/-- The positions that a slice keeps of an axis; there are none with step zero. -/
def resolve? (s : Slice) (extent : Nat) : Option Selection :=
  let step := s.step.getD 1
  if step = 0 then none else some (s.selection extent step)

/-- All positions but the last. -/
def dropLast : Slice := { stop := some (-1) }

/-- All positions but the first. -/
def dropFirst : Slice := { start := some 1 }

/-- All positions but the last two. -/
def dropLastTwo : Slice := { stop := some (-2) }

end Slice

namespace View

/-- The view of the kept positions of an axis. -/
def select (v : View) (axis : Nat) (kept : Selection) : View :=
  let whole := v.axis axis
  ⟨v.origin + kept.first * whole.stride,
    v.axes.set axis ⟨kept.count, whole.stride * kept.step⟩⟩

/-- The slice of an axis; without a valid step the view is unchanged. -/
def slice (v : View) (axis : Nat) (s : Slice) : View :=
  match s.resolve? (v.axis axis).extent with
  | some kept => v.select axis kept
  | none => v

/-- The axes in another order: axis `k` of the result is axis `order[k]`. -/
def permute (v : View) (order : List Nat) : View :=
  ⟨v.origin, order.map v.axis⟩

end View

end StridedReduction

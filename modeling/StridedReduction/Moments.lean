import StridedReduction.Strided

/-!
# Moments

The mean and the sum of squared deviations in one pass: each element moves the mean by its distance
from it over the number of elements so far, and adds the product of its distances from the old and
the new mean.  A variance is that sum over the degrees of freedom.  The arithmetic is whatever the
element type provides.
-/

namespace StridedReduction

variable {α : Type} [Add α] [Sub α] [Mul α] [Div α] [NatCast α]

/-- The moments of the elements met so far. -/
structure Moments (α : Type) where
  /-- The number of elements. -/
  count : Nat
  /-- Their mean. -/
  mean : α
  /-- The sum of the squared distances from the mean. -/
  squares : α

namespace Moments

/-- The moments of no elements. -/
def empty : Moments α :=
  ⟨0, ((0 : Nat) : α), ((0 : Nat) : α)⟩

/-- The moments with one more element. -/
def push (m : Moments α) (x : α) : Moments α :=
  let count := m.count + 1
  let delta := x - m.mean
  let mean := m.mean + delta / (count : α)
  ⟨count, mean, (x - mean) * delta + m.squares⟩

/-- The moments of a list of elements. -/
def ofList (xs : List α) : Moments α :=
  xs.foldl push empty

theorem ofList_append_singleton (xs : List α) (x : α) :
    ofList (xs ++ [x]) = (ofList xs).push x := by
  rw [ofList, List.foldl_append, List.foldl_cons, List.foldl_nil, ofList]

end Moments

/-- The moments of several lanes, one element of each lane met at a time. -/
structure LaneMoments (α : Type) where
  /-- The number of elements of each lane. -/
  count : Nat
  /-- The means of the lanes. -/
  means : List α
  /-- The sums of the squared distances from the means. -/
  squares : List α

namespace LaneMoments

/-- The moments of lanes without elements. -/
def empty (lanes : Nat) : LaneMoments α :=
  ⟨0, List.replicate lanes ((0 : Nat) : α), List.replicate lanes ((0 : Nat) : α)⟩

/-- The moments with one more element in each lane. -/
def push (m : LaneMoments α) (xs : List α) : LaneMoments α :=
  let count := m.count + 1
  let deltas := List.zipWith (· - ·) xs m.means
  let means := List.zipWith (fun mean delta => mean + delta / (count : α)) m.means deltas
  let products := List.zipWith (· * ·) (List.zipWith (· - ·) xs means) deltas
  ⟨count, means, List.zipWith (· + ·) m.squares products⟩

end LaneMoments

/-- A sum of squared distances over the degrees of freedom, finished by a function. -/
def normalized (finish : α → α) (degrees squares : α) : α :=
  finish (squares / degrees)

namespace Strided

variable [Inhabited α]

/-- The sum of the squared distances of all elements from their mean. -/
def squares (a : Strided α) : α :=
  (Moments.ofList a.toList).squares

/-- The sums of the squared distances of the elements of each lane from its mean. -/
def squaresAxis (a : Strided α) (axis : Nat) : Strided α :=
  let lanes := a.view.base axis
  .ofList lanes.shape
    ((a.view.subviews axis).foldl (fun m part => m.push (a.through part).toList)
      (LaneMoments.empty lanes.size)).squares

/-- The variance of all elements, finished by a function. -/
def variance (finish : α → α) (a : Strided α) (degrees : α) : α :=
  normalized finish degrees a.squares

/-- The variances of the lanes along an axis, finished by a function. -/
def variances (finish : α → α) (a : Strided α) (axis : Nat) (degrees : α) : Strided α :=
  (a.squaresAxis axis).modify (normalized finish degrees)

end Strided

end StridedReduction

import StridedReduction.Strided
import StridedReduction.View.Basic

/-!
# Folds

The fold of all elements of an array, of every lane along an axis, and the running fold along an
axis, with any operation.  An array whose cells form one run is folded in memory order; any other
row by row, dense rows with several partial results and others one element after the other.  Without
the fast paths every row is folded one element after the other.
-/

namespace StridedReduction

variable {α : Type}

/-- Takes blocks of entries into as many partial results as a block has entries, and returns the
partial results and the remaining entries. -/
def foldBlocks (op : α → α → α) : Nat → List α → List α → List α × List α
  | 0, partials, xs => (partials, xs)
  | blocks + 1, partials, xs =>
    foldBlocks op blocks (List.zipWith op partials xs) (xs.drop partials.length)

/-- The partial results combined across their halves, then the odd one. -/
def pairHalves (op : α → α → α) (partials : List α) : List α :=
  let half := partials.length / 2
  List.zipWith op (partials.take half) (partials.drop half) ++ partials.drop (2 * half)

/-- What a fold with `width` partial results starting from `seed` takes one by one. -/
def interleavedTerms (op : α → α → α) (seed : α) (width : Nat) (xs : List α) : List α :=
  match xs.length / width with
  | 0 => xs
  | blocks =>
    let (partials, tail) := foldBlocks op blocks (List.replicate width seed) xs
    pairHalves op partials ++ tail

/-- The fold of `xs` from `seed` with `width` partial results. -/
def interleavedFold (op : α → α → α) (seed : α) (width : Nat) (xs : List α) : α :=
  (interleavedTerms op seed width xs).foldl op seed

/-- The number of partial results that reductions keep. -/
def reductionWidth : Nat := 8

@[simp] theorem interleavedFold_nil (op : α → α → α) (seed : α) (width : Nat) :
    interleavedFold op seed width [] = seed := by
  simp [interleavedFold, interleavedTerms]

theorem interleavedTerms_of_length_lt (op : α → α → α) (seed : α) {width : Nat} {xs : List α}
    (short : xs.length < width) : interleavedTerms op seed width xs = xs := by
  simp [interleavedTerms, Nat.div_eq_of_lt short]

variable [Inhabited α]

namespace Strided

/-- The fold of one row. -/
def reduceRow (op : α → α → α) (identity : α) (fast : Bool) (a : Strided α) (row : View) : α :=
  let elements := (a.through row).toList
  if fast && row.isDenseRow then interleavedFold op identity reductionWidth elements
  else elements.foldl op identity

/-- The fold of the rows, one after the other. -/
def reduceRows (op : α → α → α) (identity : α) (fast : Bool) (a : Strided α) : α :=
  a.view.rows.foldl (fun total row => op total (a.reduceRow op identity fast row)) identity

/-- The fold of all elements. -/
def reduce (op : α → α → α) (identity : α) (fast : Bool) (a : Strided α) : α :=
  match if fast then a.view.memoryOrder else none with
  | some run => interleavedFold op identity reductionWidth (a.through run).toList
  | none => a.reduceRows op identity fast

/-- The folds of all lanes along an axis, lane by lane. -/
def reduceLanes (op : α → α → α) (identity : α) (a : Strided α) (axis : Nat) : List α :=
  (a.view.lanes axis).map fun lane => (a.through lane.2).reduce op identity true

/-- Elementwise accumulation of sub-views into a list of totals. -/
def accumulateInto (op : α → α → α) (a : Strided α) (totals : List α) (subviews : List View) :
    List α :=
  subviews.foldl (fun totals part => List.zipWith op totals (a.through part).toList) totals

/-- The folds of all lanes along an axis, all lanes at once. -/
def reduceSubviews (op : α → α → α) (identity : α) (a : Strided α) (axis : Nat) : List α :=
  a.accumulateInto op (List.replicate (a.view.base axis).size identity) (a.view.subviews axis)

/-- The folds of all lanes along an axis: lane by lane along the tightest axis on the fast path, and
all lanes at once otherwise. -/
def reduceAxis (op : α → α → α) (identity : α) (fast : Bool) (a : Strided α) (axis : Nat) :
    Strided α :=
  ofList (a.view.base axis).shape
    (if fast && a.view.tightestAxis == some axis then a.reduceLanes op identity axis
    else a.reduceSubviews op identity axis)

end Strided

/-- The buffer after one sub-view is combined in place with another. -/
def combineInto (op : α → α → α) (buffer : Array α) (current previous : View) : Array α :=
  writeCells buffer current.cells
    (List.zipWith op (current.cells.map (readCell buffer)) (previous.cells.map (readCell buffer)))

/-- The buffer after each sub-view of a sequence is combined in place with the one before it. -/
def accumulateAfter (op : α → α → α) (buffer : Array α) : View → List View → Array α
  | _, [] => buffer
  | previous, current :: rest =>
    accumulateAfter op (combineInto op buffer current previous) current rest

/-- The buffer after every sub-view of a sequence but the first is combined in place with the one
before it. -/
def accumulateViews (op : α → α → α) (buffer : Array α) : List View → Array α
  | [] => buffer
  | first :: rest => accumulateAfter op buffer first rest

namespace Strided

/-- The array after the running fold along an axis, in place. -/
def accumulate (op : α → α → α) (a : Strided α) (axis : Nat) : Strided α :=
  { a with buffer := accumulateViews op a.buffer (a.view.subviews axis) }

/-- The running fold along an axis, in a dense array of its own. -/
def cumulative (op : α → α → α) (a : Strided α) (axis : Nat) : Strided α :=
  a.copy.accumulate op axis

end Strided

end StridedReduction

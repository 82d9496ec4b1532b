import Mathlib.Data.List.OfFn
import StridedReduction.Proofs.SeededFolds

/-!
# Partial results

Which entries an interleaved fold takes into which partial result, and in which order.  A block goes
into all partial results at once; seen from one of them, block after block brings the entry at its
own position (`foldBlocks_ofFn`).  No law of the operation is used, so the grouping is settled to
the last bit (`seededFolds_by_strands`).
-/

namespace StridedReduction

variable {α : Type} (op : α → α → α) {blocks width : Nat} {xs : List α}

theorem strand_lt_length (enough : blocks * width ≤ xs.length) (position : Fin width)
    (block : Fin blocks) : position.val + block.val * width < xs.length := by
  calc position.val + block.val * width
      < (block.val + 1) * width := by
        rw [Nat.succ_mul, Nat.add_comm]
        exact Nat.add_lt_add_left position.isLt _
    _ ≤ blocks * width := Nat.mul_le_mul_right width block.isLt
    _ ≤ xs.length := enough

/-- The entries at one position of each of the first blocks. -/
def strand (xs : List α) (enough : blocks * width ≤ xs.length) (position : Fin width) : List α :=
  List.ofFn fun block : Fin blocks =>
    xs.get ⟨position.val + block.val * width, strand_lt_length enough position block⟩

theorem strand_succ (enough : (blocks + 1) * width ≤ xs.length)
    (rest_enough : blocks * width ≤ (xs.drop width).length) (position : Fin width)
    (listed : position.val < xs.length) :
    strand xs enough position =
      xs.get ⟨position, listed⟩ :: strand (xs.drop width) rest_enough position := by
  simp only [strand, List.ofFn_succ]
  rw [List.cons.injEq]
  constructor
  · simp
  · apply congrArg List.ofFn
    funext block
    rw [List.get_eq_getElem, List.get_eq_getElem, List.getElem_drop]
    simp [Nat.succ_mul, Nat.add_comm, Nat.add_left_comm]

/-- The left fold of the entries at one position of every full block. -/
def partialResult (seed : α) (xs : List α) (position : Fin width) : α :=
  (strand xs (Nat.div_mul_le_self xs.length width) position).foldl op seed

/-- Each result of the first half combined with its counterpart in the second, then the odd one. -/
def pairedResults (results : Fin width → α) : List α :=
  (List.ofFn fun pair : Fin (width / 2) =>
    op (results ⟨pair, by omega⟩) (results ⟨pair + width / 2, by omega⟩)) ++
    if odd : width % 2 = 1 then [results ⟨width - 1, by omega⟩] else []

/-- What a fold takes one by one, strand by strand: the paired results of the full blocks if there
are any, then the entries after them. -/
def strandTerms (seed : α) (width : Nat) (xs : List α) : List α :=
  (if 0 < xs.length / width then
    pairedResults op fun position : Fin width => partialResult op seed xs position
  else []) ++ xs.drop (xs.length / width * width)

theorem zipWith_ofFn (results : Fin width → α) (enough : width ≤ xs.length) :
    List.zipWith op (List.ofFn results) xs =
      List.ofFn fun position : Fin width =>
        op (results position) (xs.get ⟨position, position.isLt.trans_le enough⟩) := by
  apply List.ext_getElem
  · simp [enough]
  · intro position _ _
    simp

/-- Blocks that go into all partial results at once go into each of them entry by entry. -/
theorem foldBlocks_ofFn (partials : Fin width → α) (enough : blocks * width ≤ xs.length) :
    foldBlocks op blocks (List.ofFn partials) xs =
      (List.ofFn fun position => (strand xs enough position).foldl op (partials position),
        xs.drop (blocks * width)) := by
  induction blocks generalizing partials xs with
  | zero => simp [foldBlocks, strand]
  | succ blocks induction =>
    have block_enough : width ≤ xs.length :=
      (Nat.le_mul_of_pos_left width blocks.succ_pos).trans enough
    have rest_enough : blocks * width ≤ (xs.drop width).length := by
      rw [Nat.succ_mul] at enough
      rw [List.length_drop]
      omega
    -- The first block goes into the results that the blocks after it start from.
    rw [foldBlocks, zipWith_ofFn op partials block_enough, List.length_ofFn,
      induction _ rest_enough, List.drop_drop, Nat.succ_mul, Nat.add_comm width]
    congr 2
    funext position
    rw [strand_succ enough rest_enough position (position.isLt.trans_le block_enough),
      List.foldl_cons]

theorem pairHalves_ofFn (results : Fin width → α) :
    pairHalves op (List.ofFn results) = pairedResults op results := by
  rw [pairHalves, pairedResults, List.length_ofFn]
  congr 1
  · apply List.ext_getElem
    · simp
      omega
    · intro pair _ _
      simp [Nat.add_comm]
  · split
    case isTrue odd =>
      have last : 2 * (width / 2) = width - 1 := by omega
      have single : width - (width - 1) = 1 := by omega
      apply List.ext_getElem
      · simp [last, single]
      · intro position below _
        obtain rfl : position = 0 := by
          simpa [last, single] using below
        simp [last]
    case isFalse even =>
      apply List.drop_eq_nil_of_le
      rw [List.length_ofFn]
      omega

theorem interleavedTerms_eq_strandTerms (seed : α) (width : Nat) (xs : List α) :
    interleavedTerms op seed width xs = strandTerms op seed width xs := by
  have enough : xs.length / width * width ≤ xs.length := Nat.div_mul_le_self xs.length width
  have filled := foldBlocks_ofFn op (fun _ : Fin width => seed) enough
  rw [List.ofFn_const] at filled
  rw [interleavedTerms, strandTerms]
  split
  case h_1 none_full => simp [none_full]
  case h_2 some_full =>
    rw [if_pos (Nat.pos_of_ne_zero some_full), filled]
    simp only [pairHalves_ofFn]
    rfl

namespace AnyArray

/-- With any operation at all, a fold with `width` partial results is the left fold of the paired
partial results and the entries after the last full block, where every partial result is the left
fold of the entries at its own position of the blocks.  So is the fold of a row of elements in any
layout from a seed of their type. -/
theorem seededFolds_by_strands (t : ElementType) (op : t.Carrier → t.Carrier → t.Carrier)
    (seed : t.Carrier) {width : Nat} (positive : 0 < width) :
    (∀ xs, interleavedFold op seed width xs = (strandTerms op seed width xs).foldl op seed) ∧
      ∀ (swapped : Bool) (data : Strided t.Carrier) (operation : ElementwiseOperation),
        data.view.rank = 1 → operation.on? t = some op →
        (elements t swapped data).foldFrom (.element t seed) operation (.integer width) =
          .ok (.scalar t ((strandTerms op seed width data.toList).foldl op seed)) := by
  have by_strands (xs : List t.Carrier) :
      interleavedFold op seed width xs = (strandTerms op seed width xs).foldl op seed := by
    rw [interleavedFold, interleavedTerms_eq_strandTerms]
  refine ⟨by_strands, ?_⟩
  intro swapped data operation row provided
  rw [foldFrom_element swapped row provided seed positive, by_strands]

/-- Eight bytes met backwards and subtracted, with three partial results and two blocks: the first
two results are paired, the third is the odd one, and two bytes are left. -/
theorem subtraction_of_eight_bytes_by_strands :
    let k := IntegerType.oneByte true
    let byte (value : Int) : Word k := Word.wrap k value
    let less (left right : Word k) : Word k := left - right
    let data : Strided (Word k) :=
      ⟨#[byte 5, byte (-20), byte 2, byte 1, byte 7, byte (-3), byte 50, byte 60],
        ⟨7, [⟨8, -1⟩]⟩⟩
    let row := elements (.integer k) false data
    0 < 3 ∧ data.view.rank = 1 ∧
      ElementwiseOperation.subtract.on? (.integer k) = some less ∧
      strandTerms less (byte 10) 3 data.toList = [byte (-16), byte 11, byte (-20), byte 5] ∧
      row.foldFrom (.element (.integer k) (byte 10)) .subtract (.integer 3) =
        .ok (.scalar (.integer k) (byte 30)) := by
  intro k byte less data row
  have positive : 0 < 3 := by decide
  have ranked : data.view.rank = 1 := rfl
  have terms_eq : strandTerms less (byte 10) 3 data.toList =
      [byte (-16), byte 11, byte (-20), byte 5] := by decide
  have total_eq : (strandTerms less (byte 10) 3 data.toList).foldl less (byte 10) = byte 30 := by
    rw [terms_eq]
    decide
  have folded := (seededFolds_by_strands (.integer k) less (byte 10) positive).2 false data
    .subtract ranked rfl
  refine ⟨positive, ranked, rfl, terms_eq, folded.trans ?_⟩
  exact congrArg (fun total : Word k => Except.ok (Value.scalar (.integer k) total)) total_eq

end AnyArray

end StridedReduction

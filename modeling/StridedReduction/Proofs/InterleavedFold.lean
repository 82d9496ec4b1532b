import Mathlib.Data.List.Perm.Basic
import StridedReduction.Fold

/-!
# Interleaved folds with commutative operations

Partial results may be set up, filled and paired in any way without losing or repeating an entry:
under an operation that is associative and commutative an interleaved fold is the left fold of the
entries and one more seed for each partial result.  The main statements are
`interleavedFold_eq_foldl_replicate` and `interleavedFold_eq_foldl`.  Under any operation at all an
interleaved fold commutes with the maps that keep the operation (`map_interleavedFold`).
-/

namespace StridedReduction

variable {α : Type} {op : α → α → α}

section Maps

variable {β : Type} {combine : β → β → β} {image : α → β}
  (keeps : ∀ left right, image (op left right) = combine (image left) (image right))

include keeps

theorem map_foldl (start : α) (xs : List α) :
    image (xs.foldl op start) = (xs.map image).foldl combine (image start) := by
  rw [List.foldl_map]
  exact (List.foldl_hom image fun total x => (keeps total x).symm).symm

theorem zipWith_map_image (left right : List α) :
    List.zipWith combine (left.map image) (right.map image) =
      (List.zipWith op left right).map image := by
  rw [List.zipWith_map, List.map_zipWith]
  simp only [keeps]

theorem map_foldBlocks (blocks : Nat) (partials xs : List α) :
    foldBlocks combine blocks (partials.map image) (xs.map image) =
      ((foldBlocks op blocks partials xs).1.map image,
        (foldBlocks op blocks partials xs).2.map image) := by
  induction blocks generalizing partials xs with
  | zero => rfl
  | succ blocks induction =>
    rw [foldBlocks, foldBlocks, zipWith_map_image keeps, List.length_map, ← List.map_drop,
      induction]

theorem map_pairHalves (partials : List α) :
    pairHalves combine (partials.map image) = (pairHalves op partials).map image := by
  simp only [pairHalves, List.length_map, ← List.map_take, ← List.map_drop, List.map_append,
    zipWith_map_image keeps]

theorem map_interleavedTerms (seed : α) (width : Nat) (xs : List α) :
    interleavedTerms combine (image seed) width (xs.map image) =
      (interleavedTerms op seed width xs).map image := by
  simp only [interleavedTerms, List.length_map]
  cases xs.length / width with
  | zero => rfl
  | succ blocks =>
    simp only [← List.map_replicate, map_foldBlocks keeps, map_pairHalves keeps, List.map_append]

/-- What is folded may be mapped before or after. -/
theorem map_interleavedFold (seed : α) (width : Nat) (xs : List α) :
    image (interleavedFold op seed width xs) =
      interleavedFold combine (image seed) width (xs.map image) := by
  rw [interleavedFold, map_foldl keeps, interleavedFold, map_interleavedTerms keeps]

end Maps

/-- A total takes what was folded from the identity as if it had been folded from the total. -/
theorem op_foldl_identity [Std.Associative op] {identity : α} [Std.LawfulIdentity op identity]
    (total : α) (xs : List α) : op total (xs.foldl op identity) = xs.foldl op total := by
  have pulled_out : xs.foldl op (op total identity) = op total (xs.foldl op identity) :=
    List.foldl_assoc
  have right_id : op total identity = total := Std.LawfulRightIdentity.right_id total
  rw [← pulled_out, right_id]

section Commutative

variable [Std.Associative op] [Std.Commutative op]

/-- Entries combined with the first ones of another list stay in the fold of both lists. -/
theorem foldl_zipWith_append_drop (seed : α) {left right : List α}
    (fits : left.length ≤ right.length) :
    (List.zipWith op left right ++ right.drop left.length).foldl op seed =
      (left ++ right).foldl op seed := by
  induction left generalizing right seed with
  | nil => simp
  | cons first left induction =>
    cases right with
    | nil => simp at fits
    | cons second right =>
      have moved : (first :: left ++ second :: right).Perm (first :: second :: (left ++ right)) :=
        List.perm_middle.cons first
      have regrouped : op (op seed first) second = op seed (op first second) :=
        Std.Associative.assoc seed first second
      rw [List.zipWith_cons_cons, List.length_cons, List.drop_succ_cons, List.cons_append,
        List.foldl_cons, induction _ (by simpa using fits), moved.foldl_op_eq, List.foldl_cons,
        List.foldl_cons, regrouped]

/-- Blocks taken into partial results stay in the fold of everything. -/
theorem foldl_foldBlocks (seed : α) {blocks : Nat} {partials xs : List α}
    (enough : blocks * partials.length ≤ xs.length) :
    ((foldBlocks op blocks partials xs).1 ++ (foldBlocks op blocks partials xs).2).foldl op seed =
      (partials ++ xs).foldl op seed := by
  induction blocks generalizing partials xs with
  | zero => rfl
  | succ blocks induction =>
    rw [Nat.succ_mul] at enough
    have filled : (List.zipWith op partials xs).length = partials.length := by
      rw [List.length_zipWith]
      omega
    rw [foldBlocks, induction (by rw [filled, List.length_drop]; omega)]
    exact foldl_zipWith_append_drop seed (by omega)

theorem foldl_pairHalves (seed : α) (partials : List α) :
    (pairHalves op partials).foldl op seed = partials.foldl op seed := by
  let half := partials.length / 2
  have front_length : (partials.take half).length = half := by
    rw [List.length_take]
    omega
  have back : partials.drop (2 * half) = (partials.drop half).drop (partials.take half).length := by
    rw [front_length, List.drop_drop, Nat.two_mul]
  have paired : (pairHalves op partials).foldl op seed =
      (partials.take half ++ partials.drop half).foldl op seed := by
    rw [pairHalves, back]
    exact foldl_zipWith_append_drop seed (by rw [front_length, List.length_drop]; omega)
  rw [paired, List.take_append_drop]

/-- An interleaved fold takes every entry once, and as many further seeds as it has partial results
when there is a full block of entries. -/
theorem interleavedFold_eq_foldl_replicate (seed : α) (width : Nat) (xs : List α) :
    interleavedFold op seed width xs =
      ((if xs.length < width then [] else List.replicate width seed) ++ xs).foldl op seed := by
  rw [interleavedFold]
  by_cases short : xs.length < width
  · rw [interleavedTerms_of_length_lt op seed short, if_pos short, List.nil_append]
  · rw [if_neg short]
    cases count : xs.length / width with
    | zero =>
      have no_partials : width = 0 := by
        rcases Nat.div_eq_zero_iff.mp count with zero | less
        · exact zero
        · exact absurd less short
      simp [interleavedTerms, no_partials]
    | succ blocks =>
      have enough : (blocks + 1) * (List.replicate width seed).length ≤ xs.length := by
        rw [List.length_replicate, ← count]
        exact Nat.div_mul_le_self xs.length width
      have unfolded : interleavedTerms op seed width xs =
          pairHalves op (foldBlocks op (blocks + 1) (List.replicate width seed) xs).1 ++
            (foldBlocks op (blocks + 1) (List.replicate width seed) xs).2 := by
        simp only [interleavedTerms, count]
      rw [unfolded, List.foldl_append, foldl_pairHalves, ← List.foldl_append,
        foldl_foldBlocks seed enough]

theorem interleavedFold_eq_foldl {identity : α} [Std.LawfulIdentity op identity] (width : Nat)
    (xs : List α) : interleavedFold op identity width xs = xs.foldl op identity := by
  have idle (count : Nat) : (List.replicate count identity).foldl op identity = identity := by
    induction count with
    | zero => rfl
    | succ count induction =>
      have left_id : op identity identity = identity := Std.LawfulLeftIdentity.left_id identity
      rw [List.replicate_succ, List.foldl_cons, left_id, induction]
  rw [interleavedFold_eq_foldl_replicate]
  split
  · rw [List.nil_append]
  · rw [List.foldl_append, idle]

end Commutative

end StridedReduction

import StridedReduction.Array.SeededFold
import StridedReduction.Proofs.InterleavedFold
import StridedReduction.Proofs.WordRing

/-!
# Folds of integers from any seed

A fold with partial results starts each of them from the seed, and itself too, so the seed is taken
once for a list shorter than the number of partial results and once more for each of them otherwise.
Under addition, multiplication, maximum and minimum of integers nothing else tells the fold from one
that takes the elements in any other order (`seededFolds_of_integers`).
-/

namespace StridedReduction

namespace Word

variable {k : IntegerType}

theorem value_maximum (left right : Word k) :
    (left.maximum right).value = max left.value right.value := by
  rw [maximum]
  split <;> omega

theorem value_minimum (left right : Word k) :
    (left.minimum right).value = min left.value right.value := by
  rw [minimum]
  split <;> omega

@[simp] theorem maximum_self (word : Word k) : word.maximum word = word :=
  ite_self word

instance : Std.Associative (maximum (k := k)) :=
  ⟨fun _ _ _ => Word.ext (by simp only [value_maximum, max_assoc])⟩

instance : Std.Commutative (maximum (k := k)) :=
  ⟨fun _ _ => Word.ext (by simp only [value_maximum, max_comm])⟩

instance : Std.Associative (minimum (k := k)) :=
  ⟨fun _ _ _ => Word.ext (by simp only [value_minimum, min_assoc])⟩

instance : Std.Commutative (minimum (k := k)) :=
  ⟨fun _ _ => Word.ext (by simp only [value_minimum, min_comm])⟩

end Word

namespace ElementwiseOperation

/-- Every operation on integers but subtraction is associative and commutative. -/
theorem exists_on_integers (k : IntegerType) {operation : ElementwiseOperation}
    (regroups : operation ≠ .subtract) :
    ∃ op, operation.on? (.integer k) = some op ∧ Std.Associative op ∧ Std.Commutative op := by
  cases operation with
  | add =>
    exact ⟨_, rfl, inferInstanceAs (Std.Associative (Reduction.sum.operation (.integer k))),
      inferInstanceAs (Std.Commutative (Reduction.sum.operation (.integer k)))⟩
  | subtract => exact absurd rfl regroups
  | multiply =>
    exact ⟨_, rfl, inferInstanceAs (Std.Associative (Reduction.product.operation (.integer k))),
      inferInstanceAs (Std.Commutative (Reduction.product.operation (.integer k)))⟩
  | maximum =>
    exact ⟨_, rfl, inferInstanceAs (Std.Associative (Word.maximum (k := k))),
      inferInstanceAs (Std.Commutative (Word.maximum (k := k)))⟩
  | minimum =>
    exact ⟨_, rfl, inferInstanceAs (Std.Associative (Word.minimum (k := k))),
      inferInstanceAs (Std.Commutative (Word.minimum (k := k)))⟩

end ElementwiseOperation

section Seeds

variable {α : Type} {op : α → α → α}

theorem foldl_replicate_of_idle {seed : α} (idle : op seed seed = seed) (count : Nat) :
    (List.replicate count seed).foldl op seed = seed := by
  induction count with
  | zero => rfl
  | succ count induction => rw [List.replicate_succ, List.foldl_cons, idle, induction]

/-- How many times a fold with `width` partial results takes its seed. -/
def seedCount (length width : Nat) : Nat :=
  if length < width then 1 else width + 1

variable [Std.Associative op] [Std.Commutative op]

/-- A fold may start from any of the values that it takes. -/
theorem foldl_eq_of_cons_perm {first second : α} {left right : List α}
    (perm : (first :: left).Perm (second :: right)) :
    left.foldl op first = right.foldl op second := by
  rcases List.mem_cons.mp (perm.mem_iff.mpr List.mem_cons_self) with rfl | member
  · exact perm.cons_inv.foldl_op_eq
  · obtain ⟨front, back, rfl⟩ := List.append_of_mem member
    have moved : (second :: first :: (front ++ back)).Perm (second :: right) :=
      (List.Perm.swap first second _).trans ((List.perm_middle.symm.cons first).trans perm)
    have exchanged : op first second = op second first := Std.Commutative.comm first second
    calc (front ++ second :: back).foldl op first
        = (second :: (front ++ back)).foldl op first := List.perm_middle.foldl_op_eq
      _ = (first :: (front ++ back)).foldl op second := by
          rw [List.foldl_cons, List.foldl_cons, exchanged]
      _ = right.foldl op second := moved.cons_inv.foldl_op_eq

/-- An interleaved fold is any fold of its elements and its seeds. -/
theorem foldl_eq_interleavedFold {seed first : α} {width : Nat} {xs rest : List α}
    (perm : (first :: rest).Perm (List.replicate (seedCount xs.length width) seed ++ xs)) :
    rest.foldl op first = interleavedFold op seed width xs := by
  have seeds : List.replicate (seedCount xs.length width) seed =
      seed :: if xs.length < width then [] else List.replicate width seed := by
    rw [seedCount]
    split <;> rfl
  rw [seeds, List.cons_append] at perm
  rw [interleavedFold_eq_foldl_replicate, foldl_eq_of_cons_perm perm]

/-- A seed that changes nothing when it is combined with itself need be taken only once. -/
theorem interleavedFold_of_idle {seed : α} (idle : op seed seed = seed) (width : Nat)
    (xs : List α) : interleavedFold op seed width xs = xs.foldl op seed := by
  rw [interleavedFold_eq_foldl_replicate]
  split
  · rw [List.nil_append]
  · rw [List.foldl_append, foldl_replicate_of_idle idle]

end Seeds

theorem ElementType.join_self (t : ElementType) : t.join t = t := by
  cases t <;> simp [join, IntegerType.join?, Format.join]

namespace AnyArray

/-- From a seed of the type of the elements, the fold of a list is the interleaved one. -/
theorem foldElements_element {t : ElementType} {operation : ElementwiseOperation}
    {op : t.Carrier → t.Carrier → t.Carrier} (provided : operation.on? t = some op)
    (xs : List t.Carrier) (seed : t.Carrier) (width : Nat) :
    foldElements t xs (.element t seed) operation width =
      .ok (.scalar t (interleavedFold op seed width xs)) := by
  have operation_ok : operationOn operation t = .ok op := by simp only [operationOn, provided]
  have taken : (Seed.element t seed).total t = .ok ⟨t, seed⟩ := rfl
  have last (terms : List t.Carrier) {target : ElementType} (same : target = t) :
      (do
        let op ← operationOn operation target
        return .scalar target ((terms.map fun x => t.recast target x).foldl op
          (t.recast target seed))) =
        (.ok (.scalar t (terms.foldl op seed)) : Except Failure Value) := by
    subst same
    rw [operation_ok]
    simp only [ElementType.recast_self, List.map_id']
    rfl
  cases xs with
  | nil =>
    rw [interleavedFold_nil]
    rfl
  | cons first xs =>
    rw [interleavedFold, ← last _ t.join_self]
    simp only [foldElements, reduceCtorEq, if_false, taken, operation_ok]
    by_cases short : (first :: xs).length < width
    · rw [interleavedTerms_of_length_lt op seed short]
      exact if_pos short
    · refine (if_neg short).trans ?_
      simp only [bind, Except.bind, ElementType.recast_self]
      rfl

/-- The fold of a row of elements from a seed of their type, with a number of partial results. -/
theorem foldFrom_element {t : ElementType} (swapped : Bool) {data : Strided t.Carrier}
    (row : data.view.rank = 1) {operation : ElementwiseOperation}
    {op : t.Carrier → t.Carrier → t.Carrier} (provided : operation.on? t = some op)
    (seed : t.Carrier) {width : Nat} (positive : 0 < width) :
    (elements t swapped data).foldFrom (.element t seed) operation (.integer width) =
      .ok (.scalar t (interleavedFold op seed width data.toList)) := by
  have accepted : (Argument.integer width).checkedWidth data.view.size = .ok width := by
    have enough : ¬(width : Int) < 1 := by omega
    simp only [Argument.checkedWidth, Argument.lessThanOne?, decide_eq_false enough]
    rfl
  have ranked : ¬(elements t swapped data).view.rank ≠ 1 := not_not.mpr row
  rw [foldFrom, if_neg ranked]
  change (((Argument.integer width).checkedWidth data.view.size).bind fun width =>
    foldElements t data.toList (.element t seed) operation width) = _
  rw [accepted]
  exact foldElements_element provided data.toList seed width

/-- From any seed, a row of integers folds to what all its elements and the seeds combine to, in
whatever order they are combined: one seed where the row is shorter than the number of partial
results, and one more for each partial result otherwise.  Where the seed changes nothing that it is
combined with, or nothing is changed by being combined with itself, that is the left fold of the
row. -/
theorem seededFolds_of_integers (k : IntegerType) (swapped : Bool) {data : Strided (Word k)}
    (row : data.view.rank = 1) (seed : Word k) {operation : ElementwiseOperation}
    (regroups : operation ≠ .subtract) {width : Nat} (positive : 0 < width) :
    let seeds := List.replicate (seedCount data.size width) seed
    ∃ op total, operation.on? (.integer k) = some op ∧
      (elements (.integer k) swapped data).foldFrom (.element (.integer k) seed) operation
          (.integer width) =
        .ok (.scalar (.integer k) total) ∧
      (∀ first rest, (first :: rest).Perm (seeds ++ data.toList) → rest.foldl op first = total) ∧
      ((∀ x, op seed x = x) ∨ (∀ x, op x x = x) → data.toList.foldl op seed = total) := by
  intro seeds
  obtain ⟨op, provided, associative, commutative⟩ :=
    ElementwiseOperation.exists_on_integers k regroups
  refine ⟨op, _, provided,
    foldFrom_element (t := .integer k) swapped row provided seed positive, ?_, ?_⟩
  · intro first rest perm
    apply foldl_eq_interleavedFold
    rw [Strided.length_toList]
    exact perm
  · intro neutral_or_idempotent
    have idle : op seed seed = seed := neutral_or_idempotent.elim (· seed) (· seed)
    exact (interleavedFold_of_idle idle width _).symm

/-- Seven bytes met backwards, with other bytes in between: a sum with three partial results takes
its seed four times and wraps at `128`, and a greatest byte does not depend on how often it does. -/
theorem seededFolds_of_seven_bytes :
    let k := IntegerType.oneByte true
    let byte (value : Int) : Word k := Word.wrap k value
    let data : Strided (Word k) :=
      ⟨#[byte 60, byte 99, byte 50, byte 99, byte (-3), byte 99, byte 7, byte 99, byte 1, byte 99,
        byte 2, byte 99, byte (-20)], ⟨12, [⟨7, -2⟩]⟩⟩
    let row := elements (.integer k) false data
    data.view.rank = 1 ∧ ElementwiseOperation.add ≠ .subtract ∧
      ElementwiseOperation.maximum ≠ .subtract ∧ 0 < 3 ∧
      row.foldFrom (.element (.integer k) (byte 10)) .add (.integer 3) =
        .ok (.scalar (.integer k) (byte (-119))) ∧
      row.foldFrom (.element (.integer k) (byte 10)) .maximum (.integer 3) =
        .ok (.scalar (.integer k) (byte 60)) := by
  intro k byte data row
  have ranked : data.view.rank = 1 := rfl
  have adds : ElementwiseOperation.add ≠ .subtract := by decide
  have compares : ElementwiseOperation.maximum ≠ .subtract := by decide
  have positive : 0 < 3 := by decide
  obtain ⟨op, total, provided, summed, regrouped, -⟩ :=
    seededFolds_of_integers k false ranked (byte 10) adds positive
  cases provided
  obtain ⟨op, greatest, provided, compared, -, left_fold⟩ :=
    seededFolds_of_integers k false ranked (byte 10) compares positive
  cases provided
  have total_eq : total = byte (-119) := by
    rw [← regrouped _ _ (.refl (byte 10 :: (List.replicate 3 (byte 10) ++ data.toList)))]
    decide
  have greatest_eq : greatest = byte 60 := by
    rw [← left_fold (.inr Word.maximum_self)]
    decide
  rw [total_eq] at summed
  rw [greatest_eq] at compared
  exact ⟨ranked, adds, compares, positive, summed, compared⟩

end AnyArray

end StridedReduction

import Mathlib.Data.List.Forall2
import Mathlib.Data.List.InsertIdx
import Mathlib.Tactic.Tauto
import StridedReduction.View.Basic

/-!
# Indices of a shape

Which lists are indices, in which order they are listed, and how indices change when an axis is put
in.  The main statements are `mem_indices_iff`, `pairwise_lt_indices` and `insertIdx_mem_indices`;
beside them `displacement_insertIdx` says what an axis that is put in adds to the displacement.
-/

namespace StridedReduction

@[simp] theorem indices_nil : indices [] = [[]] := rfl

@[simp] theorem nil_mem_indices_cons (extent : Nat) (shape : List Nat) :
    [] ∉ indices (extent :: shape) := by
  intro member
  simpa using length_of_mem_indices member

@[simp] theorem cons_mem_indices {extent position : Nat} {shape index : List Nat} :
    position :: index ∈ indices (extent :: shape) ↔
      position < extent ∧ index ∈ indices shape := by
  simp [indices]

theorem mem_indices_iff {shape index : List Nat} :
    index ∈ indices shape ↔ List.Forall₂ (· < ·) index shape := by
  induction shape generalizing index with
  | nil => simp
  | cons extent shape induction =>
    cases index with
    | nil => simp
    | cons position index => rw [cons_mem_indices, List.forall₂_cons, induction]

/-- The last position varies fastest. -/
theorem pairwise_lt_indices (shape : List Nat) : (indices shape).Pairwise (· < ·) := by
  induction shape with
  | nil => simp
  | cons extent shape induction =>
    rw [indices, List.pairwise_flatMap]
    constructor
    · intro position _
      rw [List.pairwise_map]
      exact induction.imp fun smaller => List.Lex.cons smaller
    · apply List.pairwise_lt_range.imp
      intro first second smaller index index_mem other other_mem
      obtain ⟨_, _, rfl⟩ := List.mem_map.mp index_mem
      obtain ⟨_, _, rfl⟩ := List.mem_map.mp other_mem
      exact List.Lex.rel smaller

theorem nodup_indices (shape : List Nat) : (indices shape).Nodup := by
  apply (pairwise_lt_indices shape).imp
  rintro index _ smaller rfl
  exact List.lt_irrefl index smaller

/-- The index of the first position along every axis. -/
theorem replicate_zero_mem_indices {shape : List Nat} (positive : ∀ extent ∈ shape, 0 < extent) :
    List.replicate shape.length 0 ∈ indices shape := by
  induction shape with
  | nil => simp
  | cons extent shape induction =>
    rw [List.length_cons, List.replicate_succ, cons_mem_indices]
    exact ⟨positive extent List.mem_cons_self,
      induction fun rest member => positive rest (List.mem_cons_of_mem extent member)⟩

@[simp] theorem extentProduct_nil : extentProduct [] = 1 := rfl

@[simp] theorem extentProduct_cons (extent : Nat) (shape : List Nat) :
    extentProduct (extent :: shape) = extent * extentProduct shape := rfl

theorem extentProduct_ne_zero {shape : List Nat} :
    extentProduct shape ≠ 0 ↔ ∀ extent ∈ shape, extent ≠ 0 := by
  induction shape with
  | nil => simp
  | cons extent shape induction =>
    rw [extentProduct_cons, Nat.mul_ne_zero_iff, induction, List.forall_mem_cons]

/-- Two entries can be taken out in either order; the later one moves up once the earlier one is
gone. -/
theorem eraseIdx_eraseIdx {α : Type} (list : List α) {first later : Nat} (ordered : first ≤ later) :
    (list.eraseIdx (later + 1)).eraseIdx first = (list.eraseIdx first).eraseIdx later := by
  induction first generalizing list later with
  | zero => cases list <;> simp
  | succ first induction =>
    cases list with
    | nil => simp
    | cons head list =>
      obtain ⟨later, rfl⟩ := Nat.exists_eq_add_of_lt ordered
      simp only [List.eraseIdx_cons_succ]
      rw [induction list (by omega)]

theorem insertIdx_mem_indices {shape index : List Nat} {axis position : Nat}
    (within : axis < shape.length) :
    index.insertIdx axis position ∈ indices shape ↔
      position < shape.getD axis 1 ∧ index ∈ indices (shape.eraseIdx axis) := by
  induction axis generalizing shape index with
  | zero =>
    cases shape with
    | nil => simp at within
    | cons extent shape => simp
  | succ axis induction =>
    cases shape with
    | nil => simp at within
    | cons extent shape =>
      cases index with
      | nil => simp
      | cons first index =>
        have smaller : axis < shape.length := by simpa using within
        simp only [List.insertIdx_succ_cons, List.eraseIdx_cons_succ, cons_mem_indices,
          List.getD_cons_succ, induction smaller]
        tauto

theorem displacement_insertIdx {axes : List Axis} {index : List Nat} {axis : Nat}
    (position : Nat) (within : axis < axes.length) (reaches : axis ≤ index.length) :
    displacement axes (index.insertIdx axis position) =
      position * (axes.getD axis ⟨1, 0⟩).stride + displacement (axes.eraseIdx axis) index := by
  induction axis generalizing axes index with
  | zero =>
    cases axes with
    | nil => simp at within
    | cons head axes => simp [displacement]
  | succ axis induction =>
    cases axes with
    | nil => simp at within
    | cons head axes =>
      cases index with
      | nil => simp at reaches
      | cons first index =>
        have smaller : axis < axes.length := by simpa using within
        have nearer : axis ≤ index.length := by simpa using reaches
        simp only [List.insertIdx_succ_cons, List.eraseIdx_cons_succ, displacement,
          List.getD_cons_succ, induction smaller nearer]
        omega

end StridedReduction

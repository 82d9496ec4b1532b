import StridedReduction.Proofs.Traversal
import StridedReduction.View.Addressing

/-!
# Stretched views

A view that is stretched to a shape shows, at every index of the shape, the cell of an index of its
own: positions along missing axes are dropped and those along an axis of one position become the
first one (`cell_of_broadcast`).  Which shapes a view stretches to depends on its own shape alone,
and so does the index that is shown.
-/

namespace StridedReduction

theorem exists_append_of_mem_indices_append {front back index : List Nat}
    (member : index ∈ indices (front ++ back)) :
    ∃ left ∈ indices front, ∃ right ∈ indices back, index = left ++ right := by
  induction front generalizing index with
  | nil => exact ⟨[], by simp, index, member, rfl⟩
  | cons extent front induction =>
    cases index with
    | nil => simp at member
    | cons position index =>
      rw [List.cons_append, cons_mem_indices] at member
      obtain ⟨below, rest_member⟩ := member
      obtain ⟨left, left_mem, right, right_mem, rfl⟩ := induction rest_member
      exact ⟨position :: left, cons_mem_indices.mpr ⟨below, left_mem⟩, right, right_mem, rfl⟩

theorem extents_still (shape : List Nat) :
    (shape.map fun extent => (⟨extent, 0⟩ : Axis)).map Axis.extent = shape := by
  rw [List.map_map]
  exact List.map_id shape

/-- Axes that stay in place add nothing. -/
theorem displacement_still_append (shape : List Nat) (axes : List Axis) {left right : List Nat}
    (reaches : left.length = shape.length) :
    displacement (shape.map (⟨·, 0⟩) ++ axes) (left ++ right) = displacement axes right := by
  induction shape generalizing left with
  | nil =>
    rw [List.length_nil, List.length_eq_zero_iff] at reaches
    simp [reaches]
  | cons extent shape induction =>
    cases left with
    | nil => simp at reaches
    | cons position left =>
      simp [displacement, induction (by simpa using reaches)]

namespace View

/-- The index whose positions along axes of one position are the first ones. -/
def collapse (extents index : List Nat) : List Nat :=
  List.zipWith (fun extent position => if extent = 1 then 0 else position) extents index

/-- How axes stretch to a shape: those of its extents are kept, and those of one position are
repeated. -/
inductive Stretched : List Nat → List Axis → List Axis → Prop
  | nil : Stretched [] [] []
  | kept {shape : List Nat} {axis : Axis} {axes stretched : List Axis}
      (rest : Stretched shape axes stretched) :
      Stretched (axis.extent :: shape) (axis :: axes) (axis :: stretched)
  | repeated {extent : Nat} {shape : List Nat} {axis : Axis} {axes stretched : List Axis}
      (single : axis.extent = 1) (rest : Stretched shape axes stretched) :
      Stretched (extent :: shape) (axis :: axes) (⟨extent, 0⟩ :: stretched)

theorem stretched_of_stretch {shape : List Nat} {axes stretched : List Axis}
    (fits : stretch shape axes = some stretched) : Stretched shape axes stretched := by
  induction shape generalizing axes stretched with
  | nil =>
    cases axes with
    | nil =>
      cases fits
      exact .nil
    | cons axis axes => cases fits
  | cons extent shape induction =>
    cases axes with
    | nil => cases fits
    | cons axis axes =>
      obtain ⟨rest, rest_fits, head_fits⟩ := Option.bind_eq_some_iff.mp fits
      have rest_stretched := induction rest_fits
      split at head_fits
      case isTrue same =>
        cases head_fits
        exact same ▸ .kept rest_stretched
      case isFalse =>
        split at head_fits
        case isTrue single =>
          cases head_fits
          exact .repeated single rest_stretched
        case isFalse => cases head_fits

namespace Stretched

variable {shape : List Nat} {axes stretched : List Axis}

theorem extents_eq (stretches : Stretched shape axes stretched) :
    stretched.map Axis.extent = shape := by
  induction stretches with
  | nil => rfl
  | kept rest induction => rw [List.map_cons, induction]
  | repeated single rest induction => rw [List.map_cons, induction]

/-- A stretched axis is either walked as before or not at all. -/
theorem displacement_eq (stretches : Stretched shape axes stretched) {index : List Nat}
    (member : index ∈ indices shape) :
    collapse (axes.map Axis.extent) index ∈ indices (axes.map Axis.extent) ∧
      displacement stretched index = displacement axes (collapse (axes.map Axis.extent) index) := by
  induction stretches generalizing index with
  | nil => simp [collapse, displacement]
  | @kept shape axis axes stretched rest induction =>
    cases index with
    | nil => simp at member
    | cons position index =>
      obtain ⟨below, rest_member⟩ := cons_mem_indices.mp member
      obtain ⟨source_mem, displaced⟩ := induction rest_member
      have unfolded : collapse ((axis :: axes).map Axis.extent) (position :: index) =
          (if axis.extent = 1 then 0 else position) :: collapse (axes.map Axis.extent) index := rfl
      have same_position : (if axis.extent = 1 then 0 else position) = position := by
        split <;> omega
      rw [unfolded, same_position, displacement, displacement, displaced]
      exact ⟨cons_mem_indices.mpr ⟨below, source_mem⟩, rfl⟩
  | @repeated extent shape axis axes stretched single rest induction =>
    cases index with
    | nil => simp at member
    | cons position index =>
      obtain ⟨source_mem, displaced⟩ := induction (cons_mem_indices.mp member).2
      have unfolded : collapse ((axis :: axes).map Axis.extent) (position :: index) =
          0 :: collapse (axes.map Axis.extent) index := by
        simp [collapse, single]
      rw [unfolded, displacement, displacement, displaced]
      exact ⟨cons_mem_indices.mpr ⟨by omega, source_mem⟩, by simp⟩

end Stretched

theorem stretch_eq_none_iff {shape : List Nat} {axes others : List Axis}
    (same : axes.map Axis.extent = others.map Axis.extent) :
    stretch shape axes = none ↔ stretch shape others = none := by
  induction shape generalizing axes others with
  | nil =>
    cases axes with
    | nil =>
      rw [List.map_nil, eq_comm, List.map_eq_nil_iff] at same
      rw [same]
    | cons axis axes =>
      cases others with
      | nil => cases same
      | cons other others => exact Iff.rfl
  | cons extent shape induction =>
    cases axes with
    | nil =>
      rw [List.map_nil, eq_comm, List.map_eq_nil_iff] at same
      rw [same]
    | cons axis axes =>
      cases others with
      | nil => cases same
      | cons other others =>
        obtain ⟨head_same, rest_same⟩ := List.cons.inj same
        have rest_iff := induction rest_same
        rw [stretch, stretch]
        cases left : stretch shape axes with
        | none => simp [rest_iff.mp left]
        | some stretched =>
          cases right : stretch shape others with
          | none => simp [rest_iff.mpr right] at left
          | some others_stretched =>
            simp only [Option.bind_some, head_same]
            split
            · simp
            · split <;> simp

variable {v w : View} {shape : List Nat}

theorem broadcast_eq_none_iff (same : v.shape = w.shape) :
    v.broadcast shape = none ↔ w.broadcast shape = none := by
  rw [broadcast, broadcast, Option.map_eq_none_iff, Option.map_eq_none_iff,
    rank_eq_of_shape_eq same]
  exact stretch_eq_none_iff same

theorem shape_of_broadcast (fits : v.broadcast shape = some w) : w.shape = shape := by
  obtain ⟨stretched, stretches, rfl⟩ := Option.map_eq_some_iff.mp fits
  have extents_eq := (stretched_of_stretch stretches).extents_eq
  rw [View.shape, List.map_append, extents_still, extents_eq, List.take_append_drop]

/-- A stretched view shows the cell of the index that the collapsed positions along its own axes
make up. -/
theorem cell_of_broadcast (fits : v.broadcast shape = some w) {index : List Nat}
    (member : index ∈ indices shape) :
    let source := collapse v.shape (index.drop (shape.length - v.rank))
    source ∈ indices v.shape ∧ w.cell index = v.cell source := by
  obtain ⟨stretched, stretches, rfl⟩ := Option.map_eq_some_iff.mp fits
  generalize missing_eq : shape.length - v.rank = missing at stretches ⊢
  rw [← List.take_append_drop missing shape] at member
  obtain ⟨left, left_mem, right, right_mem, rfl⟩ := exists_append_of_mem_indices_append member
  have left_length := length_of_mem_indices left_mem
  have dropped : (left ++ right).drop missing = right := by
    have cut : left.length = missing := by
      rw [left_length, List.length_take]
      omega
    rw [← cut, List.drop_left]
  obtain ⟨source_mem, displaced⟩ := (stretched_of_stretch stretches).displacement_eq right_mem
  intro source
  have source_eq : source = collapse (v.axes.map Axis.extent) right :=
    congrArg (collapse v.shape) dropped
  refine ⟨source_eq ▸ source_mem, ?_⟩
  rw [cell, cell, displacement_still_append _ _ left_length, displaced, source_eq]

end View

end StridedReduction

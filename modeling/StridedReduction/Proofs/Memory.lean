import StridedReduction.Proofs.Buffer

/-!
# Memory

Buffers that are allocated one after the other, each with its position as its number, and views that
are placed in them.  An operation on the elements of two arrays finds at each position what the
positions before it have left.  As long as it reads no cell that it has written already, its result
is that of the two arrays as they were at the start (`load_combine`).
-/

namespace StridedReduction

variable {α : Type}

/-- The buffers that have been allocated, each with its position as its number. -/
structure Memory (α : Type) where
  /-- The buffers, the oldest one first. -/
  buffers : Array (Array α)

/-- A view of a numbered buffer. -/
structure Placed where
  /-- The number of the buffer. -/
  buffer : Nat
  /-- The logical array over its cells. -/
  view : View

namespace Placed

/-- The slice of an axis, in the same buffer. -/
def slice (p : Placed) (axis : Nat) (s : Slice) : Placed :=
  { p with view := p.view.slice axis s }

/-- The cell that an index addresses, with the number of its buffer. -/
def cell (p : Placed) (index : List Nat) : Nat × Int :=
  (p.buffer, p.view.cell index)

/-- The cells that are addressed, each with the number of its buffer. -/
def footprint (p : Placed) : Set (Nat × Int) :=
  Prod.mk p.buffer '' p.view.footprint

theorem footprint_inter_eq_empty {p q : Placed} (apart : p.buffer ≠ q.buffer) :
    p.footprint ∩ q.footprint = ∅ := by
  rw [Set.eq_empty_iff_forall_notMem]
  rintro _ ⟨⟨cell, -, rfl⟩, ⟨other, -, same⟩⟩
  exact apart (congrArg Prod.fst same).symm

/-- Whether no position of an operand is read after its cell was written, where an operation goes
from position to position and reads before it writes. -/
def ReadsAhead (operand out : Placed) (positions : List (List Nat)) : Prop :=
  positions.Pairwise fun earlier later => operand.cell later ≠ out.cell earlier

theorem readsAhead_of_ne {operand out : Placed} (apart : operand.buffer ≠ out.buffer)
    (positions : List (List Nat)) : operand.ReadsAhead out positions :=
  List.pairwise_of_forall fun _ _ same => apart (congrArg Prod.fst same)

/-- An array without repeated cells can be changed in place. -/
theorem readsAhead_self {p : Placed} (separate : p.view.Injective) :
    p.ReadsAhead p (indices p.view.shape) := by
  rw [View.injective_iff_nodup, View.cells_eq_map_cell, List.Nodup, List.pairwise_map] at separate
  exact separate.imp fun different same => different (congrArg Prod.snd same).symm

theorem readsAhead_of_disjoint {operand out : Placed}
    (shape_eq : operand.view.shape = out.view.shape)
    (disjoint : operand.view.cells.Disjoint out.view.cells) :
    operand.ReadsAhead out (indices out.view.shape) := by
  apply List.pairwise_of_forall_mem_list
  intro earlier earlier_mem later later_mem same
  have read : operand.view.cell later ∈ operand.view.cells := by
    rw [View.cells_eq_map_cell, shape_eq]
    exact List.mem_map_of_mem later_mem
  have written : out.view.cell earlier ∈ out.view.cells := by
    rw [View.cells_eq_map_cell]
    exact List.mem_map_of_mem earlier_mem
  have same_cell : operand.view.cell later = out.view.cell earlier := congrArg Prod.snd same
  exact disjoint read (same_cell ▸ written)

end Placed

namespace Memory

/-- The number of buffers, which is the number of the next one. -/
def size (memory : Memory α) : Nat :=
  memory.buffers.size

/-- The buffer of a number; what has not been allocated is empty. -/
def buffer (memory : Memory α) (number : Nat) : Array α :=
  memory.buffers.getD number #[]

/-- The array that is in memory at a place. -/
def load (memory : Memory α) (p : Placed) : Strided α :=
  ⟨memory.buffer p.buffer, p.view⟩

/-- The memory with one more buffer. -/
def allocate (memory : Memory α) (buffer : Array α) : Memory α :=
  ⟨memory.buffers.push buffer⟩

/-- The memory with one cell of one buffer changed. -/
def write (memory : Memory α) (number : Nat) (cell : Int) (x : α) : Memory α :=
  ⟨memory.buffers.modify number (writeCell · cell x)⟩

@[simp] theorem size_allocate (memory : Memory α) (buffer : Array α) :
    (memory.allocate buffer).size = memory.size + 1 :=
  Array.size_push buffer

theorem buffer_allocate_self (memory : Memory α) (buffer : Array α) :
    (memory.allocate buffer).buffer memory.size = buffer := by
  simp [Memory.buffer, allocate, size, Array.getD_eq_getD_getElem?]

theorem buffer_allocate_of_lt {memory : Memory α} {number : Nat} (older : number < memory.size)
    (buffer : Array α) : (memory.allocate buffer).buffer number = memory.buffer number := by
  rw [Memory.buffer, Array.getD_eq_getD_getElem?, allocate, Array.getElem?_push_lt older,
    Memory.buffer, Array.getD_eq_getD_getElem?, Array.getElem?_eq_getElem older]

theorem load_allocate (memory : Memory α) (a : Strided α) :
    (memory.allocate a.buffer).load ⟨memory.size, a.view⟩ = a := by
  rw [load, buffer_allocate_self]

theorem buffer_write_of_ne {number written : Nat} (other : number ≠ written)
    (memory : Memory α) (cell : Int) (x : α) :
    (memory.write written cell x).buffer number = memory.buffer number := by
  rw [Memory.buffer, Array.getD_eq_getD_getElem?, write, Array.getElem?_modify,
    if_neg (Ne.symm other), ← Array.getD_eq_getD_getElem?, Memory.buffer]

theorem buffer_write_self (memory : Memory α) (number : Nat) (cell : Int) (x : α) :
    (memory.write number cell x).buffer number = writeCell (memory.buffer number) cell x := by
  rw [Memory.buffer, Array.getD_eq_getD_getElem?, write, Array.getElem?_modify, if_pos rfl,
    Memory.buffer, Array.getD_eq_getD_getElem?]
  cases memory.buffers[number]? with
  | some buffer => rfl
  | none => simp [writeCell]

variable [Inhabited α]

theorem get_load_write_of_ne {p q : Placed} {index written : List Nat}
    (other : p.cell index ≠ q.cell written) (memory : Memory α) (x : α) :
    ((memory.write q.buffer (q.view.cell written) x).load p).get index =
      (memory.load p).get index := by
  by_cases same_buffer : p.buffer = q.buffer
  · have other_cell : q.view.cell written ≠ p.view.cell index :=
      fun same => other (Prod.ext same_buffer same.symm)
    simp only [load, Strided.get, same_buffer, buffer_write_self]
    exact readCell_writeCell_of_ne _ other_cell x
  · rw [load, buffer_write_of_ne same_buffer, load]

/-- One position of an operation on two arrays: the operands are read from memory as it is, and the
result is written to a third array. -/
def combineAt (op : α → α → α) (left right out : Placed) (memory : Memory α) (index : List Nat) :
    Memory α :=
  memory.write out.buffer (out.view.cell index)
    (op ((memory.load left).get index) ((memory.load right).get index))

/-- An operation on the elements of two arrays that is written to a third one position after the
other. -/
def combine (op : α → α → α) (left right out : Placed) (memory : Memory α) : Memory α :=
  (indices out.view.shape).foldl (combineAt op left right out) memory

variable {op : α → α → α} {left right out : Placed}

theorem buffer_combine_of_ne {number : Nat} (other : number ≠ out.buffer) (memory : Memory α) :
    (memory.combine op left right out).buffer number = memory.buffer number := by
  rw [combine]
  induction indices out.view.shape generalizing memory with
  | nil => rfl
  | cons index positions induction =>
    rw [List.foldl_cons, induction, combineAt, buffer_write_of_ne other]

theorem load_combine_of_ne {p : Placed} (other : p.buffer ≠ out.buffer) (memory : Memory α) :
    (memory.combine op left right out).load p = memory.load p := by
  rw [load, buffer_combine_of_ne other, load]

theorem buffer_foldl_combineAt {positions : List (List Nat)}
    (left_ahead : left.ReadsAhead out positions) (right_ahead : right.ReadsAhead out positions)
    (memory : Memory α) :
    (positions.foldl (combineAt op left right out) memory).buffer out.buffer =
      writeCells (memory.buffer out.buffer) (positions.map out.view.cell)
        (positions.map fun index =>
          op ((memory.load left).get index) ((memory.load right).get index)) := by
  -- For every memory, since a position finds what the positions before it have left.
  induction positions generalizing memory with
  | nil => rfl
  | cons index positions induction =>
    obtain ⟨left_first, left_rest⟩ := List.pairwise_cons.mp left_ahead
    obtain ⟨right_first, right_rest⟩ := List.pairwise_cons.mp right_ahead
    let x := op ((memory.load left).get index) ((memory.load right).get index)
    have unread : (positions.map fun later =>
          op (((memory.combineAt op left right out index).load left).get later)
            (((memory.combineAt op left right out index).load right).get later)) =
        positions.map fun later =>
          op ((memory.load left).get later) ((memory.load right).get later) := by
      apply List.map_congr_left
      intro later member
      exact congrArg₂ op (get_load_write_of_ne (left_first later member) memory x)
        (get_load_write_of_ne (right_first later member) memory x)
    rw [List.foldl_cons, induction left_rest right_rest, unread, combineAt, buffer_write_self,
      List.map_cons, List.map_cons, writeCells]

/-- Where both operands are read ahead of what is written, they are at every position what they were
before the first one. -/
theorem load_combine (left_ahead : left.ReadsAhead out (indices out.view.shape))
    (right_ahead : right.ReadsAhead out (indices out.view.shape)) (memory : Memory α) :
    (memory.combine op left right out).load out =
      (memory.load out).assign ((indices out.view.shape).map fun index =>
        op ((memory.load left).get index) ((memory.load right).get index)) := by
  rw [load, combine, buffer_foldl_combineAt left_ahead right_ahead, ← View.cells_eq_map_cell]
  rfl

end Memory

end StridedReduction

import Mathlib.Data.List.Basic

/-!
# Checked access to arrays

An access names the cells it touches and the size of its array. One that leaves
its array is a fault and ends the computation. A span is what a pointer and a
length hand to a callee, and a buffer is an array filled from its start behind a
cursor.
-/

set_option autoImplicit false

namespace Arrays

variable {α : Type}

/-- An access to `count` cells from `index` on that leaves an array of `size` cells. -/
structure Fault where
  index : ℕ
  count : ℕ
  size : ℕ
  deriving DecidableEq, Repr

abbrev Checked (α : Type) := Except Fault α

def touch (index count size : ℕ) : Checked Unit :=
  if index+count ≤ size then .ok () else .error ⟨index,count,size⟩

def read (cells : List α) (index : ℕ) : Checked α :=
  match cells[index]? with
  | some a => .ok a
  | none => .error ⟨index,1,cells.length⟩

def slice (cells : List α) (index count : ℕ) : Checked (List α) := do
  touch index count cells.length
  return (cells.drop index).take count

def write (cells : List α) (index : ℕ) (a : α) : Checked (List α) := do
  touch index 1 cells.length
  return cells.set index a

theorem ok_bind {β : Type} (a : α) (f : α → Checked β) : (Except.ok a >>= f) = f a := rfl

/-- An access returns just when it stays inside its array. -/
theorem touch_ok_iff {index count size : ℕ} :
    touch index count size = .ok () ↔ index+count ≤ size := by
  unfold touch
  by_cases h : index+count ≤ size
  · rw [if_pos h]
    exact ⟨fun _ => h,fun _ => rfl⟩
  · rw [if_neg h]
    exact ⟨nofun,fun hinside => absurd hinside h⟩

theorem touch_inside {index count size : ℕ} (h : index+count ≤ size) :
    touch index count size = .ok () := touch_ok_iff.mpr h

theorem read_inside {cells : List α} {index : ℕ} (h : index < cells.length) (a : α) :
    read cells index = .ok (cells.getD index a) := by
  rw [read, List.getD_eq_getElem?_getD, List.getElem?_eq_getElem h]
  rfl

example : read [1,2] 2 = .error ⟨2,1,2⟩ := rfl

theorem read_drop {cells rest : List α} {index : ℕ} {a : α} (h : cells.drop index = a::rest) :
    read cells index = .ok a := by
  have hget : cells[index]? = some a := by
    rw [← List.head?_drop, h]
    rfl
  rw [read, hget]

theorem slice_inside {cells : List α} {index count : ℕ} (h : index+count ≤ cells.length) :
    slice cells index count = .ok ((cells.drop index).take count) := by
  rw [slice, touch_inside h]
  rfl

theorem write_inside {cells : List α} {index : ℕ} (h : index < cells.length) (a : α) :
    write cells index a = .ok (cells.set index a) := by
  rw [write, touch_inside h]
  rfl

structure Span (α : Type) where
  cells : List α
  offset : ℕ
  length : ℕ

namespace Span

/-- The cells a span names are cells of its array. -/
def Inside (span : Span α) : Prop := span.offset+span.length ≤ span.cells.length

def content (span : Span α) : List α := (span.cells.drop span.offset).take span.length

def read (span : Span α) (index : ℕ) : Checked α := Arrays.read span.cells (span.offset+index)

/-- A copy of the whole span to the start of an array of `size` cells. -/
def copyTo (span : Span α) (size : ℕ) : Checked (List α) := do
  touch 0 span.length size
  slice span.cells span.offset span.length

theorem content_length {span : Span α} (h : span.Inside) : span.content.length = span.length := by
  unfold Inside at h
  rw [content, List.length_take, List.length_drop]
  omega

theorem read_inside {span : Span α} (h : span.Inside) {index : ℕ} (hi : index < span.length)
    (a : α) : span.read index = .ok (span.content.getD index a) := by
  unfold Inside at h
  have hcontent : span.content.getD index a = span.cells.getD (span.offset+index) a := by
    rw [List.getD_eq_getElem?_getD, List.getD_eq_getElem?_getD, content,
      List.getElem?_take_of_lt hi, List.getElem?_drop]
  rw [hcontent]
  exact Arrays.read_inside (by omega) a

theorem copyTo_inside {span : Span α} (h : span.Inside) {size : ℕ} (hsize : span.length ≤ size) :
    span.copyTo size = .ok span.content := by
  rw [copyTo, touch_inside (by omega)]
  exact slice_inside h

end Span

structure Buffer (α : Type) where
  cells : List α
  cursor : ℕ

namespace Buffer

def put (buffer : Buffer α) (index : ℕ) (a : α) : Checked (Buffer α) := do
  let cells ← write buffer.cells index a
  return { buffer with cells := cells }

def push (buffer : Buffer α) (a : α) : Checked (Buffer α) := do
  let cells ← write buffer.cells buffer.cursor a
  return ⟨cells,buffer.cursor+1⟩

def pushAll : Buffer α → List α → Checked (Buffer α)
  | buffer, [] => .ok buffer
  | buffer, a::rest => do
    let buffer ← buffer.push a
    buffer.pushAll rest

def filled (buffer : Buffer α) : List α := buffer.cells.take buffer.cursor

/-- The array of `size` cells that holds the items and is blank behind them. -/
def holding (size : ℕ) (blank : α) (items : List α) : Buffer α :=
  ⟨items ++ List.replicate (size-items.length) blank,items.length⟩

variable {size : ℕ} {blank : α} {items : List α}

@[simp] theorem holding_cursor : (holding size blank items).cursor = items.length := rfl

@[simp] theorem holding_filled : (holding size blank items).filled = items := by
  rw [filled, holding, List.take_left]

theorem holding_size (h : items.length ≤ size) :
    (holding size blank items).cells.length = size := by
  rw [holding, List.length_append, List.length_replicate]
  omega

theorem holding_push (a : α) (h : items.length < size) :
    (holding size blank items).push a = .ok (holding size blank (items ++ [a])) := by
  have hinside : (holding size blank items).cursor < (holding size blank items).cells.length := by
    rw [holding_size (by omega)]
    exact h
  have hroom : size-items.length = size-(items ++ [a]).length+1 := by
    rw [List.length_append, List.length_singleton]
    omega
  rw [push, write_inside hinside, ok_bind, holding_cursor]
  simp [holding, hroom, List.replicate_succ, pure, Except.pure]

theorem holding_pushAll (more : List α) (h : items.length+more.length ≤ size) :
    (holding size blank items).pushAll more = .ok (holding size blank (items ++ more)) := by
  induction more generalizing items with
  | nil =>
    rw [List.append_nil]
    rfl
  | cons a more ih =>
    rw [List.length_cons] at h
    rw [pushAll, holding_push a (by omega), ok_bind, ih, List.append_assoc]
    · rfl
    · rw [List.length_append, List.length_singleton]
      omega

theorem holding_put {index : ℕ} (a : α) (hindex : index < items.length)
    (h : items.length ≤ size) :
    (holding size blank items).put index a = .ok (holding size blank (items.set index a)) := by
  rw [put, write_inside (by rw [holding_size h]; omega), ok_bind]
  simp [holding, List.set_append_left _ _ hindex, pure, Except.pure]

end Buffer

end Arrays

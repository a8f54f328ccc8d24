/-
# `Column` — a named column as a window onto stored cells

A column shows `length` cells of a longer run of stored cells, beginning at
`start`; taking a slice moves the window and copies nothing.  What a column
means is its `cells`.  The stored cells outside the window matter twice: the
bitmaps of a stored slice may carry bits beyond it, and `memory`, the space
the column's buffers occupy, counts them all.
-/
import Columnar.DataType

namespace Columnar

/-- Bytes of a bitmap with `n` bits. -/
def bitmapBytes (n : Nat) : Nat := (n + 7) / 8

namespace DataType

open Number

/-- Some cell is NULL. -/
def anyNull {α : Type} (cells : Array (Option α)) : Bool := cells.any Option.isNone

/-- Some item of some list is NULL. -/
def anyNullItem {n : Nat} (cells : Array (Option (Vector (Option (Binary .single)) n))) : Bool :=
  cells.any fun c => c.any fun v => anyNull v.toArray

/-- Bytes of text or binary cells. -/
def contentBytes {α : Type} (size : α → Nat) (cells : Array (Option α)) : Nat :=
  cells.foldl (fun n c => n + (c.map size).getD 0) 0

/-- Bytes of the buffers that hold the values of the cells. -/
def valueBytes : (t : DataType) → Array (Option t.Value) → Nat
  | int _ w, cells => cells.size * w.bytes
  | float p, cells => cells.size * (p.width / 8)
  | text large, cells =>
    (cells.size + 1) * (if large then 8 else 4) + contentBytes String.utf8ByteSize cells
  | bool, cells => bitmapBytes cells.size
  | date, cells => cells.size * 4
  | binary, cells => (cells.size + 1) * 4 + contentBytes (fun b : Bytes => b.length) cells
  | vector n, cells =>
    cells.size * n.val * 4 + if anyNullItem cells then bitmapBytes (cells.size * n.val) else 0

/-- Bytes of all buffers of the cells, the bitmap of a column with NULLs included. -/
def footprint (t : DataType) (cells : Array (Option t.Value)) : Nat :=
  (if anyNull cells then bitmapBytes cells.size else 0) + valueBytes t cells

end DataType

/-- A named column. -/
structure Column where
  name : String
  nullable : Bool
  type : DataType
  whole : Array (Option type.Value)
  start : Nat
  length : Nat
  inside : start + length ≤ whole.size
  /-- Bytes that the buffers of the stored cells occupy. -/
  memory : Nat

namespace Column

/-- The column's entry in a schema. -/
def field (c : Column) : Field := ⟨c.name, c.type, c.nullable⟩

/-- The cells the column shows. -/
def cells (c : Column) : List (Option c.type.Value) :=
  (c.whole.extract c.start (c.start + c.length)).toList

/-- The cell of one row. -/
def cell (c : Column) (i : Fin c.length) : Option c.type.Value :=
  have := c.inside
  c.whole[c.start + i.val]

/-- A column that shows all of its cells. -/
def ofCells (name : String) (nullable : Bool) (type : DataType)
    (cells : Array (Option type.Value)) : Column where
  name := name
  nullable := nullable
  type := type
  whole := cells
  start := 0
  length := cells.size
  inside := by simp
  memory := type.footprint cells

/-- The column with its memory counted otherwise. -/
def withMemory (c : Column) (memory : Nat) : Column := { c with memory := memory }

/-- Rows `offset` to `offset + length`, cut to what there is; nothing is copied. -/
abbrev slice (c : Column) (offset length : Nat) : Column where
  name := c.name
  nullable := c.nullable
  type := c.type
  whole := c.whole
  start := c.start + min offset c.length
  length := min length (c.length - offset)
  inside := by have := c.inside; omega
  memory := c.memory

/-- The cells of the rows listed, as a column of its own. -/
def gather (c : Column) (rows : List (Fin c.length)) : Column :=
  ofCells c.name c.nullable c.type (rows.map c.cell).toArray

/-- A column that may not hold NULL holds none. -/
def sound (c : Column) : Bool := c.nullable || c.cells.all Option.isSome

/-! ## Lemmas -/

theorem length_cells (c : Column) : c.cells.length = c.length := by
  have := c.inside
  simp only [cells, Array.length_toList, Array.size_extract]
  omega

theorem cell_mem_cells (c : Column) (i : Fin c.length) : c.cell i ∈ c.cells := by
  have h := c.inside
  rw [cells, Array.mem_toList_iff, Array.mem_iff_getElem]
  refine ⟨i.val, by simp only [Array.size_extract]; omega, ?_⟩
  simp [cell]

theorem cells_ofCells (name : String) (nullable : Bool) (type : DataType)
    (cells : Array (Option type.Value)) :
    (ofCells name nullable type cells).cells = cells.toList := by
  simp [ofCells, Column.cells]

theorem sound_ofCells (name : String) (nullable : Bool) (type : DataType)
    (cells : Array (Option type.Value)) :
    (ofCells name nullable type cells).sound = (nullable || cells.toList.all Option.isSome) := by
  rw [sound, cells_ofCells]; rfl

theorem sound_withMemory (c : Column) (memory : Nat) : (c.withMemory memory).sound = c.sound := rfl

theorem length_withMemory (c : Column) (memory : Nat) :
    (c.withMemory memory).length = c.length := rfl

theorem sound_gather (c : Column) (rows : List (Fin c.length)) (h : c.sound = true) :
    (c.gather rows).sound = true := by
  rw [gather, sound_ofCells]
  simp only [sound, Bool.or_eq_true] at h ⊢
  refine h.imp id fun h => ?_
  rw [List.all_eq_true] at h ⊢
  intro v hv
  obtain ⟨i, _, rfl⟩ := List.mem_map.1 (by simpa using hv)
  exact h _ (c.cell_mem_cells i)

theorem cells_slice (c : Column) (offset length : Nat) :
    (c.slice offset length).cells = (c.cells.drop offset).take length := by
  have hi := c.inside
  apply List.ext_getElem
  · simp only [cells, Array.length_toList, Array.size_extract, List.length_take, List.length_drop]
    omega
  · intro i h₁ h₂
    simp only [cells, Array.length_toList, Array.size_extract, List.length_take,
      List.length_drop] at h₁ h₂
    have : min offset c.length = offset := by omega
    simp [cells, this, Nat.add_assoc]

theorem sound_slice (c : Column) (offset length : Nat) (h : c.sound = true) :
    (c.slice offset length).sound = true := by
  have hc := c.cells_slice offset length
  simp only [sound, Bool.or_eq_true] at h ⊢
  refine h.imp id fun h => ?_
  rw [hc]
  rw [List.all_eq_true] at h ⊢
  intro v hv
  exact h v (List.mem_of_mem_drop (List.mem_of_mem_take hv))

end Column

end Columnar

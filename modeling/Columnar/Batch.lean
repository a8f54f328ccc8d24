/-
# `Batch` — a table held in memory

A batch is a list of columns of one length.  Filters select from it, and
snapshots store it.  Every operation is said row by row: `gather` is the
batch of the rows listed, `select` keeps the rows a mask marks.
-/
import Columnar.Column

namespace Columnar

/-- Columns of one length; those that may not hold NULL hold none. -/
structure Batch where
  rows : Nat
  columns : List Column
  aligned : ∀ c ∈ columns, c.length = rows
  sound : ∀ c ∈ columns, c.sound = true

namespace Batch

/-- The schema of the batch. -/
def schema (b : Batch) : Schema := b.columns.map Column.field

/-- The column a name means: the first of that name. -/
def find? (b : Batch) (name : String) : Option Column := b.columns.find? (·.name = name)

/-- The columns as a batch, if they are all `rows` long and hold NULL only where they may. -/
def ofColumns? (rows : Nat) (columns : List Column) : Option Batch :=
  if h : (∀ c ∈ columns, c.length = rows) ∧ ∀ c ∈ columns, c.sound = true then
    some ⟨rows, columns, h.1, h.2⟩
  else none

/-- The batch without rows. -/
def empty (s : Schema) : Batch where
  rows := 0
  columns := s.map fun f => Column.ofCells f.name f.nullable f.type #[]
  aligned := by simp [Column.ofCells]
  sound := by simp [Column.sound_ofCells]

/-! ## Choosing rows -/

/-- Rows `offset` to `offset + length`, cut to what there is. -/
def slice (b : Batch) (offset length : Nat) : Batch where
  rows := min length (b.rows - offset)
  columns := b.columns.map fun c => c.slice offset length
  aligned := by
    intro c hc
    obtain ⟨d, hd, rfl⟩ := List.mem_map.1 hc
    simp [b.aligned d hd]
  sound := by
    intro c hc
    obtain ⟨d, hd, rfl⟩ := List.mem_map.1 hc
    exact d.sound_slice offset length (b.sound d hd)

/-- The rows listed, in the order listed. -/
def gather (b : Batch) (rows : List (Fin b.rows)) : Batch where
  rows := rows.length
  columns := b.columns.attach.map fun ⟨c, hc⟩ =>
    c.gather (rows.map (Fin.cast (b.aligned c hc).symm))
  aligned := by
    intro c hc
    obtain ⟨⟨d, hd⟩, _, rfl⟩ := List.mem_map.1 hc
    simp [Column.gather, Column.ofCells]
  sound := by
    intro c hc
    obtain ⟨⟨d, hd⟩, _, rfl⟩ := List.mem_map.1 hc
    exact d.sound_gather _ (b.sound d hd)

/-- The rows whose entry in the mask is true. -/
def select (b : Batch) (mask : List Bool) : Batch :=
  let marks := mask.toArray
  b.gather ((List.finRange b.rows).filter fun i => marks.getD i.val false)

/-! ## Putting batches together -/

/-- The cells of a column that has the field's type. -/
def cellsOf? (f : Field) (c : Column) : Option (List (Option f.type.Value)) :=
  if h : c.type = f.type then some (h ▸ c.cells) else none

/-- The cells of the columns one below the other, under one field. -/
def stack? (f : Field) (columns : List Column) : Option Column :=
  (columns.mapM (cellsOf? f)).map fun parts =>
    Column.ofCells f.name f.nullable f.type parts.flatten.toArray

/-- The rows of the batches one below the other, under one schema; `none` if a batch does not
have the schema's columns. -/
def concat? (s : Schema) (parts : List Batch) : Option Batch :=
  let columns := s.zipIdx.mapM fun (f, j) =>
    (parts.mapM fun (b : Batch) => b.columns[j]?).bind (stack? f)
  columns.bind (ofColumns? (parts.map Batch.rows).sum)

end Batch

end Columnar

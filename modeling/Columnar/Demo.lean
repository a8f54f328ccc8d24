/-
# `Demo` — a table to try things with

A table of any number of rows with a number, a label that every tenth row
lacks, and a score.
-/
import Columnar.Batch

namespace Columnar.Demo

open Number

/-! ## Cells -/

/-- The label of a row. -/
def label (row : Nat) : Option String :=
  if row % 10 = 0 then none else some ("item-" ++ toString (row % 1000))

/-- The score of a row, in tenths. -/
def score (row : Nat) : Binary .double := Binary.ofRatio false (row % 997) 10

/-! ## Memory

Labels are gathered row by row in a buffer that grows as they come. -/

def roundUp (unit n : Nat) : Nat := n + Bytes.gap unit n

/-- The room of the buffer of labels after one more label: room, and bytes in use. -/
def grow (room used : Nat) (s : Option String) : Nat × Nat :=
  let needed := used + (s.map String.utf8ByteSize).getD 0
  (if needed ≤ room then room else max (2 * room) (roundUp 64 needed), needed)

/-- Bytes that the buffers of the labels occupy. -/
def labelMemory (rows : Nat) : Nat :=
  let room := ((List.range rows).foldl (fun (room, used) i => grow room used (label i)) (1024, 0)).1
  room + roundUp 64 (4 * (rows + 1)) + if rows = 0 then 0 else roundUp 64 (bitmapBytes rows)

/-! ## The table -/

/-- The cells of a column, row by row. -/
def cells {α : Type} (rows : Nat) (cell : Nat → Option α) : Array (Option α) :=
  (Array.range rows).map cell

def ids (rows : Nat) : Column :=
  (Column.ofCells "id" false (.int true .w64)
    (cells rows fun i => some (BitVec.ofNat 64 i))).withMemory (8 * rows)

def labels (rows : Nat) : Column :=
  (Column.ofCells "label" true (.text false) (cells rows label)).withMemory (labelMemory rows)

def scores (rows : Nat) : Column :=
  (Column.ofCells "score" true (.float .double)
    (cells rows fun i => some (score i))).withMemory (8 * rows)

theorem size_cells {α : Type} (rows : Nat) (cell : Nat → Option α) :
    (cells rows cell).size = rows := by
  simp [cells]

theorem all_isSome_cells {α : Type} (rows : Nat) (value : Nat → α) :
    (cells rows fun i => some (value i)).toList.all Option.isSome = true := by
  simp [cells]

/-- The table, of any number of rows.  Where one buffer holds all labels and the place of each is
kept in 32 bits, a table of 302419894 rows or more cannot be built, since its labels come to more
than `2 ^ 31 - 1` bytes; a command that builds it there stops before it writes.  That limit of
memory is not part of this definition. -/
def batch (rows : Nat) : Batch where
  rows := rows
  columns := [ids rows, labels rows, scores rows]
  aligned := by
    intro c hc
    simp only [List.mem_cons, List.not_mem_nil, or_false] at hc
    rcases hc with rfl | rfl | rfl <;>
      exact (Column.length_withMemory _ _).trans (size_cells rows _)
  sound := by
    intro c hc
    simp only [List.mem_cons, List.not_mem_nil, or_false] at hc
    rcases hc with rfl | rfl | rfl
    · rw [ids, Column.sound_withMemory, Column.sound_ofCells]
      exact all_isSome_cells rows _
    · rw [labels, Column.sound_withMemory, Column.sound_ofCells, Bool.true_or]
    · rw [scores, Column.sound_withMemory, Column.sound_ofCells, Bool.true_or]

end Columnar.Demo

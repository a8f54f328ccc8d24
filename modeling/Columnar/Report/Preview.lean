/-
# `Report.Preview` — a batch as a table of text

Each cell is shown as a text; NULL shows as nothing.  A column is as wide as
its widest line, measured in terminal columns, and a cell may have several
lines.
-/
import Columnar.Batch
import Columnar.Number.Shortest
import Columnar.Report.Date
import Columnar.Text.Width

namespace Columnar.Report

open Number

/-! ## Cells -/

/-- A number as it is shown. -/
def number {p : Precision} (x : Binary p) : String := (Rendering.tabular p).write x

/-- The day as a date, if there is one for it. -/
def day (days : Int) : String :=
  let date := Date.ofDays days
  if date.hasYear then date.write
  else "ERROR: Cast error: Failed to convert " ++ toString days ++ " to temporal for Date32"

def truth (b : Bool) : String := toString b

/-- A value as it is shown. -/
def value : (t : DataType) → t.Value → String
  | .int signed _, v => toString (DataType.wholeNumber signed v)
  | .float .half, x => (Rendering.tabular .half).write (x.convert .single)
  | .float .single, x => number x
  | .float .double, x => number x
  | .text _, s => s
  | .bool, b => truth b
  | .date, v => day (DataType.wholeNumber true v)
  | .binary, b => Bytes.toHex b
  | .vector _, v =>
    "[" ++ ", ".intercalate (v.toList.map fun x => (x.map number).getD "") ++ "]"

/-- A cell as it is shown. -/
def cell (t : DataType) (v : Option t.Value) : String := (v.map (value t)).getD ""

/-! ## The table -/

/-- The lines of a cell. -/
abbrev Cell := List String

def Cell.ofText (s : String) : Cell := s.splitOn "\n"

/-- The width of a column: that of its widest line, and at least 1. -/
def columnWidth (cells : List Cell) : Nat :=
  cells.flatten.foldl (fun n s => max n (Text.width s)) 1

/-- A line that separates parts of the table. -/
def rule (widths : List Nat) : String :=
  "+" ++ "+".intercalate (widths.map fun w => String.ofList (List.replicate (w + 2) '-')) ++ "+"

/-- The text filled up with spaces to a width. -/
def filled (width : Nat) (s : String) : String :=
  " " ++ s ++ String.ofList (List.replicate (width - Text.width s) ' ') ++ " "

/-- The lines of a row; cells with fewer lines than others are empty below. -/
def row (widths : List Nat) (cells : List Cell) : List String :=
  let height := (cells.map List.length).foldl max 0
  (List.range height).map fun i =>
    "|" ++ "|".intercalate (List.zipWith (fun w c => filled w (c.getD i "")) widths cells) ++ "|"

/-- Rows from columns of one length. -/
def transposed (rows : Nat) (columns : List (List Cell)) : List (List Cell) :=
  let columns := columns.map List.toArray
  (List.range rows).map fun i => columns.map fun c => c.getD i []

/-- The batch as a table with a head. -/
def preview (b : Batch) : String :=
  let heads := b.columns.map fun c => Cell.ofText c.name
  let columns := b.columns.map fun c => c.cells.map fun v => Cell.ofText (cell c.type v)
  let widths := List.zipWith (fun h c => columnWidth (h :: c)) heads columns
  let line := rule widths
  "\n".intercalate
    (line :: row widths heads ++ line :: (transposed b.rows columns).flatMap (row widths) ++ [line])

end Columnar.Report

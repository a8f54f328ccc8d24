/-
# `Report.Json` — reports as JSON

A report is a value made of numbers, truth values, texts, lists and records,
written with one item a line and two spaces for each level.
-/
import Columnar.Text.Quoted

namespace Columnar.Report

/-- What a report says. -/
inductive Json where
  | number (value : Nat)
  | bool (value : Bool)
  | text (value : String)
  | list (items : List Json)
  | record (fields : List (String × Json))

namespace Json

/-- Lines with a comma behind the last one. -/
def withComma (lines : List String) : List String :=
  lines.dropLast ++ [lines.getLastD "" ++ ","]

/-- The lines of several items, with commas between the items. -/
def separated : List (List String) → List String
  | [] => []
  | [last] => last
  | item :: rest => withComma item ++ separated rest

/-- Lines one level further in, between brackets. -/
def enclosed (opening closing : String) (lines : List String) : List String :=
  opening :: (lines.map ("  " ++ ·) ++ [closing])

/-- Lines with a key in front of the first one. -/
def keyed (key : String) : List String → List String
  | [] => []
  | first :: rest => (Text.jsonQuoted key ++ ": " ++ first) :: rest

mutual

/-- The lines of a report. -/
def lines : Json → List String
  | number n => [toString n]
  | bool b => [toString b]
  | text s => [Text.jsonQuoted s]
  | list [] => ["[]"]
  | list items => enclosed "[" "]" (separated (linesOfItems items))
  | record [] => ["\x7b\x7d"]
  | record fields => enclosed "\x7b" "\x7d" (separated (linesOfFields fields))

def linesOfItems : List Json → List (List String)
  | [] => []
  | item :: rest => item.lines :: linesOfItems rest

def linesOfFields : List (String × Json) → List (List String)
  | [] => []
  | (key, value) :: rest => keyed key value.lines :: linesOfFields rest

end

/-- The text of a report. -/
def write (j : Json) : String := "\n".intercalate j.lines

end Json

end Columnar.Report

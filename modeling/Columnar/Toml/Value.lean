/-
# `Toml.Value` — the values of a TOML document and how tables grow

A document is a table, and every header and every entry adds to it.  What
may be added where depends on how the table there came to be: its `Origin`.
A table that was only passed through on the way to another may still get a
header of its own; one made by dotted keys may only grow by dotted keys; one
written between braces is closed.
-/
import Columnar.Number.Binary

namespace Columnar.Toml

open Number

/-- How a table came to be. -/
inductive Origin where
  /-- It has a header, is an element of an array of tables, or is the document itself. -/
  | header
  /-- A header of a table inside it passed through. -/
  | implied
  /-- A dotted key passed through. -/
  | dotted
  /-- It was written between braces. -/
  | braces
deriving DecidableEq, Repr

/-- A TOML value. -/
inductive Value where
  | text (value : String)
  | int (value : Int)
  | float (value : Binary .double)
  | bool (value : Bool)
  /-- A date, a time of day or both; which one does not matter here. -/
  | time
  | array (items : List Value)
  | table (origin : Origin) (entries : List (String × Value))
  /-- An array of tables that have headers of their own. -/
  | tables (elements : List (List (String × Value)))

/-- The entries of a table; no two have the same key. -/
abbrev Entries := List (String × Value)

namespace Entries

/-- The value of a key. -/
def value? (es : Entries) (key : String) : Option Value := List.lookup key es

/-- The entries with the value of a key replaced, or with the key added. -/
def put (es : Entries) (key : String) (v : Value) : Entries :=
  if es.any (·.1 = key) then es.map fun e => if e.1 = key then (key, v) else e
  else es ++ [(key, v)]

end Entries

/-! ## Growing -/

/-- A table that may grow: how it came to be, and its entries. -/
abbrev Table := Origin × Entries

/-- The origin of a table that a path makes on its way. -/
def madeBy (dotted : Bool) : Origin := if dotted then .dotted else .implied

/-- A dotted key may pass only through tables without a header. -/
def passes (dotted : Bool) : Origin → Bool
  | .header => !dotted
  | .implied => true
  | .dotted => true
  | .braces => false

/-- Changes the table at the end of a path; tables missing on the way are made, and an array of
tables stands for its last element. -/
def Table.alter (dotted : Bool) (change : Table → Option Table) : List String → Table → Option Table
  | [], t => change t
  | key :: path, (origin, es) =>
    match es.value? key with
    | none =>
      (alter dotted change path (madeBy dotted, [])).map fun t =>
        (origin, es.put key (.table t.1 t.2))
    | some (.table o inner) =>
      if passes dotted o then
        (alter dotted change path (o, inner)).map fun t => (origin, es.put key (.table t.1 t.2))
      else none
    | some (.tables elements) =>
      match elements.getLast? with
      | none => none
      | some last =>
        (alter dotted change path (.header, last)).map fun t =>
          (origin, es.put key (.tables (elements.dropLast ++ [t.2])))
    | some _ => none

/-- Adds an entry under a key of one or more parts.  The table that gets it has to be of the
entry's own making: the one where the key begins, or one made by dotted keys. -/
def Table.addEntry (path : List String) (key : String) (v : Value) (t : Table) : Option Table :=
  t.alter true
    (fun (origin, es) =>
      if (origin == .dotted) == path.isEmpty || (es.value? key).isSome then none
      else some (origin, es ++ [(key, v)]))
    path

/-- Opens the table of a header `[path.key]`: a new one, or one that was only passed through. -/
def Table.openTable (path : List String) (key : String) (t : Table) : Option Table :=
  t.alter false
    (fun (origin, es) =>
      match es.value? key with
      | none => some (origin, es ++ [(key, .table .header [])])
      | some (.table .implied inner) => some (origin, es.put key (.table .header inner))
      | some _ => none)
    path

/-- Opens a further element of the array of tables of a header `[[path.key]]`. -/
def Table.openElement (path : List String) (key : String) (t : Table) : Option Table :=
  t.alter false
    (fun (origin, es) =>
      match es.value? key with
      | none => some (origin, es ++ [(key, .tables [[]])])
      | some (.tables elements) => some (origin, es.put key (.tables (elements ++ [[]])))
      | some _ => none)
    path

end Columnar.Toml

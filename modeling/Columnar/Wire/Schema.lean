/-
# `Wire.Schema` — schemas as messages

A schema is a table with one table for each column, and that holds the
column's name, the code of its type, and a table of what else there is to say
about the type.  A column of vectors has one child, the column of the items.
-/
import Columnar.DataType
import Columnar.Wire.Item

namespace Columnar.Wire

open Number

/-! ## Codes -/

/-- The code of a type. -/
def typeCode : DataType → Nat
  | .int _ _ => 2
  | .float _ => 3
  | .binary => 4
  | .text false => 5
  | .bool => 6
  | .date => 8
  | .vector _ => 16
  | .text true => 20

/-- The code of a precision. -/
def precisionCode : Precision → Nat
  | .half => 0
  | .single => 1
  | .double => 2

/-- A slot that is left out when it holds its default. -/
def numberUnless (default width value : Nat) (k : Nat) : List (Nat × Slot) :=
  if value = default then [] else [(k, .number width value)]

/-! ## Writing -/

/-- The table of a column: its name, then the parts that describe the type, among which are the
vector of its children and the table of the type. -/
def column (name : String) (nullable : Bool) (code : Nat) (description : List Item)
    (children type : Nat) : Item :=
  .table (.text name :: description)
    ([(0, .part 0), (2, .number 1 code)] ++ numberUnless 0 1 nullable.toNat 1 ++
      [(5, .part children), (3, .part type)])

/-- The name of the column that the items of vectors make up. -/
def itemName : String := "item"

/-- The parts that describe a precision. -/
def precisionParts (p : Precision) : List Item :=
  [.refs [], .table [] (numberUnless 0 2 (precisionCode p) 0)]

/-- The table of a column. -/
def fieldItem (f : Field) : Item :=
  let code := typeCode f.type
  match f.type with
  | .int signed w =>
    column f.name f.nullable code
      [.refs [], .table [] (numberUnless 0 1 signed.toNat 1 ++ [(0, .number 4 w.bits)])] 1 2
  | .float p => column f.name f.nullable code (precisionParts p) 1 2
  | .date => column f.name f.nullable code [.table [] [(0, .number 2 0)], .refs []] 2 1
  | .vector n =>
    column f.name f.nullable code
      [column itemName true (typeCode (.float .single)) (precisionParts .single) 1 2,
        .table [] (numberUnless 0 4 n.val 0), .refs [1]] 3 2
  | _ => column f.name f.nullable code [.table [] [], .refs []] 2 1

/-- The table of a schema. -/
def schemaItem (s : Schema) : Item :=
  .table (s.map fieldItem ++ [.refs (List.range s.length)]) [(1, .part s.length)]

end Columnar.Wire

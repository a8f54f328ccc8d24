/-
# `DataType` — column types and the values they hold

A data type names a kind of column; `DataType.Value` is the type of its
cells that are not NULL, so a cell can never disagree with its column.
Numbers are bit patterns of the width that is stored.
-/
import Columnar.Bytes
import Columnar.Number.Binary

namespace Columnar

open Number

/-- The widths whole numbers are stored in. -/
inductive Width where
  | w8
  | w16
  | w32
  | w64
deriving DecidableEq, Repr

namespace Width

def bytes : Width → Nat
  | w8 => 1
  | w16 => 2
  | w32 => 4
  | w64 => 8

def bits (w : Width) : Nat := 8 * w.bytes

end Width

/-- Lengths of vectors are numbers of 32 bits with a sign. -/
abbrev VectorLength := Fin (2 ^ 31)

/-- The types of columns. -/
inductive DataType where
  /-- Whole numbers, with or without a sign. -/
  | int (signed : Bool) (width : Width)
  | float (precision : Precision)
  /-- Text; `large` text is addressed with 64 bits. -/
  | text (large : Bool)
  | bool
  /-- Days since 1970-01-01. -/
  | date
  | binary
  /-- Lists of one fixed length, of single precision numbers that may be NULL. -/
  | vector (length : VectorLength)
deriving DecidableEq, Repr

namespace DataType

/-- The values a column of the type holds, NULL apart. -/
def Value : DataType → Type
  | int _ w => BitVec w.bits
  | float p => Binary p
  | text _ => String
  | bool => Bool
  | date => BitVec 32
  | binary => Bytes
  | vector n => Vector (Option (Binary .single)) n.val

instance decideEqValue : (t : DataType) → DecidableEq t.Value
  | int _ w => inferInstanceAs (DecidableEq (BitVec w.bits))
  | float p => inferInstanceAs (DecidableEq (Binary p))
  | text _ => inferInstanceAs (DecidableEq String)
  | bool => inferInstanceAs (DecidableEq Bool)
  | date => inferInstanceAs (DecidableEq (BitVec 32))
  | binary => inferInstanceAs (DecidableEq Bytes)
  | vector n => inferInstanceAs (DecidableEq (Vector (Option (Binary .single)) n.val))

/-- The whole number a stored pattern stands for. -/
def wholeNumber (signed : Bool) {n : Nat} (v : BitVec n) : Int :=
  if signed then v.toInt else v.toNat

/-- The least and the greatest whole number of a width. -/
def least (signed : Bool) (w : Width) : Int := if signed then -(2 ^ (w.bits - 1)) else 0
def greatest (signed : Bool) (w : Width) : Int :=
  if signed then 2 ^ (w.bits - 1) - 1 else 2 ^ w.bits - 1

/-- A whole number as a cell, if the width has room for it. -/
def ofWhole? (signed : Bool) (w : Width) (i : Int) : Option (BitVec w.bits) :=
  if least signed w ≤ i && i ≤ greatest signed w then some (BitVec.ofInt w.bits i) else none

/-! ## Names -/

/-- The type's name in messages and reports. -/
def name : DataType → String
  | int signed w => (if signed then "Int" else "UInt") ++ toString w.bits
  | float p => "Float" ++ toString p.width
  | text large => if large then "LargeUtf8" else "Utf8"
  | bool => "Boolean"
  | date => "Date32"
  | binary => "Binary"
  | vector n =>
    "FixedSizeList(Field \x7b name: \"item\", data_type: Float32, nullable: true, dict_id: 0, " ++
      "dict_is_ordered: false, metadata: \x7b\x7d \x7d, " ++ toString n.val ++ ")"

end DataType

/-- What a schema says about one column. -/
structure Field where
  name : String
  type : DataType
  nullable : Bool
deriving DecidableEq

/-- The columns of a table, in order.  Names may repeat; a name means the first column of it. -/
abbrev Schema := List Field

namespace Schema

/-- The column a name means. -/
def find? (s : Schema) (name : String) : Option Field := List.find? (·.name = name) s

def names (s : Schema) : List String := s.map (·.name)

end Schema

end Columnar

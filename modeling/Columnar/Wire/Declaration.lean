/-
# `Wire.Declaration` — reading the schema of a message

The table of a schema may come from any writer, so every slot that such a
table can have is read, whether it is of use or not: damage anywhere makes
the schema unreadable.  A type is a code and a table; types that no batch has
become their names.
-/
import Columnar.Declared
import Columnar.Wire.Schema
import Columnar.Wire.Table

namespace Columnar.Wire

open Number

/-! ## Types -/

/-- The width of whole numbers of so many bits. -/
def width? (bits : Nat) : Option Width :=
  if bits = 8 then some .w8
  else if bits = 16 then some .w16
  else if bits = 32 then some .w32
  else if bits = 64 then some .w64
  else none

/-- The precision with a code. -/
def precision? (code : Nat) : Option Precision :=
  if code = 0 then some .half
  else if code = 1 then some .single
  else if code = 2 then some .double
  else none

/-- The name of the unit of time with a code. -/
def timeUnit? (code : Nat) : Option String :=
  ["Second", "Millisecond", "Microsecond", "Nanosecond"][code]?

/-- A type that is named after its kind and what makes it one of the kind. -/
def composed (kind : String) (details : List String) : DeclaredType :=
  .other (kind ++ "(" ++ ", ".intercalate details ++ ")")

/-- The number with a sign that 32 bits stand for. -/
def signed32 (n : Nat) : Int := (BitVec.ofNat 32 n).toInt

/-- The types that a code tells alone. -/
def plainType? : (code : Nat) → Option DeclaredType
  | 1 => some (.other "Null")
  | 4 => some (.known .binary)
  | 5 => some (.known (.text false))
  | 6 => some (.known .bool)
  | 19 => some (.other "LargeBinary")
  | 20 => some (.known (.text true))
  | 23 => some (.other "BinaryView")
  | 24 => some (.other "Utf8View")
  | _ => none

/-- Fixed point numbers of a precision, a scale and a number of bits. -/
def decimal? (precision scale : Int) (bits : Nat) : Option DeclaredType :=
  if 0 ≤ precision && precision < 256 && -128 ≤ scale && scale < 128 &&
      (bits = 128 || bits = 256) then
    some (composed ("Decimal" ++ toString bits) [toString precision, toString scale])
  else none

/-- Times of day in a unit, stored in so many bits. -/
def time? (unit bits : Nat) : Option DeclaredType := do
  let name ← timeUnit? unit
  if bits = if unit < 2 then 32 else 64 then some (composed ("Time" ++ toString bits) [name])
  else none

/-- The types that a code and the numbers in a table tell. -/
def sizedType? (d : Data) (t : Table) : (code : Nat) → Option DeclaredType
  | 2 => do
    let width ← width? (← d.numberSlot? t 0 4 0)
    let signed ← d.numberSlot? t 1 1 0
    return .known (.int (signed != 0) width)
  | 3 => do return .known (.float (← precision? (← d.numberSlot? t 0 2 0)))
  | 7 => do
    let precision ← d.numberSlot? t 0 4 0
    let scale ← d.numberSlot? t 1 4 0
    decimal? (signed32 precision) (signed32 scale) (← d.numberSlot? t 2 4 128)
  | 8 => do
    let unit ← d.numberSlot? t 0 2 1
    [.known .date, .other "Date64"][unit]?
  | 9 => do
    let unit ← d.numberSlot? t 0 2 1
    time? unit (← d.numberSlot? t 1 4 32)
  | 10 => do
    let unit ← timeUnit? (← d.numberSlot? t 0 2 0)
    let zone := match ← d.refSlot? t 1 d.text? with
      | some z => "Some(" ++ Text.quoted z ++ ")"
      | none => "None"
    return composed "Timestamp" [unit, zone]
  | 11 => do
    let unit ← ["YearMonth", "DayTime", "MonthDayNano"][← d.numberSlot? t 0 2 0]?
    return composed "Interval" [unit]
  | 15 => do return composed "FixedSizeBinary" [toString (signed32 (← d.numberSlot? t 0 4 0))]
  | 18 => do return composed "Duration" [← timeUnit? (← d.numberSlot? t 0 2 1)]
  | _ => none

/-- The column that the items of vectors make up. -/
def itemField : DeclaredField := ⟨itemName, .known (.float .single), true, []⟩

/-- Lists of a length, of items that a column declares; the length has a sign. -/
def fixedList (item : DeclaredField) (length : Nat) : DeclaredType :=
  if h : length < 2 ^ 31 ∧ item = itemField then .known (.vector ⟨length, h.1⟩)
  else composed "FixedSizeList" [item.text, toString (signed32 length)]

/-- Columns between brackets. -/
def bracketed (texts : List String) : String := "[" ++ ", ".intercalate texts ++ "]"

/-- A choice between columns, each known by a number of 8 bits with a sign. -/
def union? (numbers : List Nat) (children : List DeclaredField) (mode : Nat) :
    Option DeclaredType := do
  let numbers := numbers.map fun n => (BitVec.ofNat 8 n).toInt
  let mode ← ["Sparse", "Dense"][mode]?
  let choice (n : Int) (f : DeclaredField) := "(" ++ toString n ++ ", " ++ f.text ++ ")"
  if numbers.Nodup then
    some (composed "Union" [bracketed (numbers.zipWith choice children), mode])
  else none

/-- The types that are made of other columns. -/
def nestedType? (d : Data) (t : Table) (children : List DeclaredField) :
    (code : Nat) → Option DeclaredType
  | 12 =>
    match children with
    | [item] => some (composed "List" [item.text])
    | _ => none
  | 13 => some (composed "Struct" [bracketed (children.map DeclaredField.text)])
  | 14 => do
    let mode ← d.numberSlot? t 0 2 0
    let numbers ← d.refSlot? t 1 fun place => do
      (List.range (← d.count? 4 4 place)).mapM fun i => d.number? (place + 4 + 4 * i) 4
    union? (numbers.getD (List.range children.length)) children mode
  | 16 => do
    let length ← d.numberSlot? t 0 4 0
    match children with
    | [item] => some (fixedList item length)
    | _ => none
  | 17 => do
    let sorted ← d.numberSlot? t 0 1 0
    match children with
    | [entries] => some (composed "Map" [entries.text, toString (sorted != 0)])
    | _ => none
  | 21 =>
    match children with
    | [item] => some (composed "LargeList" [item.text])
    | _ => none
  | 22 =>
    match children with
    | [ends, values] => some (composed "RunEndEncoded" [ends.text, values.text])
    | _ => none
  | _ => none

/-- The type with a code, from its table and its children. -/
def readType? (d : Data) (code : Nat) (children : List DeclaredField) (place : Nat) :
    Option DeclaredType := do
  let t ← d.table? place
  plainType? code <|> sizedType? d t code <|> nestedType? d t children code

/-! ## Notes -/

/-- The note whose table is at a place; without a key or a value it says nothing. -/
def readNote? (d : Data) (place : Nat) : Option (Option (String × String)) := do
  let t ← d.table? place
  let key ← d.refSlot? t 0 d.text?
  let value ← d.refSlot? t 1 d.text?
  return do pure (← key, ← value)

/-- The notes that a slot of a table refers to. -/
def readNotes? (d : Data) (t : Table) (k : Nat) : Option Notes := do
  let notes ← d.refSlot? t k (d.refs? (readNote? d))
  return Notes.ofPairs ((notes.getD []).filterMap id)

/-! ## Columns -/

/-- The type of the numbers that stand for values, from the table of a dictionary. -/
def readDictionary? (d : Data) (place : Nat) : Option DeclaredType := do
  let t ← d.table? place
  let _ ← d.numberSlot? t 0 8 0
  let index ← d.needed? t 1 (readType? d 2 [])
  let _ ← d.numberSlot? t 2 1 0
  let _ ← d.numberSlot? t 3 2 0
  return index

/-- The column whose table is at a place, with columns inside it at most `depth` deep. -/
def readField? (d : Data) : (depth : Nat) → (place : Nat) → Option DeclaredField
  | 0, _ => none
  | depth + 1, place => do
    let t ← d.table? place
    let name ← d.needed? t 0 d.text?
    let nullable ← d.numberSlot? t 1 1 0
    let code ← d.numberSlot? t 2 1 0
    let dictionary ← d.refSlot? t 4 (readDictionary? d)
    let children ← d.refSlot? t 5 (d.refs? (readField? d depth))
    let values ← d.needed? t 3 (readType? d code (children.getD []))
    let notes ← readNotes? d t 6
    let type := match dictionary with
      | some index => composed "Dictionary" [index.name, values.name]
      | none => values
    return ⟨name, type, nullable != 0, notes⟩

/-- How deep columns may lie in one another: with the message and the schema around them and a
type at the bottom, tables are at most 64 deep. -/
def fieldDepth : Nat := 61

/-- The schema whose table is at a place. -/
def readSchema? (d : Data) (place : Nat) : Option DeclaredSchema := do
  let t ← d.table? place
  let _ ← d.numberSlot? t 0 2 0
  let columns ← d.needed? t 1 (d.refs? (readField? d fieldDepth))
  let notes ← readNotes? d t 2
  let _ ← d.refSlot? t 3 (d.count? 8 8)
  return ⟨columns, notes⟩

end Columnar.Wire

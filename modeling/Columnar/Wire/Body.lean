/-
# `Wire.Body` — the cells of a batch as buffers

Behind the table of a batch follow its cells, column by column: a bitmap of
the cells that are not NULL, then one or two buffers with the values.  Each
buffer is filled up to a multiple of 64 bytes.  Texts are one run of bytes
and the places where they begin; vectors have a column of items inside.

Bitmaps keep the places of the stored column: a range that begins at a
multiple of eight takes the bitmap from there to its end, any other is
shifted to the front.
-/
import Columnar.Batch
import Columnar.Wire.Table

namespace Columnar.Wire

open Number

/-! ## Buffers -/

/-- The length of a run of cells and how many of them are NULL. -/
abbrev Node := Nat × Nat

/-- What a column adds to a body. -/
structure Part where
  nodes : List Node
  buffers : List Bytes

/-- Bits of a range of stored cells. -/
def packed {α : Type} (bit : α → Bool) (whole : Array α) (start length : Nat) : Bytes :=
  let stop := if start % 8 = 0 then whole.size else start + length
  Bytes.ofBits ((whole.extract start stop).map bit)

/-- The bitmap of a range of stored cells; without a NULL among them it is filled up. -/
def validity {α : Type} (whole : Array (Option α)) (start length : Nat) : Bytes :=
  if (whole.extract start (start + length)).all Option.isSome then
    List.replicate (bitmapBytes length) 0xff
  else packed Option.isSome whole start length

/-- A node and a bitmap for a range of stored cells, and further buffers. -/
def Part.ofCells {α : Type} (whole : Array (Option α)) (start length : Nat)
    (buffers : List Bytes) : Part where
  nodes := [(length, ((whole.extract start (start + length)).toList.countP Option.isNone))]
  buffers := validity whole start length :: buffers

/-- Numbers of a width, NULL as zero. -/
def numbers {α : Type} (width : Nat) (number : α → Nat) (cells : List (Option α)) : Bytes :=
  cells.flatMap fun c => Bytes.ofNat width ((c.map number).getD 0)

/-- Where runs of bytes begin and where the last one ends, and the bytes; nothing for no runs. -/
def runs (width : Nat) (contents : List Bytes) : List Bytes :=
  if contents.isEmpty then [[], []]
  else
    [(contents.scanl (fun n b => n + b.length) 0).flatMap (Bytes.ofNat width), contents.flatten]

/-- The width of the places of texts. -/
def placeWidth (large : Bool) : Nat := if large then 8 else 4

/-- The items of vectors; a NULL has zeros. -/
def items {n : Nat} (cells : Array (Option (Vector (Option (Binary .single)) n))) :
    Array (Option (Binary .single)) :=
  cells.flatMap fun c =>
    match c with
    | some v => v.toArray
    | none => Array.replicate n (some (Binary.ofMagnitude false 0))

/-- The part of a range of stored cells of a type. -/
def Part.ofRange : (t : DataType) → (whole : Array (Option t.Value)) → (start length : Nat) → Part
  | .int _ w, whole, start, length =>
    let cells := (whole.extract start (start + length)).toList
    ofCells whole start length
      [numbers w.bytes (fun v : BitVec w.bits => v.toNat) cells]
  | .float p, whole, start, length =>
    let cells := (whole.extract start (start + length)).toList
    ofCells whole start length [numbers (p.width / 8) (fun x : Binary p => x.bits.toNat) cells]
  | .date, whole, start, length =>
    let cells := (whole.extract start (start + length)).toList
    ofCells whole start length [numbers 4 (fun v : BitVec 32 => v.toNat) cells]
  | .bool, whole, start, length =>
    ofCells whole start length [packed (fun c : Option Bool => c.getD false) whole start length]
  | .text large, whole, start, length =>
    let cells := (whole.extract start (start + length)).toList
    ofCells whole start length
      (runs (placeWidth large) (cells.map fun c => (c.map Bytes.ofText).getD []))
  | .binary, whole, start, length =>
    let cells := (whole.extract start (start + length)).toList
    ofCells whole start length (runs 4 (cells.map fun c => c.getD []))
  | .vector n, whole, start, length =>
    let part := ofCells whole start length []
    let all := items whole
    let range := (all.extract (start * n.val) (start * n.val + length * n.val)).toList
    let inner := ofCells all (start * n.val) (length * n.val)
      [numbers 4 (fun x : Binary .single => x.bits.toNat) range]
    ⟨part.nodes ++ inner.nodes, part.buffers ++ inner.buffers⟩

/-- The part of a column. -/
def Part.ofColumn (c : Column) : Part := ofRange c.type c.whole c.start c.length

/-- The unit that buffers are filled up to. -/
def unit : Nat := 64

/-- The buffers one behind the other, filled up. -/
def body (buffers : List Bytes) : Bytes := (buffers.map (Bytes.padded unit)).flatten

/-- Where each buffer begins in the body, and its own length. -/
def extents (buffers : List Bytes) : List (Nat × Nat) :=
  (buffers.scanl (fun n b => n + (Bytes.padded unit b).length) 0).zipWith
    (fun n b => (n, b.length)) buffers

/-! ## Reading -/

/-- What the table of a batch says: its rows, its nodes, and its buffers by place and length. -/
structure BatchTable where
  rows : Nat
  nodes : List Node
  buffers : List (Nat × Nat)
  compressed : Bool

/-- The content of a buffer.  A compressed one begins with the length of what is in it: 0, or −1
for what is stored as it is; nothing else is read. -/
def content? (compressed : Bool) (buffer : Data) : Option Data :=
  if !compressed || buffer.isEmpty then some buffer
  else do
    let length ← buffer.number? 0 8
    if length = 0 then some #[]
    else if length = 2 ^ 64 - 1 then some (buffer.extract 8 buffer.size)
    else none

/-- What is left to read of a batch, in the body it is read from. -/
structure Source where
  body : Data
  compressed : Bool
  nodes : List Node
  buffers : List (Nat × Nat)

namespace Source

def node? (s : Source) : Option (Node × Source) :=
  match s.nodes with
  | [] => none
  | n :: rest => some (n, { s with nodes := rest })

def buffer? (s : Source) : Option (Data × Source) :=
  match s.buffers with
  | [] => none
  | (place, length) :: rest => do
    let buffer ← s.body.part? place length
    return (← content? s.compressed buffer, { s with buffers := rest })

/-- The length of a run of cells, and for each whether it is not NULL.  The number of NULLs has a
sign: below zero it is none. -/
def present? (s : Source) : Option (Nat × (Nat → Bool) × Source) := do
  let ((length, nulls), s) ← s.node?
  let (bits, s) ← s.buffer?
  if nulls = 0 || 2 ^ 63 ≤ nulls then return (length, fun _ => true, s)
  else if bitmapBytes length ≤ bits.size then return (length, Bytes.bit bits, s)
  else none

end Source

/-- Cells of which those that are present have a value. -/
def cells {α : Type} (length : Nat) (present : Nat → Bool) (value : Nat → α) : Array (Option α) :=
  ((List.range length).map fun i => if present i then some (value i) else none).toArray

/-- Cells of numbers of a width. -/
def readNumbers? {α : Type} (width : Nat) (value : Nat → α) (s : Source) :
    Option (Array (Option α) × Source) := do
  let (length, present, s) ← s.present?
  let (d, s) ← s.buffer?
  if length * width ≤ d.size then
    let number i := Bytes.toNat (d.extract (i * width) (i * width + width)).toList
    return (cells length present fun i => value (number i), s)
  else none

/-- Runs of bytes: for each whether it is not NULL, where they begin and end, which has to go up
and to lie inside, and the bytes. -/
def readRuns? (width : Nat) (s : Source) :
    Option ((Nat → Bool) × List (Nat × Nat) × Data × Source) := do
  let (length, present, s) ← s.present?
  let (places, s) ← s.buffer?
  let (content, s) ← s.buffer?
  if length = 0 && places.isEmpty then return (present, [], content, s)
  else if places.size < (length + 1) * width then none
  else
    let ends ← (List.range (length + 1)).mapM fun i => places.number? (i * width) width
    let ranges := ends.zip (ends.drop 1)
    if ranges.all (fun r => r.1 ≤ r.2) && ends.all (· ≤ content.size) then
      return (present, ranges, content, s)
    else none

/-- The bytes of a range. -/
def bytes (content : Data) (range : Nat × Nat) : Bytes :=
  (content.extract range.1 range.2).toList

/-- No character of a text begins before the place and ends behind it. -/
def isBoundary (content : Data) (place : Nat) : Bool :=
  match content[place]? with
  | some b => !(0x80 ≤ b.toNat && b.toNat < 0xc0)
  | none => true

/-- The texts of ranges.  If the whole content is text, no range, not even an empty one, may begin
or end in the midst of a character. -/
def texts? (content : Data) (ranges : List (Nat × Nat)) : Option (List String) :=
  let parted := (Bytes.toText? content.toList).isNone ||
    ranges.all fun r => isBoundary content r.1 && isBoundary content r.2
  if parted then ranges.mapM fun r => Bytes.toText? (bytes content r) else none

/-- Cells of which those that are present have the values listed. -/
def masked {α : Type} (present : Nat → Bool) (values : List α) : Array (Option α) :=
  (values.mapIdx fun i v => if present i then some v else none).toArray

/-- The cells of a column of a type. -/
def readCells? : (t : DataType) → Source → Option (Array (Option t.Value) × Source)
  | .int _ w, s => readNumbers? w.bytes (BitVec.ofNat w.bits) s
  | .float p, s => readNumbers? (p.width / 8) (fun n => (⟨BitVec.ofNat p.width n⟩ : Binary p)) s
  | .date, s => readNumbers? 4 (BitVec.ofNat 32) s
  | .bool, s => do
    let (length, present, s) ← s.present?
    let (bits, s) ← s.buffer?
    if bitmapBytes length ≤ bits.size then return (cells length present (Bytes.bit bits), s)
    else none
  | .text large, s => do
    let (present, ranges, content, s) ← readRuns? (placeWidth large) s
    return (masked present (← texts? content ranges), s)
  | .binary, s => do
    let (present, ranges, content, s) ← readRuns? 4 s
    return (masked present (ranges.map (bytes content)), s)
  | .vector n, s => do
    let (length, present, s) ← s.present?
    let (inner, s) ←
      readNumbers? 4 (fun n => (⟨BitVec.ofNat 32 n⟩ : Binary .single)) s
    if length * n.val ≤ inner.size then
      return (cells length present fun i =>
        Vector.ofFn fun (j : Fin n.val) => inner.getD (i * n.val + j.val) none, s)
    else none

/-- The columns of a schema, each of so many rows. -/
def readColumns? (rows : Nat) : Schema → Source → Option (List Column)
  | [], _ => some []
  | f :: rest, s => do
    guard (s.nodes.head?.map (·.1) = some rows)
    let (cells, s) ← readCells? f.type s
    return Column.ofCells f.name f.nullable f.type cells :: (← readColumns? rows rest s)

/-- The batch that a table and a body make up. -/
def readBatch? (s : Schema) (t : BatchTable) (body : Data) : Option Batch := do
  Batch.ofColumns? t.rows (← readColumns? t.rows s ⟨body, t.compressed, t.nodes, t.buffers⟩)

end Columnar.Wire

/-
# `Wire.Stream` — schemas and batches as streams of messages

A stream is a message with the schema, then a message with a body for each
batch, then the mark of the end.  A message begins with a mark and its
length, and is filled up to a multiple of 64 bytes.  Reading is more liberal
than writing: the mark of a message may be missing, and so may the mark of
the end, and what follows that does not count.
-/
import Columnar.Wire.Body
import Columnar.Wire.Declaration

namespace Columnar.Wire

/-! ## Writing -/

/-- The mark in front of a message. -/
def mark : Bytes := [0xff, 0xff, 0xff, 0xff]

/-- A message without content marks the end of a stream. -/
def endMark : Bytes := mark ++ Bytes.zeros 4

/-- The bytes of a message behind its mark and its length. -/
def frame (message : Bytes) : Bytes :=
  let padded := message ++ Bytes.zeros (Bytes.gap unit (message.length + 8))
  mark ++ Bytes.ofNat 4 padded.length ++ padded

def schemaKind : Nat := 1
def batchKind : Nat := 3

/-- The version that messages declare. -/
def version : Nat := 4

/-- A message: what kind it is, its table, and the length of its body. -/
def message (kind bodyLength : Nat) (header : Item) : Bytes :=
  frame (Item.table [header]
    ([(0, .number 2 version), (1, .number 1 kind)] ++ numberUnless 0 8 bodyLength 3 ++
      [(2, .part 0)])).encode

/-- The message with a schema. -/
def schemaMessage (s : Schema) : Bytes := message schemaKind 0 (schemaItem s)

/-- The stream with a schema alone. -/
def encodeSchema (s : Schema) : Bytes := schemaMessage s ++ endMark

/-- Pairs of numbers of 64 bits. -/
def pairsItem (pairs : List (Nat × Nat)) : Item :=
  .pairs pairs.length (pairs.flatMap fun p => Bytes.ofNat 8 p.1 ++ Bytes.ofNat 8 p.2)

/-- The message with a batch, and its body. -/
def batchMessage (b : Batch) : Bytes :=
  let parts := b.columns.map Part.ofColumn
  let buffers := parts.flatMap Part.buffers
  let content := body buffers
  message batchKind content.length
    (.table [pairsItem (extents buffers), pairsItem (parts.flatMap Part.nodes)]
      (numberUnless 0 8 b.rows 0 ++ [(1, .part 1), (2, .part 0)])) ++ content

/-- The stream with a batch. -/
def encodeBatch (b : Batch) : Bytes := schemaMessage b.schema ++ batchMessage b ++ endMark

/-! ## Reading -/

/-- Whether buffers are compressed by the method that a table names. -/
def readCompression? (d : Data) (place : Nat) : Option Unit := do
  let t ← d.table? place
  let codec ← d.numberSlot? t 0 1 0
  let _ ← d.numberSlot? t 1 1 0
  if codec < 2 then some () else none

/-- What the table of a batch at a place says. -/
def readBatchTable? (d : Data) (place : Nat) : Option BatchTable := do
  let t ← d.table? place
  let rows ← d.numberSlot? t 0 8 0
  let nodes ← d.needed? t 1 d.pairs?
  let buffers ← d.needed? t 2 d.pairs?
  let compression ← d.refSlot? t 3 (readCompression? d)
  let counts ← d.refSlot? t 4 (d.count? 8 8)
  if counts.getD 0 = 0 then some ⟨rows, nodes, buffers, compression.isSome⟩ else none

/-- What a message may be about. -/
inductive Content where
  | nothing
  | schema (s : DeclaredSchema)
  | batch (t : BatchTable)

structure Message where
  content : Content
  bodyLength : Nat

/-- What a message of a kind is about, from the table at a place. -/
def readContent? (d : Data) (kind place : Nat) : Option Content :=
  if kind = schemaKind then (readSchema? d place).map .schema
  else if kind = batchKind then (readBatchTable? d place).map .batch
  else none

/-- The message that the bytes hold.  It names a kind if and only if it has a table. -/
def readMessage? (d : Data) : Option Message := do
  let t ← d.table? (← d.target? 0)
  let _ ← d.numberSlot? t 0 2 0
  let kind ← d.numberSlot? t 1 1 0
  guard ((t.slot? 1).isSome = (t.slot? 2).isSome)
  let content ← if kind = 0 then some .nothing else d.needed? t 2 (readContent? d kind)
  let bodyLength ← d.numberSlot? t 3 8 0
  let _ ← readNotes? d t 4
  return ⟨content, bodyLength⟩

/-- The length of the message at a place, and the place behind the length. -/
def readLength? (d : Data) (place : Nat) : Option (Nat × Nat) := do
  let first ← d.number? place 4
  if first = 2 ^ 32 - 1 then return (← d.number? (place + 4) 4, place + 8)
  else return (first, place + 4)

/-- The schema at the front of a stream, and the place behind it. -/
def openStream? (d : Data) : Option (DeclaredSchema × Nat) := do
  let (length, place) ← readLength? d 0
  match (← readMessage? (← d.part? place length)).content with
  | .schema s => return (s, place + length)
  | _ => none

/-- The batches from a place to the end of a stream; `fuel` bounds their number. -/
def readBatches? (s : Schema) (d : Data) : (fuel : Nat) → (place : Nat) → Option (List Batch)
  | 0, _ => none
  | fuel + 1, place =>
    if d.size < place + 4 then some []
    else do
      let (length, place) ← readLength? d place
      if length = 0 then return []
      else
        let m ← readMessage? (← d.part? place length)
        match m.content with
        | .nothing => return []
        | .batch t =>
          let b ← readBatch? s t (← d.part? (place + length) m.bodyLength)
          return b :: (← readBatches? s d fuel (place + length + m.bodyLength))
        | .schema _ => none

/-- The schema that a stream begins with. -/
def decodeSchema? (b : Bytes) : Option DeclaredSchema := (openStream? b.toArray).map (·.1)

end Columnar.Wire

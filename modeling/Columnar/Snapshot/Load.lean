/-
# `Snapshot.Load` — the batch in a snapshot file

The schema of a file has to serve the schema that is expected: the same
columns of the same types in the same order, and none that may be NULL where
it must not.  Then segment by segment the checksum is compared, the stream is
read, and its schema and its rows are checked against what the file declares.
-/
import Columnar.Snapshot.Layout

namespace Columnar.Snapshot

/-! ## Schemas -/

/-- What keeps a stored column from serving an expected one. -/
def fieldConflict? (expected : Field) (found : DeclaredField) : Option SchemaConflict :=
  if expected.name != found.name then some (.name expected.name found.name)
  else if found.type != .known expected.type then
    some (.type expected.name expected.type found.type)
  else if !expected.nullable && found.nullable then some (.nullable expected.name)
  else none

/-- What keeps a stored schema from serving an expected one: the first conflict in the order of
the columns. -/
def conflict? (expected : Schema) (found : DeclaredSchema) : Option SchemaConflict :=
  if expected.length != found.columns.length then
    some (.columnCount expected.length found.columns.length)
  else (expected.zip found.columns).findSome? fun (e, f) => fieldConflict? e f

/-! ## Segments -/

/-- The batches of a stream from a place on, one below the other, if batches have all the types
that are declared. -/
def readRows? (schema : DeclaredSchema) (data : Wire.Data) (place : Nat) : Option Batch := do
  let s ← schema.schema?
  Batch.concat? s (← Wire.readBatches? s data data.size place)

/-- The batch in the segment with a given index. -/
def Segment.decode (schema : DeclaredSchema) (index : Nat) (s : Segment) :
    Except FormatError Batch :=
  if Columnar.checksum s.payload != s.checksum then .error (.checksum index)
  else
    let data := s.payload.toArray
    match Wire.openStream? data with
    | none => .error (.unreadableChunk index)
    | some (found, place) =>
      if found != schema then .error (.foreignSchema index)
      else
        match readRows? schema data place with
        | none => .error (.unreadableChunk index)
        | some b =>
          if b.rows = s.rows then .ok b else .error (.chunkRows index s.rows b.rows)

/-- The batches of the segments, the first of which has a given index. -/
def decodeSegments (schema : DeclaredSchema) : (index : Nat) → List Segment →
    Except FormatError (List Batch)
  | _, [] => .ok []
  | index, s :: rest =>
    match s.decode schema index with
    | .error e => .error e
    | .ok b => (decodeSegments schema (index + 1) rest).map (b :: ·)

/-! ## Files -/

namespace Layout

/-- The batches one below the other, as a batch with the number of rows that the file declares. -/
def join? (l : Layout) (target : Schema) (parts : List Batch) : Option Batch := do
  Batch.ofColumns? l.totalRows (← Batch.concat? target parts).columns

/-- The batch of the segments under a schema. -/
def assemble (l : Layout) (target : Schema) : Except FormatError Batch :=
  match decodeSegments l.schema 0 l.segments with
  | .error e => .error e
  | .ok parts =>
    match l.join? target parts with
    | some b => .ok b
    | none => .error (.rowCount l.totalRows (parts.map Batch.rows).sum)

/-- The batch of a layout under an expected schema. -/
def load (l : Layout) (expected : Schema) : Except FormatError Batch :=
  match conflict? expected l.schema with
  | some c => .error (.conflict c)
  | none => l.assemble expected

/-- The batch of a layout under its own schema; there is none if a type of it is not known. -/
def loadAsStored (l : Layout) : Except FormatError Batch :=
  match l.schema.schema? with
  | some s => l.assemble s
  | none => (decodeSegments l.schema 0 l.segments).bind fun _ => .error .unreadableSchema

end Layout

/-- The batch in a file under an expected schema. -/
def load (file : Bytes) (expected : Schema) : Except FormatError Batch :=
  match read file with
  | .error e => .error e
  | .ok l => l.load expected

/-- The batch in a file under the schema of the file. -/
def loadAsStored (file : Bytes) : Except FormatError Batch :=
  match read file with
  | .error e => .error e
  | .ok l => l.loadAsStored

end Columnar.Snapshot

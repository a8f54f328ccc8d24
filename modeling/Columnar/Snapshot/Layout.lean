/-
# `Snapshot.Layout` — the segments of a snapshot file

A snapshot is a header with the row count, the number of segments and the
schema, then the segments, then a trailer that repeats their number.  A
segment declares its rows, its length and its checksum in front of its
payload.  `Layout.encode` writes the format, `Layout.parse` takes a file
apart; it reads the schema, but no payload.

A file that was not finished is told from a complete one by the number of
segments: it is written last.
-/
import Columnar.Checksum
import Columnar.Wire.Stream

namespace Columnar.Snapshot

/-! ## Errors -/

/-- The parts of a file that may be cut off. -/
inductive Part where
  | header
  | magic
  | version
  | rowCount
  | chunkCount
  | schemaLength
  | schema
  | chunkHeader
  | chunkPayload
deriving DecidableEq, Repr

def Part.name : Part → String
  | header => "header"
  | magic => "magic"
  | version => "version"
  | rowCount => "row count"
  | chunkCount => "chunk count"
  | schemaLength => "schema length"
  | schema => "schema"
  | chunkHeader => "chunk header"
  | chunkPayload => "chunk payload"

/-- How the schema of a file fails the schema that is expected. -/
inductive SchemaConflict where
  | columnCount (expected found : Nat)
  | name (expected found : String)
  | type (column : String) (expected : DataType) (found : DeclaredType)
  | nullable (column : String)
deriving DecidableEq

def SchemaConflict.message : SchemaConflict → String
  | columnCount expected found =>
    "expected " ++ toString expected ++ " columns, file has " ++ toString found
  | name expected found => "expected column '" ++ expected ++ "', file has '" ++ found ++ "'"
  | type column expected found =>
    "column '" ++ column ++ "' is " ++ found.name ++ " in the file, expected " ++ expected.name
  | nullable column =>
    "column '" ++ column ++ "' is nullable in the file but not in the expected schema"

/-- Why a file is no snapshot, or a batch cannot become one. -/
inductive FormatError where
  | badMagic
  | version (found : Nat)
  | truncated (part : Part)
  | conflict (conflict : SchemaConflict)
  | checksum (chunk : Nat)
  | chunkRows (chunk expected actual : Nat)
  | rowCount (expected actual : Nat)
  | missingTrailer
  | rowTooLarge (row encoded limit : Nat)
  | unreadableSchema
  | unreadableChunk (chunk : Nat)
  | foreignSchema (chunk : Nat)
  | trailing (count : Nat)
deriving DecidableEq

def FormatError.message : FormatError → String
  | badMagic => "not a snapshot file (bad magic)"
  | version found => "unsupported snapshot version " ++ toString found
  | truncated part => "file truncated while reading " ++ part.name
  | conflict c => "schema mismatch: " ++ c.message
  | checksum chunk => "checksum mismatch in chunk " ++ toString chunk
  | chunkRows chunk expected actual =>
    "chunk " ++ toString chunk ++ " holds " ++ toString actual ++ " rows, directory says " ++
      toString expected
  | rowCount expected actual =>
    "reconstructed " ++ toString actual ++ " rows, header declares " ++ toString expected
  | missingTrailer => "missing or damaged trailer (partial file?)"
  | rowTooLarge row encoded limit =>
    "row " ++ toString row ++ " encodes to " ++ toString encoded ++ " bytes, above the " ++
      toString limit ++ "-byte chunk limit"
  | unreadableSchema => "unreadable schema"
  | unreadableChunk chunk => "chunk " ++ toString chunk
  | foreignSchema chunk => "chunk " ++ toString chunk ++ ": schema differs from the header"
  | trailing count => toString count ++ " unexpected bytes after trailer"

/-! ## The format -/

/-- The first bytes of a snapshot: `VDBSNAP` and a zero. -/
def magic : Bytes := [0x56, 0x44, 0x42, 0x53, 0x4e, 0x41, 0x50, 0]

/-- The first bytes of the trailer: `VDBSEND` and a zero. -/
def trailerMagic : Bytes := [0x56, 0x44, 0x42, 0x53, 0x45, 0x4e, 0x44, 0]

def formatVersion : Nat := 1

/-- Where the number of segments stands. -/
def countPlace : Nat := 20

/-- A file is at least as long as a header without a schema and the trailer. -/
def leastLength : Nat := countPlace + 8 + 8 + 16

structure Segment where
  rows : Nat
  checksum : UInt64
  payload : Bytes
deriving DecidableEq

/-- A snapshot taken apart. -/
structure Layout where
  totalRows : Nat
  /-- The schema as it stands in the file. -/
  schemaBytes : Bytes
  schema : DeclaredSchema
  segments : List Segment

/-! ## Writing -/

def header (totalRows count : Nat) (schemaBytes : Bytes) : Bytes :=
  magic ++ Bytes.ofNat 4 formatVersion ++ Bytes.ofNat 8 totalRows ++ Bytes.ofNat 8 count ++
    Bytes.ofNat 8 schemaBytes.length ++ schemaBytes

/-- What a segment declares in front of its payload. -/
def Segment.header (s : Segment) : Bytes :=
  Bytes.ofNat 8 s.rows ++ Bytes.ofNat 8 s.payload.length ++ Bytes.ofNat 8 s.checksum.toNat

def Segment.encode (s : Segment) : Bytes := s.header ++ s.payload

def trailer (count : Nat) : Bytes := trailerMagic ++ Bytes.ofNat 8 count

/-- The file of a layout, with a given number in the place of the number of segments. -/
def Layout.encodeWith (count : Nat) (l : Layout) : Bytes :=
  header l.totalRows count l.schemaBytes ++ l.segments.flatMap Segment.encode ++
    trailer l.segments.length

/-- The file of a layout. -/
def Layout.encode (l : Layout) : Bytes := l.encodeWith l.segments.length

/-- The file as it is while its segments are being written: it declares none. -/
def Layout.draft (l : Layout) : Bytes := l.encodeWith 0

/-- The finished file of a draft. -/
def finish (draft : Bytes) (count : Nat) : Bytes := draft.overwrite countPlace (Bytes.ofNat 8 count)

/-! ## Reading -/

/-- The first `n` bytes and the bytes after them. -/
def cut (part : Part) (n : Nat) (b : Bytes) : Except FormatError (Bytes × Bytes) :=
  let front := b.take n
  if front.length = n then .ok (front, b.drop n) else .error (.truncated part)

/-- A number of `n` bytes and the bytes after it. -/
def cutNumber (part : Part) (n : Nat) (b : Bytes) : Except FormatError (Nat × Bytes) :=
  (cut part n b).map fun (front, rest) => (Bytes.toNat front, rest)

/-- One segment and the bytes after it. -/
def Segment.parse (b : Bytes) : Except FormatError (Segment × Bytes) := do
  let (rows, b) ← cutNumber .chunkHeader 8 b
  let (length, b) ← cutNumber .chunkHeader 8 b
  let (checksum, b) ← cutNumber .chunkHeader 8 b
  let (payload, b) ← cut .chunkPayload length b
  return (⟨rows, UInt64.ofNat checksum, payload⟩, b)

/-- So many segments and the bytes after them. -/
def parseSegments : (count : Nat) → Bytes → Except FormatError (List Segment × Bytes)
  | 0, b => .ok ([], b)
  | count + 1, b =>
    match Segment.parse b with
    | .error e => .error e
    | .ok (s, b) =>
      match parseSegments count b with
      | .error e => .error e
      | .ok (rest, b) => .ok (s :: rest, b)

/-- The sum of row counts, at most the greatest number of 64 bits. -/
def rowSum (segments : List Segment) : Nat :=
  segments.foldl (fun n s => min (2 ^ 64 - 1) (n + s.rows)) 0

/-- Goes on only if the condition holds. -/
def require (condition : Bool) (e : FormatError) : Except FormatError Unit :=
  if condition then .ok () else .error e

/-- What an option holds, if it holds something. -/
def need {α : Type} (e : FormatError) : Option α → Except FormatError α
  | some a => .ok a
  | none => .error e

/-- Takes a file apart.  Of several faults the first one in the file is reported; a row count
that does not fit comes last. -/
def Layout.parse (file : Bytes) : Except FormatError Layout := do
  let (front, b) ← cut .magic 8 file
  require (front == magic) .badMagic
  let (found, b) ← cutNumber .version 4 b
  require (found == formatVersion) (.version found)
  let (totalRows, b) ← cutNumber .rowCount 8 b
  let (count, b) ← cutNumber .chunkCount 8 b
  let (schemaLength, b) ← cutNumber .schemaLength 8 b
  let (schemaBytes, b) ← cut .schema schemaLength b
  let schema ← need .unreadableSchema (Wire.decodeSchema? schemaBytes)
  let (segments, b) ← parseSegments count b
  require (b.take 16 == trailer count) .missingTrailer
  let extra := b.drop 16
  require extra.isEmpty (.trailing extra.length)
  let actual := rowSum segments
  require (actual == totalRows) (.rowCount totalRows actual)
  return ⟨totalRows, schemaBytes, schema, segments⟩

/-- Takes a file apart, after a look at its length. -/
def read (file : Bytes) : Except FormatError Layout :=
  if (file.take leastLength).length < leastLength then .error (.truncated .header)
  else Layout.parse file

/-! ## Places -/

/-- Where the payloads of segments begin, the first segment beginning at a given place. -/
def payloadPlaces : (place : Nat) → List Segment → List Nat
  | _, [] => []
  | place, s :: rest => (place + 24) :: payloadPlaces (place + 24 + s.payload.length) rest

/-- What a file says about a segment, and where the segment's payload begins. -/
structure SegmentInfo where
  index : Nat
  rows : Nat
  length : Nat
  checksum : UInt64
  place : Nat
deriving DecidableEq

/-- The segments as the file describes them; the first one has a given index and begins at a given
place. -/
def describe : (index place : Nat) → List Segment → List SegmentInfo
  | _, _, [] => []
  | index, place, s :: rest =>
    ⟨index, s.rows, s.payload.length, s.checksum, place + 24⟩ ::
      describe (index + 1) (place + 24 + s.payload.length) rest

/-- The length of the longest payload, 0 if there is none. -/
def longest (chunks : List SegmentInfo) : Nat := chunks.foldl (fun n i => max n i.length) 0

/-- What a file says about itself.  No payload is part of it. -/
structure SnapshotInfo where
  fileSize : Nat
  version : Nat
  totalRows : Nat
  chunkCount : Nat
  schema : DeclaredSchema
  chunks : List SegmentInfo
deriving DecidableEq

def SnapshotInfo.largestChunk (i : SnapshotInfo) : Nat := longest i.chunks

namespace Layout

/-- Where the payload of each segment begins in the file. -/
def places (l : Layout) : List Nat :=
  payloadPlaces (leastLength - 16 + l.schemaBytes.length) l.segments

/-- The segments as the file describes them. -/
def contents (l : Layout) : List SegmentInfo :=
  describe 0 (leastLength - 16 + l.schemaBytes.length) l.segments

/-- The length of the longest payload. -/
def largestChunk (l : Layout) : Nat := longest l.contents

/-- What a file of a given size says about itself. -/
def info (size : Nat) (l : Layout) : SnapshotInfo :=
  ⟨size, formatVersion, l.totalRows, l.segments.length, l.schema, l.contents⟩

end Layout

end Columnar.Snapshot

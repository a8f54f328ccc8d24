/-
# `Report.Inspection` — what a snapshot file contains

The header and the segments of a snapshot, as lines of text or as JSON.  No
payload is read for it.
-/
import Columnar.Report.Json
import Columnar.Snapshot.Store

namespace Columnar.Report

open Snapshot

/-! ## Lines -/

/-- A line with a label. -/
def labelled (label value : String) : String := Text.padRight 16 label ++ " " ++ value

def columnLine (f : DeclaredField) : String :=
  "  " ++ Text.padRight 24 f.name ++ " " ++ Text.padRight 20 f.type.name ++ " " ++
    (if f.nullable then "null" else "not null")

def segmentLine (s : SegmentInfo) : String :=
  "  chunk " ++ Text.padRight 6 (toString s.index) ++ " rows=" ++ Text.padRight 10 (toString s.rows) ++
    " bytes=" ++ Text.padRight 12 (toString s.length) ++ " xxh3=" ++ Text.hex 16 s.checksum.toNat

/-- The lines about a snapshot. -/
def inspectionLines (i : SnapshotInfo) : List String :=
  [labelled "Version:" (toString i.version),
    labelled "Size:" (toString i.fileSize ++ " bytes"),
    labelled "Rows:" (toString i.totalRows),
    labelled "Chunks:" (toString i.chunkCount),
    labelled "Largest chunk:" (toString i.largestChunk ++ " bytes")] ++
    i.schema.columns.map columnLine ++ i.chunks.map segmentLine

/-! ## JSON -/

def columnJson (f : DeclaredField) : Json :=
  .record [("name", .text f.name), ("data_type", .text f.type.name), ("nullable", .bool f.nullable)]

def segmentJson (s : SegmentInfo) : Json :=
  .record [("index", .number s.index), ("row_count", .number s.rows), ("byte_len", .number s.length),
    ("checksum", .number s.checksum.toNat), ("offset", .number s.place)]

/-- The report about a snapshot. -/
def inspectionJson (i : SnapshotInfo) : Json :=
  .record [("file_size", .number i.fileSize), ("version", .number i.version),
    ("total_rows", .number i.totalRows), ("chunk_count", .number i.chunkCount),
    ("columns", .list (i.schema.columns.map columnJson)),
    ("chunks", .list (i.chunks.map segmentJson))]

/-- The report about a snapshot that was written. -/
def summaryJson (s : Summary) : Json :=
  .record [("rows", .number s.rows), ("chunks", .number s.chunks),
    ("bytes_written", .number s.bytesWritten)]

end Columnar.Report

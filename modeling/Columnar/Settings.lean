/-
# `Settings` — what a user may configure

Settings are kept in a TOML document of two tables, `snapshot` and
`logging`.  What the document does not mention has its default, and what it
mentions beyond that does not count.  `Settings.text?` writes the document,
`Settings.ofText` reads it.
-/
import Columnar.Toml.Document

namespace Columnar

/-- The greatest length of a chunk: the greatest number of 32 bits with a sign. -/
def chunkLimit : Nat := 2147483647

structure Settings where
  /-- The greatest length of a chunk in bytes. -/
  maxChunkBytes : Nat
  /-- Whether a file is flushed to disk before it takes its name. -/
  sync : Bool
  /-- The extension of snapshots that are named without one. -/
  fileExtension : String
  /-- Which events are logged. -/
  logFilter : String
deriving DecidableEq

/-- Why a document holds no settings. -/
inductive SettingsError where
  | invalid
  | limitOutOfRange (limit : Nat)
deriving DecidableEq, Repr

def SettingsError.message : SettingsError → String
  | invalid => "invalid TOML"
  | limitOutOfRange limit =>
    "snapshot.max_chunk_bytes must be in 1..=" ++ toString chunkLimit ++ ", got " ++ toString limit

namespace Settings

open Toml

/-- The settings of a user who configured nothing. -/
def default : Settings := ⟨chunkLimit, true, "vdbsnap", "warn"⟩

/-! ## Reading -/

/-- The values of the fields named, from a table by their names or from an array by their
places.  A time has none of them; other values have no fields. -/
def fields? (names : List String) : Value → Option (List (Option Value))
  | .table _ es => some (names.map (Entries.value? es))
  | .array vs => some (names.mapIdx fun i _ => vs[i]?)
  | .tables ts => some (names.mapIdx fun i _ => ts[i]?.map (Value.table .header))
  | .time => some (names.map fun _ => none)
  | _ => none

/-- A whole number that is not negative. -/
def count? : Value → Option Nat
  | .int i => if 0 ≤ i then some i.toNat else none
  | _ => none

def flag? : Value → Option Bool
  | .bool b => some b
  | _ => none

def text? : Value → Option String
  | .text s => some s
  | _ => none

/-- What a field holds, or its default if it is missing. -/
def orDefault {α : Type} (default : α) (read : Value → Option α) : Option Value → Option α
  | none => some default
  | some v => read v

/-- The settings in the two tables of a document; the limit is not checked. -/
def ofEntries? (es : Entries) : Option Settings := do
  let snapshot := (es.value? "snapshot").getD (.table .header [])
  let logging := (es.value? "logging").getD (.table .header [])
  match ← fields? ["max_chunk_bytes", "sync", "file_extension"] snapshot,
      ← fields? ["filter"] logging with
  | [limit, sync, extension], [filter] =>
    let limit ← orDefault default.maxChunkBytes count? limit
    let sync ← orDefault default.sync flag? sync
    let extension ← orDefault default.fileExtension text? extension
    let filter ← orDefault default.logFilter text? filter
    return ⟨limit, sync, extension, filter⟩
  | _, _ => none

/-- The settings a document holds. -/
def ofText (s : String) : Except SettingsError Settings :=
  match (Document.read? s).bind ofEntries? with
  | none => .error .invalid
  | some settings =>
    if 1 ≤ settings.maxChunkBytes && settings.maxChunkBytes ≤ chunkLimit then .ok settings
    else .error (.limitOutOfRange settings.maxChunkBytes)

/-! ## Writing -/

/-- A line `key = value`. -/
def line (key : String) (value : List Char) : List Char :=
  key.toList ++ [' ', '=', ' '] ++ value ++ ['\n']

/-- The document that holds the settings; a limit beyond 64 bits with a sign cannot be written. -/
def document? (s : Settings) : Option String :=
  if (s.maxChunkBytes : Int) ≤ Number.greatestInt64 then
    some (String.ofList
      ("[snapshot]\n".toList ++
        line "max_chunk_bytes" (toString s.maxChunkBytes).toList ++
        line "sync" (toString s.sync).toList ++
        line "file_extension" (write s.fileExtension.toList) ++
        "\n[logging]\n".toList ++
        line "filter" (write s.logFilter.toList)))
  else none

end Settings

end Columnar

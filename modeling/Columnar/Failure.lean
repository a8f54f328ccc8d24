/-
# `Failure` — why an operation fails

One type for the causes that reach a user.  `message` is the cause in its own
words, `summary` says also what kind of cause it is.
-/
import Columnar.Directory
import Columnar.Filter.Parser
import Columnar.Filter.Selection
import Columnar.Settings
import Columnar.Snapshot.Layout

namespace Columnar

/-- Why an operation fails. -/
inductive Failure where
  | file (error : FileError)
  | parse (error : Filter.ParseError)
  | select (error : Filter.SelectError)
  | format (error : Snapshot.FormatError)
  | settings (error : SettingsError)
  /-- A chunk limit that no snapshot can be written with. -/
  | limit (limit : Nat)

namespace Failure

/-- The cause in its own words. -/
def message : Failure → String
  | file e => e.message
  | parse e => e.message
  | select e => e.message
  | format e => e.message
  | settings e => e.message
  | limit n => "max_chunk_bytes must be in 1..=" ++ toString chunkLimit ++ ", got " ++ toString n

/-- The kind of cause, for those that are told apart by it. -/
def kind? : Failure → Option String
  | file _ => some "IO error: "
  | parse _ => some "filter error: "
  | select (.missingColumn _ _) => some "Arrow error: "
  | select _ => none
  | format _ => some "snapshot format error: "
  | settings _ => some "config error: "
  | limit _ => none

/-- The kind of cause and the cause. -/
def summary (f : Failure) : String := f.kind?.getD "" ++ f.message

/-- An operation on files as one that may fail for other causes too. -/
def ofFile {α : Type} (r : Except FileError α) : Except Failure α := r.mapError .file

/-- An operation on the format of snapshots as one that may fail for other causes too. -/
def ofFormat {α : Type} (r : Except Snapshot.FormatError α) : Except Failure α :=
  r.mapError .format

end Failure

end Columnar

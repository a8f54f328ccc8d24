/-
# `Command.Run` — carrying out commands

A command acts on a directory and leaves a directory behind; what it says
goes to two texts, and a number tells whether it succeeded.
-/
import Columnar.Command.Help
import Columnar.Demo
import Columnar.Filter.Canonical
import Columnar.Report.Inspection
import Columnar.Report.Preview
import Columnar.Settings.Store

namespace Columnar.Command

open Columnar.Filter

/-- What a command says. -/
structure Outcome where
  code : Nat
  output : String
  errors : String
deriving DecidableEq

namespace Outcome

/-- Success, with lines of output. -/
def lines (output : List String) : Outcome := ⟨0, String.join (output.map (· ++ "\n")), ""⟩

/-- A failure, for a reason in one line. -/
def because (reason : String) : Outcome := ⟨1, "", "Error: " ++ reason ++ "\n"⟩

/-- A failure; a cause that is of a kind is told once more by itself. -/
def failure (f : Failure) : Outcome :=
  let cause := if f.kind?.isSome then "\nCaused by:\n    " ++ f.message ++ "\n" else ""
  ⟨1, "", "Error: " ++ f.summary ++ "\n" ++ cause⟩

end Outcome

/-! ## Commands that only read -/

/-- The canonical form of a filter, or its first fault with a mark below the place. -/
def check (filter : String) (columns : Schema) : Outcome :=
  match parse columns filter with
  | .ok e => .lines [e.canonical]
  | .error e =>
    let spaces := String.ofList (List.replicate (min e.position filter.utf8ByteSize) ' ')
    let refused := Outcome.because e.message
    { refused with errors := filter ++ "\n" ++ spaces ++ "^\n" ++ refused.errors }

/-- The description of a snapshot. -/
def inspect (p : Path) (json : Bool) (d : Directory) : Outcome :=
  match Snapshot.info d p with
  | .error e => .failure e
  | .ok i =>
    if json then .lines [(Report.inspectionJson i).write] else .lines (Report.inspectionLines i)

/-- The number of rows and, if some are to be shown, a table of the first ones. -/
def rows (preview : Nat) (b : Batch) : Outcome :=
  let count := Report.labelled "Rows:" (toString b.rows)
  if preview = 0 then .lines [count]
  else .lines [count, Report.preview (b.slice 0 (min preview b.rows))]

/-- The rows of a snapshot that a filter selects. -/
def load (p : Path) (filter : Option String) (preview : Nat) (d : Directory) : Outcome :=
  match Snapshot.fetchAsStored d p with
  | .error e => .failure e
  | .ok b =>
    match filter with
    | none => rows preview b
    | some text =>
      match parse b.schema text with
      | .error e => .because e.message
      | .ok e =>
        match e.select b with
        | .error e => .failure (.select e)
        | .ok kept => rows preview kept

/-! ## Paths of snapshots -/

/-- A written path without slashes and single points behind it; the last character comes
first. -/
def trimmed : List Char → List Char
  | '/' :: rest => trimmed rest
  | '.' :: '/' :: rest => trimmed rest
  | path => path

/-- The written path with an extension, unless it has one.  Neither a name that begins with its
only point has one, nor a path without a name. -/
def withExtension (extension path : String) : String :=
  let reversed := trimmed path.toList.reverse
  let name := reversed.takeWhile (· != '/')
  if name = [] || name = ['.'] || name = ['.', '.'] || name.dropLast.any (· = '.') then path
  else
    String.ofList reversed.reverse ++ if extension = "" then "" else "." ++ extension

/-! ## Commands -/

/-- Saves a table of so many rows. -/
def demo (base : Place) (settings : Settings) (path : String) (count : Nat) (limit : Option Nat)
    (d : Directory) : Directory × Outcome :=
  let path := withExtension settings.fileExtension path
  match Snapshot.save (limit.getD settings.maxChunkBytes) (.within base path)
    (Demo.batch count) d with
  | (d, .error e) => (d, .failure e)
  | (d, .ok summary) => (d, .lines [path ++ ": " ++ (Report.summaryJson summary).write])

/-- Carries out a command in a folder of a directory.  Of the completions for a shell only the
first line is answered, not the script behind it. -/
def run (base : Place) (settings : Settings) (a : Action) (d : Directory) : Directory × Outcome :=
  match a with
  | .check filter columns => (d, check filter columns)
  | .inspect path json => (d, inspect (.within base path) json d)
  | .load path filter preview => (d, load (.within base path) filter preview d)
  | .demo path count limit => demo base settings path count limit d
  | .completions shell => (d, .lines [shell.opening])

/-- Carries out a command line.  Settings that cannot be read count as the default ones. -/
def execute (base : Place) (config : Path) (arguments : List String) (d : Directory) :
    Directory × Outcome :=
  match read arguments with
  | .error e => (d, ⟨2, "", e.message⟩)
  | .ok (.help topic) => (d, ⟨0, topic.text, ""⟩)
  | .ok .version => (d, .lines [versionText])
  | .ok (.run a) => run base (Settings.loadOrDefault d config) a d

end Columnar.Command

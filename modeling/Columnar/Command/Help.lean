/-
# `Command.Help` — what the program says about itself

The help of the program and of each verb, the messages for command lines that
are not understood, and where completions begin.
-/
import Columnar.Command.Arguments

namespace Columnar.Command

/-- What the program is. -/
def about : String := "Filter compiler and snapshot tool for vector tables"

def versionText : String := "vdb 0.1.0"

/-- What a verb does. -/
def Verb.about : Verb → String
  | check => "Parse a filter and print its canonical form"
  | inspect => "Print the header and chunk directory of a snapshot"
  | load => "Load a snapshot, optionally filtering it"
  | demo =>
    "Write a synthetic snapshot (id, label, score); a path without an extension gets the " ++
      "configured snapshot extension"
  | completions => "Print shell completions"

/-- What the help does. -/
def helpAbout : String := "Print this message or the help of the given subcommand(s)"

/-! ## Help -/

/-- Names and what is said about them, in two columns. -/
def entries (lines : List (String × String)) : List String :=
  let width := (lines.map (·.1.length)).foldl max 0
  lines.map fun (name, note) => "  " ++ Text.padRight width name ++ "  " ++ note

/-- A part of a help text. -/
def part (title : String) (lines : List (String × String)) : List String :=
  "" :: (title ++ ":") :: entries lines

/-- A help text: what its topic does, how that is written, and the parts. -/
def helpPage (about usage : String) (parts : List (List String)) : String :=
  "\n".intercalate ([about, "", "Usage: vdb " ++ usage] ++ parts.flatten ++ [""])

def helpOption : String × String := ("-h, --help", "Print help")

def topHelp : String :=
  helpPage about "<COMMAND>"
    [part "Commands" (Verb.all.map (fun v => (v.name, v.about)) ++ [("help", helpAbout)]),
      part "Options" [helpOption, ("-V, --version", "Print version")]]

/-- How a parameter stands in the usage of its verb. -/
def Parameter.usage (p : Parameter) : String := if p.required then " " ++ p.shown else ""

/-- The usage of a verb. -/
def Verb.usage (v : Verb) : String :=
  v.name ++ (if v.options.any (!·.required) then " [OPTIONS]" else "") ++
    String.join (v.options.map Parameter.usage) ++ v.operand.usage

def Verb.help (v : Verb) : String :=
  helpPage v.about v.usage
    [part "Arguments" [(v.operand.shown, v.operand.note)],
      part "Options" (v.options.map (fun p => ("    " ++ p.shown, p.note)) ++ [helpOption])]

/-- The help about a topic. -/
def Topic.text : Topic → String
  | program => topHelp
  | verb v => v.help
  | help =>
    helpPage helpAbout "help [COMMAND]..."
      [part "Arguments" [("[COMMAND]...", "Print help for the subcommand(s)")]]

/-! ## Messages -/

/-- The message about a value that is not accepted. -/
def Refusal.message (parameter value : String) : Refusal → String
  | missing => "a value is required for '" ++ parameter ++ "' but none was supplied"
  | unlisted => "invalid value '" ++ value ++ "' for '" ++ parameter ++ "'"
  | because reason => "invalid value '" ++ value ++ "' for '" ++ parameter ++ "': " ++ reason

/-- The text about a command line that is not understood. -/
def UsageError.message : UsageError → String
  | noCommand => topHelp
  | unknownCommand word => "error: unrecognized subcommand '" ++ word ++ "'\n"
  | unexpectedArgument word => "error: unexpected argument '" ++ word ++ "' found\n"
  | unexpectedValue parameter value =>
    "error: unexpected value '" ++ value ++ "' for '" ++ parameter ++
      "' found; no more were expected\n"
  | refused parameter value refusal => "error: " ++ refusal.message parameter value ++ "\n"
  | repeated parameter =>
    "error: the argument '" ++ parameter ++ "' cannot be used multiple times\n"
  | missingArguments => "error: the following required arguments were not provided:\n"

/-! ## Completions -/

/-- The first line of a shell's completions.  The script behind it is the shell's concern: nothing
here depends on it, so it is left out. -/
def Shell.opening : Shell → String
  | bash => "_vdb() \x7b"
  | zsh => "#compdef vdb"
  | fish =>
    "# Print an optspec for argparse to handle cmd's options that are independent of any " ++
      "subcommand."
  | elvish => ""
  | powershell => ""

end Columnar.Command

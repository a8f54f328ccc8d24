/-
# `Command.Arguments` — reading a command line

A command line is a verb, one operand and options.  An option's value is the
next word, or stands behind `=` in the same word; behind `--` every word is
an operand.  A value is examined when the next option or operand comes, or at
the end, so a word that no verb knows is reported before a bad value in front
of it.
-/
import Columnar.DataType

namespace Columnar.Command

/-! ## Commands -/

/-- The shells that completions can be made for. -/
inductive Shell where
  | bash
  | elvish
  | fish
  | powershell
  | zsh
deriving DecidableEq, Repr

/-- What the program can do. -/
inductive Verb where
  | check
  | inspect
  | load
  | demo
  | completions
deriving DecidableEq, Repr

/-- What the program is asked to do. -/
inductive Action where
  /-- Says whether a text is a filter for columns. -/
  | check (filter : String) (columns : Schema)
  /-- Describes a snapshot. -/
  | inspect (path : String) (json : Bool)
  /-- Counts the rows of a snapshot that a filter selects and shows the first of them. -/
  | load (path : String) (filter : Option String) (preview : Nat)
  /-- Saves a table to try things with. -/
  | demo (path : String) (rows : Nat) (limit : Option Nat)
  | completions (shell : Shell)

/-- What help can be about. -/
inductive Topic where
  | program
  | verb (verb : Verb)
  /-- The help itself. -/
  | help
deriving DecidableEq, Repr

/-- An action, or a question about the program. -/
inductive Request where
  | run (action : Action)
  | help (topic : Topic)
  | version

def Verb.name : Verb → String
  | check => "check"
  | inspect => "inspect"
  | load => "load"
  | demo => "demo"
  | completions => "completions"

def Verb.all : List Verb := [.check, .inspect, .load, .demo, .completions]

/-- The verb with a name. -/
def Verb.ofName? (name : String) : Option Verb := Verb.all.find? (·.name = name)

/-! ## Errors -/

/-- Why a value is not accepted. -/
inductive Refusal where
  /-- There is no value. -/
  | missing
  /-- The value is none of those there are. -/
  | unlisted
  | because (reason : String)
deriving DecidableEq

/-- Why a command line is not understood. -/
inductive UsageError where
  | noCommand
  | unknownCommand (word : String)
  | unexpectedArgument (word : String)
  | unexpectedValue (parameter value : String)
  | refused (parameter value : String) (refusal : Refusal)
  | repeated (parameter : String)
  | missingArguments
deriving DecidableEq

/-! ## Values -/

/-- A whole number below `2 ^ 64`, digit by digit; the first fault is reported. -/
def countFrom : (n : Nat) → List Char → Except Refusal Nat
  | n, [] => .ok n
  | n, c :: rest =>
    if !Text.isDigit c then .error (.because "invalid digit found in string")
    else if 2 ^ 64 ≤ 10 * n + Text.digitValue c then
      .error (.because "number too large to fit in target type")
    else countFrom (10 * n + Text.digitValue c) rest

/-- A whole number below `2 ^ 64`, with an optional plus sign. -/
def count (s : String) : Except Refusal Nat :=
  match s.toList with
  | [] => .error (.because "cannot parse integer from empty string")
  | ['+'] => .error (.because "invalid digit found in string")
  | '+' :: digits => countFrom 0 digits
  | digits => countFrom 0 digits

/-- The type that a word stands for. -/
def typeNamed? (word : String) : Option DataType :=
  match word with
  | "int8" => some (.int true .w8)
  | "int16" => some (.int true .w16)
  | "int32" => some (.int true .w32)
  | "int" => some (.int true .w32)
  | "int64" => some (.int true .w64)
  | "long" => some (.int true .w64)
  | "uint8" => some (.int false .w8)
  | "uint16" => some (.int false .w16)
  | "uint32" => some (.int false .w32)
  | "uint64" => some (.int false .w64)
  | "float32" => some (.float .single)
  | "float" => some (.float .single)
  | "float64" => some (.float .double)
  | "double" => some (.float .double)
  | "utf8" => some (.text false)
  | "string" => some (.text false)
  | "bool" => some .bool
  | "boolean" => some .bool
  | _ => none

/-- A column, from its name and its type with a colon between them. -/
def column (s : String) : Except Refusal Field :=
  let name := String.ofList (s.toList.takeWhile (· != ':'))
  match s.toList.dropWhile (· != ':') with
  | [] => .error (.because ("expected name:type, got '" ++ s ++ "'"))
  | _ :: rest =>
    if name = "" then .error (.because ("empty column name in '" ++ s ++ "'"))
    else
      let word := Text.lowerAscii (String.ofList rest)
      match typeNamed? word with
      | some t => .ok ⟨name, t, true⟩
      | none => .error (.because ("unknown column type '" ++ word ++ "'"))

/-- A path is not empty. -/
def path (s : String) : Except Refusal String :=
  if s = "" then .error .missing else .ok s

def shell (s : String) : Except Refusal Shell :=
  match s with
  | "bash" => .ok .bash
  | "elvish" => .ok .elvish
  | "fish" => .ok .fish
  | "powershell" => .ok .powershell
  | "zsh" => .ok .zsh
  | "" => .error .missing
  | _ => .error .unlisted

/-! ## Parameters -/

/-- An option or an operand of a verb. -/
structure Parameter where
  /-- What is written behind `--`; nothing for an operand. -/
  name : String
  /-- How messages name it. -/
  shown : String
  takesValue : Bool
  /-- What help says about its values. -/
  note : String
  /-- It may be given several times. -/
  many : Bool
  /-- It may not be left out. -/
  required : Bool
  examine : String → Except Refusal Unit

/-- The examination that a reader of values makes. -/
def examining {α : Type} (read : String → Except Refusal α) (s : String) : Except Refusal Unit :=
  (read s).map fun _ => ()

/-- A word that has to be there. -/
def operand (shown note : String) (examine : String → Except Refusal Unit) : Parameter :=
  ⟨"", shown, true, note, false, true, examine⟩

/-- An option with a value, which may be left out. -/
def option (name placeholder note : String) (examine : String → Except Refusal Unit) : Parameter :=
  ⟨name, "--" ++ name ++ " <" ++ placeholder ++ ">", true, note, false, false, examine⟩

def jsonFlag : Parameter := ⟨"json", "--json", false, "", false, false, fun _ => .ok ()⟩

def columnOption : Parameter :=
  ⟨"column", "--column <COLUMNS>", true, "", true, true, examining column⟩

/-- What a verb is about. -/
def Verb.operand : Verb → Parameter
  | check => Command.operand "<FILTER>" "" fun _ => .ok ()
  | inspect => Command.operand "<PATH>" "" (examining path)
  | load => Command.operand "<PATH>" "" (examining path)
  | demo => Command.operand "<PATH>" "" (examining path)
  | completions =>
    Command.operand "<SHELL>" "[possible values: bash, elvish, fish, powershell, zsh]"
      (examining shell)

/-- Rows of the table to try things with, unless a number is given. -/
def demoRows : Nat := 100000

/-- The note about the value of an option that is left out. -/
def defaultNote (value : Nat) : String := "[default: " ++ toString value ++ "]"

/-- The options of a verb. -/
def Verb.options : Verb → List Parameter
  | check => [columnOption]
  | inspect => [jsonFlag]
  | load =>
    [option "filter" "FILTER" "" fun _ => .ok (),
      option "preview" "PREVIEW" (defaultNote 0) (examining count)]
  | demo =>
    [option "rows" "ROWS" (defaultNote demoRows) (examining count),
      option "max-chunk-bytes" "MAX_CHUNK_BYTES" "" (examining count)]
  | completions => []

/-! ## Reading -/

/-- The words that have been read: values by the names of their parameters, the last one first,
and a parameter whose value has not been examined or has not come yet. -/
structure Reading where
  given : List (String × String)
  pending : Option (Parameter × Option String)

namespace Reading

def start : Reading := ⟨[], none⟩

/-- The parameter has been given. -/
def has (r : Reading) (p : Parameter) : Bool := r.given.any (·.1 = p.name)

/-- Takes a value of a parameter. -/
def take (r : Reading) (p : Parameter) (value : String) : Except UsageError Reading :=
  if !p.many && r.has p then .error (.repeated p.shown)
  else
    match p.examine value with
    | .error refusal => .error (.refused p.shown value refusal)
    | .ok _ => .ok ⟨(p.name, value) :: r.given, none⟩

/-- Settles what is pending. -/
def settle (r : Reading) : Except UsageError Reading :=
  match r.pending with
  | none => .ok r
  | some (p, none) => .error (.refused p.shown "" .missing)
  | some (p, some value) => take r p value

/-- The operand has been given, be it examined or not. -/
def hasOperand (v : Verb) (r : Reading) : Bool :=
  r.has v.operand || r.pending.any fun p => p.1.name = v.operand.name

/-- A word that is not an option. -/
def operand (v : Verb) (r : Reading) (word : String) : Except UsageError Reading :=
  if r.hasOperand v then .error (.unexpectedArgument word)
  else r.settle.map fun r => { r with pending := some (v.operand, some word) }

/-- An option, by its name and the value attached to it; `none` is a request for help. -/
def option (v : Verb) (r : Reading) (name : String) (attached : Option String) :
    Except UsageError (Option Reading) :=
  if name = "help" then
    match attached with
    | some value => .error (.unexpectedValue "--help" value)
    | none => r.settle.map fun _ => none
  else
    match v.options.find? (·.name = name) with
    | none => .error (.unexpectedArgument ("--" ++ name))
    | some p =>
      match p.takesValue, attached with
      | true, some value => do return some (← (← r.settle).take p value)
      | true, none => r.settle.map fun r => some { r with pending := some (p, none) }
      | false, some value => .error (.unexpectedValue p.shown value)
      | false, none => do return some (← (← r.settle).take p "")

end Reading

/-- A word that begins with two hyphens: the name behind them, and the value behind `=`. -/
def longName (word : List Char) : String × Option String :=
  let body := word.drop 2
  (String.ofList (body.takeWhile (· != '=')),
    match body.dropWhile (· != '=') with
    | [] => none
    | _ :: value => some (String.ofList value))

/-- Reads the words of a verb; `none` is a request for help. -/
def readWords (v : Verb) : (free : Bool) → Reading → List String →
    Except UsageError (Option Reading)
  | _, r, [] => r.settle.map some
  | true, r, word :: rest =>
    match r.operand v word with
    | .error e => .error e
    | .ok r => readWords v true r rest
  | false, r, word :: rest =>
    match word.toList with
    | ['-', '-'] => readWords v true r rest
    | '-' :: '-' :: _ =>
      let (name, attached) := longName word.toList
      match r.option v name attached with
      | .error e => .error e
      | .ok none => .ok none
      | .ok (some r) => readWords v false r rest
    | '-' :: c :: _ =>
      if c = 'h' then r.settle.map fun _ => none
      else .error (.unexpectedArgument (String.ofList ['-', c]))
    | _ =>
      match r.pending with
      | some (p, none) => readWords v false { r with pending := some (p, some word) } rest
      | _ =>
        match r.operand v word with
        | .error e => .error e
        | .ok r => readWords v false r rest

/-! ## Requests -/

namespace Reading

/-- The values of a parameter, in the order in which they were given. -/
def values (r : Reading) (name : String) : List String :=
  (r.given.filter (·.1 = name)).reverse.map (·.2)

/-- The value of a parameter that is a number. -/
def number? (r : Reading) (name : String) : Option Nat :=
  (r.values name).head?.bind fun s => (count s).toOption

/-- The action of a verb with everything that it needs. -/
def action? (v : Verb) (r : Reading) : Option Action := do
  let about ← (r.values v.operand.name).head?
  match v with
  | .check =>
    let columns := (r.values "column").filterMap fun s => (column s).toOption
    if columns.isEmpty then none else some (.check about columns)
  | .inspect => some (.inspect about (r.has jsonFlag))
  | .load => some (.load about (r.values "filter").head? ((r.number? "preview").getD 0))
  | .demo => some (.demo about ((r.number? "rows").getD demoRows) (r.number? "max-chunk-bytes"))
  | .completions => (shell about).toOption.map .completions

end Reading

/-- The request of the words behind a verb. -/
def readVerb (v : Verb) (words : List String) : Except UsageError Request := do
  match ← readWords v false Reading.start words with
  | none => return .help (.verb v)
  | some r =>
    match r.action? v with
    | some a => return .run a
    | none => throw .missingArguments

/-- The topic that a word names. -/
def Topic.ofName? (word : String) : Option Topic :=
  if word = "help" then some .help else (Verb.ofName? word).map .verb

/-- The request of the words behind `help`: one topic, or none. -/
def readHelp : List String → Except UsageError Request
  | [] => .ok (.help .program)
  | word :: rest =>
    match Topic.ofName? word, rest with
    | none, _ => .error (.unknownCommand word)
    | some topic, [] => .ok (.help topic)
    | some _, next :: _ => .error (.unknownCommand next)

/-- The request of a command line. -/
def read : List String → Except UsageError Request
  | [] => .error .noCommand
  | word :: rest =>
    match Verb.ofName? word with
    | some v => readVerb v rest
    | none =>
      if word = "help" then readHelp rest
      else
        match word.toList with
        | ['-', '-'] =>
          match rest with
          | [] => .error .noCommand
          | next :: _ =>
            if (Topic.ofName? next).isSome then .error (.unexpectedArgument next)
            else .error (.unknownCommand next)
        | '-' :: '-' :: _ =>
          match longName word.toList with
          | ("help", none) => .ok (.help .program)
          | ("version", none) => .ok .version
          | ("help", some value) => .error (.unexpectedValue "--help" value)
          | ("version", some value) => .error (.unexpectedValue "--version" value)
          | (name, _) => .error (.unexpectedArgument ("--" ++ name))
        | '-' :: c :: _ =>
          if c = 'h' then .ok (.help .program)
          else if c = 'V' then .ok .version
          else .error (.unexpectedArgument (String.ofList ['-', c]))
        | _ => .error (.unknownCommand word)

end Columnar.Command

/-
# `Toml.Document` — reading a whole document

A document is a run of lines: blank ones, headers of tables and of elements
of arrays of tables, and entries `key = value`.  `Document.read?` reads the
lines one after the other into a table that grows; it answers `none` for a
text that is not TOML.
-/
import Columnar.Toml.Scalar
import Columnar.Toml.Text

namespace Columnar.Toml

/-! ## Blanks -/

def skipSpaces (cs : List Char) : List Char := cs.dropWhile isSpace

/-- The text after the comment in front of it, if there is one. -/
def skipComment : List Char → List Char
  | '#' :: rest => rest.dropWhile isPlain
  | cs => cs

/-- The text after the rest of a line: blanks, a comment, and the line end unless the document
ends here. -/
def endLine? (cs : List Char) : Option (List Char) :=
  match skipComment (skipSpaces cs) with
  | [] => some []
  | rest => lineEnd? rest

/-- The text after blanks, comments and line ends; `fuel` bounds the number of lines. -/
def skipLines : (fuel : Nat) → List Char → List Char
  | 0, cs => cs
  | fuel + 1, cs =>
    let rest := skipComment (skipSpaces cs)
    match lineEnd? rest with
    | some next => skipLines fuel next
    | none => skipSpaces cs

/-! ## Keys -/

/-- The characters of a key without quotes. -/
def isKeyChar (c : Char) : Bool :=
  ('a' ≤ c && c ≤ 'z') || ('A' ≤ c && c ≤ 'Z') || ('0' ≤ c && c ≤ '9') || c = '_' || c = '-'

/-- One part of a key. -/
def readPart? (cs : List Char) : Option (String × List Char) :=
  match cs with
  | '"' :: _ => (readShort? cs).map fun (text, rest) => (String.ofList text, rest)
  | '\'' :: _ => (readShort? cs).map fun (text, rest) => (String.ofList text, rest)
  | _ =>
    let part := cs.takeWhile isKeyChar
    if part.isEmpty then none else some (String.ofList part, cs.dropWhile isKeyChar)

/-- How deep values may nest, and one more than the parts a key may have. -/
def depthLimit : Nat := 80

/-- A key of up to `room` parts with points between them, and blanks around each: the parts but
the last, the last, and the text after them. -/
def readKey? : (room : Nat) → List Char → Option (List String × String × List Char)
  | 0, _ => none
  | room + 1, cs =>
    match readPart? (skipSpaces cs) with
    | none => none
    | some (part, rest) =>
      match skipSpaces rest with
      | '.' :: rest =>
        (readKey? room rest).map fun (path, last, rest) => (part :: path, last, rest)
      | rest => some ([], part, rest)

/-! ## Values -/

/-- What a reader of values does. -/
abbrev ValueReader := List Char → Option (Value × List Char)

/-- The items of an array, from behind its bracket or a comma; `fuel` bounds their number. -/
def readItems? (item : ValueReader) : (fuel : Nat) → List Char → Option (List Value × List Char)
  | 0, _ => none
  | fuel + 1, cs =>
    match skipLines cs.length cs with
    | ']' :: rest => some ([], rest)
    | cs =>
      match item cs with
      | none => none
      | some (v, rest) =>
        match skipLines rest.length rest with
        | ',' :: rest => (readItems? item fuel rest).map fun (vs, rest) => (v :: vs, rest)
        | ']' :: rest => some ([v], rest)
        | _ => none

/-- An entry: a key, `=` and a value, with blanks around each. -/
def readEntry? (value : ValueReader) (cs : List Char) :
    Option (List String × String × Value × List Char) := do
  let (path, key, rest) ← readKey? (depthLimit - 1) cs
  let rest ← after? '=' rest
  let (v, rest) ← value (skipSpaces rest)
  return (path, key, v, skipSpaces rest)

/-- The entries of a table between braces, added to those read before. -/
def readPairs? (value : ValueReader) : (fuel : Nat) → Table → List Char →
    Option (Table × List Char)
  | 0, _, _ => none
  | fuel + 1, t, cs =>
    match readEntry? value cs with
    | none => none
    | some (path, key, v, rest) =>
      match t.addEntry path key v with
      | none => none
      | some t =>
        match rest with
        | ',' :: rest => readPairs? value fuel t rest
        | '}' :: rest => some (t, rest)
        | _ => none

/-- A value that is not made of others. -/
def readPlain? (cs : List Char) : Option (Value × List Char) :=
  match cs with
  | '"' :: _ => (readText? cs).map fun (s, rest) => (.text (String.ofList s), rest)
  | '\'' :: _ => (readText? cs).map fun (s, rest) => (.text (String.ofList s), rest)
  | _ => scalar? cs

/-- A value; arrays and tables between braces nest up to `room` deep. -/
def readValue? : (room : Nat) → ValueReader
  | 0, cs => readPlain? cs
  | room + 1, cs =>
    match cs with
    | '[' :: rest =>
      (readItems? (readValue? room) (rest.length + 1) rest).map fun (vs, rest) => (.array vs, rest)
    | '{' :: rest =>
      match skipSpaces rest with
      | '}' :: rest => some (.table .braces [], rest)
      | rest =>
        (readPairs? (readValue? room) (rest.length + 1) (.braces, []) rest).map
          fun (t, rest) => (.table .braces t.2, rest)
    | _ => readPlain? cs

/-! ## Documents -/

/-- A document that has been read so far: the root table and the path of the table that
entries go into. -/
structure Document where
  root : Table
  current : List String

namespace Document

/-- Nothing read yet. -/
def start : Document := ⟨(.header, []), []⟩

/-- Reads one line that is not blank: a header or an entry. -/
def readLine? (d : Document) : List Char → Option (Document × List Char)
  | '[' :: '[' :: rest => do
    let (path, key, rest) ← readKey? (depthLimit - 1) rest
    let rest ← endLine? (← after? ']' (← after? ']' rest))
    return (⟨← d.root.openElement path key, path ++ [key]⟩, rest)
  | '[' :: rest => do
    let (path, key, rest) ← readKey? (depthLimit - 1) rest
    let rest ← endLine? (← after? ']' rest)
    return (⟨← d.root.openTable path key, path ++ [key]⟩, rest)
  | cs => do
    let (path, key, v, rest) ← readEntry? (readValue? (depthLimit - 1)) cs
    let rest ← endLine? rest
    return (⟨← d.root.alter false (Table.addEntry path key v) d.current, d.current⟩, rest)

/-- Reads the lines that are left; `fuel` bounds their number. -/
def readLines? : (fuel : Nat) → Document → List Char → Option Document
  | 0, _, _ => none
  | fuel + 1, d, cs =>
    match skipLines cs.length cs with
    | [] => some d
    | '#' :: rest => if (rest.dropWhile isPlain).isEmpty then some d else none
    | cs =>
      match d.readLine? cs with
      | none => none
      | some (d, rest) => readLines? fuel d rest

/-- The entries of a document.  A byte order mark in front of it does not count. -/
def read? (s : String) : Option Entries :=
  let cs := match s.toList with
    | '\ufeff' :: rest => rest
    | cs => cs
  (readLines? (cs.length + 1) start cs).map fun d => d.root.2

end Document

end Columnar.Toml

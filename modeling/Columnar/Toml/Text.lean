/-
# `Toml.Text` — the four forms of a TOML string

A string is written between one or three quotes of either kind: double
quotes allow escapes, single ones take every character as it is, and only
three quotes may span lines.  `form` chooses the form a text is written in,
`write` writes it, and `read?` reads all four.
-/
import Columnar.Text.Quoted

namespace Columnar.Toml

/-! ## Characters -/

def isSpace (c : Char) : Bool := c = ' ' || c = '\t'

/-- A control character; none but the tab may stand in a string or a comment as it is. -/
def isControl (c : Char) : Bool := c.toNat < 32 || c = '\x7f'

/-- A character that a string on one line or a comment may hold as it is. -/
def isPlain (c : Char) : Bool := c = '\t' || !isControl c

/-- The text after one line end, if there is one here. -/
def lineEnd? : List Char → Option (List Char)
  | '\n' :: rest => some rest
  | '\r' :: '\n' :: rest => some rest
  | _ => none

/-! ## Writing -/

inductive Form where
  | basic
  | literal
  | longBasic
  | longLiteral
deriving DecidableEq, Repr

/-- The longest run of the character. -/
def longestRun (c : Char) (text : List Char) : Nat :=
  (text.foldl (fun (run, most) x => if x = c then (run + 1, max most (run + 1)) else (0, most))
    (0, 0)).2

/-- The form a text is written in: the first of these that needs no escape, else an escaped one.
A text without quotation marks, backslashes and line ends is written plainly; without
apostrophes and line ends, between single quotes; and so on with three quotes. -/
def form (text : List Char) : Form :=
  let marks := longestRun '"' text
  let apostrophes := longestRun '\'' text
  let lines := text.any (· = '\n')
  let backslash := text.any (· = '\\')
  let control := text.any fun c => isControl c && c != '\n' && c != '\t'
  if !control && !backslash && marks = 0 && !lines then .basic
  else if !control && apostrophes = 0 && !lines then .literal
  else if !control && !backslash && marks ≤ 2 then .longBasic
  else if !control && apostrophes ≤ 2 then .longLiteral
  else if lines then .longBasic
  else .basic

/-- A character between double quotes, as an escape where it needs one. -/
def escapeChar (c : Char) : List Char :=
  if c = '\x08' then ['\\', 'b']
  else if c = '\t' then ['\\', 't']
  else if c = '\n' then ['\\', 'n']
  else if c = '\x0c' then ['\\', 'f']
  else if c = '\r' then ['\\', 'r']
  else if c = '"' then ['\\', '"']
  else if c = '\\' then ['\\', '\\']
  else if isControl c then '\\' :: 'u' :: ((Text.hex 4 c.toNat).toList.map Text.upper)
  else [c]

/-- Text between three double quotes: line ends stay, and so do up to two quotation marks in a
row; `marks` of them have just been written. -/
def escapeLong : (marks : Nat) → List Char → List Char
  | _, [] => []
  | marks, c :: rest =>
    if c = '\n' then c :: escapeLong 0 rest
    else if c = '"' then
      if marks < 2 then c :: escapeLong (marks + 1) rest
      else '\\' :: c :: escapeLong 0 rest
    else escapeChar c ++ escapeLong 0 rest

/-- A line end behind opening quotes is not part of the text; one is put there in front of a text
of several lines. -/
def opening (text : List Char) : List Char := if text.any (· = '\n') then ['\n'] else []

/-- The text as a TOML string. -/
def write (text : List Char) : List Char :=
  match form text with
  | .basic => '"' :: (text.flatMap escapeChar ++ ['"'])
  | .literal => '\'' :: (text ++ ['\''])
  | .longBasic => ['"', '"', '"'] ++ opening text ++ escapeLong 0 text ++ ['"', '"', '"']
  | .longLiteral => ['\'', '\'', '\''] ++ opening text ++ text ++ ['\'', '\'', '\'']

/-! ## Reading

Each reader is given the text from behind the opening quotes and answers with the string's text
and what follows the closing quotes. -/

abbrev Reading := Option (List Char × List Char)

def Reading.push (c : Char) (r : Reading) : Reading := r.map fun (text, rest) => (c :: text, rest)

/-- The character whose code point the hexadecimal digits spell. -/
def codePoint? (digits : List Char) : Option Char :=
  (digits.foldlM (fun n c => (Text.hexValue? c).map (16 * n + ·)) 0).bind fun n =>
    if n.isValidChar then some (Char.ofNat n) else none

/-- The character that a letter behind a backslash stands for. -/
def escape? : Char → Option Char
  | 'b' => some '\x08'
  | 't' => some '\t'
  | 'n' => some '\n'
  | 'f' => some '\x0c'
  | 'r' => some '\r'
  | '"' => some '"'
  | '\\' => some '\\'
  | _ => none

/-- A string between double quotes. -/
def readBasic : List Char → Reading
  | '"' :: rest => some ([], rest)
  | '\\' :: 'u' :: a :: b :: c :: d :: rest =>
    (codePoint? [a, b, c, d]).bind fun x => (readBasic rest).push x
  | '\\' :: 'U' :: a :: b :: c :: d :: e :: f :: g :: h :: rest =>
    (codePoint? [a, b, c, d, e, f, g, h]).bind fun x => (readBasic rest).push x
  | '\\' :: x :: rest => (escape? x).bind fun x => (readBasic rest).push x
  | x :: rest => if isPlain x && x != '\\' then (readBasic rest).push x else none
  | [] => none

/-- A string between single quotes. -/
def readLiteral : List Char → Reading
  | '\'' :: rest => some ([], rest)
  | x :: rest => if isPlain x then (readLiteral rest).push x else none
  | [] => none

/-- A backslash at the end of a line: only blanks stand between it and the line end. -/
def endsLine (rest : List Char) : Bool := (lineEnd? (rest.dropWhile isSpace)).isSome

/-- A string between three double quotes.  While `skipping`, behind a backslash that ended a
line, blanks and line ends do not count. -/
def readLongBasic : (skipping : Bool) → List Char → Reading
  | _, '"' :: '"' :: '"' :: '"' :: '"' :: rest => some (['"', '"'], rest)
  | _, '"' :: '"' :: '"' :: '"' :: rest => some (['"'], rest)
  | _, '"' :: '"' :: '"' :: rest => some ([], rest)
  | _, '"' :: rest => (readLongBasic false rest).push '"'
  | _, '\\' :: 'u' :: a :: b :: c :: d :: rest =>
    (codePoint? [a, b, c, d]).bind fun x => (readLongBasic false rest).push x
  | _, '\\' :: 'U' :: a :: b :: c :: d :: e :: f :: g :: h :: rest =>
    (codePoint? [a, b, c, d, e, f, g, h]).bind fun x => (readLongBasic false rest).push x
  | _, '\\' :: x :: rest =>
    if endsLine (x :: rest) then readLongBasic true (x :: rest)
    else (escape? x).bind fun x => (readLongBasic false rest).push x
  | skipping, '\r' :: '\n' :: rest =>
    if skipping then readLongBasic true rest else (readLongBasic false rest).push '\n'
  | skipping, x :: rest =>
    if skipping && (isSpace x || x = '\n') then readLongBasic true rest
    else if (isPlain x || x = '\n') && x != '\\' then (readLongBasic false rest).push x
    else none
  | _, [] => none

/-- A string between three single quotes. -/
def readLongLiteral : List Char → Reading
  | '\'' :: '\'' :: '\'' :: '\'' :: '\'' :: rest => some (['\'', '\''], rest)
  | '\'' :: '\'' :: '\'' :: '\'' :: rest => some (['\''], rest)
  | '\'' :: '\'' :: '\'' :: rest => some ([], rest)
  | '\r' :: '\n' :: rest => (readLongLiteral rest).push '\n'
  | x :: rest => if isPlain x || x = '\n' then (readLongLiteral rest).push x else none
  | [] => none

/-- The text behind a line end that follows opening quotes directly. -/
def afterOpening (cs : List Char) : List Char := (lineEnd? cs).getD cs

/-- A string on one line, of either kind; keys may be written so. -/
def readShort? : List Char → Reading
  | '"' :: rest => readBasic rest
  | '\'' :: rest => readLiteral rest
  | _ => none

/-- A string in any of the four forms. -/
def readText? : List Char → Reading
  | '"' :: '"' :: '"' :: rest => readLongBasic false (afterOpening rest)
  | '\'' :: '\'' :: '\'' :: rest => readLongLiteral (afterOpening rest)
  | cs => readShort? cs

end Columnar.Toml

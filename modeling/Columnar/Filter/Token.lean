/-
# `Filter.Token` — the words of the filter language

A filter text is cut into pieces: each piece is a run of blanks followed by
the characters of one lexeme.  `scan` says where the pieces end; nothing of
the text is lost, for the pieces and what is left over are the text again.
`tokenize` keeps of each piece its lexeme and the byte it starts at.
-/
import Columnar.Filter.Expr
import Columnar.Number.Decimal

namespace Columnar.Filter

open Columnar.Text Number

/-! ## Lexemes -/

/-- The reserved words. -/
inductive Keyword where
  | and
  | or
  | not
  | in
  | like
  | is
  | null
  | true
  | false
deriving DecidableEq, Repr

namespace Keyword

/-- The word in capitals. -/
def word : Keyword → String
  | and => "AND"
  | or => "OR"
  | not => "NOT"
  | .in => "IN"
  | like => "LIKE"
  | is => "IS"
  | null => "NULL"
  | true => "TRUE"
  | false => "FALSE"

def all : List Keyword := [and, or, not, .in, like, is, null, true, false]

/-- The keyword a word spells in any ASCII case. -/
def ofWord? (word : String) : Option Keyword := all.find? fun k => k.word = upperAscii word

end Keyword

/-- What a token says, its layout apart. -/
inductive Lexeme where
  | identifier (name : String)
  /-- A number as it is spelled. -/
  | number (spelling : String)
  /-- A text literal, without quotes and escapes. -/
  | text (value : String)
  | operator (op : Comparison)
  | keyword (k : Keyword)
  | openParen
  | closeParen
  | comma
  | openBracket
  | closeBracket
deriving DecidableEq

/-- The lexeme as messages show it. -/
def Lexeme.shown : Lexeme → String
  | .identifier name => name
  | .number spelling => spelling
  | .text value => value
  | .operator op => op.symbol
  | .keyword k => k.word
  | .openParen => "("
  | .closeParen => ")"
  | .comma => ","
  | .openBracket => "["
  | .closeBracket => "]"

/-- A lexeme and the byte of the filter text it starts at. -/
structure Token where
  lexeme : Lexeme
  position : Nat
deriving DecidableEq

/-- Why a text is not a sequence of tokens. -/
inductive LexFault where
  | loneBang
  | unterminated
  | malformedNumber (run : String)
  | illegal (c : Char)
deriving DecidableEq

/-- A fault and the byte it is at. -/
structure LexError where
  fault : LexFault
  position : Nat
deriving DecidableEq

def LexFault.message : LexFault → String
  | .loneBang => "expected '=' after '!'"
  | .unterminated => "unterminated string literal"
  | .malformedNumber run => "malformed number '" ++ run ++ "'"
  | .illegal c => "illegal character '" ++ String.singleton c ++ "'"

def LexError.message (e : LexError) : String :=
  e.fault.message ++ " at position " ++ toString e.position

/-! ## One lexeme

Each reader below is given the text from the first character of a lexeme on.
It answers with the lexeme and with how many characters follow the first. -/

/-- Brackets and the comma. -/
def punctuation? : Char → Option Lexeme
  | '(' => some .openParen
  | ')' => some .closeParen
  | ',' => some .comma
  | '[' => some .openBracket
  | ']' => some .closeBracket
  | _ => none

/-- Operators: the longest one that the text begins with.  `<>` is the other spelling of `!=`. -/
def operator? : List Char → Option (Comparison × Nat)
  | '<' :: '=' :: _ => some (.le, 1)
  | '<' :: '>' :: _ => some (.ne, 1)
  | '<' :: _ => some (.lt, 0)
  | '>' :: '=' :: _ => some (.ge, 1)
  | '>' :: _ => some (.gt, 0)
  | '!' :: '=' :: _ => some (.ne, 1)
  | '=' :: _ => some (.eq, 0)
  | _ => none

/-- The value of a text literal, and the number of characters to its closing quote, from behind
the opening quote on.  A backslash stands in front of a character taken as it is, and a quote
written twice is a quote of the value. -/
def textBody? : List Char → Option (List Char × Nat)
  | [] => none
  | '\\' :: rest =>
    match rest with
    | [] => none
    | c :: rest => (textBody? rest).map fun (v, n) => (c :: v, n + 2)
  | '\'' :: rest =>
    match rest with
    | '\'' :: rest => (textBody? rest).map fun (v, n) => ('\'' :: v, n + 2)
    | _ => some ([], 1)
  | c :: rest => (textBody? rest).map fun (v, n) => (c :: v, n + 1)

def isExponentMark (c : Char) : Bool := c = 'e' || c = 'E'

/-- A character that goes on with a number whose last character so far is `prev`: signs stand
only behind an exponent mark. -/
def continuesNumber (prev c : Char) : Bool :=
  isDigit c || c = '.' || isExponentMark c || ((c = '-' || c = '+') && isExponentMark prev)

/-- The characters that go on with a number behind the character `prev`. -/
def numberTail (prev : Char) : List Char → List Char
  | [] => []
  | c :: rest => if continuesNumber prev c then c :: numberTail c rest else []

def startsNumber (c : Char) : Bool := isDigit c || c = '-' || c = '.'

/-- The run is written with a point or an exponent. -/
def isFloatSpelling (run : List Char) : Bool := run.any fun c => c = '.' || isExponentMark c

/-- A run of number characters spells a number: a floating point number if it has a point or an
exponent, else a whole number of 64 bits. -/
def isNumber (run : List Char) : Bool :=
  run.any isDigit &&
    if isFloatSpelling run then (Numeral.read? run).isSome else (int64? run).isSome

def startsWord (c : Char) : Bool := isAlphabetic c || c = '_'
def continuesWord (c : Char) : Bool := isAlphanumeric c || c = '_' || c = '.'

/-- A keyword, or else an identifier. -/
def wordLexeme (word : List Char) : Lexeme :=
  match Keyword.ofWord? (String.ofList word) with
  | some k => .keyword k
  | none => .identifier (String.ofList word)

/-- The lexeme that a text starts with, and how many characters it takes behind `first`. -/
def lexeme (first : Char) (rest : List Char) : Except LexFault (Lexeme × Nat) :=
  match punctuation? first with
  | some l => .ok (l, 0)
  | none =>
    match operator? (first :: rest) with
    | some (op, n) => .ok (.operator op, n)
    | none =>
      if first = '!' then .error .loneBang
      else if first = '\'' then
        match textBody? rest with
        | some (value, n) => .ok (.text (String.ofList value), n)
        | none => .error .unterminated
      else if startsNumber first then
        let tail := numberTail first rest
        let run := first :: tail
        if isNumber run then .ok (.number (String.ofList run), tail.length)
        else .error (.malformedNumber (String.ofList run))
      else if startsWord first then
        let tail := rest.takeWhile continuesWord
        .ok (wordLexeme (first :: tail), tail.length)
      else .error (.illegal first)

/-! ## The whole text -/

/-- The blanks in front of a lexeme, its characters, and what it says. -/
structure Piece where
  gap : List Char
  source : List Char
  lexeme : Lexeme
deriving DecidableEq

/-- The pieces of a text and what follows them: blanks, or a fault behind some blanks. -/
structure Scan where
  pieces : List Piece
  gap : List Char
  fault : Option LexFault

/-- Cuts a text into pieces, as far as it goes. -/
def scan (cs : List Char) : Scan :=
  let gap := cs.takeWhile isBlank
  match _h : cs.dropWhile isBlank with
  | [] => ⟨[], gap, none⟩
  | first :: rest =>
    match lexeme first rest with
    | .error fault => ⟨[], gap, some fault⟩
    | .ok (l, n) =>
      let after := scan (rest.drop n)
      ⟨⟨gap, first :: rest.take n, l⟩ :: after.pieces, after.gap, after.fault⟩
termination_by cs.length
decreasing_by
  have h₁ : (first :: rest).length ≤ cs.length :=
    _h ▸ (List.dropWhile_sublist isBlank).length_le
  simp only [List.length_cons, List.length_drop] at h₁ ⊢
  omega

/-- The bytes a piece takes. -/
def Piece.byteLength (p : Piece) : Nat := Text.byteLength p.gap + Text.byteLength p.source

/-- The pieces as tokens, the first of them after `offset` bytes. -/
def place (offset : Nat) : List Piece → List Token
  | [] => []
  | p :: rest =>
    ⟨p.lexeme, offset + Text.byteLength p.gap⟩ :: place (offset + p.byteLength) rest

/-- The tokens of a text, or the first fault. -/
def tokenize (text : String) : Except LexError (List Token) :=
  let s := scan text.toList
  match s.fault with
  | none => .ok (place 0 s.pieces)
  | some fault =>
    .error ⟨fault, (s.pieces.map Piece.byteLength).sum + Text.byteLength s.gap⟩

end Columnar.Filter

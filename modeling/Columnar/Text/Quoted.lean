/-
# `Text.Quoted` — texts between double quotes

Two spellings of a text as a quoted literal.  `quoted` is the one of
diagnostics: whatever a reader could not see or tell apart is written as
an escape.  `jsonQuoted` is the one of JSON: only what JSON forbids inside
a string is escaped.
-/
import Columnar.Text.Class

namespace Columnar.Text

/-- The digits of `n` in base sixteen, small letters, at least `width` of them. -/
def hex (width n : Nat) : String :=
  let digits := Nat.toDigits 16 n
  String.ofList (List.replicate (width - digits.length) '0' ++ digits)

/-- A character that diagnostics write as its code point: it has no glyph of its own. -/
def isHidden (c : Char) : Bool :=
  within Ranges.graphemeExtend c || within Ranges.filler c || within Ranges.unprintable c

/-- One character of a diagnostic literal. -/
def quotedChar (c : Char) : String :=
  if c = '\x00' then "\\0"
  else if c = '\t' then "\\t"
  else if c = '\r' then "\\r"
  else if c = '\n' then "\\n"
  else if c = '"' then "\\\""
  else if c = '\\' then "\\\\"
  else if isHidden c then "\\u\x7b" ++ hex 1 c.toNat ++ "\x7d"
  else String.singleton c

/-- The text as a diagnostic literal. -/
def quoted (s : String) : String :=
  "\"" ++ String.join (s.toList.map quotedChar) ++ "\""

/-- One character of a JSON string. -/
def jsonChar (c : Char) : String :=
  if c = '"' then "\\\""
  else if c = '\\' then "\\\\"
  else if c = '\x08' then "\\b"
  else if c = '\x0c' then "\\f"
  else if c = '\n' then "\\n"
  else if c = '\r' then "\\r"
  else if c = '\t' then "\\t"
  else if c.toNat < 32 then "\\u" ++ hex 4 c.toNat
  else String.singleton c

/-- The text as a JSON string. -/
def jsonQuoted (s : String) : String :=
  "\"" ++ String.join (s.toList.map jsonChar) ++ "\""

/-- Texts as a diagnostic list of literals. -/
def quotedList (texts : List String) : String :=
  "[" ++ ", ".intercalate (texts.map quoted) ++ "]"

end Columnar.Text

/-
# `Filter.Wildcard` — patterns with wildcards

A pattern is a text in which `%` stands for any run of characters and `_`
for any one character; `Splits` says what that means.  A pattern is run as a
regular expression for the whole text, and refused if that one is.
-/
import Columnar.Text.Regex

namespace Columnar.Filter.Wildcard

open Text (Regex)

/-! ## Meaning -/

/-- The text can be cut into consecutive pieces, one for each pattern character. -/
inductive Splits : List Char → List Char → Prop where
  | done : Splits [] []
  | run {p s : List Char} (piece : List Char) : Splits p s → Splits ('%' :: p) (piece ++ s)
  | one {p s : List Char} (c : Char) : Splits p s → Splits ('_' :: p) (c :: s)
  | same {p s : List Char} (c : Char) : c ≠ '%' → c ≠ '_' → Splits p s → Splits (c :: p) (c :: s)

/-! ## Expressions -/

/-- The expression for a pattern, when one for its beginning is written and characters that stand
for themselves are pending. -/
def expressionFrom (written pending : String) : List Char → String
  | [] => written ++ Regex.escape pending ++ "$"
  | c :: rest =>
    if c = '%' then expressionFrom (written ++ Regex.escape pending ++ ".*") "" rest
    else if c = '_' then expressionFrom (written ++ Regex.escape pending ++ ".") "" rest
    else expressionFrom written (pending.push c) rest

/-- The expression for a pattern: it matches whole texts only, line feeds included. -/
def expression (pattern : String) : String := expressionFrom "(?s)^" "" pattern.toList

def regex? (pattern : String) : Option Regex := Regex.compile? (expression pattern)

end Columnar.Filter.Wildcard

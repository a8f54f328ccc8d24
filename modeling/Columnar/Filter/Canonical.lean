/-
# `Filter.Canonical` — the canonical text of a filter

Every filter has one canonical text: keywords in capitals, one space around
operators, each group of one connective in parentheses.  Only the left spine
of a chain shares its parentheses, so the text shows how the tree leans.
-/
import Columnar.Filter.Expr
import Columnar.Number.Shortest

namespace Columnar.Filter

open Number

/-- One character inside a text literal: a backslash and a quote are written twice. -/
def escaped (c : Char) : List Char :=
  if c = '\\' then ['\\', '\\'] else if c = '\'' then ['\'', '\''] else [c]

/-- A text between single quotes. -/
def textLiteral (s : String) : String :=
  "'" ++ String.ofList (s.toList.flatMap escaped) ++ "'"

/-- The canonical text of a literal. -/
def Literal.canonical : Literal → String
  | .int v => toString v
  | .float v => Rendering.literal.write v
  | .text s => textLiteral s
  | .bool true => "TRUE"
  | .bool false => "FALSE"

/-- `NOT ` for a negated leaf. -/
def negation (negated : Bool) : String := if negated then "NOT " else ""

/-- The canonical text of a leaf. -/
def Leaf.canonical : Leaf → String
  | .compare op column literal => column ++ " " ++ op.symbol ++ " " ++ literal.canonical
  | .like negated column pattern =>
    column ++ " " ++ negation negated ++ "LIKE " ++ textLiteral pattern
  | .member column values =>
    column ++ " IN [" ++ ",".intercalate (values.map Literal.canonical) ++ "]"
  | .null negated column => column ++ " IS " ++ negation negated ++ "NULL"

def Connective.word : Connective → String
  | .and => "AND"
  | .or => "OR"

/-- The canonical text of a filter that is the left operand of the connective `within`, if any:
a chain that it continues is not parenthesised again. -/
def Expr.render (within : Option Connective) : Expr → String
  | .leaf l => l.canonical
  | .not e => "NOT " ++ e.render none
  | .join c l r =>
    let chain := l.render (some c) ++ " " ++ c.word ++ " " ++ r.render none
    if within = some c then chain else "(" ++ chain ++ ")"

/-- The canonical text of a filter. -/
def Expr.canonical (e : Expr) : String := e.render none

end Columnar.Filter

/-
# `Filter.Expr` — filters as trees

A filter is built from leaves, each a test of one column, by negation and by
the two connectives.  A chain `a AND b AND c` leans to the left.  `columns`
is the footprint of a filter, `depth` the height of its tree.
-/
import Columnar.Number.Binary

namespace Columnar.Filter

open Number

/-- The comparison operators. -/
inductive Comparison where
  | eq
  | ne
  | lt
  | le
  | gt
  | ge
deriving DecidableEq, Repr

namespace Comparison

def symbol : Comparison → String
  | eq => "="
  | ne => "!="
  | lt => "<"
  | le => "<="
  | gt => ">"
  | ge => ">="

/-- The operator holds between two values that compare as given. -/
def holds : Comparison → Ordering → Bool
  | eq, o => o == .eq
  | ne, o => o != .eq
  | lt, o => o == .lt
  | le, o => o != .gt
  | gt, o => o == .gt
  | ge, o => o != .lt

end Comparison

/-- A constant that a column is compared with. -/
inductive Literal where
  | int (value : Int)
  | float (value : Binary .double)
  | text (value : String)
  | bool (value : Bool)
deriving DecidableEq

/-- A test of one column. -/
inductive Leaf where
  | compare (op : Comparison) (column : String) (literal : Literal)
  | like (negated : Bool) (column : String) (pattern : String)
  | member (column : String) (values : List Literal)
  | null (negated : Bool) (column : String)
deriving DecidableEq

/-- The connectives. -/
inductive Connective where
  | and
  | or
deriving DecidableEq, Repr

/-- A filter. -/
inductive Expr where
  | leaf (test : Leaf)
  | not (operand : Expr)
  | join (connective : Connective) (left right : Expr)
deriving DecidableEq

/-! ## Measures and footprint -/

/-- The column a leaf tests. -/
def Leaf.column : Leaf → String
  | .compare _ c _ => c
  | .like _ c _ => c
  | .member c _ => c
  | .null _ c => c

namespace Expr

/-- The height of the tree; a leaf has height 1. -/
def depth : Expr → Nat
  | leaf _ => 1
  | not e => e.depth + 1
  | join _ l r => 1 + max l.depth r.depth

/-- The leaves from left to right. -/
def leaves : Expr → List Leaf
  | leaf l => [l]
  | not e => e.leaves
  | join _ l r => l.leaves ++ r.leaves

/-- The columns tested, each once, in the order of their first leaves. -/
def columns (e : Expr) : List String := (e.leaves.map Leaf.column).eraseDups

end Expr

/-! ## Equality of meaning

Two filters agree if they differ only in how equal numbers are represented:
the zeros agree, and "not a number" agrees with nothing. -/

/-- Literals with equal values. -/
def Literal.agrees : Literal → Literal → Bool
  | .float x, .float y => x.agrees y
  | l, m => l == m

/-- Lists of literals with equal values, position by position. -/
def Literal.allAgree : List Literal → List Literal → Bool
  | [], [] => true
  | l :: ls, m :: ms => l.agrees m && Literal.allAgree ls ms
  | _, _ => false

/-- Leaves that test the same with equal values. -/
def Leaf.agrees : Leaf → Leaf → Bool
  | .compare o c l, .compare o' c' l' => o == o' && c == c' && l.agrees l'
  | .member c vs, .member c' vs' => c == c' && Literal.allAgree vs vs'
  | l, m => l == m

/-- Trees of one shape with leaves that agree. -/
def Expr.agrees : Expr → Expr → Bool
  | .leaf l, .leaf m => l.agrees m
  | .not a, .not b => a.agrees b
  | .join c a b, .join c' a' b' => c == c' && a.agrees a' && b.agrees b'
  | _, _ => false

end Columnar.Filter

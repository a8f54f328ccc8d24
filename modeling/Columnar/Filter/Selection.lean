/-
# `Filter.Selection` — the rows a filter selects

A cell is widened to one of four kinds of datum and tested against literals
and patterns.  A NULL, and a whole number beyond the signed 64-bit range,
fails every comparison, pattern and membership; `NOT` inverts what is left.
Both operands of a connective are always evaluated, the left one first, so
the error that is reported is that of the leftmost failing leaf.
-/
import Columnar.Batch
import Columnar.Filter.Expr
import Columnar.Filter.Wildcard
import Columnar.Number.Decimal
import Columnar.Number.Shortest
import Columnar.Text.Quoted

namespace Columnar.Filter

open Number

/-! ## Data -/

/-- A cell's value in one of the kinds that tests know. -/
inductive Datum where
  | int (value : Int)
  | float (value : Binary .double)
  | text (value : String)
  | bool (value : Bool)
deriving DecidableEq

namespace Datum

/-- The text that patterns are matched with. -/
def shown : Datum → String
  | int v => toString v
  | float v => Rendering.plain.write v
  | text s => s
  | bool b => toString b

/-- How a datum compares with a literal, if the two are comparable.  Whole numbers meet floating
point numbers as floating point numbers; numbers meet text by their text. -/
def compare? : Datum → Literal → Option Ordering
  | int v, .int l => some (compare v l)
  | int v, .float l => (Binary.ofInt v).compare? l
  | float v, .float l => v.compare? l
  | float v, .int l => v.compare? (Binary.ofInt l)
  | text v, .text l => some (compare v l)
  | text v, .int l => some (compare v (toString l))
  | text v, .float l => some (compare v (Rendering.plain.write l))
  | bool v, .bool l => some (compare v l)
  | _, _ => none

/-- The comparison holds; what is not comparable fails it. -/
def satisfies (d : Datum) (op : Comparison) (l : Literal) : Bool :=
  match d.compare? l with
  | some o => op.holds o
  | none => false

end Datum

/-- How cells of a type are widened, for the types that tests know; `none` inside is NULL. -/
def widen? : (t : DataType) → Option (t.Value → Option Datum)
  | .int signed _ => some fun v =>
    let i := DataType.wholeNumber signed v
    if i ≤ greatestInt64 then some (.int i) else none
  | .float _ => some fun v => some (.float (v.convert .double))
  | .text _ => some fun v => some (.text v)
  | .bool => some fun v => some (.bool v)
  | _ => none

/-- The widened cells of a column. -/
def data? (c : Column) : Option (List (Option Datum)) :=
  (widen? c.type).map fun widen => c.cells.map fun v => v.bind widen

/-! ## Errors -/

/-- Why a filter cannot be evaluated. -/
inductive SelectError where
  | missingColumn (name : String) (names : List String)
  | noPredicates (type : DataType)
  | badPattern (pattern : String)
deriving DecidableEq

def SelectError.message : SelectError → String
  | .missingColumn name names =>
    "Schema error: Unable to get field named \"" ++ name ++ "\". Valid fields: " ++
      Text.quotedList names
  | .noPredicates type => "cannot evaluate predicates on " ++ type.name ++ " columns"
  | .badPattern _ => "bad LIKE pattern"

/-! ## Masks -/

/-- A test of every cell of a column; a NULL fails it. -/
def mask (c : Column) (test : Datum → Bool) : Except SelectError (List Bool) :=
  match data? c with
  | none => .error (.noPredicates c.type)
  | some cells => .ok (cells.map fun d => d.any test)

/-- The rows a leaf selects. -/
def Leaf.evaluate (b : Batch) (l : Leaf) : Except SelectError (List Bool) :=
  match b.find? l.column with
  | none => .error (.missingColumn l.column b.schema.names)
  | some c =>
    match l with
    | .null negated _ => .ok (c.cells.map fun v => v.isNone != negated)
    | .compare op _ literal => mask c fun d => d.satisfies op literal
    | .member _ values => mask c fun d => values.any fun l => d.satisfies .eq l
    | .like negated _ pattern =>
      match Wildcard.regex? pattern with
      | none => .error (.badPattern pattern)
      | some re => mask c fun d => re.isMatch d.shown != negated

def Connective.apply : Connective → Bool → Bool → Bool
  | .and, a, b => a && b
  | .or, a, b => a || b

/-- The rows a filter selects, one entry for each row. -/
def Expr.evaluate (b : Batch) : Expr → Except SelectError (List Bool)
  | .leaf l => l.evaluate b
  | .not e => (e.evaluate b).map fun m => m.map Bool.not
  | .join c l r =>
    match l.evaluate b with
    | .error e => .error e
    | .ok m => (r.evaluate b).map fun n => List.zipWith c.apply m n

/-- The batch of the rows a filter selects. -/
def Expr.select (e : Expr) (b : Batch) : Except SelectError Batch :=
  (e.evaluate b).map b.select

end Columnar.Filter

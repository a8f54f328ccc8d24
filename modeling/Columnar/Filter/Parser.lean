/-
# `Filter.Parser` — from tokens to filters

The grammar, with `NOT` binding closest, then `AND`, then `OR`:

    filter    := conjunction (OR conjunction)*
    conjunction := unary (AND unary)*
    unary     := NOT unary | "(" filter ")" | predicate
    predicate := column operator literal
               | column [NOT] LIKE text
               | column [NOT] IN ( "(" literal, … ")" | "[" literal, … "]" )
               | column IS [NOT] NULL

Every column must be in the schema and every literal must suit its column.
One limit keeps trees and recursion small: a tree is no higher, and no more
signs `NOT` and `(` are open at once.  The room that is left for the signs
is the argument `unary` recurses on.
-/
import Columnar.DataType
import Columnar.Filter.Token

namespace Columnar.Filter

open Columnar.Text Number

/-! ## Errors -/

/-- What the grammar asks for at some place. -/
inductive Expectation where
  | columnName
  | null
  | pattern
  | listOpening
  | listEnd
  | likeOrIn
  | operator
  | literal
  | closeParen
deriving DecidableEq

def Expectation.text : Expectation → String
  | columnName => "column name"
  | null => "NULL"
  | pattern => "string pattern after LIKE"
  | listOpening => "'(' after IN"
  | listEnd => "',' or end of IN list"
  | likeOrIn => "LIKE or IN after NOT"
  | operator => "comparison operator, LIKE, IN or IS"
  | literal => "literal value"
  | closeParen => "')'"

/-- How a sequence of tokens departs from the grammar. -/
inductive GrammarFault where
  /-- Something else is asked for than what is there, or than the end of the text. -/
  | expected (what : Expectation) (got : Option Lexeme)
  | unmatchedOpen
  | unmatchedClose
  | trailing (l : Lexeme)
  | tooDeep
deriving DecidableEq

/-- What a column asks of its literals. -/
inductive Demand where
  | integerIn (least greatest : Int)
  | integer
  | finiteNumber
  | number
  | textOrFinite
  | text
  | truth
  /-- The column compares with nothing. -/
  | nothing
  /-- `LIKE` asks for a column with a text form. -/
  | textForm
deriving DecidableEq

def Demand.message : Demand → String
  | integerIn lo hi => "integer in " ++ toString lo ++ "..=" ++ toString hi
  | integer => "integer"
  | finiteNumber => "finite floating point number"
  | number => "floating point number"
  | textOrFinite => "string or finite number"
  | text => "string"
  | truth => "TRUE or FALSE"
  | nothing => "no literal (column is not comparable)"
  | textForm => "a column with a text form"

/-- A literal as it is written, before it is read as a value of its column. -/
inductive Written where
  | number (spelling : String)
  | text (value : String)
  | truth (value : Bool)
deriving DecidableEq

/-- What was found instead of what a column asks for. -/
inductive Found where
  | literal (w : Written)
  | pattern
deriving DecidableEq

def Found.message : Found → String
  | literal (.number n) => "number " ++ n
  | literal (.text s) => "string '" ++ s ++ "'"
  | literal (.truth b) => "boolean " ++ toString b
  | pattern => "LIKE pattern"

/-- Why a text is not a filter over a schema. -/
inductive ParseError where
  | lex (e : LexError)
  | grammar (fault : GrammarFault) (position : Nat)
  | unknownColumn (column : String) (position : Nat)
  | typeMismatch (column : String) (demand : Demand) (found : Found) (position : Nat)
  | emptyList (column : String) (position : Nat)
deriving DecidableEq

/-! ## Literals and columns -/

/-- What a column's type means for the literals it is compared with. -/
inductive Kind where
  | integer (least greatest : Int)
  | float
  | text
  | bool
  | other
deriving DecidableEq

/-- The kind of a type.  Literals are whole numbers of 64 bits with a sign, so the range of the
widest type without a sign is cut there. -/
def kind : DataType → Kind
  | .int signed w =>
    .integer (DataType.least signed w) (min (DataType.greatest signed w) greatestInt64)
  | .float _ => .float
  | .text _ => .text
  | .bool => .bool
  | _ => .other

/-- A spelled number as a finite number of the widest format. -/
def finite? (spelling : String) : Option (Binary .double) :=
  (binary? .double spelling.toList).filter Binary.isFinite

/-- The value a written literal has for a column of the kind, or what the column asks for
instead.  Text columns take numbers too and compare with their text. -/
def read : Kind → Written → Except Demand Literal
  | .integer lo hi, .number n =>
    if isFloatSpelling n.toList then .error .integer
    else match int64? n.toList with
      | some v => if lo ≤ v ∧ v ≤ hi then .ok (.int v) else .error (.integerIn lo hi)
      | none => .error (.integerIn lo hi)
  | .integer _ _, _ => .error .integer
  | .float, .number n =>
    match finite? n with
    | some v => .ok (.float v)
    | none => .error .finiteNumber
  | .float, _ => .error .number
  | .text, .text s => .ok (.text s)
  | .text, .number n =>
    if isFloatSpelling n.toList then
      match finite? n with
      | some v => .ok (.float v)
      | none => .error .textOrFinite
    else match int64? n.toList with
      | some v => .ok (.int v)
      | none => .error .text
  | .text, .truth _ => .error .text
  | .bool, .truth b => .ok (.bool b)
  | .bool, _ => .error .truth
  | .other, _ => .error .nothing

/-- The literal a lexeme writes. -/
def Lexeme.written? : Lexeme → Option Written
  | .number n => some (.number n)
  | .text s => some (.text s)
  | .keyword .true => some (.truth true)
  | .keyword .false => some (.truth false)
  | _ => none

/-! ## The parser -/

/-- The keyword that joins the operands of a connective. -/
def Connective.keyword : Connective → Keyword
  | and => .and
  | or => .or

/-- The greatest height of a tree, and of the nesting of `NOT` and parentheses. -/
def maxDepth : Nat := 256

/-- What parsing looks things up in: the schema, where the text ends, and the limit on heights
and nesting. -/
structure Context where
  schema : Schema
  stop : Nat
  limit : Nat

/-- A parser takes tokens from the front and answers with what it read and the tokens left. -/
abbrev Parser (α : Type) := List Token → Except ParseError (α × List Token)

/-- A filter read so far and its height. -/
structure Parsed where
  expr : Expr
  depth : Nat

namespace Context

variable (c : Context)

/-- The position of the next token, or the end of the text. -/
def here : List Token → Nat
  | [] => c.stop
  | t :: _ => t.position

/-- The error that something else is asked for than the next token. -/
def expected (what : Expectation) (ts : List Token) : ParseError :=
  .grammar (.expected what (ts.head?.map Token.lexeme)) (c.here ts)

def tooDeep (position : Nat) : ParseError := .grammar .tooDeep position

/-- The next token is the keyword: the tokens after it. -/
def keyword? (k : Keyword) : List Token → Option (List Token)
  | t :: rest => if t.lexeme = .keyword k then some rest else none
  | [] => none

/-- A literal for the column. -/
def literal (column : String) (k : Kind) : Parser Literal
  | t :: rest =>
    match t.lexeme.written? with
    | none => .error (c.expected .literal (t :: rest))
    | some w =>
      match read k w with
      | .ok l => .ok (l, rest)
      | .error demand => .error (.typeMismatch column demand (.literal w) t.position)
  | [] => .error (c.expected .literal [])

/-- Literals separated by commas, up to the closing bracket. -/
def literals (column : String) (k : Kind) (close : Lexeme) : Parser (List Literal)
  | t :: rest =>
    match c.literal column k (t :: rest) with
    | .error e => .error e
    | .ok (l, _) =>
      match rest with
      | [] => .error (c.expected .listEnd [])
      | sep :: rest =>
        if sep.lexeme = .comma then
          (literals column k close rest).map fun (ls, rest) => (l :: ls, rest)
        else if sep.lexeme = close then .ok ([l], rest)
        else .error (c.expected .listEnd (sep :: rest))
  | [] => .error (c.expected .literal [])

/-- The bracket that closes a list, by the lexeme that opens it. -/
def closing? : Lexeme → Option Lexeme
  | .openParen => some .closeParen
  | .openBracket => some .closeBracket
  | _ => none

/-- A bracketed list of literals; `position` is that of the keyword `IN`. -/
def list (column : String) (k : Kind) (position : Nat) : Parser (List Literal)
  | [] => .error (c.expected .listOpening [])
  | t :: rest =>
    match closing? t.lexeme with
    | none => .error (c.expected .listOpening (t :: rest))
    | some close =>
      if rest.head?.map Token.lexeme = some close then .error (.emptyList column position)
      else c.literals column k close rest

/-- Whether `NOT` is next, and the tokens behind it. -/
def optionalNot (ts : List Token) : Bool × List Token :=
  match keyword? .not ts with
  | some rest => (true, rest)
  | none => (false, ts)

/-- `IS [NOT] NULL`, from behind `IS`. -/
def nullTest (column : String) : Parser Expr := fun ts =>
  let (negated, ts) := optionalNot ts
  match keyword? .null ts with
  | some rest => .ok (.leaf (.null negated column), rest)
  | none => .error (c.expected .null ts)

/-- A pattern, from behind `LIKE`, which is at `position`. -/
def likeTest (negated : Bool) (column : String) (k : Kind) (position : Nat) : Parser Expr :=
  fun ts =>
    if k = .bool ∨ k = .other then .error (.typeMismatch column .textForm .pattern position)
    else match ts with
      | ⟨.text pattern, _⟩ :: rest => .ok (.leaf (.like negated column pattern), rest)
      | ts => .error (c.expected .pattern ts)

/-- A list, from behind `IN`, which is at `position`.  `NOT IN` negates the whole test. -/
def memberTest (negated : Bool) (column : String) (k : Kind) (position : Nat) : Parser Expr :=
  fun ts => (c.list column k position ts).map fun (values, rest) =>
    let test := Expr.leaf (.member column values)
    (if negated then .not test else test, rest)

/-- An operator and a literal. -/
def comparison (column : String) (k : Kind) : Parser Expr
  | ⟨.operator op, _⟩ :: rest =>
    (c.literal column k rest).map fun (l, rest) => (.leaf (.compare op column l), rest)
  | ts => .error (c.expected .operator ts)

/-- The test of a column, from behind its name. -/
def test (column : String) (k : Kind) : Parser Expr := fun ts =>
  match keyword? .is ts with
  | some rest => c.nullTest column rest
  | none =>
    let (negated, ts) := optionalNot ts
    match keyword? .like ts with
    | some rest => c.likeTest negated column k (c.here ts) rest
    | none =>
      match keyword? .in ts with
      | some rest => c.memberTest negated column k (c.here ts) rest
      | none =>
        if negated then .error (c.expected .likeOrIn ts) else c.comparison column k ts

/-- A column and its test. -/
def predicate : Parser Expr
  | ⟨.identifier column, position⟩ :: rest =>
    match c.schema.find? column with
    | none => .error (.unknownColumn column position)
    | some f => c.test column (kind f.type) rest
  | ts => .error (c.expected .columnName ts)

/-- Operands joined by one connective, read after a first one.  Each turn makes the tree higher,
so no more turns than the limit can succeed. -/
def chain (k : Connective) (operand : Parser Parsed) : (turns : Nat) → Parsed → Parser Parsed
  | turns, left, ts =>
    match ts with
    | [] => .ok (left, [])
    | t :: rest =>
      if t.lexeme = .keyword k.keyword then
        match operand rest with
        | .error e => .error e
        | .ok (right, rest) =>
          let depth := 1 + max left.depth right.depth
          if c.limit < depth then .error (tooDeep t.position)
          else match turns with
            | 0 => .error (tooDeep t.position)
            | turns + 1 => chain k operand turns ⟨.join k left.expr right.expr, depth⟩ rest
      else .ok (left, t :: rest)

/-- One operand or several joined by the connective. -/
def chained (k : Connective) (operand : Parser Parsed) : Parser Parsed := fun ts =>
  match operand ts with
  | .error e => .error e
  | .ok (left, rest) => c.chain k operand c.limit left rest

/-- Conjunctions joined by `OR`. -/
def disjunction (operand : Parser Parsed) : Parser Parsed :=
  c.chained .or (c.chained .and operand)

/-- The closing parenthesis of a group that was opened at `position`. -/
def closeGroup (position : Nat) (inner : Parsed) : Parser Parsed
  | [] => .error (.grammar .unmatchedOpen position)
  | t :: rest =>
    if t.lexeme = .closeParen then .ok (inner, rest)
    else .error (c.expected .closeParen (t :: rest))

/-- A negation, a group, or a predicate; `room` more of the first two may be opened. -/
def unary : (room : Nat) → Parser Parsed
  | room, ts =>
    match ts with
    | ⟨.keyword .not, position⟩ :: rest =>
      match room with
      | 0 => .error (tooDeep position)
      | room + 1 =>
        match unary room rest with
        | .error e => .error e
        | .ok (inner, rest) =>
          if c.limit < inner.depth + 1 then .error (tooDeep position)
          else .ok (⟨.not inner.expr, inner.depth + 1⟩, rest)
    | ⟨.openParen, position⟩ :: rest =>
      match room with
      | 0 => .error (tooDeep position)
      | room + 1 =>
        match c.disjunction (unary room) rest with
        | .error e => .error e
        | .ok (inner, rest) => c.closeGroup position inner rest
    | ts => (c.predicate ts).map fun (e, rest) => (⟨e, e.depth⟩, rest)

/-- A filter, and nothing behind it. -/
def filter (ts : List Token) : Except ParseError Expr :=
  match c.disjunction (c.unary c.limit) ts with
  | .error e => .error e
  | .ok (parsed, []) => .ok parsed.expr
  | .ok (_, t :: _) =>
    if t.lexeme = .closeParen then .error (.grammar .unmatchedClose t.position)
    else .error (.grammar (.trailing t.lexeme) t.position)

end Context

/-- Reads a filter text over a schema. -/
def parse (schema : Schema) (text : String) : Except ParseError Expr :=
  match tokenize text with
  | .error e => .error (.lex e)
  | .ok ts => Context.filter ⟨schema, text.utf8ByteSize, maxDepth⟩ ts

/-! ## Error texts -/

def GrammarFault.message : GrammarFault → String
  | .expected what (some got) => "expected " ++ what.text ++ ", got '" ++ got.shown ++ "'"
  | .expected what none => "expected " ++ what.text ++ ", got end of input"
  | .unmatchedOpen => "unmatched '('"
  | .unmatchedClose => "unmatched ')'"
  | .trailing l => "unexpected trailing token '" ++ l.shown ++ "'"
  | .tooDeep => "expression nested deeper than " ++ toString maxDepth ++ " levels"

namespace ParseError

/-- The byte of the filter text that the error is about. -/
def position : ParseError → Nat
  | lex e => e.position
  | grammar _ p => p
  | unknownColumn _ p => p
  | typeMismatch _ _ _ p => p
  | emptyList _ p => p

def message : ParseError → String
  | lex e => e.message
  | grammar fault p => fault.message ++ " at position " ++ toString p
  | unknownColumn column p => "unknown column '" ++ column ++ "' at position " ++ toString p
  | typeMismatch column demand found p =>
    "type mismatch for column '" ++ column ++ "' at position " ++ toString p ++
      ": expected " ++ demand.message ++ ", found " ++ found.message
  | emptyList column p => "empty IN list for column '" ++ column ++ "' at position " ++ toString p

end ParseError

end Columnar.Filter

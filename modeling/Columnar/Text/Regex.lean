/-
# `Text.Regex` — regular expressions

An expression is a text.  Of its syntax there is what patterns with wildcards
need: a flag in front, the two ends of the text, characters that stand for
themselves, `.` for any character and `*` for a run.  The rest of the syntax
is refused, and so is an expression of which an automaton would outgrow a
fixed budget.

`Finds` says what it means that an expression matches somewhere in a text.
`isMatch` decides it in time proportional to expression times text: it goes
through the elements from the last one, and keeps for every place of the text
whether the rest of the expression matches from there on.
-/
import Columnar.Arithmetic

namespace Columnar.Text

/-! ## Expressions -/

namespace Regex

/-- What a character is tested by. -/
inductive Atom where
  | any
  | exactly (c : Char)
deriving DecidableEq, Repr

/-- An end of the text, one character, or a run of characters. -/
inductive Element where
  | start
  | stop
  | one (a : Atom)
  | many (a : Atom)
deriving DecidableEq, Repr

end Regex

structure Regex where
  /-- Any character may be a line feed as well. -/
  dotAll : Bool
  elements : List Regex.Element
deriving DecidableEq, Repr

namespace Regex

/-! ## Syntax -/

/-- The characters that stand for something else than themselves. -/
def metaCharacters : List Char :=
  ['\\', '.', '+', '*', '?', '(', ')', '|', '[', ']', '{', '}', '^', '$', '#', '&', '-', '~']

def isMeta (c : Char) : Bool := metaCharacters.contains c

/-- After a backslash, such a character stands for itself. -/
def escaped (c : Char) : List Char := if isMeta c then ['\\', c] else [c]

/-- The expression for a text that stands for itself. -/
def escape (s : String) : String := String.ofList (s.toList.flatMap escaped)

/-- The elements read so far, the last one first, after one more character without a backslash.
A star repeats the element in front of it. -/
def put? (c : Char) (done : List Element) : Option (List Element) :=
  if c = '^' then some (.start :: done)
  else if c = '$' then some (.stop :: done)
  else if c = '.' then some (.one .any :: done)
  else if c = '*' then
    match done with
    | .one a :: earlier => some (.many a :: earlier)
    | _ => none
  else if isMeta c then none
  else some (.one (.exactly c) :: done)

/-- The elements of an expression, the last one first, when some are read and, maybe, a
backslash. -/
def readFrom : (backslash : Bool) → (done : List Element) → List Char → Option (List Element)
  | false, done, [] => some done
  | true, _, [] => none
  | false, done, c :: rest =>
    if c = '\\' then readFrom true done rest
    else
      match put? c done with
      | none => none
      | some done => readFrom false done rest
  | true, done, c :: rest =>
    if isMeta c then readFrom false (.one (.exactly c) :: done) rest else none

/-- The flag in front of an expression that lets any character be a line feed. -/
def dotAllFlag : List Char := ['(', '?', 's', ')']

/-- Read an expression. -/
def read? (text : String) : Option Regex :=
  let chars := text.toList
  let dotAll := dotAllFlag.isPrefixOf chars
  (readFrom false [] (if dotAll then chars.drop dotAllFlag.length else chars)).map fun done =>
    ⟨dotAll, done.reverse⟩

/-! ## Budget

Texts are matched with two automata, one that reads them from the front and one that reads them
from the back.  Forwards, the encodings of a character share their ends; backwards they do not, so
there any character takes more. -/

/-- Bytes of one state. -/
def stateSize : Nat := 32

/-- What automata that read in one direction are made of, in bytes. -/
structure Sizes where
  /-- The states that every automaton has. -/
  base : Nat
  /-- The states and transitions for any one character. -/
  any : Nat

def Sizes.forwards : Sizes := ⟨4 * stateSize, 9 * stateSize + 16 * 8⟩
def Sizes.backwards : Sizes := ⟨2 * stateSize, 29 * stateSize + 9 * 4⟩

/-- A character that stands for itself takes a state for each of its UTF-8 bytes. -/
def Sizes.ofAtom (z : Sizes) : Atom → Nat
  | .any => z.any
  | .exactly c => stateSize * c.utf8Size

/-- A run takes one more state with two branches. -/
def Sizes.ofElement (z : Sizes) : Element → Nat
  | .start => stateSize
  | .stop => stateSize
  | .one a => z.ofAtom a
  | .many a => z.ofAtom a + stateSize + 2 * 4

/-- Bytes of the automaton of an expression. -/
def Sizes.total (z : Sizes) (elements : List Element) : Nat :=
  elements.foldl (fun n e => n + z.ofElement e) z.base

/-- Bytes an automaton may take. -/
def budget : Nat := 10 * 2 ^ 20

/-- Both automata stay within the budget. -/
def affordable (re : Regex) : Bool :=
  Sizes.forwards.total re.elements ≤ budget && Sizes.backwards.total re.elements ≤ budget

/-- An expression that can be read and run. -/
def compile? (text : String) : Option Regex := (read? text).filter affordable

/-! ## Meaning -/

def Atom.admits (dotAll : Bool) : Atom → Char → Bool
  | .any, c => dotAll || c != '\n'
  | .exactly d, c => c == d

/-- The elements match characters in a row, from a place of the text on, which may be the first
one. -/
inductive Reaches (dotAll : Bool) : List Element → (first : Bool) → List Char → Prop where
  | done {first : Bool} {s : List Char} : Reaches dotAll [] first s
  | start {es : List Element} {s : List Char} :
      Reaches dotAll es true s → Reaches dotAll (.start :: es) true s
  | stop {es : List Element} {first : Bool} :
      Reaches dotAll es first [] → Reaches dotAll (.stop :: es) first []
  | one {a : Atom} {es : List Element} {first : Bool} {c : Char} {s : List Char} :
      a.admits dotAll c = true → Reaches dotAll es false s →
      Reaches dotAll (.one a :: es) first (c :: s)
  | none {a : Atom} {es : List Element} {first : Bool} {s : List Char} :
      Reaches dotAll es first s → Reaches dotAll (.many a :: es) first s
  | more {a : Atom} {es : List Element} {first : Bool} {c : Char} {s : List Char} :
      a.admits dotAll c = true → Reaches dotAll (.many a :: es) false s →
      Reaches dotAll (.many a :: es) first (c :: s)

/-- The expression matches somewhere in the text. -/
def Finds (re : Regex) (text : List Char) : Prop :=
  ∃ before rest, text = before ++ rest ∧ Reaches re.dotAll re.elements before.isEmpty rest

/-! ## Decision

The places of a text have a mark each, the first one first; the last mark is for the end. -/

/-- The marks for a run of characters in front of a match. -/
def runs (admits : Char → Bool) : (text : List Char) → (marks : List Bool) → List Bool
  | c :: text, mark :: marks =>
    let later := runs admits text marks
    (mark || (admits c && later.headD false)) :: later
  | _, marks => marks

/-- The marks for an element in front of a match. -/
def marked (dotAll : Bool) (text : List Char) : Element → (marks : List Bool) → List Bool
  | .start, marks => marks.headD false :: text.map fun _ => false
  | .stop, marks => text.map (fun _ => false) ++ [marks.getLastD false]
  | .one a, marks =>
    List.zipWith (fun c mark => a.admits dotAll c && mark) text marks.tail ++ [false]
  | .many a, marks => runs (a.admits dotAll) text marks

/-- The expression matches somewhere in the text. -/
def isMatch (re : Regex) (text : String) : Bool :=
  let chars := text.toList
  (re.elements.foldr (marked re.dotAll chars) (chars.map (fun _ => true) ++ [true])).any id

end Regex

end Columnar.Text

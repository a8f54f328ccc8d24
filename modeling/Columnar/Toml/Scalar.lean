/-
# `Toml.Scalar` — numbers, truth values, dates and times

A value that is not a text, an array or a table is a word: a run of letters,
digits and the marks that numbers and times are made of.  `scalar?` gives the
value a whole word spells.  A date and a time may be two words with one space
between them.
-/
import Columnar.Number.Decimal
import Columnar.Toml.Value

namespace Columnar.Toml

open Number Text

/-! ## Numbers -/

/-- Digits, and single underscores between them; the digits alone. -/
def ungroup? (digit : Char → Bool) : List Char → Option (List Char)
  | [] => none
  | [c] => if digit c then some [c] else none
  | c :: '_' :: rest => if digit c then (ungroup? digit rest).map (c :: ·) else none
  | c :: rest => if digit c then (ungroup? digit rest).map (c :: ·) else none

/-- The number that digits of a base spell. -/
def inBase (base : Nat) (digits : List Char) : Nat :=
  digits.foldl (fun n c => base * n + (hexValue? c).getD 0) 0

/-- The digits of a base. -/
def isDigitOf (base : Nat) (c : Char) : Bool := (hexValue? c).any (· < base)

/-- A whole number in a base other than ten, behind its mark. -/
def based? (base : Nat) (word : List Char) : Option Int :=
  ((ungroup? (isDigitOf base) word).map fun ds => (inBase base ds : Int)).filter (· ≤ greatestInt64)

/-- Decimal digits of a whole number: no zero in front of others. -/
def wholeDigits? (word : List Char) : Option (List Char) :=
  (ungroup? isDigit word).filter fun ds => ds.length = 1 || ds.head? != some '0'

/-- A whole number of 64 bits. -/
def int? : List Char → Option Int
  | '0' :: 'x' :: rest => based? 16 rest
  | '0' :: 'o' :: rest => based? 8 rest
  | '0' :: 'b' :: rest => based? 2 rest
  | word =>
    let (negative, digits) := signed word
    (wholeDigits? digits).bind fun ds =>
      int64? (if negative then '-' :: ds else ds)

/-- An exponent: a sign and digits, which may begin with zeros. -/
def exponent? : List Char → Option (List Char)
  | [] => some []
  | _ :: word =>
    let (negative, digits) := signed word
    (ungroup? isDigit digits).map fun ds => 'e' :: (if negative then '-' :: ds else ds)

/-- A number with a point, an exponent or both, without its sign and its underscores. -/
def decimal? (word : List Char) : Option (List Char) :=
  let isE (c : Char) : Bool := c = 'e' || c = 'E'
  let mantissa := word.takeWhile fun c => !isE c
  let power := word.dropWhile fun c => !isE c
  let whole := mantissa.takeWhile (· != '.')
  match mantissa.dropWhile (· != '.') with
  | [] =>
    if power.isEmpty then none
    else (wholeDigits? whole).bind fun w => (exponent? power).map (w ++ ·)
  | _ :: fraction =>
    (wholeDigits? whole).bind fun w => (ungroup? isDigit fraction).bind fun f =>
      (exponent? power).map fun e => w ++ '.' :: f ++ e

/-- A floating point number; too great a number is refused. -/
def float? (word : List Char) : Option (Binary .double) :=
  let (negative, rest) := signed word
  if rest = ['i', 'n', 'f'] then some (Binary.infinite negative)
  else if rest = ['n', 'a', 'n'] then some (Binary.nan negative)
  else
    (decimal? rest).bind fun digits =>
      (binary? .double (if negative then '-' :: digits else digits)).filter
        (· != Binary.infinite false)

/-! ## Dates and times -/

/-- The number that exactly `n` digits in front of a text spell, if it lies between the bounds,
and the text after them. -/
def digits? (n low high : Nat) (cs : List Char) : Option (Nat × List Char) :=
  let ds := cs.take n
  if ds.length = n && ds.all isDigit && low ≤ natural ds && natural ds ≤ high then
    some (natural ds, cs.drop n)
  else none

/-- The text after a character. -/
def after? (c : Char) : List Char → Option (List Char)
  | x :: rest => if x = c then some rest else none
  | [] => none

def isLeapYear (year : Nat) : Bool := year % 4 = 0 && (year % 100 != 0 || year % 400 = 0)

/-- The days of a month. -/
def monthDays (year month : Nat) : Nat :=
  if month = 2 then if isLeapYear year then 29 else 28
  else if month = 4 || month = 6 || month = 9 || month = 11 then 30
  else 31

/-- The text after a date `yyyy-mm-dd`. -/
def afterDate? (cs : List Char) : Option (List Char) := do
  let (year, cs) ← digits? 4 0 9999 cs
  let (month, cs) ← digits? 2 1 12 (← after? '-' cs)
  let (_, cs) ← digits? 2 1 (monthDays year month) (← after? '-' cs)
  return cs

/-- The text after a time `hh:mm:ss` with an optional fraction; a minute may have a leap
second. -/
def afterTime? (cs : List Char) : Option (List Char) := do
  let (_, cs) ← digits? 2 0 23 cs
  let (_, cs) ← digits? 2 0 59 (← after? ':' cs)
  let (_, cs) ← digits? 2 0 60 (← after? ':' cs)
  match cs with
  | '.' :: rest =>
    if (rest.takeWhile isDigit).isEmpty then none else some (rest.dropWhile isDigit)
  | _ => some cs

/-- Nothing, or the distance from universal time. -/
def isOffset : List Char → Bool
  | [] => true
  | 'Z' :: rest => rest.isEmpty
  | 'z' :: rest => rest.isEmpty
  | sign :: rest =>
    (sign = '+' || sign = '-') &&
      (do
        let (_, cs) ← digits? 2 0 23 rest
        let (_, cs) ← digits? 2 0 59 (← after? ':' cs)
        return cs.isEmpty).getD false

/-- A time behind a date. -/
def isClock (word : List Char) : Bool := (afterTime? word).any isOffset

def isDate (word : List Char) : Bool := (afterDate? word).any List.isEmpty

/-- A date, a time of day, or a date and a time with `T` between them. -/
def isTime (word : List Char) : Bool :=
  (afterTime? word).any List.isEmpty ||
    match afterDate? word with
    | some [] => true
    | some (c :: rest) => (c = 'T' || c = 't') && isClock rest
    | none => false

/-! ## Words -/

/-- The characters that words are made of. -/
def isWordChar (c : Char) : Bool :=
  isDigit c || ('a' ≤ c && c ≤ 'z') || ('A' ≤ c && c ≤ 'Z') || c = '+' || c = '-' || c = '_' ||
    c = '.' || c = ':'

/-- The value a word spells. -/
def word? (word : List Char) : Option Value :=
  if word = ['t', 'r', 'u', 'e'] then some (.bool true)
  else if word = ['f', 'a', 'l', 's', 'e'] then some (.bool false)
  else if isTime word then some .time
  else ((float? word).map Value.float).or ((int? word).map Value.int)

/-- The value of the word in front of a text, and what follows it. -/
def scalar? (cs : List Char) : Option (Value × List Char) :=
  let word := cs.takeWhile isWordChar
  let rest := cs.dropWhile isWordChar
  match rest with
  | ' ' :: next =>
    if isDate word && isClock (next.takeWhile isWordChar) then
      some (.time, next.dropWhile isWordChar)
    else (word? word).map (·, rest)
  | _ => (word? word).map (·, rest)

end Columnar.Toml

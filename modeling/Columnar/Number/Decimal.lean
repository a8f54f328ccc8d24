/-
# `Number.Decimal` — numbers read from decimal text

`integer?` reads whole numbers, `Numeral.read?` floating point texts: an
optional sign, then digits with an optional point and exponent, or one of
the words for infinity and "not a number".  `Numeral.toBinary` rounds what
was read, once and exactly.
-/
import Columnar.Number.Binary
import Columnar.Text.Class

namespace Columnar.Number

open Columnar.Text

/-- The value of a run of decimal digits. -/
def natural (digits : List Char) : Nat := digits.foldl (fun n c => 10 * n + digitValue c) 0

/-- A sign in front of a text, and the text after it. -/
def signed : List Char → Bool × List Char
  | '-' :: rest => (true, rest)
  | '+' :: rest => (false, rest)
  | cs => (false, cs)

/-! ## Whole numbers -/

/-- A whole number: an optional sign and at least one digit, nothing else. -/
def integer? (cs : List Char) : Option Int :=
  let (negative, digits) := signed cs
  if digits.isEmpty || !digits.all isDigit then none
  else if negative then some (-(natural digits : Int)) else some (natural digits)

/-- The least and the greatest whole number of 64 bits with a sign. -/
def leastInt64 : Int := -(2 ^ 63)
def greatestInt64 : Int := 2 ^ 63 - 1

/-- A whole number that fits 64 bits with a sign. -/
def int64? (cs : List Char) : Option Int :=
  (integer? cs).filter fun i => leastInt64 ≤ i && i ≤ greatestInt64

/-! ## Floating point texts -/

/-- What a floating point text spells: `± digits · 10 ^ exponent`, or a special value. -/
inductive Numeral where
  | finite (negative : Bool) (digits : Nat) (exponent : Int)
  | infinite (negative : Bool)
  | nan (negative : Bool)
deriving DecidableEq

namespace Numeral

/-- The exponent part of a number: nothing, or `e` and a signed run of digits. -/
def exponent? : List Char → Option Int
  | [] => some 0
  | c :: rest =>
    if c = 'e' || c = 'E' then integer? rest else none

/-- The digits behind a point, if a point comes first, and what is left. -/
def fractional : List Char → List Char × List Char
  | '.' :: after => (after.takeWhile isDigit, after.dropWhile isDigit)
  | rest => ([], rest)

/-- An unsigned number: digits with an optional point, at least one digit, then the exponent. -/
def unsigned? (negative : Bool) (cs : List Char) : Option Numeral :=
  let whole := cs.takeWhile isDigit
  let (fraction, rest) := fractional (cs.dropWhile isDigit)
  if whole.isEmpty && fraction.isEmpty then none
  else (exponent? rest).map fun e =>
    finite negative (natural (whole ++ fraction)) (e - (fraction.length : Int))

/-- The words that stand for special values, in any ASCII case. -/
def special? (negative : Bool) (cs : List Char) : Option Numeral :=
  let word := String.ofList (cs.map lower)
  if word = "inf" || word = "infinity" then some (infinite negative)
  else if word = "nan" then some (nan negative)
  else none

/-- Reads a floating point text; `none` if it is not one. -/
def read? (cs : List Char) : Option Numeral :=
  let (negative, rest) := signed cs
  (special? negative rest).or (unsigned? negative rest)

/-- Beyond this power of ten in either direction every format has overflowed or vanished. -/
def reach : Int := 400

/-- The number of the format that is nearest to what the text spells. -/
def toBinary (p : Precision) : Numeral → Binary p
  | nan negative => Binary.nan negative
  | infinite negative => Binary.infinite negative
  | finite negative digits exponent =>
    let lead : Int := ((Nat.toDigits 10 digits).length : Int) + exponent
    if digits = 0 || lead < -reach then Binary.ofMagnitude negative 0
    else if reach < lead then Binary.infinite negative
    else if 0 ≤ exponent then Binary.ofRatio negative (digits * 10 ^ exponent.toNat) 1
    else Binary.ofRatio negative digits (10 ^ (-exponent).toNat)

end Numeral

/-- The number a floating point text spells, rounded to the format. -/
def binary? (p : Precision) (cs : List Char) : Option (Binary p) :=
  (Numeral.read? cs).map (Numeral.toBinary p)

end Columnar.Number

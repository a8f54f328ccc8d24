/-
# `Text.Class` — the character classes of the filter language

Blank, alphabetic and alphanumeric characters, over all of Unicode, and
the ASCII operations that keywords and type names are compared with.  A
class is a predicate on characters; its table is in `Text.Ranges`.
-/
import Columnar.Text.Ranges

namespace Columnar.Text

/-- The character's code point lies in one of the ranges. -/
def within (ranges : List (Nat × Nat)) (c : Char) : Bool :=
  ranges.any fun r => r.1 ≤ c.toNat && c.toNat ≤ r.2

/-- Characters that separate tokens and are otherwise ignored. -/
def isBlank (c : Char) : Bool := within Ranges.whiteSpace c

/-- Letters, and marks that count as letters. -/
def isAlphabetic (c : Char) : Bool := within Ranges.alphabetic c

/-- Letters and numbers of every script. -/
def isAlphanumeric (c : Char) : Bool := isAlphabetic c || within Ranges.numeric c

/-! ## ASCII -/

/-- The decimal digits `0` to `9`; digits of other scripts do not count. -/
def isDigit (c : Char) : Bool := '0' ≤ c && c ≤ '9'

/-- The value of a decimal digit. -/
def digitValue (c : Char) : Nat := c.toNat - '0'.toNat

/-- The value of a hexadecimal digit, of either case. -/
def hexValue? (c : Char) : Option Nat :=
  if '0' ≤ c && c ≤ '9' then some (c.toNat - '0'.toNat)
  else if 'a' ≤ c && c ≤ 'f' then some (c.toNat - 'a'.toNat + 10)
  else if 'A' ≤ c && c ≤ 'F' then some (c.toNat - 'A'.toNat + 10)
  else none

/-- Capital letters for `a` to `z`; every other character stays. -/
def upper (c : Char) : Char := if 'a' ≤ c && c ≤ 'z' then Char.ofNat (c.toNat - 32) else c

/-- Small letters for `A` to `Z`; every other character stays. -/
def lower (c : Char) : Char := if 'A' ≤ c && c ≤ 'Z' then Char.ofNat (c.toNat + 32) else c

/-- The text with its ASCII letters in capitals. -/
def upperAscii (s : String) : String := String.ofList (s.toList.map upper)

/-- The text with its ASCII letters in small letters. -/
def lowerAscii (s : String) : String := String.ofList (s.toList.map lower)

/-! ## Lengths -/

/-- The number of bytes a run of characters takes in UTF-8. -/
def byteLength (cs : List Char) : Nat := cs.foldl (fun n c => n + c.utf8Size) 0

/-- The text followed by as many spaces as bring it to `width` characters. -/
def padRight (width : Nat) (s : String) : String :=
  s ++ String.ofList (List.replicate (width - s.length) ' ')

end Columnar.Text

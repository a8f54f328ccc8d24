/-
# `Number.Binary` — binary floating point numbers as bit patterns

The three interchange formats a column can hold.  A number is its bit
pattern; its value, where it has one, is `significand · 2 ^ unitExponent`
with a sign.  Everything is computed on natural numbers: `round` takes an
exact ratio to the nearest number of a format, a half to the even
neighbour, and reading, conversion and comparison are built on it.
-/
import Columnar.Arithmetic

namespace Columnar.Number

/-- The formats, by the size of their significand. -/
inductive Precision where
  | half
  | single
  | double
deriving DecidableEq, Repr

namespace Precision

/-- Bits of the significand, the leading one included. -/
def digits : Precision → Nat
  | half => 11
  | single => 24
  | double => 53

/-- Bits of the exponent field. -/
def exponentBits : Precision → Nat
  | half => 5
  | single => 8
  | double => 11

/-- Bits of a whole number of the format. -/
def width : Precision → Nat
  | half => 16
  | single => 32
  | double => 64

/-- The exponent of the smallest positive number. -/
def least : Precision → Int
  | half => -24
  | single => -149
  | double => -1074

/-- The bits of infinity. -/
def infinity (p : Precision) : Nat := (2 ^ p.exponentBits - 1) * 2 ^ (p.digits - 1)

end Precision

/-- A floating point number of the format `p`. -/
structure Binary (p : Precision) where
  bits : BitVec p.width
deriving DecidableEq

namespace Binary

variable {p : Precision}

/-! ## Fields -/

/-- The sign bit. -/
def negative (x : Binary p) : Bool := x.bits.msb

/-- The bits below the sign; among numbers of one sign they are in the order of the values. -/
def magnitude (x : Binary p) : Nat := x.bits.toNat % 2 ^ (p.width - 1)

/-- A number from its sign and the bits below it. -/
def ofMagnitude (negative : Bool) (magnitude : Nat) : Binary p :=
  ⟨BitVec.ofNat p.width (if negative then 2 ^ (p.width - 1) + magnitude else magnitude)⟩

def isNaN (x : Binary p) : Bool := p.infinity < x.magnitude
def isInfinite (x : Binary p) : Bool := x.magnitude == p.infinity
def isFinite (x : Binary p) : Bool := x.magnitude < p.infinity
def isZero (x : Binary p) : Bool := x.magnitude == 0

/-- The quiet "not a number" with a sign. -/
def nan (negative : Bool) : Binary p := ofMagnitude negative (p.infinity + 2 ^ (p.digits - 2))

/-- Infinity with a sign. -/
def infinite (negative : Bool) : Binary p := ofMagnitude negative p.infinity

/-- The whole number of units in a finite number; see `unitExponent`. -/
def significand (x : Binary p) : Nat :=
  let hidden := 2 ^ (p.digits - 1)
  if x.magnitude < hidden then x.magnitude else x.magnitude % hidden + hidden

/-- The power of two that a finite number counts in units of. -/
def unitExponent (x : Binary p) : Int :=
  p.least + ((x.magnitude / 2 ^ (p.digits - 1) - 1 : Nat) : Int)

/-! ## Rounding -/

/-- `num / den`, to the nearest whole number; a half goes to the even neighbour. -/
def nearest (num den : Nat) : Nat :=
  let q := num / den
  let r := num % den
  if 2 * r < den then q
  else if den < 2 * r then q + 1
  else q + q % 2

/-- Numerator and denominator of `(num / den) · 2 ^ e`. -/
def scale2 (num den : Nat) (e : Int) : Nat × Nat :=
  if 0 ≤ e then (num * 2 ^ e.toNat, den) else (num, den * 2 ^ (-e).toNat)

/-- The exponent `e` with `2 ^ e ≤ num / den < 2 ^ (e + 1)`, for positive numbers. -/
def floorLog2 (num den : Nat) : Int :=
  let e : Int := (num.log2 : Int) - (den.log2 : Int)
  let r := scale2 num den (-e)
  if r.1 < r.2 then e - 1 else e

/-- The bits, sign apart, of the number nearest to `num / den`. -/
def round (p : Precision) (num den : Nat) : Nat :=
  if num = 0 then 0
  else
    let q := max (floorLog2 num den - (p.digits - 1 : Nat)) p.least
    let r := scale2 num den (-q)
    min p.infinity ((q - p.least).toNat * 2 ^ (p.digits - 1) + nearest r.1 r.2)

/-- The number nearest to the ratio. -/
def ofRatio (negative : Bool) (num den : Nat) : Binary p := ofMagnitude negative (round p num den)

/-- The number nearest to a whole number. -/
def ofInt (i : Int) : Binary p := ofRatio (i < 0) i.natAbs 1

/-- The number of another format nearest to this one. -/
def convert (q : Precision) (x : Binary p) : Binary q :=
  if x.isNaN then nan x.negative
  else if x.isInfinite then infinite x.negative
  else
    let r := scale2 x.significand 1 x.unitExponent
    ofRatio x.negative r.1 r.2

/-! ## Arithmetic -/

/-- The value of a finite number, sign apart: numerator and denominator. -/
def ratio (x : Binary p) : Nat × Nat := scale2 x.significand 1 x.unitExponent

/-- The number nearest to the product of two finite numbers. -/
def product (x y : Binary p) : Binary p :=
  ofRatio (x.negative != y.negative) (x.ratio.1 * y.ratio.1) (x.ratio.2 * y.ratio.2)

/-- The number nearest to the quotient of two finite numbers, the second of which is not zero. -/
def quotient (x y : Binary p) : Binary p :=
  ofRatio (x.negative != y.negative) (x.ratio.1 * y.ratio.2) (x.ratio.2 * y.ratio.1)

/-- The greatest number of 64 bits that is not above a finite number without a sign. -/
def toWord (x : Binary p) : Nat := min (2 ^ 64 - 1) (x.ratio.1 / x.ratio.2)

/-! ## Order -/

/-- Whole numbers in the order of the values; both zeros are 0. -/
def rank (x : Binary p) : Int := if x.negative then -(x.magnitude : Int) else x.magnitude

/-- How two numbers compare; "not a number" compares with nothing. -/
def compare? (x y : Binary p) : Option Ordering :=
  if x.isNaN || y.isNaN then none else some (compare x.rank y.rank)

/-- Equality of values: zeros agree, "not a number" agrees with nothing. -/
def agrees (x y : Binary p) : Bool := compare? x y == some .eq

end Binary

end Columnar.Number

/-
# `Number.Shortest` — the fewest digits that read back

A finite floating point number stands for every real number that rounds to
it.  `shortest` finds the coarsest decimal grid with a point in that
interval: on each grid only the two neighbours of the number matter, and of
two hits the nearer is taken; a `Tie` says which, if they are equally near.
`Rendering` then says how the digits are laid out as text.
-/
import Columnar.Number.Binary
import Columnar.Text.Class

namespace Columnar.Number

/-! ## The digits -/

/-- What a value halfway between two neighbours on a grid goes to. -/
inductive Tie where
  | up
  | even
deriving DecidableEq, Repr

/-- The neighbour that halfway between `n` and `n + 1` goes to. -/
def Tie.choose : Tie → Nat → Nat
  | up, n => n + 1
  | even, n => n + n % 2

/-- The reals `low / den` to `high / den` that round to `value / den`. -/
structure Interval where
  low : Nat
  value : Nat
  high : Nat
  den : Nat
  /-- Whether the ends round to the number too. -/
  closed : Bool

namespace Interval

/-- The interval of a finite number that is not zero: half a unit on each side, and only a
quarter below a power of two, where the units get smaller. -/
def ofBinary {p : Precision} (x : Binary p) : Interval :=
  let m := x.significand
  let below := if m = 2 ^ (p.digits - 1) then 1 else 2
  let (unit, den) := Binary.scale2 1 1 (x.unitExponent - 2)
  { low := (4 * m - below) * unit
    value := 4 * m * unit
    high := (4 * m + 2) * unit
    den := den
    closed := m % 2 == 0 }

/-- The interval in units of `10 ^ k`. -/
def scaled (i : Interval) (k : Int) : Interval :=
  if 0 ≤ k then { i with den := i.den * 10 ^ k.toNat }
  else
    let f := 10 ^ (-k).toNat
    { i with low := i.low * f, value := i.value * f, high := i.high * f }

/-- The whole number `n` lies in the interval. -/
def holds (i : Interval) (n : Nat) : Bool :=
  if i.closed then i.low ≤ n * i.den && n * i.den ≤ i.high
  else i.low < n * i.den && n * i.den < i.high

/-- The neighbour of the value on the grid of whole numbers that lies in the interval. -/
def point? (t : Tie) (i : Interval) : Option Nat :=
  let down := i.value / i.den
  let up := down + 1
  match i.holds down, i.holds up with
  | true, true =>
    match compare (2 * (i.value % i.den)) i.den with
    | .lt => some down
    | .gt => some up
    | .eq => some (t.choose down)
  | true, false => some down
  | false, true => some up
  | false, false => none

/-- The exponent `e` with `10 ^ e ≤ value / den < 10 ^ (e + 1)`. -/
def lead (i : Interval) : Int :=
  let e := Binary.floorLog2 i.value i.den * 1233 / 4096
  let reaches (e : Int) : Bool := let s := i.scaled e; s.den ≤ s.value
  if reaches (e + 1) then e + 1 else if reaches e then e else e - 1

end Interval

/-- The first hit on the grids `10 ^ k`, `10 ^ (k - 1)`, …, of which `tries` are left. -/
def firstHit (t : Tie) (i : Interval) : (tries : Nat) → (k : Int) → Nat × Int
  | 0, k => let s := i.scaled k; (s.value / s.den, k)
  | tries + 1, k =>
    match (i.scaled k).point? t with
    | some n => (n, k)
    | none => firstHit t i tries (k - 1)

/-- Decimal digits without leading or trailing zeros, and the power of ten of the first. -/
structure Digits where
  digits : List Char
  lead : Int

/-- The digits of `n · 10 ^ k`. -/
def Digits.ofNat (n : Nat) (k : Int) : Digits :=
  let ds := Nat.toDigits 10 n
  ⟨(ds.reverse.dropWhile (· = '0')).reverse, k + (ds.length : Int) - 1⟩

/-- Seventeen digits always tell two numbers of the widest format apart. -/
def mostDigits : Nat := 17

/-- The fewest digits that round to a finite number other than zero, and of those the nearest. -/
def shortest (t : Tie) {p : Precision} (x : Binary p) : Digits :=
  let i := Interval.ofBinary x
  let hit := firstHit t i mostDigits i.lead
  Digits.ofNat hit.1 hit.2

/-! ## The text -/

/-- How digits are laid out. -/
structure Rendering where
  /-- The powers of ten of the first digit that are written without an exponent. -/
  positional : Int → Bool
  /-- Whether a whole number keeps `.0`. -/
  fraction : Bool
  /-- Which of two equally near shortest texts is taken. -/
  tie : Tie

namespace Rendering

/-- Always recognisable as floating point: a point or an exponent is never missing, and the
exponent form takes over below `10 ^ -4` and from `10 ^ 16`. -/
def literal : Rendering := ⟨fun e => -4 ≤ e && e < 16, true, .up⟩

/-- Never an exponent and nothing beyond the digits that count. -/
def plain : Rendering := ⟨fun _ => true, false, .up⟩

/-- As in a table: narrower numbers have fewer digits and so get an exponent sooner. -/
def tabular : Precision → Rendering
  | .double => ⟨fun e => -5 ≤ e && e < 16, true, .even⟩
  | .single => ⟨fun e => -6 ≤ e && e < 13, true, .even⟩
  | .half => plain

/-- Digits around a point. -/
def point (r : Rendering) (d : Digits) : List Char :=
  if d.lead < 0 then
    '0' :: '.' :: (List.replicate (-d.lead - 1).toNat '0' ++ d.digits)
  else
    let n := d.lead.toNat + 1
    let whole := d.digits.take n ++ List.replicate (n - d.digits.length) '0'
    match d.digits.drop n with
    | [] => if r.fraction then whole ++ ['.', '0'] else whole
    | rest => whole ++ '.' :: rest

/-- One digit, the others after a point, and the exponent. -/
def exponent (d : Digits) : List Char :=
  let mantissa := match d.digits with
    | first :: second :: rest => first :: '.' :: second :: rest
    | ds => ds
  mantissa ++ 'e' :: (toString d.lead).toList

/-- A finite number without its sign. -/
def magnitude (r : Rendering) {p : Precision} (x : Binary p) : List Char :=
  if x.isZero then if r.fraction then ['0', '.', '0'] else ['0']
  else
    let d := shortest r.tie x
    if r.positional d.lead then r.point d else exponent d

/-- The text of a number. -/
def write (r : Rendering) {p : Precision} (x : Binary p) : String :=
  if x.isNaN then "NaN"
  else
    let sign := if x.negative then "-" else ""
    if x.isInfinite then sign ++ "inf" else sign ++ String.ofList (r.magnitude x)

end Rendering

end Columnar.Number

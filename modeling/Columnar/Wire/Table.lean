/-
# `Wire.Table` — reading the tables of a message

A message that was read from a file may hold anything, so every access is
checked: a number has to lie inside the message and at a multiple of its
width, a vector has to be there with all its elements, and a text has to be
well formed and to end with a zero byte.  `none` stands for a message that is
damaged; a slot that a table does not have is no damage, and is told apart.
-/
import Columnar.Bytes

namespace Columnar.Wire

/-- Bytes at hand for reading at any place. -/
abbrev Data := Array UInt8

namespace Data

/-- `length` bytes from a place, if there are as many. -/
def part? (d : Data) (place length : Nat) : Option Data :=
  if place + length ≤ d.size then some (d.extract place (place + length)) else none

/-- The number in the `width` bytes at a place. -/
def number? (d : Data) (place width : Nat) : Option Nat :=
  (d.part? place width).map fun part => Bytes.toNat part.toList

/-! ## Parts of a message -/

/-- The number in the `width` bytes at a place, a multiple of the width. -/
def aligned? (d : Data) (place width : Nat) : Option Nat :=
  if place % width = 0 then d.number? place width else none

/-- The place that the reference at a place refers to. -/
def target? (d : Data) (place : Nat) : Option Nat := (d.aligned? place 4).map (place + ·)

/-- How many elements the vector at a place has: each takes `width` bytes, and the first one lies
at a multiple of `unit`. -/
def count? (d : Data) (width unit place : Nat) : Option Nat := do
  let count ← d.aligned? place 4
  let _ ← d.part? (place + 4) (width * count)
  if (place + 4) % unit = 0 then some count else none

/-- The text at a place. -/
def text? (d : Data) (place : Nat) : Option String := do
  let count ← d.count? 1 1 place
  let content ← d.part? (place + 4) count
  let closing ← d.number? (place + 4 + count) 1
  if closing = 0 then Bytes.toText? content.toList else none

/-- What the references in the vector at a place refer to. -/
def refs? {α : Type} (d : Data) (read? : Nat → Option α) (place : Nat) : Option (List α) := do
  let count ← d.count? 4 4 place
  (List.range count).mapM fun i => do read? (← d.target? (place + 4 + 4 * i))

/-- The pairs of numbers in the vector at a place. -/
def pairs? (d : Data) (place : Nat) : Option (List (Nat × Nat)) := do
  let count ← d.count? 16 1 place
  (List.range count).mapM fun i => do
    let first ← d.number? (place + 4 + 16 * i) 8
    let second ← d.number? (place + 12 + 16 * i) 8
    return (first, second)

end Data

/-! ## Tables -/

/-- A table: how far behind its front each of its slots lies, 0 for a slot that it does not
have. -/
structure Table where
  place : Nat
  slots : List Nat

/-- The place of a slot that the table has. -/
def Table.slot? (t : Table) (k : Nat) : Option Nat :=
  (t.slots[k]?.filter (· != 0)).map (t.place + ·)

namespace Data

/-- The place of the shape of the table at `place`: before the table if the distance is positive
as a number with a sign, and otherwise not. -/
def shape? (d : Data) (place : Nat) : Option Nat := do
  let distance ← d.aligned? place 4
  if 0 < distance && distance < 2 ^ 31 then
    if distance ≤ place then some (place - distance) else none
  else some (place + (2 ^ 32 - distance) % 2 ^ 32)

/-- The table at a place. -/
def table? (d : Data) (place : Nat) : Option Table := do
  let shape ← d.shape? place
  let length ← d.aligned? shape 2
  let content ← d.part? shape length
  if length % 2 = 0 then
    let slot k := Bytes.toNat (content.extract (4 + 2 * k) (6 + 2 * k)).toList
    some ⟨place, (List.range (length / 2 - 2)).map slot⟩
  else none

/-- The number in a slot of a table; `default` if the table does not have the slot. -/
def numberSlot? (d : Data) (t : Table) (k width default : Nat) : Option Nat :=
  match t.slot? k with
  | some place => d.aligned? place width
  | none => some default

/-- What a slot of a table refers to; `none` inside if the table does not have the slot. -/
def refSlot? {α : Type} (d : Data) (t : Table) (k : Nat) (read? : Nat → Option α) :
    Option (Option α) :=
  match t.slot? k with
  | some place => do return some (← read? (← d.target? place))
  | none => some none

/-- What a slot refers to that the table has to have. -/
def needed? {α : Type} (d : Data) (t : Table) (k : Nat) (read? : Nat → Option α) : Option α :=
  (d.refSlot? t k read?).join

end Data

end Columnar.Wire

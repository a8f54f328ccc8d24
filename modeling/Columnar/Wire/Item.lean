/-
# `Wire.Item` — tables written back to front

A message is a tree of tables, texts and vectors, laid out from its end
towards its front: what a table refers to is written before the table and so
lies behind it.  An `Item` says what is laid out and in which order,
`Item.encode` gives the bytes.

A place in the message is counted from its end, because that is what does not
move while bytes are put in front.  A reference holds how far its target lies
behind it.  A table begins with the distance to its shape, which lists where
its slots are; tables of one shape share it.
-/
import Columnar.Bytes

namespace Columnar.Wire

/-! ## Items -/

/-- What a slot of a table holds: a number, or a reference to one of the table's parts. -/
inductive Slot where
  | number (width value : Nat)
  | part (index : Nat)
deriving DecidableEq, Repr

/-- Something laid out in a message.  The parts of a table are laid out before it in their order;
`refs` is a vector of references to parts that come before it in the same table. -/
inductive Item where
  | text (content : String)
  /-- A vector of structures of sixteen bytes. -/
  | pairs (count : Nat) (content : Bytes)
  | refs (siblings : List Nat)
  | table (parts : List Item) (slots : List (Nat × Slot))

/-! ## Building -/

/-- The end of a message, as far as it is laid out. -/
structure Builder where
  bytes : Bytes
  /-- The number of the bytes; also the place of what was laid out last. -/
  used : Nat
  /-- The greatest alignment so far. -/
  widest : Nat
  /-- The shapes of tables and their places. -/
  shapes : List (Bytes × Nat)

namespace Builder

def empty : Builder := ⟨[], 0, 1, []⟩

/-- More bytes in front. -/
def push (b : Builder) (front : Bytes) : Builder :=
  { b with bytes := front ++ b.bytes, used := b.used + front.length }

/-- Zeros in front, so that `n` bytes more end at a multiple of `unit`. -/
def align (b : Builder) (n unit : Nat) : Builder :=
  { b.push (Bytes.zeros (Bytes.gap unit (b.used + n))) with widest := max b.widest unit }

def number (b : Builder) (width value : Nat) : Builder :=
  (b.align width width).push (Bytes.ofNat width value)

/-- A reference to the place `target`. -/
def reference (b : Builder) (target : Nat) : Builder :=
  let b := b.align 4 4
  b.push (Bytes.ofNat 4 (b.used + 4 - target))

def text (b : Builder) (content : String) : Builder :=
  let bytes := Bytes.ofText content
  (b.align (bytes.length + 1) 4).push (Bytes.ofNat 4 bytes.length ++ bytes ++ [0])

def pairs (b : Builder) (count : Nat) (content : Bytes) : Builder :=
  (b.align content.length 4).push (Bytes.ofNat 4 count ++ content)

def refs (b : Builder) (targets : List Nat) : Builder :=
  (targets.foldr (fun t b => b.reference t) (b.align (4 * targets.length) 4)).push
    (Bytes.ofNat 4 targets.length)

/-- One slot, given the places of the table's parts. -/
def slot (b : Builder) (targets : List Nat) : Slot → Builder
  | .number width value => b.number width value
  | .part i => b.reference (targets.getD i 0)

/-- The slots one in front of the other, and the place of each. -/
def slots (targets : List Nat) : List (Nat × Slot) → Builder → List (Nat × Nat) × Builder
  | [], b => ([], b)
  | (k, s) :: rest, b =>
    let b := b.slot targets s
    let (places, after) := slots targets rest b
    ((k, b.used) :: places, after)

/-- The shape of a table at the place `at` that began at `start`: the lengths of the shape and of
the table, then for each slot its distance from the table's front, or 0. -/
def shape (start front : Nat) (places : List (Nat × Nat)) : Bytes :=
  let count := places.foldl (fun n p => max n (p.1 + 1)) 0
  Bytes.ofNat 2 (4 + 2 * count) ++ Bytes.ofNat 2 (front - start) ++
    (List.range count).flatMap fun k =>
      Bytes.ofNat 2 (match places.lookup k with
        | some place => front - place
        | none => 0)

/-- A table with the given slots, and its shape in front of it unless the message has it; also
the table's place. -/
def table (b : Builder) (targets : List Nat) (contents : List (Nat × Slot)) : Nat × Builder :=
  let (places, filled) := slots targets contents b
  let filled := filled.align 4 4
  let front := filled.used + 4
  let shape := shape b.used front places
  match filled.shapes.lookup shape with
  | some place => (front, filled.push (Bytes.ofNat 4 (2 ^ 32 + place - front)))
  | none =>
    let built := (filled.push (Bytes.ofNat 4 shape.length)).push shape
    (front, { built with shapes := (shape, built.used) :: built.shapes })

end Builder

mutual

/-- Lays out an item; `siblings` are the places of the parts before it in the same table. -/
def Item.layout : Item → (siblings : List Nat) → Builder → Nat × Builder
  | .text content, _, b => let b := b.text content; (b.used, b)
  | .pairs count content, _, b => let b := b.pairs count content; (b.used, b)
  | .refs indices, siblings, b =>
    let b := b.refs (indices.map fun i => siblings.getD i 0)
    (b.used, b)
  | .table parts slots, _, b =>
    let (targets, b) := Item.layoutAll parts [] b
    b.table targets slots

/-- Lays out the parts of a table; `done` are the places of those before. -/
def Item.layoutAll : List Item → (done : List Nat) → Builder → List Nat × Builder
  | [], done, b => (done, b)
  | item :: rest, done, b =>
    let (place, b) := item.layout done b
    Item.layoutAll rest (done ++ [place]) b

end

/-- The message that is one item: a reference to it comes first. -/
def Item.encode (item : Item) : Bytes :=
  let (root, b) := item.layout [] Builder.empty
  let b := b.align 4 b.widest
  (b.reference root).bytes

end Columnar.Wire

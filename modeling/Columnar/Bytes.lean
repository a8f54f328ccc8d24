/-
# `Bytes` — byte strings and little-endian numbers

A byte string is a list of bytes.  Numbers are written least significant
byte first into fields of a fixed width; `toNat` reads such a field back.
-/
import Columnar.Arithmetic
import Columnar.Text.Class

namespace Columnar

/-- A byte string: a file's content, a message, a field. -/
abbrev Bytes := List UInt8

namespace Bytes

/-! ## Numbers -/

/-- The `width` low bytes of a number, least significant first. -/
def ofNat : (width : Nat) → Nat → Bytes
  | 0, _ => []
  | w + 1, n => UInt8.ofNat n :: ofNat w (n / 256)

/-- The number a little-endian field holds. -/
def toNat : Bytes → Nat
  | [] => 0
  | b :: rest => b.toNat + 256 * toNat rest

/-! ## Alignment -/

/-- A run of zero bytes. -/
def zeros (n : Nat) : Bytes := List.replicate n 0

/-- How many bytes carry `n` up to a multiple of `unit`. -/
def gap (unit n : Nat) : Nat := (unit - n % unit) % unit

/-- The bytes, then zeros up to a multiple of `unit`. -/
def padded (unit : Nat) (b : Bytes) : Bytes := b ++ zeros (gap unit b.length)

/-! ## Changing -/

/-- The bytes with others written over them from a place on; a gap is filled with zeros. -/
def overwrite (b : Bytes) (place : Nat) (new : Bytes) : Bytes :=
  let front := b.take place
  front ++ zeros (place - front.length) ++ new ++ b.drop (place + new.length)

/-- The first `length` bytes; missing ones are zero. -/
def resize (b : Bytes) (length : Nat) : Bytes :=
  let front := b.take length
  front ++ zeros (length - front.length)

/-! ## Text -/

/-- The UTF-8 bytes of a text. -/
def ofText (s : String) : Bytes := s.toUTF8.data.toList

/-- The text whose UTF-8 bytes these are, if they are well formed. -/
def toText? (b : Bytes) : Option String := String.fromUTF8? ⟨b.toArray⟩

/-- Pairs of hexadecimal digits as bytes, appended to `read` in reverse. -/
def ofHexChars? (read : Bytes) : List Char → Option Bytes
  | [] => some read.reverse
  | hi :: lo :: rest =>
    match Text.hexValue? hi, Text.hexValue? lo with
    | some h, some l => ofHexChars? (UInt8.ofNat (16 * h + l) :: read) rest
    | _, _ => none
  | [_] => none

/-- The bytes spelled by pairs of hexadecimal digits. -/
def ofHex? (s : String) : Option Bytes := ofHexChars? [] s.toList

/-- Two small hexadecimal digits for every byte. -/
def toHex (b : Bytes) : String :=
  String.ofList (b.flatMap fun x => [Nat.digitChar (x.toNat / 16), Nat.digitChar (x.toNat % 16)])

/-! ## Bits -/

/-- The byte whose bit `i`, counted from the least significant, is `bit i`. -/
def byteOfBits (bit : Nat → Bool) : UInt8 :=
  UInt8.ofNat ((List.range 8).foldl (fun n i => if bit i then n + 2 ^ i else n) 0)

/-- Bits packed eight to a byte, the least significant first; missing bits are 0. -/
def ofBits (bits : Array Bool) : Bytes :=
  (List.range ((bits.size + 7) / 8)).map fun j => byteOfBits fun i => bits.getD (8 * j + i) false

/-- Bit `i` of packed bits; bits beyond the end are 0. -/
def bit (packed : Array UInt8) (i : Nat) : Bool := (packed.getD (i / 8) 0).toNat.testBit (i % 8)

end Bytes

end Columnar

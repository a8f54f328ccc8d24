/-
# `Checksum` — the fingerprint of stored bytes

The 64-bit XXH3 hash with seed 0.  Bytes are read as little-endian words and
mixed with words of a fixed secret.  There is one way of mixing for each
range of lengths; beyond 240 bytes the data runs through eight lanes, in
stripes of 64 bytes, and after every sixteen stripes the lanes are stirred.
All arithmetic is modulo `2 ^ 64`.
-/
import Columnar.Bytes

namespace Columnar.Checksum

/-! ## Constants -/

def prime32A : UInt64 := 0x9e3779b1
def prime32B : UInt64 := 0x85ebca77
def prime32C : UInt64 := 0xc2b2ae3d
def prime64A : UInt64 := 0x9e3779b185ebca87
def prime64B : UInt64 := 0xc2b2ae3d27d4eb4f
def prime64C : UInt64 := 0x165667b19e3779f9
def prime64D : UInt64 := 0x85ebca77c2b2ae63
def prime64E : UInt64 := 0x27d4eb2f165667c5
def mixA : UInt64 := 0x165667919e3779f9
def mixB : UInt64 := 0x9fb21c651e98df25

/-- The secret that data is mixed with, as one number of 192 bytes. -/
def secret : Nat :=
  [0xbe4ba423396cfeb8, 0x1cad21f72c81017c, 0xdb979083e96dd4de, 0x1f67b3b7a4a44072,
    0x78e5c0cc4ee679cb, 0x2172ffcc7dd05a82, 0x8e2443f7744608b8, 0x4c263a81e69035e0,
    0xcb00c391bb52283c, 0xa32e531b8b65d088, 0x4ef90da297486471, 0xd8acdea946ef1938,
    0x3f349ce33f76faa8, 0x1d4f0bc7c7bbdcf9, 0x3159b4cd4be0518a, 0x647378d9c97e9fc8,
    0xc3ebd33483acc5ea, 0xeb6313faffa081c5, 0x49daf0b751dd0d17, 0x9e68d429265516d3,
    0xfca1477d58be162b, 0xce31d07ad1b8f88f, 0x280416958f3acb45, 0x7e404bbbcafbd7af].foldr
    (fun word rest => word + 2 ^ 64 * rest) 0

/-- The eight bytes at a place of the secret. -/
def secretAt (place : Nat) : UInt64 := UInt64.ofNat (secret >>> (8 * place))

/-! ## Words -/

/-- The first eight bytes. -/
def word64 (b : Bytes) : UInt64 := UInt64.ofNat (Bytes.toNat (b.take 8))

/-- The first four bytes. -/
def word32 (b : Bytes) : UInt64 := UInt64.ofNat (Bytes.toNat (b.take 4))

/-- The byte at a place. -/
def byteAt (b : Bytes) (place : Nat) : UInt64 := (b.getD place 0).toUInt64

def rotate (x : UInt64) (n : UInt64) : UInt64 := x <<< n ||| x >>> (64 - n)

/-- The bytes of a word in the opposite order. -/
def swapBytes (x : UInt64) : UInt64 :=
  UInt64.ofNat (Bytes.toNat (Bytes.ofNat 8 x.toNat).reverse)

/-- The two halves of the product of two words, one folded onto the other. -/
def foldProduct (x y : UInt64) : UInt64 :=
  let p := x.toNat * y.toNat
  UInt64.ofNat p ^^^ UInt64.ofNat (p / 2 ^ 64)

/-! ## Final mixing -/

def avalanche (h : UInt64) : UInt64 :=
  let h := (h ^^^ h >>> 37) * mixA
  h ^^^ h >>> 32

def strongAvalanche (h : UInt64) : UInt64 :=
  let h := (h ^^^ h >>> 33) * prime64B
  let h := (h ^^^ h >>> 29) * prime64C
  h ^^^ h >>> 32

/-! ## Short data -/

def ofEmpty : UInt64 := strongAvalanche (secretAt 56 ^^^ secretAt 64)

/-- One to three bytes. -/
def ofFew (b : Bytes) (n : Nat) : UInt64 :=
  let mixed := byteAt b 0 <<< 16 ||| byteAt b (n / 2) <<< 24 ||| byteAt b (n - 1) |||
    n.toUInt64 <<< 8
  strongAvalanche (mixed ^^^ ((secretAt 0 ^^^ secretAt 4) &&& 0xffffffff))

/-- Four to eight bytes. -/
def ofWord (b : Bytes) (n : Nat) : UInt64 :=
  let mixed := word32 (b.drop (n - 4)) + word32 b <<< 32
  let h := mixed ^^^ secretAt 8 ^^^ secretAt 16
  let h := (h ^^^ rotate h 49 ^^^ rotate h 24) * mixB
  let h := (h ^^^ (h >>> 35 + n.toUInt64)) * mixB
  h ^^^ h >>> 28

/-- Nine to sixteen bytes. -/
def ofPair (b : Bytes) (n : Nat) : UInt64 :=
  let low := word64 b ^^^ secretAt 24 ^^^ secretAt 32
  let high := word64 (b.drop (n - 8)) ^^^ secretAt 40 ^^^ secretAt 48
  avalanche (n.toUInt64 + swapBytes low + high + foldProduct low high)

/-! ## Data of middling length -/

/-- The first sixteen bytes mixed with sixteen of the secret. -/
def mix16 (b : Bytes) (place : Nat) : UInt64 :=
  foldProduct (word64 b ^^^ secretAt place) (word64 (b.drop 8) ^^^ secretAt (place + 8))

/-- 17 to 128 bytes: sixteen from the front and sixteen from the back at a time. -/
def ofLine (b : Bytes) (n : Nat) : UInt64 :=
  avalanche ((List.range ((n + 31) / 32)).foldl
    (fun h i => h + mix16 (b.drop (16 * i)) (32 * i) +
      mix16 (b.drop (n - 16 * (i + 1))) (32 * i + 16))
    (n.toUInt64 * prime64A))

/-- 129 to 240 bytes. -/
def ofLines (b : Bytes) (n : Nat) : UInt64 :=
  let front := (List.range 8).foldl (fun h i => h + mix16 (b.drop (16 * i)) (16 * i))
    (n.toUInt64 * prime64A)
  let rest := (List.range (n / 16 - 8)).foldl
    (fun h i => h + mix16 (b.drop (16 * (i + 8))) (16 * i + 3)) (avalanche front)
  avalanche (rest + mix16 (b.drop (n - 16)) 119)

/-! ## Long data -/

/-- The eight lanes. -/
abbrev Lanes := List UInt64

def startLanes : Lanes :=
  [prime32C, prime64A, prime64B, prime64C, prime64D, prime32B, prime64E, prime32A]

/-- The words of a stripe. -/
def words : (count : Nat) → Bytes → List UInt64
  | 0, _ => []
  | count + 1, b => word64 b :: words count (b.drop 8)

/-- Neighbours trade places. -/
def swapPairs : List UInt64 → List UInt64
  | x :: y :: rest => y :: x :: swapPairs rest
  | rest => rest

/-- The words of the secret from a place on, one for each lane. -/
def keys (place : Nat) : List UInt64 := (List.range 8).map fun j => secretAt (place + 8 * j)

/-- A stripe enters the lanes: each lane takes its neighbour's word, and the product of the halves
of its own word mixed with the secret. -/
def accumulate (stripe : Bytes) (place : Nat) (lanes : Lanes) : Lanes :=
  let data := words 8 stripe
  let mixed := List.zipWith (fun x key => x ^^^ key) data (keys place)
  let products := mixed.map fun x => (x &&& (0xffffffff : UInt64)) * (x >>> (32 : UInt64))
  List.zipWith (fun x y => x + y) (List.zipWith (fun x y => x + y) lanes (swapPairs data)) products

/-- The lanes are stirred. -/
def stir (lanes : Lanes) : Lanes :=
  List.zipWith (fun x key => (x ^^^ x >>> (47 : UInt64) ^^^ key) * prime32A) lanes (keys 128)

/-- So many stripes, of which the first is number `k` of its sixteen. -/
def stripes : (count k : Nat) → Bytes → Lanes → Lanes
  | 0, _, _, lanes => lanes
  | count + 1, k, b, lanes =>
    let lanes := accumulate b (8 * k) lanes
    if k = 15 then stripes count 0 (b.drop 64) (stir lanes)
    else stripes count (k + 1) (b.drop 64) lanes

/-- The lanes folded two by two, with the secret from a place on. -/
def merge : (place : Nat) → Lanes → UInt64 → UInt64
  | place, x :: y :: rest, h =>
    merge (place + 16) rest (h + foldProduct (x ^^^ secretAt place) (y ^^^ secretAt (place + 8)))
  | _, _, h => h

/-- More than 240 bytes. -/
def ofStripes (b : Bytes) (n : Nat) : UInt64 :=
  let lanes := stripes ((n - 1) / 64) 0 b startLanes
  avalanche (merge 11 (accumulate (b.drop (n - 64)) 121 lanes) (n.toUInt64 * prime64A))

end Columnar.Checksum

namespace Columnar

/-- The fingerprint of a byte string. -/
def checksum (b : Bytes) : UInt64 :=
  let n := b.length
  if n = 0 then Checksum.ofEmpty
  else if n ≤ 3 then Checksum.ofFew b n
  else if n ≤ 8 then Checksum.ofWord b n
  else if n ≤ 16 then Checksum.ofPair b n
  else if n ≤ 128 then Checksum.ofLine b n
  else if n ≤ 240 then Checksum.ofLines b n
  else Checksum.ofStripes b n

end Columnar

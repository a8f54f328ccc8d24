/-
# `Snapshot.Split` — cutting a batch into segments

Every segment is a stream of its own and may not be longer than a limit.  How
many rows fit is found by trying: a first guess, and after each segment that
is too long a smaller one.  What the guesses are does not matter for what is
written, only for how many segments it takes; `Guess.estimated` makes them
from the size of the batch.
-/
import Columnar.Snapshot.Layout

namespace Columnar.Snapshot

open Number

/-! ## Guesses -/

/-- How many rows to try. -/
structure Guess where
  /-- At first, for a segment. -/
  first : Nat
  /-- After so many rows took so many bytes. -/
  next : (rows encoded : Nat) → Nat

/-- `n`, brought between two bounds. -/
def clamp (n low high : Nat) : Nat := max low (min high n)

namespace Guess

/-- Bytes of a stream that do not depend on its rows. -/
def overhead (b : Batch) : Nat :=
  (Wire.encodeSchema b.schema).length + 512 + 3 * 64 * b.columns.length

/-- Bytes of a row on average, at least one; the buffers of a slice count as a whole. -/
def rowBytes (b : Batch) : Binary .double :=
  let one := Binary.ofInt 1
  if b.rows = 0 then one
  else
    let mean := (Binary.ofInt (b.columns.map Column.memory).sum).quotient (.ofInt b.rows)
    if mean.rank < one.rank then one else mean

/-- At first as many rows as should fit, then fewer in proportion, and a tenth less.  The numbers
are of double precision, rounded after every step. -/
def estimated (limit : Nat) (b : Batch) : Guess where
  first := ((Binary.ofInt (limit - overhead b : Nat)).quotient (rowBytes b)).toWord
  next rows encoded :=
    let proportion : Binary .double :=
      ((Binary.ofInt rows).product (.ofInt limit)).quotient (.ofInt encoded)
    (proportion.product (.ofRatio false 9 10)).toWord

end Guess

/-! ## Segments -/

/-- The stream of a range of rows. -/
def encodeRange (b : Batch) (offset rows : Nat) : Bytes := Wire.encodeBatch (b.slice offset rows)

/-- Tries numbers of rows until a segment fits, at most `bound` times after the first; one row
that does not fit is an error. -/
def fit (g : Guess) (limit : Nat) (b : Batch) (offset : Nat) :
    (bound rows : Nat) → Except FormatError (Nat × Bytes)
  | bound, rows =>
    let payload := encodeRange b offset rows
    let encoded := payload.length
    if encoded ≤ limit then .ok (rows, payload)
    else
      match bound with
      | 0 => .error (.rowTooLarge offset encoded limit)
      | bound + 1 =>
        if rows ≤ 1 then .error (.rowTooLarge offset encoded limit)
        else fit g limit b offset bound (clamp (g.next rows encoded) 1 (rows - 1))

/-- The segment of rows that fit, from `offset` on. -/
def nextSegment (g : Guess) (limit : Nat) (b : Batch) (offset : Nat) :
    Except FormatError Segment :=
  let remaining := b.rows - offset
  (fit g limit b offset remaining (clamp g.first (min remaining 1) remaining)).map
    fun (rows, payload) => ⟨rows, checksum payload, payload⟩

/-- Segments from `offset` to the end, at most `bound` of them; `done` are those before, the last
one first.  A row that does not fit leaves the segments before it. -/
def splitFrom (g : Guess) (limit : Nat) (b : Batch) : (bound offset : Nat) →
    (done : List Segment) → Except (FormatError × List Segment) (List Segment)
  | 0, _, done => .ok done.reverse
  | bound + 1, offset, done =>
    if offset < b.rows || done.isEmpty then
      match nextSegment g limit b offset with
      | .error e => .error (e, done.reverse)
      | .ok s => splitFrom g limit b bound (offset + s.rows) (s :: done)
    else .ok done.reverse

/-- The segments of a batch; a batch without rows has one. -/
def split (g : Guess) (limit : Nat) (b : Batch) : Except FormatError (List Segment) :=
  (splitFrom g limit b (b.rows + 1) 0 []).mapError Prod.fst

/-- The segments that are there when the split ends, whether it succeeds or not. -/
def written (g : Guess) (limit : Nat) (b : Batch) : List Segment :=
  match splitFrom g limit b (b.rows + 1) 0 [] with
  | .ok segments => segments
  | .error (_, before) => before

/-- The layout of the file of a batch. -/
def Layout.ofBatch (g : Guess) (limit : Nat) (b : Batch) : Except FormatError Layout :=
  (split g limit b).map fun segments =>
    ⟨b.rows, Wire.encodeSchema b.schema, b.schema.declared, segments⟩

/-- The file of a batch as it is when the split ends: no number of segments yet, and no trailer. -/
def unfinished (g : Guess) (limit : Nat) (b : Batch) : Bytes :=
  header b.rows 0 (Wire.encodeSchema b.schema) ++ (written g limit b).flatMap Segment.encode

end Columnar.Snapshot

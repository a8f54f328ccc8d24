/-
# `Snapshot.Store` — snapshots in a directory

A batch is saved under a provisional name and gets its own name when it is
complete, so a file under that name is always a whole snapshot.  A save that
fails removes the provisional file and leaves everything else as it was.
-/
import Columnar.Failure
import Columnar.Snapshot.Load
import Columnar.Snapshot.Split

namespace Columnar.Snapshot

/-! ## Saving -/

/-- What was written. -/
structure Summary where
  rows : Nat
  chunks : Nat
  bytesWritten : Nat
deriving DecidableEq, Repr

/-- The name a snapshot has until it is complete. -/
def provisional (p : Path) : Path := p.extended ".partial"

/-- Writes the file of a batch to a path and gives its summary; on a failure the file holds
whatever had been written. -/
def writeFile (g : Guess) (limit : Nat) (p : Path) (b : Batch) (d : Directory) :
    Directory × Except Failure Summary :=
  match d.write p [] with
  | .error e => (d, .error (.file e))
  | .ok d =>
    match Layout.ofBatch g limit b with
    | .error e => (d.attempt (·.write p (unfinished g limit b)), .error (.format e))
    | .ok l =>
      let draft := l.draft
      let chunks := l.segments.length
      (d.attempt (·.write p (finish draft chunks)), .ok ⟨b.rows, chunks, draft.length⟩)

/-- Saves a batch with given guesses.  The limit is checked before anything is touched. -/
def saveWith (g : Guess) (limit : Nat) (p : Path) (b : Batch) (d : Directory) :
    Directory × Except Failure Summary :=
  if limit = 0 || chunkLimit < limit then (d, .error (.limit limit))
  else
    let temporary := provisional p
    match writeFile g limit temporary b d with
    | (d, .error e) => (d.attempt (·.remove temporary), .error e)
    | (d, .ok summary) =>
      match d.rename temporary p with
      | .ok d => (d, .ok summary)
      | .error e => (d.attempt (·.remove temporary), .error (.file e))

/-- Saves a batch in segments of at most `limit` bytes. -/
def save (limit : Nat) (p : Path) (b : Batch) (d : Directory) :
    Directory × Except Failure Summary :=
  saveWith (Guess.estimated limit b) limit p b d

/-! ## Reading -/

/-- The layout of the snapshot at a path. -/
def inspect (d : Directory) (p : Path) : Except Failure (Nat × Layout) := do
  let file ← Failure.ofFile (d.read p)
  let l ← Failure.ofFormat (read file)
  return (file.length, l)

/-- What the snapshot at a path says about itself. -/
def info (d : Directory) (p : Path) : Except Failure SnapshotInfo := do
  let (size, l) ← inspect d p
  return l.info size

/-- The batch of the snapshot at a path, under an expected schema. -/
def fetch (d : Directory) (p : Path) (expected : Schema) : Except Failure Batch := do
  Failure.ofFormat (load (← Failure.ofFile (d.read p)) expected)

/-- The batch of the snapshot at a path, under its own schema. -/
def fetchAsStored (d : Directory) (p : Path) : Except Failure Batch := do
  Failure.ofFormat (loadAsStored (← Failure.ofFile (d.read p)))

end Columnar.Snapshot

/-
# `Proofs.Snapshot.RoundTrip` — what was saved is loaded

A save that succeeds leaves the file of a layout at its path, and that file
holds the rows of the batch whatever the limit and the guesses were.  So it
loads under exactly the schemas that the batch's own schema serves, and what
is loaded has the same rows.
-/
import Columnar.Proofs.Snapshot.Saving

namespace Columnar.Snapshot

/-! ## The file of a batch -/

/-- Columns that can stand for the expected ones: as many, with the same names and types in the
same order, and none that may be NULL where it must not. -/
def SchemaServes (expected found : Schema) : Prop :=
  List.Forall₂ (fun e f => e.name = f.name ∧ e.type = f.type ∧
    (f.nullable = true → e.nullable = true)) expected found

theorem compatible_declared_iff {expected found : Schema} :
    Compatible expected found.declared ↔ SchemaServes expected found := by
  rw [Compatible, Schema.declared, SchemaServes, List.forall₂_map_right_iff]
  have hiff : ∀ e f : Field, (e.name = f.declared.name ∧ f.declared.type = .known e.type ∧
      (f.declared.nullable = true → e.nullable = true)) ↔
        (e.name = f.name ∧ e.type = f.type ∧ (f.nullable = true → e.nullable = true)) := by
    intro e f
    simp only [Field.declared, DeclaredType.known.injEq, eq_comm]
  simp only [hiff]

theorem schemaServes_refl (s : Schema) : SchemaServes s s :=
  List.forall₂_same.mpr fun _ _ => ⟨rfl, rfl, id⟩

theorem compatible_declared (s : Schema) : Compatible s s.declared :=
  compatible_declared_iff.mpr (schemaServes_refl s)

theorem length_encodeSchema_le (b : Batch) :
    (Wire.encodeSchema b.schema).length ≤ (Wire.encodeBatch b).length := by
  simp only [Wire.encodeSchema, Wire.encodeBatch, List.length_append]
  omega

/-- The layout of a batch is a layout, and its segments hold the rows of the batch. -/
theorem layout_ofBatch {g : Guess} {limit : Nat} {b : Batch} {l : Layout}
    (hrows : b.rows < 2 ^ 64) (hlimit : limit < 2 ^ 31) (h : Layout.ofBatch g limit b = .ok l) :
    HasLayout l.encode l ∧ l.schema = b.schema.declared ∧
      (l.segments.map Segment.rows).sum = l.totalRows ∧ l.totalRows = b.rows ∧
      ∃ chunks, List.Forall₂ (ChunkHolds l.schema) l.segments chunks ∧
        (chunks.flatten.map Batch.table).flatten = b.table := by
  rw [Layout.ofBatch] at h
  cases hsplit : split g limit b with
  | error e => rw [hsplit] at h; cases h
  | ok segments =>
      rw [hsplit] at h
      cases h
      obtain ⟨hcovers, hne, hcount⟩ := split_ok hsplit
      have hsum := covers_rows hcovers
      rw [Nat.zero_add] at hsum
      obtain ⟨chunks, hchunks, htables⟩ := covers_hold hrows hlimit hcovers
      have hle := covers_le hcovers
      have hschema : (Wire.encodeSchema b.schema).length < 2 ^ 31 := by
        cases segments with
        | nil => exact absurd rfl hne
        | cons s rest =>
            obtain ⟨hs, hlength, -⟩ := hcovers
            rw [hs] at hlength
            have := length_encodeSchema_le (b.slice 0 s.rows)
            rw [b.schema_slice] at this
            exact Nat.lt_of_le_of_lt (Nat.le_trans this hlength) hlimit
      refine ⟨?_, rfl, hsum, rfl, chunks, hchunks, htables⟩
      exact
        { bytes := rfl
          rows := hrows
          count := by dsimp only; omega
          schemaLength := Nat.lt_trans hschema (by decide)
          segments := fun s hs => by
            obtain ⟨hlength, hle⟩ := hle s hs
            exact ⟨by omega, by omega⟩
          schema := Wire.decodeSchema_encodeSchema hschema
          total := by rw [rowSum_eq (hsum.symm ▸ hrows)]; exact hsum }

/-! ## Saving -/

theorem fetch_of_layout {l : Layout} {d : Directory} {p : Path} (hl : HasLayout l.encode l)
    (hread : d.read p = .ok l.encode) (expected : Schema) :
    fetch d p expected = Failure.ofFormat (l.load expected) := by
  rw [fetch, hread, Failure.ofFile, Except.mapError, ok_bind, load_of_layout hl]

section
variable {g : Guess} {limit : Nat} {b : Batch} {l : Layout} {d : Directory} {p : Path}

/-- The file of a batch is fetched under every schema that the batch's own schema serves. -/
theorem fetch_of_ofBatch (hrows : b.rows < 2 ^ 64) (hlimit : limit < 2 ^ 31)
    (hlayout : Layout.ofBatch g limit b = .ok l) (hread : d.read p = .ok l.encode) {expected : Schema}
    (hserves : SchemaServes expected b.schema) : ∃ b', fetch d p expected = .ok b' ∧
      b'.schema = expected ∧ b'.rows = b.rows ∧ b'.table = b.table := by
  obtain ⟨hl, hschema, hsum, htotal, chunks, hchunks, htable⟩ := layout_ofBatch hrows hlimit hlayout
  have hcompatible : Compatible expected l.schema := by
    rw [hschema]
    exact compatible_declared_iff.mpr hserves
  obtain ⟨b', hload, hschema', hrows', htable'⟩ := load_of_holds hsum hcompatible hchunks
  refine ⟨b', ?_, hschema', hrows'.trans htotal, htable'.trans htable⟩
  rw [fetch_of_layout hl hread, hload]
  rfl

theorem fetch_agrees (hrows : b.rows < 2 ^ 64) (hlimit : limit < 2 ^ 31)
    (hlayout : Layout.ofBatch g limit b = .ok l) (hread : d.read p = .ok l.encode) :
    ∃ b', fetch d p b.schema = .ok b' ∧ b'.Agrees b := by
  obtain ⟨b', hfetch, hschema, hrows', htable⟩ :=
    fetch_of_ofBatch hrows hlimit hlayout hread (schemaServes_refl b.schema)
  exact ⟨b', hfetch, hschema, hrows', htable⟩

end

/-- What was saved is fetched: under every schema that the batch's own schema serves, with the
rows of the batch, and under no other.  The limit and the guesses leave no trace.  The number of
rows is a machine word. -/
theorem fetch_of_save {g : Guess} {limit : Nat} {p : Path} {b : Batch} {d d' : Directory}
    {summary : Summary} (hrows : b.rows < 2 ^ 64)
    (hsave : saveWith g limit p b d = (d', .ok summary)) (expected : Schema) :
    (SchemaServes expected b.schema → ∃ b', fetch d' p expected = .ok b' ∧
      b'.schema = expected ∧ b'.rows = b.rows ∧ b'.table = b.table) ∧
    (¬ SchemaServes expected b.schema →
      ∃ c, fetch d' p expected = .error (.format (.conflict c))) := by
  obtain ⟨hlimit, l, hlayout, hread⟩ := save_ok hsave
  refine ⟨fetch_of_ofBatch hrows hlimit hlayout hread, fun hnot => ?_⟩
  obtain ⟨hl, hschema, -⟩ := layout_ofBatch hrows hlimit hlayout
  obtain ⟨c, hload⟩ := load_of_conflict fun h => hnot (compatible_declared_iff.mp (hschema ▸ h))
  refine ⟨c, ?_⟩
  rw [fetch_of_layout hl hread, hload]
  rfl

/-- A guess that tries one row at a time. -/
def oneByOne : Guess := ⟨0, fun _ _ => 0⟩

/-- Two rows are saved within 4096 bytes, one at a time. -/
theorem saved_twoFlags : ∃ d' summary,
    saveWith oneByOne 4096 (.ofPlace ["flags"]) twoFlags .empty = (d', .ok summary) :=
  exists_of_isOk (by decide +kernel)

/-- Two rows, saved in two segments. -/
theorem fetch_of_save_twoFlags : ∃ d' summary, twoFlags.rows < 2 ^ 64 ∧
    saveWith oneByOne 4096 (.ofPlace ["flags"]) twoFlags .empty = (d', .ok summary) ∧
    ∃ b', fetch d' (.ofPlace ["flags"]) twoFlags.schema = .ok b' ∧
      b'.schema = twoFlags.schema ∧ b'.rows = 2 ∧ b'.table = twoFlags.table := by
  have hrows : twoFlags.rows < 2 ^ 64 := by decide
  obtain ⟨d', summary, hsave⟩ := saved_twoFlags
  have hserves : SchemaServes twoFlags.schema twoFlags.schema := .cons ⟨rfl, rfl, id⟩ .nil
  exact ⟨d', summary, hrows, hsave, (fetch_of_save hrows hsave twoFlags.schema).1 hserves⟩

end Columnar.Snapshot

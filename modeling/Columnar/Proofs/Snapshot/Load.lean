/-
# `Proofs.Snapshot.Load` — what a file must be for its batch to be loaded

A file loads under a schema if and only if it has a layout, the schema it
declares serves the expected one, and every chunk holds what it declares
(`ChunkHolds`).  What is loaded then has the rows of all batches of all chunks
in the order of the file, and the last steps, which put the chunks together,
cannot fail.  Otherwise the error is the one of the first check that fails:
`ChunkFault` lists the checks of a chunk in their order, each with the checks
before it as premises.
-/
import Mathlib.Tactic.ByContra
import Columnar.Proofs.Snapshot.Layout
import Columnar.Snapshot.Load

namespace Columnar.Snapshot

/-! ## Schemas -/

/-- Stored columns that serve the expected ones: the same names and types in the same order, and
none that may be NULL where it must not. -/
def Compatible (expected : Schema) (found : DeclaredSchema) : Prop :=
  List.Forall₂ (fun e f => e.name = f.name ∧ f.type = .known e.type ∧
    (f.nullable = true → e.nullable = true)) expected found.columns

theorem fieldConflict_none_iff {e : Field} {f : DeclaredField} :
    fieldConflict? e f = none ↔
      e.name = f.name ∧ f.type = .known e.type ∧ (f.nullable = true → e.nullable = true) := by
  by_cases hname : e.name = f.name
  · by_cases htype : f.type = .known e.type
    · by_cases hnull : f.nullable = true → e.nullable = true
      · have : (!e.nullable && f.nullable) = false := by
          cases he : e.nullable with
          | true => rfl
          | false =>
              cases hf : f.nullable with
              | false => rfl
              | true => exact absurd (hnull hf) (by simp [he])
        simpa [fieldConflict?, hname, htype, this] using hnull
      · have hboth : f.nullable = true ∧ e.nullable = false := by simpa using hnull
        simp [fieldConflict?, hname, htype, hboth]
    · simp [fieldConflict?, hname, htype]
  · simp [fieldConflict?, hname]

theorem conflict_none_iff {expected : Schema} {found : DeclaredSchema} :
    conflict? expected found = none ↔ Compatible expected found := by
  rw [conflict?, Compatible, List.forall₂_iff_zip]
  split
  · next hlen =>
    have hne : expected.length ≠ found.columns.length := by simpa using hlen
    exact ⟨fun h => (nomatch h), fun h => absurd h.1 hne⟩
  · next hlen =>
    have heq : expected.length = found.columns.length := by simpa using hlen
    rw [List.findSome?_eq_none_iff]
    constructor
    · intro h
      refine ⟨heq, fun {e f} hef => ?_⟩
      exact fieldConflict_none_iff.mp (h (e, f) hef)
    · rintro ⟨-, h⟩ ⟨e, f⟩ hef
      exact fieldConflict_none_iff.mpr (h hef)

/-- A declaration that serves a schema declares a schema. -/
theorem Compatible.schema? {expected : Schema} {found : DeclaredSchema}
    (h : Compatible expected found) : ∃ known, found.schema? = some known ∧
      List.Forall₂ (fun e f => f.name = e.name ∧ f.type = e.type ∧
        (f.nullable = true → e.nullable = true)) expected known := by
  obtain ⟨columns, notes⟩ := found
  rw [Compatible] at h
  dsimp only [DeclaredSchema.schema?] at h ⊢
  induction h with
  | nil => exact ⟨[], rfl, .nil⟩
  | @cons e f expected columns hef _ ih =>
      obtain ⟨hname, htype, hnull⟩ := hef
      obtain ⟨known, hknown, hall⟩ := ih
      have hf : f.field? = some ⟨f.name, e.type, f.nullable⟩ := by
        rw [DeclaredField.field?, htype]
        rfl
      refine ⟨⟨f.name, e.type, f.nullable⟩ :: known, ?_, .cons ⟨hname.symm, rfl, hnull⟩ hall⟩
      rw [List.mapM_cons, hf, hknown]
      rfl

/-- A batch under a schema that serves the expected one can stand under that. -/
theorem serves_of_compatible {expected : Schema} {b : Batch}
    (h : List.Forall₂ (fun e f => f.name = e.name ∧ f.type = e.type ∧
      (f.nullable = true → e.nullable = true)) expected b.schema) : b.Serves expected := by
  rw [Batch.schema, List.forall₂_map_right_iff] at h
  have hsound := b.sound
  rw [Batch.Serves]
  generalize b.columns = columns at h hsound
  induction h with
  | nil => exact .nil
  | @cons e c expected columns hec _ ih =>
      obtain ⟨-, htype, hnull⟩ := hec
      have hc := hsound c List.mem_cons_self
      rw [c.sound_eq, Bool.or_eq_true] at hc
      exact .cons ⟨htype, hc.imp hnull id⟩ (ih fun c hc => hsound c (List.mem_cons_of_mem _ hc))

/-! ## Streams -/

/-- The batches of a payload from a place on, if batches have all the types that are declared. -/
def Streams (schema : DeclaredSchema) (payload : Bytes) (place : Nat) (batches : List Batch) :
    Prop :=
  ∃ known, schema.schema? = some known ∧
    Wire.readBatches? known payload.toArray payload.toArray.size place = some batches

/-- Batches that are read under a schema have that schema. -/
theorem readColumns_schema {rows : Nat} : ∀ {s : Schema} {source : Wire.Source}
    {columns : List Column}, Wire.readColumns? rows s source = some columns →
      columns.map Column.field = s
  | [], _, columns, h => by
      cases h
      rfl
  | f :: rest, source, columns, h => by
      simp only [Wire.readColumns?, Option.bind_eq_bind, Option.bind_eq_some_iff] at h
      obtain ⟨_, -, ⟨cells, after⟩, -, others, hothers, h⟩ := h
      cases h
      rw [List.map_cons, readColumns_schema hothers]
      rfl

theorem readBatch_schema {s : Schema} {t : Wire.BatchTable} {body : Wire.Data} {b : Batch}
    (h : Wire.readBatch? s t body = some b) : b.schema = s := by
  simp only [Wire.readBatch?, Option.bind_eq_bind, Option.bind_eq_some_iff] at h
  obtain ⟨columns, hcolumns, h⟩ := h
  rw [Batch.ofColumns?] at h
  split at h
  · cases h
    exact readColumns_schema hcolumns
  · cases h

theorem readBatches_schema {s : Schema} {d : Wire.Data} : ∀ {fuel place : Nat}
    {batches : List Batch}, Wire.readBatches? s d fuel place = some batches →
      ∀ b ∈ batches, b.schema = s
  | 0, _, _, h => by cases h
  | fuel + 1, place, batches, h => by
      rw [Wire.readBatches?] at h
      split at h
      · cases h
        exact fun b hb => absurd hb List.not_mem_nil
      · simp only [Option.bind_eq_bind, Option.bind_eq_some_iff] at h
        obtain ⟨⟨length, behind⟩, -, h⟩ := h
        dsimp only at h
        split at h
        · cases h
          exact fun b hb => absurd hb List.not_mem_nil
        · simp only [Option.bind_eq_some_iff] at h
          obtain ⟨_, -, m, -, h⟩ := h
          split at h
          · cases h
            exact fun b hb => absurd hb List.not_mem_nil
          · simp only [Option.bind_eq_some_iff] at h
            obtain ⟨_, -, b, hb, others, hothers, h⟩ := h
            cases h
            exact List.forall_mem_cons.mpr ⟨readBatch_schema hb, readBatches_schema hothers⟩
          · cases h

/-- The batches of a payload can always be put together. -/
theorem readRows_of_streams {schema : DeclaredSchema} {payload : Bytes} {place : Nat}
    {batches : List Batch} (h : Streams schema payload place batches) :
    ∃ b, readRows? schema payload.toArray place = some b ∧ schema.schema? = some b.schema ∧
      b.rows = (batches.map Batch.rows).sum ∧ b.table = (batches.map Batch.table).flatten := by
  obtain ⟨known, hknown, hread⟩ := h
  have hserves : ∀ b ∈ batches, b.Serves known := fun b hb =>
    readBatches_schema hread b hb ▸ b.serves_schema
  obtain ⟨b, hb, hschema, hrows, htable⟩ := Batch.concat_of_serves hserves
  refine ⟨b, ?_, by rw [hschema, hknown], hrows, htable⟩
  simp only [readRows?, hknown, hread, Option.bind_eq_bind, Option.bind_some, hb]

theorem streams_of_readRows {schema : DeclaredSchema} {payload : Bytes} {place : Nat} {b : Batch}
    (h : readRows? schema payload.toArray place = some b) :
    ∃ batches, Streams schema payload place batches := by
  simp only [readRows?, Option.bind_eq_bind, Option.bind_eq_some_iff] at h
  obtain ⟨known, hknown, batches, hread, -⟩ := h
  exact ⟨batches, known, hknown, hread⟩

/-! ## Chunks -/

/-- The segment is what it declares: its checksum is that of its payload, and the payload is a
stream with the schema of the file and as many rows as are declared. -/
structure ChunkHolds (schema : DeclaredSchema) (s : Segment) (batches : List Batch) : Prop where
  intact : Columnar.checksum s.payload = s.checksum
  stream : ∃ place, Wire.openStream? s.payload.toArray = some (schema, place) ∧
    Streams schema s.payload place batches
  rows : (batches.map Batch.rows).sum = s.rows

/-- The first check that a segment with an index fails, and its error. -/
inductive ChunkFault (schema : DeclaredSchema) (index : Nat) (s : Segment) : FormatError → Prop
  | damaged : Columnar.checksum s.payload ≠ s.checksum → ChunkFault schema index s (.checksum index)
  | noStream : Columnar.checksum s.payload = s.checksum →
      Wire.openStream? s.payload.toArray = none →
      ChunkFault schema index s (.unreadableChunk index)
  | foreign {found : DeclaredSchema} {place : Nat} : Columnar.checksum s.payload = s.checksum →
      Wire.openStream? s.payload.toArray = some (found, place) → found ≠ schema →
      ChunkFault schema index s (.foreignSchema index)
  | noBatches {place : Nat} : Columnar.checksum s.payload = s.checksum →
      Wire.openStream? s.payload.toArray = some (schema, place) →
      (¬ ∃ batches, Streams schema s.payload place batches) →
      ChunkFault schema index s (.unreadableChunk index)
  | rows {place : Nat} {batches : List Batch} : Columnar.checksum s.payload = s.checksum →
      Wire.openStream? s.payload.toArray = some (schema, place) →
      Streams schema s.payload place batches → (batches.map Batch.rows).sum ≠ s.rows →
      ChunkFault schema index s (.chunkRows index s.rows (batches.map Batch.rows).sum)

/-- The segment that a batch is written to is what it declares. -/
theorem chunkHolds_encodeBatch {b : Batch} (hrows : b.rows < 2 ^ 64)
    (hlength : (Wire.encodeBatch b).length < 2 ^ 31) :
    ChunkHolds b.schema.declared
      ⟨b.rows, Columnar.checksum (Wire.encodeBatch b), Wire.encodeBatch b⟩ [b.compact] where
  -- The projection is reduced first: the checksum itself must not be unfolded.
  intact := by dsimp only
  stream := ⟨_, Wire.openStream_encodeBatch hlength, b.schema, b.schema.schema_declared,
    Wire.readBatches_encodeBatch hrows hlength⟩
  rows := Nat.add_zero b.rows

/-- A segment that is what it declares decodes to its rows. -/
theorem decode_of_holds {schema : DeclaredSchema} {s : Segment} {batches : List Batch}
    (h : ChunkHolds schema s batches) (index : Nat) :
    ∃ b, s.decode schema index = .ok b ∧ schema.schema? = some b.schema ∧ b.rows = s.rows ∧
      b.table = (batches.map Batch.table).flatten := by
  obtain ⟨place, hopen, hstreams⟩ := h.stream
  obtain ⟨b, hb, hschema, hrows, htable⟩ := readRows_of_streams hstreams
  refine ⟨b, ?_, hschema, hrows.trans h.rows, htable⟩
  simp [Segment.decode, h.intact, hopen, hb, hrows.trans h.rows]

theorem decode_of_fault {schema : DeclaredSchema} {index : Nat} {s : Segment} {e : FormatError}
    (h : ChunkFault schema index s e) : s.decode schema index = .error e := by
  cases h with
  | damaged hsum => simp [Segment.decode, hsum]
  | noStream hsum hopen => simp [Segment.decode, hsum, hopen]
  | foreign hsum hopen hne => simp [Segment.decode, hsum, hopen, hne]
  | @noBatches place hsum hopen hnone =>
      cases hread : readRows? schema s.payload.toArray place with
      | none => simp [Segment.decode, hsum, hopen, hread]
      | some b => exact absurd (streams_of_readRows hread) hnone
  | rows hsum hopen hstreams hne =>
      obtain ⟨b, hb, -, hrows, -⟩ := readRows_of_streams hstreams
      rw [← hrows] at hne ⊢
      simp [Segment.decode, hsum, hopen, hb, hne]

/-- A segment is what it declares, or there is a first check that it fails. -/
theorem holds_or_fault (schema : DeclaredSchema) (index : Nat) (s : Segment) :
    (∃ batches, ChunkHolds schema s batches) ∨ ∃ e, ChunkFault schema index s e := by
  by_cases hsum : Columnar.checksum s.payload = s.checksum
  · cases hopen : Wire.openStream? s.payload.toArray with
    | none => exact .inr ⟨_, .noStream hsum hopen⟩
    | some r =>
        obtain ⟨found, place⟩ := r
        by_cases hfound : found = schema
        · subst hfound
          by_cases hstreams : ∃ batches, Streams found s.payload place batches
          · obtain ⟨batches, hstreams⟩ := hstreams
            by_cases hrows : (batches.map Batch.rows).sum = s.rows
            · exact .inl ⟨batches, hsum, ⟨place, hopen, hstreams⟩, hrows⟩
            · exact .inr ⟨_, .rows hsum hopen hstreams hrows⟩
          · exact .inr ⟨_, .noBatches hsum hopen hstreams⟩
        · exact .inr ⟨_, .foreign hsum hopen hfound⟩
  · exact .inr ⟨_, .damaged hsum⟩

/-- Segments that are what they declare decode to their rows. -/
theorem decodeSegments_of_holds {schema : DeclaredSchema} {segments : List Segment}
    {chunks : List (List Batch)} (h : List.Forall₂ (ChunkHolds schema) segments chunks)
    (index : Nat) :
    ∃ parts, decodeSegments schema index segments = .ok parts ∧
      (∀ b ∈ parts, schema.schema? = some b.schema) ∧
      (parts.map Batch.rows).sum = (segments.map Segment.rows).sum ∧
      (parts.map Batch.table).flatten = (chunks.flatten.map Batch.table).flatten := by
  induction h generalizing index with
  | nil => exact ⟨[], rfl, fun b hb => absurd hb List.not_mem_nil, rfl, rfl⟩
  | @cons s batches segments chunks hs _ ih =>
      obtain ⟨b, hb, hschema, hrows, htable⟩ := decode_of_holds hs index
      obtain ⟨parts, hparts, hschemas, hsum, htables⟩ := ih (index + 1)
      refine ⟨b :: parts, ?_, List.forall_mem_cons.mpr ⟨hschema, hschemas⟩, ?_, ?_⟩
      · simp only [decodeSegments, hb, hparts, Except.map]
      · simp only [List.map_cons, List.sum_cons, hrows, hsum]
      · simp only [List.map_cons, List.flatten_cons, htable, htables, List.map_append,
          List.flatten_append]

/-- The first segment that is not what it declares tells the error. -/
theorem decodeSegments_of_fault {schema : DeclaredSchema} {s : Segment} {after : List Segment}
    {e : FormatError} : ∀ {before : List Segment} {chunks : List (List Batch)} {index : Nat},
      List.Forall₂ (ChunkHolds schema) before chunks →
      ChunkFault schema (index + before.length) s e →
        decodeSegments schema index (before ++ s :: after) = .error e
  | [], _, index, _, hfault => by
      have hs : s.decode schema index = .error e := decode_of_fault hfault
      simp only [List.nil_append, decodeSegments, hs]
  | first :: before, _, index, hbefore, hfault => by
      cases hbefore with
      | cons hfirst hrest =>
          obtain ⟨b, hb, -⟩ := decode_of_holds hfirst index
          have hplace : index + (first :: before).length = index + 1 + before.length := by
            rw [List.length_cons]
            omega
          rw [hplace] at hfault
          simp only [List.cons_append, decodeSegments, hb, decodeSegments_of_fault hrest hfault,
            Except.map]

/-- All segments are what they declare, or there is a first one that is not. -/
theorem segments_hold_or_fault (schema : DeclaredSchema) : ∀ (segments : List Segment) (index : Nat),
    (∃ chunks, List.Forall₂ (ChunkHolds schema) segments chunks) ∨
      ∃ before s after chunks e, segments = before ++ s :: after ∧
        List.Forall₂ (ChunkHolds schema) before chunks ∧
        ChunkFault schema (index + before.length) s e
  | [], _ => .inl ⟨[], .nil⟩
  | s :: rest, index => by
      rcases holds_or_fault schema index s with ⟨batches, hs⟩ | ⟨e, hs⟩
      · rcases segments_hold_or_fault schema rest (index + 1) with
          ⟨chunks, hrest⟩ | ⟨before, s', after, chunks, e, rfl, hbefore, hfault⟩
        · exact .inl ⟨batches :: chunks, .cons hs hrest⟩
        · refine .inr ⟨s :: before, s', after, batches :: chunks, e, rfl, .cons hs hbefore, ?_⟩
          rw [List.length_cons, Nat.add_comm before.length, ← Nat.add_assoc]
          exact hfault
      · exact .inr ⟨[], s, rest, [], e, rfl, .nil, hs⟩

/-! ## Files -/

/-- The number of rows that the file declares is the number of rows there are. -/
theorem ofColumns_of_rows {b : Batch} {rows : Nat} (h : b.rows = rows) :
    Batch.ofColumns? rows b.columns = some b := by
  subst h
  exact dif_pos ⟨b.aligned, b.sound⟩

/-- A file whose chunks are what they declare is loaded, under every schema that it serves. -/
theorem load_of_holds {l : Layout} {expected : Schema} {chunks : List (List Batch)}
    (htotal : (l.segments.map Segment.rows).sum = l.totalRows)
    (hcompatible : Compatible expected l.schema)
    (hchunks : List.Forall₂ (ChunkHolds l.schema) l.segments chunks) :
    ∃ b, l.load expected = .ok b ∧ b.schema = expected ∧ b.rows = l.totalRows ∧
      b.table = (chunks.flatten.map Batch.table).flatten := by
  obtain ⟨parts, hparts, hschemas, hrows, htables⟩ := decodeSegments_of_holds hchunks 0
  obtain ⟨known, hknown, hfields⟩ := hcompatible.schema?
  have hserves : ∀ b ∈ parts, b.Serves expected := fun b hb => by
    have heq : known = b.schema := Option.some.inj (hknown.symm.trans (hschemas b hb))
    exact serves_of_compatible (heq ▸ hfields)
  obtain ⟨b, hb, hschema, hsum, htable⟩ := Batch.concat_of_serves hserves
  have hall : b.rows = l.totalRows := hsum.trans (hrows.trans htotal)
  have hjoin : l.join? expected parts = some b := by
    simp only [Layout.join?, hb, Option.bind_eq_bind, Option.bind_some, ofColumns_of_rows hall]
  refine ⟨b, ?_, hschema, hall, htable.trans htables⟩
  simp only [Layout.load, conflict_none_iff.mpr hcompatible, Layout.assemble, hparts, hjoin]

/-- A schema that the file does not serve is refused before any chunk is looked at. -/
theorem load_of_conflict {l : Layout} {expected : Schema} (h : ¬ Compatible expected l.schema) :
    ∃ c, l.load expected = .error (.conflict c) := by
  cases hc : conflict? expected l.schema with
  | none => exact absurd (conflict_none_iff.mp hc) h
  | some c => exact ⟨c, by simp only [Layout.load, hc]⟩

theorem load_of_fault {l : Layout} {expected : Schema} {before after : List Segment} {s : Segment}
    {chunks : List (List Batch)} {e : FormatError} (hcompatible : Compatible expected l.schema)
    (hsegments : l.segments = before ++ s :: after)
    (hbefore : List.Forall₂ (ChunkHolds l.schema) before chunks)
    (hfault : ChunkFault l.schema before.length s e) : l.load expected = .error e := by
  have hdecode : decodeSegments l.schema 0 (before ++ s :: after) = .error e :=
    decodeSegments_of_fault hbefore (by rwa [Nat.zero_add])
  simp only [Layout.load, conflict_none_iff.mpr hcompatible, Layout.assemble, hsegments, hdecode]

theorem load_of_layout {file : Bytes} {l : Layout} (h : HasLayout file l) (expected : Schema) :
    load file expected = l.load expected := by
  simp only [load, read_ok_iff.mpr h]

/-- Loading is exact on every file: it gives a batch if and only if the file has a layout, its
schema serves the expected one and every chunk holds what it declares; the batch has the rows of
the chunks in the order of the file; and every other file is refused by its first failing check,
in the order of `ChunkFault` within a chunk.  Payloads lie inside of the file. -/
theorem load_exact (file : Bytes) (expected : Schema)
    (hsum : ∀ l, HasLayout file l → (l.segments.map Segment.rows).sum < 2 ^ 64) :
    ((∃ b, load file expected = .ok b) ↔ ∃ l chunks, HasLayout file l ∧
      Compatible expected l.schema ∧ List.Forall₂ (ChunkHolds l.schema) l.segments chunks) ∧
    (∀ b l chunks, load file expected = .ok b → HasLayout file l →
      List.Forall₂ (ChunkHolds l.schema) l.segments chunks →
        b.schema = expected ∧ b.rows = l.totalRows ∧
          b.table = (chunks.flatten.map Batch.table).flatten) ∧
    ((¬ ∃ l, HasLayout file l) → ∃ e, load file expected = .error e ∧ e.ofLayout) ∧
    (∀ l, HasLayout file l → ¬ Compatible expected l.schema →
      ∃ c, load file expected = .error (.conflict c)) ∧
    (∀ l before s after chunks e, HasLayout file l → Compatible expected l.schema →
      l.segments = before ++ s :: after → List.Forall₂ (ChunkHolds l.schema) before chunks →
        ChunkFault l.schema before.length s e → load file expected = .error e) ∧
    ∀ l (i : Nat) (s : Segment) (place : Nat), HasLayout file l → l.segments[i]? = some s →
      l.places[i]? = some place → place + s.payload.length ≤ file.length ∧
        (file.drop place).take s.payload.length = s.payload := by
  have hload : ∀ l chunks, HasLayout file l → Compatible expected l.schema →
      List.Forall₂ (ChunkHolds l.schema) l.segments chunks →
        ∃ b, load file expected = .ok b ∧ b.schema = expected ∧ b.rows = l.totalRows ∧
          b.table = (chunks.flatten.map Batch.table).flatten := by
    intro l chunks hl hcompatible hchunks
    rw [load_of_layout hl]
    exact load_of_holds ((rowSum_eq (hsum l hl)).symm.trans hl.total) hcompatible hchunks
  refine ⟨⟨?_, ?_⟩, ?_, ?_, ?_, ?_, ?_⟩
  · rintro ⟨b, hb⟩
    cases hr : read file with
    | error e =>
        rw [load, hr] at hb
        cases hb
    | ok l =>
        have hl := read_ok_iff.mp hr
        rw [load_of_layout hl] at hb
        have hcompatible : Compatible expected l.schema := by
          by_contra hnot
          obtain ⟨c, hc⟩ := load_of_conflict hnot
          rw [hc] at hb
          cases hb
        rcases segments_hold_or_fault l.schema l.segments 0 with
          ⟨chunks, hchunks⟩ | ⟨before, s, after, chunks, e, hsegments, hbefore, hfault⟩
        · exact ⟨l, chunks, hl, hcompatible, hchunks⟩
        · rw [Nat.zero_add] at hfault
          rw [load_of_fault hcompatible hsegments hbefore hfault] at hb
          cases hb
  · rintro ⟨l, chunks, hl, hcompatible, hchunks⟩
    obtain ⟨b, hb, -⟩ := hload l chunks hl hcompatible hchunks
    exact ⟨b, hb⟩
  · intro b l chunks hb hl hchunks
    have hcompatible : Compatible expected l.schema := by
      by_contra hnot
      obtain ⟨c, hc⟩ := load_of_conflict hnot
      rw [load_of_layout hl, hc] at hb
      cases hb
    obtain ⟨b', hb', hall⟩ := hload l chunks hl hcompatible hchunks
    have heq : b = b' := Except.ok.inj (hb.symm.trans hb')
    rw [heq]
    exact hall
  · intro hnone
    obtain ⟨e, he, hlayout⟩ := read_of_no_layout hnone
    exact ⟨e, by simp only [load, he], hlayout⟩
  · intro l hl hnot
    rw [load_of_layout hl]
    exact load_of_conflict hnot
  · intro l before s after chunks e hl hcompatible hsegments hbefore hfault
    rw [load_of_layout hl]
    exact load_of_fault hcompatible hsegments hbefore hfault
  · intro l i s place hl hs hp
    exact payload_at hl.toFramed hs hp

/-- One column. -/
def flags : Schema := [⟨"flag", .bool, true⟩]

/-- A file of flags with these segments. -/
def flagFile (segments : List Segment) : Layout :=
  ⟨(segments.map Segment.rows).sum, Wire.encodeSchema flags, flags.declared, segments⟩

theorem hasLayout_flagFile {segments : List Segment} (hcount : segments.length < 2 ^ 64)
    (hfits : ∀ s ∈ segments, s.Fits) (hrows : (segments.map Segment.rows).sum < 2 ^ 64) :
    HasLayout (flagFile segments).encode (flagFile segments) where
  bytes := rfl
  rows := hrows
  count := hcount
  schemaLength := show (Wire.encodeSchema flags).length < 2 ^ 64 by decide +kernel
  segments := hfits
  schema := Wire.decodeSchema_encodeSchema (by decide +kernel)
  total := rowSum_eq hrows

theorem compatible_flags : Compatible flags flags.declared := conflict_none_iff.mp rfl

/-- A file has no other layout, so no other number of rows. -/
theorem rows_of_hasLayout {file : Bytes} {l : Layout} (hl : HasLayout file l)
    (hrows : (l.segments.map Segment.rows).sum < 2 ^ 64) :
    ∀ l', HasLayout file l' → (l'.segments.map Segment.rows).sum < 2 ^ 64 := by
  intro l' hl'
  have heq : l' = l := Except.ok.inj ((read_ok_iff.mpr hl').symm.trans (read_ok_iff.mpr hl))
  rw [heq]
  exact hrows

/-- A column of flags, one of them NULL. -/
def twoFlags : Batch where
  rows := 2
  columns := [.ofCells "flag" true .bool #[some true, none]]
  aligned := by decide
  sound := by decide

/-- The payload of one of the two flags. -/
def flagPayload (i : Nat) : Bytes := Wire.encodeBatch (twoFlags.slice i 1)

/-- The segment of one of the two flags, which declares this many rows. -/
def flagSegment (i declared : Nat) : Segment :=
  ⟨declared, Columnar.checksum (flagPayload i), flagPayload i⟩

/-- The two flags, each in a segment of its own; the second one may declare a wrong number. -/
def halves (declared : Nat) : Layout := flagFile [flagSegment 0 1, flagSegment 1 declared]

theorem length_flagPayload : ∀ i < 2, (flagPayload i).length < 2 ^ 31 := by decide +kernel

theorem hasLayout_halves (declared : Nat) (h : 1 + declared < 2 ^ 64) :
    HasLayout (halves declared).encode (halves declared) := by
  have hlength : ∀ i < 2, (flagPayload i).length < 2 ^ 64 := fun i hi =>
    Nat.lt_trans (length_flagPayload i hi) (by decide)
  have hdeclared : declared < 2 ^ 64 := Nat.lt_of_le_of_lt (Nat.le_add_left _ 1) h
  refine hasLayout_flagFile (show 2 < 2 ^ 64 by decide) ?_ h
  exact List.forall_mem_cons.mpr ⟨⟨by decide, hlength 0 (by decide)⟩,
    List.forall_mem_singleton.mpr ⟨hdeclared, hlength 1 (by decide)⟩⟩

theorem flagSegment_holds :
    ChunkHolds flags.declared (flagSegment 0 1) [(twoFlags.slice 0 1).compact] ∧
    ChunkHolds flags.declared (flagSegment 1 1) [(twoFlags.slice 1 1).compact] :=
  ⟨chunkHolds_encodeBatch (b := twoFlags.slice 0 1) (by decide) (length_flagPayload 0 (by decide)),
    chunkHolds_encodeBatch (b := twoFlags.slice 1 1) (by decide) (length_flagPayload 1 (by decide))⟩

/-- The second flag is one row, and not two. -/
theorem flagSegment_fault :
    ChunkFault flags.declared 1 (flagSegment 1 2) (.chunkRows 1 2 1) := by
  obtain ⟨hintact, ⟨place, hopen, hstreams⟩, -⟩ := flagSegment_holds.2
  have hrows : ([(twoFlags.slice 1 1).compact].map Batch.rows).sum ≠ 2 := by decide
  exact .rows (s := flagSegment 1 2) hintact hopen hstreams hrows

/-- Two chunks of one row each are put together in the order of the file.  A second chunk that
declares two rows is refused, although the rows that are declared add up to those of the header. -/
theorem load_exact_twoFlags :
    (∀ l, HasLayout (halves 1).encode l → (l.segments.map Segment.rows).sum < 2 ^ 64) ∧
    (∃ b, load (halves 1).encode flags = .ok b ∧ b.schema = flags ∧ b.rows = 2 ∧
      b.table = twoFlags.table) ∧
    (∀ l, HasLayout (halves 2).encode l → (l.segments.map Segment.rows).sum < 2 ^ 64) ∧
    load (halves 2).encode flags = .error (.chunkRows 1 2 1) := by
  have hright := hasLayout_halves 1 (by decide)
  have hwrong := hasLayout_halves 2 (by decide)
  have hsum := rows_of_hasLayout hright (by decide)
  have hsum' := rows_of_hasLayout hwrong (by decide)
  obtain ⟨hfirst, hsecond⟩ := flagSegment_holds
  have hchunks : List.Forall₂ (ChunkHolds flags.declared) (halves 1).segments
      [[(twoFlags.slice 0 1).compact], [(twoFlags.slice 1 1).compact]] :=
    .cons hfirst (.cons hsecond .nil)
  obtain ⟨hloads, hresult, -⟩ := load_exact (halves 1).encode flags hsum
  obtain ⟨b, hb⟩ := hloads.mpr ⟨_, _, hright, compatible_flags, hchunks⟩
  obtain ⟨hschema, htotal, htable⟩ := hresult b _ _ hb hright hchunks
  obtain ⟨-, -, -, -, hrefused, -⟩ := load_exact (halves 2).encode flags hsum'
  refine ⟨hsum, ⟨b, hb, hschema, htotal, htable.trans ?_⟩, hsum', ?_⟩
  · decide
  · have hbefore : List.Forall₂ (ChunkHolds flags.declared) [flagSegment 0 1] _ :=
      .cons hfirst .nil
    exact hrefused _ _ _ [] _ _ hwrong compatible_flags rfl hbefore flagSegment_fault

/-- A file with one segment, whose rows and checksum are declared as they are. -/
def single (rows : Nat) (payload : Bytes) : Layout :=
  ⟨rows, Wire.encodeSchema flags, flags.declared, [⟨rows, Columnar.checksum payload, payload⟩]⟩

theorem hasLayout_single (rows : Nat) (payload : Bytes) (hrows : rows < 2 ^ 64)
    (hlength : payload.length < 2 ^ 64) :
    HasLayout (single rows payload).encode (single rows payload) := by
  have hfits : ∀ s ∈ (single rows payload).segments, s.Fits :=
    List.forall_mem_singleton.mpr ⟨hrows, hlength⟩
  exact hasLayout_flagFile (show 1 < 2 ^ 64 by decide) hfits hrows

/-- A stream that opens without columns and breaks off in the message behind. -/
def brokenOff : Bytes := Wire.schemaMessage [] ++ (Wire.mark ++ Bytes.ofNat 4 64)

/-- A stream that cannot be decoded is not refused as such if it opens with a schema of its own:
that is compared before any batch is read. -/
theorem foreign_before_batches :
    HasLayout (single 0 brokenOff).encode (single 0 brokenOff) ∧
    Compatible flags (single 0 brokenOff).schema ∧
    (∃ found place, Wire.openStream? brokenOff.toArray = some (found, place) ∧
      ¬ ∃ batches, Streams found brokenOff place batches) ∧
    load (single 0 brokenOff).encode flags = .error (.foreignSchema 0) ∧
    load (single 0 brokenOff).encode flags ≠ .error (.unreadableChunk 0) := by
  have hl := hasLayout_single 0 brokenOff (by decide) (by decide +kernel)
  have hopen : Wire.openStream? brokenOff.toArray =
      some (Schema.declared [], (Wire.schemaMessage []).length) :=
    Wire.openStream_schemaMessage _ (by decide +kernel)
  have hbroken : Wire.readBatches? [] brokenOff.toArray brokenOff.toArray.size
      (Wire.schemaMessage []).length = none := by decide +kernel
  have hload : load (single 0 brokenOff).encode flags = .error (.foreignSchema 0) := by
    rw [load_of_layout hl]
    have hbefore : List.Forall₂ (ChunkHolds (single 0 brokenOff).schema) [] [] := .nil
    have hsegments : (single 0 brokenOff).segments =
        [] ++ ⟨0, Columnar.checksum brokenOff, brokenOff⟩ :: [] := rfl
    exact load_of_fault (compatible_flags) hsegments hbefore (.foreign rfl hopen (by decide))
  refine ⟨hl, compatible_flags, ⟨_, _, hopen, ?_⟩, hload, ?_⟩
  · rintro ⟨batches, known, hknown, hread⟩
    cases hknown
    exact nomatch hbroken.symm.trans hread
  · rw [hload]
    intro h
    cases h

end Columnar.Snapshot

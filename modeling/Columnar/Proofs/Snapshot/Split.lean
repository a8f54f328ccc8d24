/-
# `Proofs.Snapshot.Split` — segments cover the rows of a batch

Whatever is guessed, the segments that a batch is split into are the streams
of ranges of rows, one range behind the other from the first row to the last
(`Covers`), and none is longer than the limit.  Guesses decide where a range
ends and nothing else, so nothing about them is assumed.

The bound of the search is never the reason why it ends: every segment but
the one of an empty batch has a row.
-/
import Columnar.Proofs.Snapshot.Load
import Columnar.Snapshot.Split

namespace Columnar.Snapshot

/-! ## One segment -/

theorem clamp_le {n low high : Nat} (h : low ≤ high) : clamp n low high ≤ high :=
  Nat.max_le.mpr ⟨h, Nat.min_le_left _ _⟩

theorem le_clamp (n low high : Nat) : low ≤ clamp n low high := Nat.le_max_left _ _

/-- Rows that fit are at most those tried first, and some if some were tried. -/
theorem fit_ok {g : Guess} {limit : Nat} {b : Batch} {offset : Nat} : ∀ {bound rows fitting : Nat}
    {payload : Bytes}, fit g limit b offset bound rows = .ok (fitting, payload) →
      payload = encodeRange b offset fitting ∧ payload.length ≤ limit ∧ fitting ≤ rows ∧
        (0 < rows → 0 < fitting)
  | bound, rows, fitting, payload, h => by
      rw [fit.eq_def] at h
      dsimp only at h
      split at h
      · next hle =>
        cases h
        exact ⟨rfl, hle, Nat.le_refl _, id⟩
      · cases bound with
        | zero => cases h
        | succ bound =>
            dsimp only at h
            split at h
            · cases h
            · next hrows =>
              obtain ⟨hpayload, hle, hfit, hpos⟩ := fit_ok h
              have hhigh := clamp_le (n := g.next rows (encodeRange b offset rows).length)
                (show 1 ≤ rows - 1 by omega)
              have hlow := le_clamp (g.next rows (encodeRange b offset rows).length) 1 (rows - 1)
              exact ⟨hpayload, hle, by omega, fun _ => hpos (by omega)⟩

/-- The segment of a range of rows. -/
def segmentOf (b : Batch) (offset rows : Nat) : Segment :=
  ⟨rows, Columnar.checksum (encodeRange b offset rows), encodeRange b offset rows⟩

/-- At first at least one row is tried, if there is one, and no more than there are. -/
theorem nextSegment_eq (g : Guess) (limit : Nat) (b : Batch) (offset : Nat) :
    ∃ rows, min (b.rows - offset) 1 ≤ rows ∧ rows ≤ b.rows - offset ∧
      nextSegment g limit b offset = (fit g limit b offset (b.rows - offset) rows).map
        fun r => ⟨r.1, Columnar.checksum r.2, r.2⟩ :=
  ⟨clamp g.first (min (b.rows - offset) 1) (b.rows - offset), le_clamp _ _ _,
    clamp_le (Nat.min_le_left _ _), rfl⟩

theorem nextSegment_ok {g : Guess} {limit : Nat} {b : Batch} {offset : Nat} {s : Segment}
    (h : nextSegment g limit b offset = .ok s) :
    s = segmentOf b offset s.rows ∧ s.payload.length ≤ limit ∧ s.rows ≤ b.rows - offset ∧
      (offset < b.rows → 0 < s.rows) := by
  obtain ⟨tried, hlow, hhigh, hnext⟩ := nextSegment_eq g limit b offset
  rw [hnext] at h
  cases hfit : fit g limit b offset (b.rows - offset) tried with
  | error e =>
      rw [hfit] at h
      cases h
  | ok r =>
      obtain ⟨rows, payload⟩ := r
      obtain ⟨rfl, hle, hrows, hpos⟩ := fit_ok hfit
      rw [hfit] at h
      have hs : segmentOf b offset rows = s := Except.ok.inj h
      subst hs
      exact ⟨rfl, hle, Nat.le_trans hrows hhigh, fun _ => hpos (by omega)⟩

/-! ## All segments -/

/-- The segments of ranges of rows one behind the other, from `offset` to the last row. -/
def Covers (b : Batch) (limit : Nat) : (offset : Nat) → List Segment → Prop
  | offset, [] => offset = b.rows
  | offset, s :: rest =>
    s = segmentOf b offset s.rows ∧ s.payload.length ≤ limit ∧ s.rows ≤ b.rows - offset ∧
      offset ≤ b.rows ∧ Covers b limit (offset + s.rows) rest

/-- A turn of the split: there are rows left, or no segment yet, and the next segment is found or is
an error; or the split is done. -/
theorem splitFrom_cases {g : Guess} {limit : Nat} {b : Batch} {bound offset : Nat}
    {done : List Segment} {outcome : Except (FormatError × List Segment) (List Segment)}
    (h : splitFrom g limit b (bound + 1) offset done = outcome) :
    (∃ s, (done = [] ∨ offset < b.rows) ∧ nextSegment g limit b offset = .ok s ∧
      splitFrom g limit b bound (offset + s.rows) (s :: done) = outcome) ∨
    (∃ e, (done = [] ∨ offset < b.rows) ∧ nextSegment g limit b offset = .error e ∧
      outcome = .error (e, done.reverse)) ∨
    (done ≠ [] ∧ b.rows ≤ offset ∧ outcome = .ok done.reverse) := by
  rw [splitFrom] at h
  split at h
  · next hmore =>
    rw [Bool.or_eq_true, decide_eq_true_eq, List.isEmpty_iff] at hmore
    cases hnext : nextSegment g limit b offset with
    | ok s =>
        rw [hnext] at h
        exact .inl ⟨s, hmore.symm, rfl, h⟩
    | error e =>
        rw [hnext] at h
        exact .inr (.inl ⟨e, hmore.symm, rfl, h.symm⟩)
  · next hdone =>
    rw [Bool.or_eq_true, decide_eq_true_eq, List.isEmpty_iff, not_or, Nat.not_lt] at hdone
    exact .inr (.inr ⟨hdone.2, hdone.1, h.symm⟩)

/-- At the last row nothing is left to do but for the one segment of an empty batch. -/
theorem splitFrom_end {g : Guess} {limit : Nat} {b : Batch} {s : Segment} {done : List Segment} :
    ∀ bound, splitFrom g limit b bound b.rows (s :: done) = .ok (s :: done).reverse
  | 0 => rfl
  | bound + 1 => by simp [splitFrom]

theorem splitFrom_ok {g : Guess} {limit : Nat} {b : Batch} : ∀ {bound offset : Nat}
    {done segments : List Segment}, splitFrom g limit b bound offset done = .ok segments →
      b.rows < bound + offset → offset ≤ b.rows →
        ∃ more, segments = done.reverse ++ more ∧ Covers b limit offset more ∧
          (done = [] → more ≠ []) ∧ (done ≠ [] → more.length ≤ b.rows - offset) ∧
          more.length ≤ max 1 (b.rows - offset)
  | 0, offset, done, segments, h, hbound, hoffset => by omega
  | bound + 1, offset, done, segments, h, hbound, hoffset => by
      rcases splitFrom_cases h with ⟨s, hmore, hnext, hrest⟩ | ⟨e, -, -, he⟩ | ⟨hdone, hend, hall⟩
      · obtain ⟨hs, hle, hrows, hpos⟩ := nextSegment_ok hnext
        by_cases hlast : offset < b.rows
        · have hp := hpos hlast
          obtain ⟨more, rfl, hcovers, -, hlen, -⟩ := splitFrom_ok hrest (by omega) (by omega)
          have hlen' := hlen (List.cons_ne_nil s done)
          have hcount : (s :: more).length ≤ b.rows - offset := by
            rw [List.length_cons]
            omega
          exact ⟨s :: more, by simp, ⟨hs, hle, hrows, hoffset, hcovers⟩,
            fun _ => List.cons_ne_nil s more, fun _ => hcount,
            Nat.le_trans hcount (Nat.le_max_right _ _)⟩
        · have heq : offset = b.rows := by omega
          have hzero : s.rows = 0 := by omega
          obtain rfl : done = [] := hmore.resolve_right hlast
          rw [hzero, Nat.add_zero, heq, splitFrom_end] at hrest
          cases hrest
          refine ⟨[s], rfl, ⟨hs, hle, hrows, hoffset, ?_⟩, fun _ => List.cons_ne_nil s [],
            fun h => absurd rfl h, Nat.le_max_left _ _⟩
          rw [hzero, Nat.add_zero]
          exact heq
      · cases he
      · cases hall
        exact ⟨[], (List.append_nil _).symm, by rw [Covers]; omega, fun h => absurd h hdone,
          fun _ => Nat.zero_le _, Nat.zero_le _⟩

theorem splitFrom_of_split {g : Guess} {limit : Nat} {b : Batch} {segments : List Segment}
    (h : split g limit b = .ok segments) :
    splitFrom g limit b (b.rows + 1) 0 [] = .ok segments := by
  rw [split] at h
  cases hsplit : splitFrom g limit b (b.rows + 1) 0 [] with
  | error e => rw [hsplit] at h; cases h
  | ok found =>
      rw [hsplit] at h
      cases h
      rfl

/-- A split covers the whole batch, with at least one segment and at most one for each row. -/
theorem split_ok {g : Guess} {limit : Nat} {b : Batch} {segments : List Segment}
    (h : split g limit b = .ok segments) :
    Covers b limit 0 segments ∧ segments ≠ [] ∧ segments.length ≤ max 1 b.rows := by
  obtain ⟨more, rfl, hcovers, hne, -, hlen⟩ :=
    splitFrom_ok (splitFrom_of_split h) (by omega) (Nat.zero_le _)
  exact ⟨hcovers, hne rfl, hlen⟩

/-! ## What segments hold -/

theorem covers_rows {b : Batch} {limit : Nat} : ∀ {segments : List Segment} {offset : Nat},
    Covers b limit offset segments → offset + (segments.map Segment.rows).sum = b.rows
  | [], offset, h => h
  | s :: rest, offset, h => by
      obtain ⟨-, -, -, -, hrest⟩ := h
      have ih := covers_rows hrest
      rw [List.map_cons, List.sum_cons]
      omega

theorem covers_le {b : Batch} {limit : Nat} : ∀ {segments : List Segment} {offset : Nat},
    Covers b limit offset segments → ∀ s ∈ segments, s.payload.length ≤ limit ∧ s.rows ≤ b.rows
  | first :: rest, offset, h, s, hs => by
      obtain ⟨-, hle, hrows, -, hrest⟩ := h
      rcases List.mem_cons.mp hs with rfl | hs
      · exact ⟨hle, by omega⟩
      · exact covers_le hrest s hs

/-- Segments that cover a batch hold what they declare, and together the rows of the batch. -/
theorem covers_hold {b : Batch} {limit : Nat} (hrows : b.rows < 2 ^ 64) (hlimit : limit < 2 ^ 31) :
    ∀ {segments : List Segment} {offset : Nat}, Covers b limit offset segments →
      ∃ chunks, List.Forall₂ (ChunkHolds b.schema.declared) segments chunks ∧
        (chunks.flatten.map Batch.table).flatten = b.table.drop offset
  | [], offset, h => by
      have hend : b.table.drop offset = [] := by
        rw [List.drop_eq_nil_iff, b.length_table]
        exact Nat.le_of_eq (Eq.symm h)
      exact ⟨[], .nil, hend.symm⟩
  | s :: rest, offset, h => by
      obtain ⟨hs, hle, hfit, hoffset, hrest⟩ := h
      obtain ⟨chunks, hchunks, htables⟩ := covers_hold hrows hlimit hrest
      have hslice : (b.slice offset s.rows).rows = s.rows := Nat.min_eq_left hfit
      have hholds : ChunkHolds b.schema.declared s [(b.slice offset s.rows).compact] := by
        have hlength : (Wire.encodeBatch (b.slice offset s.rows)).length < 2 ^ 31 := by
          rw [hs] at hle
          exact Nat.lt_of_le_of_lt hle hlimit
        have hstream := chunkHolds_encodeBatch (by omega) hlength
        rw [segmentOf, encodeRange] at hs
        rw [b.schema_slice, hslice, ← hs] at hstream
        exact hstream
      refine ⟨[(b.slice offset s.rows).compact] :: chunks, .cons hholds hchunks, ?_⟩
      simp only [List.flatten_cons, List.map_append, List.map_cons, List.map_nil,
        List.flatten_append, htables, List.flatten_nil, List.append_nil, Batch.table_compact,
        Batch.table_slice]
      rw [← List.drop_drop, List.take_append_drop]

end Columnar.Snapshot

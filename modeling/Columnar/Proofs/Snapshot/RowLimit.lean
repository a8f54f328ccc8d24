/-
# `Proofs.Snapshot.RowLimit` — rows that are too large

The search for a segment gives up at one row, so the row that an error names
is longer than the limit on its own, and all rows before it are in segments
already (`splitFrom_error`).  The other way round it takes more: a row that is
too large alone may still lie in a range that is not, and whether the search
finds that range is up to the guesses.  For rows that grow with their ranges
(`Grows`), and so for all that are steady, there is no such range, and the
first row that is too large decides what becomes of a save.
-/
import Columnar.Proofs.Snapshot.Partition
import Columnar.Proofs.Wire.Growth

namespace Columnar.Snapshot

/-! ## Rows alone and in ranges -/

/-- How long the stream of a row alone is. -/
def rowLength (b : Batch) (row : Nat) : Nat := (encodeRange b row 1).length

/-- The row alone does not fit into a segment. -/
def Oversized (limit : Nat) (b : Batch) (row : Nat) : Prop := row < b.rows ∧ limit < rowLength b row

/-- The row lies in a range that fits into a segment and ends at `stop` or before. -/
def LiesWithin (limit : Nat) (b : Batch) (row stop : Nat) : Prop :=
  ∃ offset rows, offset ≤ row ∧ row < offset + rows ∧ offset + rows ≤ stop ∧
    (encodeRange b offset rows).length ≤ limit

/-- The row alone takes no more bytes than any range that it lies in. -/
def Grows (b : Batch) (row : Nat) : Prop :=
  ∀ offset rows, offset ≤ row → row < offset + rows → offset + rows ≤ b.rows →
    rowLength b row ≤ (encodeRange b offset rows).length

/-- The error of a row that does not fit into a segment. -/
def tooLarge (limit : Nat) (b : Batch) (row : Nat) : FormatError :=
  .rowTooLarge row (rowLength b row) limit

theorem grows_of_steady {b : Batch} {row : Nat} (h : b.Steady row) : Grows b row :=
  fun _ _ hstart hend hrows => Wire.length_row_le h hstart hend hrows

section
variable {limit : Nat} {b : Batch} {row stop stop' : Nat}

theorem LiesWithin.mono (h : LiesWithin limit b row stop) (hstop : stop ≤ stop') :
    LiesWithin limit b row stop' := by
  obtain ⟨offset, rows, hstart, hend, hle, hfits⟩ := h
  exact ⟨offset, rows, hstart, hend, Nat.le_trans hle hstop, hfits⟩

/-- A row that does not fit and grows with its ranges lies in no range that fits. -/
theorem Oversized.not_within (h : Oversized limit b row) (hgrows : Grows b row) :
    ¬ LiesWithin limit b row b.rows := by
  rintro ⟨offset, rows, hstart, hend, hle, hfits⟩
  have hlong := hgrows offset rows hstart hend hle
  have hlimit := h.2
  omega

end

/-! ## The search -/

section
variable {g : Guess} {limit : Nat} {b : Batch}

theorem fit_of_le {offset bound rows : Nat} (h : (encodeRange b offset rows).length ≤ limit) :
    fit g limit b offset bound rows = .ok (rows, encodeRange b offset rows) := by
  rw [fit.eq_def]
  dsimp only
  rw [if_pos h]

theorem nextSegment_of_le {offset rows : Nat}
    (hrows : clamp g.first (min (b.rows - offset) 1) (b.rows - offset) = rows)
    (h : (encodeRange b offset rows).length ≤ limit) :
    nextSegment g limit b offset = .ok (segmentOf b offset rows) := by
  rw [nextSegment]
  dsimp only
  rw [hrows, fit_of_le h, segmentOf, Except.map]

/-- Rows that do not fit, down to one, are an error of the first of them. -/
theorem fit_error {offset : Nat} {e : FormatError} : ∀ {bound rows : Nat},
    fit g limit b offset bound rows = .error e → 0 < rows → rows ≤ bound + 1 →
      limit < rowLength b offset ∧ e = tooLarge limit b offset
  | bound, rows, h, hrows, hbound => by
      rw [fit.eq_def] at h
      dsimp only at h
      split at h
      · cases h
      · next hlong =>
        have hone : rows ≤ 1 → limit < rowLength b offset ∧
            .rowTooLarge offset (encodeRange b offset rows).length limit = tooLarge limit b offset := by
          intro hle
          obtain rfl : rows = 1 := by omega
          exact ⟨Nat.lt_of_not_le hlong, rfl⟩
        cases bound with
        | zero =>
            cases h
            exact hone hbound
        | succ bound =>
            dsimp only at h
            split at h
            · next hle =>
              cases h
              exact hone hle
            · have hhigh := clamp_le (n := g.next rows (encodeRange b offset rows).length)
                (show 1 ≤ rows - 1 by omega)
              have hlow := le_clamp (g.next rows (encodeRange b offset rows).length) 1 (rows - 1)
              exact fit_error h (by omega) (by omega)

theorem nextSegment_error {offset : Nat} {e : FormatError} (hoffset : offset < b.rows)
    (h : nextSegment g limit b offset = .error e) :
    Oversized limit b offset ∧ e = tooLarge limit b offset := by
  obtain ⟨tried, hlow, hhigh, hnext⟩ := nextSegment_eq g limit b offset
  rw [hnext] at h
  cases hfit : fit g limit b offset (b.rows - offset) tried with
  | ok r =>
      rw [hfit] at h
      cases h
  | error e' =>
      rw [hfit] at h
      cases h
      obtain ⟨hlong, he⟩ := fit_error hfit (by omega) (by omega)
      exact ⟨⟨hoffset, hlong⟩, he⟩

theorem splitFrom_step {bound offset : Nat} {s : Segment} {done : List Segment}
    (hoffset : offset < b.rows) (hnext : nextSegment g limit b offset = .ok s) :
    splitFrom g limit b (bound + 1) offset done =
      splitFrom g limit b bound (offset + s.rows) (s :: done) := by
  have hmore : (decide (offset < b.rows) || done.isEmpty) = true := by
    rw [decide_eq_true hoffset, Bool.true_or]
  rw [splitFrom, if_pos hmore, hnext]

/-- The error of a split names a row that does not fit, and all rows from the beginning of the split
up to that row are in segments. -/
theorem splitFrom_error {e : FormatError} {before : List Segment} : ∀ {bound offset : Nat}
    {done : List Segment}, splitFrom g limit b bound offset done = .error (e, before) →
      (done = [] → offset < b.rows) →
        ∃ row, Oversized limit b row ∧ e = tooLarge limit b row ∧ offset ≤ row ∧
          ∀ q, offset ≤ q → q < row → LiesWithin limit b q row
  | 0, _, _, h, _ => by cases h
  | bound + 1, offset, done, h, hstart => by
      rcases splitFrom_cases h with ⟨s, -, hnext, hrest⟩ | ⟨e', hmore, hnext, he⟩ | ⟨-, -, hall⟩
      · obtain ⟨hs, hfits, -, -⟩ := nextSegment_ok hnext
        rw [hs] at hfits
        obtain ⟨row, hover, he, hle, hbefore⟩ :=
          splitFrom_error hrest fun hnil => absurd hnil (List.cons_ne_nil s done)
        refine ⟨row, hover, he, by omega, fun q hq hlt => ?_⟩
        by_cases hin : q < offset + s.rows
        · exact ⟨offset, s.rows, hq, hin, hle, hfits⟩
        · exact hbefore q (by omega) hlt
      · cases he
        obtain ⟨hover, he⟩ := nextSegment_error (hmore.elim hstart id) hnext
        exact ⟨offset, hover, he, Nat.le_refl _, fun q hle hlt => by omega⟩
      · cases hall

/-- Every row of segments that cover a batch lies in one of them. -/
theorem covers_within : ∀ {segments : List Segment} {offset : Nat}, Covers b limit offset segments →
    ∀ row, offset ≤ row → row < b.rows → LiesWithin limit b row b.rows
  | [], offset, h, row, hle, hlt => by
      have hend : offset = b.rows := h
      omega
  | s :: rest, offset, ⟨hs, hfits, hrows, hoffset, hrest⟩, row, hle, hlt => by
      rw [hs] at hfits
      by_cases hin : row < offset + s.rows
      · exact ⟨offset, s.rows, hle, hin, by omega, hfits⟩
      · exact covers_within hrest row (by omega) hlt

end

/-! ## Splits -/

section
variable {g : Guess} {limit : Nat} {b : Batch}

theorem split_error {e : FormatError} (hrows : 0 < b.rows) (h : split g limit b = .error e) :
    ∃ row, Oversized limit b row ∧ e = tooLarge limit b row ∧
      ∀ q, q < row → LiesWithin limit b q row := by
  rw [split] at h
  cases hsplit : splitFrom g limit b (b.rows + 1) 0 [] with
  | ok segments => rw [hsplit] at h; cases h
  | error r =>
      rw [hsplit] at h
      cases h
      obtain ⟨row, hover, he, -, hbefore⟩ := splitFrom_error hsplit fun _ => hrows
      exact ⟨row, hover, he, fun q hq => hbefore q (Nat.zero_le q) hq⟩

/-- Rows that fit one by one can be split. -/
theorem split_of_fit (hrows : 0 < b.rows) (h : ∀ row, ¬ Oversized limit b row) :
    ∃ segments, split g limit b = .ok segments := by
  cases hsplit : split g limit b with
  | ok segments => exact ⟨segments, rfl⟩
  | error e =>
      obtain ⟨row, hover, -⟩ := split_error hrows hsplit
      exact absurd hover (h row)

/-- No split gets past a row that does not fit and grows with its ranges. -/
theorem split_of_oversized {row : Nat} (hover : Oversized limit b row) (hgrows : Grows b row) :
    ∃ first, first ≤ row ∧ split g limit b = .error (tooLarge limit b first) := by
  cases hsplit : split g limit b with
  | ok segments =>
      obtain ⟨hcovers, -, -⟩ := split_ok hsplit
      have hwithin := covers_within hcovers row (Nat.zero_le row) hover.1
      exact absurd hwithin (hover.not_within hgrows)
  | error e =>
      obtain ⟨first, hfirst, rfl, hbefore⟩ := split_error (Nat.zero_lt_of_lt hover.1) hsplit
      refine ⟨first, Nat.le_of_not_lt fun hlt => ?_, rfl⟩
      exact hover.not_within hgrows ((hbefore row hlt).mono (Nat.le_of_lt hfirst.1))

/-- If all rows that do not fit grow with their ranges, a split fails at the first of them. -/
theorem split_error_iff (hgrows : ∀ row, Oversized limit b row → Grows b row) (hrows : 0 < b.rows)
    {row : Nat} : split g limit b = .error (tooLarge limit b row) ↔
      Oversized limit b row ∧ ∀ q, q < row → ¬ Oversized limit b q := by
  constructor
  · intro h
    obtain ⟨first, hover, he, hbefore⟩ := split_error hrows h
    injection he with hsame
    subst hsame
    refine ⟨hover, fun q hlt hq => ?_⟩
    exact hq.not_within (hgrows q hq) ((hbefore q hlt).mono (Nat.le_of_lt hover.1))
  · rintro ⟨hover, hleast⟩
    obtain ⟨first, hle, hsplit⟩ := split_of_oversized hover (hgrows row hover)
    obtain ⟨found, hfound, he, -⟩ := split_error hrows hsplit
    injection he with hsame
    subst hsame
    have hfirst : first = row := Nat.le_antisymm hle (Nat.le_of_not_lt fun hlt => hleast first hlt hfound)
    rw [hsplit, hfirst]

/-- A batch without rows has the one range of no rows. -/
theorem split_empty (hrows : b.rows = 0) : split g limit b =
    if (encodeRange b 0 0).length ≤ limit then .ok [segmentOf b 0 0]
    else .error (.rowTooLarge 0 (encodeRange b 0 0).length limit) := by
  have hnone : clamp g.first (min 0 1) 0 = 0 :=
    Nat.le_zero.mp (clamp_le (Nat.zero_le 0))
  have hfit : fit g limit b 0 0 0 =
      if (encodeRange b 0 0).length ≤ limit then .ok (0, encodeRange b 0 0)
      else .error (.rowTooLarge 0 (encodeRange b 0 0).length limit) := by
    rw [fit.eq_def]
  have hmore : (decide (0 < 0) || ([] : List Segment).isEmpty) = true := rfl
  rw [split, hrows, splitFrom, hrows, if_pos hmore, nextSegment, hrows, Nat.sub_zero]
  dsimp only
  rw [hnone, hfit]
  by_cases hfits : (encodeRange b 0 0).length ≤ limit
  · rw [if_pos hfits, if_pos hfits]
    rfl
  · rw [if_neg hfits, if_neg hfits]
    rfl

end

/-! ## Saves -/

section
variable {g : Guess} {limit : Nat} {p : Path} {b : Batch} {d : Directory} {place temporary : Place}

/-- Where a file can be at both names, nothing but the split of the batch makes a save fail. -/
theorem saveWith_of_spots (hpos : 0 < limit) (hle : limit ≤ chunkLimit) (hplace : d.FileSpot p place)
    (htemporary : d.FileSpot (provisional p) temporary) :
    (∀ e, (saveWith g limit p b d).2 = .error e ↔
      ∃ reason, split g limit b = .error reason ∧ e = .format reason) ∧
    ((∃ segments, split g limit b = .ok segments) → ∃ summary,
      (saveWith g limit p b d).2 = .ok summary) := by
  have houtcome := saveWith_outcome (g := g) (p := p) (b := b) (d := d) hpos hle
  generalize saveWith g limit p b d = after at houtcome
  cases houtcome with
  | unwritten e hnone => exact absurd htemporary (hnone temporary)
  | unmoved e hnone => exact absurd hplace (hnone place)
  | @unsplit _ _ reason hsplit =>
      simp only [hsplit, Except.error.injEq, exists_eq_left', reduceCtorEq, exists_false,
        false_imp_iff, and_true]
      exact fun e => eq_comm
  | stored hlayout =>
      obtain ⟨hsplit, -, -⟩ := ofBatch_ok hlayout
      simp only [hsplit, reduceCtorEq, false_and, exists_false, implies_true, true_and]
      exact fun _ => ⟨_, rfl⟩

/-- Rows that are too large are all that a save of a batch with rows fails for, as long as the files
can be made, and an error names a row that alone is longer than the limit, with its own length; all
rows before it lie in ranges that fit.  So a save succeeds if every row fits alone.  A row that does
not fit alone makes it fail, at that row or before, if the row alone takes no more bytes than any
range that it lies in; and if all rows that do not fit are of this kind, the error names the first of
them.  A row is of this kind if it is steady.  Without rows a save fails if the stream of no rows is
longer than the limit. -/
theorem save_row_limit {outcome : Except Failure Summary} (hpos : 0 < limit) (hle : limit ≤ chunkLimit)
    (hplace : d.FileSpot p place) (htemporary : d.FileSpot (provisional p) temporary)
    (hsave : (saveWith g limit p b d).2 = outcome) :
    (0 < b.rows →
      (∀ e, outcome = .error e → ∃ row, e = .format (.rowTooLarge row (rowLength b row) limit) ∧
        Oversized limit b row ∧ ∀ q, q < row → LiesWithin limit b q row) ∧
      ((∀ row, ¬ Oversized limit b row) → ∃ summary, outcome = .ok summary) ∧
      (∀ row, Oversized limit b row → Grows b row → ∃ first, first ≤ row ∧
        outcome = .error (.format (.rowTooLarge first (rowLength b first) limit))) ∧
      ((∀ row, Oversized limit b row → Grows b row) → ∀ row,
        outcome = .error (.format (.rowTooLarge row (rowLength b row) limit)) ↔
          Oversized limit b row ∧ ∀ q, q < row → ¬ Oversized limit b q)) ∧
    (∀ row, b.Steady row → Grows b row) ∧
    (b.rows = 0 →
      (limit < (encodeRange b 0 0).length →
        outcome = .error (.format (.rowTooLarge 0 (encodeRange b 0 0).length limit))) ∧
      ((encodeRange b 0 0).length ≤ limit → ∃ summary, outcome = .ok summary)) := by
  obtain ⟨herror, hok⟩ := saveWith_of_spots (g := g) (b := b) hpos hle hplace htemporary
  rw [hsave] at herror hok
  have hformat : ∀ reason, outcome = .error (.format reason) ↔ split g limit b = .error reason := by
    intro reason
    simp only [herror, Failure.format.injEq, exists_eq_right']
  refine ⟨fun hrows => ⟨fun e he => ?_, fun hfit => hok (split_of_fit hrows hfit), ?_, ?_⟩,
    fun row => grows_of_steady, fun hrows => ⟨fun hlong => ?_, fun hfits => hok ?_⟩⟩
  · obtain ⟨reason, hsplit, rfl⟩ := (herror e).mp he
    obtain ⟨row, hover, rfl, hbefore⟩ := split_error hrows hsplit
    exact ⟨row, rfl, hover, hbefore⟩
  · intro row hover hgrows
    obtain ⟨first, hfirst, hsplit⟩ := split_of_oversized (g := g) hover hgrows
    exact ⟨first, hfirst, (hformat _).mpr hsplit⟩
  · intro hgrows row
    exact (hformat _).trans (split_error_iff hgrows hrows)
  · rw [hformat, split_empty hrows, if_neg (Nat.not_le_of_lt hlong)]
  · exact ⟨_, by rw [split_empty hrows, if_pos hfits]⟩

end

/-- In an empty folder a file can be at both names of a snapshot. -/
theorem spots_flags : Directory.empty.FileSpot (.ofPlace ["flags"]) ["flags"] ∧
    Directory.empty.FileSpot (provisional (.ofPlace ["flags"])) ["flags.partial"] := by
  have hname : Path.IsName "flags" := ⟨by decide, by decide⟩
  have hprovisional : provisional (.ofPlace ["flags"]) = ⟨[], ["flags" ++ ".partial"]⟩ :=
    provisional_name hname
  rw [hprovisional]
  exact ⟨(Directory.fileSpot_name hname).mpr ⟨rfl, rfl, rfl, fun h => nomatch h⟩,
    (Directory.fileSpot_name (isName_provisional "flags")).mpr ⟨rfl, rfl, rfl, fun h => nomatch h⟩⟩

/-- Two notes, the second of which is long. -/
def twoNotes : Batch where
  rows := 2
  columns := [.ofCells "note" false .binary #[some [1], some (List.replicate 80 2)]]
  aligned := by decide
  sound := by decide

/-- The first note fits into 550 bytes and the second does not, so the save fails at the second; with
600 bytes it succeeds. -/
theorem save_row_limit_twoNotes : 0 < twoNotes.rows ∧
    (saveWith oneByOne 550 (.ofPlace ["flags"]) twoNotes .empty).2 =
      .error (.format (.rowTooLarge 1 584 550)) ∧
    ∃ summary, (saveWith oneByOne 600 (.ofPlace ["flags"]) twoNotes .empty).2 = .ok summary := by
  obtain ⟨hplace, htemporary⟩ := spots_flags
  have hrows : 0 < twoNotes.rows := by decide
  have hfirst : rowLength twoNotes 0 = 520 := by decide +kernel
  have hsecond : rowLength twoNotes 1 = 584 := by decide +kernel
  have hsteady : ∀ row, row < 2 → twoNotes.Steady row := by decide
  generalize hfew : (saveWith oneByOne 550 (.ofPlace ["flags"]) twoNotes .empty).2 = few
  generalize hmany : (saveWith oneByOne 600 (.ofPlace ["flags"]) twoNotes .empty).2 = many
  obtain ⟨hfew, hgrows, -⟩ := save_row_limit (by decide) (by decide) hplace htemporary hfew
  obtain ⟨hmany, -, -⟩ := save_row_limit (by decide) (by decide) hplace htemporary hmany
  obtain ⟨-, -, -, hleast⟩ := hfew hrows
  obtain ⟨-, hfit, -, -⟩ := hmany hrows
  refine ⟨hrows, ?_, hfit ?_⟩
  · rw [← hsecond]
    refine (hleast (fun row hover => hgrows row (hsteady row hover.1)) 1).mpr
      ⟨⟨by decide, by omega⟩, fun q hq hover => ?_⟩
    obtain rfl : q = 0 := by omega
    exact absurd hover.2 (by omega)
  · rintro row ⟨hrow, hlong⟩
    have hrow : row < 2 := hrow
    obtain rfl | rfl : row = 0 ∨ row = 1 := by omega
    · omega
    · omega

/-! ## A row that is longer alone -/

/-- A column of flags that are all set. -/
def setFlags (n : Nat) : Batch where
  rows := n
  columns := [.ofCells "flag" false .bool (Array.replicate n (some true))]
  aligned := by
    intro c hc
    rw [List.mem_singleton.mp hc]
    exact Array.size_replicate
  sound := by
    intro c hc
    rw [List.mem_singleton.mp hc, Column.sound_ofCells, Bool.false_or, Array.toList_replicate]
    exact List.all_eq_true.mpr fun c hc => List.eq_of_mem_replicate hc ▸ rfl

/-- The flags from the second one on, ten of them. -/
abbrev tenFlags (n : Nat) : Batch := (setFlags n).slice 1 10

section
variable {n offset rows : Nat}

theorem rows_tenFlags (hn : 10 < n) : (tenFlags n).rows = 10 :=
  Nat.min_eq_left (show 10 ≤ n - 1 by omega)

theorem all_setFlags (start stop : Nat) :
    ((Array.replicate n (some true)).extract start stop).all Option.isSome = true := by
  refine Array.all_eq_true.mpr fun i hi => ?_
  rw [Array.getElem_extract, Array.getElem_replicate]
  rfl

theorem anyNull_setFlags : DataType.anyNull (Array.replicate n (some true)) = false := by
  refine Array.any_eq_false.mpr fun i hi => ?_
  rw [Array.getElem_replicate]
  exact Bool.false_ne_true

/-- A range of the ten flags has two bitmaps. -/
theorem buffersOf_tenFlags (hn : 10 < n) (hend : offset + rows ≤ 10) :
    Wire.buffersOf ((tenFlags n).slice offset rows) =
      [Wire.validity (Array.replicate n (some true)) (1 + offset) rows,
        Wire.packed (fun c : Option Bool => c.getD false) (Array.replicate n (some true))
          (1 + offset) rows] := by
  let c := (Column.ofCells "flag" false .bool (Array.replicate n (some true))).slice 1 10
  have hsize : (Array.replicate n (some true)).size = n := Array.size_replicate
  have hstart : c.start = 1 := by
    show 0 + min 1 (Array.replicate n (some true)).size = 1
    omega
  have hlength : c.length = 10 := by
    show min 10 ((Array.replicate n (some true)).size - 1) = 10
    omega
  have hcolumn : Wire.buffersOf ((tenFlags n).slice offset rows) =
      (Wire.Part.ofColumn (c.slice offset rows)).buffers := by
    rw [Wire.buffersOf_slice]
    exact List.append_nil _
  rw [hcolumn, Wire.part_slice (by omega), hstart]
  rfl

/-- How long the stream of a range of the ten flags is: it has two bitmaps, and one of them goes on
to the last stored flag if the range begins with the eighth. -/
theorem length_tenFlags (hn : 10 < n) (hrows : 0 < rows) (hend : offset + rows ≤ 10) :
    (encodeRange (tenFlags n) offset rows).length = 328 + Wire.filledLength (bitmapBytes rows) +
      Wire.filledLength (bitmapBytes (if (1 + offset) % 8 = 0 then n - (1 + offset) else rows)) := by
  have hbody : Wire.bodyLength ((tenFlags n).slice offset rows) =
      Wire.filledLength (bitmapBytes rows) +
        Wire.filledLength (bitmapBytes (if (1 + offset) % 8 = 0 then n - (1 + offset) else rows)) := by
    have hsize : 1 + offset + rows ≤ (Array.replicate n (some true)).size := by
      rw [Array.size_replicate]
      omega
    rw [Wire.bodyLength, buffersOf_tenFlags hn hend, Wire.length_body_cons, Wire.length_body_cons,
      Wire.length_validity_of_all (all_setFlags _ _), Wire.length_packed _ hsize, Array.size_replicate]
    rfl
  have hone : (Wire.encodeBatch (setFlags 1)).length = 456 ∧ Wire.bodyLength (setFlags 1) = 128 := by
    decide +kernel
  have hfew : ((tenFlags n).slice offset rows).rows = rows := by
    show min rows ((tenFlags n).rows - offset) = rows
    rw [rows_tenFlags hn]
    omega
  have hsame := Wire.length_encodeBatch
    (show ((tenFlags n).slice offset rows).schema = (setFlags 1).schema from rfl) (by omega) Nat.one_pos
  rw [encodeRange]
  omega

theorem memory_tenFlags (n : Nat) :
    ((tenFlags n).columns.map Column.memory).sum = bitmapBytes n := by
  have hmemory : DataType.footprint .bool (Array.replicate n (some true)) = bitmapBytes n := by
    show (if DataType.anyNull (Array.replicate n (some true)) then _ else 0) +
      bitmapBytes (Array.replicate n (some true)).size = bitmapBytes n
    rw [anyNull_setFlags, if_neg Bool.false_ne_true, Nat.zero_add, Array.size_replicate]
  exact (Nat.add_zero _).trans hmemory

end

/-- Ten of many flags. -/
def manyFlags : Batch := tenFlags 6800

/-- The stored flags count as a whole, so it looks as if five rows would fit. -/
theorem first_manyFlags : (Guess.estimated 1287 manyFlags).first = 5 := by
  have hoverhead : Guess.overhead manyFlags = 840 := by decide +kernel
  have hrows : manyFlags.rows = 10 := rows_tenFlags (by omega)
  have hmemory : (manyFlags.columns.map Column.memory).sum = 850 := memory_tenFlags 6800
  rw [Guess.estimated, Guess.rowBytes, hoverhead, hrows, hmemory]
  decide +kernel

/-- Five rows and five more: the eighth row is never tried as the first of a range. -/
theorem split_manyFlags {g : Guess} (hg : g.first = 5) :
    ∃ segments, split g 1287 manyFlags = .ok segments := by
  have hrows : manyFlags.rows = 10 := rows_tenFlags (by omega)
  have hnext : ∀ offset, offset = 0 ∨ offset = 5 →
      nextSegment g 1287 manyFlags offset = .ok (segmentOf manyFlags offset 5) := by
    intro offset hoffset
    refine nextSegment_of_le ?_ ?_
    · rw [hg, hrows]
      rcases hoffset with rfl | rfl
      · decide
      · decide
    · have hwithin : (1 + offset) % 8 ≠ 0 := by omega
      rw [manyFlags, length_tenFlags (by omega) (by omega) (by omega), if_neg hwithin]
      decide
  have hfive : ∀ offset, (segmentOf manyFlags offset 5).rows = 5 := fun _ => rfl
  refine ⟨[segmentOf manyFlags 0 5, segmentOf manyFlags 5 5], ?_⟩
  have hsplit : splitFrom g 1287 manyFlags 11 0 [] =
      .ok [segmentOf manyFlags 0 5, segmentOf manyFlags 5 5] :=
    calc
      splitFrom g 1287 manyFlags 11 0 []
          = splitFrom g 1287 manyFlags 10 5 [segmentOf manyFlags 0 5] := by
        rw [splitFrom_step (by omega) (hnext 0 (.inl rfl)), hfive]
      _ = splitFrom g 1287 manyFlags 9 manyFlags.rows
            [segmentOf manyFlags 5 5, segmentOf manyFlags 0 5] := by
        rw [splitFrom_step (by omega) (hnext 5 (.inr rfl)), hfive, hrows]
      _ = .ok [segmentOf manyFlags 0 5, segmentOf manyFlags 5 5] := splitFrom_end 9
  rw [split, hrows, hsplit, Except.mapError]

/-- The eighth row alone is longer than the limit, and the save succeeds. -/
theorem save_oversized_row : 0 < manyFlags.rows ∧ Oversized 1287 manyFlags 7 ∧
    ∃ summary, (save 1287 (.ofPlace ["flags"]) manyFlags .empty).2 = .ok summary := by
  have hrows : manyFlags.rows = 10 := rows_tenFlags (by omega)
  have hlong : 1287 < rowLength manyFlags 7 := by
    rw [rowLength, manyFlags, length_tenFlags (by omega) (by omega) (by omega), if_pos (by decide)]
    decide
  obtain ⟨hplace, htemporary⟩ := spots_flags
  exact ⟨by omega, ⟨by omega, hlong⟩,
    (saveWith_of_spots (by decide) (by decide) hplace htemporary).2 (split_manyFlags first_manyFlags)⟩

end Columnar.Snapshot

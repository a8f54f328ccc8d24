/-
# `Proofs.Snapshot.Drafts` — a file that is still being written

While segments are written the header declares none, so a reader looks for
the trailer where the first segment begins.  There it finds the number of rows
and the length of the payload.  The rows may be as many as to spell the mark
of the trailer, and an empty batch may agree with the header on its rows; but
a trailer behind a header that declares no segments repeats a zero, and no
payload is empty.  So no stage of a draft is accepted, up to the last byte of
its trailer, and the number of segments makes the draft the file of its
layout.
-/
import Columnar.Proofs.Snapshot.RoundTrip
import Columnar.Proofs.Snapshot.Walk

namespace Columnar.Snapshot

/-! ## Payloads -/

theorem encodeBatch_ne_nil (b : Batch) : Wire.encodeBatch b ≠ [] := by
  rw [Wire.encodeBatch]
  exact List.append_ne_nil_of_right_ne_nil _ (by decide)

theorem covers_payload {b : Batch} {limit : Nat} : ∀ {segments : List Segment} {offset : Nat},
    Covers b limit offset segments → ∀ s ∈ segments, s.payload ≠ []
  | [], _, _, _, hs => absurd hs List.not_mem_nil
  | first :: rest, offset, h, s, hs => by
      obtain ⟨hfirst, -, -, -, hrest⟩ := h
      rcases List.mem_cons.mp hs with rfl | hs
      · rw [hfirst]
        exact encodeBatch_ne_nil _
      · exact covers_payload hrest s hs

/-! ## Stages -/

/-- Where the first segment begins there is no trailer that repeats a zero. -/
theorem take_ne_trailer_zero {s : Segment} {rest more : Bytes} (hfits : s.Fits)
    (hpayload : s.payload ≠ []) (h : rest <+: s.encode ++ more) : rest.take 16 ≠ trailer 0 := by
  intro htrailer
  have hfront : trailer 0 <+: s.encode ++ more := htrailer ▸ (List.take_prefix 16 rest).trans h
  have hsegment : s.encode ++ more = (Bytes.ofNat 8 s.rows ++ Bytes.ofNat 8 s.payload.length) ++
      (Bytes.ofNat 8 s.checksum.toNat ++ (s.payload ++ more)) := by
    simp only [Segment.encode, Segment.header, List.append_assoc]
  have hlen : (Bytes.ofNat 8 s.rows ++ Bytes.ofNat 8 s.payload.length).length =
      (trailer 0).length := by
    rw [List.length_append, Bytes.length_ofNat, Bytes.length_ofNat, length_trailer]
  rw [hsegment, List.prefix_iff_eq_take, ← hlen, List.take_left, trailer] at hfront
  obtain ⟨-, hzero⟩ := List.append_inj hfront (Bytes.length_ofNat 8 _).symm
  have hnone := congrArg Bytes.toNat hzero
  rw [Bytes.toNat_ofNat_of_lt (by decide), Bytes.toNat_ofNat_of_lt hfits.length] at hnone
  exact hpayload (List.length_eq_zero_iff.mp hnone.symm)

theorem draft_eq (l : Layout) : l.draft = header l.totalRows 0 l.schemaBytes ++
    (l.segments.flatMap Segment.encode ++ trailer l.segments.length) := by
  rw [Layout.draft, Layout.encodeWith, List.append_assoc]

/-- A draft is not accepted at any stage if it has a segment and no payload is empty. -/
theorem endsEarly_of_draft {file : Bytes} {l : Layout} (h : Framed file l)
    (hsegments : l.segments ≠ []) (hpayload : ∀ s ∈ l.segments, s.payload ≠ []) {stage : Bytes}
    (hstage : stage <+: l.draft) : EndsEarly (Layout.parse stage) := by
  have hfits : HeaderFits l.totalRows 0 l.schemaBytes l.schema :=
    ⟨h.rows, by decide, h.schemaLength, h.schema⟩
  rw [draft_eq] at hstage
  refine endsEarly_parse hfits hstage ?_
  rintro rest rfl hrest
  obtain ⟨s, others, hs⟩ := List.exists_cons_of_ne_nil hsegments
  have hmem : s ∈ l.segments := hs ▸ List.mem_cons_self
  rw [hs, List.flatMap_cons, List.append_assoc] at hrest
  have hmissing : (rest.take 16 == trailer 0) = false :=
    beq_eq_false_iff_ne.mpr (take_ne_trailer_zero (h.segments s hmem) (hpayload s hmem) hrest)
  rw [Layout.parseBody, parseSegments, ok_bind]
  dsimp only
  rw [hmissing]
  exact ⟨.missingTrailer, rfl, .missingTrailer⟩

/-! ## Writing -/

/-- A file that is being written is never taken for a snapshot.  What is written before the number
of segments is known is a header that declares none, the segments, and the trailer; at every stage
of it, from no bytes up to all of them, every reader refuses the file as truncated or for a missing
trailer.  The number of segments, written at byte 20, makes it the file of a header that declares
them, the segments and the trailer.  That is what is left at the path, and it is read and loaded.
The number of rows is a machine word. -/
theorem draft_refused_until_finished {g : Guess} {limit : Nat} {p : Path} {b : Batch}
    {d d' : Directory} {summary : Summary} (hrows : b.rows < 2 ^ 64) (hlimit : limit ≤ chunkLimit)
    (h : writeFile g limit p b d = (d', .ok summary)) :
    ∃ l : Layout, Layout.ofBatch g limit b = .ok l ∧
      l.draft = header b.rows 0 (Wire.encodeSchema b.schema) ++
        ((l.segments.flatMap fun s => s.header ++ s.payload) ++ trailer l.segments.length) ∧
      (∀ stage, stage <+: l.draft →
        (∃ e, e.Unfinished ∧ Layout.parse stage = .error e) ∧
          ∃ e, e.Unfinished ∧ RefusedWith stage e) ∧
      l.draft.overwrite 20 (Bytes.ofNat 8 l.segments.length) = l.encode ∧
      l.encode = header b.rows l.segments.length (Wire.encodeSchema b.schema) ++
        ((l.segments.flatMap fun s => s.header ++ s.payload) ++ trailer l.segments.length) ∧
      d'.read p = .ok l.encode ∧ Layout.parse l.encode = .ok l ∧ read l.encode = .ok l ∧
      ∃ b', load l.encode b.schema = .ok b' := by
  obtain ⟨l, place, hlayout, hspot, hfile⟩ := writeFile_ok h
  have hbound : limit < 2 ^ 31 := Nat.lt_of_le_of_lt hlimit (by decide)
  obtain ⟨hl, hschema, hsum, -, chunks, hchunks, -⟩ := layout_ofBatch hrows hbound hlayout
  obtain ⟨hsplit, htotal, hbytes⟩ := ofBatch_ok hlayout
  obtain ⟨hcovers, hsegments, -⟩ := split_ok hsplit
  have hearly : ∀ stage, stage <+: l.draft → EndsEarly (Layout.parse stage) :=
    fun stage => endsEarly_of_draft hl.toFramed hsegments (covers_payload hcovers)
  have hcompatible : Compatible b.schema l.schema := hschema ▸ compatible_declared b.schema
  obtain ⟨b', hload, -⟩ := load_of_holds hsum hcompatible hchunks
  refine ⟨l, hlayout, ?_, fun stage hstage => ⟨?_, ?_⟩, finish_draft l, ?_,
    Directory.read_of_spot hspot hfile, parse_ok_iff.mpr hl, read_ok_iff.mpr hl, b', ?_⟩
  · rw [draft_eq, htotal, hbytes]
    rfl
  · obtain ⟨e, hparse, he⟩ := hearly stage hstage
    exact ⟨e, he, hparse⟩
  · exact refused_of_endsEarly (hearly stage hstage)
  · rw [encode_split, htotal, hbytes]
    rfl
  · rw [load_of_layout hl, hload]

theorem split_twoFlags :
    split oneByOne 4096 twoFlags = .ok [flagSegment 0 1, flagSegment 1 1] := by
  decide +kernel

theorem ofBatch_twoFlags : Layout.ofBatch oneByOne 4096 twoFlags = .ok (halves 1) := by
  rw [Layout.ofBatch, split_twoFlags]
  rfl

/-- The draft of the two flags, cut behind its first segment. -/
theorem draft_halves : (halves 1).draft = header 2 0 (Wire.encodeSchema flags) ++
    (flagSegment 0 1).encode ++ ((flagSegment 1 1).encode ++ trailer 2) := by
  have hsegments : (halves 1).segments.flatMap Segment.encode =
      (flagSegment 0 1).encode ++ (flagSegment 1 1).encode := by
    simp [halves, flagFile]
  rw [draft_eq, hsegments]
  simp only [List.append_assoc]
  rfl

/-- Two rows in two segments: the draft is refused behind its first segment and with its trailer.
A batch without rows: the draft agrees with its header on the rows from the start, and is refused
up to its last byte. -/
theorem draft_refused_until_finished_twoFlags :
    twoFlags.rows < 2 ^ 64 ∧ (Batch.empty flags).rows < 2 ^ 64 ∧ 4096 ≤ chunkLimit ∧
    (∃ d' summary, writeFile oneByOne 4096 (.ofPlace ["flags"]) twoFlags .empty =
        (d', .ok summary) ∧
      (∃ e, e.Unfinished ∧
        RefusedWith (header 2 0 (Wire.encodeSchema flags) ++ (flagSegment 0 1).encode) e) ∧
      (∃ e, e.Unfinished ∧ RefusedWith (halves 1).draft e) ∧
      d'.read (.ofPlace ["flags"]) = .ok (halves 1).encode ∧
      read (halves 1).encode = .ok (halves 1)) ∧
    ∃ d' summary l, writeFile oneByOne 4096 (.ofPlace ["none"]) (.empty flags) .empty =
        (d', .ok summary) ∧
      (∃ e, e.Unfinished ∧ RefusedWith l.draft e) ∧ (∃ e, e.Unfinished ∧ RefusedWith [] e) ∧
      d'.read (.ofPlace ["none"]) = .ok l.encode ∧ read l.encode = .ok l := by
  have hrows : twoFlags.rows < 2 ^ 64 := by decide
  have hnone : (Batch.empty flags).rows < 2 ^ 64 := by decide
  have hlimit : 4096 ≤ chunkLimit := by decide
  refine ⟨hrows, hnone, hlimit, ?_, ?_⟩
  · have hdone :
        (writeFile oneByOne 4096 (.ofPlace ["flags"]) twoFlags .empty).2.isOk = true := by
      decide +kernel
    obtain ⟨d', summary, hwrite⟩ := exists_of_isOk hdone
    obtain ⟨l, hlayout, hdraft, hrefused, -, -, hpath, -, hread, -⟩ :=
      draft_refused_until_finished hrows hlimit hwrite
    obtain rfl : halves 1 = l := Except.ok.inj (ofBatch_twoFlags.symm.trans hlayout)
    have hbehind : header 2 0 (Wire.encodeSchema flags) ++ (flagSegment 0 1).encode <+:
        (halves 1).draft := ⟨_, draft_halves.symm⟩
    exact ⟨d', summary, hwrite, (hrefused _ hbehind).2, (hrefused _ List.prefix_rfl).2, hpath,
      hread⟩
  · have hdone :
        (writeFile oneByOne 4096 (.ofPlace ["none"]) (.empty flags) .empty).2.isOk = true := by
      decide +kernel
    obtain ⟨d', summary, hwrite⟩ := exists_of_isOk hdone
    obtain ⟨l, -, -, hrefused, -, -, hpath, -, hread, -⟩ :=
      draft_refused_until_finished hnone hlimit hwrite
    exact ⟨d', summary, l, hwrite, (hrefused _ List.prefix_rfl).2, (hrefused [] List.nil_prefix).2,
      hpath, hread⟩

end Columnar.Snapshot

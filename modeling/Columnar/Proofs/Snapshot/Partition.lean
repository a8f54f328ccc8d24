/-
# `Proofs.Snapshot.Partition` — the segments of a file partition the rows

What a file says about itself after a save: every chunk is the stream of a
range of rows and no longer than the limit, and the ranges put one behind the
other are the rows of the batch in their order.  The ranges come with the
segments of a split (`rangesFrom`, `covers_ranges`); what the file says about the
segments is found at their places (`contents_finds`), so the two are put
together chunk by chunk.
-/
import Columnar.Proofs.Snapshot.Contents
import Columnar.Proofs.Snapshot.RoundTrip

namespace Columnar.Snapshot

/-! ## Ranges of rows -/

/-- The ranges of rows of segments, the first of which begins at a given row: where each begins,
and how many rows it has. -/
def rangesFrom : (offset : Nat) → List Segment → List (Nat × Nat)
  | _, [] => []
  | offset, s :: rest => (offset, s.rows) :: rangesFrom (offset + s.rows) rest

theorem ranges_rows : ∀ (segments : List Segment) (offset : Nat),
    (rangesFrom offset segments).map Prod.snd = segments.map Segment.rows
  | [], _ => rfl
  | s :: rest, offset => by rw [rangesFrom, List.map_cons, ranges_rows rest, List.map_cons]

section
variable {g : Guess} {limit : Nat} {b : Batch}

/-- Segments that cover a batch are those of their ranges. -/
theorem covers_ranges : ∀ {segments : List Segment} {offset : Nat}, Covers b limit offset segments →
    List.Forall₂ (fun s r => s = segmentOf b r.1 r.2) segments (rangesFrom offset segments)
  | [], _, _ => .nil
  | _ :: _, _, ⟨hs, _, _, _, hrest⟩ => .cons hs (covers_ranges hrest)

/-- The ranges of segments that cover a batch follow each other to the last row. -/
theorem covers_rows_in_order : ∀ {segments : List Segment} {offset : Nat},
    Covers b limit offset segments →
      (rangesFrom offset segments).flatMap (fun r => List.range' r.1 r.2) =
        List.range' offset (b.rows - offset)
  | [], offset, h => by
      have hend : offset = b.rows := h
      rw [hend, Nat.sub_self]
      rfl
  | s :: rest, offset, ⟨_, _, hfit, hoffset, hrest⟩ => by
      have hsplit : b.rows - offset = s.rows + (b.rows - (offset + s.rows)) := by omega
      rw [rangesFrom, List.flatMap_cons, covers_rows_in_order hrest, hsplit, List.range'_append_1]

/-- Every segment of a batch with rows has rows. -/
theorem splitFrom_pos (hrows : 0 < b.rows) : ∀ {bound offset : Nat} {done segments : List Segment},
    splitFrom g limit b bound offset done = .ok segments → (done = [] → offset < b.rows) →
      (∀ s ∈ done, 0 < s.rows) → ∀ s ∈ segments, 0 < s.rows
  | 0, _, done, segments, h, _, hdone => by
      cases h
      exact fun s hs => hdone s (List.mem_reverse.mp hs)
  | bound + 1, offset, done, segments, h, hstart, hdone => by
      rcases splitFrom_cases h with ⟨s, hmore, hnext, hrest⟩ | ⟨e, -, -, he⟩ | ⟨-, -, hall⟩
      · obtain ⟨-, -, -, hpos⟩ := nextSegment_ok hnext
        exact splitFrom_pos hrows hrest (fun hnil => absurd hnil (List.cons_ne_nil s done))
          (List.forall_mem_cons.mpr ⟨hpos (hmore.elim hstart id), hdone⟩)
      · cases he
      · cases hall
        exact fun s hs => hdone s (List.mem_reverse.mp hs)

/-- The segments of a batch are those of ranges that partition its rows.  No range is empty but the
one of a batch without rows. -/
theorem split_partition {segments : List Segment} (h : split g limit b = .ok segments) :
    List.Forall₂ (fun s r => s = segmentOf b r.1 r.2) segments (rangesFrom 0 segments) ∧
      (rangesFrom 0 segments).flatMap (fun r => List.range' r.1 r.2) = List.range b.rows ∧
      (0 < b.rows → ∀ r ∈ rangesFrom 0 segments, 0 < r.2) ∧
      (b.rows = 0 → rangesFrom 0 segments = [(0, 0)]) := by
  obtain ⟨hcovers, hne, hcount⟩ := split_ok h
  refine ⟨covers_ranges hcovers, ?_, fun hrows r hr => ?_, fun hrows => ?_⟩
  · rw [covers_rows_in_order hcovers, List.range_eq_range', Nat.sub_zero]
  · have hmem : r.2 ∈ segments.map Segment.rows := by
      rw [← ranges_rows segments 0]
      exact List.mem_map_of_mem hr
    obtain ⟨s, hs, hsame⟩ := List.mem_map.mp hmem
    rw [← hsame]
    exact splitFrom_pos hrows (splitFrom_of_split h) (fun _ => hrows)
      (fun s hs => absurd hs List.not_mem_nil) s hs
  · rw [hrows, Nat.max_eq_left (Nat.zero_le 1)] at hcount
    obtain ⟨s, rest, rfl⟩ := List.exists_cons_of_ne_nil hne
    obtain rfl := List.length_eq_zero_iff.mp (Nat.le_zero.mp (Nat.le_of_succ_le_succ hcount))
    obtain ⟨-, -, hfit, -⟩ := hcovers
    rw [hrows] at hfit
    rw [rangesFrom, rangesFrom, Nat.le_zero.mp hfit]

end

/-! ## Chunks -/

/-- What a file says about a chunk that is the stream of a range of rows. -/
structure SegmentInfo.OfRange (b : Batch) (limit : Nat) (file : Bytes) (i : SegmentInfo)
    (range : Nat × Nat) : Prop where
  rows : i.rows = range.2
  payload : i.payload file = encodeRange b range.1 range.2
  length : i.length = (encodeRange b range.1 range.2).length
  within : i.length ≤ limit
  checksum : i.checksum = Columnar.checksum (i.payload file)

theorem SegmentInfo.Finds.ofRange {b : Batch} {limit : Nat} {file : Bytes} {i : SegmentInfo}
    {s : Segment} {r : Nat × Nat} (h : i.Finds file s) (hs : s = segmentOf b r.1 r.2)
    (hle : s.payload.length ≤ limit) : i.OfRange b limit file r := by
  subst hs
  exact
    { rows := h.rows
      payload := h.payload
      length := h.length
      within := h.length ▸ hle
      checksum := by rw [h.payload, h.checksum, segmentOf] }

/-- Chunks that are found to be segments are of the ranges of the segments. -/
theorem ofRange_of_finds {b : Batch} {limit : Nat} {file : Bytes} {contents : List SegmentInfo}
    {segments : List Segment} (hfinds : List.Forall₂ (SegmentInfo.Finds file) contents segments) :
    ∀ {ranges : List (Nat × Nat)},
      List.Forall₂ (fun s r => s = segmentOf b r.1 r.2) segments ranges →
      (∀ s ∈ segments, s.payload.length ≤ limit) →
        List.Forall₂ (SegmentInfo.OfRange b limit file) contents ranges := by
  induction hfinds with
  | nil =>
      intro ranges hranges _
      cases hranges
      exact .nil
  | cons hfirst _ ih =>
      intro ranges hranges hle
      cases hranges with
      | cons hs hrest =>
          obtain ⟨hlength, hle⟩ := List.forall_mem_cons.mp hle
          exact .cons (hfirst.ofRange hs hlength) (ih hrest hle)

/-- The longest chunk is no longer than all of them are. -/
theorem longest_le {chunks : List SegmentInfo} {n : Nat} (h : ∀ i ∈ chunks, i.length ≤ n) :
    longest chunks ≤ n := by
  have hgen : ∀ {chunks : List SegmentInfo} {m : Nat}, m ≤ n → (∀ i ∈ chunks, i.length ≤ n) →
      chunks.foldl (fun m i => max m i.length) m ≤ n := by
    intro chunks
    induction chunks with
    | nil => intro m hm _; exact hm
    | cons i rest ih =>
        intro m hm h
        obtain ⟨hi, hrest⟩ := List.forall_mem_cons.mp h
        exact ih (Nat.max_le.mpr ⟨hm, hi⟩) hrest
  exact hgen (Nat.zero_le n) h

theorem forall_of_ofRange {b : Batch} {limit : Nat} {file : Bytes} {contents : List SegmentInfo}
    {ranges : List (Nat × Nat)} (h : List.Forall₂ (SegmentInfo.OfRange b limit file) contents ranges) :
    ∀ i ∈ contents, i.length ≤ limit := by
  induction h with
  | nil => exact fun i hi => absurd hi List.not_mem_nil
  | cons hfirst _ ih => exact List.forall_mem_cons.mpr ⟨hfirst.within, ih⟩

/-! ## Files -/

theorem info_of_read {d : Directory} {p : Path} {file : Bytes} {l : Layout} (hl : HasLayout file l)
    (hread : d.read p = .ok file) : info d p = .ok (l.info file.length) := by
  rw [info, inspect, hread, Failure.ofFile, Except.mapError, ok_bind, read_ok_iff.mpr hl]
  rfl

/-- A save that succeeds leaves a file whose chunks partition the rows of the batch and respect the
limit.  What the file says about itself is this: each chunk is the stream of a range of rows, at most
as long as the limit, and its checksum is that of its payload; the ranges are the rows of the batch,
from the first to the last, in their order, each row once; no range is empty unless the batch is,
and then there is one; and the chunks are numbered from 0 on.  The summary of the save says of the
file what the file says of itself.  The number of rows is a machine word. -/
theorem save_partitions {g : Guess} {limit : Nat} {p : Path} {b : Batch} {d d' : Directory}
    {summary : Summary} (hrows : b.rows < 2 ^ 64)
    (h : saveWith g limit p b d = (d', .ok summary)) :
    ∃ file information ranges, d'.read p = .ok file ∧ info d' p = .ok information ∧
      List.Forall₂ (SegmentInfo.OfRange b limit file) information.chunks ranges ∧
      ranges.flatMap (fun r => List.range' r.1 r.2) = List.range b.rows ∧
      (0 < b.rows → ∀ r ∈ ranges, 0 < r.2) ∧ (b.rows = 0 → ranges = [(0, 0)]) ∧
      information.chunks.map SegmentInfo.index = List.range information.chunkCount ∧
      information.largestChunk ≤ limit ∧
      summary.rows = b.rows ∧ information.totalRows = b.rows ∧
      summary.chunks = information.chunks.length ∧
      information.chunkCount = information.chunks.length ∧
      summary.bytesWritten = file.length ∧ information.fileSize = file.length := by
  obtain ⟨hlimit, l, hlayout, hread⟩ := save_ok h
  obtain ⟨hl, -, -, htotal, -⟩ := layout_ofBatch hrows hlimit hlayout
  obtain ⟨hsplit, -, -⟩ := ofBatch_ok hlayout
  obtain ⟨hsegments, horder, hpos, hempty⟩ := split_partition hsplit
  obtain ⟨hcovers, -, -⟩ := split_ok hsplit
  have hchunks : List.Forall₂ (SegmentInfo.OfRange b limit l.encode) l.contents
      (rangesFrom 0 l.segments) :=
    ofRange_of_finds (contents_finds l) hsegments fun s hs => (covers_le hcovers s hs).1
  have hsummary := save_summary h hlayout
  subst hsummary
  refine ⟨l.encode, l.info l.encode.length, rangesFrom 0 l.segments, hread, info_of_read hl hread,
    hchunks, horder, hpos, hempty, ?_, longest_le (forall_of_ofRange hchunks), htotal, htotal,
    (length_contents l).symm, (length_contents l).symm, rfl, rfl⟩
  rw [List.range_eq_range']
  exact describe_indices l.segments 0 _

/-- Two rows in a segment each: the ranges put together are both rows, and the file says two. -/
theorem save_partitions_twoFlags : twoFlags.rows < 2 ^ 64 ∧
    ∃ d' summary, saveWith oneByOne 4096 (.ofPlace ["flags"]) twoFlags .empty = (d', .ok summary) ∧
      ∃ file information ranges, info d' (.ofPlace ["flags"]) = .ok information ∧
        List.Forall₂ (SegmentInfo.OfRange twoFlags 4096 file) information.chunks ranges ∧
        ranges.flatMap (fun r => List.range' r.1 r.2) = [0, 1] ∧ (∀ r ∈ ranges, 0 < r.2) ∧
        information.largestChunk ≤ 4096 ∧ summary.rows = 2 ∧
        summary.bytesWritten = information.fileSize := by
  have hrows : twoFlags.rows < 2 ^ 64 := by decide
  obtain ⟨d', summary, hsave⟩ := saved_twoFlags
  obtain ⟨file, information, ranges, -, hinfo, hchunks, horder, hpos, -, -, hlargest, hsummary, -, -,
    -, hbytes, hsize⟩ := save_partitions hrows hsave
  exact ⟨hrows, d', summary, hsave, file, information, ranges, hinfo, hchunks, horder,
    hpos (by decide), hlargest, hsummary, hbytes.trans hsize.symm⟩

end Columnar.Snapshot

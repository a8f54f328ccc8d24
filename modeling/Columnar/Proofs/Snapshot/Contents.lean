/-
# `Proofs.Snapshot.Contents` — what a file says about its segments

The contents of a file list its segments with their places.  In the file of
any segments each place is where the payload was written, and from the
contents and the payloads at those places the file is written again, byte for
byte.  Both come from one walk along the segments: `describe` begins where
the bytes in front of them end (`describe_slices`), and it never looks back
(`describe_bounds`, `describe_pairwise`).
-/
import Columnar.Proofs.Snapshot.Layout

namespace Columnar.Snapshot

/-! ## One segment -/

/-- What stands in front of the payload. -/
def SegmentInfo.header (i : SegmentInfo) : Bytes :=
  Bytes.ofNat 8 i.rows ++ Bytes.ofNat 8 i.length ++ Bytes.ofNat 8 i.checksum.toNat

/-- The bytes of a file that are described as the payload. -/
def SegmentInfo.payload (i : SegmentInfo) (file : Bytes) : Bytes := (file.drop i.place).take i.length

/-- The description is that of the segment, and its place in the file is that of the payload. -/
structure SegmentInfo.Finds (file : Bytes) (i : SegmentInfo) (s : Segment) : Prop where
  rows : i.rows = s.rows
  length : i.length = s.payload.length
  checksum : i.checksum = s.checksum
  payload : i.payload file = s.payload

theorem length_segmentHeader (s : Segment) : s.header.length = 24 := by
  simp only [Segment.header, List.length_append, Bytes.length_ofNat]

theorem length_segment (s : Segment) : s.encode.length = 24 + s.payload.length := by
  rw [Segment.encode, List.length_append, length_segmentHeader]

theorem SegmentInfo.Finds.encode {file : Bytes} {i : SegmentInfo} {s : Segment} (h : i.Finds file s) :
    i.header ++ i.payload file = s.encode := by
  rw [h.payload, SegmentInfo.header, h.rows, h.length, h.checksum]
  rfl

/-! ## All segments -/

/-- Segments are described in the order in which they stand in the file, and found there. -/
theorem describe_slices : ∀ (segments : List Segment) (front rest : Bytes) (index : Nat),
    List.Forall₂ (SegmentInfo.Finds (front ++ (segments.flatMap Segment.encode ++ rest)))
      (describe index front.length segments) segments
  | [], _, _, _ => .nil
  | s :: others, front, rest, index => by
      have hfile : front ++ ((s :: others).flatMap Segment.encode ++ rest) =
          (front ++ s.header) ++ (s.payload ++ (others.flatMap Segment.encode ++ rest)) := by
        simp only [List.flatMap_cons, Segment.encode, List.append_assoc]
      have hplace : (front ++ s.header).length = front.length + 24 := by
        rw [List.length_append, length_segmentHeader]
      refine .cons ⟨rfl, rfl, rfl, ?_⟩ ?_
      · rw [SegmentInfo.payload, hfile, ← hplace, List.drop_left]
        exact List.take_left
      · have ih := describe_slices others (front ++ s.encode) rest (index + 1)
        rw [List.length_append, length_segment, ← Nat.add_assoc, List.append_assoc] at ih
        rw [List.flatMap_cons, List.append_assoc]
        exact ih

theorem describe_indices : ∀ (segments : List Segment) (index place : Nat),
    (describe index place segments).map SegmentInfo.index = List.range' index segments.length
  | [], _, _ => rfl
  | s :: rest, index, place => by
      rw [describe, List.map_cons, describe_indices rest, List.length_cons, List.range'_succ]

/-- The payloads lie between the place where the segments begin and the place where they end. -/
theorem describe_bounds : ∀ (segments : List Segment) (index place : Nat),
    ∀ i ∈ describe index place segments, place ≤ i.place ∧
      i.place + i.length ≤ place + (segments.flatMap Segment.encode).length
  | [], _, _, _, h => absurd h List.not_mem_nil
  | s :: rest, index, place, i, h => by
      rw [List.flatMap_cons, List.length_append, length_segment]
      rcases List.mem_cons.mp h with rfl | h
      · dsimp only
        omega
      · have ih := describe_bounds rest _ _ i h
        omega

/-- A payload ends before the next ones begin. -/
theorem describe_pairwise : ∀ (segments : List Segment) (index place : Nat),
    (describe index place segments).Pairwise fun i j => i.place + i.length ≤ j.place
  | [], _, _ => .nil
  | _ :: rest, _, _ =>
      .cons (fun j hj => (describe_bounds rest _ _ j hj).1) (describe_pairwise rest _ _)

/-! ## Files -/

theorem length_header (totalRows count : Nat) (schemaBytes : Bytes) :
    (header totalRows count schemaBytes).length = leastLength - 16 + schemaBytes.length := by
  simp only [header, List.length_append, Bytes.length_ofNat, show magic.length = 8 from rfl,
    show leastLength = 52 from rfl]

/-- The schema bytes stand at the end of the header. -/
theorem schema_slice_header (totalRows count : Nat) (schemaBytes rest : Bytes) :
    ((header totalRows count schemaBytes ++ rest).drop (leastLength - 16)).take schemaBytes.length =
      schemaBytes := by
  have hfile : header totalRows count schemaBytes ++ rest =
      (magic ++ Bytes.ofNat 4 formatVersion ++ Bytes.ofNat 8 totalRows ++ Bytes.ofNat 8 count ++
        Bytes.ofNat 8 schemaBytes.length) ++ (schemaBytes ++ rest) := by
    rw [header, List.append_assoc]
  have hplace : (magic ++ Bytes.ofNat 4 formatVersion ++ Bytes.ofNat 8 totalRows ++
      Bytes.ofNat 8 count ++ Bytes.ofNat 8 schemaBytes.length).length = leastLength - 16 := by
    simp only [List.length_append, Bytes.length_ofNat, show magic.length = 8 from rfl,
      show leastLength = 52 from rfl]
  rw [hfile, ← hplace, List.drop_left, List.take_left]

theorem encode_split (l : Layout) : l.encode =
    header l.totalRows l.segments.length l.schemaBytes ++
      (l.segments.flatMap Segment.encode ++ trailer l.segments.length) := by
  rw [Layout.encode, Layout.encodeWith, List.append_assoc]

theorem length_contents (l : Layout) : l.contents.length = l.segments.length := by
  have h := congrArg List.length (describe_indices l.segments 0 (leastLength - 16 + l.schemaBytes.length))
  rw [List.length_map, List.length_range'] at h
  exact h

/-- Every segment is found where the contents say. -/
theorem contents_finds (l : Layout) :
    List.Forall₂ (SegmentInfo.Finds l.encode) l.contents l.segments := by
  have h := describe_slices l.segments (header l.totalRows l.segments.length l.schemaBytes)
    (trailer l.segments.length) 0
  rw [length_header, ← encode_split] at h
  exact h

/-- Described segments are written as the segments. -/
theorem flatMap_of_finds {file : Bytes} {contents : List SegmentInfo} {segments : List Segment}
    (h : List.Forall₂ (SegmentInfo.Finds file) contents segments) :
    (contents.flatMap fun i => i.header ++ i.payload file) = segments.flatMap Segment.encode := by
  induction h with
  | nil => rfl
  | cons hfirst _ ih => rw [List.flatMap_cons, List.flatMap_cons, hfirst.encode, ih]

/-- A look at the length first refuses nothing that is a snapshot. -/
theorem parse_iff_read {file : Bytes} {l : Layout} :
    Layout.parse file = .ok l ↔ read file = .ok l := parse_ok_iff.trans read_ok_iff.symm

/-- Writing and reading the format are inverse.  The file of any segments, under any schema bytes
that say a schema, is read, and its contents list just these segments in their order, each with
the place where its payload is.  Every file that is read is written again from what was read and
from the payloads at their places, which lie inside of the file one behind the other.  And no file
that is read is too short for the look at its length. -/
theorem codec_inverse :
    (∀ (totalRows : Nat) (schemaBytes : Bytes) (schema : DeclaredSchema) (segments : List Segment),
      Wire.decodeSchema? schemaBytes = some schema → schemaBytes.length < 2 ^ 64 →
      segments.length < 2 ^ 64 → (∀ s ∈ segments, s.Fits) →
      (segments.map Segment.rows).sum = totalRows → totalRows < 2 ^ 64 →
      ∀ file, file = header totalRows segments.length schemaBytes ++
        ((segments.flatMap fun s => s.header ++ s.payload) ++ trailer segments.length) →
      ∃ l, Layout.parse file = .ok l ∧ l.totalRows = totalRows ∧ l.schemaBytes = schemaBytes ∧
        l.schema = schema ∧ l.contents.map SegmentInfo.index = List.range segments.length ∧
        List.Forall₂ (SegmentInfo.Finds file) l.contents segments) ∧
    (∀ file l, Layout.parse file = .ok l →
      file = header l.totalRows l.contents.length l.schemaBytes ++
        ((l.contents.flatMap fun i => i.header ++ i.payload file) ++ trailer l.contents.length) ∧
      (file.drop (leastLength - 16)).take l.schemaBytes.length = l.schemaBytes ∧
      (∀ i ∈ l.contents, i.place + i.length ≤ file.length) ∧
      l.contents.Pairwise fun i j => i.place + i.length ≤ j.place) ∧
    ∀ file l, Layout.parse file = .ok l → leastLength ≤ file.length ∧ read file = .ok l := by
  refine ⟨?_, ?_, ?_⟩
  · intro totalRows schemaBytes schema segments hschema hlength hcount hfits hsum htotal file hfile
    let l : Layout := ⟨totalRows, schemaBytes, schema, segments⟩
    have hbytes : file = l.encode := hfile.trans (encode_split l).symm
    have hl : HasLayout file l :=
      { bytes := hbytes
        rows := htotal
        count := hcount
        schemaLength := hlength
        segments := hfits
        schema := hschema
        total := (rowSum_eq (hsum.symm ▸ htotal)).trans hsum }
    refine ⟨l, parse_ok_iff.mpr hl, rfl, rfl, rfl, ?_, ?_⟩
    · rw [List.range_eq_range']
      exact describe_indices segments 0 _
    · rw [hbytes]
      exact contents_finds l
  · intro file l h
    have hbytes := (parse_ok_iff.mp h).bytes
    have hfinds := contents_finds l
    rw [← hbytes] at hfinds
    have hsplit := hbytes.trans (encode_split l)
    refine ⟨?_, ?_, ?_, describe_pairwise _ _ _⟩
    · rw [flatMap_of_finds hfinds, length_contents]
      exact hsplit
    · rw [hsplit]
      exact schema_slice_header _ _ _ _
    · intro i hi
      obtain ⟨-, hend⟩ := describe_bounds _ _ _ i hi
      rw [hsplit, List.length_append, List.length_append, length_header]
      omega
  · intro file l h
    refine ⟨?_, parse_iff_read.mp h⟩
    rw [(parse_ok_iff.mp h).bytes]
    exact leastLength_le_encode l

/-- Two segments, the second one without a payload. -/
def twoSegments : List Segment := [⟨1, 7, [1, 2, 3]⟩, ⟨2, 0, []⟩]

/-- The file of the two segments under a schema of one column. -/
def twoSegmentsFile : Bytes :=
  header 3 2 (Wire.encodeSchema [⟨"flag", .bool, true⟩]) ++
    ((twoSegments.flatMap fun s => s.header ++ s.payload) ++ trailer 2)

/-- The file of two segments is read, and written again from its contents. -/
theorem codec_inverse_twoSegments : (∀ s ∈ twoSegments, s.Fits) ∧
    (twoSegments.map Segment.rows).sum = 3 ∧
    ∃ l, Layout.parse twoSegmentsFile = .ok l ∧ l.contents.map SegmentInfo.index = [0, 1] ∧
      List.Forall₂ (SegmentInfo.Finds twoSegmentsFile) l.contents twoSegments ∧
      twoSegmentsFile = header l.totalRows l.contents.length l.schemaBytes ++
        ((l.contents.flatMap fun i => i.header ++ i.payload twoSegmentsFile) ++
          trailer l.contents.length) ∧
      read twoSegmentsFile = .ok l := by
  have hlength : (Wire.encodeSchema [⟨"flag", .bool, true⟩]).length < 2 ^ 31 := by decide +kernel
  have hfits : ∀ s ∈ twoSegments, s.Fits := by
    intro s hs
    rcases List.mem_cons.mp hs with rfl | hs
    · exact ⟨by decide, by decide⟩
    · obtain rfl := List.mem_singleton.mp hs
      exact ⟨by decide, by decide⟩
  obtain ⟨l, hparse, -, -, -, hindices, hfinds⟩ := codec_inverse.1 3 _ _ twoSegments
    (Wire.decodeSchema_encodeSchema hlength) (Nat.lt_trans hlength (by decide)) (by decide) hfits rfl
    (by decide) twoSegmentsFile rfl
  exact ⟨hfits, rfl, l, hparse, hindices, hfinds, (codec_inverse.2.1 _ l hparse).1,
    (codec_inverse.2.2 _ l hparse).2⟩

end Columnar.Snapshot

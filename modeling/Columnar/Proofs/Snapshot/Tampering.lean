/-
# `Proofs.Snapshot.Tampering` — altered payloads

Bytes of payloads may change in a file, any number of them and to any values
(`Altered`).  What the file says about itself stands outside of the payloads,
so it stays.  The altered file has a layout with the same segments but for
their payloads (`layout_of_altered`), found by one walk along the segments:
payload by payload the altered bytes are taken over, and what is left to
compare differs only further behind.  Loading then stops at the first chunk
whose payload no longer has its checksum, and does not look behind it.
-/
import Columnar.Proofs.Snapshot.Partition

namespace Columnar.Snapshot

/-! ## Altered files -/

/-- A file of the same length that differs in payloads of the chunks only. -/
structure Altered (chunks : List SegmentInfo) (file file' : Bytes) : Prop where
  length : file'.length = file.length
  outside : ∀ k, (∀ i ∈ chunks, k < i.place ∨ i.place + i.length ≤ k) → file'[k]? = file[k]?

theorem altered_nil_iff {file file' : Bytes} : Altered [] file file' ↔ file' = file := by
  constructor
  · intro h
    exact List.ext_getElem? fun k => h.outside k fun i hi => absurd hi List.not_mem_nil
  · rintro rfl
    exact ⟨rfl, fun _ _ => rfl⟩

/-- The altered bytes of the first payload are taken over; what is left differs behind them. -/
theorem Altered.tail {front payload rest file' : Bytes} {i : SegmentInfo}
    {chunks : List SegmentInfo} (h : Altered (i :: chunks) (front ++ (payload ++ rest)) file')
    (hplace : i.place = front.length) (hlength : i.length = payload.length) :
    (i.payload file').length = payload.length ∧
      Altered chunks (front ++ (i.payload file' ++ rest)) file' := by
  have hsize : (i.payload file').length = payload.length := by
    have := h.length
    simp only [List.length_append] at this
    rw [SegmentInfo.payload, List.length_take, List.length_drop, hplace, hlength]
    omega
  refine ⟨hsize, ⟨?_, fun k hk => ?_⟩⟩
  · rw [h.length]
    simp only [List.length_append, hsize]
  · rcases Nat.lt_or_ge k front.length with hfront | hfront
    · have hsame := h.outside k (List.forall_mem_cons.mpr ⟨.inl (hplace ▸ hfront), hk⟩)
      rw [hsame, List.getElem?_append_left hfront, List.getElem?_append_left hfront]
    · rw [List.getElem?_append_right hfront]
      rcases Nat.lt_or_ge (k - front.length) payload.length with hin | hout
      · rw [List.getElem?_append_left (hsize.symm ▸ hin), SegmentInfo.payload, hplace, hlength,
          List.getElem?_take_of_lt hin, List.getElem?_drop, Nat.add_sub_cancel' hfront]
      · have hbehind : i.place + i.length ≤ k := by omega
        have hsame := h.outside k (List.forall_mem_cons.mpr ⟨.inr hbehind, hk⟩)
        rw [hsame, List.getElem?_append_right hfront, List.getElem?_append_right hout,
          List.getElem?_append_right (hsize.symm ▸ hout), hsize]

/-! ## Altered segments -/

/-- A segment that says of its payload what another one says of its own. -/
structure Segment.Resembles (s' s : Segment) : Prop where
  rows : s'.rows = s.rows
  checksum : s'.checksum = s.checksum
  length : s'.payload.length = s.payload.length

theorem Segment.Resembles.header {s' s : Segment} (h : s'.Resembles s) : s'.header = s.header := by
  rw [Segment.header, Segment.header, h.rows, h.checksum, h.length]

/-- Segments that resemble others are described as those. -/
theorem describe_of_resembles {segments' segments : List Segment}
    (h : List.Forall₂ Segment.Resembles segments' segments) : ∀ (index place : Nat),
      describe index place segments' = describe index place segments := by
  induction h with
  | nil => exact fun _ _ => rfl
  | cons hs _ ih =>
      intro index place
      rw [describe, describe, hs.rows, hs.checksum, hs.length, ih]

theorem rows_of_resembles {segments' segments : List Segment}
    (h : List.Forall₂ Segment.Resembles segments' segments) :
    segments'.map Segment.rows = segments.map Segment.rows := by
  induction h with
  | nil => rfl
  | cons hs _ ih => rw [List.map_cons, List.map_cons, hs.rows, ih]

theorem fits_of_resembles {segments' segments : List Segment}
    (h : List.Forall₂ Segment.Resembles segments' segments) (hfits : ∀ s ∈ segments, s.Fits) :
    ∀ s' ∈ segments', s'.Fits := by
  induction h with
  | nil => exact fun s' hs' => absurd hs' List.not_mem_nil
  | cons hs _ ih =>
      obtain ⟨hfirst, hrest⟩ := List.forall_mem_cons.mp hfits
      exact List.forall_mem_cons.mpr
        ⟨⟨hs.rows ▸ hfirst.rows, hs.length ▸ hfirst.length⟩, ih hrest⟩

/-- A file that is altered in the payloads of segments is made of segments that resemble them. -/
theorem segments_of_altered : ∀ (segments : List Segment) (front rest : Bytes) {file' : Bytes}
    (index : Nat), Altered (describe index front.length segments)
      (front ++ (segments.flatMap Segment.encode ++ rest)) file' →
    ∃ segments', List.Forall₂ Segment.Resembles segments' segments ∧
      file' = front ++ (segments'.flatMap Segment.encode ++ rest)
  | [], front, rest, file', index, h => ⟨[], .nil, altered_nil_iff.mp h⟩
  | s :: others, front, rest, file', index, h => by
      let i : SegmentInfo := ⟨index, s.rows, s.payload.length, s.checksum, front.length + 24⟩
      let s' : Segment := ⟨s.rows, s.checksum, i.payload file'⟩
      have hplace : (front ++ s.header).length = front.length + 24 := by
        rw [List.length_append, length_segmentHeader]
      have hsplit : front ++ ((s :: others).flatMap Segment.encode ++ rest) =
          (front ++ s.header) ++ (s.payload ++ (others.flatMap Segment.encode ++ rest)) := by
        simp only [List.flatMap_cons, Segment.encode, List.append_assoc]
      rw [hsplit] at h
      obtain ⟨hsize, htail⟩ := Altered.tail h hplace.symm rfl
      have hs' : s'.Resembles s := ⟨rfl, rfl, hsize⟩
      have hfront : (front ++ s'.encode).length = front.length + 24 + s.payload.length := by
        rw [List.length_append, length_segment, hs'.length, Nat.add_assoc]
      have hjoin : (front ++ s.header) ++ (s'.payload ++ (others.flatMap Segment.encode ++ rest)) =
          (front ++ s'.encode) ++ (others.flatMap Segment.encode ++ rest) := by
        simp only [Segment.encode, hs'.header, List.append_assoc]
      rw [hjoin, ← hfront] at htail
      obtain ⟨others', hothers, hfile⟩ := segments_of_altered others _ rest (index + 1) htail
      refine ⟨s' :: others', .cons hs' hothers, ?_⟩
      rw [hfile]
      simp only [List.flatMap_cons, List.append_assoc]

/-- An altered file has a layout that says what the layout of the file says, and its segments
resemble those of the file. -/
theorem layout_of_altered {l : Layout} {file' : Bytes} (hl : HasLayout l.encode l)
    (h : Altered l.contents l.encode file') :
    ∃ l', HasLayout file' l' ∧ List.Forall₂ Segment.Resembles l'.segments l.segments ∧
      l'.schema = l.schema ∧ l'.contents = l.contents ∧
      l'.info file'.length = l.info l.encode.length := by
  have hlength := h.length
  rw [encode_split, Layout.contents, ← length_header l.totalRows l.segments.length] at h
  obtain ⟨segments', hsegments, hfile⟩ := segments_of_altered l.segments _ _ 0 h
  let l' : Layout := ⟨l.totalRows, l.schemaBytes, l.schema, segments'⟩
  have hcount : segments'.length = l.segments.length := hsegments.length_eq
  have hcontents : l'.contents = l.contents := describe_of_resembles hsegments 0 _
  have hl' : HasLayout file' l' :=
    { bytes := by rw [encode_split, hfile, hcount]
      rows := hl.rows
      count := hcount ▸ hl.count
      schemaLength := hl.schemaLength
      segments := fits_of_resembles hsegments hl.segments
      schema := hl.schema
      total := by
        rw [rowSum_eq_min, rows_of_resembles hsegments, ← rowSum_eq_min]
        exact hl.total }
  refine ⟨l', hl', hsegments, rfl, hcontents, ?_⟩
  rw [Layout.info, Layout.info, hlength, hcontents, hcount]

/-! ## Loading -/

/-- Chunks are numbered as they stand in the file. -/
theorem contents_index {l : Layout} {k : Nat} (hk : k < l.contents.length) :
    l.contents[k].index = k := by
  have hindices : l.contents.map SegmentInfo.index = List.range' 0 l.segments.length :=
    describe_indices l.segments 0 _
  have hsame := List.getElem_of_eq hindices ((List.length_map _).symm ▸ hk)
  rwa [List.getElem_map, List.getElem_range', Nat.zero_add, Nat.one_mul] at hsame

/-- Segments that say the same are equal if their payloads are. -/
theorem Segment.Resembles.eq {s' s : Segment} (h : s'.Resembles s) (hpayload : s'.payload = s.payload) :
    s' = s := by
  cases s'
  cases s
  cases h.rows
  cases h.checksum
  cases hpayload
  rfl

/-- Loading an altered file stops at the first chunk whose payload no longer has its checksum, if
the payloads in front of it are not altered. -/
theorem load_of_altered {l : Layout} {file' : Bytes} {expected : Schema}
    {chunks : List (List Batch)} (hl : HasLayout l.encode l)
    (hcompatible : Compatible expected l.schema)
    (hholds : List.Forall₂ (ChunkHolds l.schema) l.segments chunks)
    (h : Altered l.contents l.encode file') {i : SegmentInfo} (hi : i ∈ l.contents)
    (hbefore : ∀ j ∈ l.contents, j.index < i.index → j.payload file' = j.payload l.encode)
    (hchanged : Columnar.checksum (i.payload file') ≠ Columnar.checksum (i.payload l.encode)) :
    load file' expected = .error (.checksum i.index) := by
  obtain ⟨l', hl', hresembles, hschema, hcontents, -⟩ := layout_of_altered hl h
  obtain ⟨k, hk, rfl⟩ := List.getElem_of_mem hi
  rw [contents_index hk] at hbefore ⊢
  have hks : k < l.segments.length := length_contents l ▸ hk
  have hks' : k < l'.segments.length := hresembles.length_eq ▸ hks
  -- what is found in the two files under one description
  have hfinds : ∀ j (hj : j < l.contents.length) (hjs : j < l.segments.length),
      (l.contents[j]).Finds l.encode l.segments[j] :=
    fun j hj hjs => (contents_finds l).get hj hjs
  have hfinds' : ∀ j (hj : j < l.contents.length) (hjs : j < l'.segments.length),
      (l.contents[j]).Finds file' l'.segments[j] := by
    have hall := contents_finds l'
    rw [← hl'.bytes, hcontents] at hall
    exact fun j hj hjs => hall.get hj hjs
  have hfront : l'.segments.take k = l.segments.take k := by
    refine List.ext_getElem ?_ fun j hj' hj => ?_
    · rw [List.length_take, List.length_take, hresembles.length_eq]
    · rw [List.length_take, Nat.lt_min] at hj hj'
      have hjc : j < l.contents.length := Nat.lt_trans hj.1 hk
      have hsame := hbefore l.contents[j] (List.getElem_mem hjc) ((contents_index hjc).symm ▸ hj.1)
      rw [(hfinds j hjc hj.2).payload, (hfinds' j hjc hj'.2).payload] at hsame
      rw [List.getElem_take, List.getElem_take]
      exact (hresembles.get hj'.2 hj.2).eq hsame
  have hsplit : l'.segments = l.segments.take k ++ l'.segments[k] :: l'.segments.drop (k + 1) := by
    rw [← hfront, List.getElem_cons_drop, List.take_append_drop]
  have hfault : ChunkFault l'.schema (l.segments.take k).length l'.segments[k] (.checksum k) := by
    have hplace : (l.segments.take k).length = k := List.length_take_of_le (Nat.le_of_lt hks)
    have hintact : Columnar.checksum l.segments[k].payload = l.segments[k].checksum :=
      (hholds.get hks (hholds.length_eq ▸ hks)).intact
    have hsum : l'.segments[k].checksum = l.segments[k].checksum := (hresembles.get hks' hks).checksum
    have hdamaged : Columnar.checksum l'.segments[k].payload ≠ l'.segments[k].checksum := by
      rw [hsum, ← hintact, ← (hfinds k hk hks).payload, ← (hfinds' k hk hks').payload]
      exact hchanged
    rw [hplace]
    exact .damaged hdamaged
  rw [load_of_layout hl']
  exact load_of_fault (hschema ▸ hcompatible) hsplit (hschema ▸ List.forall₂_take k hholds) hfault

/-- Altered payloads never disturb what a file says about itself, and never reach a batch.  Take the
file that a save leaves and any file of the same length that differs from it inside of payloads
only, at any path of any directory.  Both say the same about themselves.  And if payloads are
altered, and the first chunk whose payload is has another checksum now, then loading under the
schema of the batch fails with the checksum of just this chunk, whatever is in the chunks behind it.
The number of rows is a machine word. -/
theorem altered_payloads_refused {g : Guess} {limit : Nat} {p : Path} {b : Batch} {d d' : Directory}
    {summary : Summary} (hrows : b.rows < 2 ^ 64)
    (h : saveWith g limit p b d = (d', .ok summary)) :
    ∃ file information, d'.read p = .ok file ∧ info d' p = .ok information ∧
      ∀ file', Altered information.chunks file file' →
      ∀ (d₂ : Directory) (p₂ : Path), d₂.read p₂ = .ok file' →
        info d₂ p₂ = .ok information ∧
        ∀ i ∈ information.chunks,
          (∀ j ∈ information.chunks, j.index < i.index → j.payload file' = j.payload file) →
          Columnar.checksum (i.payload file') ≠ Columnar.checksum (i.payload file) →
            fetch d₂ p₂ b.schema = .error (.format (.checksum i.index)) := by
  obtain ⟨hlimit, l, hlayout, hread⟩ := save_ok h
  obtain ⟨hl, hschema, -, -, chunks, hchunks, -⟩ := layout_ofBatch hrows hlimit hlayout
  refine ⟨l.encode, l.info l.encode.length, hread, info_of_read hl hread,
    fun file' haltered d₂ p₂ hread₂ => ⟨?_, fun i hi hbefore hchanged => ?_⟩⟩
  · obtain ⟨l', hl', -, -, -, hinfo⟩ := layout_of_altered hl haltered
    rw [info_of_read hl' hread₂, hinfo]
  · have hcompatible : Compatible b.schema l.schema := hschema ▸ compatible_declared b.schema
    have hload := load_of_altered hl hcompatible hchunks haltered hi hbefore hchanged
    rw [fetch, hread₂]
    exact congrArg Failure.ofFormat hload

/-- The file with one bit of the first byte of a payload turned. -/
def flipped (i : SegmentInfo) (file : Bytes) : Bytes :=
  file.set i.place (file.getD i.place 0 ^^^ 1)

theorem altered_flipped {chunks : List SegmentInfo} {i : SegmentInfo} (hi : i ∈ chunks)
    (hlength : 0 < i.length) (file : Bytes) : Altered chunks file (flipped i file) where
  length := List.length_set
  outside k hk := by
    have hne : i.place ≠ k := by
      have := hk i hi
      omega
    exact List.getElem?_set_ne hne

/-- The two chunks of two flags, one bit of the second one turned: the file still says the same, and
is refused for its second chunk. -/
theorem altered_payloads_refused_twoFlags : twoFlags.rows < 2 ^ 64 ∧
    ∃ d' summary, saveWith oneByOne 4096 (.ofPlace ["flags"]) twoFlags .empty = (d', .ok summary) ∧
      ∃ file i, d'.read (.ofPlace ["flags"]) = .ok file ∧
        info ⟨[(["flags"], .file (flipped i file))]⟩ (.ofPlace ["flags"]) =
          info d' (.ofPlace ["flags"]) ∧
        fetch ⟨[(["flags"], .file (flipped i file))]⟩ (.ofPlace ["flags"]) twoFlags.schema =
          .error (.format (.checksum 1)) := by
  have hrows : twoFlags.rows < 2 ^ 64 := by decide
  let after := (saveWith oneByOne 4096 (.ofPlace ["flags"]) twoFlags .empty).1
  have hsecond : ((after.read (.ofPlace ["flags"])).toOption.any fun file =>
      (info after (.ofPlace ["flags"])).toOption.any fun information =>
        decide (∃ i ∈ information.chunks, i.index = 1 ∧ 0 < i.length ∧
          (∀ j ∈ information.chunks, j.index < i.index →
            j.payload (flipped i file) = j.payload file) ∧
          Columnar.checksum (i.payload (flipped i file)) ≠ Columnar.checksum (i.payload file))) =
      true := by
    decide +kernel
  obtain ⟨d', summary, hsave⟩ := saved_twoFlags
  obtain ⟨file, information, hread, hinfo, haltered⟩ := altered_payloads_refused hrows hsave
  have hafter : after = d' := congrArg Prod.fst hsave
  rw [hafter, hread, hinfo] at hsecond
  obtain ⟨i, hi, hindex, hlength, hbefore, hchanged⟩ := of_decide_eq_true hsecond
  obtain ⟨hsame, hrefused⟩ := haltered _ (altered_flipped hi hlength file)
    ⟨[(["flags"], .file (flipped i file))]⟩ (.ofPlace ["flags"]) rfl
  refine ⟨hrows, d', summary, hsave, file, i, hread, hsame.trans hinfo.symm, ?_⟩
  rw [hrefused i hi hbefore hchanged, hindex]

end Columnar.Snapshot

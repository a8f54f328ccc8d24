/-
# `Proofs.Snapshot.Walk` — reading along a file

A file is taken apart from front to back, and what has been read decides what
is read next.  So a part of a file is read just as the whole one, field by
field, until it ends; there it is refused as truncated, or, where the trailer
should be, for want of it.  The lemmas on `EndsEarly` say this of one step
each: a step over a part of a file either ends early or leaves a part of what
the same step leaves of the whole file.

`parse_header` cuts the walk in two: what follows the header is read as
`Layout.parseBody` says, whatever it is.
-/
import Columnar.Proofs.Snapshot.Contents
import Columnar.Proofs.Snapshot.Load
import Columnar.Snapshot.Store

namespace Columnar.Snapshot

/-! ## Refusals -/

/-- The errors of a file that is not complete. -/
inductive FormatError.Unfinished : FormatError → Prop
  | truncated (part : Part) : Unfinished (.truncated part)
  | missingTrailer : Unfinished .missingTrailer

/-- It fails for want of bytes. -/
def EndsEarly {α : Type} (x : Except FormatError α) : Prop := ∃ e, x = .error e ∧ e.Unfinished

theorem endsEarly_bind {α β : Type} {x : Except FormatError α} (h : EndsEarly x)
    (f : α → Except FormatError β) : EndsEarly (x >>= f) := by
  obtain ⟨e, rfl, he⟩ := h
  exact ⟨e, rfl, he⟩

/-- Whoever reads a file with this content is told the error, wherever the file is. -/
structure RefusedWith (file : Bytes) (e : FormatError) : Prop where
  read : read file = .error e
  load : ∀ expected, load file expected = .error e
  inspect : ∀ d p, d.read p = .ok file → inspect d p = .error (.format e)
  fetch : ∀ d p expected, d.read p = .ok file → fetch d p expected = .error (.format e)

theorem refusedWith_of_read {file : Bytes} {e : FormatError} (h : read file = .error e) :
    RefusedWith file e where
  read := h
  load expected := by rw [load, h]
  inspect d p hfile := by
    rw [inspect, hfile]
    change (Failure.ofFormat (Snapshot.read file) >>= _) = _
    rw [h]
    rfl
  fetch d p expected hfile := by
    rw [fetch, hfile]
    change Failure.ofFormat (Snapshot.load file expected) = _
    rw [load, h]
    rfl

/-- A file that is long enough is taken apart. -/
theorem read_eq_parse {file : Bytes} (h : leastLength ≤ file.length) :
    read file = Layout.parse file := by
  rw [read, if_neg]
  rw [List.length_take, Nat.min_eq_left h]
  exact Nat.lt_irrefl _

/-- What ends early is refused as such, by the look at its length or by the walk. -/
theorem refused_of_endsEarly {file : Bytes} (h : EndsEarly (Layout.parse file)) :
    ∃ e, e.Unfinished ∧ RefusedWith file e := by
  obtain ⟨e, hparse, he⟩ := h
  by_cases hshort : (file.take leastLength).length < leastLength
  · exact ⟨.truncated .header, .truncated .header, refusedWith_of_read (if_pos hshort)⟩
  · exact ⟨e, he, refusedWith_of_read ((if_neg hshort).trans hparse)⟩

/-! ## Steps -/

/-- A part of two pieces is less than the first one, or goes on in the second one. -/
theorem prefix_append_cases {α : Type} {short a b : List α} (h : short <+: a ++ b) :
    short.length < a.length ∨ ∃ rest, short = a ++ rest ∧ rest <+: b := by
  by_cases hlen : short.length < a.length
  · exact .inl hlen
  · obtain ⟨rest, rfl⟩ := List.prefix_of_prefix_length_le (List.prefix_append a b) h
      (Nat.le_of_not_lt hlen)
    exact .inr ⟨rest, rfl, (List.prefix_append_right_inj a).mp h⟩

section
variable {α : Type} {part : Part} {n : Nat} {short front b : Bytes}

theorem cut_append (part : Part) (h : front.length = n) (b : Bytes) :
    cut part n (front ++ b) = .ok (front, b) := cut_ok_iff.mpr ⟨rfl, h⟩

theorem cutNumber_append (part : Part) {k : Nat} (h : k < 256 ^ n) (b : Bytes) :
    cutNumber part n (Bytes.ofNat n k ++ b) = .ok (k, b) := cutNumber_ok_iff.mpr ⟨rfl, h⟩

theorem cut_short (part : Part) (h : short.length < n) :
    cut part n short = .error (.truncated part) := by
  have hlen : (short.take n).length ≠ n := by
    rw [List.length_take]
    omega
  rw [cut]
  exact if_neg hlen

theorem cutNumber_short (part : Part) (h : short.length < n) :
    cutNumber part n short = .error (.truncated part) := by
  rw [cutNumber, cut_short part h]
  rfl

theorem endsEarly_cut {f : Bytes × Bytes → Except FormatError α} (hlen : front.length = n)
    (h : short <+: front ++ b)
    (hf : ∀ rest, short = front ++ rest → rest <+: b → EndsEarly (f (front, rest))) :
    EndsEarly (cut part n short >>= f) := by
  rcases prefix_append_cases h with hshort | ⟨rest, rfl, hrest⟩
  · rw [hlen] at hshort
    exact endsEarly_bind ⟨_, cut_short part hshort, .truncated part⟩ f
  · rw [cut_append part hlen]
    exact hf rest rfl hrest

theorem endsEarly_cutNumber {f : Nat × Bytes → Except FormatError α} {k : Nat} (hk : k < 256 ^ n)
    (h : short <+: Bytes.ofNat n k ++ b)
    (hf : ∀ rest, short = Bytes.ofNat n k ++ rest → rest <+: b → EndsEarly (f (k, rest))) :
    EndsEarly (cutNumber part n short >>= f) := by
  rcases prefix_append_cases h with hshort | ⟨rest, rfl, hrest⟩
  · rw [Bytes.length_ofNat] at hshort
    exact endsEarly_bind ⟨_, cutNumber_short part hshort, .truncated part⟩ f
  · rw [cutNumber_append part hk]
    exact hf rest rfl hrest

end

/-! ## Segments -/

theorem parseSegments_succ (count : Nat) (b : Bytes) :
    parseSegments (count + 1) b = (do
      let (s, b) ← Segment.parse b
      let (rest, b) ← parseSegments count b
      return (s :: rest, b)) := by
  rw [parseSegments]
  cases Segment.parse b with
  | error e => rfl
  | ok r =>
      dsimp only
      change _ = parseSegments count r.2 >>= _
      cases parseSegments count r.2 with
      | error e => rfl
      | ok r' => rfl

theorem endsEarly_segment {α : Type} {s : Segment} {short b : Bytes}
    {f : Segment × Bytes → Except FormatError α} (hfits : s.Fits) (h : short <+: s.encode ++ b)
    (hf : ∀ rest, short = s.encode ++ rest → rest <+: b → EndsEarly (f (s, rest))) :
    EndsEarly (Segment.parse short >>= f) := by
  simp only [Segment.encode, Segment.header, List.append_assoc] at h hf
  simp only [Segment.parse, bind_assoc]
  refine endsEarly_cutNumber hfits.rows h ?_
  rintro _ rfl h
  refine endsEarly_cutNumber hfits.length h ?_
  rintro _ rfl h
  refine endsEarly_cutNumber s.checksum.toNat_lt h ?_
  rintro _ rfl h
  refine endsEarly_cut rfl h ?_
  rintro rest rfl hrest
  simp only [pure_bind, UInt64.ofNat_toNat]
  exact hf rest rfl hrest

theorem endsEarly_segments {α : Type} : ∀ {segments : List Segment} {short b : Bytes}
    {f : List Segment × Bytes → Except FormatError α}, (∀ s ∈ segments, s.Fits) →
      short <+: segments.flatMap Segment.encode ++ b →
      (∀ rest, short = segments.flatMap Segment.encode ++ rest → rest <+: b →
        EndsEarly (f (segments, rest))) →
      EndsEarly (parseSegments segments.length short >>= f)
  | [], short, b, f, _, h, hf => hf short rfl h
  | s :: others, short, b, f, hfits, h, hf => by
      rw [List.flatMap_cons, List.append_assoc] at h
      rw [List.length_cons, parseSegments_succ, bind_assoc]
      refine endsEarly_segment (hfits s List.mem_cons_self) h ?_
      rintro short' rfl h'
      simp only [bind_assoc, pure_bind]
      refine endsEarly_segments (fun s' hs' => hfits s' (List.mem_cons_of_mem s hs')) h' ?_
      rintro rest rfl hrest
      exact hf rest (by rw [List.flatMap_cons, List.append_assoc]) hrest

/-! ## Files -/

/-- Takes apart what follows a header. -/
def Layout.parseBody (totalRows count : Nat) (schemaBytes : Bytes) (schema : DeclaredSchema)
    (b : Bytes) : Except FormatError Layout := do
  let (segments, b) ← parseSegments count b
  require (b.take 16 == trailer count) .missingTrailer
  let extra := b.drop 16
  require extra.isEmpty (.trailing extra.length)
  let actual := rowSum segments
  require (actual == totalRows) (.rowCount totalRows actual)
  return ⟨totalRows, schemaBytes, schema, segments⟩

/-- The numbers of a header have room for what they say, and its schema bytes say a schema. -/
structure HeaderFits (totalRows count : Nat) (schemaBytes : Bytes) (schema : DeclaredSchema) :
    Prop where
  rows : totalRows < 2 ^ 64
  count : count < 2 ^ 64
  schemaLength : schemaBytes.length < 2 ^ 64
  schema : Wire.decodeSchema? schemaBytes = some schema

section
variable {totalRows count : Nat} {schemaBytes : Bytes} {schema : DeclaredSchema}

theorem header_append (totalRows count : Nat) (schemaBytes b : Bytes) :
    header totalRows count schemaBytes ++ b = magic ++ (Bytes.ofNat 4 formatVersion ++
      (Bytes.ofNat 8 totalRows ++ (Bytes.ofNat 8 count ++ (Bytes.ofNat 8 schemaBytes.length ++
        (schemaBytes ++ b))))) := by
  simp only [header, List.append_assoc]

/-- What follows a header is taken apart under what the header says. -/
theorem parse_header (h : HeaderFits totalRows count schemaBytes schema) (b : Bytes) :
    Layout.parse (header totalRows count schemaBytes ++ b) =
      Layout.parseBody totalRows count schemaBytes schema b := by
  have hmagic : magic.length = 8 := rfl
  have hversion : formatVersion < 256 ^ 4 := by decide
  have hrows : totalRows < 256 ^ 8 := h.rows
  have hcount : count < 256 ^ 8 := h.count
  have hlength : schemaBytes.length < 256 ^ 8 := h.schemaLength
  simp only [Layout.parse, header_append, cut_append .magic hmagic,
    cutNumber_append .version hversion, cutNumber_append .rowCount hrows,
    cutNumber_append .chunkCount hcount, cutNumber_append .schemaLength hlength,
    cut_append .schema rfl, ok_bind, h.schema, need, require, beq_self_eq_true, if_true]
  rfl

/-- A part of a file with a header ends early if whatever it has behind the header does. -/
theorem endsEarly_parse {short b : Bytes} (h : HeaderFits totalRows count schemaBytes schema)
    (hshort : short <+: header totalRows count schemaBytes ++ b)
    (hb : ∀ rest, short = header totalRows count schemaBytes ++ rest → rest <+: b →
      EndsEarly (Layout.parseBody totalRows count schemaBytes schema rest)) :
    EndsEarly (Layout.parse short) := by
  rw [header_append] at hshort
  refine endsEarly_cut rfl hshort ?_
  rintro _ rfl hshort
  refine endsEarly_cutNumber (by decide) hshort ?_
  rintro _ rfl hshort
  refine endsEarly_cutNumber h.rows hshort ?_
  rintro _ rfl hshort
  refine endsEarly_cutNumber h.count hshort ?_
  rintro _ rfl hshort
  refine endsEarly_cutNumber h.schemaLength hshort ?_
  rintro _ rfl hshort
  refine endsEarly_cut rfl hshort ?_
  rintro rest rfl hrest
  dsimp only
  rw [h.schema]
  exact hb rest (header_append _ _ _ rest).symm hrest

end

theorem Framed.headerFits {file : Bytes} {l : Layout} (h : Framed file l) :
    HeaderFits l.totalRows l.segments.length l.schemaBytes l.schema :=
  ⟨h.rows, h.count, h.schemaLength, h.schema⟩

theorem Framed.leastLength_le {file : Bytes} {l : Layout} (h : Framed file l) :
    leastLength ≤ file.length := h.bytes ▸ leastLength_le_encode l

theorem Framed.append {file : Bytes} {l : Layout} (h : Framed file l) (extra : Bytes) :
    file ++ extra = header l.totalRows l.segments.length l.schemaBytes ++
      (l.segments.flatMap Segment.encode ++ (trailer l.segments.length ++ extra)) := by
  rw [h.bytes, encode_split, List.append_assoc, List.append_assoc]

/-- When a file was walked to its end, what is left is to look for more bytes and to compare the
rows. -/
theorem parse_framed {file : Bytes} {l : Layout} (h : Framed file l) (extra : Bytes) :
    Layout.parse (file ++ extra) = (do
      require extra.isEmpty (.trailing extra.length)
      require (rowSum l.segments == l.totalRows) (.rowCount l.totalRows (rowSum l.segments))
      return l) := by
  have hsegments : ∀ b, parseSegments l.segments.length (l.segments.flatMap Segment.encode ++ b) =
      .ok (l.segments, b) := fun b => parseSegments_ok_iff.mpr ⟨rfl, rfl, h.segments⟩
  have htake : (trailer l.segments.length ++ extra).take 16 = trailer l.segments.length :=
    List.take_left' (length_trailer _)
  have hdrop : (trailer l.segments.length ++ extra).drop 16 = extra :=
    List.drop_left' (length_trailer _)
  rw [h.append, parse_header h.headerFits, Layout.parseBody, hsegments, ok_bind]
  dsimp only
  rw [htake, hdrop, beq_self_eq_true]
  rfl

end Columnar.Snapshot

/-
# `Proofs.Snapshot.Layout` — a file has one layout or none

A file is taken apart as a layout if and only if it is the file of that layout
(`parse_ok_iff`, `read_ok_iff`), byte for byte: nothing in front, between the
segments or behind them.  Both directions come from the same equivalences for
`cut` and `cutNumber`, one for each field; so whatever numbers a file
declares, what they describe lies inside of it.

What does not parse is refused for a reason of its own kind: `ofLayout` tells
those errors from the ones of later checks.
-/
import Columnar.Proofs.Wire.Stream
import Columnar.Snapshot.Layout

namespace Columnar.Snapshot

/-! ## Checks -/

theorem require_ok_iff {c : Bool} {e : FormatError} {u : Unit} :
    require c e = .ok u ↔ c = true := by
  cases c <;> simp [require]

theorem need_ok_iff {α : Type} {e : FormatError} {o : Option α} {a : α} :
    need e o = .ok a ↔ o = some a := by
  cases o <;> simp [need]

/-! ## Fields -/

theorem cut_ok_iff {part : Part} {n : Nat} {b front rest : Bytes} :
    cut part n b = .ok (front, rest) ↔ b = front ++ rest ∧ front.length = n := by
  rw [cut]
  constructor
  · intro h
    split at h
    · next hlen =>
      cases h
      exact ⟨(List.take_append_drop n b).symm, hlen⟩
    · cases h
  · rintro ⟨rfl, rfl⟩
    simp

theorem cutNumber_ok_iff {part : Part} {n k : Nat} {b rest : Bytes} :
    cutNumber part n b = .ok (k, rest) ↔ b = Bytes.ofNat n k ++ rest ∧ k < 256 ^ n := by
  constructor
  · intro h
    rw [cutNumber] at h
    cases hc : cut part n b with
    | error e => rw [hc] at h; cases h
    | ok r =>
        obtain ⟨front, after⟩ := r
        rw [hc] at h
        cases h
        obtain ⟨rfl, rfl⟩ := cut_ok_iff.mp hc
        exact ⟨by rw [Bytes.ofNat_toNat], Bytes.toNat_lt front⟩
  · rintro ⟨rfl, hk⟩
    have hc : cut part n (Bytes.ofNat n k ++ rest) = .ok (Bytes.ofNat n k, rest) :=
      cut_ok_iff.mpr ⟨rfl, Bytes.length_ofNat n k⟩
    rw [cutNumber, hc]
    simp only [Except.map, Bytes.toNat_ofNat_of_lt hk]

/-! ## Segments -/

/-- The numbers in front of a segment have room for what they say. -/
structure Segment.Fits (s : Segment) : Prop where
  rows : s.rows < 2 ^ 64
  length : s.payload.length < 2 ^ 64

theorem Segment.parse_ok_iff {b rest : Bytes} {s : Segment} :
    Segment.parse b = .ok (s, rest) ↔ b = s.encode ++ rest ∧ s.Fits := by
  constructor
  · intro h
    simp only [Segment.parse, bind_ok_iff, Prod.exists, cutNumber_ok_iff, cut_ok_iff] at h
    obtain ⟨rows, _, ⟨rfl, hrows⟩, length, _, ⟨rfl, hlength⟩, sum, _, ⟨rfl, hsum⟩, payload, _,
      ⟨rfl, rfl⟩, h⟩ := h
    cases h
    have hword : (UInt64.ofNat sum).toNat = sum := UInt64.toNat_ofNat_of_lt' hsum
    exact ⟨by simp [Segment.encode, Segment.header, hword], hrows, hlength⟩
  · rintro ⟨rfl, hfits⟩
    simp only [Segment.parse, bind_ok_iff, Prod.exists, cutNumber_ok_iff, cut_ok_iff]
    refine ⟨s.rows, _, ⟨by simp only [Segment.encode, Segment.header, List.append_assoc], hfits.rows⟩,
      s.payload.length, _, ⟨rfl, hfits.length⟩, s.checksum.toNat, _, ⟨rfl, s.checksum.toNat_lt⟩,
      s.payload, rest, ⟨rfl, rfl⟩, ?_⟩
    rw [UInt64.ofNat_toNat]
    rfl

theorem parseSegments_ok_iff : ∀ {count : Nat} {b rest : Bytes} {segments : List Segment},
    parseSegments count b = .ok (segments, rest) ↔
      b = segments.flatMap Segment.encode ++ rest ∧ segments.length = count ∧
        ∀ s ∈ segments, s.Fits
  | 0, b, rest, segments => by
      constructor
      · intro h
        cases h
        exact ⟨rfl, rfl, fun s hs => absurd hs List.not_mem_nil⟩
      · rintro ⟨rfl, hlen, -⟩
        rw [List.length_eq_zero_iff.mp hlen]
        rfl
  | count + 1, b, rest, segments => by
      constructor
      · intro h
        rw [parseSegments] at h
        cases hs : Segment.parse b with
        | error e => rw [hs] at h; cases h
        | ok r =>
            obtain ⟨s, after⟩ := r
            rw [hs] at h
            dsimp only at h
            cases hrest : parseSegments count after with
            | error e => rw [hrest] at h; cases h
            | ok r =>
                obtain ⟨others, last⟩ := r
                rw [hrest] at h
                cases h
                obtain ⟨rfl, hfits⟩ := Segment.parse_ok_iff.mp hs
                obtain ⟨rfl, hlen, hall⟩ := parseSegments_ok_iff.mp hrest
                refine ⟨?_, by rw [List.length_cons, hlen], List.forall_mem_cons.mpr ⟨hfits, hall⟩⟩
                rw [List.flatMap_cons, List.append_assoc]
      · rintro ⟨rfl, hlen, hall⟩
        cases segments with
        | nil => cases hlen
        | cons s others =>
            rw [List.flatMap_cons, List.append_assoc, parseSegments]
            have hs : Segment.parse (s.encode ++ (others.flatMap Segment.encode ++ rest)) =
                .ok (s, others.flatMap Segment.encode ++ rest) :=
              Segment.parse_ok_iff.mpr ⟨rfl, hall s List.mem_cons_self⟩
            have hrest : parseSegments count (others.flatMap Segment.encode ++ rest) =
                .ok (others, rest) :=
              parseSegments_ok_iff.mpr
                ⟨rfl, Nat.succ.inj hlen, fun x hx => hall x (List.mem_cons_of_mem _ hx)⟩
            rw [hs]
            dsimp only
            rw [hrest]

/-! ## Files -/

/-- Row counts are added up to the greatest number of 64 bits and no further. -/
theorem rowSum_eq_min (segments : List Segment) :
    rowSum segments = min (2 ^ 64 - 1) (segments.map Segment.rows).sum := by
  have hgen : ∀ (segments : List Segment) n, n ≤ 2 ^ 64 - 1 →
      segments.foldl (fun n s => min (2 ^ 64 - 1) (n + s.rows)) n =
        min (2 ^ 64 - 1) (n + (segments.map Segment.rows).sum) := by
    intro segments
    induction segments with
    | nil => intro n hn; exact (Nat.min_eq_right hn).symm
    | cons s rest ih =>
        intro n hn
        rw [List.foldl_cons, ih _ (Nat.min_le_left _ _), List.map_cons, List.sum_cons]
        omega
  have := hgen segments 0 (Nat.zero_le _)
  rwa [Nat.zero_add] at this

theorem rowSum_eq {segments : List Segment} (h : (segments.map Segment.rows).sum < 2 ^ 64) :
    rowSum segments = (segments.map Segment.rows).sum := by
  rw [rowSum_eq_min]
  exact Nat.min_eq_right (Nat.le_sub_one_of_lt h)

/-- The file is the file of the layout, and the layout says what its schema bytes say. -/
structure Framed (file : Bytes) (l : Layout) : Prop where
  bytes : file = l.encode
  rows : l.totalRows < 2 ^ 64
  count : l.segments.length < 2 ^ 64
  schemaLength : l.schemaBytes.length < 2 ^ 64
  segments : ∀ s ∈ l.segments, s.Fits
  schema : Wire.decodeSchema? l.schemaBytes = some l.schema

/-- A snapshot: the rows of the segments are as many as the header says. -/
structure HasLayout (file : Bytes) (l : Layout) : Prop extends Framed file l where
  total : rowSum l.segments = l.totalRows

theorem length_trailer (count : Nat) : (trailer count).length = 16 := by simp [trailer, trailerMagic]

theorem encode_eq (l : Layout) :
    l.encode = magic ++ (Bytes.ofNat 4 formatVersion ++ (Bytes.ofNat 8 l.totalRows ++
      (Bytes.ofNat 8 l.segments.length ++ (Bytes.ofNat 8 l.schemaBytes.length ++ (l.schemaBytes ++
        (l.segments.flatMap Segment.encode ++ trailer l.segments.length)))))) := by
  simp only [Layout.encode, Layout.encodeWith, header, List.append_assoc]

theorem parse_ok_iff {file : Bytes} {l : Layout} : Layout.parse file = .ok l ↔ HasLayout file l := by
  constructor
  · intro h
    simp only [Layout.parse, bind_ok_iff, Prod.exists, cut_ok_iff, cutNumber_ok_iff,
      parseSegments_ok_iff, require_ok_iff, need_ok_iff, beq_iff_eq, List.isEmpty_iff] at h
    obtain ⟨front, _, ⟨rfl, -⟩, -, rfl, found, _, ⟨rfl, -⟩, -, rfl, totalRows, _, ⟨rfl, hrows⟩, count,
      _, ⟨rfl, hcount⟩, schemaLength, _, ⟨rfl, hlength⟩, schemaBytes, _, ⟨rfl, rfl⟩, schema, hschema,
      segments, b, ⟨rfl, rfl, hfits⟩, -, htrailer, -, hextra, -, htotal, h⟩ := h
    cases h
    have hb : b = trailer segments.length := by
      rw [← List.take_append_drop 16 b, htrailer, hextra, List.append_nil]
    exact
      { bytes := by rw [encode_eq, hb]
        rows := hrows
        count := hcount
        schemaLength := hlength
        segments := hfits
        schema := hschema
        total := htotal }
  · rintro ⟨⟨rfl, hrows, hcount, hlength, hfits, hschema⟩, htotal⟩
    simp only [Layout.parse, bind_ok_iff, Prod.exists, cut_ok_iff, cutNumber_ok_iff,
      parseSegments_ok_iff, require_ok_iff, need_ok_iff, beq_iff_eq, List.isEmpty_iff]
    have htake := List.take_length (l := trailer l.segments.length)
    have hdrop := List.drop_length (l := trailer l.segments.length)
    rw [length_trailer] at htake hdrop
    exact ⟨magic, _, ⟨encode_eq l, rfl⟩, (), rfl, formatVersion, _, ⟨rfl, by decide⟩, (), rfl,
      l.totalRows, _, ⟨rfl, hrows⟩, l.segments.length, _, ⟨rfl, hcount⟩, l.schemaBytes.length, _,
      ⟨rfl, hlength⟩, l.schemaBytes, _, ⟨rfl, rfl⟩, l.schema, hschema, l.segments, _,
      ⟨rfl, rfl, hfits⟩, (), htake, (), hdrop, (), htotal, rfl⟩

theorem leastLength_le_encode (l : Layout) : leastLength ≤ l.encode.length := by
  rw [encode_eq]
  simp only [List.length_append, Bytes.length_ofNat, length_trailer,
    show magic.length = 8 from rfl, show leastLength = 52 from rfl]
  omega

/-- A file is read as a layout if and only if it is a snapshot with that layout. -/
theorem read_ok_iff {file : Bytes} {l : Layout} : read file = .ok l ↔ HasLayout file l := by
  rw [read]
  split
  · next hshort =>
    constructor
    · intro h
      cases h
    · intro h
      have := leastLength_le_encode l
      rw [← h.bytes] at this
      rw [List.length_take, Nat.min_eq_left this] at hshort
      exact absurd hshort (Nat.lt_irrefl _)
  · exact parse_ok_iff

/-! ## Refusals -/

/-- The errors of a file that is no snapshot. -/
def FormatError.ofLayout : FormatError → Prop
  | .badMagic | .version _ | .truncated _ | .rowCount _ _ | .missingTrailer | .unreadableSchema
  | .trailing _ => True
  | _ => False

/-- If it fails, then for a reason that has to do with the layout. -/
def FailsByLayout {α : Type} (x : Except FormatError α) : Prop := ∀ e, x = .error e → e.ofLayout

theorem failsByLayout_bind {α β : Type} {x : Except FormatError α} {f : α → Except FormatError β}
    (hx : FailsByLayout x) (hf : ∀ a, FailsByLayout (f a)) : FailsByLayout (x >>= f) := by
  intro e h
  rcases bind_error_iff.mp h with h | ⟨a, -, h⟩
  · exact hx e h
  · exact hf a e h

theorem failsByLayout_require {c : Bool} {e : FormatError} (he : e.ofLayout) :
    FailsByLayout (require c e) := by
  intro e' h
  cases c
  · cases h
    exact he
  · cases h

theorem failsByLayout_need {α : Type} {e : FormatError} {o : Option α} (he : e.ofLayout) :
    FailsByLayout (need e o) := by
  intro e' h
  cases o
  · cases h
    exact he
  · cases h

theorem failsByLayout_cut (part : Part) (n : Nat) (b : Bytes) : FailsByLayout (cut part n b) := by
  intro e h
  rw [cut] at h
  split at h <;> cases h
  trivial

theorem failsByLayout_cutNumber (part : Part) (n : Nat) (b : Bytes) :
    FailsByLayout (cutNumber part n b) := by
  intro e h
  rw [cutNumber] at h
  cases hc : cut part n b with
  | ok r => rw [hc] at h; cases h
  | error e' =>
      rw [hc] at h
      cases h
      exact failsByLayout_cut part n b e hc

theorem failsByLayout_segment (b : Bytes) : FailsByLayout (Segment.parse b) := by
  refine failsByLayout_bind (failsByLayout_cutNumber _ _ _) fun _ => ?_
  refine failsByLayout_bind (failsByLayout_cutNumber _ _ _) fun _ => ?_
  refine failsByLayout_bind (failsByLayout_cutNumber _ _ _) fun _ => ?_
  refine failsByLayout_bind (failsByLayout_cut _ _ _) fun _ => ?_
  intro e h
  cases h

theorem failsByLayout_segments : ∀ (count : Nat) (b : Bytes), FailsByLayout (parseSegments count b)
  | 0, b, e, h => by cases h
  | count + 1, b, e, h => by
      rw [parseSegments] at h
      cases hs : Segment.parse b with
      | error e' =>
          rw [hs] at h
          cases h
          exact failsByLayout_segment b e hs
      | ok r =>
          rw [hs] at h
          dsimp only at h
          cases hrest : parseSegments count r.2 with
          | error e' =>
              rw [hrest] at h
              cases h
              exact failsByLayout_segments count r.2 e hrest
          | ok r' => rw [hrest] at h; cases h

theorem failsByLayout_parse (file : Bytes) : FailsByLayout (Layout.parse file) := by
  refine failsByLayout_bind (failsByLayout_cut _ _ _) fun _ => ?_
  refine failsByLayout_bind (failsByLayout_require trivial) fun _ => ?_
  refine failsByLayout_bind (failsByLayout_cutNumber _ _ _) fun _ => ?_
  refine failsByLayout_bind (failsByLayout_require trivial) fun _ => ?_
  refine failsByLayout_bind (failsByLayout_cutNumber _ _ _) fun _ => ?_
  refine failsByLayout_bind (failsByLayout_cutNumber _ _ _) fun _ => ?_
  refine failsByLayout_bind (failsByLayout_cutNumber _ _ _) fun _ => ?_
  refine failsByLayout_bind (failsByLayout_cut _ _ _) fun _ => ?_
  refine failsByLayout_bind (failsByLayout_need trivial) fun _ => ?_
  refine failsByLayout_bind (failsByLayout_segments _ _) fun _ => ?_
  refine failsByLayout_bind (failsByLayout_require trivial) fun _ => ?_
  refine failsByLayout_bind (failsByLayout_require trivial) fun _ => ?_
  refine failsByLayout_bind (failsByLayout_require trivial) fun _ => ?_
  intro e h
  cases h

/-- What is no snapshot is refused for a reason that has to do with the layout. -/
theorem read_of_no_layout {file : Bytes} (h : ¬ ∃ l, HasLayout file l) :
    ∃ e, read file = .error e ∧ e.ofLayout := by
  cases hr : read file with
  | ok l => exact absurd ⟨l, read_ok_iff.mp hr⟩ h
  | error e =>
      refine ⟨e, rfl, ?_⟩
      rw [read] at hr
      split at hr
      · cases hr
        trivial
      · exact failsByLayout_parse file e hr

/-! ## Places -/

theorem payload_in_segments : ∀ {segments : List Segment} (front rest : Bytes) {i place : Nat}
    {s : Segment}, segments[i]? = some s →
      (payloadPlaces front.length segments)[i]? = some place →
        ∃ before after, front ++ (segments.flatMap Segment.encode ++ rest) =
          before ++ (s.payload ++ after) ∧ before.length = place
  | first :: others, front, rest, 0, place, s, hs, hp => by
      rw [List.getElem?_cons_zero, Option.some.injEq] at hs
      rw [payloadPlaces, List.getElem?_cons_zero, Option.some.injEq] at hp
      subst hs hp
      refine ⟨front ++ first.header, others.flatMap Segment.encode ++ rest, ?_, ?_⟩
      · simp only [List.flatMap_cons, Segment.encode, List.append_assoc]
      · rw [List.length_append]
        simp [Segment.header]
  | first :: others, front, rest, i + 1, place, s, hs, hp => by
      rw [List.getElem?_cons_succ] at hs
      have hlen : (front ++ first.encode).length = front.length + 24 + first.payload.length := by
        rw [List.length_append, Segment.encode, List.length_append]
        simp only [Segment.header, List.length_append, Bytes.length_ofNat]
        omega
      rw [payloadPlaces, List.getElem?_cons_succ, ← hlen] at hp
      have ih := payload_in_segments (front ++ first.encode) rest hs hp
      simpa only [List.flatMap_cons, List.append_assoc] using ih

/-- A payload lies inside of the file, at its place. -/
theorem payload_at {file : Bytes} {l : Layout} (h : Framed file l) {i place : Nat} {s : Segment}
    (hs : l.segments[i]? = some s) (hp : l.places[i]? = some place) :
    place + s.payload.length ≤ file.length ∧
      (file.drop place).take s.payload.length = s.payload := by
  have hlen : (header l.totalRows l.segments.length l.schemaBytes).length =
      leastLength - 16 + l.schemaBytes.length := by
    simp only [header, List.length_append, Bytes.length_ofNat, show magic.length = 8 from rfl,
      show leastLength = 52 from rfl]
  rw [Layout.places, ← hlen] at hp
  obtain ⟨before, after, hfile, hbefore⟩ :=
    payload_in_segments (header l.totalRows l.segments.length l.schemaBytes)
      (trailer l.segments.length) hs hp
  have hbytes : file = before ++ (s.payload ++ after) := by
    rw [h.bytes, ← hfile, Layout.encode, Layout.encodeWith, List.append_assoc]
  subst hbefore
  rw [hbytes]
  constructor
  · simp only [List.length_append]
    omega
  · rw [List.drop_left, List.take_left]

/-! ## Writing -/

/-- A draft whose number of segments is written in is the file of its layout. -/
theorem finish_draft (l : Layout) : finish l.draft l.segments.length = l.encode := by
  have hfront : (magic ++ Bytes.ofNat 4 formatVersion ++ Bytes.ofNat 8 l.totalRows).length =
      countPlace := by
    simp only [List.length_append, Bytes.length_ofNat, show magic.length = 8 from rfl,
      show countPlace = 20 from rfl]
  have hdraft : l.draft = (magic ++ Bytes.ofNat 4 formatVersion ++ Bytes.ofNat 8 l.totalRows) ++
      (Bytes.ofNat 8 0 ++ (Bytes.ofNat 8 l.schemaBytes.length ++ (l.schemaBytes ++
        (l.segments.flatMap Segment.encode ++ trailer l.segments.length)))) := by
    simp only [Layout.draft, Layout.encodeWith, header, List.append_assoc]
  have hdrop : l.draft.drop (countPlace + (Bytes.ofNat 8 l.segments.length).length) =
      Bytes.ofNat 8 l.schemaBytes.length ++ (l.schemaBytes ++
        (l.segments.flatMap Segment.encode ++ trailer l.segments.length)) := by
    rw [hdraft, ← hfront, Bytes.length_ofNat, List.drop_length_add_append]
    exact List.drop_left' (Bytes.length_ofNat 8 0)
  have htake : l.draft.take countPlace =
      magic ++ Bytes.ofNat 4 formatVersion ++ Bytes.ofNat 8 l.totalRows := by
    rw [hdraft, ← hfront, List.take_left]
  rw [finish, Bytes.overwrite, hdrop, htake, hfront, encode_eq]
  simp [Bytes.zeros]

end Columnar.Snapshot

/-
# `Proofs.Wire.Stream` — streams are read back

A stream with a batch opens with the schema of the batch and holds that one
batch (`openStream_encodeBatch`, `readBatches_encodeBatch`), as long as its
length is a number of 31 bits and its rows are a number of 64: these are the
widths of references and of row counts.  Nothing is asked of the batch.
-/
import Columnar.Proofs.Wire.Body
import Columnar.Proofs.Wire.Schema
import Columnar.Wire.Stream

namespace Columnar.Wire

/-! ## Frames -/

theorem number_append (a c : Bytes) {width n : Nat} (h : n < 256 ^ width) :
    Data.number? (a ++ (Bytes.ofNat width n ++ c)).toArray a.length width = some n := by
  have hpart := part_append a (Bytes.ofNat width n) c
  rw [Bytes.length_ofNat] at hpart
  simp [Data.number?, hpart, Bytes.toNat_ofNat_of_lt h]

/-- A message filled up as it stands in a stream. -/
def filled (m : Bytes) : Bytes := m ++ Bytes.zeros (Bytes.gap unit (m.length + 8))

theorem frame_eq (m : Bytes) :
    frame m = Bytes.ofNat 4 (2 ^ 32 - 1) ++ (Bytes.ofNat 4 (filled m).length ++ filled m) := rfl

theorem length_frame (m : Bytes) : (frame m).length = 8 + (filled m).length := by
  rw [frame_eq, List.length_append, List.length_append, Bytes.length_ofNat, Bytes.length_ofNat]
  omega

theorem length_le_filled (m : Bytes) : m.length ≤ (filled m).length := by
  rw [filled, List.length_append]
  exact Nat.le_add_right _ _

theorem length_filled_pos (m : Bytes) : 0 < (filled m).length := by
  have h := Bytes.add_gap_mod (show 0 < unit by decide) (m.length + 8)
  rw [show unit = 64 from rfl] at h
  rw [filled, List.length_append, Bytes.length_zeros, show unit = 64 from rfl]
  omega

/-- The length and the content of a frame are found at its place. -/
theorem frame_at (front m rest : Bytes) (h : (filled m).length < 2 ^ 32) :
    readLength? (front ++ (frame m ++ rest)).toArray front.length =
        some ((filled m).length, front.length + 8) ∧
      Data.part? (front ++ (frame m ++ rest)).toArray (front.length + 8) (filled m).length =
        some (filled m).toArray := by
  have hmark := number_append front (Bytes.ofNat 4 (filled m).length ++ (filled m ++ rest))
    (show 2 ^ 32 - 1 < 256 ^ 4 by decide)
  have hlength := number_append (front ++ Bytes.ofNat 4 (2 ^ 32 - 1)) (filled m ++ rest)
    (show (filled m).length < 256 ^ 4 from h)
  have hpart := part_append
    (front ++ Bytes.ofNat 4 (2 ^ 32 - 1) ++ Bytes.ofNat 4 (filled m).length) (filled m) rest
  simp only [List.append_assoc, List.length_append, Bytes.length_ofNat] at hmark hlength hpart
  rw [frame_eq]
  simp only [List.append_assoc]
  refine ⟨?_, hpart⟩
  simp only [readLength?, hmark, hlength, Option.bind_eq_bind, Option.bind_some, if_true]
  rfl

/-! ## Messages -/

/-- The table of a message. -/
def messageItem (kind bodyLength : Nat) (header : Item) : Item :=
  .table [header]
    ([(0, .number 2 version), (1, .number 1 kind)] ++ numberUnless 0 8 bodyLength 3 ++
      [(2, .part 0)])

theorem message_eq (kind bodyLength : Nat) (header : Item) :
    message kind bodyLength header = frame (messageItem kind bodyLength header).encode := rfl

theorem messageItem_fits {kind bodyLength : Nat} {header : Item} (hh : header.Fits)
    (hkind : kind < 256) (hbody : bodyLength < 2 ^ 64) :
    (messageItem kind bodyLength header).Fits := by
  have hlen := length_numberUnless_le 0 8 bodyLength 3
  rw [messageItem, Item.Fits, Item.AllFit, Item.AllFit]
  refine ⟨⟨hh, trivial⟩, ⟨?_, fun s hs => ?_⟩⟩
  · simp only [List.length_append, List.length_cons, List.length_nil]
    omega
  · simp only [List.mem_append, List.mem_cons, List.not_mem_nil, or_false] at hs
    rcases hs with ((rfl | rfl) | hs) | rfl
    · exact ⟨by simp, isUnit_two, by decide⟩
    · exact ⟨by simp, isUnit_one, hkind⟩
    · exact numberUnless_fits (by decide) isUnit_eight hbody s hs
    · exact ⟨by simp, Nat.zero_lt_one⟩

/-- A message is read if its header is. -/
theorem readMessage_of_header (kind : Nat) (content : Content) {bodyLength : Nat} {header : Item}
    (hh : header.Fits) (hkind : kind < 256) (hne : kind ≠ 0) (hbody : bodyLength < 2 ^ 64)
    (hshort : (messageItem kind bodyLength header).encode.length < 2 ^ 31)
    (hread : ∀ (d : Data) (m : Bytes) widest siblings place, Holds d m widest →
      header.Laid m widest siblings place →
        readContent? d kind (m.length - place) = some content) :
    readMessage? (filled (messageItem kind bodyLength header).encode).toArray =
      some ⟨content, bodyLength⟩ := by
  have hf := messageItem_fits hh hkind hbody
  obtain ⟨widest, root, hunit, hfour, haligned, hroot, hfirst, hlaid⟩ := Item.encode_laid hf
  generalize hm : (messageItem kind bodyLength header).encode = m at *
  have hd : Holds (filled m).toArray m widest := ⟨⟨_, rfl⟩, hunit, haligned, hshort⟩
  rw [messageItem, Item.Fits] at hf
  rw [messageItem] at hlaid
  obtain ⟨t, targets, ht, hparts, hslots⟩ := hd.table_of_laid hf.2 hlaid
  obtain ⟨before, hheader, -⟩ := hparts.get.2 0 _ rfl
  rw [List.length_nil, Nat.zero_add] at hheader
  have hlook3 : ([(0, .number 2 version), (1, .number 1 kind)] ++ numberUnless 0 8 bodyLength 3 ++
      [(2, .part 0)] : List (Nat × Slot)).lookup 3 =
        if bodyLength = 0 then none else some (.number 8 bodyLength) := by
    rw [numberUnless]
    split <;> rfl
  have hlook : ∀ k, k ≠ 3 → ([(0, .number 2 version), (1, .number 1 kind)] ++
      numberUnless 0 8 bodyLength 3 ++ [(2, .part 0)] : List (Nat × Slot)).lookup k =
        [(0, .number 2 version), (1, .number 1 kind), (2, .part 0)].lookup k := by
    intro k hk
    rw [numberUnless]
    split <;> simp [List.lookup_cons, beq_false_of_ne hk]
  have h3 := hslots 3
  rw [hlook3] at h3
  have hslots' := fun k hk => hlook k hk ▸ hslots k
  obtain ⟨p1, hp1, -⟩ := hslots' 1 (by decide)
  obtain ⟨p2, hp2, -⟩ := hslots' 2 (by decide)
  have haligned₄ : m.length % 4 = 0 := Nat.mod_eq_zero_of_dvd
    (Nat.dvd_trans (isUnit_four.dvd hunit hfour) (Nat.dvd_of_mod_eq_zero haligned))
  have htarget := hd.target_at hfirst haligned₄ hfour (Nat.le_of_lt hroot)
  rw [Nat.sub_self] at htarget
  have hversion : Data.numberSlot? (filled m).toArray t 0 2 0 = some version :=
    numberSlot_some (hslots' 0 (by decide))
  have hkind' : Data.numberSlot? (filled m).toArray t 1 1 0 = some kind :=
    numberSlot_some (hslots' 1 (by decide))
  have hcontent := needed_some (hslots' 2 (by decide)) (hread _ m widest before _ hd hheader)
  have hnotes : Data.refSlot? (filled m).toArray t 4 (Data.refs? (filled m).toArray
      (readNote? (filled m).toArray)) = some none := refSlot_none (hslots' 4 (by decide))
  simp only [readMessage?, readNotes?, htarget, ht, hversion, hkind', hcontent, hnotes, hp1, hp2,
    numberSlot_unless h3, if_neg hne, Option.bind_eq_bind, Option.bind_some, Option.isSome_some,
    guard, if_true]
  rfl

/-! ## Streams -/

theorem message_length_lt {kind bodyLength : Nat} {header : Item}
    (h : (message kind bodyLength header).length < 2 ^ 31) :
    (filled (messageItem kind bodyLength header).encode).length < 2 ^ 32 ∧
      (messageItem kind bodyLength header).encode.length < 2 ^ 31 := by
  have hle := length_le_filled (messageItem kind bodyLength header).encode
  rw [message_eq, length_frame] at h
  omega

theorem openStream_schemaMessage {s : Schema} (rest : Bytes)
    (h : (schemaMessage s).length < 2 ^ 31) :
    openStream? (schemaMessage s ++ rest).toArray =
      some (s.declared, (schemaMessage s).length) := by
  obtain ⟨hfilled, hshort⟩ := message_length_lt h
  obtain ⟨hlength, hpart⟩ := frame_at [] (messageItem schemaKind 0 (schemaItem s)).encode rest hfilled
  have hmessage := readMessage_of_header schemaKind (.schema s.declared) (schemaItem_fits s)
    (by decide) (by decide) (by decide) hshort
    fun d m widest siblings place hd hl => by
      rw [readContent?, if_pos rfl, readSchema_of_laid hd hl]
      rfl
  rw [schemaMessage, message_eq, length_frame]
  rw [List.nil_append, List.length_nil] at hlength hpart
  simp only [openStream?, hlength, hpart, hmessage, Option.bind_eq_bind, Option.bind_some]
  simp

/-- A schema is read back from a stream that is not too long. -/
theorem decodeSchema_encodeSchema {s : Schema} (h : (encodeSchema s).length < 2 ^ 31) :
    decodeSchema? (encodeSchema s) = some s.declared := by
  rw [encodeSchema, List.length_append] at h
  rw [decodeSchema?, encodeSchema, openStream_schemaMessage endMark (by omega)]
  rfl

/-! ## Batches -/

/-- The table of a batch. -/
def batchItem (b : Batch) : Item :=
  .table [pairsItem (extents (buffersOf b)), pairsItem (nodesOf b)]
    (numberUnless 0 8 b.rows 0 ++ [(1, .part 1), (2, .part 0)])

theorem batchMessage_eq (b : Batch) :
    batchMessage b =
      message batchKind (body (buffersOf b)).length (batchItem b) ++ body (buffersOf b) := rfl

theorem pairs_fits (pairs : List (Nat × Nat)) : (pairsItem pairs).Fits := by
  simp [pairsItem, Item.Fits]

theorem batchItem_fits {b : Batch} (h : b.rows < 2 ^ 64) : (batchItem b).Fits := by
  have hlen := length_numberUnless_le 0 8 b.rows 0
  rw [batchItem, Item.Fits, Item.AllFit, Item.AllFit, Item.AllFit]
  refine ⟨⟨pairs_fits _, pairs_fits _, trivial⟩, ⟨?_, fun s hs => ?_⟩⟩
  · simp only [List.length_append, List.length_cons, List.length_nil]
    omega
  · simp only [List.mem_append, List.mem_cons, List.not_mem_nil, or_false] at hs
    rcases hs with hs | rfl | rfl
    · exact numberUnless_fits (by decide) isUnit_eight h s hs
    · exact ⟨by simp, Nat.one_lt_two⟩
    · exact ⟨by simp, Nat.zero_lt_two⟩

/-- The table of a batch is read back. -/
theorem readBatchTable_of_laid {d : Data} {m : Bytes} {widest place : Nat} {siblings : List Nat}
    (hd : Holds d m widest) {b : Batch} (hrows : b.rows < 2 ^ 64)
    (hbody : (body (buffersOf b)).length < 2 ^ 31)
    (hl : (batchItem b).Laid m widest siblings place) :
    readBatchTable? d (m.length - place) =
      some ⟨b.rows, nodesOf b, extents (buffersOf b), false⟩ := by
  have hf := batchItem_fits hrows
  rw [batchItem, Item.Fits] at hf
  rw [batchItem] at hl
  obtain ⟨t, targets, ht, hparts, hslots⟩ := hd.table_of_laid hf.2 hl
  obtain ⟨before, hextents, -⟩ := hparts.get.2 0 _ rfl
  obtain ⟨before', hnodes, -⟩ := hparts.get.2 1 _ rfl
  rw [List.length_nil, Nat.zero_add] at hextents hnodes
  have hlook0 : (numberUnless 0 8 b.rows 0 ++ [(1, Slot.part 1), (2, .part 0)]).lookup 0 =
      if b.rows = 0 then none else some (.number 8 b.rows) := by
    rw [numberUnless]
    split <;> rfl
  have hlook : ∀ k, k ≠ 0 →
      (numberUnless 0 8 b.rows 0 ++ [(1, Slot.part 1), (2, .part 0)]).lookup k =
        [(1, Slot.part 1), (2, .part 0)].lookup k := by
    intro k hk
    rw [numberUnless]
    split <;> simp [List.lookup_cons, beq_false_of_ne hk]
  have h0 := hslots 0
  rw [hlook0] at h0
  have hslots' := fun k hk => hlook k hk ▸ hslots k
  have hlt : ∀ e ∈ extents (buffersOf b), e.1 < 2 ^ 64 ∧ e.2 < 2 ^ 64 := fun e he => by
    have := extents_le _ e he
    omega
  have hreadNodes := needed_some (hslots' 1 (by decide)) (hd.pairs_at (nodesOf_lt hbody) hnodes)
  have hreadExtents := needed_some (hslots' 2 (by decide)) (hd.pairs_at hlt hextents)
  have hcompression : d.refSlot? t 3 (readCompression? d) = some none :=
    refSlot_none (hslots' 3 (by decide))
  have hcounts : d.refSlot? t 4 (d.count? 8 8) = some none := refSlot_none (hslots' 4 (by decide))
  simp only [readBatchTable?, ht, numberSlot_unless h0, hreadNodes, hreadExtents, hcompression,
    hcounts, Option.bind_eq_bind, Option.bind_some]
  rfl

/-- Nothing is read behind the mark of the end. -/
theorem readBatches_endMark (s : Schema) (front : Bytes) (fuel : Nat) :
    readBatches? s (front ++ endMark).toArray (fuel + 1) front.length = some [] := by
  have hend : endMark = Bytes.ofNat 4 (2 ^ 32 - 1) ++ (Bytes.ofNat 4 0 ++ []) := rfl
  have hmark := number_append front (Bytes.ofNat 4 0 ++ []) (show 2 ^ 32 - 1 < 256 ^ 4 by decide)
  have hlength := number_append (front ++ Bytes.ofNat 4 (2 ^ 32 - 1)) []
    (show 0 < 256 ^ 4 by decide)
  rw [List.length_append, Bytes.length_ofNat, List.append_assoc] at hlength
  have hsize : ¬ (front ++ endMark).toArray.size < front.length + 4 := by
    rw [List.size_toArray, List.length_append, hend]
    simp
  rw [readBatches?, if_neg hsize, hend]
  simp only [readLength?, hmark, hlength, Option.bind_eq_bind, Option.bind_some, if_true]
  rfl

/-- A message with a batch and the mark of the end are read as the batch. -/
theorem readBatches_batchMessage {b : Batch} (front : Bytes) (fuel : Nat) (hrows : b.rows < 2 ^ 64)
    (h : (batchMessage b).length < 2 ^ 31) :
    readBatches? b.schema (front ++ (batchMessage b ++ endMark)).toArray (fuel + 2) front.length =
      some [b.compact] := by
  rw [batchMessage_eq, List.length_append] at h
  have hbody : (body (buffersOf b)).length < 2 ^ 31 := by omega
  obtain ⟨hfilled, hshort⟩ := message_length_lt (Nat.lt_of_le_of_lt (Nat.le_add_right _ _) h)
  have hmessage := readMessage_of_header batchKind
    (.batch ⟨b.rows, nodesOf b, extents (buffersOf b), false⟩) (batchItem_fits hrows)
    (by decide) (by decide) (by omega) hshort
    fun d m widest siblings place hd hl => by
      rw [readContent?, if_neg (by decide), if_pos rfl, readBatchTable_of_laid hd hrows hbody hl]
      rfl
  have hbatch := readBatch_of_body hbody
  have hend := readBatches_endMark b.schema (front ++ batchMessage b) fuel
  rw [batchMessage_eq, message_eq] at hend ⊢
  generalize hm : (messageItem batchKind (body (buffersOf b)).length (batchItem b)).encode = m at *
  generalize hc : body (buffersOf b) = content at *
  obtain ⟨hlength, hpart⟩ := frame_at front m (content ++ endMark) hfilled
  have hcontent := part_append (front ++ frame m) content endMark
  simp only [List.append_assoc, List.length_append, length_frame] at hlength hpart hcontent hend ⊢
  have hplace : front.length + 8 + (filled m).length = front.length + (8 + (filled m).length) := by
    omega
  have hplace' : front.length + (8 + (filled m).length) + content.length =
      front.length + (8 + (filled m).length + content.length) := Nat.add_assoc ..
  have hpos := length_filled_pos m
  have hsize : ¬ (front ++ (frame m ++ (content ++ endMark))).toArray.size < front.length + 4 := by
    simp only [List.size_toArray, List.length_append, length_frame]
    omega
  rw [readBatches?, if_neg hsize]
  simp only [hlength, hpart, hmessage, hplace, hcontent, hbatch, hplace', hend, Option.bind_eq_bind,
    Option.bind_some]
  rw [if_neg (Nat.ne_of_gt hpos)]
  rfl

/-- The stream of a batch opens with its schema. -/
theorem openStream_encodeBatch {b : Batch} (h : (encodeBatch b).length < 2 ^ 31) :
    openStream? (encodeBatch b).toArray = some (b.schema.declared, (schemaMessage b.schema).length) := by
  rw [encodeBatch, List.append_assoc, List.length_append] at h
  rw [encodeBatch, List.append_assoc]
  exact openStream_schemaMessage _ (by omega)

/-- The stream of a batch holds the batch and nothing else. -/
theorem readBatches_encodeBatch {b : Batch} (hrows : b.rows < 2 ^ 64)
    (h : (encodeBatch b).length < 2 ^ 31) :
    readBatches? b.schema (encodeBatch b).toArray (encodeBatch b).toArray.size
      (schemaMessage b.schema).length = some [b.compact] := by
  have hend : endMark.length = 8 := rfl
  have hlen : (encodeBatch b).toArray.size = (schemaMessage b.schema).length +
      (batchMessage b).length + 6 + 2 := by
    rw [List.size_toArray, encodeBatch, List.length_append, List.length_append, hend]
  rw [hlen]
  rw [encodeBatch, List.append_assoc, List.length_append, List.length_append] at h
  rw [encodeBatch, List.append_assoc]
  exact readBatches_batchMessage _ _ hrows (by omega)

end Columnar.Wire

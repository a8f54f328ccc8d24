/-
# `Proofs.Wire.Buffers` — buffers are read back from a body

A source holds the nodes and buffers that are left of a batch, and taking one
leaves the rest (`node_of_holds`, `buffer_of_holds`).  The bitmap of a range
of stored cells tells for each of them whether it is NULL, wherever the range
begins; numbers of a width and runs of bytes are found where they were
written.  No type of column occurs here.
-/
import Columnar.Proofs.Wire.Reading
import Columnar.Wire.Body

namespace Columnar.Wire

/-! ## Sources -/

/-- A source in which these nodes and buffers are left. -/
structure Source.Holds (s : Source) (nodes : List Node) (buffers : List Bytes) : Prop where
  plain : s.compressed = false
  left : s.nodes = nodes
  reads : List.Forall₂ (fun e b => s.body.part? e.1 e.2 = some b.toArray) s.buffers buffers
  short : ∀ b ∈ buffers, b.length < 2 ^ 31

namespace Source

variable {s : Source} {n : Node} {nodes : List Node} {b : Bytes} {buffers : List Bytes}

theorem node_of_holds (h : s.Holds (n :: nodes) buffers) :
    ∃ s', s.node? = some (n, s') ∧ s'.Holds nodes buffers := by
  refine ⟨{ s with nodes := nodes }, ?_, h.plain, rfl, h.reads, h.short⟩
  rw [node?, h.left]

theorem buffer_of_holds (h : s.Holds nodes (b :: buffers)) :
    ∃ s', s.buffer? = some (b.toArray, s') ∧ s'.Holds nodes buffers := by
  have hbuffers := h.reads
  cases hs : s.buffers with
  | nil => rw [hs] at hbuffers; cases hbuffers
  | cons e rest =>
      rw [hs] at hbuffers
      obtain ⟨hread, hrest⟩ := List.forall₂_cons.mp hbuffers
      refine ⟨{ s with buffers := rest }, ?_, h.plain, h.left, hrest,
        fun b hb => h.short b (List.mem_cons_of_mem _ hb)⟩
      simp only [buffer?, hs, hread, content?, h.plain, Option.bind_eq_bind, Option.bind_some,
        Bool.not_false, Bool.true_or, if_true]
      rfl

end Source

/-- Every buffer lies in the body where its extent says. -/
theorem extents_hold : ∀ (buffers : List Bytes) (front : Bytes),
    List.Forall₂ (fun e b => Data.part? (front ++ body buffers).toArray e.1 e.2 = some b.toArray)
      ((buffers.scanl (fun n b => n + (Bytes.padded unit b).length) front.length).zipWith
        (fun n b => (n, b.length)) buffers) buffers
  | [], _ => .nil
  | b :: rest, front => by
      have ih := extents_hold rest (front ++ Bytes.padded unit b)
      rw [List.scanl_cons, List.zipWith_cons_cons]
      refine .cons ?_ ?_
      · have := part_append front b (Bytes.zeros (Bytes.gap unit b.length) ++ body rest)
        simpa [body, Bytes.padded, List.append_assoc] using this
      · rw [List.length_append] at ih
        simpa [body, List.append_assoc] using ih

theorem length_le_body {buffers : List Bytes} {b : Bytes} (h : b ∈ buffers) :
    b.length ≤ (body buffers).length := by
  induction buffers with
  | nil => exact absurd h List.not_mem_nil
  | cons c rest ih =>
      have hbody : (body (c :: rest)).length = (Bytes.padded unit c).length + (body rest).length := by
        simp [body]
      rw [hbody, Bytes.length_padded]
      rcases List.mem_cons.mp h with rfl | h
      · omega
      · have := ih h
        omega

/-- The source of a body that is not too long. -/
theorem source_holds (nodes : List Node) {buffers : List Bytes}
    (h : (body buffers).length < 2 ^ 31) :
    Source.Holds ⟨(body buffers).toArray, false, nodes, extents buffers⟩ nodes buffers where
  plain := rfl
  left := rfl
  reads := extents_hold buffers []
  short _ hb := Nat.lt_of_le_of_lt (length_le_body hb) h

/-! ## Bitmaps -/

/-- A range of stored cells. -/
def window {α : Type} (whole : Array α) (start length : Nat) : Array α :=
  whole.extract start (start + length)

section Bitmaps

variable {α : Type} {whole : Array α} {start length : Nat}

theorem size_window (h : start + length ≤ whole.size) : (window whole start length).size = length := by
  simp only [window, Array.size_extract]
  omega

theorem getElem_window (h : start + length ≤ whole.size) {i : Nat} (hi : i < length)
    (hw : i < (window whole start length).size) :
    (window whole start length)[i] = whole[start + i] := by
  simp [window]

theorem bitmapBytes_le_packed (bit : α → Bool) (h : start + length ≤ whole.size) :
    bitmapBytes length ≤ (packed bit whole start length).length := by
  rw [packed, Bytes.length_ofBits, Array.size_map, Array.size_extract, bitmapBytes]
  split <;> omega

/-- The bit of a cell of the range, which may go on behind its end. -/
theorem bit_packed (bit : α → Bool) (h : start + length ≤ whole.size) {i : Nat} (hi : i < length) :
    Bytes.bit (packed bit whole start length).toArray i = bit whole[start + i] := by
  simp only [packed]
  generalize hstop : (if start % 8 = 0 then whole.size else start + length) = stop
  have hle : start + length ≤ stop ∧ stop ≤ whole.size := by
    rw [← hstop]
    split <;> omega
  have hsize : i < ((whole.extract start stop).map bit).size := by
    rw [Array.size_map, Array.size_extract]
    omega
  rw [Bytes.bit_ofBits _ hsize]
  simp

end Bitmaps

section Present

variable {α : Type} {whole : Array (Option α)} {start length : Nat} {s : Source}
  {nodes : List Node} {bufs buffers : List Bytes}

theorem bitmapBytes_le_validity (h : start + length ≤ whole.size) :
    bitmapBytes length ≤ (validity whole start length).length := by
  rw [validity]
  split
  · exact Nat.le_of_eq List.length_replicate.symm
  · exact bitmapBytes_le_packed _ h

/-- The bitmap of a range tells which of its cells are not NULL. -/
theorem present_of_holds (h : start + length ≤ whole.size)
    (hs : s.Holds ((Part.ofCells whole start length bufs).nodes ++ nodes)
      ((Part.ofCells whole start length bufs).buffers ++ buffers)) :
    ∃ present s', s.present? = some (length, present, s') ∧ s'.Holds nodes (bufs ++ buffers) ∧
      ∀ i (hi : i < length), present i = whole[start + i].isSome := by
  have hshort := hs.short _ List.mem_cons_self
  have hbits := bitmapBytes_le_validity h
  obtain ⟨s₁, hnode, hs₁⟩ := Source.node_of_holds hs
  obtain ⟨s₂, hbuffer, hs₂⟩ := Source.buffer_of_holds hs₁
  simp only [Source.present?, hnode, hbuffer, Option.bind_eq_bind, Option.bind_some]
  have hwindow : (whole.extract start (start + length)).toList = (window whole start length).toList :=
    rfl
  have hcount := List.countP_le_length (p := Option.isNone) (l := (window whole start length).toList)
  rw [Array.length_toList, size_window h] at hcount
  rw [hwindow]
  generalize hn : (window whole start length).toList.countP Option.isNone = nulls at *
  by_cases hnulls : nulls = 0
  · subst hnulls
    refine ⟨fun _ => true, s₂, by simp, hs₂, fun i hi => ?_⟩
    have hnone := List.countP_eq_zero.mp hn (whole[start + i])
      (getElem_window h hi (by rwa [size_window h]) ▸ Array.mem_toList_iff.mpr (Array.getElem_mem _))
    cases hw : whole[start + i] with
    | none => simp [hw] at hnone
    | some v => rfl
  · have hall : ((whole.extract start (start + length)).all Option.isSome) = false := by
      rw [← Bool.not_eq_true, Array.all_eq_true_iff_forall_mem]
      intro hall
      apply hnulls
      rw [← hn, List.countP_eq_zero]
      intro v hv
      have := hall v (Array.mem_toList_iff.mp hv)
      simp [Option.isSome_iff_ne_none.mp this]
    have hvalid : validity whole start length = packed Option.isSome whole start length := by
      rw [validity, hall]
      rfl
    have hlt : nulls < 2 ^ 63 := by
      simp only [bitmapBytes] at hbits
      omega
    refine ⟨Bytes.bit (packed Option.isSome whole start length).toArray, s₂, ?_, hs₂,
      fun i hi => bit_packed _ h hi⟩
    rw [if_neg (by simp; omega), hvalid, if_pos (by simpa using hvalid ▸ hbits)]
    rfl

end Present

/-! ## Cells -/

/-- Cells that agree with a bitmap and with values are the cells that both make up. -/
theorem cells_eq {α : Type} {a : Array (Option α)} {length : Nat} {present : Nat → Bool}
    {value : Nat → α} (hlen : a.size = length)
    (hpresent : ∀ i (hi : i < a.size), present i = a[i].isSome)
    (hvalue : ∀ i (hi : i < a.size) v, a[i] = some v → value i = v) :
    cells length present value = a := by
  subst hlen
  apply Array.ext
  · simp [cells]
  · intro i h₁ h₂
    simp only [cells, List.getElem_toArray, List.getElem_map, List.getElem_range, hpresent i h₂]
    cases ha : a[i] with
    | none => rfl
    | some v => rw [hvalue i h₂ v ha]; rfl

theorem masked_eq {α : Type} {a : Array (Option α)} {present : Nat → Bool} {values : List α}
    (hlen : values.length = a.size) (hpresent : ∀ i (hi : i < a.size), present i = a[i].isSome)
    (hvalue : ∀ i (hi : i < a.size) v, a[i] = some v → values[i] = v) :
    masked present values = a := by
  apply Array.ext
  · simp [masked, hlen]
  · intro i h₁ h₂
    simp only [masked, List.getElem_toArray, List.getElem_mapIdx, hpresent i h₂]
    cases ha : a[i] with
    | none => rfl
    | some v => rw [hvalue i h₂ v ha]; rfl

/-- The number in one of a run of fields of a width. -/
theorem number_of_run {α : Type} {f : α → Nat} {width : Nat} (l : List α) {i : Nat}
    (hi : i < l.length) (hlt : f l[i] < 256 ^ width) :
    Bytes.toNat ((l.flatMap fun x => Bytes.ofNat width (f x)).toArray.extract (i * width)
      (i * width + width)).toList = f l[i] := by
  rw [Array.toList_extract, List.extract_eq_take_drop, Nat.add_sub_cancel_left, Nat.mul_comm,
    Bytes.take_drop_flatMap (fun x => Bytes.length_ofNat width (f x)) l i hi,
    Bytes.toNat_ofNat_of_lt hlt]

section Reading

variable {α : Type} {whole : Array (Option α)} {start length : Nat} {s : Source}
  {nodes : List Node} {buffers : List Bytes}

/-- Numbers of a width are read back. -/
theorem readNumbers_of_holds {width : Nat} {number : α → Nat} (value : Nat → α)
    (hvalue : ∀ v, value (number v) = v) (hlt : ∀ v, number v < 256 ^ width)
    (h : start + length ≤ whole.size)
    (hs : s.Holds ((Part.ofCells whole start length
        [numbers width number (window whole start length).toList]).nodes ++ nodes)
      ((Part.ofCells whole start length
        [numbers width number (window whole start length).toList]).buffers ++ buffers)) :
    ∃ s', readNumbers? width value s = some (window whole start length, s') ∧
      s'.Holds nodes buffers := by
  obtain ⟨present, s₁, hpresent, hs₁, hbits⟩ := present_of_holds h hs
  obtain ⟨s₂, hbuffer, hs₂⟩ := Source.buffer_of_holds hs₁
  have hsize := size_window h
  have hlt' : ∀ c : Option α, (c.map number).getD 0 < 256 ^ width := fun c => by
    cases c with
    | none => exact Nat.pow_pos (by decide)
    | some v => exact hlt v
  have hrun : (numbers width number (window whole start length).toList).length =
      width * length := by
    rw [numbers, Bytes.length_flatMap_const (fun c => Bytes.length_ofNat width _),
      Array.length_toList, hsize]
  refine ⟨s₂, ?_, hs₂⟩
  simp only [readNumbers?, hpresent, hbuffer, Option.bind_eq_bind, Option.bind_some]
  rw [if_pos (Nat.le_of_eq (by rw [List.size_toArray, hrun, Nat.mul_comm]))]
  rw [show pure (_, s₂) = some (_, s₂) from rfl, Option.some.injEq, Prod.mk.injEq]
  refine ⟨?_, rfl⟩
  refine cells_eq hsize (fun i hi => ?_) fun i hi v hv => ?_
  · rw [hsize] at hi
    rw [hbits i hi, getElem_window h hi]
  · have hlist : i < (window whole start length).toList.length := by simpa using hi
    rw [numbers, number_of_run _ hlist (hlt' _), Array.getElem_toList, hv]
    exact hvalue v

end Reading

/-! ## Runs of bytes -/

/-- Where runs begin and where the last one ends, the first one beginning at a place. -/
abbrev ends (place : Nat) (contents : List Bytes) : List Nat :=
  contents.scanl (fun n b => n + b.length) place

/-- Where each of the runs begins and ends. -/
def spans : (place : Nat) → List Bytes → List (Nat × Nat)
  | _, [] => []
  | place, c :: rest => (place, place + c.length) :: spans (place + c.length) rest

theorem zip_ends : ∀ (contents : List Bytes) (place : Nat),
    (ends place contents).zip ((ends place contents).drop 1) = spans place contents
  | [], _ => by rw [ends, List.scanl_nil]; rfl
  | c :: rest, place => by
      have ih := zip_ends rest (place + c.length)
      cases rest with
      | nil => rfl
      | cons c' rest =>
          rw [spans, ← ih]
          simp [ends]

theorem spans_le : ∀ (contents : List Bytes) (place : Nat), ∀ r ∈ spans place contents, r.1 ≤ r.2
  | c :: rest, place, r, hr => by
      rcases List.mem_cons.mp hr with rfl | hr
      · exact Nat.le_add_right _ _
      · exact spans_le rest _ r hr

theorem ends_le : ∀ (contents : List Bytes) (place : Nat),
    ∀ e ∈ ends place contents, e ≤ place + contents.flatten.length
  | [], place, e, he => by
      rw [ends, List.scanl_nil] at he
      rw [List.mem_singleton.mp he]
      exact Nat.le_add_right _ _
  | c :: rest, place, e, he => by
      rw [ends, List.scanl_cons] at he
      rw [List.flatten_cons, List.length_append]
      rcases List.mem_cons.mp he with rfl | he
      · exact Nat.le_add_right _ _
      · have := ends_le rest _ e he
        omega

/-- Each run is what lies between its ends. -/
theorem bytes_spans : ∀ (contents : List Bytes) (front : Bytes),
    (spans front.length contents).map (bytes (front ++ contents.flatten).toArray) = contents
  | [], _ => rfl
  | c :: rest, front => by
      have ih := bytes_spans rest (front ++ c)
      rw [List.length_append] at ih
      rw [spans, List.map_cons, List.flatten_cons, ← List.append_assoc, ih]
      simp [bytes]

/-- The ends of the runs are read back from their places. -/
theorem mapM_ends {width : Nat} (hwidth : 2 ^ 31 ≤ 256 ^ width) {contents : List Bytes}
    (hshort : contents.flatten.length < 2 ^ 31) :
    (List.range (contents.length + 1)).mapM (fun i =>
      Data.number? ((ends 0 contents).flatMap (Bytes.ofNat width)).toArray (i * width) width) =
        some (ends 0 contents) := by
  have hcount : (ends 0 contents).length = contents.length + 1 := List.length_scanl ..
  have hsize : ((ends 0 contents).flatMap (Bytes.ofNat width)).length =
      (ends 0 contents).length * width := by
    rw [Bytes.length_flatMap_const (fun n => Bytes.length_ofNat width n), Nat.mul_comm]
  rw [← hcount]
  apply mapM_range_some
  intro i hi
  have hmul := Nat.mul_le_mul_right width (Nat.succ_le_of_lt hi)
  rw [Nat.succ_mul] at hmul
  have hend := ends_le contents 0 _ (List.getElem_mem hi)
  simp only [Data.number?, Data.part?, List.size_toArray, hsize, if_pos hmul, Option.map_some]
  exact congrArg some (number_of_run (f := id) _ hi (by simp only [id]; omega))

/-- Runs of bytes are read back; places of `width` bytes have to be wide enough. -/
theorem readRuns_of_holds {α : Type} {whole : Array (Option α)} {start length width : Nat}
    {s : Source} {nodes : List Node} {buffers : List Bytes} {contents : List Bytes}
    (hwidth : 2 ^ 31 ≤ 256 ^ width) (hlen : contents.length = length)
    (h : start + length ≤ whole.size)
    (hs : s.Holds ((Part.ofCells whole start length (runs width contents)).nodes ++ nodes)
      ((Part.ofCells whole start length (runs width contents)).buffers ++ buffers)) :
    ∃ present s', readRuns? width s =
        some (present, spans 0 contents, contents.flatten.toArray, s') ∧
      s'.Holds nodes buffers ∧ ∀ i (hi : i < length), present i = whole[start + i].isSome := by
  obtain ⟨present, s₁, hpresent, hs₁, hbits⟩ := present_of_holds h hs
  cases contents with
  | nil =>
      obtain ⟨s₂, hplaces, hs₂⟩ := Source.buffer_of_holds hs₁
      obtain ⟨s₃, hcontent, hs₃⟩ := Source.buffer_of_holds hs₂
      refine ⟨present, s₃, ?_, hs₃, hbits⟩
      simp only [readRuns?, hpresent, hplaces, hcontent, Option.bind_eq_bind, Option.bind_some]
      rw [if_pos (by simp [← hlen])]
      rfl
  | cons c rest =>
      generalize hcs : c :: rest = contents at *
      have hruns : runs width contents =
          [(ends 0 contents).flatMap (Bytes.ofNat width), contents.flatten] := by
        rw [runs, ← hcs]
        rfl
      rw [hruns] at hs₁
      have hshort := hs₁.short contents.flatten (List.mem_cons_of_mem _ List.mem_cons_self)
      obtain ⟨s₂, hplaces, hs₂⟩ := Source.buffer_of_holds hs₁
      obtain ⟨s₃, hcontent, hs₃⟩ := Source.buffer_of_holds hs₂
      have hsize : ((ends 0 contents).flatMap (Bytes.ofNat width)).length = (length + 1) * width := by
        rw [Bytes.length_flatMap_const (fun n => Bytes.length_ofNat width n), List.length_scanl, hlen,
          Nat.mul_comm]
      have hends := mapM_ends hwidth hshort
      rw [hlen] at hends
      refine ⟨present, s₃, ?_, hs₃, hbits⟩
      simp only [readRuns?, hpresent, hplaces, hcontent, hends, zip_ends, Option.bind_eq_bind,
        Option.bind_some]
      rw [if_neg, if_neg, if_pos]
      · rfl
      · rw [Bool.and_eq_true, List.all_eq_true, List.all_eq_true]
        refine ⟨fun r hr => ?_, fun e he => ?_⟩
        · simpa using spans_le contents 0 r hr
        · simpa using ends_le contents 0 e he
      · rw [List.size_toArray, hsize]
        exact Nat.lt_irrefl _
      · rw [← hlen, ← hcs]
        simp

end Columnar.Wire

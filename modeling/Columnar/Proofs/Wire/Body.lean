/-
# `Proofs.Wire.Body` — columns and batches are read back from a body

For every type, the reader takes from a body the cells that the writer put
there (`readCells_of_holds`), and nothing of what is stored outside of the
window of a slice.  Texts need one thing more: they end where a character
ends, and so no range of them is refused.

What is read is the batch itself, stored whole: `Batch.compact`.
-/
import Mathlib.Data.Option.Basic
import Columnar.Proofs.Table
import Columnar.Proofs.Wire.Buffers

namespace Columnar.Wire

open Number

/-! ## Texts -/

theorem firstByte_range {b : UInt8} (h : b.IsUTF8FirstByte) : ¬ (0x80 ≤ b.toNat ∧ b.toNat < 0xc0) := by
  have hall : ∀ n < 256, (UInt8.ofNat n).IsUTF8FirstByte → ¬ (0x80 ≤ n ∧ n < 0xc0) := by
    decide +kernel
  exact hall b.toNat b.toNat_lt (by rwa [UInt8.ofNat_toNat])

/-- A text does not begin in the midst of a character. -/
theorem head_ofText {t : String} {b : UInt8} (h : (Bytes.ofText t)[0]? = some b) :
    ¬ (0x80 ≤ b.toNat ∧ b.toNat < 0xc0) := by
  have hfirst := t.isValidUTF8.isUTF8FirstByte_getElem_zero
  rw [Bytes.ofText, Array.getElem?_toList, Array.getElem?_eq_some_iff] at h
  obtain ⟨hpos, hb⟩ := h
  exact firstByte_range (hb ▸ hfirst hpos)

theorem head_flatten : ∀ {texts : List String} {b : UInt8},
    (texts.map Bytes.ofText).flatten[0]? = some b → ¬ (0x80 ≤ b.toNat ∧ b.toNat < 0xc0)
  | t :: rest, b, h => by
      rw [List.map_cons, List.flatten_cons] at h
      cases ht : Bytes.ofText t with
      | nil =>
          rw [ht, List.nil_append] at h
          exact head_flatten h
      | cons x xs =>
          rw [ht, List.cons_append, List.getElem?_cons_zero] at h
          exact head_ofText (t := t) (by rw [ht, List.getElem?_cons_zero, h])

theorem boundary_flatten (texts : List String) (front : Bytes) :
    isBoundary (front ++ (texts.map Bytes.ofText).flatten).toArray front.length = true := by
  have hget : (front ++ (texts.map Bytes.ofText).flatten).toArray[front.length]? =
      (texts.map Bytes.ofText).flatten[0]? := by
    rw [List.getElem?_toArray, List.getElem?_append_right (Nat.le_refl _), Nat.sub_self]
  rw [isBoundary, hget]
  cases h : (texts.map Bytes.ofText).flatten[0]? with
  | none => rfl
  | some b =>
      have hb := head_flatten h
      simp only [Bool.not_eq_true', Bool.and_eq_false_iff, decide_eq_false_iff_not]
      omega

/-- No text begins or ends in the midst of a character of the whole. -/
theorem boundary_spans : ∀ (texts : List String) (front : Bytes),
    ∀ r ∈ spans front.length (texts.map Bytes.ofText),
      isBoundary (front ++ (texts.map Bytes.ofText).flatten).toArray r.1 = true ∧
        isBoundary (front ++ (texts.map Bytes.ofText).flatten).toArray r.2 = true
  | t :: rest, front, r, hr => by
      have ih := boundary_spans rest (front ++ Bytes.ofText t)
      have hfirst := boundary_flatten (t :: rest) front
      have hnext := boundary_flatten rest (front ++ Bytes.ofText t)
      rw [List.length_append, List.append_assoc] at hnext
      rw [List.length_append, List.append_assoc] at ih
      rw [List.map_cons, spans] at hr
      rcases List.mem_cons.mp hr with rfl | hr
      · exact ⟨hfirst, hnext⟩
      · exact ih r hr

theorem texts_spans (texts : List String) :
    texts? (texts.map Bytes.ofText).flatten.toArray (spans 0 (texts.map Bytes.ofText)) =
      some texts := by
  have hparted := boundary_spans texts []
  have hbytes := bytes_spans (texts.map Bytes.ofText) []
  rw [List.length_nil] at hparted hbytes
  rw [List.nil_append] at hbytes
  have hread : (texts.map Bytes.ofText).mapM (fun b => Bytes.toText? b) = some texts := by
    rw [List.mapM_map]
    clear hparted hbytes
    induction texts with
    | nil => rfl
    | cons t rest ih =>
        rw [List.mapM_cons, ih, Function.comp_apply, Bytes.toText_ofText]
        rfl
  have hall : (spans 0 (texts.map Bytes.ofText)).all (fun r =>
      isBoundary (texts.map Bytes.ofText).flatten.toArray r.1 &&
        isBoundary (texts.map Bytes.ofText).flatten.toArray r.2) = true := by
    rw [List.all_eq_true]
    intro r hr
    rw [Bool.and_eq_true]
    exact hparted r hr
  rw [texts?, hall, Bool.or_true, if_pos rfl]
  rw [← hread]
  conv_rhs => rw [← hbytes, List.mapM_map]
  rfl

/-! ## Cells -/

section Cells

variable {start length : Nat} {s : Source} {nodes : List Node} {buffers : List Bytes}

theorem getD_ofText (c : Option String) : (c.map Bytes.ofText).getD [] = Bytes.ofText (c.getD "") := by
  cases c <;> rfl

/-- One bit for each cell is read back. -/
theorem readBits_of_holds {whole : Array (Option Bool)} (h : start + length ≤ whole.size)
    (hs : s.Holds ((Part.ofRange .bool whole start length).nodes ++ nodes)
      ((Part.ofRange .bool whole start length).buffers ++ buffers)) :
    ∃ s', readCells? .bool s = some (window whole start length, s') ∧ s'.Holds nodes buffers := by
  obtain ⟨present, s₁, hpresent, hs₁, hbits⟩ := present_of_holds h hs
  obtain ⟨s₂, hbuffer, hs₂⟩ := Source.buffer_of_holds hs₁
  refine ⟨s₂, ?_, hs₂⟩
  simp only [readCells?, hpresent, hbuffer, Option.bind_eq_bind, Option.bind_some]
  rw [if_pos (by rw [List.size_toArray]; exact bitmapBytes_le_packed _ h)]
  refine congrArg (fun a => some (a, s₂)) (cells_eq (size_window h) (fun i hi => ?_)
    fun i hi v hv => ?_)
  · have hi' : i < length := Nat.lt_of_lt_of_eq hi (size_window h)
    exact (hbits i hi').trans (congrArg Option.isSome (getElem_window h hi' hi).symm)
  · have hi' : i < length := Nat.lt_of_lt_of_eq hi (size_window h)
    have hv' : whole[start + i] = some v := (getElem_window h hi' hi).symm.trans hv
    rw [bit_packed _ h hi', hv']
    rfl

/-- Runs that stand for cells are read back if each cell is known by its run. -/
theorem masked_of_contents {α : Type} {whole : Array (Option α)} {present : Nat → Bool}
    {values : List α} (h : start + length ≤ whole.size)
    (hbits : ∀ i (hi : i < length), present i = whole[start + i].isSome) (default : α)
    (hvalues : values = (window whole start length).toList.map fun c => c.getD default) :
    masked present values = window whole start length := by
  subst hvalues
  refine masked_eq (by simp) (fun i hi => ?_) fun i hi v hv => ?_
  · rw [size_window h] at hi
    rw [hbits i hi, getElem_window h hi]
  · simp [hv]

theorem readTexts_of_holds {large : Bool} {whole : Array (Option String)}
    (h : start + length ≤ whole.size)
    (hs : s.Holds ((Part.ofRange (.text large) whole start length).nodes ++ nodes)
      ((Part.ofRange (.text large) whole start length).buffers ++ buffers)) :
    ∃ s', readCells? (.text large) s = some (window whole start length, s') ∧
      s'.Holds nodes buffers := by
  have hcontents : ((window whole start length).toList.map fun c => (c.map Bytes.ofText).getD []) =
      ((window whole start length).toList.map fun c => c.getD "").map Bytes.ofText := by
    rw [List.map_map]
    exact List.map_congr_left fun c _ => getD_ofText c
  have hs' : s.Holds ((Part.ofCells whole start length (runs (placeWidth large)
        (((window whole start length).toList.map fun c => c.getD "").map Bytes.ofText))).nodes ++ nodes)
      ((Part.ofCells whole start length (runs (placeWidth large)
        (((window whole start length).toList.map fun c => c.getD "").map Bytes.ofText))).buffers ++
          buffers) := by
    rw [← hcontents]
    exact hs
  have hwidth : 2 ^ 31 ≤ 256 ^ placeWidth large := by cases large <;> decide
  obtain ⟨present, s₁, hruns, hs₁, hbits⟩ := readRuns_of_holds hwidth (by simp [size_window h]) h hs'
  refine ⟨s₁, ?_, hs₁⟩
  simp only [readCells?, hruns, texts_spans, Option.bind_eq_bind, Option.bind_some]
  exact congrArg (fun a => some (a, s₁)) (masked_of_contents h hbits "" rfl)

theorem readBinary_of_holds {whole : Array (Option Bytes)} (h : start + length ≤ whole.size)
    (hs : s.Holds ((Part.ofRange .binary whole start length).nodes ++ nodes)
      ((Part.ofRange .binary whole start length).buffers ++ buffers)) :
    ∃ s', readCells? .binary s = some (window whole start length, s') ∧ s'.Holds nodes buffers := by
  have hlen : ((window whole start length).toList.map fun c => c.getD []).length = length := by
    rw [List.length_map, Array.length_toList, size_window h]
  obtain ⟨present, s₁, hruns, hs₁, hbits⟩ := readRuns_of_holds (by decide) hlen h hs
  have hbytes := bytes_spans ((window whole start length).toList.map fun c => c.getD []) []
  refine ⟨s₁, ?_, hs₁⟩
  simp only [readCells?, hruns, Option.bind_eq_bind, Option.bind_some]
  exact congrArg (fun a => some (a, s₁)) (masked_of_contents h hbits [] hbytes)

theorem ofNat_bits {p : Precision} (x : Binary p) :
    (⟨BitVec.ofNat p.width x.bits.toNat⟩ : Binary p) = x := by
  rw [BitVec.ofNat_toNat, BitVec.setWidth_eq]

/-- The items of one vector. -/
def vectorItems {n : Nat} :
    Option (Vector (Option (Binary .single)) n) → List (Option (Binary .single))
  | some v => v.toList
  | none => List.replicate n (some (Binary.ofMagnitude false 0))

theorem length_vectorItems {n : Nat} (c : Option (Vector (Option (Binary .single)) n)) :
    (vectorItems c).length = n := by
  cases c <;> simp [vectorItems]

theorem toList_items {n : Nat} (whole : Array (Option (Vector (Option (Binary .single)) n))) :
    (items whole).toList = whole.toList.flatMap vectorItems := by
  rw [items, Array.toList_flatMap]
  refine congrArg (whole.toList.flatMap ·) (funext fun c => ?_)
  cases c <;> simp [vectorItems, Vector.toList]

theorem size_items {n : Nat} (whole : Array (Option (Vector (Option (Binary .single)) n))) :
    (items whole).size = whole.size * n := by
  rw [← Array.length_toList, toList_items, Bytes.length_flatMap_const length_vectorItems,
    Array.length_toList, Nat.mul_comm]

/-- The items of a vector, among the items of all. -/
theorem getElem_items {n : Nat} {whole : Array (Option (Vector (Option (Binary .single)) n))}
    {i : Nat} (hi : i < whole.size) {v : Vector (Option (Binary .single)) n}
    (hv : whole[i] = some v) (j : Fin n) : (items whole)[i * n + j.val]? = some v[j] := by
  have hi' : i < whole.toList.length := hi
  have hrun := Bytes.take_drop_flatMap length_vectorItems whole.toList i hi'
  rw [← toList_items, Array.getElem_toList, hv, Nat.mul_comm] at hrun
  have hget := congrArg (·[j.val]?) hrun
  simp only [List.getElem?_take, List.getElem?_drop, j.isLt, if_true] at hget
  rw [← Array.getElem?_toList, hget, vectorItems]
  simp

theorem readVectors_of_holds {n : VectorLength}
    {whole : Array (Option (Vector (Option (Binary .single)) n.val))}
    (h : start + length ≤ whole.size)
    (hs : s.Holds ((Part.ofRange (.vector n) whole start length).nodes ++ nodes)
      ((Part.ofRange (.vector n) whole start length).buffers ++ buffers)) :
    ∃ s', readCells? (.vector n) s = some (window whole start length, s') ∧
      s'.Holds nodes buffers := by
  have hinner : start * n.val + length * n.val ≤ (items whole).size := by
    rw [size_items, ← Nat.add_mul]
    exact Nat.mul_le_mul_right _ h
  obtain ⟨present, s₁, hpresent, hs₁, hbits⟩ := present_of_holds  h hs
  obtain ⟨s₂, hread, hs₂⟩ := readNumbers_of_holds
    (fun k => (⟨BitVec.ofNat 32 k⟩ : Binary .single)) ofNat_bits (fun x => x.bits.isLt) hinner hs₁
  have hsize := size_window hinner
  refine ⟨s₂, ?_, hs₂⟩
  simp only [readCells?, hpresent, hread, Option.bind_eq_bind, Option.bind_some]
  rw [if_pos (Nat.le_of_eq hsize.symm)]
  refine congrArg (fun a => some (a, s₂)) (cells_eq (size_window h) (fun i hi => ?_)
    fun i hi (v : Vector (Option (Binary .single)) n.val) hv => ?_)
  · have hi' : i < length := Nat.lt_of_lt_of_eq hi (size_window h)
    exact (hbits i hi').trans (congrArg Option.isSome (getElem_window h hi' hi).symm)
  · have hi' : i < length := Nat.lt_of_lt_of_eq hi (size_window h)
    have hv' : whole[start + i] = some v := (getElem_window h hi' hi).symm.trans hv
    apply Vector.ext
    intro j hj
    have hmul := Nat.mul_le_mul_right n.val hi'
    rw [Nat.succ_mul] at hmul
    have hk : i * n.val + j < length * n.val := by omega
    have hplace : start * n.val + (i * n.val + j) = (start + i) * n.val + j := by
      rw [Nat.add_mul, Nat.add_assoc]
    have hitem := getElem_items (Nat.lt_of_lt_of_le (Nat.add_lt_add_left hi' start) h) hv' ⟨j, hj⟩
    have hcell : (window (items whole) (start * n.val) (length * n.val))[i * n.val + j]? =
        some v[j] := by
      rw [Array.getElem?_eq_getElem (by rw [hsize]; exact hk), getElem_window hinner hk,
        ← Array.getElem?_eq_getElem, hplace]
      exact hitem
    rw [Vector.getElem_ofFn, Array.getD_eq_getD_getElem?, hcell]
    rfl

/-- What the reader takes from a body for a range of stored cells is the range. -/
theorem readCells_of_holds (t : DataType) {whole : Array (Option t.Value)}
    (h : start + length ≤ whole.size)
    (hs : s.Holds ((Part.ofRange t whole start length).nodes ++ nodes)
      ((Part.ofRange t whole start length).buffers ++ buffers)) :
    ∃ s', readCells? t s = some (window whole start length, s') ∧ s'.Holds nodes buffers := by
  cases t with
  | int signed w =>
      have hlt : ∀ v : BitVec w.bits, v.toNat < 256 ^ w.bytes := fun v => by
        have := v.isLt
        cases w <;> exact this
      have hvalue : ∀ v : BitVec w.bits, BitVec.ofNat w.bits v.toNat = v := fun v => by
        rw [BitVec.ofNat_toNat, BitVec.setWidth_eq]
      exact readNumbers_of_holds (BitVec.ofNat w.bits) hvalue hlt h hs
  | float p =>
      have hlt : ∀ x : Binary p, x.bits.toNat < 256 ^ (p.width / 8) := fun x => by
        have := x.bits.isLt
        cases p <;> exact this
      exact readNumbers_of_holds (fun n => (⟨BitVec.ofNat p.width n⟩ : Binary p)) ofNat_bits hlt h hs
  | text large => exact readTexts_of_holds h hs
  | bool => exact readBits_of_holds h hs
  | date =>
      have hvalue : ∀ v : BitVec 32, BitVec.ofNat 32 v.toNat = v := fun v => by
        rw [BitVec.ofNat_toNat, BitVec.setWidth_eq]
      exact readNumbers_of_holds (BitVec.ofNat 32) hvalue (fun v : BitVec 32 => v.isLt) h hs
  | binary => exact readBinary_of_holds h hs
  | vector n => exact readVectors_of_holds h hs

end Cells

/-! ## Columns and batches -/

theorem head_nodes (t : DataType) (whole : Array (Option t.Value)) (start length : Nat) :
    ∃ nulls rest, (Part.ofRange t whole start length).nodes = (length, nulls) :: rest := by
  cases t <;> exact ⟨_, _, rfl⟩

theorem readColumns_of_holds {rows : Nat} : ∀ {columns : List Column} {s : Source},
    (∀ c ∈ columns, c.length = rows) →
      s.Holds ((columns.map Part.ofColumn).flatMap Part.nodes)
        ((columns.map Part.ofColumn).flatMap Part.buffers) →
      readColumns? rows (columns.map Column.field) s = some (columns.map Column.compact)
  | [], _, _, _ => rfl
  | c :: rest, s, hlen, hs => by
      obtain ⟨nulls, others, hnodes⟩ := head_nodes c.type c.whole c.start c.length
      have hhead : s.nodes.head?.map (·.1) = some rows := by
        rw [hs.left, List.map_cons, List.flatMap_cons, Part.ofColumn, hnodes]
        exact congrArg some (hlen c List.mem_cons_self)
      obtain ⟨s', hread, hs'⟩ := readCells_of_holds c.type c.inside hs
      have ih := readColumns_of_holds (fun c hc => hlen c (List.mem_cons_of_mem _ hc)) hs'
      have hcompact : c.compact =
          Column.ofCells c.name c.nullable c.type (window c.whole c.start c.length) := by
        rw [Column.compact, Column.cells, Array.toArray_toList]
        rfl
      have hfield : readCells? c.field.type s = some (window c.whole c.start c.length, s') := hread
      simp only [List.map_cons, readColumns?, hhead, guard, if_true, hfield, hcompact]
      exact congrArg (fun l : Option (List Column) => l.bind fun columns => some (Column.ofCells
        c.name c.nullable c.type (window c.whole c.start c.length) :: columns)) ih

theorem part_nodes_lt {α : Type} {whole : Array (Option α)} {start length : Nat}
    {bufs : List Bytes} (h : start + length ≤ whole.size)
    (hshort : ∀ b ∈ (Part.ofCells whole start length bufs).buffers, b.length < 2 ^ 31) :
    ∀ p ∈ (Part.ofCells whole start length bufs).nodes, p.1 < 2 ^ 64 ∧ p.2 < 2 ^ 64 := by
  intro p hp
  have hbits := bitmapBytes_le_validity h
  have hvalid := hshort _ List.mem_cons_self
  have hcount := List.countP_le_length (p := Option.isNone) (l := (window whole start length).toList)
  rw [Array.length_toList, size_window h] at hcount
  rw [List.mem_singleton.mp hp]
  simp only [bitmapBytes] at hbits
  refine ⟨by dsimp only; omega, Nat.lt_of_le_of_lt hcount (by omega)⟩

theorem vector_nodes_lt {n : VectorLength}
    {whole : Array (Option (Vector (Option (Binary .single)) n.val))} {start length : Nat}
    (h : start + length ≤ whole.size)
    (hshort : ∀ b ∈ (Part.ofRange (.vector n) whole start length).buffers, b.length < 2 ^ 31) :
    ∀ p ∈ (Part.ofRange (.vector n) whole start length).nodes, p.1 < 2 ^ 64 ∧ p.2 < 2 ^ 64 := by
  have hinner : start * n.val + length * n.val ≤ (items whole).size := by
    rw [size_items, ← Nat.add_mul]
    exact Nat.mul_le_mul_right _ h
  intro p hp
  rcases List.mem_append.mp hp with hp | hp
  · exact part_nodes_lt h (fun b hb => hshort b (List.mem_append_left _ hb)) p hp
  · exact part_nodes_lt hinner (fun b hb => hshort b (List.mem_append_right _ hb)) p hp

/-- The lengths of columns that fit into buffers fit into nodes. -/
theorem nodes_lt (t : DataType) {whole : Array (Option t.Value)} {start length : Nat}
    (h : start + length ≤ whole.size)
    (hshort : ∀ b ∈ (Part.ofRange t whole start length).buffers, b.length < 2 ^ 31) :
    ∀ p ∈ (Part.ofRange t whole start length).nodes, p.1 < 2 ^ 64 ∧ p.2 < 2 ^ 64 := by
  cases t with
  | vector n => exact vector_nodes_lt h hshort
  | _ => exact part_nodes_lt h hshort

/-- The places and lengths of buffers lie inside the body. -/
theorem extents_le (buffers : List Bytes) :
    ∀ e ∈ extents buffers, e.1 + e.2 ≤ (body buffers).length :=
  forall_right (extents_hold buffers []).flip (fun _ _ => trivial) fun b e _ he => by
    simp only [Data.part?, List.nil_append, List.size_toArray] at he
    split at he
    · assumption
    · cases he

/-- The buffers of a batch. -/
abbrev buffersOf (b : Batch) : List Bytes := (b.columns.map Part.ofColumn).flatMap Part.buffers

/-- The nodes of a batch. -/
abbrev nodesOf (b : Batch) : List Node := (b.columns.map Part.ofColumn).flatMap Part.nodes

theorem nodesOf_lt {b : Batch} (h : (body (buffersOf b)).length < 2 ^ 31) :
    ∀ p ∈ nodesOf b, p.1 < 2 ^ 64 ∧ p.2 < 2 ^ 64 := by
  intro p hp
  obtain ⟨part, hpart, hp⟩ := List.mem_flatMap.mp hp
  obtain ⟨c, hc, rfl⟩ := List.mem_map.mp hpart
  refine nodes_lt c.type c.inside (fun buffer hb => ?_) p hp
  exact Nat.lt_of_le_of_lt (length_le_body (List.mem_flatMap.mpr ⟨_, hpart, hb⟩)) h

/-- A batch is read back from its nodes and its body, if that is not too long. -/
theorem readBatch_of_body {b : Batch} (h : (body (buffersOf b)).length < 2 ^ 31) :
    readBatch? b.schema ⟨b.rows, nodesOf b, extents (buffersOf b), false⟩
      (body (buffersOf b)).toArray = some b.compact := by
  have hread := readColumns_of_holds b.aligned (source_holds (nodesOf b) h)
  rw [readBatch?]
  simp only [Batch.schema, hread, Option.bind_eq_bind, Option.bind_some]
  exact dif_pos ⟨b.compact.aligned, b.compact.sound⟩

end Columnar.Wire

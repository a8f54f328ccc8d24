/-
# `Proofs.Wire.Growth` — the buffers of one row and of a range of rows

A row alone takes no more bytes than a range of rows that it lies in, buffer
by buffer, with one exception.  A bitmap keeps the places of the stored
column, so the bitmap of a row at a multiple of eight goes on to the end of
the stored cells, while that of a longer range which begins elsewhere ends
with the range.  It does no harm as long as those bits fit into one unit, and
where no bits are stored it does not come to it.  `Column.Steady` is what it
takes that a row is no such exception; the first row never is, since a range
that it lies in begins with it.
-/
import Mathlib.Data.List.Flatten
import Columnar.Proofs.Wire.Length

namespace Columnar.Wire

open Number

/-! ## Lengths -/

/-- The length of a buffer of `n` bytes when it is filled up. -/
def filledLength (n : Nat) : Nat := (n + 63) / 64 * 64

theorem length_filled (b : Bytes) : (Bytes.padded unit b).length = filledLength b.length := by
  rw [Bytes.length_padded, Bytes.gap, filledLength, show unit = 64 from rfl]
  omega

theorem filledLength_mono {m n : Nat} (h : m ≤ n) : filledLength m ≤ filledLength n := by
  rw [filledLength, filledLength]
  omega

/-- Whatever fits into one unit takes no more than something does. -/
theorem filledLength_le_of_unit {m n : Nat} (hm : m ≤ 64) (hn : 0 < n) :
    filledLength m ≤ filledLength n := by
  rw [filledLength, filledLength]
  omega

theorem length_body_cons (b : Bytes) (rest : List Bytes) :
    (body (b :: rest)).length = filledLength b.length + (body rest).length := by
  rw [body, List.map_cons, List.flatten_cons, List.length_append, length_filled, body]

/-- Buffers that take no more bytes than others, one by one. -/
abbrev NoLonger (buffers buffers' : List Bytes) : Prop :=
  List.Forall₂ (fun b b' => filledLength b.length ≤ filledLength b'.length) buffers buffers'

theorem NoLonger.length_body {buffers buffers' : List Bytes} (h : NoLonger buffers buffers') :
    (body buffers).length ≤ (body buffers').length := by
  induction h with
  | nil => exact Nat.le_refl _
  | cons hfirst _ ih =>
      rw [length_body_cons, length_body_cons]
      exact Nat.add_le_add hfirst ih

/-! ## Bitmaps -/

theorem length_packed {α : Type} {whole : Array α} {start length : Nat} (bit : α → Bool)
    (h : start + length ≤ whole.size) : (packed bit whole start length).length =
      bitmapBytes (if start % 8 = 0 then whole.size - start else length) := by
  rw [packed, Bytes.length_ofBits, Array.size_map, Array.size_extract, bitmapBytes]
  split <;> omega

theorem length_validity_of_all {α : Type} {whole : Array (Option α)} {start length : Nat}
    (h : (whole.extract start (start + length)).all Option.isSome = true) :
    (validity whole start length).length = bitmapBytes length := by
  rw [validity, if_pos h, List.length_replicate]

section
variable {α : Type} {start length row k : Nat}

/-- The bits of a part of a range, if the part begins where the range does, or within a byte, or at
most 512 bits are stored from there on. -/
theorem packed_le {whole : Array α} (bit : α → Bool) (hstart : start ≤ row)
    (hend : row + k ≤ start + length) (hsize : start + length ≤ whole.size)
    (hrest : row = start ∨ row % 8 ≠ 0 ∨ (0 < k ∧ whole.size - row ≤ 512)) :
    filledLength (packed bit whole row k).length ≤
      filledLength (packed bit whole start length).length := by
  rw [length_packed bit (Nat.le_trans hend hsize), length_packed bit hsize, bitmapBytes, bitmapBytes]
  rcases hrest with rfl | hwithin | ⟨hk, hshort⟩
  · refine filledLength_mono ?_
    split <;> omega
  · refine filledLength_mono ?_
    rw [if_neg hwithin]
    split <;> omega
  · refine filledLength_le_of_unit ?_ ?_
    · split <;> omega
    · split <;> omega

theorem all_of_range {whole : Array (Option α)} (hstart : start ≤ row)
    (hend : row + k ≤ start + length)
    (h : (whole.extract start (start + length)).all Option.isSome = true) :
    (whole.extract row (row + k)).all Option.isSome = true := by
  rw [Array.all_eq_true] at h ⊢
  intro i hi
  rw [Array.size_extract] at hi
  have hin := h (row - start + i) (by rw [Array.size_extract]; omega)
  rw [Array.getElem_extract] at hin ⊢
  have hplace : start + (row - start + i) = row + i := by omega
  rwa [getElem_congr_idx hplace] at hin

theorem validity_le {whole : Array (Option α)} (hstart : start ≤ row)
    (hend : row + k ≤ start + length) (hsize : start + length ≤ whole.size)
    (hrest : row = start ∨ row % 8 ≠ 0 ∨ (whole.extract row (row + k)).all Option.isSome = true ∨
      (0 < k ∧ whole.size - row ≤ 512)) :
    filledLength (validity whole row k).length ≤
      filledLength (validity whole start length).length := by
  by_cases hrow : (whole.extract row (row + k)).all Option.isSome = true
  · have hle := bitmapBytes_le_validity hsize
    rw [length_validity_of_all hrow]
    rw [bitmapBytes] at hle ⊢
    exact filledLength_mono (by omega)
  · have hrange : ¬ (whole.extract start (start + length)).all Option.isSome = true :=
      fun hall => hrow (all_of_range hstart hend hall)
    rw [validity, if_neg hrow, validity, if_neg hrange]
    exact packed_le _ hstart hend hsize (hrest.imp id fun h => h.imp id fun h => h.resolve_left hrow)

end

/-! ## Values -/

/-- The cells of a part of a range are among those of the range. -/
theorem extract_sublist {α : Type} {whole : Array α} {start length row k : Nat}
    (hstart : start ≤ row) (hend : row + k ≤ start + length) :
    List.Sublist (whole.extract row (row + k)).toList
      (whole.extract start (start + length)).toList := by
  have hpart : (whole.extract row (row + k)).toList =
      (((whole.extract start (start + length)).toList).drop (row - start)).take k := by
    have hplace : start + (row - start) = row := by omega
    have hlength : row + k - row = k := by omega
    have hleast : min k (start + length - start - (row - start)) = k := by omega
    rw [Array.toList_extract, Array.toList_extract, List.extract_eq_take_drop,
      List.extract_eq_take_drop, List.drop_take, List.drop_drop, List.take_take, hplace, hlength,
      hleast]
  rw [hpart]
  exact (List.take_sublist _ _).trans (List.drop_sublist _ _)

theorem numbers_le {α : Type} (width : Nat) (number : α → Nat) {cells cells' : List (Option α)}
    (h : List.Sublist cells cells') :
    filledLength (numbers width number cells).length ≤
      filledLength (numbers width number cells').length :=
  filledLength_mono (h.flatMap _).length_le

/-- Fewer runs need fewer places, and have fewer bytes. -/
theorem runs_le (width : Nat) {contents contents' : List Bytes} (h : List.Sublist contents contents')
    (hne : contents ≠ []) : NoLonger (runs width contents) (runs width contents') := by
  have hne' : contents' ≠ [] := fun hnil => hne (List.sublist_nil.mp (hnil ▸ h))
  have hplaces : ∀ contents : List Bytes,
      ((contents.scanl (fun n b => n + b.length) 0).flatMap (Bytes.ofNat width)).length =
        width * (contents.length + 1) := by
    intro contents
    rw [Bytes.length_flatMap_const (fun n => Bytes.length_ofNat width n), List.length_scanl]
  rw [runs, if_neg (by simpa using hne), runs, if_neg (by simpa using hne')]
  refine .cons (filledLength_mono ?_) (.cons (filledLength_mono h.flatten.length_le) .nil)
  rw [hplaces, hplaces]
  exact Nat.mul_le_mul_left _ (Nat.succ_le_succ h.length_le)

end Columnar.Wire

namespace Columnar

open Number

/-! ## Columns -/

namespace DataType

/-- Bits are stored for the cell: it is a boolean, or there is a NULL in it. -/
def storesBits : (t : DataType) → Option t.Value → Bool
  | bool, _ => true
  | vector _, c => c.elim true fun v => anyNull v.toArray
  | _, c => c.isNone

/-- How many bits a cell has in the widest bitmap of its column. -/
def bitsPerCell : DataType → Nat
  | vector n => max 1 n.val
  | _ => 1

theorem storesBits_none (t : DataType) : t.storesBits none = true := by
  cases t <;> rfl

theorem one_le_bitsPerCell (t : DataType) : 1 ≤ t.bitsPerCell := by
  cases t with
  | vector n => exact Nat.le_max_left _ _
  | _ => exact Nat.le_refl _

/-- The bits of a stored cell begin within a byte, or there are none, or at most 512 bits are stored
from them on. -/
def Steady (t : DataType) (whole : Array (Option t.Value)) (place : Nat) : Prop :=
  ∀ h : place < whole.size, place * t.bitsPerCell % 8 = 0 → t.storesBits whole[place] = true →
    (whole.size - place) * t.bitsPerCell ≤ 512

instance (t : DataType) (whole : Array (Option t.Value)) (place : Nat) :
    Decidable (t.Steady whole place) :=
  inferInstanceAs (Decidable (∀ h : place < whole.size, place * t.bitsPerCell % 8 = 0 →
    t.storesBits whole[place] = true → (whole.size - place) * t.bitsPerCell ≤ 512))

end DataType

/-- A row is the first one of its column, or its cell is steady. -/
def Column.Steady (c : Column) (row : Nat) : Prop := 0 < row → c.type.Steady c.whole (c.start + row)

instance (c : Column) (row : Nat) : Decidable (c.Steady row) :=
  inferInstanceAs (Decidable (0 < row → c.type.Steady c.whole (c.start + row)))

/-- A row is steady in all columns. -/
def Batch.Steady (b : Batch) (row : Nat) : Prop := ∀ c ∈ b.columns, c.Steady row

instance (b : Batch) (row : Nat) : Decidable (b.Steady row) :=
  inferInstanceAs (Decidable (∀ c ∈ b.columns, c.Steady row))

namespace Wire

section
variable {start length row : Nat}

/-- The bitmap of a row alone and that of a range. -/
theorem validity_row_le (t : DataType) {whole : Array (Option t.Value)} (hstart : start ≤ row)
    (hend : row < start + length) (hsize : start + length ≤ whole.size)
    (hsteady : row = start ∨ t.Steady whole row) :
    filledLength (validity whole row 1).length ≤
      filledLength (validity whole start length).length := by
  refine validity_le hstart hend hsize (hsteady.imp id fun hsteady => ?_)
  refine or_iff_not_imp_left.mpr fun hwithin => ?_
  have hplace : row % 8 = 0 := not_not.mp hwithin
  cases hcell : whole[row] with
  | some v =>
      refine .inl (Array.all_eq_true.mpr fun i hi => ?_)
      rw [Array.size_extract] at hi
      have hzero : row + i = row := by omega
      rw [Array.getElem_extract, getElem_congr_idx hzero, hcell]
      rfl
  | none =>
      have hshort := hsteady (by omega) (by rw [Nat.mul_mod, hplace, Nat.zero_mul, Nat.zero_mod])
        (hcell ▸ t.storesBits_none)
      have hbits := Nat.mul_le_mul_left (whole.size - row) t.one_le_bitsPerCell
      exact .inr ⟨Nat.one_pos, by omega⟩

/-- Where no bits are stored for a vector, none of its items is NULL. -/
theorem all_items_of_bits {n : VectorLength}
    {whole : Array (Option (Vector (Option (Binary .single)) n.val))} {hrow : row < whole.size}
    (hbits : (DataType.vector n).storesBits whole[row] = false) :
    ((items whole).extract (row * n.val) (row * n.val + n.val)).all Option.isSome = true := by
  cases hcell : whole[row] with
  | none =>
      rw [hcell] at hbits
      cases hbits
  | some v =>
      rw [hcell] at hbits
      have hitems : v.toArray.any Option.isNone = false := hbits
      rw [Array.any_eq_false] at hitems
      refine Array.all_eq_true.mpr fun i hi => ?_
      rw [Array.size_extract] at hi
      have hi' : i < n.val := by omega
      have hitem : (items whole)[row * n.val + i]? = some v[i] := getElem_items hrow hcell ⟨i, hi'⟩
      rw [Array.getElem_extract]
      rw [Array.getElem?_eq_getElem (by omega), Option.some.injEq] at hitem
      have hsome := hitems i (by rw [Vector.size_toArray]; exact hi')
      rw [hitem]
      simpa [Option.isSome_iff_ne_none] using hsome

/-- The items of a row alone and those of a range. -/
theorem items_row_le {n : VectorLength}
    {whole : Array (Option (Vector (Option (Binary .single)) n.val))} (hstart : start ≤ row)
    (hend : row < start + length) (hsize : start + length ≤ whole.size) {k : Nat} (hk : k = n.val)
    (hsteady : row = start ∨ (DataType.vector n).Steady whole row) :
    filledLength (validity (items whole) (row * n.val) k).length ≤
      filledLength (validity (items whole) (start * n.val) (length * n.val)).length := by
  subst hk
  have hend' : row * n.val + n.val ≤ start * n.val + length * n.val := by
    rw [← Nat.succ_mul, ← Nat.add_mul]
    exact Nat.mul_le_mul_right _ hend
  have hsize' : start * n.val + length * n.val ≤ (items whole).size := by
    rw [size_items, ← Nat.add_mul]
    exact Nat.mul_le_mul_right _ hsize
  refine validity_le (Nat.mul_le_mul_right _ hstart) hend' hsize' ?_
  rcases hsteady with rfl | hsteady
  · exact .inl rfl
  · by_cases hn : n.val = 0
    · exact .inl (by rw [hn, Nat.mul_zero, Nat.mul_zero])
    · have hrow : row < whole.size := by omega
      have hwidest : (DataType.vector n).bitsPerCell = n.val :=
        Nat.max_eq_right (Nat.pos_of_ne_zero hn)
      refine .inr (or_iff_not_imp_left.mpr fun hwithin => ?_)
      cases hbits : (DataType.vector n).storesBits whole[row] with
      | false => exact .inl (all_items_of_bits hbits)
      | true =>
          have hshort : (whole.size - row) * (DataType.vector n).bitsPerCell ≤ 512 :=
            hsteady hrow (hwidest ▸ not_not.mp hwithin) hbits
          rw [hwidest, Nat.sub_mul, ← size_items] at hshort
          exact .inr ⟨Nat.pos_of_ne_zero hn, hshort⟩

/-- The buffers of a row alone and those of a range that it lies in. -/
theorem buffers_row_le (t : DataType) {whole : Array (Option t.Value)} (hstart : start ≤ row)
    (hend : row < start + length) (hsize : start + length ≤ whole.size)
    (hsteady : row = start ∨ t.Steady whole row) :
    NoLonger (Part.ofRange t whole row 1).buffers (Part.ofRange t whole start length).buffers := by
  have hvalidity := validity_row_le t hstart hend hsize hsteady
  have hcells : List.Sublist (whole.extract row (row + 1)).toList
      (whole.extract start (start + length)).toList := extract_sublist hstart hend
  have hne : (whole.extract row (row + 1)).toList ≠ [] := by
    have hlength : (whole.extract row (row + 1)).toList.length = 1 := by
      rw [Array.length_toList, Array.size_extract]
      omega
    intro hnil
    rw [hnil] at hlength
    cases hlength
  cases t with
  | int signed w => exact .cons hvalidity (.cons (numbers_le _ _ hcells) .nil)
  | float p => exact .cons hvalidity (.cons (numbers_le _ _ hcells) .nil)
  | date => exact .cons hvalidity (.cons (numbers_le _ _ hcells) .nil)
  | text large =>
      exact .cons hvalidity
        (runs_le _ (hcells.map _) fun hnil => hne (List.map_eq_nil_iff.mp hnil))
  | binary =>
      exact .cons hvalidity
        (runs_le _ (hcells.map _) fun hnil => hne (List.map_eq_nil_iff.mp hnil))
  | bool =>
      refine .cons hvalidity (.cons ?_ .nil)
      refine packed_le _ hstart hend hsize (hsteady.imp id fun hsteady => ?_)
      refine or_iff_not_imp_left.mpr fun hwithin => ⟨Nat.one_pos, ?_⟩
      have hshort : (whole.size - row) * 1 ≤ 512 :=
        hsteady (by omega) ((Nat.mul_one row).symm ▸ not_not.mp hwithin) rfl
      rwa [Nat.mul_one] at hshort
  | vector n =>
      have hrows : row * n.val + 1 * n.val ≤ start * n.val + length * n.val := by
        rw [← Nat.add_mul, ← Nat.add_mul]
        exact Nat.mul_le_mul_right _ hend
      exact .cons hvalidity (.cons (items_row_le hstart hend hsize (Nat.one_mul _) hsteady)
        (.cons (numbers_le _ _ (extract_sublist (Nat.mul_le_mul_right _ hstart) hrows)) .nil))

end

/-! ## Batches -/

theorem noLonger_flatMap {columns : List Column} {f g : Column → List Bytes}
    (h : ∀ c ∈ columns, NoLonger (f c) (g c)) : NoLonger (columns.flatMap f) (columns.flatMap g) := by
  induction columns with
  | nil => exact .nil
  | cons c rest ih =>
      obtain ⟨hfirst, hrest⟩ := List.forall_mem_cons.mp h
      exact List.rel_append hfirst (ih hrest)

theorem buffersOf_slice (b : Batch) (offset rows : Nat) :
    buffersOf (b.slice offset rows) =
      b.columns.flatMap fun c => (Part.ofColumn (c.slice offset rows)).buffers := by
  rw [buffersOf, Batch.slice, List.map_map, List.flatMap_map]
  rfl

theorem part_slice {c : Column} {offset rows : Nat} (h : offset + rows ≤ c.length) :
    Part.ofColumn (c.slice offset rows) = Part.ofRange c.type c.whole (c.start + offset) rows := by
  have hstart : min offset c.length = offset := by omega
  have hlength : min rows (c.length - offset) = rows := by omega
  simp only [Part.ofColumn, hstart, hlength]

section
variable {b : Batch} {offset rows row : Nat}

/-- A steady row alone takes no more bytes than a range of rows that it lies in. -/
theorem length_row_le (hsteady : b.Steady row) (hstart : offset ≤ row)
    (hend : row < offset + rows) (hrows : offset + rows ≤ b.rows) :
    (encodeBatch (b.slice row 1)).length ≤ (encodeBatch (b.slice offset rows)).length := by
  have hbody : bodyLength (b.slice row 1) ≤ bodyLength (b.slice offset rows) := by
    rw [bodyLength, bodyLength, buffersOf_slice, buffersOf_slice]
    refine NoLonger.length_body (noLonger_flatMap fun c hc => ?_)
    have hlength := b.aligned c hc
    have hinside := c.inside
    rw [part_slice (by omega), part_slice (by omega)]
    refine buffers_row_le c.type (Nat.add_le_add_left hstart _) (by omega) (by omega) ?_
    rcases Nat.eq_or_lt_of_le hstart with rfl | hlater
    · exact .inl rfl
    · exact .inr (hsteady c hc (Nat.zero_lt_of_lt hlater))
  have hsame : (b.slice row 1).schema = (b.slice offset rows).schema := by
    rw [b.schema_slice, b.schema_slice]
  have hrow : (b.slice row 1).rows = 1 := Nat.min_eq_left (by omega)
  have hrange : (b.slice offset rows).rows = rows := Nat.min_eq_left (by omega)
  have hlength := length_encodeBatch hsame (by omega) (by omega)
  omega

end

end Wire

end Columnar

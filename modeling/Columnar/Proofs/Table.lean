/-
# `Proofs.Table` — what a batch says, row by row

Batches that say the same can differ in what is stored outside of their
windows and in how much memory they count.  `Batch.table` forgets both: it is
the list of the rows, each with its cells in the order of the columns.  With
that, slicing is `take` and `drop` of rows, and putting batches together is
`flatten` — and it never fails for batches that serve the schema.
-/
import Columnar.Batch
import Columnar.Proofs.Sequence

namespace Columnar

/-! ## Rows -/

/-- A value of any type. -/
abbrev AnyValue := (t : DataType) × t.Value

namespace Column

/-- The cells of the column, each with its type. -/
def values (c : Column) : List (Option AnyValue) := c.cells.map (Option.map (Sigma.mk c.type))

theorem length_values (c : Column) : c.values.length = c.length := by
  rw [values, List.length_map, length_cells]

theorem sound_eq (c : Column) : c.sound = (c.nullable || c.values.all Option.isSome) := by
  rw [sound, values, List.all_map]
  congr 2
  funext v
  cases v <;> rfl

theorem values_slice (c : Column) (offset length : Nat) :
    (c.slice offset length).values = (c.values.drop offset).take length := by
  rw [values, cells_slice, values, List.map_take, List.map_drop]

/-- The column with nothing stored but its cells. -/
def compact (c : Column) : Column := ofCells c.name c.nullable c.type c.cells.toArray

theorem values_compact (c : Column) : c.compact.values = c.values := by
  rw [values, compact, cells_ofCells]
  rfl

theorem length_compact (c : Column) : c.compact.length = c.length := by
  rw [← length_values, values_compact, length_values]

theorem sound_compact (c : Column) : c.compact.sound = c.sound := by
  rw [sound_eq, sound_eq, values_compact]
  rfl

end Column

namespace Batch

/-- The cells of a row, in the order of the columns. -/
def row (b : Batch) (i : Nat) : List (Option AnyValue) := b.columns.map fun c => c.values.getD i none

/-- The rows of the batch. -/
def table (b : Batch) : List (List (Option AnyValue)) := (List.range b.rows).map b.row

theorem length_table (b : Batch) : b.table.length = b.rows := by
  rw [table, List.length_map, List.length_range]

/-- The batch with nothing stored but its cells. -/
def compact (b : Batch) : Batch where
  rows := b.rows
  columns := b.columns.map Column.compact
  aligned c hc := by
    obtain ⟨c', hc', rfl⟩ := List.mem_map.mp hc
    rw [c'.length_compact, b.aligned c' hc']
  sound c hc := by
    obtain ⟨c', hc', rfl⟩ := List.mem_map.mp hc
    rw [c'.sound_compact, b.sound c' hc']

theorem table_compact (b : Batch) : b.compact.table = b.table := by
  refine List.map_congr_left fun i _ => ?_
  rw [row, compact, List.map_map]
  refine List.map_congr_left fun c _ => ?_
  rw [Function.comp_apply, c.values_compact]

/-- The batches are equal in all that they say: the schema, the number of rows, and the rows. -/
structure Agrees (a b : Batch) : Prop where
  schema : a.schema = b.schema
  rows : a.rows = b.rows
  table : a.table = b.table

/-! ## Slices -/

theorem schema_slice (b : Batch) (offset length : Nat) :
    (b.slice offset length).schema = b.schema := by
  rw [schema, slice, List.map_map]
  rfl

theorem row_slice (b : Batch) (offset length : Nat) {i : Nat} (hi : i < length) :
    (b.slice offset length).row i = b.row (offset + i) := by
  rw [row, slice, List.map_map]
  refine List.map_congr_left fun c _ => ?_
  rw [Function.comp_apply, c.values_slice]
  simp [List.getD_eq_getElem?_getD, hi]

/-- A slice has the rows from `offset` on, `length` of them if there are as many. -/
theorem table_slice (b : Batch) (offset length : Nat) :
    (b.slice offset length).table = (b.table.drop offset).take length := by
  have hrows : (b.slice offset length).rows = min length (b.rows - offset) := rfl
  apply List.ext_getElem
  · simp [length_table, hrows]
  · intro i h₁ h₂
    rw [length_table, hrows] at h₁
    simp only [table, List.getElem_map, List.getElem_range, List.getElem_take, List.getElem_drop]
    exact b.row_slice offset length (Nat.lt_of_lt_of_le h₁ (Nat.min_le_left _ _))

/-! ## Batches one below the other -/

/-- The cells of the column with an index. -/
def columnValues (b : Batch) (j : Nat) : List (Option AnyValue) :=
  (b.columns[j]?.map Column.values).getD []

theorem length_columnValues {b : Batch} {j : Nat} (hj : j < b.columns.length) :
    (b.columnValues j).length = b.rows := by
  rw [columnValues, List.getElem?_eq_getElem hj, Option.map_some, Option.getD_some,
    Column.length_values, b.aligned _ (List.getElem_mem hj)]

theorem row_eq (b : Batch) (i : Nat) :
    b.row i = (List.range b.columns.length).map fun j => (b.columnValues j).getD i none := by
  apply List.ext_getElem
  · simp [row]
  · intro j h₁ h₂
    rw [row, List.length_map] at h₁
    simp [row, columnValues, h₁]

/-- The batch can stand under the schema: its columns have the types, and none holds NULL where it
must not. -/
def Serves (s : Schema) (b : Batch) : Prop :=
  List.Forall₂ (fun f c => c.type = f.type ∧ (f.nullable = true ∨ c.values.all Option.isSome = true))
    s b.columns

theorem serves_schema (b : Batch) : b.Serves b.schema := by
  rw [Serves, schema, List.forall₂_map_left_iff, List.forall₂_same]
  intro c hc
  have hsound := b.sound c hc
  rw [c.sound_eq, Bool.or_eq_true] at hsound
  exact ⟨rfl, hsound⟩

theorem Serves.get {s : Schema} {b : Batch} (h : b.Serves s) {j : Nat} {f : Field}
    (hf : s[j]? = some f) :
    ∃ c, b.columns[j]? = some c ∧ c.type = f.type ∧
      (f.nullable = true ∨ (b.columnValues j).all Option.isSome = true) := by
  obtain ⟨hj, rfl⟩ := List.getElem?_eq_some_iff.mp hf
  obtain ⟨hlen, hget⟩ := List.forall₂_iff_get.mp h
  obtain ⟨htype, hnull⟩ := hget j hj (hlen ▸ hj)
  have hc : b.columns[j]? = some b.columns[j] := List.getElem?_eq_getElem (hlen ▸ hj)
  refine ⟨b.columns[j], hc, htype, ?_⟩
  rw [columnValues, hc]
  exact hnull

/-- The cells of a column of the right type, under a field. -/
theorem cellsOf_of_type {f : Field} {c : Column} (h : c.type = f.type) :
    ∃ cells, cellsOf? f c = some cells ∧ cells.map (Option.map (Sigma.mk f.type)) = c.values := by
  obtain ⟨name, type, nullable⟩ := f
  dsimp only at h
  subst h
  exact ⟨c.cells, by simp [cellsOf?], rfl⟩

/-- Columns of the right type stand one below the other under a field. -/
theorem stack_of_types {f : Field} {columns : List Column} (h : ∀ c ∈ columns, c.type = f.type) :
    ∃ column, stack? f columns = some column ∧ column.field = f ∧
      column.values = columns.flatMap Column.values := by
  have hparts : ∃ parts, columns.mapM (cellsOf? f) = some parts ∧
      parts.flatten.map (Option.map (Sigma.mk f.type)) = columns.flatMap Column.values := by
    induction columns with
    | nil => exact ⟨[], rfl, rfl⟩
    | cons c rest ih =>
        obtain ⟨cells, hcells, hvalues⟩ := cellsOf_of_type (h c List.mem_cons_self)
        obtain ⟨parts, hparts, hrest⟩ := ih fun c hc => h c (List.mem_cons_of_mem _ hc)
        refine ⟨cells :: parts, ?_, ?_⟩
        · rw [List.mapM_cons, hcells, hparts]
          rfl
        · rw [List.flatten_cons, List.map_append, hvalues, hrest, List.flatMap_cons]
  obtain ⟨parts, hread, hvalues⟩ := hparts
  refine ⟨Column.ofCells f.name f.nullable f.type parts.flatten.toArray, ?_, rfl, ?_⟩
  · rw [stack?, hread]
    rfl
  · rw [Column.values, Column.cells_ofCells]
    exact hvalues

theorem sum_length_columnValues {s : Schema} {parts : List Batch} (h : ∀ b ∈ parts, b.Serves s)
    {j : Nat} (hj : j < s.length) :
    (parts.flatMap fun b => b.columnValues j).length = (parts.map Batch.rows).sum := by
  rw [List.length_flatMap]
  congr 1
  refine List.map_congr_left fun b hb => length_columnValues ?_
  rw [← (h b hb).length_eq]
  exact hj

/-- The rows of columns whose cells stand one below the other. -/
theorem rows_flatMap {n : Nat} : ∀ {parts : List Batch}, (∀ b ∈ parts, b.columns.length = n) →
    ((List.range (parts.map Batch.rows).sum).map fun i =>
      (List.range n).map fun j => (parts.flatMap fun b => b.columnValues j).getD i none) =
        (parts.map table).flatten
  | [], _ => rfl
  | b :: rest, h => by
      have hb := h b List.mem_cons_self
      have ih := rows_flatMap fun c hc => h c (List.mem_cons_of_mem _ hc)
      have hlen : ∀ j ∈ List.range n, (b.columnValues j).length = b.rows := fun j hj =>
        length_columnValues (hb ▸ List.mem_range.mp hj)
      rw [List.map_cons, List.sum_cons, List.range_add, List.map_append, List.map_cons,
        List.flatten_cons, ← ih, List.map_map]
      congr 1
      · refine List.map_congr_left fun i hi => ?_
        rw [row_eq, hb]
        refine List.map_congr_left fun j hj => ?_
        have hi' : i < (b.columnValues j).length := (hlen j hj).symm ▸ List.mem_range.mp hi
        rw [List.flatMap_cons, List.getD_eq_getElem?_getD, List.getElem?_append_left hi',
          List.getD_eq_getElem?_getD]
      · refine List.map_congr_left fun i _ => ?_
        refine List.map_congr_left fun j hj => ?_
        have hi' : (b.columnValues j).length ≤ b.rows + i := (hlen j hj).symm ▸ Nat.le_add_right _ _
        rw [List.flatMap_cons, List.getD_eq_getElem?_getD, List.getElem?_append_right hi',
          hlen j hj, Nat.add_sub_cancel_left, List.getD_eq_getElem?_getD]

/-- The columns with one index are there, with the type of the field. -/
theorem columns_of_serves {s : Schema} {j : Nat} {f : Field} (hf : s[j]? = some f) :
    ∀ {parts : List Batch}, (∀ b ∈ parts, b.Serves s) →
      ∃ columns, (parts.mapM fun (b : Batch) => b.columns[j]?) = some columns ∧
        (∀ c ∈ columns, c.type = f.type) ∧
        columns.flatMap Column.values = parts.flatMap fun b => b.columnValues j
  | [], _ => ⟨[], rfl, fun _ hc => absurd hc List.not_mem_nil, rfl⟩
  | b :: rest, h => by
      obtain ⟨c, hc, htype, -⟩ := (h b List.mem_cons_self).get hf
      obtain ⟨columns, hcolumns, htypes, hvalues⟩ :=
        columns_of_serves hf fun b hb => h b (List.mem_cons_of_mem _ hb)
      refine ⟨c :: columns, ?_, ?_, ?_⟩
      · rw [List.mapM_cons, hc, hcolumns]
        rfl
      · exact List.forall_mem_cons.mpr ⟨htype, htypes⟩
      · rw [List.flatMap_cons, List.flatMap_cons, hvalues, columnValues, hc]
        rfl

/-- The columns with one index stand one below the other. -/
theorem stack_of_serves {s : Schema} {parts : List Batch} (h : ∀ b ∈ parts, b.Serves s) {j : Nat}
    {f : Field} (hf : s[j]? = some f) :
    ∃ column, ((parts.mapM fun (b : Batch) => b.columns[j]?).bind (stack? f)) = some column ∧
      column.field = f ∧ column.values = parts.flatMap fun b => b.columnValues j := by
  obtain ⟨columns, hcolumns, htypes, hvalues⟩ := columns_of_serves hf h
  obtain ⟨column, hstack, hfield, hcolumn⟩ := stack_of_types htypes
  exact ⟨column, by rw [hcolumns]; exact hstack, hfield, hcolumn.trans hvalues⟩

/-- Batches that serve a schema make up a batch with their rows one below the other. -/
theorem concat_of_serves {s : Schema} {parts : List Batch} (h : ∀ b ∈ parts, b.Serves s) :
    ∃ b, concat? s parts = some b ∧ b.schema = s ∧ b.rows = (parts.map Batch.rows).sum ∧
      b.table = (parts.map table).flatten := by
  obtain ⟨columns, hcolumns, hall⟩ := mapM_forall₂ (l := s.zipIdx)
    (f := fun p => (parts.mapM fun (b : Batch) => b.columns[p.2]?).bind (stack? p.1))
    (R := fun p column => column.field = p.1 ∧
      column.values = parts.flatMap fun b => b.columnValues p.2) fun p hp =>
        stack_of_serves h (List.mem_zipIdx_iff_getElem?.mp hp)
  obtain ⟨hn, hget⟩ := List.forall₂_iff_get.mp hall
  rw [List.length_zipIdx] at hn
  have hcolumn : ∀ j (hj : j < columns.length), columns[j].field = s[j] ∧
      columns[j].values = parts.flatMap fun b => b.columnValues j := fun j hj => by
    have := hget j (by rw [List.length_zipIdx, hn]; exact hj) hj
    simpa using this
  have hschema : columns.map Column.field = s := by
    apply List.ext_getElem
    · rw [List.length_map, hn]
    · intro j h₁ h₂
      rw [List.getElem_map]
      exact (hcolumn j (hn ▸ h₂)).1
  have haligned : ∀ c ∈ columns, c.length = (parts.map Batch.rows).sum := fun c hc => by
    obtain ⟨j, hj, rfl⟩ := List.mem_iff_getElem.mp hc
    rw [← Column.length_values, (hcolumn j hj).2, sum_length_columnValues h (hn ▸ hj)]
  have hsound : ∀ c ∈ columns, c.sound = true := fun c hc => by
    obtain ⟨j, hj, rfl⟩ := List.mem_iff_getElem.mp hc
    obtain ⟨hfield, hvalues⟩ := hcolumn j hj
    have hnullable : columns[j].nullable = s[j].nullable := congrArg Field.nullable hfield
    rw [Column.sound_eq, hvalues, hnullable, Bool.or_eq_true, List.all_flatMap, List.all_eq_true]
    by_cases hs : s[j].nullable = true
    · exact .inl hs
    · refine .inr fun b hb => ?_
      obtain ⟨c, -, -, hnull⟩ := (h b hb).get (List.getElem?_eq_getElem (hn ▸ hj))
      exact hnull.resolve_left hs
  refine ⟨⟨_, columns, haligned, hsound⟩, ?_, hschema, rfl, ?_⟩
  · rw [concat?, hcolumns]
    exact dif_pos ⟨haligned, hsound⟩
  · rw [← rows_flatMap fun b hb => (h b hb).length_eq.symm]
    refine List.map_congr_left fun i _ => ?_
    rw [row_eq]
    dsimp only
    rw [hn]
    refine List.map_congr_left fun j hj => ?_
    have hj' := List.mem_range.mp hj
    rw [columnValues, List.getElem?_eq_getElem hj', Option.map_some, Option.getD_some,
      (hcolumn j hj').2]

end Batch

end Columnar

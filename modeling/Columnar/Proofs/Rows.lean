/-
# `Proofs.Rows` — batches made of the rows of others

A slice, a selection or any list of rows makes a batch of rows of another one.
What such a batch says is given by its schema and its table (`MadeOf`),
however its cells are stored.  Batches that were put together cell by cell
store nothing else; those that agree are equal (`Agrees.eq`).
-/
import Columnar.Proofs.Table

namespace Columnar

/-! ## Columns -/

namespace Column

theorem values_getD (c : Column) (i : Nat) :
    c.values.getD i none = (c.cells.getD i none).map (Sigma.mk c.type) := by
  rw [values, List.getD_eq_getElem?_getD, List.getElem?_map, List.getD_eq_getElem?_getD]
  cases c.cells[i]? with
  | none => rfl
  | some v => rfl

theorem cell_eq (c : Column) (i : Fin c.length) : c.cell i = c.cells.getD i.val none := by
  have hi : i.val < c.cells.length := c.length_cells.symm ▸ i.isLt
  rw [List.getD_eq_getElem?_getD, List.getElem?_eq_getElem hi, Option.getD_some]
  simp [cell, cells]

theorem values_gather (c : Column) (rows : List (Fin c.length)) :
    (c.gather rows).values = rows.map fun i => c.values.getD i.val none := by
  have hcells : (c.gather rows).cells = rows.map c.cell := cells_ofCells _ _ _ _
  change (c.gather rows).cells.map (Option.map (Sigma.mk c.type)) = _
  rw [hcells, List.map_map]
  refine List.map_congr_left fun i _ => ?_
  rw [Function.comp_apply, cell_eq, values_getD]

theorem compact_ofCells (name : String) (nullable : Bool) (type : DataType)
    (cells : Array (Option type.Value)) :
    (ofCells name nullable type cells).compact = ofCells name nullable type cells := by
  have h : (ofCells name nullable type cells).cells.toArray = cells := by
    rw [cells_ofCells]
    exact Array.toArray_toList
  exact congrArg (ofCells name nullable type) h

/-- Columns with one field that say the same differ only in what else they store. -/
theorem compact_congr {c d : Column} (hfield : c.field = d.field) (hvalues : c.values = d.values) :
    c.compact = d.compact := by
  obtain ⟨name, nullable, type, whole, start, length, inside, memory⟩ := c
  obtain ⟨name', nullable', type', whole', start', length', inside', memory'⟩ := d
  injection hfield with hname htype hnullable
  dsimp only at hname htype hnullable
  subst hname htype hnullable
  have hinjective : Function.Injective (Option.map (Sigma.mk type : type.Value → AnyValue)) :=
    Option.map_injective fun v w h => by cases h; rfl
  have hcells := List.map_injective_iff.mpr hinjective hvalues
  exact congrArg (fun l : List (Option type.Value) => ofCells name nullable type l.toArray) hcells

end Column

namespace Batch

/-! ## Nothing stored but cells -/

theorem columnValues_getElem {b : Batch} {j : Nat} (hj : j < b.columns.length) :
    b.columnValues j = b.columns[j].values := by
  rw [columnValues, List.getElem?_eq_getElem hj]
  rfl

/-- The cells of a column are those of the rows at its index. -/
theorem columnValues_eq {b : Batch} {j : Nat} (hj : j < b.columns.length) :
    b.columnValues j = b.table.map fun r => r.getD j none := by
  apply List.ext_getElem
  · rw [length_columnValues hj, List.length_map, length_table]
  · intro i hi _
    simp [table, row_eq, hj, List.getElem?_eq_getElem hi]

/-- Batches that agree differ only in what else they store. -/
theorem Agrees.compact {a b : Batch} (h : a.Agrees b) : a.compact = b.compact := by
  obtain ⟨hschema, hrows, htable⟩ := h
  have hlength : a.columns.length = b.columns.length := by
    simpa only [Batch.schema, List.length_map] using congrArg List.length hschema
  have hcolumns : a.columns.map Column.compact = b.columns.map Column.compact := by
    apply List.ext_getElem
    · rw [List.length_map, List.length_map, hlength]
    · intro j ha hb
      rw [List.length_map] at ha hb
      have hfield : a.columns[j].field = b.columns[j].field := by
        have hj : a.schema[j]? = b.schema[j]? := congrArg (·[j]?) hschema
        simpa [Batch.schema, ha, hb] using hj
      have hvalues : a.columns[j].values = b.columns[j].values := by
        rw [← columnValues_getElem ha, ← columnValues_getElem hb, columnValues_eq ha,
          columnValues_eq hb, htable]
      rw [List.getElem_map, List.getElem_map]
      exact Column.compact_congr hfield hvalues
  simp only [Batch.compact, Batch.mk.injEq]
  exact ⟨hrows, hcolumns⟩

theorem Agrees.eq {a b : Batch} (h : a.Agrees b) (ha : a.compact = a) (hb : b.compact = b) :
    a = b := by
  rw [← ha, ← hb]
  exact h.compact

theorem agrees_of_table {a b : Batch} (hschema : a.schema = b.schema) (htable : a.table = b.table) :
    a.Agrees b where
  schema := hschema
  rows := by rw [← a.length_table, htable, b.length_table]
  table := htable

theorem compact_eq_self {b : Batch} (h : ∀ c ∈ b.columns, c.compact = c) : b.compact = b := by
  have hcolumns : b.columns.map Column.compact = b.columns :=
    (List.map_congr_left h).trans (List.map_id' _)
  cases b
  simp only [compact, Batch.mk.injEq, true_and]
  exact hcolumns

theorem compact_gather (b : Batch) (rows : List (Fin b.rows)) :
    (b.gather rows).compact = b.gather rows := by
  refine compact_eq_self fun c hc => ?_
  obtain ⟨⟨d, hd⟩, _, rfl⟩ := List.mem_map.mp hc
  exact Column.compact_ofCells _ _ _ _

theorem compact_concat {s : Schema} {parts : List Batch} {b : Batch}
    (h : concat? s parts = some b) : b.compact = b := by
  obtain ⟨columns, hcolumns, hb⟩ := Option.bind_eq_some_iff.mp h
  have hcompact : ∀ c ∈ columns, c.compact = c := by
    refine forall_of_mapM (fun p c hc => ?_) hcolumns
    obtain ⟨_, -, hstack⟩ := Option.bind_eq_some_iff.mp hc
    obtain ⟨_, -, rfl⟩ := Option.map_eq_some_iff.mp hstack
    exact Column.compact_ofCells _ _ _ _
  rw [ofColumns?] at hb
  split at hb
  · cases hb
    exact compact_eq_self hcompact
  · cases hb

/-! ## Rows listed -/

/-- The batch is made of the rows listed of another one, each with all of its cells. -/
structure MadeOf (b : Batch) (rows : List (Fin b.rows)) (part : Batch) : Prop where
  schema : part.schema = b.schema
  table : part.table = rows.map fun i => b.row i.val

theorem table_eq (b : Batch) : b.table = (List.finRange b.rows).map fun i => b.row i.val := by
  rw [table, ← List.map_coe_finRange_eq_range, List.map_map]
  rfl

theorem map_columns_gather {α : Type} {b : Batch} {rows : List (Fin b.rows)} {f g : Column → α}
    (h : ∀ c (hc : c ∈ b.columns),
      f (c.gather (rows.map (Fin.cast (b.aligned c hc).symm))) = g c) :
    (b.gather rows).columns.map f = b.columns.map g := by
  rw [gather, List.map_map]
  calc b.columns.attach.map _
      = b.columns.attach.map fun c => g c.val := List.map_congr_left fun c _ => h c.val c.property
    _ = b.columns.map g := List.attach_map_val

theorem madeOf_gather (b : Batch) (rows : List (Fin b.rows)) : b.MadeOf rows (b.gather rows) where
  schema := map_columns_gather fun _ _ => rfl
  table := by
    apply List.ext_getElem
    · rw [length_table, List.length_map]
      rfl
    · intro k _ hk
      rw [List.length_map] at hk
      simp only [table, List.getElem_map, List.getElem_range]
      refine map_columns_gather fun c hc => ?_
      rw [c.values_gather, List.map_map, List.getD_eq_getElem?_getD, List.getElem?_map,
        List.getElem?_eq_getElem hk]
      rfl

theorem madeOf_slice (b : Batch) (offset length : Nat) :
    b.MadeOf (((List.finRange b.rows).drop offset).take length) (b.slice offset length) where
  schema := b.schema_slice offset length
  table := by rw [table_slice, table_eq, List.map_take, List.map_drop]

/-! ## Rows chosen -/

/-- The batch is made of the rows of another one that have a property: of each of them once, in
order and with all of its cells. -/
def Keeps (b : Batch) (p : Fin b.rows → Prop) (part : Batch) : Prop :=
  ∃ rows : List (Fin b.rows), rows.Pairwise (· < ·) ∧ (∀ i, i ∈ rows ↔ p i) ∧ b.MadeOf rows part

/-- The rows that pass a test. -/
def keep (b : Batch) (test : List (Option AnyValue) → Bool) : Batch :=
  b.gather ((List.finRange b.rows).filter fun i => test (b.row i.val))

section
variable (b : Batch) (test : List (Option AnyValue) → Bool)

theorem schema_keep : (b.keep test).schema = b.schema := (b.madeOf_gather _).schema

theorem table_keep : (b.keep test).table = b.table.filter test := by
  rw [keep, (b.madeOf_gather _).table, table_eq, List.filter_map]
  rfl

theorem compact_keep : (b.keep test).compact = b.keep test := b.compact_gather _

theorem keeps_keep {p : Fin b.rows → Prop} (h : ∀ i : Fin b.rows, test (b.row i.val) = true ↔ p i) :
    b.Keeps p (b.keep test) := by
  refine ⟨_, (List.pairwise_lt_finRange b.rows).filter _, fun i => ?_, b.madeOf_gather _⟩
  rw [List.mem_filter, ← h i]
  exact and_iff_right (List.mem_finRange i)

theorem keep_keep (again : List (Option AnyValue) → Bool) :
    (b.keep test).keep again = b.keep fun r => test r && again r := by
  have hagrees : ((b.keep test).keep again).Agrees (b.keep fun r => test r && again r) := by
    refine agrees_of_table ?_ ?_
    · rw [schema_keep, schema_keep, schema_keep]
    · rw [table_keep, table_keep, table_keep, List.filter_filter]
      exact List.filter_congr fun r _ => Bool.and_comm _ _
  exact hagrees.eq (compact_keep _ _) (compact_keep _ _)

/-- A mask that says of each row whether it passes a test selects the rows that do. -/
theorem select_map : b.select (b.table.map test) = b.keep test := by
  have hmarks : ∀ i : Fin b.rows,
      (b.table.map test).toArray.getD i.val false = test (b.row i.val) := by
    intro i
    simp [table]
  simp only [select, hmarks]
  rfl

end

end Batch

end Columnar

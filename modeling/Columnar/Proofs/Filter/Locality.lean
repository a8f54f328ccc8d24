/-
# `Proofs.Filter.Locality` — filters look at one row at a time

Evaluation takes a batch column by column.  Yet what it says of a row depends
on the schema and on the cells of that row alone, and whether it fails depends
on the schema alone: the mask is a test of single rows, applied to the table
(`evaluate_eq_map`).  So it does not matter which other rows a batch has, in
which order, or how they are stored: a filter may be run on a table as a
whole or part by part.
-/
import Columnar.Proofs.Filter.Selection
import Columnar.Proofs.Rows

namespace Columnar.Filter

/-! ## One row -/

/-- The cell under a name in a row of a table with the schema. -/
def lookUp (s : Schema) (name : String) (row : List (Option AnyValue)) : Option AnyValue :=
  (s.findIdx? (·.name = name)).bind fun j => row.getD j none

/-- The datum that a value is widened to. -/
def datumOf? (v : AnyValue) : Option Datum := (widen? v.1).bind fun widen => widen v.2

/-- The leaf accepts a cell of its column. -/
def Leaf.accepts (cell : Option AnyValue) : Leaf → Bool
  | .compare op _ v => (cell.bind datumOf?).any fun d => d.satisfies op v
  | .like negated _ pattern => (cell.bind datumOf?).any fun d => d.fits pattern != negated
  | .member _ vs => (cell.bind datumOf?).any fun d => vs.any fun v => d.satisfies .eq v
  | .null negated _ => cell.isNone != negated

/-- The filter accepts a row of a table with the schema. -/
def Expr.accepts (s : Schema) (e : Expr) (row : List (Option AnyValue)) : Bool :=
  e.holds fun l => l.accepts (lookUp s l.column row)

section
variable (b : Batch) (name : String) (i : Nat)

theorem lookUp_row : lookUp b.schema name (b.row i) =
    (b.find? name).bind fun c => c.values.getD i none := by
  rw [lookUp, findIdx_schema, Batch.find?, List.find?_eq_bind_findIdx?_getElem?]
  cases b.columns.findIdx? (·.name = name) with
  | none => rfl
  | some j =>
      rw [Option.bind_some, Option.bind_some, Batch.row, List.getD_eq_getElem?_getD,
        List.getElem?_map]
      cases b.columns[j]? with
      | none => rfl
      | some c => rfl

theorem isNull_eq : isNull b name i = (lookUp b.schema name (b.row i)).isNone := by
  rw [lookUp_row, isNull]
  cases b.find? name with
  | none => rfl
  | some c => rw [Option.all_some, Option.bind_some, Column.values_getD, Option.isNone_map]

theorem datum_eq : datum? b name i = (lookUp b.schema name (b.row i)).bind datumOf? := by
  rw [lookUp_row, datum?]
  cases b.find? name with
  | none => rfl
  | some c =>
      rw [Option.bind_some, Option.bind_some, Column.values_getD]
      cases c.cells.getD i none with
      | none => cases widen? c.type <;> rfl
      | some v => rfl

end

/-- A leaf selects a row by the cell that its column has there. -/
theorem selects_eq (b : Batch) (i : Nat) (l : Leaf) :
    l.selects b i = l.accepts (lookUp b.schema l.column (b.row i)) := by
  cases l with
  | compare op column v =>
      rw [Leaf.selects, datum_eq]
      rfl
  | like negated column pattern =>
      rw [Leaf.selects, datum_eq]
      rfl
  | member column vs =>
      rw [Leaf.selects, datum_eq]
      rfl
  | null negated column =>
      rw [Leaf.selects, isNull_eq]
      rfl

/-! ## The schema -/

theorem find_of_schema {a b : Batch} (h : a.schema = b.schema) (name : String) :
    (a.find? name).map Column.field = (b.find? name).map Column.field := by
  have hfind : ∀ x : Batch, x.schema.find? name = (x.find? name).map Column.field :=
    fun x => List.find?_map ..
  rw [← hfind, ← hfind, h]

/-- Whether a leaf has a fault depends on the schema alone. -/
theorem leaf_fault_of_schema {a b : Batch} (h : a.schema = b.schema) (l : Leaf) :
    l.fault? a = l.fault? b := by
  have hfields := find_of_schema h l.column
  rw [Leaf.fault?, Leaf.fault?, h]
  cases ha : a.find? l.column with
  | none =>
      rw [ha, Option.map_none] at hfields
      rw [Option.map_eq_none_iff.mp hfields.symm]
  | some c =>
      rw [ha, Option.map_some] at hfields
      obtain ⟨d, hb, hfield⟩ := Option.map_eq_some_iff.mp hfields.symm
      have htype : d.type = c.type := congrArg Field.type hfield
      rw [hb]
      dsimp only
      rw [htype]

theorem fault_of_schema {a b : Batch} (h : a.schema = b.schema) (e : Expr) :
    e.fault? a = e.fault? b := by
  rw [Expr.fault?, Expr.fault?, funext (leaf_fault_of_schema h)]

/-! ## The table -/

/-- A filter without a fault on the schema tests the rows of the table one by one. -/
theorem evaluate_eq_map (b : Batch) (e : Expr) :
    e.evaluate b = match e.fault? b with
      | some err => .error err
      | none => .ok (b.table.map (e.accepts b.schema)) := by
  have hrow : ∀ i, (e.holds fun l => l.selects b i) = e.accepts b.schema (b.row i) := by
    intro i
    rw [Expr.accepts, funext (selects_eq b i)]
  rw [Expr.evaluate_eq, Batch.table, List.map_map]
  simp only [hrow]
  rfl

section
variable {b : Batch} {e : Expr}

theorem evaluate_of_fault {err : SelectError} (h : e.fault? b = some err) :
    e.evaluate b = .error err := by
  rw [evaluate_eq_map, h]

theorem evaluate_of_no_fault (h : e.fault? b = none) :
    e.evaluate b = .ok (b.table.map (e.accepts b.schema)) := by
  rw [evaluate_eq_map, h]

theorem select_of_fault {err : SelectError} (h : e.fault? b = some err) :
    e.select b = .error err := by
  rw [Expr.select, evaluate_of_fault h]
  rfl

/-- A filter without a fault keeps the rows that it accepts. -/
theorem select_of_no_fault (h : e.fault? b = none) :
    e.select b = .ok (b.keep (e.accepts b.schema)) := by
  rw [Expr.select, evaluate_of_no_fault h, ← Batch.select_map]
  rfl

end

/-! ## Batches made of rows -/

/-- On a batch made of rows of another one, a filter says of each what it says of it there. -/
theorem evaluate_madeOf {b part : Batch} {rows : List (Fin b.rows)} (h : b.MadeOf rows part)
    (e : Expr) : (e.evaluate part).map (List.map some) =
      (e.evaluate b).map fun m => rows.map fun i => m[i.val]? := by
  have hfault := fault_of_schema h.schema e
  cases hb : e.fault? b with
  | some err =>
      rw [evaluate_of_fault hb, evaluate_of_fault (hfault.trans hb)]
      rfl
  | none =>
      rw [evaluate_of_no_fault hb, evaluate_of_no_fault (hfault.trans hb), h.schema, h.table]
      have hentry : ∀ i : Fin b.rows, (b.table.map (e.accepts b.schema))[i.val]? =
          some (e.accepts b.schema (b.row i.val)) := by
        intro i
        simp [Batch.table]
      simp only [Except.map, List.map_map, hentry]
      rfl

section
variable {s : Schema} {parts : List Batch} {whole : Batch}

/-- The mask of batches one below the other is that of their masks. -/
theorem evaluate_concat (hparts : parts ≠ []) (hschemas : ∀ b ∈ parts, b.schema = s)
    (hschema : whole.schema = s) (htable : whole.table = (parts.map Batch.table).flatten)
    (e : Expr) : e.evaluate whole = (parts.mapM e.evaluate).map List.flatten := by
  have hfault : ∀ b ∈ parts, e.fault? b = e.fault? whole := fun b hb =>
    fault_of_schema ((hschemas b hb).trans hschema.symm) e
  cases hwhole : e.fault? whole with
  | some err =>
      have hmasks : parts.mapM e.evaluate = .error err := mapM_error hparts fun b hb =>
        evaluate_of_fault ((hfault b hb).trans hwhole)
      rw [evaluate_of_fault hwhole, hmasks]
      rfl
  | none =>
      have hmasks : parts.mapM e.evaluate =
          .ok (parts.map fun b => b.table.map (e.accepts s)) := mapM_ok fun b hb => by
        rw [evaluate_of_no_fault ((hfault b hb).trans hwhole), hschemas b hb]
      rw [evaluate_of_no_fault hwhole, hmasks, hschema, htable, List.map_flatten, List.map_map]
      rfl

/-- What a filter keeps of batches one below the other is what it keeps of each. -/
theorem select_concat (hparts : parts ≠ []) (hschemas : ∀ b ∈ parts, b.schema = s)
    (hschema : whole.schema = s) (htable : whole.table = (parts.map Batch.table).flatten)
    (e : Expr) : (e.select whole).map some = (parts.mapM e.select).map (Batch.concat? s) := by
  have hfault : ∀ b ∈ parts, e.fault? b = e.fault? whole := fun b hb =>
    fault_of_schema ((hschemas b hb).trans hschema.symm) e
  cases hwhole : e.fault? whole with
  | some err =>
      have hselected : parts.mapM e.select = .error err := mapM_error hparts fun b hb =>
        select_of_fault ((hfault b hb).trans hwhole)
      rw [select_of_fault hwhole, hselected]
      rfl
  | none =>
      have hselected : parts.mapM e.select = .ok (parts.map fun b => b.keep (e.accepts s)) :=
        mapM_ok fun b hb => by
          rw [select_of_no_fault ((hfault b hb).trans hwhole), hschemas b hb]
      have hserve : ∀ b ∈ parts.map fun b => b.keep (e.accepts s), b.Serves s := by
        intro b hb
        obtain ⟨part, hpart, rfl⟩ := List.mem_map.mp hb
        have hserves := (part.keep (e.accepts s)).serves_schema
        rwa [part.schema_keep, hschemas part hpart] at hserves
      obtain ⟨joined, hjoined, hjoinedSchema, -, hjoinedTable⟩ := Batch.concat_of_serves hserve
      have hagrees : (whole.keep (e.accepts s)).Agrees joined := by
        refine Batch.agrees_of_table ?_ ?_
        · rw [whole.schema_keep, hschema, hjoinedSchema]
        · rw [whole.table_keep, htable, hjoinedTable, List.filter_flatten, List.map_map,
            List.map_map]
          exact congrArg List.flatten (List.map_congr_left fun b _ => (b.table_keep _).symm)
      have hequal := hagrees.eq (whole.compact_keep _) (Batch.compact_concat hjoined)
      rw [select_of_no_fault hwhole, hschema, hselected]
      exact congrArg Except.ok ((congrArg some hequal).trans hjoined.symm)

end

/-- A filter looks at one row at a time.  On any batch made of rows of another one, repeated or
reordered, it selects what it selects of these rows there, and fails as it fails there.  On batches
of one schema that are put one below the other, its mask is made of their masks, and it keeps the
rows that it keeps of each. -/
theorem evaluation_rowwise (e : Expr) :
    (∀ (b part : Batch) (rows : List (Fin b.rows)), b.MadeOf rows part →
      (e.evaluate part).map (List.map some) =
        (e.evaluate b).map fun m => rows.map fun i => m[i.val]?) ∧
    (∀ (b : Batch) (rows : List (Fin b.rows)), b.MadeOf rows (b.gather rows)) ∧
    (∀ (b : Batch) (offset length : Nat),
      b.MadeOf (((List.finRange b.rows).drop offset).take length) (b.slice offset length)) ∧
    ∀ (s : Schema) (parts : List Batch), parts ≠ [] → (∀ b ∈ parts, b.schema = s) →
      ∃ whole, Batch.concat? s parts = some whole ∧ whole.schema = s ∧
        whole.table = (parts.map Batch.table).flatten ∧
        e.evaluate whole = (parts.mapM e.evaluate).map List.flatten ∧
        (e.select whole).map some = (parts.mapM e.select).map (Batch.concat? s) := by
  refine ⟨fun b part rows h => evaluate_madeOf h e, Batch.madeOf_gather, Batch.madeOf_slice,
    fun s parts hparts hschemas => ?_⟩
  have hserve : ∀ b ∈ parts, b.Serves s := fun b hb => hschemas b hb ▸ b.serves_schema
  obtain ⟨whole, hwhole, hschema, -, htable⟩ := Batch.concat_of_serves hserve
  exact ⟨whole, hwhole, hschema, htable, evaluate_concat hparts hschemas hschema htable e,
    select_concat hparts hschemas hschema htable e⟩

/-- Items, one of them without a name, and how many there are of each. -/
def stock : Batch where
  rows := 3
  columns := [.ofCells "item" true (.text false) #[some "nut", none, some "bolt"],
    .ofCells "count" false (.int true .w32) #[some 4#32, some 0#32, some 12#32]]
  aligned := by decide
  sound := by decide

/-- Items without a name, or of which there are many. -/
def notable : Expr :=
  .join .or (.leaf (.null false "item")) (.leaf (.compare .gt "count" (.int 9)))

/-- The last row, the first, and the last again. -/
def lastFirstLast : List (Fin stock.rows) := [⟨2, by decide⟩, ⟨0, by decide⟩, ⟨2, by decide⟩]

/-- Rows in another order and twice, and parts one of which has no rows. -/
theorem evaluation_rowwise_stock :
    (notable.evaluate (stock.gather lastFirstLast)).map (List.map some) =
      .ok [some true, some false, some true] ∧
    ∃ whole, Batch.concat? stock.schema [stock, stock.slice 3 0, stock.slice 1 2] = some whole ∧
      notable.evaluate whole = .ok [false, true, true, true, true] := by
  have hmask : notable.evaluate stock = .ok [false, true, true] := rfl
  obtain ⟨hrows, hgather, -, hconcat⟩ := evaluation_rowwise notable
  refine ⟨?_, ?_⟩
  · rw [hrows stock _ lastFirstLast (hgather stock lastFirstLast), hmask]
    rfl
  · obtain ⟨whole, hwhole, -, -, hmasks, -⟩ :=
      hconcat stock.schema [stock, stock.slice 3 0, stock.slice 1 2] (List.cons_ne_nil _ _)
        (by simp [Batch.schema_slice])
    exact ⟨whole, hwhole, hmasks⟩

end Columnar.Filter

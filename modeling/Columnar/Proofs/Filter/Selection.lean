/-
# `Proofs.Filter.Selection` — masks row by row

Evaluation goes over a batch once for every leaf and then combines whole
masks.  Here it is said by leaves and rows: a leaf has a fault on a batch or
selects some of its rows, a filter fails with the fault of its leftmost leaf
that has one, and else its mask says of every row what the tree says of the
leaves there (`evaluate_eq`).  What else is known of masks follows from this.
-/
import Columnar.Filter.Selection

namespace Columnar.Filter

/-! ## Cells -/

/-- The cell of a row under a name is NULL. -/
def isNull (b : Batch) (column : String) (i : Nat) : Bool :=
  (b.find? column).all fun c => (c.cells.getD i none).isNone

/-- The widened cell of a row under a name, if it is not NULL. -/
def datum? (b : Batch) (column : String) (i : Nat) : Option Datum :=
  (b.find? column).bind fun c =>
    (widen? c.type).bind fun widen => (c.cells.getD i none).bind widen

/-! ## Patterns -/

/-- The pattern is not refused. -/
def Wildcard.affordable (pattern : String) : Bool := (Wildcard.regex? pattern).isSome

/-- The datum's text fits the pattern. -/
def Datum.fits (d : Datum) (pattern : String) : Bool :=
  (Wildcard.regex? pattern).any fun re => re.isMatch d.shown

/-! ## Leaves -/

/-- Why cells of the type cannot be tested. -/
def untestable? (t : DataType) : Option SelectError :=
  match widen? t with
  | none => some (.noPredicates t)
  | some _ => none

/-- What is wrong with a leaf on a batch. -/
def Leaf.fault? (b : Batch) (l : Leaf) : Option SelectError :=
  match b.find? l.column with
  | none => some (.missingColumn l.column b.schema.names)
  | some c =>
    match l with
    | .null _ _ => none
    | .compare _ _ _ => untestable? c.type
    | .member _ _ => untestable? c.type
    | .like _ _ pattern =>
      if Wildcard.affordable pattern then untestable? c.type else some (.badPattern pattern)

/-- The leaf selects the row. -/
def Leaf.selects (b : Batch) (i : Nat) : Leaf → Bool
  | .compare op column v => (datum? b column i).any fun d => d.satisfies op v
  | .like negated column pattern => (datum? b column i).any fun d => d.fits pattern != negated
  | .member column vs => (datum? b column i).any fun d => vs.any fun v => d.satisfies .eq v
  | .null negated column => isNull b column i != negated

section
variable {b : Batch} {c : Column}

/-- A list as a function of the position. -/
theorem map_eq_map_range {α β : Type} (l : List α) (f : α → β) (d : α) :
    l.map f = (List.range l.length).map fun i => f (l.getD i d) := by
  refine List.ext_getElem (by simp) fun i h _ => ?_
  rw [List.length_map] at h
  simp [h]

/-- A name has the same index in a batch as in its schema. -/
theorem findIdx_schema (b : Batch) (name : String) :
    b.schema.findIdx? (·.name = name) = b.columns.findIdx? (·.name = name) := List.findIdx?_map

theorem mem_of_find {column : String} (h : b.find? column = some c) : c ∈ b.columns :=
  List.mem_of_find?_eq_some h

theorem length_cells_of_find {column : String} (h : b.find? column = some c) :
    c.cells.length = b.rows :=
  c.length_cells.trans (b.aligned c (mem_of_find h))

theorem lt_rows_of_cell {column : String} {i : Nat} {v : c.type.Value}
    (h : b.find? column = some c) (hv : c.cells.getD i none = some v) : i < b.rows := by
  rcases Nat.lt_or_ge i b.rows with hi | hi
  · exact hi
  · rw [← length_cells_of_find h] at hi
    rw [List.getD_eq_getElem?_getD, List.getElem?_eq_none hi] at hv
    cases hv

/-- A NULL has no datum. -/
theorem datum_of_isNull {column : String} {i : Nat} (h : isNull b column i = true) :
    datum? b column i = none := by
  rw [isNull] at h
  rw [datum?]
  cases hfind : b.find? column with
  | none => rfl
  | some c =>
      rw [hfind, Option.all_some, Option.isNone_iff_eq_none] at h
      rw [Option.bind_some, h]
      cases widen? c.type with
      | none => rfl
      | some widen => rfl

/-- A cell is NULL if nothing is read from it, by a reading of every value. -/
theorem isNull_iff_read {α : Type} {column : String} {i : Nat} {read : c.type.Value → Option α}
    (h : b.find? column = some c) (hread : ∀ v, (read v).isSome = true) :
    isNull b column i = true ↔ (c.cells.getD i none).bind read = none := by
  rw [isNull, h, Option.all_some]
  cases c.cells.getD i none with
  | none => exact ⟨fun _ => rfl, fun _ => rfl⟩
  | some v =>
      have hsome := hread v
      constructor
      · intro h
        cases h
      · intro h
        rw [Option.bind_some] at h
        rw [h] at hsome
        cases hsome

/-- A test of all cells of a column, row by row. -/
theorem mask_eq {column : String} (h : b.find? column = some c) (test : Datum → Bool) :
    mask c test = match untestable? c.type with
      | some e => .error e
      | none => .ok ((List.range b.rows).map fun i => (datum? b column i).any test) := by
  rw [mask, data?, untestable?]
  cases hwiden : widen? c.type with
  | none => rfl
  | some widen =>
      have hdatum : ∀ i, datum? b column i = (c.cells.getD i none).bind widen := by
        intro i
        rw [datum?, h, Option.bind_some, hwiden, Option.bind_some]
      simp only [Option.map_some, List.map_map, hdatum]
      rw [map_eq_map_range c.cells _ none, length_cells_of_find h]
      rfl

theorem Leaf.evaluate_eq (b : Batch) (l : Leaf) :
    l.evaluate b = match l.fault? b with
      | some e => .error e
      | none => .ok ((List.range b.rows).map fun i => l.selects b i) := by
  rw [Leaf.evaluate, Leaf.fault?]
  cases h : b.find? l.column with
  | none => rfl
  | some c =>
      cases l with
      | compare op column v => exact mask_eq h _
      | member column vs => exact mask_eq h _
      | like negated column pattern =>
          dsimp only
          rw [Wildcard.affordable]
          cases hregex : Wildcard.regex? pattern with
          | none => rfl
          | some re =>
              have hfits : ∀ d : Datum, d.fits pattern = re.isMatch d.shown := by
                intro d
                rw [Datum.fits, hregex]
                rfl
              simp only [Leaf.selects, hfits]
              exact mask_eq h _
      | null negated column =>
          have hnull : ∀ i, isNull b column i = (c.cells.getD i none).isNone := by
            intro i
            rw [isNull, show b.find? column = some c from h, Option.all_some]
          simp only [Leaf.selects, hnull]
          rw [map_eq_map_range c.cells _ none, length_cells_of_find h]

end

/-! ## Filters -/

/-- What the tree says of a choice of its leaves. -/
def Expr.holds (p : Leaf → Bool) : Expr → Bool
  | .leaf l => p l
  | .not e => !e.holds p
  | .join c l r => c.apply (l.holds p) (r.holds p)

/-- The fault of the leftmost leaf that has one. -/
def Expr.fault? (b : Batch) (e : Expr) : Option SelectError := e.leaves.findSome? (Leaf.fault? b)

theorem findSome_congr {α β : Type} {f g : α → Option β} {l : List α} (h : ∀ x ∈ l, f x = g x) :
    l.findSome? f = l.findSome? g := by
  induction l with
  | nil => rfl
  | cons x l ih =>
      rw [List.findSome?_cons, List.findSome?_cons, h x List.mem_cons_self,
        ih fun y hy => h y (List.mem_cons_of_mem x hy)]

namespace Expr

theorem fault_join (b : Batch) (c : Connective) (l r : Expr) :
    (join c l r).fault? b = (l.fault? b).or (r.fault? b) := List.findSome?_append

/-- A filter fails with the fault of its leftmost leaf that has one, and else selects row by
row. -/
theorem evaluate_eq (b : Batch) (e : Expr) :
    e.evaluate b = match e.fault? b with
      | some err => .error err
      | none => .ok ((List.range b.rows).map fun i => e.holds fun l => l.selects b i) := by
  induction e with
  | leaf l =>
      rw [evaluate, Leaf.evaluate_eq, fault?, leaves, List.findSome?_singleton]
      rfl
  | not e ih =>
      rw [evaluate, ih]
      cases h : e.fault? b with
      | some err =>
          rw [show (not e).fault? b = some err from h]
          rfl
      | none =>
          rw [show (not e).fault? b = none from h]
          simp only [Except.map, List.map_map]
          rfl
  | join c l r ihl ihr =>
      rw [evaluate, ihl, ihr, fault_join]
      cases l.fault? b with
      | some err => rfl
      | none =>
          rw [Option.none_or]
          cases r.fault? b with
          | some err => rfl
          | none =>
              simp only [Except.map, List.zipWith_map, List.zipWith_self]
              rfl

theorem evaluate_ok_iff {b : Batch} {e : Expr} {m : List Bool} :
    e.evaluate b = .ok m ↔ e.fault? b = none ∧
      m = (List.range b.rows).map fun i => e.holds fun l => l.selects b i := by
  rw [evaluate_eq]
  cases e.fault? b with
  | some err =>
      constructor
      · intro h
        cases h
      · rintro ⟨h, -⟩
        cases h
  | none =>
      constructor
      · intro h
        cases h
        exact ⟨rfl, rfl⟩
      · rintro ⟨-, rfl⟩
        rfl

theorem evaluate_error_iff {b : Batch} {e : Expr} {err : SelectError} :
    e.evaluate b = .error err ↔ e.fault? b = some err := by
  rw [evaluate_eq]
  cases e.fault? b with
  | some err' =>
      constructor
      · intro h
        cases h
        rfl
      · intro h
        cases h
        rfl
  | none =>
      constructor
      · intro h
        cases h
      · intro h
        cases h

end Expr

end Columnar.Filter

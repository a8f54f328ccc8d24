/-
# `Proofs.Filter.Typing` — what was read over a schema runs on its batches

Filters are typed twice: when a text is read, by the kinds of the schema's
columns, and when a batch is filtered, by the kinds of datum that cells are
widened to.  Here the two agree.  Cells of a type with a kind are widened to
data of that kind (`ofKind_of_widen`), a literal that suits the kind meets
such data only in ways that compare (`meets_of_kind`), and the reader and the
evaluator take a name for the same column (`resolves`).  So a filter that was
read over the schema of a batch has no fault there but a refused pattern.
-/
import Columnar.Proofs.Filter.Canonical
import Columnar.Proofs.Filter.Selection

namespace Columnar.Filter

open Number

/-! ## Data and literals -/

/-- The datum is one that cells of the kind are widened to. -/
inductive Datum.OfKind : Datum → Kind → Prop
  | int {v least greatest : Int} : OfKind (.int v) (.integer least greatest)
  | float {v : Binary .double} : OfKind (.float v) .float
  | text {v : String} : OfKind (.text v) .text
  | bool {v : Bool} : OfKind (.bool v) .bool

/-- The datum and the literal have kinds that are compared. -/
inductive Datum.Comparable : Datum → Literal → Prop
  | ints {v l : Int} : Comparable (.int v) (.int l)
  | intFloat {v : Int} {l : Binary .double} : Comparable (.int v) (.float l)
  | floats {v l : Binary .double} : Comparable (.float v) (.float l)
  | floatInt {v : Binary .double} {l : Int} : Comparable (.float v) (.int l)
  | texts {v l : String} : Comparable (.text v) (.text l)
  | textInt {v : String} {l : Int} : Comparable (.text v) (.int l)
  | textFloat {v : String} {l : Binary .double} : Comparable (.text v) (.float l)
  | bools {v l : Bool} : Comparable (.bool v) (.bool l)

/-- What typing promises of a datum and a literal it is compared with. -/
structure Datum.Meets (d : Datum) (v : Literal) : Prop where
  comparable : d.Comparable v
  int : ∀ i, d = .int i → ∃ j, v = .int j
  float : ∀ x, d = .float x → ∃ y, v = .float y
  /-- Only a cell that is "not a number" leaves the order open. -/
  ordered : d.compare? v = none → ∃ x : Binary .double, d = .float x ∧ x.isNaN = true

theorem not_isNaN_of_isFinite {p : Precision} {x : Binary p} (h : x.isFinite = true) :
    x.isNaN = false := by
  rw [Binary.isFinite, decide_eq_true_eq] at h
  rw [Binary.isNaN, decide_eq_false_iff_not]
  exact Nat.lt_asymm h

/-- Only what is "not a number" has no order. -/
theorem isNaN_of_compare {p : Precision} {x y : Binary p} (hy : y.isFinite = true)
    (h : x.compare? y = none) : x.isNaN = true := by
  rw [Binary.compare?, not_isNaN_of_isFinite hy, Bool.or_false] at h
  split at h
  · assumption
  · cases h

section
variable {d : Datum} {v : Literal} {k : Kind}

theorem comparable_of_kind (hd : d.OfKind k) (hv : v.Suits k) : d.Comparable v := by
  cases hd with
  | int =>
      cases hv with
      | int => exact .ints
  | float =>
      cases hv with
      | float => exact .floats
  | text =>
      cases hv with
      | text => exact .texts
      | wholeText => exact .textInt
      | floatText => exact .textFloat
  | bool =>
      cases hv with
      | bool => exact .bools

theorem int_of_kind {i : Int} (hd : (Datum.int i).OfKind k) (hv : v.Suits k) :
    ∃ j, v = .int j := by
  cases hd with
  | int =>
      cases hv with
      | @int j => exact ⟨j, rfl⟩

theorem float_of_kind {x : Binary .double} (hd : (Datum.float x).OfKind k) (hv : v.Suits k) :
    ∃ y : Binary .double, v = .float y ∧ y.isFinite = true := by
  cases hd with
  | float =>
      cases hv with
      | @float y hy => exact ⟨y, rfl, hy⟩

theorem isNaN_of_kind (hd : d.OfKind k) (hv : v.Suits k) (h : d.compare? v = none) :
    ∃ x : Binary .double, d = .float x ∧ x.isNaN = true := by
  cases hd with
  | int =>
      cases hv with
      | int => cases h
  | @float x =>
      obtain ⟨y, rfl, hy⟩ := float_of_kind (.float : (Datum.float x).OfKind .float) hv
      exact ⟨x, rfl, isNaN_of_compare hy h⟩
  | text =>
      cases hv with
      | text => cases h
      | wholeText => cases h
      | floatText => cases h
  | bool =>
      cases hv with
      | bool => cases h

/-- Data of a kind meet the literals that suit the kind. -/
theorem meets_of_kind (hd : d.OfKind k) (hv : v.Suits k) : d.Meets v where
  comparable := comparable_of_kind hd hv
  int := by
    rintro i rfl
    exact int_of_kind hd hv
  float := by
    rintro x rfl
    obtain ⟨y, hy, -⟩ := float_of_kind hd hv
    exact ⟨y, hy⟩
  ordered := isNaN_of_kind hd hv

end

/-! ## Types -/

/-- Cells are widened to data of the kind of their type. -/
theorem ofKind_of_widen {t : DataType} {widen : t.Value → Option Datum} {v : t.Value} {d : Datum}
    (h : widen? t = some widen) (hd : widen v = some d) : d.OfKind (kind t) := by
  cases t with
  | int signed w =>
      cases h
      dsimp only at hd
      split at hd
      · cases hd
        exact .int
      · cases hd
  | float p =>
      cases h
      cases hd
      exact .float
  | text large =>
      cases h
      cases hd
      exact .text
  | bool =>
      cases h
      cases hd
      exact .bool
  | date => cases h
  | binary => cases h
  | vector n => cases h

theorem ofKind_of_datum {b : Batch} {column : String} {c : Column} {i : Nat} {d : Datum}
    (hfind : b.find? column = some c) (h : datum? b column i = some d) :
    d.OfKind (kind c.type) := by
  rw [datum?, hfind, Option.bind_some] at h
  obtain ⟨widen, hwiden, h⟩ := Option.bind_eq_some_iff.mp h
  obtain ⟨v, -, hd⟩ := Option.bind_eq_some_iff.mp h
  exact ofKind_of_widen hwiden hd

/-- What has a kind can be tested. -/
theorem untestable_of_kind {t : DataType} (h : kind t ≠ .other) : untestable? t = none := by
  cases t with
  | int signed w => rfl
  | float p => rfl
  | text large => rfl
  | bool => rfl
  | date => exact absurd rfl h
  | binary => exact absurd rfl h
  | vector n => exact absurd rfl h

theorem Literal.Suits.ne_other {v : Literal} {k : Kind} (h : v.Suits k) : k ≠ .other := by
  rintro rfl
  cases h

/-! ## Columns -/

/-- A name of the schema means the same column of the batch, the first of that name in both. -/
theorem resolves {b : Batch} {name : String} {f : Field} (h : b.schema.find? name = some f) :
    ∃ i c, b.schema.findIdx? (·.name = name) = some i ∧
      b.columns.findIdx? (·.name = name) = some i ∧
      b.schema[i]? = some f ∧ b.columns[i]? = some c ∧ b.find? name = some c ∧ c.field = f := by
  have hindex := findIdx_schema b name
  rw [Schema.find?, List.find?_eq_bind_findIdx?_getElem?] at h
  obtain ⟨i, hi, hf⟩ := Option.bind_eq_some_iff.mp h
  have hcolumns := hindex ▸ hi
  rw [Batch.schema, List.getElem?_map] at hf
  obtain ⟨c, hc, hfield⟩ := Option.map_eq_some_iff.mp hf
  refine ⟨i, c, hi, hcolumns, ?_, hc, ?_, hfield⟩
  · rw [Batch.schema, List.getElem?_map, hc, ← hfield]
    rfl
  · rw [Batch.find?, List.find?_eq_bind_findIdx?_getElem?, hcolumns]
    exact hc

/-! ## Faults -/

/-- The pattern of the leaf, if it is refused. -/
def Leaf.refused? : Leaf → Option String
  | .like _ _ pattern => if Wildcard.affordable pattern then none else some pattern
  | _ => none

/-- The leftmost pattern that is refused. -/
def Expr.refused? (e : Expr) : Option String := e.leaves.findSome? Leaf.refused?

/-- A leaf that suits its column has no fault but a refused pattern. -/
theorem fault_of_suits {b : Batch} {l : Leaf} {c : Column} (hfind : b.find? l.column = some c)
    (h : l.Suits (kind c.type)) : l.fault? b = l.refused?.map .badPattern := by
  rw [Leaf.fault?, hfind]
  cases l with
  | compare op column v => exact untestable_of_kind (Literal.Suits.ne_other h)
  | like negated column pattern =>
      dsimp only [Leaf.refused?]
      split
      · exact untestable_of_kind h.2
      · rfl
  | member column vs =>
      obtain ⟨v, hv⟩ := List.exists_mem_of_ne_nil vs h.1
      exact untestable_of_kind (h.2 v hv).ne_other
  | null negated column => rfl

theorem fault_of_wellFormed {b : Batch} {e : Expr} (h : e.WellFormed b.schema) :
    e.fault? b = e.refused?.map .badPattern := by
  rw [Expr.refused?, List.map_findSome?, Expr.fault?]
  refine findSome_congr fun l hl => ?_
  obtain ⟨-, f, hf, hsuits⟩ := h l hl
  obtain ⟨i, c, -, -, -, -, hfind, rfl⟩ := resolves hf
  exact fault_of_suits hfind hsuits

/-! ## Running what was read -/

/-- What was read over a schema runs on every batch of the schema: it selects rows, one decision for
each, and fails only with the leftmost of its patterns that are refused.  Every leaf tests the
column that its name meant when it was read, and meets there only data that its literals are
compared with, whole numbers with whole numbers and floating point numbers with floating point
numbers. -/
theorem compiled_runs {s : Schema} {text : String} {e : Expr} {b : Batch}
    (hparse : parse s text = .ok e) (hschema : b.schema = s) :
    (e.refused? = none → ∃ m, e.evaluate b = .ok m ∧ m.length = b.rows ∧
      e.select b = .ok (b.select m)) ∧
    (∀ pattern, e.refused? = some pattern →
      e.evaluate b = .error (.badPattern pattern) ∧ e.select b = .error (.badPattern pattern)) ∧
    ∀ l ∈ e.leaves,
      (∃ i f c, s.findIdx? (·.name = l.column) = some i ∧
        b.columns.findIdx? (·.name = l.column) = some i ∧ s[i]? = some f ∧
        b.columns[i]? = some c ∧ s.find? l.column = some f ∧ b.find? l.column = some c) ∧
      ∀ i d, datum? b l.column i = some d → ∀ v ∈ l.literals, d.Meets v := by
  subst hschema
  have hwell := (wellFormed_of_parse hparse).1
  have hfault := fault_of_wellFormed hwell
  refine ⟨fun hnone => ?_, fun pattern hrefused => ?_, fun l hl => ?_⟩
  · rw [hnone] at hfault
    have hrun := Expr.evaluate_ok_iff.mpr ⟨hfault, rfl⟩
    refine ⟨_, hrun, by rw [List.length_map, List.length_range], ?_⟩
    rw [Expr.select, hrun]
    rfl
  · rw [hrefused] at hfault
    have hrun := Expr.evaluate_error_iff.mpr hfault
    refine ⟨hrun, ?_⟩
    rw [Expr.select, hrun]
    rfl
  · obtain ⟨-, f, hf, hsuits⟩ := hwell l hl
    obtain ⟨i, c, hread, hrun, hfield, hcolumn, hfind, rfl⟩ := resolves hf
    refine ⟨⟨i, c.field, c, hread, hrun, hfield, hcolumn, hf, hfind⟩, fun row d hd v hv => ?_⟩
    exact meets_of_kind (ofKind_of_datum hfind hd) (suits_of_literals hsuits v hv)

/-- A column of whole numbers, and one of flags that has its name. -/
def twiceNamed : Batch where
  rows := 2
  columns := [.ofCells "n" true (.int true .w32) #[some 12#32, none],
    .ofCells "n" false .bool #[some true, some false]]
  aligned := by decide
  sound := by decide

/-- A membership in whole numbers, and a pattern for their text. -/
def startsWithOne : Expr :=
  .join .or (.leaf (.member "n" [.int 2, .int (-1)])) (.leaf (.like false "n" "1%"))

/-- Both tests are of the whole numbers, and the mask has a decision for each of the two rows. -/
theorem compiled_runs_twiceNamed :
    parse twiceNamed.schema "n IN [2, -1] OR n LIKE '1%'" = .ok startsWithOne ∧
    startsWithOne.refused? = none ∧
    (∃ m, startsWithOne.evaluate twiceNamed = .ok m ∧ m.length = 2) ∧
    datum? twiceNamed "n" 0 = some (.int 12) ∧ (Datum.int 12).Meets (.int (-1)) := by
  have hparse : parse twiceNamed.schema "n IN [2, -1] OR n LIKE '1%'" = .ok startsWithOne := by
    decide +kernel
  have haffordable : startsWithOne.refused? = none := by decide +kernel
  have hdatum : datum? twiceNamed "n" 0 = some (.int 12) := by decide +kernel
  obtain ⟨hruns, -, hleaves⟩ := compiled_runs hparse (b := twiceNamed) rfl
  obtain ⟨m, hevaluate, hlength, -⟩ := hruns haffordable
  have hmember := (hleaves _ List.mem_cons_self).2 0 (.int 12) hdatum (.int (-1))
  exact ⟨hparse, haffordable, ⟨m, hevaluate, hlength⟩, hdatum,
    hmember (List.mem_cons_of_mem _ List.mem_cons_self)⟩

end Columnar.Filter

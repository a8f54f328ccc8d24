/-
# `Proofs.Filter.Integers` — tests of whole numbers

A test of a column of whole numbers, signed or not and of any width, is meant
to compare the number in the cell with the numbers of the filter.  It does so
for every number that a signed 64-bit integer holds: `satisfies_int` turns
the comparison of data into the relation of the numbers, and every cell up to
that bound is widened to its number (`datum_eq_whole`).  A cell beyond the
bound, which only an unsigned column of 64 bits has, counts as NULL.  The
literals that a filter may have for such a column do not reach beyond the
bound either.  So what is lost are the rows of those cells in the tests for
other or greater numbers; memberships lose none.
-/
import Columnar.Proofs.Filter.Typing

namespace Columnar.Filter

open Number

/-! ## Comparisons -/

/-- The relation of whole numbers that an operator stands for. -/
def Comparison.Relates : Comparison → Int → Int → Prop
  | .eq, x, y => x = y
  | .ne, x, y => x ≠ y
  | .lt, x, y => x < y
  | .le, x, y => x ≤ y
  | .gt, x, y => x > y
  | .ge, x, y => x ≥ y

/-- The operators one of which holds between any two numbers. -/
def Comparison.Strict (op : Comparison) : Prop := op = .lt ∨ op = .eq ∨ op = .gt

/-- The operators that hold of all great numbers on their left. -/
def Comparison.Upward (op : Comparison) : Prop := op = .ne ∨ op = .gt ∨ op = .ge

theorem holds_compare {op : Comparison} {x y : Int} :
    op.holds (compare x y) = true ↔ op.Relates x y := by
  cases op with
  | eq => simp only [Comparison.holds, Comparison.Relates, beq_iff_eq, compare_eq_iff_eq]
  | ne => simp only [Comparison.holds, Comparison.Relates, bne_iff_ne, ne_eq, compare_eq_iff_eq]
  | lt => simp only [Comparison.holds, Comparison.Relates, beq_iff_eq, compare_lt_iff_lt]
  | le =>
      simp only [Comparison.holds, Comparison.Relates, bne_iff_ne, ne_eq, compare_gt_iff_gt,
        Int.not_lt]
  | gt => simp only [Comparison.holds, Comparison.Relates, beq_iff_eq, compare_gt_iff_gt]
  | ge =>
      simp only [Comparison.holds, Comparison.Relates, bne_iff_ne, ne_eq, compare_lt_iff_lt,
        Int.not_lt]

theorem satisfies_int {op : Comparison} {x k : Int} :
    (Datum.int x).satisfies op (.int k) = true ↔ op.Relates x k := holds_compare

/-- Of the strict operators just one holds. -/
theorem existsUnique_strict (x k : Int) : ∃! op : Comparison, op.Strict ∧ op.Relates x k := by
  rcases Int.lt_trichotomy x k with h | h | h
  · refine ⟨.lt, ⟨.inl rfl, h⟩, ?_⟩
    rintro op ⟨rfl | rfl | rfl, hop⟩
    · rfl
    · exact absurd hop (Int.ne_of_lt h)
    · exact absurd hop (Int.lt_asymm h)
  · refine ⟨.eq, ⟨.inr (.inl rfl), h⟩, ?_⟩
    rintro op ⟨rfl | rfl | rfl, hop⟩
    · exact absurd h (Int.ne_of_lt hop)
    · rfl
    · exact absurd h (Int.ne_of_gt hop)
  · refine ⟨.gt, ⟨.inr (.inr rfl), h⟩, ?_⟩
    rintro op ⟨rfl | rfl | rfl, hop⟩
    · exact absurd hop (Int.lt_asymm h)
    · exact absurd hop (Int.ne_of_gt h)
    · rfl

theorem relates_of_lt {op : Comparison} {x k : Int} (h : k < x) : op.Relates x k ↔ op.Upward := by
  cases op with
  | eq => simpa [Comparison.Relates, Comparison.Upward] using Int.ne_of_gt h
  | ne => simpa [Comparison.Relates, Comparison.Upward] using Int.ne_of_gt h
  | lt => simpa [Comparison.Relates, Comparison.Upward] using Int.le_of_lt h
  | le => simpa [Comparison.Relates, Comparison.Upward] using h
  | gt => simpa [Comparison.Relates, Comparison.Upward] using h
  | ge => simpa [Comparison.Relates, Comparison.Upward] using Int.le_of_lt h

/-! ## Cells -/

/-- The whole number that a value of the type stands for. -/
def wholeOf? : (t : DataType) → t.Value → Option Int
  | .int signed _, v => some (DataType.wholeNumber signed v)
  | _, _ => none

/-- The whole number in the cell of a row under a name, if there is one. -/
def whole? (b : Batch) (column : String) (i : Nat) : Option Int :=
  (b.find? column).bind fun c => (c.cells.getD i none).bind (wholeOf? c.type)

section
variable {t : DataType} {signed : Bool} {w : Width}

/-- Values of whole numbers are widened to them as long as signed 64 bits hold them. -/
theorem widened_whole (h : t = .int signed w) (v : Option t.Value) :
    ((widen? t).bind fun widen => v.bind widen) =
      ((v.bind (wholeOf? t)).filter (· ≤ greatestInt64)).map Datum.int := by
  subst h
  cases v with
  | none => rfl
  | some v =>
      simp only [widen?, wholeOf?, Option.bind_some, Option.filter_some, decide_eq_true_eq]
      split <;> rfl

theorem wholeOf_isSome (h : t = .int signed w) (v : t.Value) : (wholeOf? t v).isSome = true := by
  subst h
  rfl

/-- Only unsigned numbers of 64 bits are beyond the signed ones. -/
theorem unsigned_of_beyond (h : t = .int signed w) {v : t.Value} {x : Int}
    (hx : wholeOf? t v = some x) (hbeyond : greatestInt64 < x) : signed = false ∧ w = .w64 := by
  subst h
  cases hx
  change BitVec w.bits at v
  cases signed with
  | true =>
      have hsigned := @BitVec.two_mul_toInt_lt _ v
      have hwidth : (2 : Int) ^ w.bits ≤ 2 ^ 64 := by cases w <;> decide
      have hnumber : greatestInt64 < v.toInt := hbeyond
      rw [greatestInt64] at hnumber
      omega
  | false =>
      refine ⟨rfl, ?_⟩
      by_contra hw
      have hunsigned := v.isLt
      have hwidth : 2 ^ w.bits ≤ 2 ^ 32 := by
        cases w with
        | w8 => decide
        | w16 => decide
        | w32 => decide
        | w64 => exact absurd rfl hw
      have hnumber : greatestInt64 < (v.toNat : Int) := hbeyond
      rw [greatestInt64] at hnumber
      omega

end

section
variable {b : Batch} {column : String} {c : Column} {signed : Bool} {w : Width}

/-- A cell of a column of whole numbers is tested by its number if signed 64 bits hold it, and else
as NULL is. -/
theorem datum_eq_whole (hfind : b.find? column = some c) (htype : c.type = .int signed w)
    (i : Nat) :
    datum? b column i = ((whole? b column i).filter (· ≤ greatestInt64)).map Datum.int := by
  rw [datum?, whole?, hfind]
  exact widened_whole htype _

/-- Every cell that is not NULL has a number. -/
theorem isNull_iff_whole (hfind : b.find? column = some c) (htype : c.type = .int signed w)
    (i : Nat) : isNull b column i = true ↔ whole? b column i = none := by
  rw [whole?, hfind, Option.bind_some]
  exact isNull_iff_read hfind (wholeOf_isSome htype)

theorem lt_rows_of_whole {i : Nat} {x : Int} (h : whole? b column i = some x) : i < b.rows := by
  obtain ⟨c, hfind, h⟩ := Option.bind_eq_some_iff.mp h
  obtain ⟨v, hv, -⟩ := Option.bind_eq_some_iff.mp h
  exact lt_rows_of_cell hfind hv

theorem unsigned_of_whole (hfind : b.find? column = some c) (htype : c.type = .int signed w)
    {i : Nat} {x : Int} (h : whole? b column i = some x) (hbeyond : greatestInt64 < x) :
    signed = false ∧ w = .w64 := by
  rw [whole?, hfind, Option.bind_some] at h
  obtain ⟨v, -, hx⟩ := Option.bind_eq_some_iff.mp h
  exact unsigned_of_beyond htype hx hbeyond

end

/-! ## Rows -/

/-- The test runs on the batch, with one decision for each row. -/
def Leaf.Runs (b : Batch) (l : Leaf) : Prop :=
  ∃ m, (Expr.leaf l).evaluate b = .ok m ∧ m.length = b.rows

/-- The test runs on the batch and selects the row. -/
def Leaf.Picks (b : Batch) (l : Leaf) (i : Nat) : Prop :=
  ∃ m, (Expr.leaf l).evaluate b = .ok m ∧ m[i]? = some true

section
variable {b : Batch} {l : Leaf} {i : Nat}

theorem runs_of_fault (h : l.fault? b = none) : l.Runs b := by
  refine ⟨(List.range b.rows).map fun i => l.selects b i, ?_, by simp⟩
  rw [Expr.evaluate, Leaf.evaluate_eq, h]

theorem picks_iff (h : l.fault? b = none) : l.Picks b i ↔ i < b.rows ∧ l.selects b i = true := by
  have hevaluate : (Expr.leaf l).evaluate b =
      .ok ((List.range b.rows).map fun i => l.selects b i) := by
    rw [Expr.evaluate, Leaf.evaluate_eq, h]
  rw [Leaf.Picks, hevaluate]
  by_cases hi : i < b.rows
  · simp [hi]
  · simp [hi]

end

section
variable {b : Batch} {column : String} {c : Column} {signed : Bool} {w : Width}

theorem any_datum (hfind : b.find? column = some c) (htype : c.type = .int signed w) {i : Nat}
    {test : Datum → Bool} : (datum? b column i).any test = true ↔
      ∃ x, whole? b column i = some x ∧ x ≤ greatestInt64 ∧ test (.int x) = true := by
  rw [datum_eq_whole hfind htype]
  cases whole? b column i with
  | none =>
      constructor
      · intro h
        cases h
      · rintro ⟨x, h, -⟩
        cases h
  | some x =>
      rw [Option.filter_some]
      by_cases hx : x ≤ greatestInt64
      · simp [hx]
      · simp [hx]

theorem fault_of_whole (hfind : b.find? column = some c) (htype : c.type = .int signed w) :
    (∀ op v, (Leaf.compare op column v).fault? b = none) ∧
      ∀ vs, (Leaf.member column vs).fault? b = none := by
  have htestable : untestable? c.type = none := by
    rw [htype]
    rfl
  constructor
  · intro op v
    rw [Leaf.fault?, Leaf.column, hfind]
    exact htestable
  · intro vs
    rw [Leaf.fault?, Leaf.column, hfind]
    exact htestable

/-- A comparison picks the rows whose numbers stand in the relation, up to the bound. -/
theorem picks_compare (hfind : b.find? column = some c) (htype : c.type = .int signed w) {i : Nat}
    {op : Comparison} {k : Int} : (Leaf.compare op column (.int k)).Picks b i ↔
      ∃ x, whole? b column i = some x ∧ x ≤ greatestInt64 ∧ op.Relates x k := by
  rw [picks_iff ((fault_of_whole hfind htype).1 op _), Leaf.selects, any_datum hfind htype]
  simp only [satisfies_int]
  constructor
  · rintro ⟨-, h⟩
    exact h
  · rintro ⟨x, hx, h⟩
    exact ⟨lt_rows_of_whole hx, x, hx, h⟩

/-- What is lost are numbers beyond the bound, in the tests that hold of all great numbers. -/
theorem picks_exact_iff (hfind : b.find? column = some c) (htype : c.type = .int signed w) {i : Nat}
    {op : Comparison} {k : Int} (hk : k ≤ greatestInt64) :
    ((Leaf.compare op column (.int k)).Picks b i ↔
        ∃ x, whole? b column i = some x ∧ op.Relates x k) ↔
      ¬ ∃ x, whole? b column i = some x ∧ greatestInt64 < x ∧ op.Upward := by
  rw [picks_compare hfind htype]
  constructor
  · rintro hexact ⟨x, hx, hbeyond, hop⟩
    have hrelates : op.Relates x k := (relates_of_lt (Int.lt_of_le_of_lt hk hbeyond)).mpr hop
    obtain ⟨x', hx', hle, -⟩ := hexact.mpr ⟨x, hx, hrelates⟩
    rw [hx] at hx'
    cases hx'
    exact absurd hle (Int.not_le.mpr hbeyond)
  · intro hnone
    constructor
    · rintro ⟨x, hx, -, hrelates⟩
      exact ⟨x, hx, hrelates⟩
    · rintro ⟨x, hx, hrelates⟩
      refine ⟨x, hx, ?_, hrelates⟩
      by_contra hbeyond
      have hlt := Int.not_le.mp hbeyond
      exact hnone ⟨x, hx, hlt, (relates_of_lt (Int.lt_of_le_of_lt hk hlt)).mp hrelates⟩

/-- Just one of the tests for less, equal and greater picks a row, up to the bound. -/
theorem existsUnique_picks (hfind : b.find? column = some c) (htype : c.type = .int signed w)
    {i : Nat} {x : Int} (hx : whole? b column i = some x) (k : Int) :
    (∃! op : Comparison, op.Strict ∧ (Leaf.compare op column (.int k)).Picks b i) ↔
      x ≤ greatestInt64 := by
  have hpicks : ∀ op : Comparison, (Leaf.compare op column (.int k)).Picks b i ↔
      x ≤ greatestInt64 ∧ op.Relates x k := by
    intro op
    rw [picks_compare hfind htype, hx]
    simp only [Option.some.injEq, exists_eq_left']
  simp only [hpicks]
  constructor
  · rintro ⟨op, ⟨-, hle, -⟩, -⟩
    exact hle
  · intro hle
    simpa only [hle, true_and] using existsUnique_strict x k

/-- A membership picks the rows whose numbers are in the list, up to the bound. -/
theorem picks_member (hfind : b.find? column = some c) (htype : c.type = .int signed w) {i : Nat}
    {ks : List Int} : (Leaf.member column (ks.map .int)).Picks b i ↔
      ∃ x, whole? b column i = some x ∧ x ≤ greatestInt64 ∧ x ∈ ks := by
  have hmem : ∀ x, ((ks.map Literal.int).any fun v => (Datum.int x).satisfies .eq v) = true ↔
      x ∈ ks := by
    intro x
    simp only [List.any_map, List.any_eq_true, Function.comp_apply, satisfies_int,
      Comparison.Relates, exists_eq_right']
  rw [picks_iff ((fault_of_whole hfind htype).2 _), Leaf.selects, any_datum hfind htype]
  simp only [hmem]
  constructor
  · rintro ⟨-, h⟩
    exact h
  · rintro ⟨x, hx, h⟩
    exact ⟨lt_rows_of_whole hx, x, hx, h⟩

end

/-! ## Literals -/

/-- Literals of a column of whole numbers are whole numbers up to the bound. -/
theorem int_of_suits {t : DataType} {signed : Bool} {w : Width} (h : t = .int signed w)
    {v : Literal} (hv : v.Suits (kind t)) : ∃ k, v = .int k ∧ k ≤ greatestInt64 := by
  subst h
  cases hv with
  | @int k least greatest hleast hgreatest =>
      exact ⟨k, rfl, Int.le_trans hgreatest (Int.min_le_right _ _)⟩

theorem ints_of_suit {t : DataType} {signed : Bool} {w : Width} (h : t = .int signed w) :
    ∀ {vs : List Literal}, (∀ v ∈ vs, v.Suits (kind t)) →
      ∃ ks : List Int, vs = ks.map .int ∧ ∀ k ∈ ks, k ≤ greatestInt64
  | [], _ => ⟨[], rfl, fun _ h => absurd h List.not_mem_nil⟩
  | v :: vs, hvs => by
      obtain ⟨k, rfl, hk⟩ := int_of_suits h (hvs v List.mem_cons_self)
      obtain ⟨ks, rfl, hks⟩ := ints_of_suit h fun v hv => hvs v (List.mem_cons_of_mem _ hv)
      exact ⟨k :: ks, rfl, List.forall_mem_cons.mpr ⟨hk, hks⟩⟩

/-! ## Filters -/

/-- Tests of whole numbers, read over the schema of a batch, select by the numbers in the cells.  A
comparison selects the rows whose numbers stand in its relation and are not beyond the signed 64-bit
integers.  That is what it should select, but for the rows whose numbers are beyond them in the
tests for other or greater numbers; and just one of the tests for less, equal and greater selects a
row that is not NULL, unless its number is beyond them.  A membership selects the rows whose numbers
are in its list.  Only unsigned columns of 64 bits have numbers beyond. -/
theorem whole_numbers_selected {b : Batch} {text : String} {e : Expr} {column : String} {f : Field}
    {signed : Bool} {w : Width} (hparse : parse b.schema text = .ok e)
    (hfield : b.schema.find? column = some f) (htype : f.type = .int signed w) :
    (∀ op v, .compare op column v ∈ e.leaves → ∃ k : Int, v = .int k ∧
      (Leaf.compare op column v).Runs b ∧ ∀ i,
        ((Leaf.compare op column v).Picks b i ↔
          ∃ x, whole? b column i = some x ∧ x ≤ greatestInt64 ∧ op.Relates x k) ∧
        (((Leaf.compare op column v).Picks b i ↔ ∃ x, whole? b column i = some x ∧ op.Relates x k) ↔
          ¬ ∃ x, whole? b column i = some x ∧ greatestInt64 < x ∧ op.Upward) ∧
        ∀ x, whole? b column i = some x →
          ((∃! op' : Comparison, op'.Strict ∧ (Leaf.compare op' column v).Picks b i) ↔
            x ≤ greatestInt64)) ∧
    (∀ vs, .member column vs ∈ e.leaves → ∃ ks : List Int, ks ≠ [] ∧ vs = ks.map .int ∧
      (Leaf.member column vs).Runs b ∧ ∀ i,
        ((Leaf.member column vs).Picks b i ↔ ∃ x, whole? b column i = some x ∧ x ∈ ks)) ∧
    (∀ i, isNull b column i = true ↔ whole? b column i = none) ∧
    ∀ i x, whole? b column i = some x → greatestInt64 < x → signed = false ∧ w = .w64 := by
  obtain ⟨_, c, -, -, -, -, hfind, rfl⟩ := resolves hfield
  have hwell := (wellFormed_of_parse hparse).1
  have hsuits : ∀ l ∈ e.leaves, l.column = column → l.Suits (kind c.type) := by
    rintro l hl rfl
    obtain ⟨-, f, hf, hsuits⟩ := hwell l hl
    rw [hfield] at hf
    cases hf
    exact hsuits
  refine ⟨fun op v hl => ?_, fun vs hl => ?_, isNull_iff_whole hfind htype, fun i x =>
    unsigned_of_whole hfind htype⟩
  · obtain ⟨k, rfl, hk⟩ := int_of_suits htype (hsuits _ hl rfl)
    exact ⟨k, rfl, runs_of_fault ((fault_of_whole hfind htype).1 op _), fun i =>
      ⟨picks_compare hfind htype, picks_exact_iff hfind htype hk,
        fun x hx => existsUnique_picks hfind htype hx k⟩⟩
  · obtain ⟨hne, hall⟩ := hsuits _ hl rfl
    obtain ⟨ks, rfl, hks⟩ := ints_of_suit htype hall
    refine ⟨ks, fun h => hne (h ▸ rfl), rfl, runs_of_fault ((fault_of_whole hfind htype).2 _),
      fun i => ?_⟩
    rw [picks_member hfind htype]
    constructor
    · rintro ⟨x, hx, -, hmem⟩
      exact ⟨x, hx, hmem⟩
    · rintro ⟨x, hx, hmem⟩
      exact ⟨x, hx, hks x hmem, hmem⟩

/-- Numbers of 64 bits without a sign, two of them at the bound and behind it, and a NULL. -/
def counts : Batch where
  rows := 4
  columns := [.ofCells "n" true (.int false .w64)
    #[some 7#64, some 9223372036854775807#64, some 9223372036854775808#64, none]]
  aligned := by decide
  sound := by decide

def fewCounts : Expr :=
  .join .and (.leaf (.compare .gt "n" (.int 5)))
    (.leaf (.member "n" [.int 7, .int 9223372036854775807]))

/-- The greatest number that is not beyond is selected by a comparison and by a membership. -/
theorem whole_numbers_selected_counts :
    parse counts.schema "n > 5 AND n IN (7, 9223372036854775807)" = .ok fewCounts ∧
    counts.schema.find? "n" = some ⟨"n", .int false .w64, true⟩ ∧
    whole? counts "n" 1 = some greatestInt64 ∧
    (Leaf.compare .gt "n" (.int 5)).Picks counts 1 ∧
    (Leaf.member "n" [.int 7, .int 9223372036854775807]).Picks counts 1 ∧
    ¬ (Leaf.compare .gt "n" (.int 5)).Picks counts 3 := by
  have hparse : parse counts.schema "n > 5 AND n IN (7, 9223372036854775807)" = .ok fewCounts := by
    decide +kernel
  have hfield : counts.schema.find? "n" = some ⟨"n", .int false .w64, true⟩ := rfl
  have hgreatest : whole? counts "n" 1 = some greatestInt64 := by decide +kernel
  have hnull : whole? counts "n" 3 = none := by decide +kernel
  obtain ⟨hcompare, hmember, -⟩ := whole_numbers_selected hparse hfield rfl
  obtain ⟨k, hk, -, hrows⟩ := hcompare .gt (.int 5) List.mem_cons_self
  cases hk
  obtain ⟨ks, -, hks, -, hlisted⟩ := hmember _ (List.mem_cons_of_mem _ List.mem_cons_self)
  have hgt : greatestInt64 > 5 := by decide
  have hmem : Literal.int greatestInt64 ∈ ks.map .int := hks ▸ by decide
  obtain ⟨x, hx, hxg⟩ := List.mem_map.mp hmem
  cases hxg
  refine ⟨hparse, hfield, hgreatest, (hrows 1).1.mpr ⟨_, hgreatest, Int.le_refl _, hgt⟩,
    (hlisted 1).mpr ⟨_, hgreatest, hx⟩, fun h => ?_⟩
  obtain ⟨x, hx, -⟩ := (hrows 3).1.mp h
  rw [hnull] at hx
  cases hx

/-- A number that is beyond, and greater than five, is not selected as greater than five. -/
theorem beyond_not_selected :
    parse counts.schema "n > 5" = .ok (.leaf (.compare .gt "n" (.int 5))) ∧
    whole? counts "n" 2 = some 9223372036854775808 ∧ isNull counts "n" 2 = false ∧
    Comparison.Relates .gt 9223372036854775808 5 ∧
    (Expr.leaf (.compare .gt "n" (.int 5))).evaluate counts = .ok [true, true, false, false] := by
  refine ⟨by decide +kernel, by decide +kernel, by decide +kernel, ?_, by decide +kernel⟩
  rw [Comparison.Relates]
  decide

end Columnar.Filter

/-
# `Proofs.Filter.Footprint` — the columns of a filter are all it looks at

The footprint of a filter lists the names that its leaves test, each once and
in the order of their first leaves.  It is also what the canonical text of
the filter names, for no other lexeme of a leaf is a name.  And evaluation
looks at nothing but the columns that these names mean: on two batches that
show the same under each of them, a filter selects the same rows or fails in
the same way, whatever else the batches hold.
-/
import Columnar.Proofs.Filter.Canonical
import Columnar.Proofs.Filter.Selection

namespace Columnar.Filter

/-! ## First occurrences -/

section
variable {α : Type} [BEq α] [LawfulBEq α]

/-- What is kept of a list comes in the order it came in. -/
theorem idxOf_filter {p : α → Bool} {x y : α} (hx : p x = true) (hy : p y = true) {l : List α}
    (h : (l.filter p).idxOf x < (l.filter p).idxOf y) : l.idxOf x < l.idxOf y := by
  induction l with
  | nil => exact h
  | cons c l ih =>
      have hne : ∀ {z}, p z = true → ¬ p c = true → (c == z) = false := by
        intro z hz hc
        refine Bool.eq_false_iff.mpr fun heq => hc ?_
        rw [eq_of_beq heq]
        exact hz
      rw [List.filter_cons] at h
      split at h
      · rw [List.idxOf_cons, List.idxOf_cons] at h ⊢
        cases hcx : c == x with
        | true =>
            cases hcy : c == y with
            | true => simp [hcx, hcy] at h
            | false => simp
        | false =>
            cases hcy : c == y with
            | true => simp [hcx, hcy] at h
            | false =>
                simp only [hcx, hcy, cond_false, Nat.add_lt_add_iff_right] at h ⊢
                exact ih h
      · next hc =>
        rw [List.idxOf_cons, List.idxOf_cons, hne hx hc, hne hy hc]
        exact Nat.succ_lt_succ (ih h)

/-- The first occurrences of the values of a list are in the order of the list. -/
theorem eraseDups_ordered (l : List α) :
    l.eraseDups.Pairwise fun x y => l.idxOf x < l.idxOf y := by
  induction hn : l.length using Nat.strongRecOn generalizing l with
  | ind n ih =>
      cases l with
      | nil => exact .nil
      | cons a l =>
          have hshorter : (l.filter fun b => !b == a).length < n := by
            rw [← hn]
            exact Nat.lt_succ_of_le (List.length_filter_le _ l)
          have hkept : ∀ y ∈ (l.filter fun b => !b == a).eraseDups, (!y == a) = true := by
            intro y hy
            exact (List.mem_filter.mp (List.mem_eraseDups.mp hy)).2
          have hbehind : ∀ y, (!y == a) = true → (a == y) = false := by
            intro y hy
            rw [Bool.eq_false_iff]
            intro heq
            rw [eq_of_beq heq, beq_self_eq_true] at hy
            cases hy
          rw [List.eraseDups_cons]
          refine .cons ?_ ((ih _ hshorter _ rfl).imp_of_mem ?_)
          · intro y hy
            rw [List.idxOf_cons, List.idxOf_cons, beq_self_eq_true, hbehind y (hkept y hy)]
            exact Nat.succ_pos _
          · intro x y hx hy h
            rw [List.idxOf_cons, List.idxOf_cons, hbehind x (hkept x hx), hbehind y (hkept y hy)]
            exact Nat.succ_lt_succ (idxOf_filter (p := fun b => !b == a) (hkept x hx) (hkept y hy) h)

end

/-! ## The names of a canonical text -/

/-- The name that a lexeme is. -/
def Lexeme.name? : Lexeme → Option String
  | .identifier name => some name
  | _ => none

theorem names_literal (v : Literal) : v.lexeme.name? = none := by
  cases v with
  | bool b => cases b <;> rfl
  | _ => rfl

theorem names_listed : ∀ vs : List Literal, (listed vs).filterMap Lexeme.name? = []
  | [] => rfl
  | [v] => by
      rw [listed, List.filterMap_cons_none (names_literal v)]
      rfl
  | v :: w :: vs => by
      rw [listed, List.filterMap_cons_none (names_literal v), List.filterMap_cons_none rfl]
      exact names_listed (w :: vs)

/-- A leaf names its column and nothing else. -/
theorem names_leaf (l : Leaf) : l.lexemes.filterMap Lexeme.name? = [l.column] := by
  cases l with
  | compare op column v =>
      change column :: [v.lexeme].filterMap Lexeme.name? = [column]
      rw [List.filterMap_cons_none (names_literal v), List.filterMap_nil]
  | like negated column pattern => cases negated <;> rfl
  | member column vs =>
      change column :: (listed vs).filterMap Lexeme.name? = [column]
      rw [names_listed]
  | null negated column => cases negated <;> rfl

theorem names_lexemes (e : Expr) : ∀ within : Option Connective,
    (e.lexemes within).filterMap Lexeme.name? = e.leaves.map Leaf.column := by
  induction e with
  | leaf l => exact fun _ => names_leaf l
  | not e ih => exact fun _ => ih none
  | join c l r ihl ihr =>
      intro within
      have hchain : (l.lexemes (some c) ++ .keyword c.keyword :: r.lexemes none).filterMap
          Lexeme.name? = (Expr.join c l r).leaves.map Leaf.column := by
        rw [List.filterMap_append, List.filterMap_cons_none rfl, ihl, ihr, Expr.leaves,
          List.map_append]
      rw [Expr.lexemes]
      split
      · exact hchain
      · rw [List.filterMap_cons_none rfl, List.filterMap_append, hchain]
        exact List.append_nil _

/-! ## What a batch shows -/

/-- The type and the cells that a batch has under a name. -/
def viewOf (b : Batch) (name : String) : Option ((t : DataType) × List (Option t.Value)) :=
  (b.find? name).map fun c => ⟨c.type, c.cells⟩

theorem isNull_viewOf (b : Batch) (name : String) (i : Nat) :
    isNull b name i = (viewOf b name).all fun v => (v.2.getD i none).isNone := by
  rw [isNull, viewOf]
  cases b.find? name with
  | none => rfl
  | some c => rfl

theorem datum_viewOf (b : Batch) (name : String) (i : Nat) :
    datum? b name i = (viewOf b name).bind fun v =>
      (widen? v.1).bind fun widen => (v.2.getD i none).bind widen := by
  rw [datum?, viewOf]
  cases b.find? name with
  | none => rfl
  | some c => rfl

/-- The error, without the names that a batch has where one is missing. -/
def SelectError.bare : SelectError → SelectError
  | .missingColumn name _ => .missingColumn name []
  | .noPredicates type => .noPredicates type
  | .badPattern pattern => .badPattern pattern

section
variable {a b : Batch}

theorem selects_of_view {l : Leaf} (h : viewOf a l.column = viewOf b l.column) (i : Nat) :
    l.selects a i = l.selects b i := by
  have hdatum : datum? a l.column i = datum? b l.column i := by
    rw [datum_viewOf, datum_viewOf, h]
  have hnull : isNull a l.column i = isNull b l.column i := by
    rw [isNull_viewOf, isNull_viewOf, h]
  cases l with
  | compare op column v =>
      rw [Leaf.selects, Leaf.selects]
      exact congrArg (Option.any _) hdatum
  | like negated column pattern =>
      rw [Leaf.selects, Leaf.selects]
      exact congrArg (Option.any _) hdatum
  | member column vs =>
      rw [Leaf.selects, Leaf.selects]
      exact congrArg (Option.any _) hdatum
  | null negated column => exact congrArg (· != negated) hnull

theorem fault_of_view {l : Leaf} (h : viewOf a l.column = viewOf b l.column) :
    (l.fault? a).map SelectError.bare = (l.fault? b).map SelectError.bare := by
  rw [viewOf, viewOf] at h
  rw [Leaf.fault?, Leaf.fault?]
  cases ha : a.find? l.column with
  | none =>
      rw [ha, Option.map_none] at h
      rw [Option.map_eq_none_iff.mp h.symm]
      rfl
  | some c =>
      rw [ha, Option.map_some] at h
      obtain ⟨d, hb, hview⟩ := Option.map_eq_some_iff.mp h.symm
      have htype : d.type = c.type := congrArg Sigma.fst hview
      rw [hb]
      dsimp only
      rw [htype]

/-- What the tree says of its leaves depends on its leaves only. -/
theorem holds_congr {e : Expr} {p q : Leaf → Bool} (h : ∀ l ∈ e.leaves, p l = q l) :
    e.holds p = e.holds q := by
  induction e with
  | leaf l => exact h l List.mem_cons_self
  | not e ih => exact congrArg (!·) (ih h)
  | join c l r ihl ihr =>
      rw [Expr.holds, Expr.holds, ihl fun k hk => h k (List.mem_append_left _ hk),
        ihr fun k hk => h k (List.mem_append_right _ hk)]

/-- Batches that show the same under the names of a filter are the same to the filter. -/
theorem evaluate_of_view {e : Expr} (hrows : a.rows = b.rows)
    (h : ∀ l ∈ e.leaves, viewOf a l.column = viewOf b l.column) :
    (e.evaluate a).mapError SelectError.bare = (e.evaluate b).mapError SelectError.bare := by
  have hfault : (e.fault? a).map SelectError.bare = (e.fault? b).map SelectError.bare := by
    rw [Expr.fault?, Expr.fault?, List.map_findSome?, List.map_findSome?]
    exact findSome_congr fun l hl => fault_of_view (h l hl)
  rw [Expr.evaluate_eq, Expr.evaluate_eq]
  cases ha : e.fault? a with
  | none =>
      rw [ha, Option.map_none] at hfault
      have hholds : ∀ i, (e.holds fun l => l.selects a i) = e.holds fun l => l.selects b i :=
        fun i => holds_congr fun l hl => selects_of_view (h l hl) i
      rw [Option.map_eq_none_iff.mp hfault.symm, hrows]
      simp only [hholds]
  | some err =>
      rw [ha, Option.map_some] at hfault
      obtain ⟨err', hb, hsame⟩ := Option.map_eq_some_iff.mp hfault.symm
      rw [hb]
      exact congrArg Except.error hsame.symm

end

/-! ## The footprint -/

theorem mem_columns {e : Expr} {name : String} :
    name ∈ e.columns ↔ ∃ l ∈ e.leaves, l.column = name := by
  rw [Expr.columns, List.mem_eraseDups, List.mem_map]

/-- The footprint of a filter is what it looks at.  It lists the names of the leaves, each once and
in the order of their first leaves; it is what the canonical text names, where that can be read;
and batches with as many rows that show the same under these names give the same mask, or the same
error, the list of the batch's own names in it apart. -/
theorem columns_footprint (e : Expr) :
    (e.columns.Nodup ∧ (∀ name, name ∈ e.columns ↔ ∃ l ∈ e.leaves, l.column = name) ∧
      e.columns.Pairwise fun x y =>
        (e.leaves.map Leaf.column).idxOf x < (e.leaves.map Leaf.column).idxOf y) ∧
    (e.Printable → ∃ ts, tokenize e.canonical = .ok ts ∧
      e.columns = (ts.filterMap fun t => t.lexeme.name?).eraseDups) ∧
    ∀ a b : Batch, a.rows = b.rows → (∀ name ∈ e.columns, viewOf a name = viewOf b name) →
      (e.evaluate a).mapError SelectError.bare = (e.evaluate b).mapError SelectError.bare := by
  have hordered := eraseDups_ordered (e.leaves.map Leaf.column)
  refine ⟨⟨?_, fun name => mem_columns, hordered⟩, ?_, ?_⟩
  · refine hordered.imp ?_
    rintro x y h rfl
    exact Nat.lt_irrefl _ h
  · intro hprintable
    obtain ⟨ts, htokens, hlexemes⟩ := tokenize_canonical hprintable
    refine ⟨ts, htokens, ?_⟩
    rw [Expr.columns, ← names_lexemes e none, ← hlexemes, List.filterMap_map]
    rfl
  · intro a b hrows hviews
    exact evaluate_of_view hrows fun l hl => hviews _ (mem_columns.mpr ⟨l, hl, rfl⟩)

/-- Names and flags, one flag unknown. -/
def named : Batch where
  rows := 2
  columns := [.ofCells "name" false (.text false) #[some "size", some "x"],
    .ofCells "flag" true .bool #[none, some true]]
  aligned := by decide
  sound := by decide

/-- The same names and flags among other columns, one of them again a `name`. -/
def surrounded : Batch where
  rows := 2
  columns := [.ofCells "size" false .bool #[some true, some false],
    .ofCells "flag" true .bool #[none, some true],
    .ofCells "name" true (.text false) #[some "size", some "x"],
    .ofCells "name" true .date #[none, none]]
  aligned := by decide
  sound := by decide

/-- Tests of names and flags, with a name in a text. -/
def flagged : Expr :=
  .join .or (.leaf (.compare .eq "name" (.text "size")))
    (.join .and (.not (.leaf (.null false "flag"))) (.leaf (.like true "name" "size%")))

/-- A text that holds a name is not a name, and columns around those that are named do not
matter. -/
theorem columns_footprint_flagged :
    flagged.columns = ["name", "flag"] ∧
    (∃ ts, tokenize flagged.canonical = .ok ts ∧
      flagged.columns = (ts.filterMap fun t => t.lexeme.name?).eraseDups) ∧
    (flagged.evaluate named).mapError SelectError.bare =
      (flagged.evaluate surrounded).mapError SelectError.bare := by
  obtain ⟨-, htext, hviews⟩ := columns_footprint flagged
  have hcolumns : flagged.columns = ["name", "flag"] := by decide +kernel
  have hname : Plain "name" := by
    rw [Plain]
    decide +kernel
  have hflag : Plain "flag" := by
    rw [Plain]
    decide +kernel
  have hprintable : flagged.Printable := List.forall_mem_cons.mpr
    ⟨⟨hname, List.forall_mem_singleton.mpr trivial⟩, List.forall_mem_cons.mpr
      ⟨⟨hflag, List.forall_mem_nil _⟩, List.forall_mem_singleton.mpr
        ⟨hname, List.forall_mem_nil _⟩⟩⟩
  refine ⟨hcolumns, htext hprintable, hviews named surrounded rfl ?_⟩
  rw [hcolumns]
  exact List.forall_mem_cons.mpr ⟨rfl, List.forall_mem_singleton.mpr rfl⟩

end Columnar.Filter

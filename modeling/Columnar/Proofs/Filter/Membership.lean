/-
# `Proofs.Filter.Membership` — membership as a chain of equalities

A list test goes over its column once and asks of every cell whether it equals
one of the literals.  The same can be asked by one test for equality for each
literal, with `OR` between them, which makes and combines as many masks.  Both
come to the same (`evaluate_member`): the tests fail alike, for they are of one
column, and a NULL is equal to nothing, so that it drops out of the list test
and of every equality.  What a list test selects is then a matter of which
literals it has.

`NOT IN` is not a test of its own: it is read as the negation of the list
test.  So it selects what the list test leaves, NULLs included.
-/
import Columnar.Proofs.Filter.Parsing
import Columnar.Proofs.Filter.Faults
import Mathlib.Data.List.TakeWhile

namespace Columnar.Filter

/-! ## Chains of equalities -/

/-- The filter, or the column equals one of the literals: a chain that leans to the left. -/
def orEqual (column : String) (e : Expr) : List Literal → Expr
  | [] => e
  | v :: vs => orEqual column (.join .or e (.leaf (.compare .eq column v))) vs

/-- The column equals the first literal, or one of the others. -/
def anyEqual (column : String) (v : Literal) (vs : List Literal) : Expr :=
  orEqual column (.leaf (.compare .eq column v)) vs

section
variable {b : Batch} {column : String}

/-- Tests of one column for equality fail alike, whatever they compare with. -/
theorem fault_orEqual {v : Literal} : ∀ {vs : List Literal} {e : Expr},
    e.fault? b = (Leaf.compare .eq column v).fault? b →
    (orEqual column e vs).fault? b = (Leaf.compare .eq column v).fault? b
  | [], _, h => h
  | w :: vs, e, h => by
      have hleaf : (Expr.leaf (.compare .eq column w)).fault? b =
          (Leaf.compare .eq column v).fault? b := List.findSome?_singleton
      have hjoin : (Expr.join .or e (.leaf (.compare .eq column w))).fault? b =
          (Leaf.compare .eq column v).fault? b := by
        rw [Expr.fault_join, h, hleaf, Option.or_self]
      rw [orEqual]
      exact fault_orEqual hjoin

theorem holds_orEqual (p : Leaf → Bool) : ∀ (vs : List Literal) (e : Expr),
    (orEqual column e vs).holds p = (e.holds p || vs.any fun v => p (.compare .eq column v))
  | [], e => (Bool.or_false _).symm
  | v :: vs, e => by
      rw [orEqual, holds_orEqual p vs, List.any_cons, ← Bool.or_assoc]
      rfl

/-- A list test selects the rows that one of the equalities selects. -/
theorem selects_member (b : Batch) (i : Nat) (column : String) (vs : List Literal) :
    (Leaf.member column vs).selects b i =
      vs.any fun v => (Leaf.compare .eq column v).selects b i := by
  simp only [Leaf.selects]
  cases datum? b column i with
  | none =>
      have hnone : vs.any (fun _ => false) = false := by simp
      exact hnone.symm
  | some d => rfl

/-- A list test is evaluated as the chain of its equalities. -/
theorem evaluate_member (b : Batch) (column : String) (v : Literal) (vs : List Literal) :
    (Expr.leaf (.member column (v :: vs))).evaluate b = (anyEqual column v vs).evaluate b := by
  have hfault : (anyEqual column v vs).fault? b = (Leaf.member column (v :: vs)).fault? b :=
    fault_orEqual List.findSome?_singleton
  have hholds : ∀ i, ((anyEqual column v vs).holds fun l => l.selects b i) =
      (Leaf.member column (v :: vs)).selects b i := by
    intro i
    rw [selects_member, List.any_cons]
    exact holds_orEqual _ vs _
  rw [Expr.evaluate, Leaf.evaluate_eq, Expr.evaluate_eq, hfault]
  simp only [hholds]

/-- A list test that runs on a batch selects row by row. -/
theorem member_ok_iff {vs : List Literal} {m : List Bool} :
    (Expr.leaf (.member column vs)).evaluate b = .ok m ↔
      (Leaf.member column vs).fault? b = none ∧
        m = (List.range b.rows).map fun i => (Leaf.member column vs).selects b i := by
  rw [Expr.evaluate_ok_iff, Expr.fault?, Expr.leaves, List.findSome?_singleton]
  rfl

/-! ## More literals -/

/-- With more literals a list test selects no less. -/
theorem selects_of_subset {vs ws : List Literal} (h : vs ⊆ ws) {i : Nat}
    (hselects : (Leaf.member column vs).selects b i = true) :
    (Leaf.member column ws).selects b i = true := by
  rw [selects_member, List.any_eq_true] at hselects ⊢
  obtain ⟨v, hv, hequal⟩ := hselects
  exact ⟨v, h hv, hequal⟩

theorem evaluate_of_subset {vs ws : List Literal} (h : vs ⊆ ws) {m : List Bool}
    (hm : (Expr.leaf (.member column vs)).evaluate b = .ok m) :
    ∃ n : List Bool, (Expr.leaf (.member column ws)).evaluate b = .ok n ∧ n.length = m.length ∧
      ∀ i : Nat, m[i]? = some true → n[i]? = some true := by
  obtain ⟨hfault, rfl⟩ := member_ok_iff.mp hm
  refine ⟨_, member_ok_iff.mpr ⟨hfault, rfl⟩, by simp, ?_⟩
  intro i hi
  rw [List.getElem?_map, Option.map_eq_some_iff] at hi ⊢
  obtain ⟨j, hj, hselects⟩ := hi
  exact ⟨j, hj, selects_of_subset h hselects⟩

/-- A list test goes by which literals it has, not by their order or number. -/
theorem evaluate_of_same {vs ws : List Literal} (h : ∀ v, v ∈ vs ↔ v ∈ ws) :
    (Expr.leaf (.member column vs)).evaluate b = (Expr.leaf (.member column ws)).evaluate b := by
  have hselects : ∀ i, (Leaf.member column vs).selects b i =
      (Leaf.member column ws).selects b i := by
    intro i
    rw [Bool.eq_iff_iff]
    exact ⟨selects_of_subset fun v => (h v).mp, selects_of_subset fun v => (h v).mpr⟩
  have hfault : (Leaf.member column vs).fault? b = (Leaf.member column ws).fault? b := rfl
  rw [Expr.evaluate, Expr.evaluate, Leaf.evaluate_eq, Leaf.evaluate_eq, hfault]
  simp only [hselects]

/-! ## The negated list -/

/-- The negation of a list test marks every other row, and the rows that are NULL with them. -/
theorem evaluate_not_member {vs : List Literal} {m : List Bool}
    (hm : (Expr.leaf (.member column vs)).evaluate b = .ok m) :
    ∃ n : List Bool, (Expr.not (.leaf (.member column vs))).evaluate b = .ok n ∧
      n.length = b.rows ∧
      ∀ i < b.rows, n[i]? = m[i]?.map Bool.not ∧
        (isNull b column i = true → n[i]? = some true) := by
  have hn : (Expr.not (.leaf (.member column vs))).evaluate b = .ok (m.map Bool.not) := by
    rw [Expr.evaluate, hm]
    rfl
  obtain ⟨-, rfl⟩ := member_ok_iff.mp hm
  refine ⟨_, hn, by simp, ?_⟩
  intro i hi
  refine ⟨List.getElem?_map, ?_⟩
  intro hnull
  have hselects : (Leaf.member column vs).selects b i = false := by
    rw [Leaf.selects, datum_of_isNull hnull]
    rfl
  simp [hi, hselects]

end

/-- Behind a name and `IN`, the lexemes list the literals for the column. -/
def ListedFor (s : Schema) (column : String) (ls : List Lexeme) (vs : List Literal) : Prop :=
  ∃ f, s.find? column = some f ∧ Bracketed (kind f.type) ls vs

/-- A list test, negated or not. -/
def listTest (negated : Bool) (column : String) (vs : List Literal) : Expr :=
  if negated then .not (.leaf (.member column vs)) else .leaf (.member column vs)

theorem tests_list_iff {column : String} {k : Kind} {negated : Bool} {ls : List Lexeme} {e : Expr} :
    Tests column k (notWord negated ++ .keyword .in :: ls) e ↔
      ∃ vs, Bracketed k ls vs ∧ e = listTest negated column vs := by
  constructor
  · intro h
    generalize hls : notWord negated ++ .keyword .in :: ls = all at h
    cases h with
    | compare _ => cases negated <;> cases hls
    | @like negated' _ _ _ => cases negated <;> cases negated' <;> cases hls
    | @member _ vs hlist =>
        cases negated with
        | true => cases hls
        | false =>
            cases hls
            exact ⟨vs, hlist, rfl⟩
    | @notMember _ vs hlist =>
        cases negated with
        | true =>
            cases hls
            exact ⟨vs, hlist, rfl⟩
        | false => cases hls
    | null => cases negated <;> cases hls
  · rintro ⟨vs, hlist, rfl⟩
    cases negated with
    | true => exact .notMember hlist
    | false => exact .member hlist

/-- A phrase that is a name and a list, with or without `NOT`, says the list test or its
negation. -/
theorem derives_list_iff {s : Schema} {column : String} {negated : Bool} {ls : List Lexeme}
    {n : Nat} {e : Expr} :
    Derives s .unary (.identifier column :: (notWord negated ++ .keyword .in :: ls)) n e ↔
      n = 0 ∧ ∃ vs, ListedFor s column ls vs ∧ e = listTest negated column vs := by
  constructor
  · intro h
    cases h with
    | predicate hfield htests =>
        obtain ⟨vs, hlist, he⟩ := tests_list_iff.mp htests
        exact ⟨rfl, vs, ⟨_, hfield, hlist⟩, he⟩
  · rintro ⟨rfl, vs, ⟨f, hfield, hlist⟩, rfl⟩
    exact .predicate hfield (tests_list_iff.mpr ⟨vs, hlist, rfl⟩)

theorem depth_listTest_le (negated : Bool) (column : String) (vs : List Literal) :
    (listTest negated column vs).depth ≤ 2 := by
  cases negated with
  | true => exact Nat.le_refl 2
  | false => exact Nat.le_succ 1

theorem parse_list {s : Schema} {column : String} {negated : Bool} {ls : List Lexeme}
    {vs : List Literal} (hlist : ListedFor s column ls vs) {text : String} {ts : List Token}
    (htokens : tokenize text = .ok ts)
    (hts : ts.map Token.lexeme = .identifier column :: (notWord negated ++ .keyword .in :: ls)) :
    parse s text = .ok (listTest negated column vs) := by
  have hphrase : Derives s .unary (ts.map Token.lexeme) 0 (listTest negated column vs) := by
    rw [hts]
    exact derives_list_iff.mpr ⟨rfl, vs, hlist, rfl⟩
  have hdepth : (listTest negated column vs).depth ≤ maxDepth :=
    Nat.le_trans (depth_listTest_le negated column vs) two_le_maxDepth
  rw [parse, htokens]
  exact (Context.filter_ok_iff _ two_le_maxDepth).mpr
    ⟨0, .one (.one hphrase), Nat.zero_le _, hdepth⟩

/-- A list test says that its column equals one of the literals.  On every batch it is evaluated as
the tests for equality with `OR` between them; so neither the order of the literals nor their
number matters, and with more of them no row is lost.  A name and a list, with or without `NOT`, is
read as the list test or as its negation, alone and wherever it stands in a filter, and the negation
marks the rows that the test does not mark, those of the NULLs among them. -/
theorem member_disjunction :
    (∀ (b : Batch) (column : String) (v : Literal) (vs : List Literal),
      (Expr.leaf (.member column (v :: vs))).evaluate b = (anyEqual column v vs).evaluate b) ∧
    (∀ (b : Batch) (column : String) (vs ws : List Literal), (∀ v, v ∈ vs ↔ v ∈ ws) →
      (Expr.leaf (.member column vs)).evaluate b = (Expr.leaf (.member column ws)).evaluate b) ∧
    (∀ (b : Batch) (column : String) (vs ws : List Literal) (m : List Bool), vs ⊆ ws →
      (Expr.leaf (.member column vs)).evaluate b = .ok m →
      ∃ n : List Bool, (Expr.leaf (.member column ws)).evaluate b = .ok n ∧ n.length = m.length ∧
        ∀ i : Nat, m[i]? = some true → n[i]? = some true) ∧
    (∀ (s : Schema) (column : String) (negated : Bool) (ls : List Lexeme) (n : Nat) (e : Expr),
      Derives s .unary (.identifier column :: (notWord negated ++ .keyword .in :: ls)) n e ↔
        n = 0 ∧ ∃ vs, ListedFor s column ls vs ∧ e = listTest negated column vs) ∧
    (∀ (s : Schema) (column : String) (negated : Bool) (ls : List Lexeme) (vs : List Literal)
      (text : String) (ts : List Token), ListedFor s column ls vs → tokenize text = .ok ts →
      ts.map Token.lexeme = .identifier column :: (notWord negated ++ .keyword .in :: ls) →
      parse s text = .ok (listTest negated column vs)) ∧
    (∀ (b : Batch) (column : String) (vs : List Literal) (m : List Bool),
      (listTest false column vs).evaluate b = .ok m →
      ∃ n : List Bool, (listTest true column vs).evaluate b = .ok n ∧ n.length = b.rows ∧
        ∀ i < b.rows, n[i]? = m[i]?.map Bool.not ∧
          (isNull b column i = true → n[i]? = some true)) := by
  refine ⟨evaluate_member, ?_, ?_, ?_, ?_, ?_⟩
  · intro b column vs ws h
    exact evaluate_of_same h
  · intro b column vs ws m h hm
    exact evaluate_of_subset h hm
  · intro s column negated ls n e
    exact derives_list_iff
  · intro s column negated ls vs text ts hlist htokens hts
    exact parse_list hlist htokens hts
  · intro b column vs m hm
    exact evaluate_not_member hm

/-- Codes that are texts, one of them NULL. -/
def codes : Batch where
  rows := 4
  columns := [.ofCells "code" true (.text false) #[some "1", some "x", none, some "2"]]
  aligned := by decide
  sound := by decide

/-- Numbers meet texts in a list of several kinds, a flag equals no code, and the NULL is selected by
the negated list only. -/
theorem member_disjunction_codes :
    (Expr.leaf (.member "code" [.int 1, .bool true, .text "x"])).evaluate codes =
      .ok [true, true, false, false] ∧
    (Expr.leaf (.member "code" [.text "x", .int 1, .bool true, .int 1])).evaluate codes =
      .ok [true, true, false, false] ∧
    (∃ n : List Bool, (Expr.leaf (.member "code" [.int 2, .int 1, .bool true, .text "x"])).evaluate
      codes = .ok n ∧ n[1]? = some true) ∧
    parse codes.schema "code not in (1, 'x')" = .ok (listTest true "code" [.int 1, .text "x"]) ∧
    ∃ n : List Bool, (listTest true "code" [.int 1, .text "x"]).evaluate codes = .ok n ∧
      n[0]? = some false ∧ n[2]? = some true := by
  obtain ⟨-, hsame, hmore, -, hparse, hnot⟩ := member_disjunction
  have hmask : (Expr.leaf (.member "code" [.int 1, .bool true, .text "x"])).evaluate codes =
      .ok [true, true, false, false] := by decide +kernel
  have hlisted : (listTest false "code" [.int 1, .text "x"]).evaluate codes =
      .ok [true, true, false, false] := by decide +kernel
  obtain ⟨n, hn, -, hrows⟩ := hmore codes "code" _ [.int 2, .int 1, .bool true, .text "x"] _
    (List.subset_cons_self _ _) hmask
  obtain ⟨k, hk, -, hcomplement⟩ := hnot codes "code" [.int 1, .text "x"] _ hlisted
  have hlist : ListedFor codes.schema "code"
      [.openParen, .number "1", .comma, .text "x", .closeParen] [.int 1, .text "x"] :=
    ⟨⟨"code", .text false, true⟩, rfl, .round (.more ⟨.number "1", rfl, by decide +kernel⟩
      (.last ⟨.text "x", rfl, rfl⟩))⟩
  refine ⟨hmask, ?_, ⟨n, hn, hrows 1 rfl⟩, ?_, k, hk, (hcomplement 0 (by decide)).1,
    (hcomplement 2 (by decide)).2 (by decide +kernel)⟩
  · rw [← hmask]
    exact hsame codes "code" _ _ (by grind)
  · have htokens : tokenize "code not in (1, 'x')" = .ok [⟨.identifier "code", 0⟩,
        ⟨.keyword .not, 5⟩, ⟨.keyword .in, 9⟩, ⟨.openParen, 12⟩, ⟨.number "1", 13⟩, ⟨.comma, 14⟩,
        ⟨.text "x", 16⟩, ⟨.closeParen, 19⟩] := by decide +kernel
    exact hparse codes.schema "code" true _ _ _ _ hlist htokens rfl

end Columnar.Filter

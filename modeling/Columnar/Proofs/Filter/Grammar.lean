/-
# `Proofs.Filter.Grammar` — the grammar as derivations

`Derives s p ls n e`: over the schema `s`, the lexemes `ls` are a phrase of
the kind `p` that says `e`, and `n` signs `NOT` and `(` are open at once
where it is nested deepest.  The rules are those of the grammar and nothing
else: no positions, no limits, no order in which anything is tried.  A chain
is its first operands followed by one more, which makes its tree lean to the
left.

The readers of predicates are matched with their rules here; they do not
call themselves through parentheses, so each of them takes exactly what a
rule derives.
-/
import Columnar.Filter.Parser

namespace Columnar.Filter

/-! ## Rules -/

/-- The lexeme writes the literal for a column of the kind. -/
def Lexeme.Writes (k : Kind) (l : Lexeme) (v : Literal) : Prop :=
  ∃ w, l.written? = some w ∧ read k w = .ok v

/-- Literals with commas between them, and the bracket behind them. -/
inductive Listed (k : Kind) (close : Lexeme) : List Lexeme → List Literal → Prop
  | last {l : Lexeme} {v : Literal} : l.Writes k v → Listed k close [l, close] [v]
  | more {l : Lexeme} {v : Literal} {ls : List Lexeme} {vs : List Literal} : l.Writes k v →
      Listed k close ls vs → Listed k close (l :: .comma :: ls) (v :: vs)

/-- A list of literals in brackets of one kind. -/
inductive Bracketed (k : Kind) : List Lexeme → List Literal → Prop
  | round {ls : List Lexeme} {vs : List Literal} : Listed k .closeParen ls vs →
      Bracketed k (.openParen :: ls) vs
  | square {ls : List Lexeme} {vs : List Literal} : Listed k .closeBracket ls vs →
      Bracketed k (.openBracket :: ls) vs

/-- `NOT`, or nothing. -/
def notWord : Bool → List Lexeme
  | true => [.keyword .not]
  | false => []

/-- What can stand behind the name of a column of the kind. -/
inductive Tests (column : String) (k : Kind) : List Lexeme → Expr → Prop
  | compare {op : Comparison} {l : Lexeme} {v : Literal} : l.Writes k v →
      Tests column k [.operator op, l] (.leaf (.compare op column v))
  | like {negated : Bool} {pattern : String} : k ≠ .bool → k ≠ .other →
      Tests column k (notWord negated ++ [.keyword .like, .text pattern])
        (.leaf (.like negated column pattern))
  | member {ls : List Lexeme} {vs : List Literal} : Bracketed k ls vs →
      Tests column k (.keyword .in :: ls) (.leaf (.member column vs))
  | notMember {ls : List Lexeme} {vs : List Literal} : Bracketed k ls vs →
      Tests column k (.keyword .not :: .keyword .in :: ls) (.not (.leaf (.member column vs)))
  | null {negated : Bool} :
      Tests column k (.keyword .is :: (notWord negated ++ [.keyword .null]))
        (.leaf (.null negated column))

/-- The kinds of phrases. -/
inductive Phrase where
  | unary
  /-- Operands joined by one connective. -/
  | chain (k : Connective)

/-- A whole filter. -/
abbrev Phrase.filter : Phrase := .chain .or

/-- What a connective joins. -/
def Connective.operand : Connective → Phrase
  | and => .unary
  | or => .chain .and

/-- The lexemes are a phrase that says the filter. -/
inductive Derives (s : Schema) : Phrase → List Lexeme → (nesting : Nat) → Expr → Prop
  | predicate {column : String} {f : Field} {ls : List Lexeme} {e : Expr} :
      s.find? column = some f → Tests column (kind f.type) ls e →
      Derives s .unary (.identifier column :: ls) 0 e
  | not {ls : List Lexeme} {n : Nat} {e : Expr} : Derives s .unary ls n e →
      Derives s .unary (.keyword .not :: ls) (n + 1) (.not e)
  | group {ls : List Lexeme} {n : Nat} {e : Expr} : Derives s .filter ls n e →
      Derives s .unary (.openParen :: (ls ++ [.closeParen])) (n + 1) e
  | one {k : Connective} {ls : List Lexeme} {n : Nat} {e : Expr} : Derives s k.operand ls n e →
      Derives s (.chain k) ls n e
  | more {k : Connective} {ls rs : List Lexeme} {m n : Nat} {e f : Expr} :
      Derives s (.chain k) ls m e → Derives s k.operand rs n f →
      Derives s (.chain k) (ls ++ .keyword k.keyword :: rs) (max m n) (.join k e f)

/-! ## Taking lexemes from the front -/

/-- The tokens begin with the lexemes, and `rest` follows. -/
def Takes : List Lexeme → List Token → (rest : List Token) → Prop
  | [], ts, rest => ts = rest
  | l :: ls, ts, rest => ∃ p after, ts = ⟨l, p⟩ :: after ∧ Takes ls after rest

theorem takes_nil (ts : List Token) : Takes [] ts ts := rfl

theorem takes_cons {l : Lexeme} {ls : List Lexeme} {t : Token} {ts rest : List Token} :
    Takes (l :: ls) (t :: ts) rest ↔ t.lexeme = l ∧ Takes ls ts rest := by
  constructor
  · rintro ⟨p, after, h, hafter⟩
    cases h
    exact ⟨rfl, hafter⟩
  · rintro ⟨rfl, hafter⟩
    exact ⟨t.position, ts, rfl, hafter⟩

theorem takes_append {ls ms : List Lexeme} {ts rest : List Token} :
    Takes (ls ++ ms) ts rest ↔ ∃ between, Takes ls ts between ∧ Takes ms between rest := by
  induction ls generalizing ts with
  | nil =>
      constructor
      · intro h
        exact ⟨ts, rfl, h⟩
      · rintro ⟨_, rfl, h⟩
        exact h
  | cons l ls ih =>
      constructor
      · rintro ⟨p, after, hts, h⟩
        obtain ⟨between, hls, hms⟩ := ih.mp h
        exact ⟨between, ⟨p, after, hts, hls⟩, hms⟩
      · rintro ⟨between, ⟨p, after, hts, hls⟩, hms⟩
        exact ⟨p, after, hts, ih.mpr ⟨between, hls, hms⟩⟩

theorem takes_all {ls : List Lexeme} {ts : List Token} :
    Takes ls ts [] ↔ ts.map Token.lexeme = ls := by
  induction ls generalizing ts with
  | nil => rw [List.map_eq_nil_iff]; exact Iff.rfl
  | cons l ls ih =>
      cases ts with
      | nil =>
          constructor
          · rintro ⟨_, _, h, _⟩
            cases h
          · intro h
            cases h
      | cons t ts => rw [takes_cons, ih, List.map_cons, List.cons.injEq]

theorem takes_iff {ls : List Lexeme} {ts rest : List Token} :
    Takes ls ts rest ↔ ∃ front, ts = front ++ rest ∧ front.map Token.lexeme = ls := by
  induction ls generalizing ts with
  | nil =>
      constructor
      · rintro rfl
        exact ⟨[], rfl, rfl⟩
      · rintro ⟨front, rfl, hfront⟩
        rw [List.map_eq_nil_iff.mp hfront]
        exact takes_nil rest
  | cons l ls ih =>
      constructor
      · rintro ⟨p, after, rfl, h⟩
        obtain ⟨front, rfl, rfl⟩ := ih.mp h
        exact ⟨⟨l, p⟩ :: front, rfl, rfl⟩
      · rintro ⟨front, rfl, hfront⟩
        cases front with
        | nil => cases hfront
        | cons t front =>
            obtain ⟨hl, hls⟩ := List.cons.inj hfront
            exact takes_cons.mpr ⟨hl, ih.mpr ⟨front, rfl, hls⟩⟩

/-- A list of literals begins with a literal, so its brackets are not empty. -/
theorem Listed.head_ne {k : Kind} {close : Lexeme} {ls : List Lexeme} {vs : List Literal}
    (h : Listed k close ls vs) (hclose : close.written? = none) {ts rest : List Token}
    (htakes : Takes ls ts rest) : ts.head?.map Token.lexeme ≠ some close := by
  have hne : ∀ {l : Lexeme} {v : Literal}, l.Writes k v → l ≠ close := by
    rintro l v ⟨w, hw, -⟩ rfl
    rw [hclose] at hw
    cases hw
  cases h with
  | last hwrites =>
      obtain ⟨p, after, rfl, -⟩ := htakes
      exact fun heq => hne hwrites (Option.some.inj heq)
  | more hwrites _ =>
      obtain ⟨p, after, rfl, -⟩ := htakes
      exact fun heq => hne hwrites (Option.some.inj heq)

namespace Context

variable (c : Context)

theorem keyword_some_iff {k : Keyword} {ts rest : List Token} :
    keyword? k ts = some rest ↔ Takes [.keyword k] ts rest := by
  cases ts with
  | nil =>
      constructor
      · intro h
        cases h
      · rintro ⟨_, _, h, _⟩
        cases h
  | cons t ts =>
      rw [takes_cons, keyword?]
      split
      · next h =>
        rw [Option.some.injEq]
        exact ⟨fun heq => ⟨h, heq⟩, fun heq => heq.2⟩
      · next h => exact ⟨fun heq => (nomatch heq), fun heq => absurd heq.1 h⟩

/-! ## Lists of literals -/

theorem literal_ok_iff {column : String} {k : Kind} {ts rest : List Token} {v : Literal} :
    c.literal column k ts = .ok (v, rest) ↔ ∃ l, l.Writes k v ∧ Takes [l] ts rest := by
  cases ts with
  | nil =>
      constructor
      · intro h
        cases h
      · rintro ⟨l, -, _, _, h, _⟩
        cases h
  | cons t ts =>
      constructor
      · intro h
        rw [literal] at h
        split at h
        · cases h
        · next w hw =>
          split at h
          · next v' hv =>
            cases h
            exact ⟨t.lexeme, ⟨w, hw, hv⟩, takes_cons.mpr ⟨rfl, rfl⟩⟩
          · cases h
      · rintro ⟨l, ⟨w, hw, hv⟩, htakes⟩
        obtain ⟨rfl, rfl⟩ := takes_cons.mp htakes
        simp only [literal, hw, hv]

theorem literals_sound {column : String} {k : Kind} {close : Lexeme} : ∀ {ts rest : List Token}
    {vs : List Literal}, c.literals column k close ts = .ok (vs, rest) →
      ∃ ls, Listed k close ls vs ∧ Takes ls ts rest
  | [], _, _, h => by cases h
  | [t], rest, vs, h => by
      rw [literals] at h
      split at h <;> cases h
  | t :: sep :: ts, rest, vs, h => by
      rw [literals] at h
      split at h
      · cases h
      · next v after hliteral =>
        obtain ⟨l, hwrites, htakes⟩ := (c.literal_ok_iff).mp hliteral
        obtain ⟨rfl, -⟩ := takes_cons.mp htakes
        dsimp only at h
        split at h
        · next hcomma =>
          cases hmore : c.literals column k close ts with
          | error e => rw [hmore] at h; cases h
          | ok r =>
              rw [hmore] at h
              cases h
              obtain ⟨ls, hlisted, hrest⟩ := literals_sound hmore
              exact ⟨_, .more hwrites hlisted, takes_cons.mpr ⟨rfl, takes_cons.mpr ⟨hcomma, hrest⟩⟩⟩
        · split at h
          · next hclose =>
            cases h
            exact ⟨_, .last hwrites, takes_cons.mpr ⟨rfl, takes_cons.mpr ⟨hclose, rfl⟩⟩⟩
          · cases h

theorem literals_complete {column : String} {k : Kind} {close : Lexeme} (hclose : close ≠ .comma)
    {ls : List Lexeme} {vs : List Literal} (h : Listed k close ls vs) :
    ∀ {ts rest : List Token}, Takes ls ts rest → c.literals column k close ts = .ok (vs, rest) := by
  induction h with
  | @last l v hwrites =>
      rintro ts rest ⟨p, _, rfl, q, after, rfl, rfl⟩
      have hliteral : c.literal column k (⟨l, p⟩ :: ⟨close, q⟩ :: after) =
          .ok (v, ⟨close, q⟩ :: after) :=
        (c.literal_ok_iff).mpr ⟨l, hwrites, takes_cons.mpr ⟨rfl, rfl⟩⟩
      rw [literals, hliteral]
      dsimp only
      rw [if_neg hclose, if_pos rfl]
  | @more l v ls vs hwrites _ ih =>
      rintro ts rest ⟨p, _, rfl, q, after, rfl, htakes⟩
      have hliteral : c.literal column k (⟨l, p⟩ :: ⟨.comma, q⟩ :: after) =
          .ok (v, ⟨.comma, q⟩ :: after) :=
        (c.literal_ok_iff).mpr ⟨l, hwrites, takes_cons.mpr ⟨rfl, rfl⟩⟩
      rw [literals, hliteral]
      dsimp only
      rw [if_pos rfl, ih htakes]
      rfl

theorem list_ok_iff {column : String} {k : Kind} {position : Nat} {ts rest : List Token}
    {vs : List Literal} : c.list column k position ts = .ok (vs, rest) ↔
      ∃ ls, Bracketed k ls vs ∧ Takes ls ts rest := by
  constructor
  · intro h
    cases ts with
    | nil => cases h
    | cons t ts =>
        rw [list] at h
        split at h
        · cases h
        · next close hclosing =>
          split at h
          · cases h
          · obtain ⟨ls, hlisted, htakes⟩ := c.literals_sound h
            rw [closing?.eq_def] at hclosing
            split at hclosing
            · next hopen =>
              cases hclosing
              exact ⟨_, .round hlisted, takes_cons.mpr ⟨hopen, htakes⟩⟩
            · next hopen =>
              cases hclosing
              exact ⟨_, .square hlisted, takes_cons.mpr ⟨hopen, htakes⟩⟩
            · cases hclosing
  · rintro ⟨_, h, htakes⟩
    cases h with
    | round hlisted =>
        obtain ⟨p, after, rfl, htakes⟩ := htakes
        rw [list]
        simp only [closing?]
        rw [if_neg (hlisted.head_ne rfl htakes)]
        exact c.literals_complete (by simp) hlisted htakes
    | square hlisted =>
        obtain ⟨p, after, rfl, htakes⟩ := htakes
        rw [list]
        simp only [closing?]
        rw [if_neg (hlisted.head_ne rfl htakes)]
        exact c.literals_complete (by simp) hlisted htakes

/-! ## Tests -/

theorem takes_optionalNot (ts : List Token) :
    Takes (notWord (optionalNot ts).1) ts (optionalNot ts).2 := by
  rw [optionalNot]
  cases h : keyword? .not ts with
  | some rest => exact keyword_some_iff.mp h
  | none => exact takes_nil ts

theorem nullTest_sound {column : String} {k : Kind} {t : Token} {ts rest : List Token} {e : Expr}
    (his : t.lexeme = .keyword .is) (h : c.nullTest column ts = .ok (e, rest)) :
    ∃ ls, Tests column k ls e ∧ Takes ls (t :: ts) rest := by
  have hnot := takes_optionalNot ts
  rw [nullTest] at h
  generalize optionalNot ts = r at h hnot
  obtain ⟨negated, after⟩ := r
  dsimp only at h hnot
  split at h
  · next rest' hnull =>
    cases h
    have htakes := takes_append.mpr ⟨_, hnot, keyword_some_iff.mp hnull⟩
    exact ⟨_, .null, takes_cons.mpr ⟨his, htakes⟩⟩
  · cases h

theorem likeTest_ok_iff {negated : Bool} {column : String} {k : Kind} {position : Nat}
    {ts rest : List Token} {e : Expr} : c.likeTest negated column k position ts = .ok (e, rest) ↔
      k ≠ .bool ∧ k ≠ .other ∧ ∃ pattern, e = .leaf (.like negated column pattern) ∧
        Takes [.text pattern] ts rest := by
  rw [likeTest.eq_def]
  split
  · next hkind =>
    constructor
    · intro h
      cases h
    · rintro ⟨hbool, hother, -⟩
      exact absurd hkind (not_or.mpr ⟨hbool, hother⟩)
  · next hkind =>
    obtain ⟨hbool, hother⟩ := not_or.mp hkind
    constructor
    · intro h
      split at h
      · next pattern p after =>
        cases h
        exact ⟨hbool, hother, pattern, rfl, takes_cons.mpr ⟨rfl, rfl⟩⟩
      · cases h
    · rintro ⟨-, -, pattern, rfl, p, after, rfl, rfl⟩
      rfl

theorem memberTest_ok_iff {negated : Bool} {column : String} {k : Kind} {position : Nat}
    {ts rest : List Token} {e : Expr} : c.memberTest negated column k position ts = .ok (e, rest) ↔
      ∃ ls vs, Bracketed k ls vs ∧ Takes ls ts rest ∧
        e = if negated then .not (.leaf (.member column vs)) else .leaf (.member column vs) := by
  rw [memberTest]
  constructor
  · intro h
    cases hlist : c.list column k position ts with
    | error e => rw [hlist] at h; cases h
    | ok r =>
        rw [hlist] at h
        cases h
        obtain ⟨ls, hls, htakes⟩ := (c.list_ok_iff).mp hlist
        exact ⟨ls, _, hls, htakes, rfl⟩
  · rintro ⟨ls, vs, hls, htakes, rfl⟩
    rw [(c.list_ok_iff).mpr ⟨ls, hls, htakes⟩]
    rfl

theorem comparison_ok_iff {column : String} {k : Kind} {ts rest : List Token} {e : Expr} :
    c.comparison column k ts = .ok (e, rest) ↔ ∃ op l v, l.Writes k v ∧
      e = .leaf (.compare op column v) ∧ Takes [.operator op, l] ts rest := by
  rw [comparison.eq_def]
  constructor
  · intro h
    split at h
    · next op p after =>
      cases hliteral : c.literal column k after with
      | error e => rw [hliteral] at h; cases h
      | ok r =>
          rw [hliteral] at h
          cases h
          obtain ⟨l, hwrites, htakes⟩ := (c.literal_ok_iff).mp hliteral
          exact ⟨op, l, _, hwrites, rfl, takes_cons.mpr ⟨rfl, htakes⟩⟩
    · cases h
  · rintro ⟨op, l, v, hwrites, rfl, p, after, rfl, htakes⟩
    dsimp only
    rw [(c.literal_ok_iff).mpr ⟨l, hwrites, htakes⟩]
    rfl

theorem test_sound {column : String} {k : Kind} {ts rest : List Token} {e : Expr}
    (h : c.test column k ts = .ok (e, rest)) : ∃ ls, Tests column k ls e ∧ Takes ls ts rest := by
  rw [test] at h
  split at h
  · next after his =>
    obtain ⟨p, _, rfl, rfl⟩ := keyword_some_iff.mp his
    exact c.nullTest_sound rfl h
  · have hnot := takes_optionalNot ts
    generalize optionalNot ts = r at h hnot
    obtain ⟨negated, after⟩ := r
    dsimp only at h hnot
    split at h
    · next behind hlike =>
      obtain ⟨hbool, hother, pattern, rfl, hpattern⟩ := (c.likeTest_ok_iff).mp h
      have htakes := takes_append.mpr ⟨behind, keyword_some_iff.mp hlike, hpattern⟩
      exact ⟨_, .like hbool hother, takes_append.mpr ⟨after, hnot, htakes⟩⟩
    · split at h
      · next behind hin =>
        obtain ⟨ls, vs, hls, hrest, rfl⟩ := (c.memberTest_ok_iff).mp h
        have htakes := takes_append.mpr ⟨behind, keyword_some_iff.mp hin, hrest⟩
        cases negated with
        | true => exact ⟨_, .notMember hls, takes_append.mpr ⟨after, hnot, htakes⟩⟩
        | false => exact ⟨_, .member hls, takes_append.mpr ⟨after, hnot, htakes⟩⟩
      · split at h
        · cases h
        · next hpositive =>
          obtain rfl := Bool.not_eq_true _ ▸ hpositive
          obtain ⟨op, l, v, hwrites, rfl, htakes⟩ := (c.comparison_ok_iff).mp h
          obtain rfl : ts = after := hnot
          exact ⟨_, .compare hwrites, htakes⟩

theorem test_complete {column : String} {k : Kind} {ls : List Lexeme} {e : Expr}
    (h : Tests column k ls e) {ts rest : List Token} (htakes : Takes ls ts rest) :
    c.test column k ts = .ok (e, rest) := by
  cases h with
  | @compare op l v hwrites =>
      have hcompare : c.comparison column k ts = .ok (.leaf (.compare op column v), rest) :=
        (c.comparison_ok_iff).mpr ⟨op, l, v, hwrites, rfl, htakes⟩
      obtain ⟨p, after, rfl, -⟩ := htakes
      exact hcompare
  | @like negated pattern hbool hother =>
      cases negated with
      | true =>
          obtain ⟨p, _, rfl, q, after, rfl, hpattern⟩ := htakes
          exact (c.likeTest_ok_iff).mpr ⟨hbool, hother, pattern, rfl, hpattern⟩
      | false =>
          obtain ⟨q, after, rfl, hpattern⟩ := htakes
          exact (c.likeTest_ok_iff).mpr ⟨hbool, hother, pattern, rfl, hpattern⟩
  | @member ls vs hls =>
      obtain ⟨p, after, rfl, hrest⟩ := htakes
      exact (c.memberTest_ok_iff).mpr ⟨ls, vs, hls, hrest, rfl⟩
  | @notMember ls vs hls =>
      obtain ⟨p, _, rfl, q, after, rfl, hrest⟩ := htakes
      exact (c.memberTest_ok_iff).mpr ⟨ls, vs, hls, hrest, rfl⟩
  | @null negated =>
      cases negated with
      | true =>
          obtain ⟨p, _, rfl, q, _, rfl, r, after, rfl, rfl⟩ := htakes
          rfl
      | false =>
          obtain ⟨p, _, rfl, r, after, rfl, rfl⟩ := htakes
          rfl

theorem predicate_ok_iff {ts rest : List Token} {e : Expr} : c.predicate ts = .ok (e, rest) ↔
    ∃ column f ls, c.schema.find? column = some f ∧ Tests column (kind f.type) ls e ∧
      Takes (.identifier column :: ls) ts rest := by
  rw [predicate.eq_def]
  constructor
  · intro h
    split at h
    · next column p after =>
      split at h
      · cases h
      · next f hf =>
        obtain ⟨ls, htests, htakes⟩ := c.test_sound h
        exact ⟨column, f, ls, hf, htests, takes_cons.mpr ⟨rfl, htakes⟩⟩
    · cases h
  · rintro ⟨column, f, ls, hf, htests, p, after, rfl, htakes⟩
    dsimp only
    rw [hf]
    exact c.test_complete htests htakes

end Context

/-- A test is a leaf, or a list test with `NOT` in front of it. -/
theorem Tests.depth_le {column : String} {k : Kind} {ls : List Lexeme} {e : Expr}
    (h : Tests column k ls e) : e.depth ≤ 2 := by
  cases h with
  | compare _ => exact Nat.le_succ 1
  | like _ _ => exact Nat.le_succ 1
  | member _ => exact Nat.le_succ 1
  | notMember _ => exact Nat.le_refl 2
  | null => exact Nat.le_succ 1

end Columnar.Filter

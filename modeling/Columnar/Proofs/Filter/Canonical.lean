/-
# `Proofs.Filter.Canonical` — the canonical text says the filter

A filter is well formed over a schema if its leaves are: the column has a
plain name and is in the schema, literals suit the type of the column, `LIKE`
tests a column with a text form, and lists are not empty.  The canonical text
of a filter is cut into its lexemes as soon as its names and numbers can be
read (`Printable`).  If it is well formed, these derive just this filter, and
their nesting stays below its height: the printer opens a parenthesis only
where the tree goes down.  So the canonical text is read as the filter unless
the filter is too high.

What is read from any text is well formed, since the readers check it.
-/
import Columnar.Proofs.Filter.Lexemes
import Columnar.Proofs.Filter.Parsing

namespace Columnar.Filter

open Columnar.Text Number

/-! ## Well-formed filters -/

/-- The literal is one that is stored for columns of the kind. -/
inductive Literal.Suits : Literal → Kind → Prop
  | int {v least greatest : Int} : least ≤ v → v ≤ greatest →
      Literal.Suits (.int v) (.integer least greatest)
  | float {v : Binary .double} : v.isFinite = true → Literal.Suits (.float v) .float
  | text {t : String} : Literal.Suits (.text t) .text
  | wholeText {v : Int} : IsInt64 v → Literal.Suits (.int v) .text
  | floatText {v : Binary .double} : v.isFinite = true → Literal.Suits (.float v) .text
  | bool {b : Bool} : Literal.Suits (.bool b) .bool

/-- The test can be made of columns of the kind. -/
def Leaf.Suits : Leaf → Kind → Prop
  | .compare _ _ v, k => v.Suits k
  | .like _ _ _, k => k ≠ .bool ∧ k ≠ .other
  | .member _ vs, k => vs ≠ [] ∧ ∀ v ∈ vs, v.Suits k
  | .null _ _, _ => True

/-- The literals that data are compared with. -/
def Leaf.literals : Leaf → List Literal
  | .compare _ _ v => [v]
  | .like _ _ _ => []
  | .member _ vs => vs
  | .null _ _ => []

theorem suits_of_literals {l : Leaf} {k : Kind} (h : l.Suits k) : ∀ v ∈ l.literals, v.Suits k := by
  cases l with
  | compare op column v => exact List.forall_mem_singleton.mpr h
  | like negated column pattern => exact fun _ h => (nomatch h)
  | member column vs => exact h.2
  | null negated column => exact fun _ h => (nomatch h)

def Leaf.WellFormed (s : Schema) (l : Leaf) : Prop :=
  Plain l.column ∧ ∃ f, s.find? l.column = some f ∧ l.Suits (kind f.type)

def Expr.WellFormed (s : Schema) (e : Expr) : Prop := ∀ l ∈ e.leaves, l.WellFormed s

theorem wellFormed_join {s : Schema} {c : Connective} {l r : Expr} :
    (Expr.join c l r).WellFormed s ↔ l.WellFormed s ∧ r.WellFormed s := by
  simp only [Expr.WellFormed, Expr.leaves, List.mem_append, or_imp, forall_and]

/-! ## Filters that can be read again -/

/-- The literal is written as one lexeme: whole numbers have 64 bits, others are finite. -/
def Literal.Printable : Literal → Prop
  | .int v => IsInt64 v
  | .float v => v.isFinite = true
  | .text _ => True
  | .bool _ => True

/-- The column has a plain name, and the literals are written as lexemes. -/
structure Leaf.Printable (l : Leaf) : Prop where
  name : Plain l.column
  literals : ∀ v ∈ l.literals, v.Printable

def Expr.Printable (e : Expr) : Prop := ∀ l ∈ e.leaves, l.Printable

theorem printable_join {c : Connective} {l r : Expr} :
    (Expr.join c l r).Printable ↔ l.Printable ∧ r.Printable := by
  simp only [Expr.Printable, Expr.leaves, List.mem_append, or_imp, forall_and]

/-! ## Literals -/

/-- The lexeme of the canonical text of a literal. -/
def Literal.lexeme : Literal → Lexeme
  | .int v => .number (toString v)
  | .float v => .number (Rendering.literal.write v)
  | .text s => .text s
  | .bool true => .keyword .true
  | .bool false => .keyword .false

/-- Whole numbers of a column are no wider than those of a filter. -/
theorem kind_integer {t : DataType} {least greatest : Int} (h : kind t = .integer least greatest) :
    leastInt64 ≤ least ∧ greatest ≤ greatestInt64 := by
  cases t with
  | int signed w =>
      cases h
      refine ⟨?_, Int.min_le_right _ _⟩
      cases signed <;> cases w <;> decide
  | float p => cases h
  | text large => cases h
  | bool => cases h
  | date => cases h
  | binary => cases h
  | vector n => cases h

theorem finite_write {v : Binary .double} (h : v.isFinite = true) :
    finite? (Rendering.literal.write v) = some v := by
  rw [finite?, Rendering.binary_write h, Option.filter_some, if_pos h]

theorem isFloatSpelling_int (v : Int) : isFloatSpelling (toString v).toList = false := by
  rw [toList_toString]
  exact isFloatSpelling_digits (fun c hc => isDigit_toDigits hc) (decide (v < 0))

theorem isFloatSpelling_float {v : Binary .double} (h : v.isFinite = true) :
    isFloatSpelling (Rendering.literal.write v).toList = true := by
  obtain ⟨s, htext, hproper, -⟩ := Rendering.write_spelling h
  rw [htext]
  exact isFloatSpelling_text hproper v.negative

theorem printable_of_suits {v : Literal} {t : DataType} (h : v.Suits (kind t)) : v.Printable := by
  generalize hk : kind t = k at h
  cases h with
  | int hleast hgreatest =>
      obtain ⟨hleast', hgreatest'⟩ := kind_integer hk
      exact ⟨Int.le_trans hleast' hleast, Int.le_trans hgreatest hgreatest'⟩
  | float hv => exact hv
  | text => trivial
  | wholeText hv => exact hv
  | floatText hv => exact hv
  | bool => trivial

theorem Expr.WellFormed.printable {s : Schema} {e : Expr} (h : e.WellFormed s) : e.Printable := by
  intro l hl
  obtain ⟨hplain, f, -, hsuits⟩ := h l hl
  exact ⟨hplain, fun v hv => printable_of_suits (suits_of_literals hsuits v hv)⟩

/-- The canonical text of a literal is its lexeme. -/
theorem spells_literal {v : Literal} (h : v.Printable) {after : List Char}
    (hafter : Delimited after) : Spells v.canonical.toList v.lexeme after := by
  cases v with
  | int v => exact spells_int hafter h
  | float v => exact spells_float hafter h
  | text s => exact spells_text hafter s
  | bool b =>
      cases b with
      | true => exact spells_keyword hafter .true
      | false => exact spells_keyword hafter .false

/-- The canonical lexeme of a literal writes the literal. -/
theorem writes_lexeme {v : Literal} {t : DataType} (h : v.Suits (kind t)) :
    v.lexeme.Writes (kind t) v := by
  generalize hk : kind t = k at h ⊢
  cases h with
  | @int v least greatest hleast hgreatest =>
      obtain ⟨hleast', hgreatest'⟩ := kind_integer hk
      have hread := int64_toString ⟨Int.le_trans hleast' hleast, Int.le_trans hgreatest hgreatest'⟩
      refine ⟨.number (toString v), rfl, ?_⟩
      simp only [read, isFloatSpelling_int, hread, Bool.false_eq_true, if_false]
      exact if_pos ⟨hleast, hgreatest⟩
  | @float v hv =>
      refine ⟨.number (Rendering.literal.write v), rfl, ?_⟩
      simp only [read, finite_write hv]
  | @text t => exact ⟨.text t, rfl, rfl⟩
  | @wholeText v hv =>
      refine ⟨.number (toString v), rfl, ?_⟩
      simp only [read, isFloatSpelling_int, int64_toString hv, Bool.false_eq_true, if_false]
  | @floatText v hv =>
      refine ⟨.number (Rendering.literal.write v), rfl, ?_⟩
      simp only [read, isFloatSpelling_float hv, finite_write hv, if_true]
  | @bool b =>
      cases b with
      | true => exact ⟨.truth true, rfl, rfl⟩
      | false => exact ⟨.truth false, rfl, rfl⟩

theorem suits_of_writes {k : Kind} {l : Lexeme} {v : Literal} (h : l.Writes k v) : v.Suits k := by
  have hfinite : ∀ {n : String} {x : Binary .double}, finite? n = some x → x.isFinite = true := by
    intro n x hx
    exact (Option.filter_eq_some_iff.mp hx).2
  have hint : ∀ {n : List Char} {i : Int}, int64? n = some i → IsInt64 i := by
    intro n i hi
    have := (Option.filter_eq_some_iff.mp hi).2
    simpa [IsInt64] using this
  obtain ⟨w, -, h⟩ := h
  rw [read.eq_def] at h
  split at h
  · split at h
    · cases h
    · split at h
      · split at h
        · next hrange => cases h; exact .int hrange.1 hrange.2
        · cases h
      · cases h
  · cases h
  · split at h
    · next hx => cases h; exact .float (hfinite hx)
    · cases h
  · cases h
  · cases h; exact .text
  · split at h
    · split at h
      · next hx => cases h; exact .floatText (hfinite hx)
      · cases h
    · split at h
      · next hi => cases h; exact .wholeText (hint hi)
      · cases h
  · cases h
  · cases h; exact .bool
  · cases h
  · cases h

/-! ## What is read is well formed -/

theorem suits_of_listed {k : Kind} {close : Lexeme} {ls : List Lexeme} {vs : List Literal}
    (h : Listed k close ls vs) : vs ≠ [] ∧ ∀ v ∈ vs, v.Suits k := by
  induction h with
  | last hwrites =>
      refine ⟨List.cons_ne_nil _ _, fun v hv => ?_⟩
      rw [List.mem_singleton.mp hv]
      exact suits_of_writes hwrites
  | more hwrites _ ih =>
      refine ⟨List.cons_ne_nil _ _, fun v hv => ?_⟩
      rcases List.mem_cons.mp hv with rfl | hv
      · exact suits_of_writes hwrites
      · exact ih.2 v hv

theorem suits_of_bracketed {k : Kind} {ls : List Lexeme} {vs : List Literal}
    (h : Bracketed k ls vs) : vs ≠ [] ∧ ∀ v ∈ vs, v.Suits k := by
  cases h with
  | round hlisted => exact suits_of_listed hlisted
  | square hlisted => exact suits_of_listed hlisted

/-- A test has one leaf, which suits the kind it was read for. -/
theorem leaves_of_tests {column : String} {k : Kind} {ls : List Lexeme} {e : Expr}
    (h : Tests column k ls e) : ∀ l ∈ e.leaves, l.column = column ∧ l.Suits k := by
  intro l hl
  cases h with
  | compare hwrites =>
      obtain rfl := List.mem_singleton.mp hl
      exact ⟨rfl, suits_of_writes hwrites⟩
  | like hbool hother =>
      obtain rfl := List.mem_singleton.mp hl
      exact ⟨rfl, hbool, hother⟩
  | member hls =>
      obtain rfl := List.mem_singleton.mp hl
      exact ⟨rfl, suits_of_bracketed hls⟩
  | notMember hls =>
      obtain rfl := List.mem_singleton.mp hl
      exact ⟨rfl, suits_of_bracketed hls⟩
  | null =>
      obtain rfl := List.mem_singleton.mp hl
      exact ⟨rfl, trivial⟩

theorem wellFormed_of_derives {s : Schema} {p : Phrase} {ls : List Lexeme} {n : Nat} {e : Expr}
    (h : Derives s p ls n e) (hnames : ∀ name, .identifier name ∈ ls → Plain name) :
    e.WellFormed s := by
  induction h with
  | @predicate column f ls e hfield htests =>
      intro l hl
      obtain ⟨rfl, hsuits⟩ := leaves_of_tests htests l hl
      exact ⟨hnames _ List.mem_cons_self, f, hfield, hsuits⟩
  | not _ ih => exact ih fun name hname => hnames name (List.mem_cons_of_mem _ hname)
  | group _ ih =>
      exact ih fun name hname =>
        hnames name (List.mem_cons_of_mem _ (List.mem_append_left _ hname))
  | one _ ih => exact ih hnames
  | more _ _ ihl ihr =>
      exact wellFormed_join.mpr
        ⟨ihl fun name hname => hnames name (List.mem_append_left _ hname),
          ihr fun name hname =>
            hnames name (List.mem_append_right _ (List.mem_cons_of_mem _ hname))⟩

/-! ## Canonical lexemes -/

/-- Literals with commas between them, and a closing bracket. -/
def listed : List Literal → List Lexeme
  | [] => [.closeBracket]
  | [v] => [v.lexeme, .closeBracket]
  | v :: w :: vs => v.lexeme :: .comma :: listed (w :: vs)

def Leaf.lexemes : Leaf → List Lexeme
  | .compare op column v => [.identifier column, .operator op, v.lexeme]
  | .like negated column pattern =>
    .identifier column :: (notWord negated ++ [.keyword .like, .text pattern])
  | .member column vs => .identifier column :: .keyword .in :: .openBracket :: listed vs
  | .null negated column =>
    .identifier column :: .keyword .is :: (notWord negated ++ [.keyword .null])

/-- The lexemes of a filter that is the left operand of the connective `within`, if any. -/
def Expr.lexemes (within : Option Connective) : Expr → List Lexeme
  | .leaf l => l.lexemes
  | .not e => .keyword .not :: e.lexemes none
  | .join c l r =>
    let chain := l.lexemes (some c) ++ .keyword c.keyword :: r.lexemes none
    if within = some c then chain else .openParen :: (chain ++ [.closeParen])

/-! ### They derive the filter -/

theorem listed_derives {t : DataType} : ∀ {vs : List Literal}, vs ≠ [] →
    (∀ v ∈ vs, v.Suits (kind t)) → Listed (kind t) .closeBracket (listed vs) vs
  | [], hne, _ => absurd rfl hne
  | [v], _, hsuits => .last (writes_lexeme (hsuits v List.mem_cons_self))
  | v :: w :: vs, _, hsuits =>
      .more (writes_lexeme (hsuits v List.mem_cons_self))
        (listed_derives (List.cons_ne_nil w vs) fun u hu => hsuits u (List.mem_cons_of_mem v hu))

theorem leaf_derives {s : Schema} {l : Leaf} (h : l.WellFormed s) :
    Derives s .unary l.lexemes 0 (.leaf l) := by
  obtain ⟨-, f, hfield, hsuits⟩ := h
  cases l with
  | compare op column v => exact .predicate hfield (.compare (writes_lexeme hsuits))
  | like negated column pattern => exact .predicate hfield (.like hsuits.1 hsuits.2)
  | member column vs =>
      exact .predicate hfield (.member (.square (listed_derives hsuits.1 hsuits.2)))
  | null negated column => exact .predicate hfield .null

theorem chain_of_unary {s : Schema} {ls : List Lexeme} {n : Nat} {e : Expr}
    (h : Derives s .unary ls n e) (c : Connective) : Derives s (.chain c) ls n e := by
  cases c with
  | and => exact .one h
  | or => exact .one (.one h)

theorem operand_of_unary {s : Schema} {ls : List Lexeme} {n : Nat} {e : Expr}
    (h : Derives s .unary ls n e) (c : Connective) : Derives s c.operand ls n e := by
  cases c with
  | and => exact h
  | or => exact .one h

theorem filter_of_chain {s : Schema} {ls : List Lexeme} {n : Nat} {e : Expr} {c : Connective}
    (h : Derives s (.chain c) ls n e) : Derives s .filter ls n e := by
  cases c with
  | and => exact .one h
  | or => exact h

/-- The canonical lexemes derive the filter and are nested less deep than it is high, alone and
as the left operand of a chain. -/
theorem lexemes_derive {s : Schema} {e : Expr} (h : e.WellFormed s) :
    (∃ n, n < e.depth ∧ Derives s .unary (e.lexemes none) n e) ∧
      ∀ c, ∃ n, n < e.depth ∧ Derives s (.chain c) (e.lexemes (some c)) n e := by
  induction e with
  | leaf l =>
      have hleaf := leaf_derives (h l List.mem_cons_self)
      exact ⟨⟨0, Nat.one_pos, hleaf⟩, fun c => ⟨0, Nat.one_pos, chain_of_unary hleaf c⟩⟩
  | not e ih =>
      obtain ⟨⟨n, hn, he⟩, -⟩ := ih h
      exact ⟨⟨n + 1, Nat.succ_lt_succ hn, .not he⟩,
        fun c => ⟨n + 1, Nat.succ_lt_succ hn, chain_of_unary (.not he) c⟩⟩
  | join c l r ihl ihr =>
      obtain ⟨hl, hr⟩ := wellFormed_join.mp h
      obtain ⟨m, hm, hleft⟩ := (ihl hl).2 c
      obtain ⟨n, hn, hright⟩ := (ihr hr).1
      have hchain := Derives.more hleft (operand_of_unary hright c)
      have hgroup := Derives.group (filter_of_chain hchain)
      have hdepth : (Expr.join c l r).depth = 1 + max l.depth r.depth := rfl
      constructor
      · refine ⟨max m n + 1, by omega, ?_⟩
        rw [Expr.lexemes, if_neg (by simp)]
        exact hgroup
      · intro c'
        by_cases hsame : c = c'
        · subst hsame
          refine ⟨max m n, by omega, ?_⟩
          rw [Expr.lexemes, if_pos rfl]
          exact hchain
        · refine ⟨max m n + 1, by omega, ?_⟩
          rw [Expr.lexemes, if_neg fun heq => hsame (Option.some.inj heq).symm]
          exact chain_of_unary hgroup c'

/-! ### They are read from the text -/

section
variable {after : List Char} {ls : List Lexeme}

theorem lexes_keyword (k : Keyword) (h : Lexes (' ' :: after) ls) :
    Lexes (k.word.toList ++ ' ' :: after) (.keyword k :: ls) :=
  lexes_append (spells_keyword (delimited_cons (by decide) after) k) h

theorem lexes_space (h : Lexes after ls) : Lexes (' ' :: after) ls := lexes_blank (by decide) h

theorem lexes_punctuation {c : Char} {l : Lexeme} (hblank : isBlank c = false)
    (hl : punctuation? c = some l) (h : Lexes after ls) : Lexes (c :: after) (l :: ls) :=
  lexes_append (spells_punctuation hblank hl after) h

theorem lexes_negation (negated : Bool) (h : Lexes after ls) :
    Lexes ((negation negated).toList ++ after) (notWord negated ++ ls) := by
  cases negated with
  | true => exact lexes_keyword .not (lexes_space h)
  | false => exact h

theorem lexes_listed : ∀ {vs : List Literal}, (∀ v ∈ vs, v.Printable) → Lexes after ls →
    Lexes ((",".intercalate (vs.map Literal.canonical)).toList ++ ']' :: after) (listed vs ++ ls)
  | [], _, h => by
      rw [List.map_nil, String.intercalate_nil]
      exact lexes_punctuation (by decide) rfl h
  | [v], hprintable, h => by
      have hclose : Delimited (']' :: after) := delimited_cons (by decide) after
      have hv := spells_literal (hprintable v List.mem_cons_self) hclose
      rw [List.map_singleton, String.intercalate_singleton]
      exact lexes_append hv (lexes_punctuation (by decide) rfl h)
  | v :: w :: vs, hprintable, h => by
      have hprintable' : ∀ u ∈ w :: vs, u.Printable := fun u hu =>
        hprintable u (List.mem_cons_of_mem v hu)
      have hrest := lexes_listed hprintable' h
      rw [List.map_cons, List.map_cons, String.intercalate_cons_cons, ← List.map_cons,
        String.toList_append, String.toList_append, List.append_assoc, List.append_assoc]
      have hcomma : Delimited (',' :: ((",".intercalate ((w :: vs).map Literal.canonical)).toList ++
          ']' :: after)) := delimited_cons (by decide) _
      have hv := spells_literal (hprintable v List.mem_cons_self) hcomma
      exact lexes_append hv (lexes_punctuation (by decide) rfl hrest)

/-- The canonical text of a leaf is cut into its lexemes. -/
theorem lexes_leaf {l : Leaf} (hl : l.Printable) (hafter : Delimited after)
    (h : Lexes after ls) : Lexes (l.canonical.toList ++ after) (l.lexemes ++ ls) := by
  obtain ⟨hplain, hliterals⟩ := hl
  have hname : ∀ {rest : List Char} {ms : List Lexeme}, Lexes rest ms →
      Lexes (l.column.toList ++ ' ' :: rest) (.identifier l.column :: ms) := by
    intro rest ms hrest
    exact lexes_append (spells_name (delimited_cons (by decide) rest) hplain) (lexes_space hrest)
  cases l with
  | compare op column v =>
      have hv := lexes_append (spells_literal (hliterals v List.mem_cons_self) hafter) h
      have hop := lexes_append (spells_operator op _) (lexes_space hv)
      have hall := hname hop
      simp only [Leaf.canonical, String.toList_append, List.append_assoc]
      exact hall
  | like negated column pattern =>
      have hpattern := lexes_append (spells_text hafter pattern) h
      have hlike := lexes_keyword .like (lexes_space hpattern)
      have hall := hname (lexes_negation negated hlike)
      have hword : "LIKE ".toList = Keyword.like.word.toList ++ [' '] := rfl
      simp only [Leaf.canonical, Leaf.lexemes, String.toList_append, hword, List.append_assoc,
        List.cons_append, List.nil_append]
      exact hall
  | member column vs =>
      have hlist := lexes_punctuation (c := '[') (by decide) rfl (lexes_listed hliterals h)
      have hall := hname (lexes_keyword .in (lexes_space hlist))
      simp only [Leaf.canonical, Leaf.lexemes, String.toList_append, List.append_assoc,
        List.cons_append]
      exact hall
  | null negated column =>
      have hnull := lexes_append (spells_keyword hafter .null) h
      have his := lexes_keyword .is (lexes_space (lexes_negation negated hnull))
      have hall := hname his
      simp only [Leaf.canonical, Leaf.lexemes, String.toList_append, List.append_assoc,
        List.cons_append]
      exact hall

theorem keyword_word (c : Connective) : c.keyword.word = c.word := by
  cases c with
  | and => rfl
  | or => rfl

/-- The canonical text of a filter is cut into its lexemes. -/
theorem lexes_render {e : Expr} (he : e.Printable) : ∀ (within : Option Connective)
    {after : List Char} {ls : List Lexeme}, Delimited after → Lexes after ls →
      Lexes ((e.render within).toList ++ after) (e.lexemes within ++ ls) := by
  induction e with
  | leaf l =>
      intro within after ls hafter h
      exact lexes_leaf (he l List.mem_cons_self) hafter h
  | not e ih =>
      intro within after ls hafter h
      rw [Expr.render, String.toList_append, List.append_assoc]
      exact lexes_keyword .not (lexes_space (ih he none hafter h))
  | join c l r ihl ihr =>
      intro within after ls hafter h
      obtain ⟨hl, hr⟩ := printable_join.mp he
      have hchain : ∀ {after : List Char} {ls : List Lexeme}, Delimited after → Lexes after ls →
          Lexes ((l.render (some c) ++ " " ++ c.word ++ " " ++ r.render none).toList ++ after)
            (l.lexemes (some c) ++ .keyword c.keyword :: r.lexemes none ++ ls) := by
        intro after ls hafter h
        have hright := lexes_keyword c.keyword (lexes_space (ihr hr none hafter h))
        have hleft := ihl hl (some c) (delimited_cons (by decide) _) (lexes_space hright)
        simp only [String.toList_append, List.append_assoc, List.cons_append, ← keyword_word]
        exact hleft
      rw [Expr.render, Expr.lexemes]
      split
      · exact hchain hafter h
      · have hclose := lexes_punctuation (c := ')') (by decide) rfl h
        have hinner := hchain (delimited_cons (by decide) after) hclose
        have hall := lexes_punctuation (c := '(') (by decide) rfl hinner
        rw [String.toList_append, String.toList_append, List.append_assoc, List.append_assoc,
          List.cons_append, List.append_assoc]
        exact hall

end

/-! ## The canonical text -/

theorem tokenize_canonical {e : Expr} (he : e.Printable) :
    ∃ ts, tokenize e.canonical = .ok ts ∧ ts.map Token.lexeme = e.lexemes none := by
  have hlexes := lexes_render he none delimited_nil lexes_nil
  rw [List.append_nil, List.append_nil] at hlexes
  exact tokenize_of_lexes hlexes

theorem tokens_derive {s : Schema} {e : Expr} (he : e.WellFormed s) :
    ∃ ts n, tokenize e.canonical = .ok ts ∧
      Derives s .filter (ts.map Token.lexeme) n e ∧ n < e.depth := by
  obtain ⟨n, hn, hderives⟩ := (lexemes_derive he).1
  obtain ⟨ts, htokens, hls⟩ := tokenize_canonical he.printable
  exact ⟨ts, n, htokens, hls ▸ operand_of_unary hderives .or |>.one, hn⟩

/-- What is read from a text is well formed and not too high. -/
theorem wellFormed_of_parse {s : Schema} {text : String} {e : Expr} (h : parse s text = .ok e) :
    e.WellFormed s ∧ e.depth ≤ maxDepth := by
  rw [parse] at h
  split at h
  · cases h
  · next ts htokens =>
    obtain ⟨n, hderives, -, hdepth⟩ := (Context.filter_ok_iff _ two_le_maxDepth).mp h
    exact ⟨wellFormed_of_derives hderives (plain_of_lexes (lexes_of_tokenize htokens)), hdepth⟩

/-- Canonical texts are faithful.  The canonical text of a well-formed filter is read as this
filter if and only if the filter is not too high, and is refused for its depth if it is.  What is
read from any text is well formed and not too high, so reading its canonical text gives it again. -/
theorem canonical_faithful (s : Schema) :
    (∀ e, e.WellFormed s → (parse s e.canonical = .ok e ↔ e.depth ≤ maxDepth) ∧
      (maxDepth < e.depth → ∃ p, parse s e.canonical = .error (.grammar .tooDeep p))) ∧
    (∀ text e, parse s text = .ok e →
      e.WellFormed s ∧ e.depth ≤ maxDepth ∧ parse s e.canonical = .ok e) := by
  have hread : ∀ {e : Expr}, e.WellFormed s → e.depth ≤ maxDepth →
      parse s e.canonical = .ok e := by
    intro e he hdepth
    obtain ⟨ts, n, htokens, hderives, hn⟩ := tokens_derive he
    rw [parse, htokens]
    exact (Context.filter_ok_iff _ two_le_maxDepth).mpr
      ⟨n, hderives, Nat.le_of_lt (Nat.lt_of_lt_of_le hn hdepth), hdepth⟩
  have hrefused : ∀ {e : Expr}, e.WellFormed s → maxDepth < e.depth →
      ∃ p, parse s e.canonical = .error (.grammar .tooDeep p) := by
    intro e he hdepth
    obtain ⟨ts, n, htokens, hderives, -⟩ := tokens_derive he
    rw [parse, htokens]
    exact Context.filter_tooDeep _ two_le_maxDepth hderives
      fun h => absurd h.2 (Nat.not_le_of_lt hdepth)
  constructor
  · intro e he
    refine ⟨⟨fun h => ?_, hread he⟩, hrefused he⟩
    by_contra hdepth
    obtain ⟨p, hp⟩ := hrefused he (Nat.lt_of_not_le hdepth)
    rw [h] at hp
    cases hp
  · intro text e h
    obtain ⟨he, hdepth⟩ := wellFormed_of_parse h
    exact ⟨he, hdepth, hread he hdepth⟩

/-- A column of numbers and one of texts. -/
def remarks : Schema := [⟨"a", .int true .w32, true⟩, ⟨"note", .text false, true⟩]

/-- A chain with a negated list, and on its right another chain of the same connective, with a
quote. -/
def guarded : Expr :=
  let least := Expr.leaf (.compare .ge "a" (.int 5))
  let listed := Expr.leaf (.member "a" [.int (-1), .int 2])
  let quoted := Expr.leaf (.compare .ne "note" (.text "it's"))
  .join .and (.join .and least (.not listed)) (.join .and least quoted)

/-- The filter under so many negations. -/
def denied : Nat → Expr → Expr
  | 0, e => e
  | n + 1, e => .not (denied n e)

theorem leaves_denied (n : Nat) (e : Expr) : (denied n e).leaves = e.leaves := by
  induction n with
  | zero => rfl
  | succ n ih => rw [denied, Expr.leaves, ih]

theorem depth_denied (n : Nat) (e : Expr) : (denied n e).depth = e.depth + n := by
  induction n with
  | zero => rfl
  | succ n ih => rw [denied, Expr.depth, ih, Nat.add_assoc]

theorem wellFormed_guarded : guarded.WellFormed remarks := by
  have hname : ∀ name ∈ ["a", "note"], Plain name := by
    intro name hname
    rw [Plain]
    revert name
    decide +kernel
  have hnumber : ∀ v ∈ [(5 : Int), -1, 2], (Literal.int v).Suits (kind (.int true .w32)) := by
    intro v hv
    have hrange : ∀ v ∈ [(5 : Int), -1, 2],
        DataType.least true .w32 ≤ v ∧ v ≤ min (DataType.greatest true .w32) greatestInt64 := by
      decide
    exact .int (hrange v hv).1 (hrange v hv).2
  have hleast : Leaf.WellFormed remarks (.compare .ge "a" (.int 5)) :=
    ⟨hname "a" (by decide), _, rfl, hnumber 5 (by decide)⟩
  have hlisted : Leaf.WellFormed remarks (.member "a" [.int (-1), .int 2]) :=
    ⟨hname "a" (by decide), _, rfl, List.cons_ne_nil _ _,
      List.forall_mem_cons.mpr ⟨hnumber (-1) (by decide),
        List.forall_mem_singleton.mpr (hnumber 2 (by decide))⟩⟩
  have hquoted : Leaf.WellFormed remarks (.compare .ne "note" (.text "it's")) :=
    ⟨hname "note" (by decide), _, rfl, .text⟩
  have hleaf : ∀ {l : Leaf}, l.WellFormed remarks → (Expr.leaf l).WellFormed remarks :=
    List.forall_mem_singleton.mpr
  have hchain := wellFormed_join (c := .and).mpr ⟨hleaf hleast, hleaf hlisted⟩
  have hright := wellFormed_join (c := .and).mpr ⟨hleaf hleast, hleaf hquoted⟩
  exact wellFormed_join.mpr ⟨hchain, hright⟩

/-- A filter with chains in chains, a negated list and a quote is read from its canonical text.
Under 256 negations it is too high, and is refused. -/
theorem canonical_faithful_guarded :
    guarded.WellFormed remarks ∧ guarded.depth ≤ maxDepth ∧
    guarded.canonical = "(a >= 5 AND NOT a IN [-1,2] AND (a >= 5 AND note != 'it''s'))" ∧
    parse remarks guarded.canonical = .ok guarded ∧
    (denied 256 guarded).WellFormed remarks ∧ maxDepth < (denied 256 guarded).depth ∧
    ∃ p, parse remarks (denied 256 guarded).canonical = .error (.grammar .tooDeep p) := by
  have hlow : guarded.depth ≤ maxDepth := by decide
  have hhigh : maxDepth < (denied 256 guarded).depth := by
    rw [depth_denied]
    decide
  have hdenied : (denied 256 guarded).WellFormed remarks := by
    rw [Expr.WellFormed, leaves_denied]
    exact wellFormed_guarded
  exact ⟨wellFormed_guarded, hlow, by decide +kernel,
    ((canonical_faithful remarks).1 guarded wellFormed_guarded).1.mpr hlow, hdenied, hhigh,
    ((canonical_faithful remarks).1 _ hdenied).2 hhigh⟩

end Columnar.Filter

/-
# `Proofs.Filter.Readability` — the canonical text tells filters apart

Filters with the same canonical text are the same filter, whatever schema
they are for and however high they are: empty lists, which no text can be
read as, and trees that are refused for their depth are told apart as well.

The lexemes of a filter show where they end.  A leaf does by its own words, a
negation by its operand, and a group by its closing parenthesis.  Inside a
group stands the left spine of one connective, cut into its operands: `first`
and `others` are the operands of a chain, `linked` the lexemes behind the
first one.  The chain is the fold of its operands, so nothing of the tree is
lost when the spine shares its parentheses.
-/
import Columnar.Proofs.Filter.Canonical

namespace Columnar.Filter

open Columnar.Text Number

/-! ## Leaves -/

section
variable {rest rest' : List Lexeme}

/-- A literal is determined by its lexeme. -/
theorem lexeme_injective {v w : Literal} (hv : v.Printable) (hw : w.Printable)
    (h : v.lexeme = w.lexeme) : v = w := by
  cases v with
  | int i =>
      cases w with
      | int j =>
          have hread := int64_toString hv
          rw [Lexeme.number.inj h, int64_toString hw] at hread
          exact congrArg _ (Option.some.inj hread).symm
      | float y =>
          -- Only the text of a float has a point or an exponent.
          have hspelling := isFloatSpelling_int i
          rw [Lexeme.number.inj h, isFloatSpelling_float hw] at hspelling
          cases hspelling
      | text t => cases h
      | bool b => cases b <;> cases h
  | float x =>
      cases w with
      | int j =>
          have hspelling := isFloatSpelling_int j
          rw [← Lexeme.number.inj h, isFloatSpelling_float hv] at hspelling
          cases hspelling
      | float y =>
          have hread := finite_write hv
          rw [Lexeme.number.inj h, finite_write hw] at hread
          exact congrArg _ (Option.some.inj hread).symm
      | text t => cases h
      | bool b => cases b <;> cases h
  | text s =>
      cases w with
      | text t => exact congrArg _ (Lexeme.text.inj h)
      | int j => cases h
      | float y => cases h
      | bool b => cases b <;> cases h
  | bool b =>
      cases w with
      | bool b' =>
          cases b with
          | true => cases b' with
              | true => rfl
              | false => cases h
          | false => cases b' with
              | true => cases h
              | false => rfl
      | int j => cases b <;> cases h
      | float y => cases b <;> cases h
      | text t => cases b <;> cases h

/-- No literal is written as a bracket. -/
theorem lexeme_ne_closeBracket (v : Literal) : v.lexeme ≠ .closeBracket := by
  cases v with
  | bool b => cases b <;> exact nofun
  | int i => exact nofun
  | float x => exact nofun
  | text t => exact nofun

/-- A list of literals ends at its bracket, and is determined by its lexemes up to there. -/
theorem listed_prefix : ∀ {vs ws : List Literal}, (∀ v ∈ vs, v.Printable) →
    (∀ w ∈ ws, w.Printable) → listed vs ++ rest = listed ws ++ rest' → vs = ws ∧ rest = rest'
  | [], [], _, _, h => ⟨rfl, (List.cons.inj h).2⟩
  | [], [w], _, _, h => absurd (List.cons.inj h).1.symm (lexeme_ne_closeBracket w)
  | [], w :: _ :: _, _, _, h => absurd (List.cons.inj h).1.symm (lexeme_ne_closeBracket w)
  | [v], [], _, _, h => absurd (List.cons.inj h).1 (lexeme_ne_closeBracket v)
  | v :: _ :: _, [], _, _, h => absurd (List.cons.inj h).1 (lexeme_ne_closeBracket v)
  | [v], [w], hvs, hws, h => by
      obtain ⟨hlexeme, htail⟩ := List.cons.inj h
      have hhead := lexeme_injective (hvs v List.mem_cons_self) (hws w List.mem_cons_self) hlexeme
      exact ⟨congrArg (fun u => [u]) hhead, (List.cons.inj htail).2⟩
  | [_], _ :: _ :: _, _, _, h => nomatch (List.cons.inj (List.cons.inj h).2).1
  | _ :: _ :: _, [_], _, _, h => nomatch (List.cons.inj (List.cons.inj h).2).1
  | v :: v' :: vs, w :: w' :: ws, hvs, hws, h => by
      obtain ⟨hlexeme, htail⟩ := List.cons.inj h
      have hhead := lexeme_injective (hvs v List.mem_cons_self) (hws w List.mem_cons_self) hlexeme
      obtain ⟨hmore, hrest⟩ := listed_prefix
        (fun u hu => hvs u (List.mem_cons_of_mem v hu))
        (fun u hu => hws u (List.mem_cons_of_mem w hu)) (List.cons.inj htail).2
      exact ⟨List.cons_eq_cons.mpr ⟨hhead, hmore⟩, hrest⟩

/-- An optional `NOT` is told from the keyword it stands before. -/
theorem notWord_prefix {negated negated' : Bool} {k : Keyword} (hk : k ≠ .not)
    (h : notWord negated ++ .keyword k :: rest = notWord negated' ++ .keyword k :: rest') :
    negated = negated' ∧ rest = rest' := by
  cases negated with
  | true =>
      cases negated' with
      | true => exact ⟨rfl, (List.cons.inj (List.cons.inj h).2).2⟩
      | false => exact absurd (Lexeme.keyword.inj (List.cons.inj h).1).symm hk
  | false =>
      cases negated' with
      | true => exact absurd (Lexeme.keyword.inj (List.cons.inj h).1) hk
      | false => exact ⟨rfl, (List.cons.inj h).2⟩

/-- A leaf is determined by its lexemes, and these show where they end. -/
theorem leaf_prefix {l m : Leaf} (hl : l.Printable) (hm : m.Printable)
    (h : l.lexemes ++ rest = m.lexemes ++ rest') : l = m ∧ rest = rest' := by
  obtain ⟨-, hls⟩ := hl
  obtain ⟨-, hms⟩ := hm
  cases l with
  | compare op column v =>
      cases m with
      | compare op' column' v' =>
          simp only [Leaf.lexemes, List.cons_append, List.nil_append, List.cons.injEq,
            Lexeme.identifier.injEq, Lexeme.operator.injEq] at h
          obtain ⟨rfl, rfl, hlexeme, rfl⟩ := h
          obtain rfl := lexeme_injective (hls v List.mem_cons_self) (hms v' List.mem_cons_self)
            hlexeme
          exact ⟨rfl, rfl⟩
      | like negated' column' pattern' => cases negated' <;> cases (List.cons.inj h).2
      | member column' vs' => cases (List.cons.inj h).2
      | null negated' column' => cases (List.cons.inj h).2
  | like negated column pattern =>
      cases m with
      | compare op' column' v' => cases negated <;> cases (List.cons.inj h).2
      | like negated' column' pattern' =>
          simp only [Leaf.lexemes, List.cons_append, List.append_assoc, List.nil_append,
            List.cons.injEq, Lexeme.identifier.injEq] at h
          obtain ⟨rfl, htail⟩ := h
          obtain ⟨rfl, hbehind⟩ := notWord_prefix (by decide) htail
          obtain ⟨hpattern, rfl⟩ := List.cons.inj hbehind
          exact ⟨congrArg _ (Lexeme.text.inj hpattern), rfl⟩
      | member column' vs' => cases negated <;> cases (List.cons.inj h).2
      | null negated' column' => cases negated <;> cases (List.cons.inj h).2
  | member column vs =>
      cases m with
      | compare op' column' v' => cases (List.cons.inj h).2
      | like negated' column' pattern' => cases negated' <;> cases (List.cons.inj h).2
      | member column' vs' =>
          simp only [Leaf.lexemes, List.cons_append, List.cons.injEq, Lexeme.identifier.injEq,
            true_and] at h
          obtain ⟨rfl, htail⟩ := h
          obtain ⟨rfl, rfl⟩ := listed_prefix hls hms htail
          exact ⟨rfl, rfl⟩
      | null negated' column' => cases (List.cons.inj h).2
  | null negated column =>
      cases m with
      | compare op' column' v' => cases (List.cons.inj h).2
      | like negated' column' pattern' => cases negated' <;> cases (List.cons.inj h).2
      | member column' vs' => cases (List.cons.inj h).2
      | null negated' column' =>
          simp only [Leaf.lexemes, List.cons_append, List.append_assoc, List.nil_append,
            List.cons.injEq, Lexeme.identifier.injEq, true_and] at h
          obtain ⟨rfl, htail⟩ := h
          obtain ⟨rfl, rfl⟩ := notWord_prefix (by decide) htail
          exact ⟨rfl, rfl⟩

theorem leaf_identifier (l : Leaf) : ∃ tail, l.lexemes = .identifier l.column :: tail := by
  cases l with
  | compare op column v => exact ⟨_, rfl⟩
  | like negated column pattern => exact ⟨_, rfl⟩
  | member column vs => exact ⟨_, rfl⟩
  | null negated column => exact ⟨_, rfl⟩

end

/-! ## Chains -/

/-- The first operand of the chain of `c` that a filter is, possibly the filter itself. -/
def Expr.first (c : Connective) : Expr → Expr
  | .leaf l => .leaf l
  | .not e => .not e
  | .join c' l r => if c' = c then l.first c else .join c' l r

/-- The operands of the chain behind the first one. -/
def Expr.others (c : Connective) : Expr → List Expr
  | .leaf _ => []
  | .not _ => []
  | .join c' l r => if c' = c then l.others c ++ [r] else []

/-- The lexemes of the operands behind the first one. -/
def linked (c : Connective) (es : List Expr) : List Lexeme :=
  es.flatMap fun e => .keyword c.keyword :: e.lexemes none

section
variable (c : Connective) (l r : Expr)

@[simp] theorem first_join : (Expr.join c l r).first c = l.first c := if_pos rfl

@[simp] theorem others_join : (Expr.join c l r).others c = l.others c ++ [r] := if_pos rfl

/-- A group is the chain inside in parentheses. -/
theorem lexemes_group : (Expr.join c l r).lexemes none =
    .openParen :: ((Expr.join c l r).lexemes (some c) ++ [.closeParen]) := by
  simp only [Expr.lexemes, if_true]
  rfl

end

/-- A filter is the chain of its operands. -/
theorem foldl_others (c : Connective) (e : Expr) :
    (e.others c).foldl (Expr.join c) (e.first c) = e := by
  induction e with
  | leaf l => rfl
  | not e _ => rfl
  | join c' l r ihl _ =>
      by_cases hsame : c' = c
      · subst hsame
        rw [others_join, first_join, List.foldl_append, ihl]
        rfl
      · rw [Expr.others, if_neg hsame, Expr.first, if_neg hsame]
        rfl

/-- The left operand of a connective is written as the chain of its operands. -/
theorem lexemes_some (c : Connective) (e : Expr) :
    e.lexemes (some c) = (e.first c).lexemes none ++ linked c (e.others c) := by
  induction e with
  | leaf l => exact (List.append_nil _).symm
  | not e _ => exact (List.append_nil _).symm
  | join c' l r ihl _ =>
      by_cases hsame : c' = c
      · subst hsame
        rw [Expr.lexemes, if_pos rfl, ihl, first_join, others_join, List.append_assoc, linked,
          linked, List.flatMap_append, List.flatMap_singleton]
      · have hwithin : some c ≠ some c' := fun h => hsame (Option.some.inj h).symm
        rw [Expr.others, if_neg hsame, Expr.first, if_neg hsame, Expr.lexemes, if_neg hwithin]
        exact (List.append_nil _).symm

/-- Two chains of the same operands are one. -/
theorem eq_of_operands {c : Connective} {e f : Expr} (hfirst : e.first c = f.first c)
    (hothers : e.others c = f.others c) : e = f := by
  rw [← foldl_others c e, hfirst, hothers, foldl_others]

/-- The operands of a chain are printable with it. -/
theorem printable_operands {e : Expr} (h : e.Printable) (c : Connective) :
    (e.first c).Printable ∧ ∀ x ∈ e.others c, x.Printable := by
  induction e with
  | leaf l => exact ⟨h, fun _ hx => absurd hx List.not_mem_nil⟩
  | not e _ => exact ⟨h, fun _ hx => absurd hx List.not_mem_nil⟩
  | join c' l r ihl _ =>
      by_cases hsame : c' = c
      · subst hsame
        obtain ⟨hl, hr⟩ := printable_join.mp h
        obtain ⟨hfirst, hothers⟩ := ihl hl
        refine ⟨first_join c' l r ▸ hfirst, fun x hx => ?_⟩
        rw [others_join] at hx
        rcases List.mem_append.mp hx with hx | hx
        · exact hothers x hx
        · exact List.mem_singleton.mp hx ▸ hr
      · rw [Expr.first, if_neg hsame, Expr.others, if_neg hsame]
        exact ⟨h, fun _ hx => absurd hx List.not_mem_nil⟩

/-! ## Unique reading -/

/-- No other printable filter is written at the start of lexemes that begin with this one. -/
def Expr.ReadOnce (e : Expr) : Prop :=
  ∀ ⦃f : Expr⦄ ⦃rest rest' : List Lexeme⦄, f.Printable →
    e.lexemes none ++ rest = f.lexemes none ++ rest' → e = f ∧ rest = rest'

section
variable {c : Connective} {rest rest' : List Lexeme}

/-- The operands of a chain are determined by the lexemes up to its closing parenthesis. -/
theorem linked_prefix : ∀ {es fs : List Expr}, (∀ e ∈ es, e.ReadOnce) → (∀ f ∈ fs, f.Printable) →
    linked c es ++ .closeParen :: rest = linked c fs ++ .closeParen :: rest' →
    es = fs ∧ rest = rest' := by
  intro es
  induction es with
  | nil =>
      intro fs _ _ h
      cases fs with
      | nil => exact ⟨rfl, (List.cons.inj h).2⟩
      | cons f fs => cases (List.cons.inj h).1
  | cons e es ih =>
      intro fs hes hfs h
      cases fs with
      | nil => cases (List.cons.inj h).1
      | cons f fs =>
          simp only [linked, List.flatMap_cons, List.cons_append, List.append_assoc] at h
          have htail := (List.cons.inj h).2
          obtain ⟨rfl, hmore⟩ := hes e List.mem_cons_self (hfs f List.mem_cons_self) htail
          obtain ⟨rfl, hrest⟩ := ih (fun x hx => hes x (List.mem_cons_of_mem e hx))
            (fun x hx => hfs x (List.mem_cons_of_mem e hx)) hmore
          exact ⟨rfl, hrest⟩

/-- The first lexeme behind the first operand is the connective. -/
theorem connective_of_linked {c' : Connective} {es fs : List Expr} (hes : es ≠ []) (hfs : fs ≠ [])
    (h : linked c es ++ rest = linked c' fs ++ rest') : c = c' := by
  cases es with
  | nil => exact absurd rfl hes
  | cons e es =>
      cases fs with
      | nil => exact absurd rfl hfs
      | cons f fs =>
          have hword := Lexeme.keyword.inj (List.cons.inj h).1
          cases c with
          | and => cases c' with
              | and => rfl
              | or => cases hword
          | or => cases c' with
              | and => cases hword
              | or => rfl

/-- A group is read once if the operands of its chain are. -/
theorem group_readOnce {l r : Expr} (hfirst : (l.first c).ReadOnce)
    (hothers : ∀ x ∈ l.others c, x.ReadOnce) (hr : r.ReadOnce) : (Expr.join c l r).ReadOnce := by
  intro f rest rest' hf h
  rw [lexemes_group] at h
  cases f with
  | leaf m =>
      obtain ⟨tail, hm⟩ := leaf_identifier m
      rw [Expr.lexemes, hm] at h
      cases (List.cons.inj h).1
  | not f => cases (List.cons.inj h).1
  | join c' l' r' =>
      rw [lexemes_group, List.cons_append, List.cons_append] at h
      have hinner := (List.cons.inj h).2
      simp only [lexemes_some, List.append_assoc, List.singleton_append, first_join,
        others_join] at hinner
      obtain ⟨hl', hr'⟩ := printable_join.mp hf
      obtain ⟨hfirst', -⟩ := printable_operands hl' c'
      obtain ⟨heq, hlinked⟩ := hfirst hfirst' hinner
      have hnonempty : ∀ {es : List Expr} {x : Expr}, es ++ [x] ≠ [] :=
        List.append_ne_nil_of_right_ne_nil _ (List.cons_ne_nil _ _)
      obtain rfl := connective_of_linked hnonempty hnonempty hlinked
      have hread : ∀ x ∈ l.others c ++ [r], x.ReadOnce := by
        intro x hx
        rcases List.mem_append.mp hx with hx | hx
        · exact hothers x hx
        · exact List.mem_singleton.mp hx ▸ hr
      have hprintable := (printable_operands hf c).2
      rw [others_join] at hprintable
      obtain ⟨hall, hrest⟩ := linked_prefix hread hprintable hlinked
      refine ⟨eq_of_operands (c := c) ?_ ?_, hrest⟩
      · rw [first_join, first_join, heq]
      · rw [others_join, others_join, hall]

end

/-- Every filter is read once, and so are the operands of the chains that it is: a chain inside a
group is cut into operands that need not be subtrees of one node. -/
theorem readOnce {e : Expr} (he : e.Printable) :
    e.ReadOnce ∧ ∀ c, (e.first c).ReadOnce ∧ ∀ x ∈ e.others c, x.ReadOnce := by
  induction e with
  | leaf l =>
      have hleaf : (Expr.leaf l).ReadOnce := by
        intro f rest rest' hf h
        cases f with
        | leaf m =>
            obtain ⟨rfl, hrest⟩ :=
              leaf_prefix (he l List.mem_cons_self) (hf m List.mem_cons_self) h
            exact ⟨rfl, hrest⟩
        | not f =>
            obtain ⟨tail, hl⟩ := leaf_identifier l
            rw [Expr.lexemes, hl] at h
            cases (List.cons.inj h).1
        | join c l' r' =>
            obtain ⟨tail, hl⟩ := leaf_identifier l
            rw [Expr.lexemes, hl, lexemes_group] at h
            cases (List.cons.inj h).1
      exact ⟨hleaf, fun c => ⟨hleaf, fun _ hx => absurd hx List.not_mem_nil⟩⟩
  | not e ih =>
      have hnot : (Expr.not e).ReadOnce := by
        intro f rest rest' hf h
        cases f with
        | leaf m =>
            obtain ⟨tail, hm⟩ := leaf_identifier m
            rw [Expr.lexemes, Expr.lexemes, hm] at h
            cases (List.cons.inj h).1
        | not f =>
            rw [Expr.lexemes, Expr.lexemes, List.cons_append, List.cons_append] at h
            have hf' : f.Printable := hf
            obtain ⟨rfl, hrest⟩ := (ih he).1 hf' (List.cons.inj h).2
            exact ⟨rfl, hrest⟩
        | join c l' r' =>
            rw [lexemes_group] at h
            cases (List.cons.inj h).1
      exact ⟨hnot, fun c => ⟨hnot, fun _ hx => absurd hx List.not_mem_nil⟩⟩
  | join c l r ihl ihr =>
      obtain ⟨hl, hr⟩ := printable_join.mp he
      have hright := (ihr hr).1
      have hgroup : (Expr.join c l r).ReadOnce :=
        group_readOnce ((ihl hl).2 c).1 ((ihl hl).2 c).2 hright
      refine ⟨hgroup, fun c' => ?_⟩
      by_cases hsame : c = c'
      · subst hsame
        obtain ⟨hfirst, hothers⟩ := (ihl hl).2 c
        rw [first_join, others_join]
        refine ⟨hfirst, fun x hx => ?_⟩
        rcases List.mem_append.mp hx with hx | hx
        · exact hothers x hx
        · exact List.mem_singleton.mp hx ▸ hright
      · rw [Expr.first, if_neg hsame, Expr.others, if_neg hsame]
        exact ⟨hgroup, fun _ hx => absurd hx List.not_mem_nil⟩

/-- The canonical text is injective.  Two filters whose columns have plain names and whose numbers
can be written, of any height, with lists of any length and with any texts, have the same canonical
text only if they are the same filter, floats down to their bits. -/
theorem canonical_injective {e f : Expr} (he : e.Printable) (hf : f.Printable) :
    e.canonical = f.canonical ↔ e = f := by
  constructor
  · intro h
    obtain ⟨ts, htokens, hts⟩ := tokenize_canonical he
    obtain ⟨us, hutokens, hus⟩ := tokenize_canonical hf
    rw [h, hutokens] at htokens
    cases htokens
    have hlexemes : e.lexemes none ++ [] = f.lexemes none ++ [] := by
      rw [← hts, ← hus]
    exact ((readOnce he).1 hf hlexemes).1
  · exact congrArg Expr.canonical

/-- Tests joined to the left or to the right: an empty list, a quote, a zero with a sign. -/
def leaning (left negative : Bool) : Expr :=
  let empty := Expr.leaf (.member "a" [])
  let quoted := Expr.leaf (.compare .eq "b" (.text "' OR 'c"))
  let zero := Expr.leaf (.compare .eq "c" (.float (.ofMagnitude negative 0)))
  if left then .join .or (.join .or empty quoted) zero else .join .or empty (.join .or quoted zero)

/-- The lean of a chain and the sign of a zero are seen in the text. -/
theorem canonical_injective_leaning :
    (leaning true false).canonical ≠ (leaning false false).canonical ∧
    (leaning true false).canonical ≠ (leaning true true).canonical := by
  have hname : ∀ name ∈ ["a", "b", "c"], Plain name := by
    intro name hname
    rw [Plain]
    revert name
    decide +kernel
  have hprintable : ∀ left negative, (leaning left negative).Printable := by
    intro left negative
    have hzero : (Binary.ofMagnitude (p := .double) negative 0).isFinite = true := by
      cases negative <;> decide
    have hleaves : ∀ l ∈ [Leaf.member "a" [], .compare .eq "b" (.text "' OR 'c"),
        .compare .eq "c" (.float (.ofMagnitude negative 0))], l.Printable :=
      List.forall_mem_cons.mpr ⟨⟨hname "a" (by decide), List.forall_mem_nil _⟩,
        List.forall_mem_cons.mpr ⟨⟨hname "b" (by decide), List.forall_mem_singleton.mpr trivial⟩,
          List.forall_mem_singleton.mpr
            ⟨hname "c" (by decide), List.forall_mem_singleton.mpr hzero⟩⟩⟩
    cases left with
    | true => exact hleaves
    | false => exact hleaves
  exact ⟨mt (canonical_injective (hprintable _ _) (hprintable _ _)).mp (by decide),
    mt (canonical_injective (hprintable _ _) (hprintable _ _)).mp (by decide)⟩

end Columnar.Filter

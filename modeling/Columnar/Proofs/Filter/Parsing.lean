/-
# `Proofs.Filter.Parsing` — what parses is what derives

The parser of a phrase is sound: what it takes derives what it says, within
the limits.  And it is complete up to the limits: on lexemes that derive a
filter it reads just this filter, or it says that the limits are exceeded,
and it says so only if they are.  A chain is derived from the left while its
parser goes on to the right, so completeness is about where the parser
stands when it has taken a chain (`Resumes`), not about its answer.

With no more than the limits between derivations and the parser, one
derivation with generous limits decides all others: the grammar is
unambiguous.
-/
import Columnar.Proofs.Filter.Grammar

namespace Columnar.Filter

theorem Expr.depth_pos (e : Expr) : 0 < e.depth := by
  cases e with
  | leaf _ => exact Nat.one_pos
  | not e => exact Nat.succ_pos e.depth
  | join _ l r => rw [Expr.depth]; omega

namespace Context

variable (c : Context)

/-- The parser of a phrase; `room` signs `NOT` and `(` may be opened. -/
def phrase (room : Nat) : Phrase → Parser Parsed
  | .unary => c.unary room
  | .chain .and => c.chained .and (c.unary room)
  | .chain .or => c.disjunction (c.unary room)

theorem phrase_chain (room : Nat) (k : Connective) :
    c.phrase room (.chain k) = c.chained k (c.phrase room k.operand) := by
  cases k with
  | and => rfl
  | or => rfl

/-! ## Turns of a chain -/

section
variable {k : Connective} {operand : Parser Parsed} {left : Parsed} {ts rest : List Token}

theorem chain_stop (h : keyword? k.keyword ts = none) (turns : Nat) :
    c.chain k operand turns left ts = .ok (left, ts) := by
  cases ts with
  | nil => rw [chain]
  | cons t ts =>
      rw [keyword?] at h
      split at h
      · cases h
      · next hne => rw [chain, if_neg hne]

theorem chain_turn {right : Parsed} {p : Nat} (h : operand ts = .ok (right, rest)) (turns : Nat) :
    c.chain k operand (turns + 1) left (⟨.keyword k.keyword, p⟩ :: ts) =
      if c.limit < 1 + max left.depth right.depth then .error (tooDeep p)
      else c.chain k operand turns
        ⟨.join k left.expr right.expr, 1 + max left.depth right.depth⟩ rest := by
  rw [chain, if_pos rfl, h]

theorem chain_out {right : Parsed} {p : Nat} (h : operand ts = .ok (right, rest)) :
    c.chain k operand 0 left (⟨.keyword k.keyword, p⟩ :: ts) = .error (tooDeep p) := by
  rw [chain, if_pos rfl, h]
  exact ite_self _

theorem chain_error {e : ParseError} {p : Nat} (h : operand ts = .error e) (turns : Nat) :
    c.chain k operand turns left (⟨.keyword k.keyword, p⟩ :: ts) = .error e := by
  rw [chain.eq_def]
  dsimp only
  rw [if_pos rfl, h]

end

/-! ## Soundness -/

/-- What was read and taken: a derivation within the limits. -/
def Reads (room : Nat) (p : Phrase) (ts : List Token) (r : Parsed) (rest : List Token) : Prop :=
  ∃ ls n, Takes ls ts rest ∧ Derives c.schema p ls n r.expr ∧ n ≤ room ∧
    r.depth = r.expr.depth ∧ r.depth ≤ c.limit

/-- A chain whose first operands have been taken from `start` is read to its end. -/
theorem chain_sound {room : Nat} {k : Connective} {operand : Parser Parsed}
    (hoperand : ∀ {ts r rest}, operand ts = .ok (r, rest) → c.Reads room k.operand ts r rest)
    {start : List Token} : ∀ (turns : Nat) {left r : Parsed} {ts rest : List Token},
      c.chain k operand turns left ts = .ok (r, rest) → c.Reads room (.chain k) start left ts →
      c.Reads room (.chain k) start r rest := by
  intro turns
  induction turns with
  | zero =>
      intro left r ts rest h hleft
      cases hkeyword : keyword? k.keyword ts with
      | none =>
          rw [c.chain_stop hkeyword] at h
          cases h
          exact hleft
      | some behind =>
          obtain ⟨p, after, rfl, rfl⟩ := keyword_some_iff.mp hkeyword
          cases hright : operand after with
          | error e => rw [c.chain_error hright] at h; cases h
          | ok right => rw [c.chain_out hright] at h; cases h
  | succ turns ih =>
      intro left r ts rest h hleft
      cases hkeyword : keyword? k.keyword ts with
      | none =>
          rw [c.chain_stop hkeyword] at h
          cases h
          exact hleft
      | some behind =>
          obtain ⟨p, after, rfl, rfl⟩ := keyword_some_iff.mp hkeyword
          cases hright : operand after with
          | error e => rw [c.chain_error hright] at h; cases h
          | ok right =>
              rw [c.chain_turn hright] at h
              split at h
              · cases h
              · next hdepth =>
                obtain ⟨ls, m, hls, hderives, hm, hld, -⟩ := hleft
                obtain ⟨rs, n, hrs, hderives', hn, hrd, -⟩ := hoperand hright
                have htakes := takes_append.mpr ⟨_, hls, takes_cons.mpr ⟨rfl, hrs⟩⟩
                refine ih h ⟨_, _, htakes, .more hderives hderives', Nat.max_le.mpr ⟨hm, hn⟩, ?_,
                  Nat.le_of_not_lt hdepth⟩
                rw [hld, hrd, Expr.depth]

theorem chained_sound {room : Nat} {k : Connective} {operand : Parser Parsed}
    (hoperand : ∀ {ts r rest}, operand ts = .ok (r, rest) → c.Reads room k.operand ts r rest)
    {ts rest : List Token} {r : Parsed} (h : c.chained k operand ts = .ok (r, rest)) :
    c.Reads room (.chain k) ts r rest := by
  rw [chained] at h
  split at h
  · cases h
  · next left after hleft =>
    obtain ⟨ls, n, htakes, hderives, hrest⟩ := hoperand hleft
    exact c.chain_sound hoperand _ h ⟨ls, n, htakes, .one hderives, hrest⟩

theorem disjunction_sound {room : Nat} {operand : Parser Parsed}
    (hoperand : ∀ {ts r rest}, operand ts = .ok (r, rest) → c.Reads room .unary ts r rest)
    {ts rest : List Token} {r : Parsed} (h : c.disjunction operand ts = .ok (r, rest)) :
    c.Reads room .filter ts r rest :=
  c.chained_sound (k := .or) (c.chained_sound (k := .and) hoperand) h

theorem closeGroup_ok_iff {position : Nat} {inner r : Parsed} {ts rest : List Token} :
    c.closeGroup position inner ts = .ok (r, rest) ↔ r = inner ∧ Takes [.closeParen] ts rest := by
  cases ts with
  | nil =>
      constructor
      · intro h
        cases h
      · rintro ⟨-, _, _, h, _⟩
        cases h
  | cons t ts =>
      rw [closeGroup, takes_cons]
      split
      · next hclose =>
        constructor
        · intro h
          cases h
          exact ⟨rfl, hclose, rfl⟩
        · rintro ⟨rfl, -, rfl⟩
          rfl
      · next hclose =>
        constructor
        · intro h
          cases h
        · rintro ⟨-, h, -⟩
          exact absurd h hclose

/-- A predicate is no higher than any sensible limit. -/
theorem predicate_sound (hlimit : 2 ≤ c.limit) {room : Nat} {ts rest : List Token} {r : Parsed}
    (h : ((c.predicate ts).map fun (e, rest) => (⟨e, e.depth⟩, rest)) = .ok (r, rest)) :
    c.Reads room .unary ts r rest := by
  cases hpredicate : c.predicate ts with
  | error e => rw [hpredicate] at h; cases h
  | ok taken =>
      rw [hpredicate] at h
      cases h
      obtain ⟨column, f, ls, hf, htests, htakes⟩ := (c.predicate_ok_iff).mp hpredicate
      exact ⟨_, 0, htakes, .predicate hf htests, Nat.zero_le room, rfl,
        Nat.le_trans htests.depth_le hlimit⟩

theorem unary_sound (hlimit : 2 ≤ c.limit) : ∀ {room : Nat} {ts rest : List Token} {r : Parsed},
    c.unary room ts = .ok (r, rest) → c.Reads room .unary ts r rest := by
  intro room
  induction room with
  | zero =>
      intro ts rest r h
      rw [unary.eq_def] at h
      dsimp only at h
      split at h
      · cases h
      · cases h
      · exact c.predicate_sound hlimit h
  | succ room ih =>
      intro ts rest r h
      rw [unary.eq_def] at h
      dsimp only at h
      split at h
      · next p after =>
        split at h
        · cases h
        · next inner after' hinner =>
          split at h
          · cases h
          · next hdepth =>
            cases h
            obtain ⟨ls, n, htakes, hderives, hn, hd, -⟩ := ih hinner
            refine ⟨_, n + 1, takes_cons.mpr ⟨rfl, htakes⟩, .not hderives,
              Nat.succ_le_succ hn, ?_, Nat.le_of_not_lt hdepth⟩
            rw [hd, Expr.depth]
      · next p after =>
        split at h
        · cases h
        · next inner after' hinner =>
          obtain ⟨ls, n, htakes, hderives, hn, hdepths⟩ := c.disjunction_sound ih hinner
          obtain ⟨rfl, hclose⟩ := (c.closeGroup_ok_iff).mp h
          have hgroup := takes_append.mpr ⟨_, htakes, hclose⟩
          exact ⟨_, n + 1, takes_cons.mpr ⟨rfl, hgroup⟩, .group hderives,
            Nat.succ_le_succ hn, hdepths⟩
      · exact c.predicate_sound hlimit h

/-! ## Completeness up to the limits -/

/-- The answer that the limits leave to a phrase that says `e`. -/
def Outcome (room n : Nat) (e : Expr) (rest : List Token)
    (answer : Except ParseError (Parsed × List Token)) : Prop :=
  (n ≤ room ∧ e.depth ≤ c.limit ∧ answer = .ok (⟨e, e.depth⟩, rest)) ∨
    (¬ (n ≤ room ∧ e.depth ≤ c.limit) ∧ ∃ p, answer = .error (tooDeep p))

/-- The parser of a chain goes on behind operands that say `e`.  A turn that was spent has made
the tree higher, so there are turns left as long as the tree is no higher than the limit. -/
def Resumes (room : Nat) (k : Connective) (n : Nat) (e : Expr) (rest : List Token)
    (answer : Except ParseError (Parsed × List Token)) : Prop :=
  (n ≤ room ∧ e.depth ≤ c.limit ∧ ∃ spent, spent < e.depth ∧
      answer = c.chain k (c.phrase room k.operand) (c.limit - spent) ⟨e, e.depth⟩ rest) ∨
    (¬ (n ≤ room ∧ e.depth ≤ c.limit) ∧ ∃ p, answer = .error (tooDeep p))

/-- Where the parser of a phrase stands when it has taken lexemes that derive `e`. -/
def Stands (room : Nat) : Phrase → (n : Nat) → Expr → (rest : List Token) →
    Except ParseError (Parsed × List Token) → Prop
  | .unary => c.Outcome room
  | .chain k => c.Resumes room k

/-- The tokens do not go on with a phrase. -/
def Ends : Phrase → List Token → Prop
  | .unary, _ => True
  | .chain .and, ts => keyword? .and ts = none
  | .chain .or, ts => keyword? .and ts = none ∧ keyword? .or ts = none

/-- The tokens may follow a phrase: they do not go on with its last operand. -/
def Follows : Phrase → List Token → Prop
  | .unary, _ => True
  | .chain k, ts => Ends k.operand ts

theorem ends_chain {k : Connective} {ts : List Token} (h : Ends (.chain k) ts) :
    Ends k.operand ts ∧ keyword? k.keyword ts = none := by
  cases k with
  | and => exact ⟨trivial, h⟩
  | or => exact h

theorem follows_of_ends {p : Phrase} {ts : List Token} (h : Ends p ts) : Follows p ts := by
  cases p with
  | unary => trivial
  | chain k => exact (ends_chain h).1

theorem ends_operand (k : Connective) (p : Nat) (ts : List Token) :
    Ends k.operand (⟨.keyword k.keyword, p⟩ :: ts) := by
  cases k with
  | and => trivial
  | or => rfl

/-- Where a phrase ends, its parser answers. -/
theorem outcome_of_stands {room n : Nat} {p : Phrase} {e : Expr} {rest : List Token}
    {answer : Except ParseError (Parsed × List Token)} (h : c.Stands room p n e rest answer)
    (hends : Ends p rest) : c.Outcome room n e rest answer := by
  cases p with
  | unary => exact h
  | chain k =>
      rcases h with ⟨hn, hd, spent, -, hanswer⟩ | herror
      · rw [c.chain_stop (ends_chain hends).2] at hanswer
        exact .inl ⟨hn, hd, hanswer⟩
      · exact .inr herror

section
variable {room m n : Nat} {e f : Expr} {ts rest : List Token}

theorem outcome_predicate (hlimit : 2 ≤ c.limit) {column : String} {field : Field}
    {ls : List Lexeme} (hfield : c.schema.find? column = some field)
    (htests : Tests column (kind field.type) ls e) (h : Takes (.identifier column :: ls) ts rest) :
    c.Outcome room 0 e rest (c.unary room ts) := by
  have hpredicate : c.predicate ts = .ok (e, rest) :=
    (c.predicate_ok_iff).mpr ⟨column, field, ls, hfield, htests, h⟩
  obtain ⟨p, after, rfl, -⟩ := h
  refine .inl ⟨Nat.zero_le room, Nat.le_trans htests.depth_le hlimit, ?_⟩
  rw [unary.eq_def]
  dsimp only
  rw [hpredicate]
  rfl

theorem outcome_not (p : Nat)
    (h : ∀ room, c.Outcome room n e rest (c.unary room ts)) :
    c.Outcome room (n + 1) (.not e) rest (c.unary room (⟨.keyword .not, p⟩ :: ts)) := by
  cases room with
  | zero => exact .inr ⟨fun h => absurd h.1 (Nat.not_succ_le_zero n), p, by rw [unary]⟩
  | succ room =>
      rcases h room with ⟨hn, hd, hanswer⟩ | ⟨hover, q, hanswer⟩
      · by_cases hdepth : c.limit < e.depth + 1
        · refine .inr ⟨fun h => absurd h.2 (Nat.not_le_of_lt hdepth), p, ?_⟩
          rw [unary, hanswer]
          exact if_pos hdepth
        · refine .inl ⟨Nat.succ_le_succ hn, Nat.le_of_not_lt hdepth, ?_⟩
          rw [unary, hanswer]
          exact if_neg hdepth
      · refine .inr ⟨fun h => hover ⟨Nat.le_of_succ_le_succ h.1, Nat.le_of_succ_le h.2⟩, q, ?_⟩
        rw [unary, hanswer]

theorem outcome_group (p q : Nat)
    (h : ∀ room, c.Outcome room n e (⟨.closeParen, q⟩ :: rest) (c.phrase room .filter ts)) :
    c.Outcome room (n + 1) e rest (c.unary room (⟨.openParen, p⟩ :: ts)) := by
  cases room with
  | zero => exact .inr ⟨fun h => absurd h.1 (Nat.not_succ_le_zero n), p, by rw [unary]⟩
  | succ room =>
      rcases h room with ⟨hn, hd, hanswer⟩ | ⟨hover, r, hanswer⟩
      · rw [phrase] at hanswer
        refine .inl ⟨Nat.succ_le_succ hn, hd, ?_⟩
        rw [unary, hanswer]
        exact (c.closeGroup_ok_iff).mpr ⟨rfl, takes_cons.mpr ⟨rfl, rfl⟩⟩
      · rw [phrase] at hanswer
        refine .inr ⟨fun h => hover ⟨Nat.le_of_succ_le_succ h.1, h.2⟩, r, ?_⟩
        rw [unary, hanswer]

theorem resumes_one {k : Connective}
    (h : c.Outcome room n e rest (c.phrase room k.operand ts)) :
    c.Resumes room k n e rest (c.phrase room (.chain k) ts) := by
  rw [phrase_chain, chained]
  rcases h with ⟨hn, hd, hanswer⟩ | ⟨hover, p, hanswer⟩
  · rw [hanswer]
    exact .inl ⟨hn, hd, 0, e.depth_pos, rfl⟩
  · rw [hanswer]
    exact .inr ⟨hover, p, rfl⟩

theorem resumes_more {k : Connective} {p : Nat} {start : List Token}
    (hleft : c.Resumes room k m e (⟨.keyword k.keyword, p⟩ :: ts) (c.phrase room (.chain k) start))
    (hright : c.Outcome room n f rest (c.phrase room k.operand ts)) :
    c.Resumes room k (max m n) (.join k e f) rest (c.phrase room (.chain k) start) := by
  rcases hleft with ⟨hm, hd, spent, hspent, hanswer⟩ | ⟨hover, q, hanswer⟩
  · have hturns : c.limit - spent = (c.limit - spent - 1) + 1 := by omega
    rw [hanswer]
    rcases hright with ⟨hn, hd', hoperand⟩ | ⟨hover, q, hoperand⟩
    · rw [hturns, c.chain_turn hoperand]
      by_cases hdepth : c.limit < 1 + max e.depth f.depth
      · rw [if_pos hdepth]
        exact .inr ⟨fun h => absurd h.2 (Nat.not_le_of_lt hdepth), p, rfl⟩
      · rw [if_neg hdepth]
        have hhigher : spent + 1 < (Expr.join k e f).depth := by
          rw [Expr.depth]
          omega
        exact .inl ⟨Nat.max_le.mpr ⟨hm, hn⟩, Nat.le_of_not_lt hdepth, spent + 1, hhigher, rfl⟩
    · rw [c.chain_error hoperand]
      refine .inr ⟨fun h => hover ⟨Nat.le_trans (Nat.le_max_right m n) h.1, ?_⟩, q, rfl⟩
      have := h.2
      rw [Expr.depth] at this
      omega
  · refine .inr ⟨fun h => hover ⟨Nat.le_trans (Nat.le_max_left m n) h.1, ?_⟩, q, hanswer⟩
    have := h.2
    rw [Expr.depth] at this
    omega

end

/-- The parser of a phrase takes what derives, up to the limits. -/
theorem stands_of_derives (hlimit : 2 ≤ c.limit) {p : Phrase} {ls : List Lexeme} {n : Nat}
    {e : Expr} (h : Derives c.schema p ls n e) : ∀ {room : Nat} {ts rest : List Token},
      Takes ls ts rest → Follows p rest → c.Stands room p n e rest (c.phrase room p ts) := by
  induction h with
  | predicate hfield htests =>
      intro room ts rest htakes _
      exact c.outcome_predicate hlimit hfield htests htakes
  | not _ ih =>
      rintro room _ rest ⟨p, ts, rfl, htakes⟩ _
      exact c.outcome_not p fun _ => ih htakes trivial
  | group _ ih =>
      rintro room _ rest ⟨p, ts, rfl, htakes⟩ _
      obtain ⟨_, hinner, q, _, rfl, rfl⟩ := takes_append.mp htakes
      exact c.outcome_group p q fun _ => c.outcome_of_stands (ih hinner rfl) ⟨rfl, rfl⟩
  | one _ ih =>
      intro room ts rest htakes hfollows
      exact c.resumes_one (c.outcome_of_stands (ih htakes (follows_of_ends hfollows)) hfollows)
  | more _ _ ihl ihr =>
      intro room ts rest htakes hfollows
      obtain ⟨_, hleft, p, after, rfl, hright⟩ := takes_append.mp htakes
      exact c.resumes_more (ihl hleft (ends_operand _ p after))
        (c.outcome_of_stands (ihr hright (follows_of_ends hfollows)) hfollows)

/-! ## Whole filters -/

/-- The outcome of a whole filter, with any room. -/
theorem outcome_filter (hlimit : 2 ≤ c.limit) {ts : List Token} {n : Nat} {e : Expr}
    (h : Derives c.schema .filter (ts.map Token.lexeme) n e) (room : Nat) :
    c.Outcome room n e [] (c.disjunction (c.unary room) ts) :=
  c.outcome_of_stands (c.stands_of_derives hlimit h (takes_all.mpr rfl) rfl) ⟨rfl, rfl⟩

theorem filter_ok_iff (hlimit : 2 ≤ c.limit) {ts : List Token} {e : Expr} :
    c.filter ts = .ok e ↔
      ∃ n, Derives c.schema .filter (ts.map Token.lexeme) n e ∧ n ≤ c.limit ∧ e.depth ≤ c.limit := by
  constructor
  · intro h
    rw [filter] at h
    split at h
    · cases h
    · next parsed hparsed =>
      cases h
      obtain ⟨ls, n, htakes, hderives, hn, hd, hlimit⟩ :=
        c.disjunction_sound (c.unary_sound hlimit) hparsed
      rw [takes_all.mp htakes]
      exact ⟨n, hderives, hn, hd ▸ hlimit⟩
    · split at h <;> cases h
  · rintro ⟨n, hderives, hn, hd⟩
    rcases c.outcome_filter hlimit hderives c.limit with ⟨-, -, hanswer⟩ | ⟨hover, -⟩
    · rw [filter, hanswer]
    · exact absurd ⟨hn, hd⟩ hover

/-- Beyond the limits, what derives is refused for its depth. -/
theorem filter_tooDeep (hlimit : 2 ≤ c.limit) {ts : List Token} {n : Nat} {e : Expr}
    (h : Derives c.schema .filter (ts.map Token.lexeme) n e)
    (hover : ¬ (n ≤ c.limit ∧ e.depth ≤ c.limit)) :
    ∃ p, c.filter ts = .error (.grammar .tooDeep p) := by
  rcases c.outcome_filter hlimit h c.limit with ⟨hn, hd, -⟩ | ⟨-, p, hanswer⟩
  · exact absurd ⟨hn, hd⟩ hover
  · exact ⟨p, by rw [filter, hanswer, tooDeep]⟩

end Context

/-! ## The grammar is unambiguous -/

/-- With room for one derivation there is room for the other, and both filters are read. -/
theorem Derives.agree {s : Schema} {ls : List Lexeme} {m n : Nat} {e f : Expr}
    (h : Derives s .filter ls m e) (h' : Derives s .filter ls n f) : e = f ∧ n ≤ m := by
  let c : Context := ⟨s, 0, 2 + e.depth + f.depth⟩
  have hlimit : 2 ≤ c.limit := Nat.le_trans (Nat.le_add_right 2 e.depth) (Nat.le_add_right _ _)
  let ts : List Token := ls.map fun l => ⟨l, 0⟩
  have hts : ts.map Token.lexeme = ls := by
    rw [List.map_map]
    exact List.map_id ls
  have hfirst := c.outcome_filter hlimit (hts.symm ▸ h) m
  have hsecond := c.outcome_filter hlimit (hts.symm ▸ h') m
  have hd : e.depth ≤ c.limit := show e.depth ≤ 2 + e.depth + f.depth by omega
  have hd' : f.depth ≤ c.limit := show f.depth ≤ 2 + e.depth + f.depth by omega
  rcases hfirst with ⟨-, -, hread⟩ | ⟨hover, -⟩
  · rcases hsecond with ⟨hn, -, hread'⟩ | ⟨hover, p, hdeep⟩
    · rw [hread] at hread'
      cases hread'
      exact ⟨rfl, hn⟩
    · rw [hread] at hdeep
      cases hdeep
  · exact absurd ⟨Nat.le_refl m, hd⟩ hover

theorem two_le_maxDepth : 2 ≤ maxDepth := by decide

/-- Parsing is exact: a text is read as a filter if and only if its tokens, all of them, derive
the filter within the limits; and no tokens derive two filters, nor one filter with two depths of
nesting. -/
theorem parse_exact (s : Schema) :
    (∀ text e, parse s text = .ok e ↔ ∃ ts n, tokenize text = .ok ts ∧
      Derives s .filter (ts.map Token.lexeme) n e ∧ n ≤ maxDepth ∧ e.depth ≤ maxDepth) ∧
    (∀ ls m n e f, Derives s .filter ls m e → Derives s .filter ls n f → e = f ∧ m = n) := by
  constructor
  · intro text e
    cases htokens : tokenize text with
    | error err =>
        rw [parse, htokens]
        constructor
        · intro h
          cases h
        · rintro ⟨ts, n, h, -⟩
          cases h
    | ok ts =>
        rw [parse, htokens]
        dsimp only
        rw [Context.filter_ok_iff _ two_le_maxDepth]
        constructor
        · rintro ⟨n, hderives, hlimits⟩
          exact ⟨ts, n, rfl, hderives, hlimits⟩
        · rintro ⟨_, n, h, hderives, hlimits⟩
          cases h
          exact ⟨n, hderives, hlimits⟩
  · intro ls m n e f h h'
    obtain ⟨he, hle⟩ := h.agree h'
    exact ⟨he, Nat.le_antisymm (h'.agree h).2 hle⟩

end Columnar.Filter

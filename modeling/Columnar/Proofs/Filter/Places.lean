/-
# `Proofs.Filter.Places` — where the errors of the parser are

An error of the parser has a place among the tokens, and the tokens in front
of it show what it is about: they begin a filter.  `Leads` is how a phrase
begins up to an operand, `Asks` how the test of a column begins up to
something that is due.  With these every error has a rule of its own: what
the tokens are in front of it, which token it names, and what is wrong there
(`Misses` behind the name of a column, `Mistake` in a phrase, `Concerns` in
the whole text).

The readers report tokens they have passed: a list is found to be empty
behind its `IN`, and a parenthesis unmatched at the end of the text.  So the
rules are about the tokens from the beginning of the phrase on, and a mistake
in a phrase is one in every phrase that leads up to it (`Mistake.behind`).
-/
import Columnar.Proofs.Filter.Coverage
import Columnar.Proofs.Filter.Parsing

namespace Columnar.Filter

open Columnar.Text Number

/-! ## Beginnings -/

/-- Behind the name of a column, an element of a list is due. -/
inductive ItemDue (k : Kind) : List Lexeme → Prop
  | first {negated : Bool} {opening close : Lexeme} : Context.closing? opening = some close →
      ItemDue k (notWord negated ++ [.keyword .in, opening])
  | more {ls : List Lexeme} {l : Lexeme} {v : Literal} : ItemDue k ls → l.Writes k v →
      ItemDue k (ls ++ [l, .comma])

/-- Behind the name of a column, a literal is due. -/
inductive LiteralDue (k : Kind) : List Lexeme → Prop
  | compare {op : Comparison} : LiteralDue k [.operator op]
  | item {ls : List Lexeme} : ItemDue k ls → LiteralDue k ls

/-- What is due behind the name of a column of the kind and some lexemes. -/
inductive Asks (k : Kind) : List Lexeme → Expectation → Prop
  | operator : Asks k [] .operator
  | likeOrIn : Asks k [.keyword .not] .likeOrIn
  | null {negated : Bool} : Asks k (.keyword .is :: notWord negated) .null
  | pattern {negated : Bool} : k ≠ .bool → k ≠ .other →
      Asks k (notWord negated ++ [.keyword .like]) .pattern
  | listOpening {negated : Bool} : Asks k (notWord negated ++ [.keyword .in]) .listOpening
  | literal {ls : List Lexeme} : LiteralDue k ls → Asks k ls .literal
  | listEnd {ls : List Lexeme} {l : Lexeme} {v : Literal} : ItemDue k ls → l.Writes k v →
      Asks k (ls ++ [l]) .listEnd

/-- The lexemes begin a phrase, up to an operand that is due. -/
inductive Leads (s : Schema) : Phrase → List Lexeme → Prop
  | here : Leads s .unary []
  | not {ls : List Lexeme} : Leads s .unary ls → Leads s .unary (.keyword .not :: ls)
  | group {ls : List Lexeme} : Leads s .filter ls → Leads s .unary (.openParen :: ls)
  | first {k : Connective} {ls : List Lexeme} : Leads s k.operand ls → Leads s (.chain k) ls
  | next {k : Connective} {ls ms : List Lexeme} {n : Nat} {e : Expr} : Derives s (.chain k) ls n e →
      Leads s k.operand ms → Leads s (.chain k) (ls ++ .keyword k.keyword :: ms)

/-! ## Mistakes -/

section
variable (c : Context)

/-- The tokens behind the name of a column are no test of it. -/
inductive Misses (column : String) (k : Kind) (ts : List Token) : ParseError → Prop
  | expected {mid rest : List Token} {what : Expectation} : ts = mid ++ rest →
      Asks k (mid.map Token.lexeme) what → Misses column k ts (c.expected what rest)
  /-- The literal that is due does not suit the column. -/
  | literal {mid rest : List Token} {t : Token} {w : Written} {demand : Demand} :
      ts = mid ++ t :: rest → LiteralDue k (mid.map Token.lexeme) → t.lexeme.written? = some w →
      read k w = .error demand →
      Misses column k ts (.typeMismatch column demand (.literal w) t.position)
  /-- `LIKE` does not suit the column. -/
  | pattern {mid rest : List Token} {t : Token} {negated : Bool} : ts = mid ++ t :: rest →
      mid.map Token.lexeme = notWord negated → t.lexeme = .keyword .like → k = .bool ∨ k = .other →
      Misses column k ts (.typeMismatch column .textForm .pattern t.position)
  /-- Brackets directly behind `IN` have nothing between them. -/
  | emptyList {mid rest : List Token} {t opening closing : Token} {negated : Bool} :
      ts = mid ++ t :: opening :: closing :: rest → mid.map Token.lexeme = notWord negated →
      t.lexeme = .keyword .in → Context.closing? opening.lexeme = some closing.lexeme →
      Misses column k ts (.emptyList column t.position)

/-- The tokens do not begin with a phrase. -/
inductive Mistake (p : Phrase) (ts : List Token) : ParseError → Prop
  | columnName {front rest : List Token} : ts = front ++ rest →
      Leads c.schema p (front.map Token.lexeme) → Mistake p ts (c.expected .columnName rest)
  | unknownColumn {front rest : List Token} {t : Token} {column : String} :
      ts = front ++ t :: rest →
      Leads c.schema p (front.map Token.lexeme) → t.lexeme = .identifier column →
      c.schema.find? column = none → Mistake p ts (.unknownColumn column t.position)
  | test {front rest : List Token} {t : Token} {column : String} {f : Field} {err : ParseError} :
      ts = front ++ t :: rest → Leads c.schema p (front.map Token.lexeme) →
      t.lexeme = .identifier column → c.schema.find? column = some f →
      Misses c column (kind f.type) rest err → Mistake p ts err
  /-- A group goes on to the end of the text. -/
  | unmatchedOpen {front inner : List Token} {t : Token} {n : Nat} {e : Expr} :
      ts = front ++ t :: inner → Leads c.schema p (front.map Token.lexeme) →
      t.lexeme = .openParen → Derives c.schema .filter (inner.map Token.lexeme) n e →
      Mistake p ts (.grammar .unmatchedOpen t.position)
  /-- What is behind a group neither goes on with it nor closes it. -/
  | closeParen {front inner rest : List Token} {t u : Token} {n : Nat} {e : Expr} :
      ts = front ++ t :: (inner ++ u :: rest) → Leads c.schema p (front.map Token.lexeme) →
      t.lexeme = .openParen → Derives c.schema .filter (inner.map Token.lexeme) n e →
      u.lexeme ≠ .closeParen → Mistake p ts (c.expected .closeParen (u :: rest))
  /-- The token that makes the filter too deep leads up to an operand: it is `NOT`, a parenthesis,
  or a connective. -/
  | tooDeep {front rest : List Token} {t : Token} : ts = front ++ t :: rest →
      Leads c.schema p ((front ++ [t]).map Token.lexeme) →
      Mistake p ts (.grammar .tooDeep t.position)

/-- The tokens are no filter. -/
inductive Concerns (ts : List Token) : ParseError → Prop
  | inside {err : ParseError} : Mistake c .filter ts err → Concerns ts err
  | unmatchedClose {front rest : List Token} {t : Token} {n : Nat} {e : Expr} :
      ts = front ++ t :: rest → Derives c.schema .filter (front.map Token.lexeme) n e →
      t.lexeme = .closeParen → Concerns ts (.grammar .unmatchedClose t.position)
  | trailing {front rest : List Token} {t : Token} {n : Nat} {e : Expr} :
      ts = front ++ t :: rest → Derives c.schema .filter (front.map Token.lexeme) n e →
      t.lexeme ≠ .closeParen → Concerns ts (.grammar (.trailing t.lexeme) t.position)

end

namespace Context

variable (c : Context)

/-! ## Tests of a column -/

section
variable {column : String} {k : Kind} {err : ParseError}

theorem literal_misses {mid ts : List Token} (hdue : LiteralDue k (mid.map Token.lexeme))
    (h : c.literal column k ts = .error err) : Misses c column k (mid ++ ts) err := by
  cases ts with
  | nil =>
      cases h
      exact .expected rfl (.literal hdue)
  | cons t rest =>
      rw [literal] at h
      split at h
      · cases h
        exact .expected rfl (.literal hdue)
      · next w hw =>
        split at h
        · cases h
        · next demand hdemand =>
          cases h
          exact .literal rfl hdue hw hdemand

/-- What has been read of the list grows by an element and its comma in each turn. -/
theorem literals_misses {close : Lexeme} : ∀ {ts mid : List Token},
    ItemDue k (mid.map Token.lexeme) → c.literals column k close ts = .error err →
      Misses c column k (mid ++ ts) err
  | [], mid, hdue, h => by
      cases h
      exact .expected rfl (.literal (.item hdue))
  | t :: rest, mid, hdue, h => by
      rw [literals.eq_def] at h
      dsimp only at h
      split at h
      · next e hliteral =>
        cases h
        exact c.literal_misses (.item hdue) hliteral
      · next v after hliteral =>
        obtain ⟨l, hwrites, htakes⟩ := (c.literal_ok_iff).mp hliteral
        obtain ⟨rfl, -⟩ := takes_cons.mp htakes
        have hend : Asks k ((mid ++ [t]).map Token.lexeme) .listEnd := by
          rw [List.map_append]
          exact .listEnd hdue hwrites
        split at h
        · cases h
          exact .expected (List.append_cons mid t []) hend
        · next sep rest =>
          split at h
          · next hcomma =>
            cases hmore : c.literals column k close rest with
            | ok r => rw [hmore] at h; cases h
            | error e =>
                rw [hmore] at h
                cases h
                have hdue' : ItemDue k ((mid ++ [t, sep]).map Token.lexeme) := by
                  rw [List.map_append, List.map_cons, List.map_singleton, hcomma]
                  exact .more hdue hwrites
                have hmisses := literals_misses hdue' hmore
                rwa [List.append_assoc] at hmisses
          · split at h
            · cases h
            · cases h
              exact .expected (List.append_cons mid t _) hend

variable {mid ts : List Token} {negated : Bool}

theorem list_misses {t : Token} (hmid : mid.map Token.lexeme = notWord negated)
    (hin : t.lexeme = .keyword .in) (h : c.list column k t.position ts = .error err) :
    Misses c column k (mid ++ t :: ts) err := by
  have hopening : Asks k ((mid ++ [t]).map Token.lexeme) .listOpening := by
    rw [List.map_append, List.map_singleton, hmid, hin]
    exact .listOpening
  cases ts with
  | nil =>
      cases h
      exact .expected (List.append_cons mid t []) hopening
  | cons opening rest =>
      rw [list] at h
      split at h
      · cases h
        exact .expected (List.append_cons mid t _) hopening
      · next close hclose =>
        split at h
        · next hempty =>
          cases h
          cases rest with
          | nil => cases hempty
          | cons closing rest =>
              rw [← Option.some.inj hempty] at hclose
              exact .emptyList rfl hmid hin hclose
        · have hdue : ItemDue k ((mid ++ [t, opening]).map Token.lexeme) := by
            rw [List.map_append, List.map_cons, List.map_singleton, hmid, hin]
            exact .first hclose
          have hmisses := c.literals_misses hdue h
          rwa [List.append_assoc] at hmisses

theorem nullTest_misses {t : Token} (his : t.lexeme = .keyword .is)
    (h : c.nullTest column ts = .error err) : Misses c column k (t :: ts) err := by
  obtain ⟨front, hts, hnot⟩ := takes_iff.mp (takes_optionalNot ts)
  rw [nullTest] at h
  dsimp only at h
  split at h
  · cases h
  · cases h
    have hasks : Asks k ((t :: front).map Token.lexeme) .null := by
      rw [List.map_cons, his, hnot]
      exact .null
    exact .expected (congrArg (List.cons t) hts) hasks

theorem likeTest_misses {t : Token} (hmid : mid.map Token.lexeme = notWord negated)
    (hlike : t.lexeme = .keyword .like)
    (h : c.likeTest negated column k t.position ts = .error err) :
    Misses c column k (mid ++ t :: ts) err := by
  rw [likeTest.eq_def] at h
  split at h
  · next hkind =>
    cases h
    exact .pattern rfl hmid hlike hkind
  · next hkind =>
    obtain ⟨hbool, hother⟩ := not_or.mp hkind
    split at h
    · cases h
    · cases h
      have hasks : Asks k ((mid ++ [t]).map Token.lexeme) .pattern := by
        rw [List.map_append, List.map_singleton, hmid, hlike]
        exact .pattern hbool hother
      exact .expected (List.append_cons mid t ts) hasks

theorem memberTest_misses {t : Token} (hmid : mid.map Token.lexeme = notWord negated)
    (hin : t.lexeme = .keyword .in)
    (h : c.memberTest negated column k t.position ts = .error err) :
    Misses c column k (mid ++ t :: ts) err := by
  rw [memberTest] at h
  cases hlist : c.list column k t.position ts with
  | ok r => rw [hlist] at h; cases h
  | error e =>
      rw [hlist] at h
      cases h
      exact c.list_misses hmid hin hlist

theorem comparison_misses (h : c.comparison column k ts = .error err) :
    Misses c column k ts err := by
  rw [comparison.eq_def] at h
  split at h
  · next op p rest =>
    cases hliteral : c.literal column k rest with
    | ok r => rw [hliteral] at h; cases h
    | error e =>
        rw [hliteral] at h
        cases h
        have hdue : LiteralDue k ([⟨.operator op, p⟩].map Token.lexeme) := .compare
        exact c.literal_misses hdue hliteral
  · cases h
    exact .expected (List.nil_append _).symm .operator

theorem test_misses (h : c.test column k ts = .error err) : Misses c column k ts err := by
  rw [test] at h
  split at h
  · next rest his =>
    obtain ⟨p, after, rfl, rfl⟩ := keyword_some_iff.mp his
    exact c.nullTest_misses rfl h
  · obtain ⟨mid, hts, hmid⟩ := takes_iff.mp (takes_optionalNot ts)
    generalize optionalNot ts = r at h hts hmid
    obtain ⟨negated, after⟩ := r
    dsimp only at h hts hmid
    subst hts
    split at h
    · next rest hlike =>
      obtain ⟨p, behind, rfl, rfl⟩ := keyword_some_iff.mp hlike
      exact c.likeTest_misses hmid rfl h
    · split at h
      · next rest hin =>
        obtain ⟨p, behind, rfl, rfl⟩ := keyword_some_iff.mp hin
        exact c.memberTest_misses hmid rfl h
      · cases negated with
        | true =>
            cases h
            refine .expected rfl ?_
            rw [hmid]
            exact .likeOrIn
        | false =>
            obtain rfl := List.map_eq_nil_iff.mp hmid
            exact c.comparison_misses h

end

end Context

/-! ## Phrases -/

section
variable {c : Context} {p q : Phrase} {ts : List Token} {err : ParseError}

/-- A mistake behind tokens that lead up to a phrase is one of the longer phrase. -/
theorem Mistake.behind (h : Mistake c q ts err) (lead : List Token)
    (hlead : ∀ ls, Leads c.schema q ls → Leads c.schema p (lead.map Token.lexeme ++ ls)) :
    Mistake c p (lead ++ ts) err := by
  have hlonger : ∀ {front : List Token}, Leads c.schema q (front.map Token.lexeme) →
      Leads c.schema p ((lead ++ front).map Token.lexeme) := by
    intro front hfront
    rw [List.map_append]
    exact hlead _ hfront
  cases h with
  | @columnName front rest hts hfront =>
      subst hts
      exact .columnName (List.append_assoc lead front rest).symm (hlonger hfront)
  | @unknownColumn front rest t column hts hfront hname hnone =>
      subst hts
      exact .unknownColumn (List.append_assoc lead front _).symm (hlonger hfront) hname hnone
  | @test front rest t column f err hts hfront hname hf hmisses =>
      subst hts
      exact .test (List.append_assoc lead front _).symm (hlonger hfront) hname hf hmisses
  | @unmatchedOpen front inner t n e hts hfront hopen hinner =>
      subst hts
      exact .unmatchedOpen (List.append_assoc lead front _).symm (hlonger hfront) hopen hinner
  | @closeParen front inner rest t u n e hts hfront hopen hinner hclose =>
      subst hts
      exact .closeParen (List.append_assoc lead front _).symm (hlonger hfront) hopen hinner hclose
  | @tooDeep front rest t hts hfront =>
      subst hts
      refine .tooDeep (List.append_assoc lead front _).symm ?_
      rw [List.append_assoc]
      exact hlonger hfront

theorem Mistake.not {t : Token} (ht : t.lexeme = .keyword .not) (h : Mistake c .unary ts err) :
    Mistake c .unary (t :: ts) err := by
  refine h.behind [t] ?_
  intro ls hls
  rw [List.map_singleton, ht]
  exact .not hls

theorem Mistake.group {t : Token} (ht : t.lexeme = .openParen) (h : Mistake c .filter ts err) :
    Mistake c .unary (t :: ts) err := by
  refine h.behind [t] ?_
  intro ls hls
  rw [List.map_singleton, ht]
  exact .group hls

theorem Mistake.first {k : Connective} (h : Mistake c k.operand ts err) :
    Mistake c (.chain k) ts err :=
  h.behind [] fun _ hls => .first hls

theorem Mistake.next {k : Connective} {front : List Token} {t : Token} {n : Nat} {e : Expr}
    (hfront : Derives c.schema (.chain k) (front.map Token.lexeme) n e)
    (ht : t.lexeme = .keyword k.keyword) (h : Mistake c k.operand ts err) :
    Mistake c (.chain k) (front ++ t :: ts) err := by
  rw [List.append_cons]
  refine h.behind (front ++ [t]) ?_
  intro ls hls
  rw [List.map_append, List.map_singleton, ht, List.append_assoc]
  exact .next hfront hls

theorem leads_operand (s : Schema) (k : Connective) : Leads s k.operand [] := by
  cases k with
  | and => exact .here
  | or => exact .first .here

end

namespace Context

variable (c : Context)

section
variable {err : ParseError}

theorem predicate_mistake {ts : List Token} (h : c.predicate ts = .error err) :
    Mistake c .unary ts err := by
  rw [predicate.eq_def] at h
  split at h
  · next column p rest =>
    split at h
    · next hnone =>
      cases h
      exact .unknownColumn (List.nil_append _).symm .here rfl hnone
    · next f hf => exact .test (List.nil_append _).symm .here rfl hf (c.test_misses h)
  · cases h
    exact .columnName (List.nil_append _).symm .here

/-- A connective that makes the filter too deep stands behind operands. -/
theorem connective_tooDeep {k : Connective} {front after : List Token} {n p : Nat} {e : Expr}
    (hfront : Derives c.schema (.chain k) (front.map Token.lexeme) n e) :
    Mistake c (.chain k) (front ++ ⟨.keyword k.keyword, p⟩ :: after) (tooDeep p) := by
  refine .tooDeep rfl ?_
  rw [List.map_append]
  exact .next hfront (leads_operand c.schema k)

/-- How the operands behind a first one can fail: the next one does, or it makes the filter too
deep, or those behind it fail. -/
theorem chain_fails {k : Connective} {operand : Parser Parsed} {turns : Nat} {left : Parsed}
    {ts : List Token} (h : c.chain k operand turns left ts = .error err) :
    ∃ p after, ts = ⟨.keyword k.keyword, p⟩ :: after ∧
      (operand after = .error err ∨ err = tooDeep p ∨
        ∃ less right rest depth, turns = less + 1 ∧ operand after = .ok (right, rest) ∧
          c.chain k operand less ⟨.join k left.expr right.expr, depth⟩ rest = .error err) := by
  cases hkeyword : keyword? k.keyword ts with
  | none => rw [c.chain_stop hkeyword] at h; cases h
  | some behind =>
      obtain ⟨p, after, rfl, rfl⟩ := keyword_some_iff.mp hkeyword
      refine ⟨p, after, rfl, ?_⟩
      cases hright : operand after with
      | error e =>
          rw [c.chain_error hright] at h
          cases h
          exact .inl rfl
      | ok right =>
          refine .inr ?_
          cases turns with
          | zero =>
              rw [c.chain_out hright] at h
              cases h
              exact .inl rfl
          | succ less =>
              rw [c.chain_turn hright] at h
              split at h
              · cases h
                exact .inl rfl
              · exact .inr ⟨less, right.1, right.2, _, rfl, rfl, h⟩

/-- Operands that have been read lead up to the next one, behind its connective. -/
theorem chain_mistake {room : Nat} {k : Connective} {operand : Parser Parsed}
    (hoperand : ∀ {ts r rest}, operand ts = .ok (r, rest) → c.Reads room k.operand ts r rest)
    (hmistake : ∀ {ts err}, operand ts = .error err → Mistake c k.operand ts err) (turns : Nat) :
    ∀ {left : Parsed} {front ts : List Token} {n : Nat},
      Derives c.schema (.chain k) (front.map Token.lexeme) n left.expr →
      c.chain k operand turns left ts = .error err → Mistake c (.chain k) (front ++ ts) err := by
  induction turns with
  | zero =>
      intro left front ts n hfront h
      obtain ⟨p, after, rfl, herror | rfl | ⟨_, _, _, _, hturns, -⟩⟩ := c.chain_fails h
      · exact .next hfront rfl (hmistake herror)
      · exact c.connective_tooDeep hfront
      · cases hturns
  | succ turns ih =>
      intro left front ts n hfront h
      obtain ⟨p, after, rfl, herror | rfl | ⟨_, right, rest, depth, hturns, hright, hmore⟩⟩ :=
        c.chain_fails h
      · exact .next hfront rfl (hmistake herror)
      · exact c.connective_tooDeep hfront
      · cases hturns
        obtain ⟨rs, m, htakes, hright', -⟩ := hoperand hright
        obtain ⟨mid, rfl, rfl⟩ := takes_iff.mp htakes
        have hlonger := Derives.more hfront hright'
        have hmap : front.map Token.lexeme ++ .keyword k.keyword :: mid.map Token.lexeme =
            (front ++ ⟨.keyword k.keyword, p⟩ :: mid).map Token.lexeme := by
          rw [List.map_append, List.map_cons]
        rw [hmap] at hlonger
        have hmistake' := ih hlonger hmore
        rwa [List.append_assoc] at hmistake'

theorem chained_mistake {room : Nat} {k : Connective} {operand : Parser Parsed}
    (hoperand : ∀ {ts r rest}, operand ts = .ok (r, rest) → c.Reads room k.operand ts r rest)
    (hmistake : ∀ {ts err}, operand ts = .error err → Mistake c k.operand ts err)
    {ts : List Token} (h : c.chained k operand ts = .error err) : Mistake c (.chain k) ts err := by
  rw [chained] at h
  split at h
  · next e hfirst =>
    cases h
    exact .first (hmistake hfirst)
  · next left rest hfirst =>
    obtain ⟨ls, n, htakes, hderives, -⟩ := hoperand hfirst
    obtain ⟨front, rfl, rfl⟩ := takes_iff.mp htakes
    exact c.chain_mistake hoperand hmistake _ (.one hderives) h

theorem disjunction_mistake {room : Nat} {operand : Parser Parsed}
    (hoperand : ∀ {ts r rest}, operand ts = .ok (r, rest) → c.Reads room .unary ts r rest)
    (hmistake : ∀ {ts err}, operand ts = .error err → Mistake c .unary ts err)
    {ts : List Token} (h : c.disjunction operand ts = .error err) : Mistake c .filter ts err :=
  c.chained_mistake (k := .or) (c.chained_sound (k := .and) hoperand)
    (c.chained_mistake (k := .and) hoperand hmistake) h

theorem closeGroup_mistake {t : Token} {inner : Parsed} {front ts : List Token} {n : Nat} {e : Expr}
    (hopen : t.lexeme = .openParen)
    (hfront : Derives c.schema .filter (front.map Token.lexeme) n e)
    (h : c.closeGroup t.position inner ts = .error err) :
    Mistake c .unary (t :: (front ++ ts)) err := by
  cases ts with
  | nil =>
      cases h
      rw [List.append_nil]
      exact .unmatchedOpen (List.nil_append _).symm .here hopen hfront
  | cons u rest =>
      rw [closeGroup] at h
      split at h
      · cases h
      · next hclose =>
        cases h
        exact .closeParen (List.nil_append _).symm .here hopen hfront hclose

theorem not_tooDeep {p : Nat} {rest : List Token} :
    Mistake c .unary (⟨.keyword .not, p⟩ :: rest) (tooDeep p) :=
  .tooDeep (List.nil_append _).symm (.not .here)

theorem group_tooDeep {p : Nat} {rest : List Token} :
    Mistake c .unary (⟨.openParen, p⟩ :: rest) (tooDeep p) :=
  .tooDeep (List.nil_append _).symm (.group (.first (leads_operand c.schema .or)))

theorem unary_mistake (hlimit : 2 ≤ c.limit) : ∀ {room : Nat} {ts : List Token} {err : ParseError},
    c.unary room ts = .error err → Mistake c .unary ts err := by
  have hpredicate : ∀ {ts : List Token} {err : ParseError}
      {g : Expr × List Token → Parsed × List Token},
      (c.predicate ts).map g = .error err → Mistake c .unary ts err := by
    intro ts err g h
    cases hread : c.predicate ts with
    | ok r => rw [hread] at h; cases h
    | error e =>
        rw [hread] at h
        cases h
        exact c.predicate_mistake hread
  intro room
  induction room with
  | zero =>
      intro ts err h
      rw [unary.eq_def] at h
      dsimp only at h
      split at h
      · cases h
        exact c.not_tooDeep
      · cases h
        exact c.group_tooDeep
      · exact hpredicate h
  | succ room ih =>
      intro ts err h
      rw [unary.eq_def] at h
      dsimp only at h
      split at h
      · split at h
        · next hinner =>
          cases h
          exact .not rfl (ih hinner)
        · split at h
          · cases h
            exact c.not_tooDeep
          · cases h
      · split at h
        · next hinner =>
          cases h
          exact .group rfl (c.disjunction_mistake (c.unary_sound hlimit) ih hinner)
        · next inner rest hinner =>
          obtain ⟨ls, n, htakes, hderives, -⟩ :=
            c.disjunction_sound (c.unary_sound hlimit) hinner
          obtain ⟨front, rfl, rfl⟩ := takes_iff.mp htakes
          exact c.closeGroup_mistake (t := ⟨.openParen, _⟩) rfl hderives h
      · exact hpredicate h

/-- Every error of the parser has its rule. -/
theorem filter_concerns (hlimit : 2 ≤ c.limit) {ts : List Token} (h : c.filter ts = .error err) :
    Concerns c ts err := by
  have hsound : ∀ {ts rest : List Token} {r : Parsed}, c.unary c.limit ts = .ok (r, rest) →
      c.Reads c.limit .unary ts r rest := c.unary_sound hlimit
  rw [filter] at h
  split at h
  · next e hread =>
    cases h
    exact .inside (c.disjunction_mistake hsound (c.unary_mistake hlimit) hread)
  · cases h
  · next parsed t rest hread =>
    obtain ⟨ls, n, htakes, hderives, -⟩ := c.disjunction_sound hsound hread
    obtain ⟨front, rfl, rfl⟩ := takes_iff.mp htakes
    split at h
    · next hclose =>
      cases h
      exact .unmatchedClose rfl hderives hclose
    · next hclose =>
      cases h
      exact .trailing rfl hderives hclose

end

end Context

/-! ## Positions -/

section
variable {c : Context} {p : Phrase} {ts : List Token} {err : ParseError}

/-- The error is at the end, where something is still due, or at one of the tokens. -/
def AtToken (stop : Nat) (ts : List Token) (err : ParseError) : Prop :=
  (∃ what, err = .grammar (.expected what none) stop) ∨ ∃ t ∈ ts, t.position = err.position

theorem atToken_expected (front rest : List Token) (what : Expectation) :
    AtToken c.stop (front ++ rest) (c.expected what rest) := by
  cases rest with
  | nil => exact .inl ⟨what, rfl⟩
  | cons t rest => exact .inr ⟨t, List.mem_append_right front List.mem_cons_self, rfl⟩

theorem AtToken.behind {stop : Nat} (h : AtToken stop ts err) (front : List Token) :
    AtToken stop (front ++ ts) err := by
  rcases h with hend | ⟨t, ht, hposition⟩
  · exact .inl hend
  · exact .inr ⟨t, List.mem_append_right front ht, hposition⟩

theorem atToken_of_mem {stop : Nat} {front rest : List Token} {t : Token}
    (hts : ts = front ++ t :: rest) (hposition : t.position = err.position) : AtToken stop ts err :=
  .inr ⟨t, hts ▸ List.mem_append_right front List.mem_cons_self, hposition⟩

theorem Misses.atToken {column : String} {k : Kind} (h : Misses c column k ts err) :
    AtToken c.stop ts err := by
  cases h with
  | @expected mid rest what hts => exact hts ▸ atToken_expected mid rest what
  | literal hts => exact atToken_of_mem hts rfl
  | pattern hts => exact atToken_of_mem hts rfl
  | emptyList hts => exact atToken_of_mem hts rfl

theorem Mistake.atToken (h : Mistake c p ts err) : AtToken c.stop ts err := by
  cases h with
  | @columnName front rest hts => exact hts ▸ atToken_expected front rest .columnName
  | unknownColumn hts => exact atToken_of_mem hts rfl
  | @test front rest t column f err hts _ _ _ hmisses =>
      rw [hts, List.append_cons]
      exact hmisses.atToken.behind (front ++ [t])
  | unmatchedOpen hts => exact atToken_of_mem hts rfl
  | @closeParen front inner rest t u n e hts =>
      rw [hts, List.append_cons]
      exact (atToken_expected inner (u :: rest) .closeParen).behind (front ++ [t])
  | tooDeep hts => exact atToken_of_mem hts rfl

theorem Concerns.atToken (h : Concerns c ts err) : AtToken c.stop ts err := by
  cases h with
  | inside hmistake => exact hmistake.atToken
  | unmatchedClose hts => exact atToken_of_mem hts rfl
  | trailing hts => exact atToken_of_mem hts rfl

end

section
variable {text : String}

/-- A token starts where a character of the text does. -/
theorem token_stands {ts : List Token} (h : tokenize text = .ok ts) {t : Token} (ht : t ∈ ts) :
    (∃ before after, text = before ++ after ∧ before.utf8ByteSize = t.position) ∧
      t.position < text.utf8ByteSize := by
  obtain ⟨left, hstuck, hgap, hcut, htext⟩ := cut_scan text.toList
  rw [tokenize] at h
  cases hfault : (scan text.toList).fault with
  | some fault => rw [hfault] at h; cases h
  | none =>
      rw [hfault] at h hstuck
      cases h
      cases hstuck
      rw [List.append_nil] at hcut htext
      have hcovers := covers_spans hcut hgap htext
      rw [← spansFrom_token] at ht
      obtain ⟨span, hspan, rfl⟩ := List.mem_map.mp ht
      obtain ⟨before, after, hsplit, hposition⟩ := hcovers.stands span hspan
      have hbytes : span.source.utf8ByteSize ≠ 0 := fun hzero =>
        hcovers.nonempty span hspan (String.utf8ByteSize_eq_zero_iff.mp hzero)
      refine ⟨⟨before, span.source ++ after, ?_, hposition⟩, ?_⟩
      · rw [hsplit, String.append_assoc]
      · rw [hsplit, String.utf8ByteSize_append, String.utf8ByteSize_append, ← hposition]
        omega

/-- The character that the tokenizer refuses begins no lexeme, and no blanks. -/
theorem refused_stands {e : LexError} (h : tokenize text = .error e) :
    ∃ before c after, text = before ++ String.singleton c ++ after ∧
      before.utf8ByteSize = e.position ∧ isBlank c = false ∧
      lexeme c after.toList = .error e.fault := by
  obtain ⟨left, hstuck, -, -, htext⟩ := cut_scan text.toList
  rw [tokenize] at h
  cases hfault : (scan text.toList).fault with
  | none => rw [hfault] at h; cases h
  | some fault =>
      rw [hfault] at h hstuck
      cases h
      cases hstuck with
      | @fault c rest _ hblank hlexeme =>
          refine ⟨String.ofList (written (scan text.toList).pieces ++ (scan text.toList).gap), c,
            String.ofList rest, ?_, ?_, hblank, ?_⟩
          · rw [String.singleton_eq_ofList, ← String.ofList_append, ← String.ofList_append,
              List.append_assoc, List.append_assoc, List.singleton_append, htext,
              String.ofList_toList]
          · rw [← byteLength_eq, byteLength_append, byteLength_written]
          · rw [String.toList_ofList]
            exact hlexeme

/-- Every error points at what it is about.  Its position is a boundary between characters of the
text, and is the end of the text only where the tokens ran out with something still due.  An error
of the tokenizer is at the character that begins no lexeme; any other is at a token or at the end,
and the tokens in front of it and behind it are as the error says. -/
theorem errors_placed {s : Schema} {err : ParseError} (h : parse s text = .error err) :
    (∃ before after, text = before ++ after ∧ before.utf8ByteSize = err.position) ∧
    (err.position = text.utf8ByteSize →
      ∃ what, err = .grammar (.expected what none) text.utf8ByteSize) ∧
    ((∃ e before c after, err = .lex e ∧ text = before ++ String.singleton c ++ after ∧
        before.utf8ByteSize = err.position ∧ isBlank c = false ∧
        lexeme c after.toList = .error e.fault) ∨
      ∃ ts, tokenize text = .ok ts ∧ Concerns ⟨s, text.utf8ByteSize, maxDepth⟩ ts err ∧
        (err.position = text.utf8ByteSize ∨ ∃ t ∈ ts, t.position = err.position)) := by
  rw [parse] at h
  cases htokens : tokenize text with
  | error e =>
      rw [htokens] at h
      cases h
      obtain ⟨before, c, after, hsplit, hposition, hblank, hlexeme⟩ := refused_stands htokens
      have hinside : e.position < text.utf8ByteSize := hposition ▸ lt_of_split hsplit
      refine ⟨⟨before, String.singleton c ++ after, ?_, hposition⟩, ?_, ?_⟩
      · rw [hsplit, String.append_assoc]
      · exact fun hend => absurd hend (Nat.ne_of_lt hinside)
      · exact .inl ⟨e, before, c, after, rfl, hsplit, hposition, hblank, hlexeme⟩
  | ok ts =>
      rw [htokens] at h
      have hconcerns := Context.filter_concerns _ two_le_maxDepth h
      rcases hconcerns.atToken with ⟨what, rfl⟩ | ⟨t, ht, hposition⟩
      · exact ⟨⟨text, "", String.append_empty.symm, rfl⟩, fun _ => ⟨what, rfl⟩,
          .inr ⟨ts, rfl, hconcerns, .inl rfl⟩⟩
      · obtain ⟨hboundary, hinside⟩ := token_stands htokens ht
        rw [hposition] at hboundary hinside
        exact ⟨hboundary, fun hend => absurd hend (Nat.ne_of_lt hinside),
          .inr ⟨ts, rfl, hconcerns, .inr ⟨t, ht, hposition⟩⟩⟩

end

/-- The inner groups are closed, the one around them is not. -/
def halfOpen : String := "NOT ä LIKE 'ß(' OR (ä IN ('ß') AND (ä IS NULL)"

/-- The parenthesis is found again, behind letters of two bytes. -/
theorem errors_placed_halfOpen :
    parse [⟨"ä", .text false, true⟩] halfOpen = .error (.grammar .unmatchedOpen 21) ∧
    (∃ before after, halfOpen = before ++ after ∧ before.utf8ByteSize = 21) ∧
    ∃ ts, tokenize halfOpen = .ok ts ∧
      Concerns ⟨[⟨"ä", .text false, true⟩], halfOpen.utf8ByteSize, maxDepth⟩ ts
        (.grammar .unmatchedOpen 21) := by
  have h : parse [⟨"ä", .text false, true⟩] halfOpen = .error (.grammar .unmatchedOpen 21) := by
    decide +kernel
  obtain ⟨hboundary, -, ⟨e, _, _, _, he, -⟩ | ⟨ts, htokens, hconcerns, -⟩⟩ := errors_placed h
  · cases he
  · exact ⟨h, hboundary, ts, htokens, hconcerns⟩

end Columnar.Filter

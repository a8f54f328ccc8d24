/-
# `Proofs.Filter.Positions` — the parser only hands positions on

The parser decides by lexemes.  It reads positions nowhere but to put them
into its errors, so with the tokens moved to other places, and the end of
the text with them, it answers as before, with the positions of its errors
moved in the same way (`filter_move`).  Two texts with the same lexemes are
therefore read alike (`parse_alike`): to the same tree, or with an error
that says the same about the same token.
-/
import Columnar.Filter.Parser

namespace Columnar.Filter

/-! ## Moving -/

section
variable (f : Nat → Nat)

def Token.move (t : Token) : Token := ⟨t.lexeme, f t.position⟩

/-- The error at another place: the same kind and the same content. -/
def ParseError.move : ParseError → ParseError
  | .lex e => .lex ⟨e.fault, f e.position⟩
  | .grammar fault p => .grammar fault (f p)
  | .unknownColumn column p => .unknownColumn column (f p)
  | .typeMismatch column demand found p => .typeMismatch column demand found (f p)
  | .emptyList column p => .emptyList column (f p)

def Context.move (c : Context) : Context := { c with stop := f c.stop }

/-- The answer with its error, and the tokens left, moved. -/
def moved {α : Type} : Except ParseError (α × List Token) → Except ParseError (α × List Token)
  | .ok (a, rest) => .ok (a, rest.map (Token.move f))
  | .error e => .error (e.move f)

/-- The parser `q` reads moved tokens as `p` reads them where they were. -/
def Moves {α : Type} (p q : Parser α) : Prop := ∀ ts, q (ts.map (Token.move f)) = moved f (p ts)

end

theorem ParseError.position_move (f : Nat → Nat) (e : ParseError) :
    (e.move f).position = f e.position := by
  cases e with
  | lex _ => rfl
  | grammar _ _ => rfl
  | unknownColumn _ _ => rfl
  | typeMismatch _ _ _ _ => rfl
  | emptyList _ _ => rfl

/-- Of two moves of an error only the second position is left. -/
theorem ParseError.move_move (f g : Nat → Nat) (e : ParseError) :
    (e.move f).move (fun _ => g e.position) = e.move g := by
  cases e with
  | lex _ => rfl
  | grammar _ _ => rfl
  | unknownColumn _ _ => rfl
  | typeMismatch _ _ _ _ => rfl
  | emptyList _ _ => rfl

theorem moved_map {α β : Type} (f : Nat → Nat) (g : α → β)
    (r : Except ParseError (α × List Token)) :
    (moved f r).map (fun (a, rest) => (g a, rest)) =
      moved f (r.map fun (a, rest) => (g a, rest)) := by
  cases r with
  | error e => rfl
  | ok r => rfl

namespace Context

variable (c : Context) (f : Nat → Nat)

theorem here_move (ts : List Token) :
    (c.move f).here (ts.map (Token.move f)) = f (c.here ts) := by
  cases ts with
  | nil => rfl
  | cons t ts => rfl

theorem expected_move (what : Expectation) (ts : List Token) :
    (c.move f).expected what (ts.map (Token.move f)) = (c.expected what ts).move f := by
  cases ts with
  | nil => rfl
  | cons t ts => rfl

theorem keyword_move (k : Keyword) (ts : List Token) :
    keyword? k (ts.map (Token.move f)) = (keyword? k ts).map (List.map (Token.move f)) := by
  cases ts with
  | nil => rfl
  | cons t ts =>
      rw [List.map_cons, keyword?, keyword?, Token.move]
      split <;> rfl

theorem optionalNot_move (ts : List Token) :
    optionalNot (ts.map (Token.move f)) =
      ((optionalNot ts).1, (optionalNot ts).2.map (Token.move f)) := by
  rw [optionalNot, optionalNot, keyword_move]
  cases keyword? .not ts with
  | none => rfl
  | some rest => rfl

/-! ## Literals -/

theorem literal_move (column : String) (k : Kind) :
    Moves f (c.literal column k) ((c.move f).literal column k) := by
  intro ts
  cases ts with
  | nil => rfl
  | cons t ts =>
      rw [List.map_cons, literal, literal, Token.move]
      dsimp only
      cases t.lexeme.written? with
      | none => rfl
      | some w =>
          dsimp only
          cases read k w with
          | error demand => rfl
          | ok l => rfl

theorem literals_move (column : String) (k : Kind) (close : Lexeme) : ∀ ts : List Token,
    (c.move f).literals column k close (ts.map (Token.move f)) =
      moved f (c.literals column k close ts)
  | [] => rfl
  | [t] => by
      have hliteral := c.literal_move f column k [t]
      rw [List.map_cons, List.map_nil] at hliteral ⊢
      rw [literals, literals, hliteral]
      cases c.literal column k [t] with
      | error e => rfl
      | ok r => rfl
  | t :: sep :: ts => by
      have hliteral := c.literal_move f column k (t :: sep :: ts)
      rw [List.map_cons, List.map_cons] at hliteral ⊢
      rw [literals, literals, hliteral]
      cases c.literal column k (t :: sep :: ts) with
      | error e => rfl
      | ok r =>
          change (if sep.lexeme = .comma then _ else if sep.lexeme = close then _ else _) =
            moved f (if sep.lexeme = .comma then _ else if sep.lexeme = close then _ else _)
          split
          · rw [literals_move column k close ts]
            exact moved_map f (r.1 :: ·) _
          · split
            · rfl
            · rfl

theorem list_move (column : String) (k : Kind) (position : Nat) :
    Moves f (c.list column k position) ((c.move f).list column k (f position)) := by
  intro ts
  cases ts with
  | nil => rfl
  | cons t ts =>
      have hhead : (ts.map (Token.move f)).head?.map Token.lexeme = ts.head?.map Token.lexeme := by
        rw [List.head?_map, Option.map_map]
        rfl
      rw [List.map_cons, list, list, Token.move, hhead]
      dsimp only
      cases closing? t.lexeme with
      | none => rfl
      | some close =>
          dsimp only
          split
          · rfl
          · exact c.literals_move f column k close ts

/-! ## Tests -/

theorem nullTest_move (column : String) :
    Moves f (c.nullTest column) ((c.move f).nullTest column) := by
  intro ts
  rw [nullTest, nullTest, optionalNot_move]
  dsimp only
  rw [keyword_move]
  cases keyword? .null (optionalNot ts).2 with
  | none => exact congrArg Except.error (c.expected_move f _ _)
  | some rest => rfl

theorem likeTest_move (negated : Bool) (column : String) (k : Kind) (position : Nat) :
    Moves f (c.likeTest negated column k position)
      ((c.move f).likeTest negated column k (f position)) := by
  intro ts
  rw [likeTest.eq_def, likeTest.eq_def]
  split
  · rfl
  · cases ts with
    | nil => rfl
    | cons t ts =>
        obtain ⟨l, p⟩ := t
        cases l <;> rfl

theorem memberTest_move (negated : Bool) (column : String) (k : Kind) (position : Nat) :
    Moves f (c.memberTest negated column k position)
      ((c.move f).memberTest negated column k (f position)) := by
  intro ts
  rw [memberTest, memberTest, c.list_move f column k position ts]
  exact moved_map f (fun values =>
    if negated then Expr.not (.leaf (.member column values))
    else Expr.leaf (.member column values)) _

theorem comparison_move (column : String) (k : Kind) :
    Moves f (c.comparison column k) ((c.move f).comparison column k) := by
  intro ts
  cases ts with
  | nil => rfl
  | cons t ts =>
      obtain ⟨l, p⟩ := t
      cases l with
      | operator op =>
          change Except.map _ ((c.move f).literal column k (ts.map (Token.move f))) = _
          rw [c.literal_move f column k ts]
          exact moved_map f (fun l => Expr.leaf (.compare op column l)) _
      | _ => rfl

theorem test_move (column : String) (k : Kind) :
    Moves f (c.test column k) ((c.move f).test column k) := by
  intro ts
  rw [test, test, keyword_move, optionalNot_move]
  cases keyword? .is ts with
  | some rest => exact c.nullTest_move f column rest
  | none =>
      dsimp only [Option.map_none]
      generalize optionalNot ts = r
      obtain ⟨negated, ts⟩ := r
      dsimp only
      rw [keyword_move, keyword_move, here_move]
      cases keyword? .like ts with
      | some rest => exact c.likeTest_move f negated column k (c.here ts) rest
      | none =>
          cases keyword? .in ts with
          | some rest => exact c.memberTest_move f negated column k (c.here ts) rest
          | none =>
              cases negated with
              | true => exact congrArg Except.error (c.expected_move f _ ts)
              | false => exact c.comparison_move f column k ts

theorem predicate_move : Moves f c.predicate (c.move f).predicate := by
  intro ts
  cases ts with
  | nil => rfl
  | cons t ts =>
      obtain ⟨l, p⟩ := t
      cases l with
      | identifier column =>
          have hschema : (c.move f).schema = c.schema := rfl
          rw [List.map_cons, Token.move, predicate, predicate, hschema]
          cases c.schema.find? column with
          | none => rfl
          | some field => exact c.test_move f column (kind field.type) ts
      | _ => rfl

/-! ## Trees -/

section
variable {p q : Parser Parsed}

theorem chain_move (k : Connective) (h : Moves f p q) (turns : Nat) : ∀ left : Parsed,
    Moves f (c.chain k p turns left) ((c.move f).chain k q turns left) := by
  induction turns with
  | zero =>
      intro left ts
      cases ts with
      | nil => rfl
      | cons t ts =>
          rw [List.map_cons, chain.eq_def, chain.eq_def]
          change (if t.lexeme = _ then _ else _) = moved f (if t.lexeme = _ then _ else _)
          split
          · rw [h ts]
            cases p ts with
            | error e => rfl
            | ok r =>
                change (if c.limit < _ then _ else _) = moved f (if c.limit < _ then _ else _)
                rw [ite_self, ite_self]
                rfl
          · rfl
  | succ turns ih =>
      intro left ts
      cases ts with
      | nil => rfl
      | cons t ts =>
          rw [List.map_cons, chain.eq_def, chain.eq_def]
          change (if t.lexeme = _ then _ else _) = moved f (if t.lexeme = _ then _ else _)
          split
          · rw [h ts]
            cases p ts with
            | error e => rfl
            | ok r =>
                change (if c.limit < _ then _ else _) = moved f (if c.limit < _ then _ else _)
                split
                · rfl
                · exact ih _ r.2
          · rfl

theorem chained_move (k : Connective) (h : Moves f p q) :
    Moves f (c.chained k p) ((c.move f).chained k q) := by
  intro ts
  rw [chained, chained, h ts]
  cases p ts with
  | error e => rfl
  | ok r => exact c.chain_move f k h c.limit r.1 r.2

theorem disjunction_move (h : Moves f p q) :
    Moves f (c.disjunction p) ((c.move f).disjunction q) :=
  c.chained_move f .or (c.chained_move f .and h)

theorem closeGroup_move (position : Nat) (inner : Parsed) :
    Moves f (c.closeGroup position inner) ((c.move f).closeGroup (f position) inner) := by
  intro ts
  cases ts with
  | nil => rfl
  | cons t ts =>
      rw [List.map_cons, closeGroup, closeGroup]
      change (if t.lexeme = _ then _ else _) = moved f (if t.lexeme = _ then _ else _)
      split
      · rfl
      · rfl

end

/-- A predicate where neither a negation nor a group begins. -/
theorem unary_predicate (room : Nat) {t : Token} {ts : List Token}
    (hnot : t.lexeme ≠ .keyword .not) (hopen : t.lexeme ≠ .openParen) :
    c.unary room (t :: ts) =
      (c.predicate (t :: ts)).map fun (e, rest) => (⟨e, e.depth⟩, rest) := by
  rw [unary]
  · rintro position rest heq
    cases heq
    exact hnot rfl
  · rintro position rest heq
    cases heq
    exact hopen rfl

theorem unary_predicate_move (room : Nat) {t : Token} {ts : List Token}
    (hnot : t.lexeme ≠ .keyword .not) (hopen : t.lexeme ≠ .openParen) :
    (c.move f).unary room ((t :: ts).map (Token.move f)) = moved f (c.unary room (t :: ts)) := by
  have hthere : (c.move f).unary room (t.move f :: ts.map (Token.move f)) = _ :=
    (c.move f).unary_predicate room hnot hopen
  rw [c.unary_predicate room hnot hopen, List.map_cons, hthere, ← List.map_cons,
    c.predicate_move f (t :: ts)]
  exact moved_map f (fun e => Parsed.mk e e.depth) _

theorem unary_move (room : Nat) : Moves f (c.unary room) ((c.move f).unary room) := by
  induction room with
  | zero =>
      intro ts
      cases ts with
      | nil => rfl
      | cons t ts =>
          by_cases hnot : t.lexeme = .keyword .not
          · obtain ⟨_, p⟩ := t
            cases hnot
            rw [List.map_cons, Token.move, unary, unary]
            rfl
          · by_cases hopen : t.lexeme = .openParen
            · obtain ⟨_, p⟩ := t
              cases hopen
              rw [List.map_cons, Token.move, unary, unary]
              rfl
            · exact c.unary_predicate_move f 0 hnot hopen
  | succ room ih =>
      intro ts
      cases ts with
      | nil => rfl
      | cons t ts =>
          by_cases hnot : t.lexeme = .keyword .not
          · obtain ⟨_, p⟩ := t
            cases hnot
            rw [List.map_cons, Token.move, unary, unary]
            dsimp only
            rw [ih ts]
            cases c.unary room ts with
            | error e => rfl
            | ok r =>
                change (if c.limit < _ then _ else _) = moved f (if c.limit < _ then _ else _)
                split
                · rfl
                · rfl
          · by_cases hopen : t.lexeme = .openParen
            · obtain ⟨_, p⟩ := t
              cases hopen
              rw [List.map_cons, Token.move, unary, unary]
              dsimp only
              rw [c.disjunction_move f ih ts]
              cases c.disjunction (c.unary room) ts with
              | error e => rfl
              | ok r => exact c.closeGroup_move f p r.1 r.2
            · exact c.unary_predicate_move f (room + 1) hnot hopen

/-- Moved tokens are read as the tokens are, with the positions of errors moved. -/
theorem filter_move (ts : List Token) :
    (c.move f).filter (ts.map (Token.move f)) = (c.filter ts).mapError (ParseError.move f) := by
  have hread := c.disjunction_move f (c.unary_move f c.limit) ts
  have hlimit : (c.move f).limit = c.limit := rfl
  rw [filter, filter, hlimit, hread]
  cases c.disjunction (c.unary c.limit) ts with
  | error e => rfl
  | ok r =>
      obtain ⟨parsed, rest⟩ := r
      cases rest with
      | nil => rfl
      | cons t rest =>
          change (if t.lexeme = _ then _ else _) =
            Except.mapError (ParseError.move f) (if t.lexeme = _ then _ else _)
          split
          · rfl
          · rfl

end Context

/-! ## Positions counted in tokens -/

/-- The byte the token of a number starts at; behind the last token, the end of the text. -/
def startOf (text : String) (ts : List Token) (i : Nat) : Nat :=
  (ts[i]?).elim text.utf8ByteSize Token.position

/-- The lexemes as tokens whose positions are their numbers. -/
def numbered (ls : List Lexeme) : List Token := ls.mapIdx fun i l => ⟨l, i⟩

theorem numbered_move (text : String) (ts : List Token) :
    (numbered (ts.map Token.lexeme)).map (Token.move (startOf text ts)) = ts := by
  refine List.ext_getElem (by simp [numbered]) fun i _ hi => ?_
  simp [numbered, Token.move, startOf, hi]

/-- A text is read by its lexemes, and then positions are put into the error. -/
theorem parse_numbered {text : String} {ts : List Token} (h : tokenize text = .ok ts)
    (schema : Schema) : parse schema text =
      (Context.filter ⟨schema, ts.length, maxDepth⟩ (numbered (ts.map Token.lexeme))).mapError
        (ParseError.move (startOf text ts)) := by
  have hstop : startOf text ts ts.length = text.utf8ByteSize := by
    rw [startOf, List.getElem?_eq_none (Nat.le_refl ts.length)]
    rfl
  rw [← Context.filter_move, numbered_move, parse, h, Context.move, hstop]

/-- Texts with the same lexemes are read alike. -/
theorem parse_alike {text text' : String} {ts ts' : List Token} (h : tokenize text = .ok ts)
    (h' : tokenize text' = .ok ts') (hsame : ts'.map Token.lexeme = ts.map Token.lexeme)
    (schema : Schema) :
    (∃ e, parse schema text = .ok e ∧ parse schema text' = .ok e) ∨
      ∃ err i, parse schema text = .error err ∧ err.position = startOf text ts i ∧
        parse schema text' = .error (err.move fun _ => startOf text' ts' i) := by
  have hlength : ts'.length = ts.length := by
    rw [← List.length_map Token.lexeme, hsame, List.length_map]
  rw [parse_numbered h, parse_numbered h', hsame, hlength]
  cases Context.filter ⟨schema, ts.length, maxDepth⟩ (numbered (ts.map Token.lexeme)) with
  | ok e => exact .inl ⟨e, rfl, rfl⟩
  | error err =>
      refine .inr ⟨_, err.position, rfl, err.position_move _, ?_⟩
      rw [err.move_move]
      rfl

end Columnar.Filter

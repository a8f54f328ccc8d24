/-
# `Proofs.Filter.Calls` — the parser, one call after the other

The parser of a phrase is told how much room is left for signs, and it
recurses on that room.  Here it is taken apart into what happens one moment
after the other: four procedures call each other, those that wait for an
answer stand on a stack, and a counter says how many signs `NOT` and `(` are
open.  The counter is changed in three places only: it grows when a sign is
taken, and it shrinks when the operand of a `NOT` has been read and when a
group is closed.  The height of a filter is counted as well, from the heights of
its parts and never from the tree.

`serves` says that nothing is lost: a call comes back exactly if the parser
reads a phrase, with what the parser reads, and else the parse fails with the
parser's error.  The induction is on the room that the counter leaves.
-/
import Columnar.Proofs.Filter.Parsing
import Mathlib.Logic.Relation

namespace Columnar.Filter

/-! ## Moments -/

/-- What calls each other: a procedure for each kind of phrase, and one for what `NOT` stands in
front of. -/
inductive Procedure where
  | phrase (p : Phrase)
  | primary

/-- A procedure that waits for the answer of the one it has called. -/
inductive Frame where
  /-- A chain waits for its first operand. -/
  | first (k : Connective)
  /-- A chain waits for the operand behind the keyword at the position. -/
  | next (k : Connective) (left : Parsed) (position : Nat)
  /-- A negation waits for its operand. -/
  | negation (position : Nat)
  /-- Without a `NOT` the answer is only handed on. -/
  | plain
  /-- A group waits for what its parentheses hold. -/
  | group (position : Nat)

namespace Frame

/-- The procedure that waits. -/
def caller : Frame → Procedure
  | first k => .phrase (.chain k)
  | next k _ _ => .phrase (.chain k)
  | negation _ => .phrase .unary
  | plain => .phrase .unary
  | group _ => .primary

/-- The procedure it has called. -/
def callee : Frame → Procedure
  | first k => .phrase k.operand
  | next k _ _ => .phrase k.operand
  | negation _ => .phrase .unary
  | plain => .primary
  | group _ => .phrase .filter

/-- The sign that stays open as long as the procedure waits. -/
def sign? : Frame → Option Token
  | negation position => some ⟨.keyword .not, position⟩
  | group position => some ⟨.openParen, position⟩
  | _ => none

end Frame

/-- What is going on. -/
inductive Control where
  | call (p : Procedure)
  /-- The sign at the position has just been counted, and `p` is to be called. -/
  | opened (position : Nat) (p : Procedure)
  /-- A chain has read `left` and looks for its keyword. -/
  | turn (k : Connective) (left : Parsed)
  | reply (r : Parsed)
  | failed (e : ParseError)

/-- A moment of a parse. -/
structure Moment where
  control : Control
  stack : List Frame
  rest : List Token
  nesting : Nat

/-- The height that a predicate is given: 2 for `NOT IN`, which wraps its test, and else 1. -/
def predicateHeight : Expr → Nat
  | .not _ => 2
  | _ => 1

namespace Context

variable (c : Context)

/-! ## Steps -/

/-- A procedure begins. -/
def enter (stack : List Frame) (n : Nat) : Procedure → List Token → Moment
  | .phrase (.chain k), ts => ⟨.call (.phrase k.operand), .first k :: stack, ts, n⟩
  | .phrase .unary, ⟨.keyword .not, position⟩ :: ts =>
    ⟨.opened position (.phrase .unary), .negation position :: stack, ts, n + 1⟩
  | .phrase .unary, ts => ⟨.call .primary, .plain :: stack, ts, n⟩
  | .primary, ⟨.openParen, position⟩ :: ts =>
    ⟨.opened position (.phrase .filter), .group position :: stack, ts, n + 1⟩
  | .primary, ts =>
    match c.predicate ts with
    | .error e => ⟨.failed e, stack, ts, n⟩
    | .ok (e, rest) => ⟨.reply ⟨e, predicateHeight e⟩, stack, rest, n⟩

/-- A chain that has read `left` goes on behind its keyword, or answers. -/
def turn (stack : List Frame) (n : Nat) (k : Connective) (left : Parsed) : List Token → Moment
  | t :: ts =>
    if t.lexeme = .keyword k.keyword then
      ⟨.call (.phrase k.operand), .next k left t.position :: stack, ts, n⟩
    else ⟨.reply left, stack, t :: ts, n⟩
  | [] => ⟨.reply left, stack, [], n⟩

/-- A procedure that has waited goes on with the answer. -/
def resume (stack : List Frame) (ts : List Token) (n : Nat) (r : Parsed) : Frame → Moment
  | .first k => ⟨.turn k r, stack, ts, n⟩
  | .next k left position =>
    let height := 1 + max left.depth r.depth
    if c.limit < height then ⟨.failed (tooDeep position), stack, ts, n⟩
    else ⟨.turn k ⟨.join k left.expr r.expr, height⟩, stack, ts, n⟩
  | .negation position =>
    -- The sign is closed first, whatever the height.
    if c.limit < r.depth + 1 then ⟨.failed (tooDeep position), stack, ts, n - 1⟩
    else ⟨.reply ⟨.not r.expr, r.depth + 1⟩, stack, ts, n - 1⟩
  | .plain => ⟨.reply r, stack, ts, n⟩
  | .group position =>
    match c.closeGroup position r ts with
    | .error e => ⟨.failed e, .group position :: stack, ts, n⟩
    | .ok (r, rest) => ⟨.reply r, stack, rest, n - 1⟩

/-- What comes next; nothing behind an error or the last answer. -/
def step : Moment → Option Moment
  | ⟨.call p, stack, ts, n⟩ => some (c.enter stack n p ts)
  | ⟨.opened position p, stack, ts, n⟩ =>
    if c.limit < n then some ⟨.failed (tooDeep position), stack, ts, n⟩
    else some ⟨.call p, stack, ts, n⟩
  | ⟨.turn k left, stack, ts, n⟩ => some (turn stack n k left ts)
  | ⟨.reply r, frame :: stack, ts, n⟩ => some (c.resume stack ts n r frame)
  | ⟨.reply _, [], _, _⟩ => none
  | ⟨.failed _, _, _, _⟩ => none

/-- One moment comes right behind the other. -/
def Step (m m' : Moment) : Prop := c.step m = some m'

/-- The parse comes from one moment to the other. -/
def Reaches : Moment → Moment → Prop := Relation.ReflTransGen c.Step

theorem reaches_step {m m' : Moment} (h : c.Step m m') : c.Reaches m m' := .single h

/-! ## What the procedures read -/

/-- A group or a predicate. -/
def primary (room : Nat) : Parser Parsed
  | ⟨.openParen, position⟩ :: rest =>
    match room with
    | 0 => .error (tooDeep position)
    | room + 1 =>
      match c.disjunction (c.unary room) rest with
      | .error e => .error e
      | .ok (inner, rest) => c.closeGroup position inner rest
  | ts => (c.predicate ts).map fun (e, rest) => (⟨e, e.depth⟩, rest)

/-- The parser of what a procedure reads; `room` signs may be opened. -/
def answer (room : Nat) : Procedure → Parser Parsed
  | .phrase p => c.phrase room p
  | .primary => c.primary room

theorem unary_eq_primary {room : Nat} {ts : List Token}
    (h : ∀ position rest, ts ≠ ⟨.keyword .not, position⟩ :: rest) :
    c.unary room ts = c.primary room ts := by
  rw [unary.eq_def]
  dsimp only
  split
  · next position rest => exact absurd rfl (h position rest)
  · cases room with
    | zero => rfl
    | succ room => rfl
  · next hopen =>
    rw [primary]
    exact hopen

theorem predicate_height {ts rest : List Token} {e : Expr} (h : c.predicate ts = .ok (e, rest)) :
    predicateHeight e = e.depth := by
  obtain ⟨column, f, ls, -, htests, -⟩ := (c.predicate_ok_iff).mp h
  cases htests with
  | compare _ => rfl
  | like _ _ => rfl
  | member _ => rfl
  | notMember _ => rfl
  | null => rfl

/-! ## Calls come back -/

/-- From the moment on the parse comes to what the parser answers: with a phrase to the reply, with
the same calls waiting and the same count of signs; with an error to the failure. -/
def ComesTo (m : Moment) (stack : List Frame) (n : Nat) :
    Except ParseError (Parsed × List Token) → Prop
  | .ok (r, rest) => c.Reaches m ⟨.reply r, stack, rest, n⟩
  | .error e => ∃ last, c.Reaches m last ∧ last.control = .failed e

/-- Every call of the procedure with `n` signs open comes to what the parser answers. -/
def Serves (n : Nat) (p : Procedure) : Prop :=
  ∀ stack ts, c.ComesTo ⟨.call p, stack, ts, n⟩ stack n (c.answer (c.limit - n) p ts)

section
variable {c} {m m' : Moment} {stack : List Frame} {n : Nat}

theorem ComesTo.after {outcome : Except ParseError (Parsed × List Token)} (h : c.Reaches m m')
    (hcomes : c.ComesTo m' stack n outcome) : c.ComesTo m stack n outcome := by
  cases outcome with
  | ok r => exact h.trans hcomes
  | error e =>
      obtain ⟨last, hlast, hfailed⟩ := hcomes
      exact ⟨last, h.trans hlast, hfailed⟩

theorem ComesTo.step {outcome : Except ParseError (Parsed × List Token)} (h : c.Step m m')
    (hcomes : c.ComesTo m' stack n outcome) : c.ComesTo m stack n outcome :=
  .after (c.reaches_step h) hcomes

theorem comesTo_failed {e : ParseError} (h : c.Step m m') (hfailed : m'.control = .failed e) :
    c.ComesTo m stack n (.error e) :=
  ⟨m', c.reaches_step h, hfailed⟩

/-- A call fails with the error of its parser, or what follows its reply decides. -/
theorem Serves.comesTo {count : Nat} {waiting : List Frame} {p : Procedure} {ts : List Token}
    {outcome : Except ParseError (Parsed × List Token)} (h : c.Serves count p)
    (herror : ∀ e, c.answer (c.limit - count) p ts = .error e → outcome = .error e)
    (hok : ∀ r rest, c.answer (c.limit - count) p ts = .ok (r, rest) →
      c.ComesTo ⟨.reply r, waiting, rest, count⟩ stack n outcome) :
    c.ComesTo ⟨.call p, waiting, ts, count⟩ stack n outcome := by
  have hcall := h waiting ts
  cases hanswer : c.answer (c.limit - count) p ts with
  | error e =>
      rw [hanswer] at hcall
      rw [herror e hanswer]
      exact hcall
  | ok r =>
      rw [hanswer] at hcall
      exact .after hcall (hok r.1 r.2 hanswer)

end

/-! ### Chains -/

section
variable {c} {n : Nat} {k : Connective} {stack : List Frame} {ts rest : List Token}

theorem turn_stop (h : keyword? k.keyword ts = none) (left : Parsed) :
    c.Step ⟨.turn k left, stack, ts, n⟩ ⟨.reply left, stack, ts, n⟩ := by
  cases ts with
  | nil => rfl
  | cons t ts =>
      rw [keyword?] at h
      split at h
      · cases h
      · next hne => rw [Step, step, turn, if_neg hne]

theorem turn_on (left : Parsed) (position : Nat) :
    c.Step ⟨.turn k left, stack, ⟨.keyword k.keyword, position⟩ :: ts, n⟩
      ⟨.call (.phrase k.operand), .next k left position :: stack, ts, n⟩ := by
  rw [Step, step, turn, if_pos rfl]

theorem resume_tooHigh {left right : Parsed} (h : c.limit < 1 + max left.depth right.depth)
    (position : Nat) : c.Step ⟨.reply right, .next k left position :: stack, rest, n⟩
      ⟨.failed (tooDeep position), stack, rest, n⟩ :=
  congrArg some (if_pos h)

theorem resume_join {left right : Parsed} (h : ¬ c.limit < 1 + max left.depth right.depth)
    (position : Nat) : c.Step ⟨.reply right, .next k left position :: stack, rest, n⟩
      ⟨.turn k ⟨.join k left.expr right.expr, 1 + max left.depth right.depth⟩, stack, rest, n⟩ :=
  congrArg some (if_neg h)

/-- A chain stops where its keyword is missing, and fails with its operand; where an operand has
been read, what follows decides. -/
theorem turn_comesTo (hoperand : c.Serves n (.phrase k.operand)) (turns : Nat) {left : Parsed}
    (hread : ∀ p after right rest, ts = ⟨.keyword k.keyword, p⟩ :: after →
      c.answer (c.limit - n) (.phrase k.operand) after = .ok (right, rest) →
      c.ComesTo ⟨.reply right, .next k left p :: stack, rest, n⟩ stack n
        (c.chain k (c.answer (c.limit - n) (.phrase k.operand)) turns left ts)) :
    c.ComesTo ⟨.turn k left, stack, ts, n⟩ stack n
      (c.chain k (c.answer (c.limit - n) (.phrase k.operand)) turns left ts) := by
  cases hkeyword : keyword? k.keyword ts with
  | none =>
      rw [c.chain_stop hkeyword]
      exact c.reaches_step (turn_stop hkeyword left)
  | some behind =>
      obtain ⟨p, after, rfl, rfl⟩ := keyword_some_iff.mp hkeyword
      refine .step (turn_on left p) (hoperand.comesTo (fun e he => c.chain_error he turns) ?_)
      intro right rest hright
      exact hread p after right rest rfl hright

/-- The turns of a chain end by themselves.  Where the parser has no turn left, one more makes the
tree too high, since every turn before has made it higher. -/
theorem turns_comeTo (hoperand : c.Serves n (.phrase k.operand)) (stack : List Frame)
    (turns : Nat) : ∀ {left : Parsed} {ts : List Token}, c.limit ≤ turns + left.depth →
      c.ComesTo ⟨.turn k left, stack, ts, n⟩ stack n
        (c.chain k (c.answer (c.limit - n) (.phrase k.operand)) turns left ts) := by
  induction turns with
  | zero =>
      intro left ts hturns
      refine turn_comesTo hoperand 0 ?_
      rintro p after right rest rfl hright
      rw [c.chain_out hright]
      exact comesTo_failed (resume_tooHigh (by omega) p) rfl
  | succ turns ih =>
      intro left ts hturns
      refine turn_comesTo hoperand (turns + 1) ?_
      rintro p after right rest rfl hright
      rw [c.chain_turn hright]
      split
      · next hhigh => exact comesTo_failed (resume_tooHigh hhigh p) rfl
      · next hhigh => exact .step (resume_join hhigh p) (ih (by dsimp only; omega))

theorem serves_chain (hoperand : c.Serves n (.phrase k.operand)) :
    c.Serves n (.phrase (.chain k)) := by
  intro stack ts
  rw [answer, phrase_chain, chained]
  have hbegin : c.Step ⟨.call (.phrase (.chain k)), stack, ts, n⟩
      ⟨.call (.phrase k.operand), .first k :: stack, ts, n⟩ := rfl
  refine .step hbegin (hoperand.comesTo ?_ ?_)
  · intro e he
    rw [answer] at he
    rw [he]
  · intro left rest hleft
    rw [answer] at hleft
    rw [hleft]
    have hfirst : c.Step ⟨.reply left, .first k :: stack, rest, n⟩
        ⟨.turn k left, stack, rest, n⟩ := rfl
    exact .step hfirst (turns_comeTo hoperand stack c.limit (Nat.le_add_right c.limit _))

end

/-! ### Predicates, groups and negations -/

section
variable {c} {n position : Nat} {p : Procedure} {stack : List Frame} {ts rest : List Token}

theorem opened_tooMany (h : c.limit < n) :
    c.Step ⟨.opened position p, stack, ts, n⟩ ⟨.failed (tooDeep position), stack, ts, n⟩ :=
  if_pos h

theorem opened_call (h : n ≤ c.limit) :
    c.Step ⟨.opened position p, stack, ts, n⟩ ⟨.call p, stack, ts, n⟩ :=
  if_neg (Nat.not_lt.mpr h)

/-- What is no group is read as a predicate, without a call. -/
theorem predicate_comesTo (h : ∀ position rest, ts ≠ ⟨.openParen, position⟩ :: rest) :
    c.ComesTo ⟨.call .primary, stack, ts, n⟩ stack n (c.primary (c.limit - n) ts) := by
  have henter : c.step ⟨.call .primary, stack, ts, n⟩ = some (match c.predicate ts with
      | .error e => ⟨.failed e, stack, ts, n⟩
      | .ok (e, rest) => ⟨.reply ⟨e, predicateHeight e⟩, stack, rest, n⟩) := by
    rw [step, enter]
    exact h
  have hprimary : c.primary (c.limit - n) ts =
      (c.predicate ts).map fun (e, rest) => (⟨e, e.depth⟩, rest) := by
    rw [primary]
    exact h
  rw [hprimary]
  cases hpredicate : c.predicate ts with
  | error e =>
      rw [hpredicate] at henter
      exact comesTo_failed henter rfl
  | ok r =>
      obtain ⟨e, rest⟩ := r
      rw [hpredicate] at henter
      dsimp only at henter
      rw [c.predicate_height hpredicate] at henter
      exact c.reaches_step henter

/-- A group that has been read is closed, or the parenthesis is missing. -/
theorem group_comesTo (inner : Parsed) :
    c.ComesTo ⟨.reply inner, .group position :: stack, rest, n + 1⟩ stack n
      (c.closeGroup position inner rest) := by
  have hresume : c.step ⟨.reply inner, .group position :: stack, rest, n + 1⟩ =
      some (match c.closeGroup position inner rest with
      | .error e => ⟨.failed e, .group position :: stack, rest, n + 1⟩
      | .ok (r, rest) => ⟨.reply r, stack, rest, n⟩) := rfl
  cases hclose : c.closeGroup position inner rest with
  | error e =>
      rw [hclose] at hresume
      exact comesTo_failed hresume rfl
  | ok r =>
      rw [hclose] at hresume
      exact c.reaches_step hresume

/-- A sign is one too many, or the call behind it decides; `outcome` says what becomes of the room
in front of the sign. -/
theorem opened_comesTo {waiting : List Frame}
    (outcome : Nat → Except ParseError (Parsed × List Token))
    (hserves : n < c.limit → c.Serves (n + 1) p) (hnone : outcome 0 = .error (tooDeep position))
    (herror : ∀ room e, c.answer room p ts = .error e → outcome (room + 1) = .error e)
    (hok : ∀ room r rest, c.answer room p ts = .ok (r, rest) →
      c.ComesTo ⟨.reply r, waiting, rest, n + 1⟩ stack n (outcome (room + 1))) :
    c.ComesTo ⟨.opened position p, waiting, ts, n + 1⟩ stack n (outcome (c.limit - n)) := by
  by_cases hroom : n < c.limit
  · have hleft : c.limit - n = c.limit - (n + 1) + 1 := by omega
    rw [hleft]
    exact .step (opened_call hroom) ((hserves hroom).comesTo (herror _) (hok _))
  · have hleft : c.limit - n = 0 := by omega
    rw [hleft, hnone]
    exact comesTo_failed (opened_tooMany (by omega)) rfl

theorem serves_primary (hfilter : n < c.limit → c.Serves (n + 1) (.phrase .filter)) :
    c.Serves n .primary := by
  intro stack ts
  rw [answer]
  by_cases hopen : ∃ position rest, ts = ⟨.openParen, position⟩ :: rest
  · obtain ⟨position, rest, rfl⟩ := hopen
    have hstep : c.Step ⟨.call .primary, stack, ⟨.openParen, position⟩ :: rest, n⟩
        ⟨.opened position (.phrase .filter), .group position :: stack, rest, n + 1⟩ := rfl
    refine .step hstep (opened_comesTo (fun room => c.primary room (⟨.openParen, position⟩ :: rest))
      hfilter rfl ?_ ?_)
    · intro room e he
      rw [answer, phrase] at he
      rw [primary, he]
    · intro room inner after hinner
      rw [answer, phrase] at hinner
      rw [primary, hinner]
      exact group_comesTo inner
  · exact predicate_comesTo fun position rest heq => hopen ⟨position, rest, heq⟩

/-- The operand of a negation has been read; the tree may be too high. -/
theorem negation_comesTo (inner : Parsed) :
    c.ComesTo ⟨.reply inner, .negation position :: stack, rest, n + 1⟩ stack n
      (if c.limit < inner.depth + 1 then .error (tooDeep position)
        else .ok (⟨.not inner.expr, inner.depth + 1⟩, rest)) := by
  split
  · next hhigh => exact comesTo_failed (congrArg some (if_pos hhigh)) rfl
  · next hhigh => exact c.reaches_step (congrArg some (if_neg hhigh))

theorem serves_unary (hunary : n < c.limit → c.Serves (n + 1) (.phrase .unary))
    (hprimary : c.Serves n .primary) : c.Serves n (.phrase .unary) := by
  intro stack ts
  rw [answer, phrase]
  by_cases hnot : ∃ position rest, ts = ⟨.keyword .not, position⟩ :: rest
  · obtain ⟨position, rest, rfl⟩ := hnot
    have hstep : c.Step ⟨.call (.phrase .unary), stack, ⟨.keyword .not, position⟩ :: rest, n⟩
        ⟨.opened position (.phrase .unary), .negation position :: stack, rest, n + 1⟩ := rfl
    refine .step hstep (opened_comesTo
      (fun room => c.unary room (⟨.keyword .not, position⟩ :: rest)) hunary (by rw [unary]) ?_ ?_)
    · intro room e he
      rw [answer, phrase] at he
      rw [unary, he]
    · intro room inner after hinner
      rw [answer, phrase] at hinner
      rw [unary, hinner]
      exact negation_comesTo inner
  · have hplain : ∀ position rest, ts ≠ ⟨.keyword .not, position⟩ :: rest :=
      fun position rest heq => hnot ⟨position, rest, heq⟩
    have henter : c.Step ⟨.call (.phrase .unary), stack, ts, n⟩
        ⟨.call .primary, .plain :: stack, ts, n⟩ := by
      rw [Step, step, enter]
      exact hplain
    rw [c.unary_eq_primary hplain]
    refine .step henter (hprimary.comesTo (fun e he => he) ?_)
    intro r after hr
    rw [answer] at hr
    rw [hr]
    exact c.reaches_step rfl

end

/-- What the next sign opens is served by the calls behind it. -/
theorem serves_of_deeper {n : Nat} (h : n < c.limit → ∀ p, c.Serves (n + 1) p) (p : Procedure) :
    c.Serves n p := by
  have hprimary : c.Serves n .primary := serves_primary fun hn => h hn _
  have hunary : c.Serves n (.phrase .unary) := serves_unary (fun hn => h hn _) hprimary
  have hand : c.Serves n (.phrase (.chain .and)) := serves_chain hunary
  cases p with
  | primary => exact hprimary
  | phrase p =>
      cases p with
      | unary => exact hunary
      | chain k =>
          cases k with
          | and => exact hand
          | or => exact serves_chain hand

/-- A call of any procedure, with any number of signs open, comes to what its parser answers with
the room that is left. -/
theorem serves (n : Nat) (p : Procedure) : c.Serves n p := by
  induction hroom : c.limit - n generalizing n p with
  | zero => exact c.serves_of_deeper (fun hn => by omega) p
  | succ room ih => exact c.serves_of_deeper (fun _ p => ih (n + 1) p (by omega)) p

end Context

end Columnar.Filter

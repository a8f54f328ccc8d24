/-
# `Proofs.Filter.Nesting` — what the counters of the parser count

Three things are kept from moment to moment of a parse.  The counter of signs
says how many of the procedures that wait have taken a `NOT` or a `(`; it is at
most one more than the limit, and only where the parse is about to fail for
it.  The signs that are open stand in their order among the tokens that have
been taken.  And every procedure that waits has called the one above it, so
there are at most four calls to a sign (`Waits.length_le`): the stack is
bounded by the limit, whatever the text.

Calls end because a procedure is called again only behind more tokens.  From one
call to the next procedures come in one order as long as no token is taken
(`Control.rank`), so a cycle takes one.
-/
import Columnar.Proofs.Filter.Calls

namespace Columnar.Filter

/-- The parse of all tokens begins: no procedure waits, and no sign is open. -/
def Moment.start (ts : List Token) : Moment := ⟨.call (.phrase .filter), [], ts, 0⟩

/-- The signs `NOT` and `(` that are open, the last one first. -/
def opened (stack : List Frame) : List Token := stack.filterMap Frame.sign?

/-- Each procedure that waits has called the one above it; `p` is at work. -/
def Waits : Procedure → List Frame → Prop
  | _, [] => True
  | p, frame :: stack => frame.callee = p ∧ Waits frame.caller stack

/-- How deep a procedure is among those that no sign stands between. -/
def Procedure.level : Procedure → Nat
  | .phrase (.chain .or) => 0
  | .phrase (.chain .and) => 1
  | .phrase .unary => 2
  | .primary => 3

theorem Procedure.level_le (p : Procedure) : p.level ≤ 3 := by
  cases p with
  | primary => exact Nat.le_refl 3
  | phrase p =>
      cases p with
      | unary => exact Nat.le_succ 2
      | chain k => cases k <;> decide

theorem Procedure.level_operand (k : Connective) :
    level (.phrase k.operand) = level (.phrase (.chain k)) + 1 := by
  cases k with
  | and => rfl
  | or => rfl

/-- What a chain that waits has read. -/
def Frame.left? : Frame → Option Parsed
  | next _ left _ => some left
  | _ => none

namespace Control

/-- The procedure at work, where it is to be seen. -/
def procedure? : Control → Option Procedure
  | call p => some p
  | opened _ p => some p
  | turn k _ => some (.phrase (.chain k))
  | reply _ => none
  | failed _ => none

/-- What has been read and is at hand. -/
def parsed? : Control → Option Parsed
  | turn _ left => some left
  | reply r => some r
  | _ => none

/-- The order in which control passes as long as no token is taken. -/
def rank : Control → Nat
  | opened _ _ => 5
  | call p => 4 - p.level
  | _ => 0

/-- How far beyond the limit the signs may be: by one, before and after it is noticed. -/
def excess : Control → Nat
  | opened _ _ => 1
  | failed _ => 1
  | _ => 0

end Control

/-! ## What can happen -/

/-- The steps of a parse, each with what it asks for. -/
inductive Happens (c : Context) : Moment → Moment → Prop
  | chain {k : Connective} {stack : List Frame} {ts : List Token} {n : Nat} :
      Happens c ⟨.call (.phrase (.chain k)), stack, ts, n⟩
        ⟨.call (.phrase k.operand), .first k :: stack, ts, n⟩
  | takeNot {position n : Nat} {stack : List Frame} {ts : List Token} :
      Happens c ⟨.call (.phrase .unary), stack, ⟨.keyword .not, position⟩ :: ts, n⟩
        ⟨.opened position (.phrase .unary), .negation position :: stack, ts, n + 1⟩
  | plain {stack : List Frame} {ts : List Token} {n : Nat} :
      Happens c ⟨.call (.phrase .unary), stack, ts, n⟩ ⟨.call .primary, .plain :: stack, ts, n⟩
  | takeOpen {position n : Nat} {stack : List Frame} {ts : List Token} :
      Happens c ⟨.call .primary, stack, ⟨.openParen, position⟩ :: ts, n⟩
        ⟨.opened position (.phrase .filter), .group position :: stack, ts, n + 1⟩
  | predicate {e : Expr} {stack : List Frame} {ts rest : List Token} {n : Nat} :
      c.predicate ts = .ok (e, rest) → Happens c ⟨.call .primary, stack, ts, n⟩
        ⟨.reply ⟨e, predicateHeight e⟩, stack, rest, n⟩
  | noPredicate {e : ParseError} {stack : List Frame} {ts : List Token} {n : Nat} :
      c.predicate ts = .error e →
      Happens c ⟨.call .primary, stack, ts, n⟩ ⟨.failed e, stack, ts, n⟩
  | tooMany {position n : Nat} {p : Procedure} {stack : List Frame} {ts : List Token} :
      c.limit < n → Happens c ⟨.opened position p, stack, ts, n⟩
        ⟨.failed (Context.tooDeep position), stack, ts, n⟩
  | admitted {position n : Nat} {p : Procedure} {stack : List Frame} {ts : List Token} :
      n ≤ c.limit → Happens c ⟨.opened position p, stack, ts, n⟩ ⟨.call p, stack, ts, n⟩
  | takeKeyword {k : Connective} {left : Parsed} {t : Token} {stack : List Frame}
      {ts : List Token} {n : Nat} : t.lexeme = .keyword k.keyword →
      Happens c ⟨.turn k left, stack, t :: ts, n⟩
        ⟨.call (.phrase k.operand), .next k left t.position :: stack, ts, n⟩
  | lastOperand {k : Connective} {left : Parsed} {stack : List Frame} {ts : List Token} {n : Nat} :
      Context.keyword? k.keyword ts = none →
      Happens c ⟨.turn k left, stack, ts, n⟩ ⟨.reply left, stack, ts, n⟩
  | firstOperand {k : Connective} {r : Parsed} {stack : List Frame} {ts : List Token} {n : Nat} :
      Happens c ⟨.reply r, .first k :: stack, ts, n⟩ ⟨.turn k r, stack, ts, n⟩
  | join {k : Connective} {left r : Parsed} {position n : Nat} {stack : List Frame}
      {ts : List Token} : 1 + max left.depth r.depth ≤ c.limit →
      Happens c ⟨.reply r, .next k left position :: stack, ts, n⟩
        ⟨.turn k ⟨.join k left.expr r.expr, 1 + max left.depth r.depth⟩, stack, ts, n⟩
  | joinTooHigh {k : Connective} {left r : Parsed} {position n : Nat} {stack : List Frame}
      {ts : List Token} : c.limit < 1 + max left.depth r.depth →
      Happens c ⟨.reply r, .next k left position :: stack, ts, n⟩
        ⟨.failed (Context.tooDeep position), stack, ts, n⟩
  | negate {r : Parsed} {position n : Nat} {stack : List Frame} {ts : List Token} :
      r.depth + 1 ≤ c.limit → Happens c ⟨.reply r, .negation position :: stack, ts, n⟩
        ⟨.reply ⟨.not r.expr, r.depth + 1⟩, stack, ts, n - 1⟩
  | negationTooHigh {r : Parsed} {position n : Nat} {stack : List Frame} {ts : List Token} :
      c.limit < r.depth + 1 → Happens c ⟨.reply r, .negation position :: stack, ts, n⟩
        ⟨.failed (Context.tooDeep position), stack, ts, n - 1⟩
  | handOn {r : Parsed} {stack : List Frame} {ts : List Token} {n : Nat} :
      Happens c ⟨.reply r, .plain :: stack, ts, n⟩ ⟨.reply r, stack, ts, n⟩
  | close {r : Parsed} {t : Token} {position n : Nat} {stack : List Frame} {ts : List Token} :
      t.lexeme = .closeParen → Happens c ⟨.reply r, .group position :: stack, t :: ts, n⟩
        ⟨.reply r, stack, ts, n - 1⟩
  | unclosed {e : ParseError} {r : Parsed} {position n : Nat} {stack : List Frame}
      {ts : List Token} : c.closeGroup position r ts = .error e →
      Happens c ⟨.reply r, .group position :: stack, ts, n⟩
        ⟨.failed e, .group position :: stack, ts, n⟩

namespace Context

variable {c : Context} {m m' : Moment}

section
variable {stack : List Frame} {ts : List Token} {n : Nat}

theorem happens_enter (p : Procedure) :
    Happens c ⟨.call p, stack, ts, n⟩ (c.enter stack n p ts) := by
  rw [enter.eq_def]
  split
  · exact .chain
  · exact .takeNot
  · exact .plain
  · exact .takeOpen
  · split
    · next hpredicate => exact .noPredicate hpredicate
    · next hpredicate => exact .predicate hpredicate

theorem happens_turn (k : Connective) (left : Parsed) :
    Happens c ⟨.turn k left, stack, ts, n⟩ (turn stack n k left ts) := by
  cases ts with
  | nil => exact .lastOperand rfl
  | cons t ts =>
      rw [turn]
      split
      · next hkeyword => exact .takeKeyword hkeyword
      · next hkeyword => exact .lastOperand (if_neg hkeyword)

theorem happens_resume (r : Parsed) (frame : Frame) :
    Happens c ⟨.reply r, frame :: stack, ts, n⟩ (c.resume stack ts n r frame) := by
  cases frame with
  | first k => exact .firstOperand
  | next k left position =>
      rw [resume]
      split
      · next hhigh => exact .joinTooHigh hhigh
      · next hhigh => exact .join (Nat.le_of_not_lt hhigh)
  | negation position =>
      rw [resume]
      split
      · next hhigh => exact .negationTooHigh hhigh
      · next hhigh => exact .negate (Nat.le_of_not_lt hhigh)
  | plain => exact .handOn
  | group position =>
      rw [resume]
      split
      · next hclose => exact .unclosed hclose
      · next hclose =>
        obtain ⟨rfl, p, rest, rfl, rfl⟩ := (c.closeGroup_ok_iff).mp hclose
        exact .close rfl

end

theorem happens_of_step (h : c.Step m m') : Happens c m m' := by
  obtain ⟨control, stack, ts, n⟩ := m
  cases control with
  | call p =>
      cases Option.some.inj h
      exact happens_enter p
  | opened position p =>
      rw [Step, step] at h
      split at h
      · next hmany =>
        cases h
        exact .tooMany hmany
      · next hmany =>
        cases h
        exact .admitted (Nat.le_of_not_lt hmany)
  | turn k left =>
      cases Option.some.inj h
      exact happens_turn k left
  | reply r =>
      cases stack with
      | nil => cases h
      | cons frame stack =>
          cases Option.some.inj h
          exact happens_resume r frame
  | failed e => cases h

end Context

/-! ## What is kept -/

section
variable {c : Context} {m m' : Moment}

/-- The counter goes with the signs on the stack. -/
theorem Happens.counted (h : Happens c m m') (hm : m.nesting = (opened m.stack).length) :
    m'.nesting = (opened m'.stack).length := by
  cases h with
  | takeNot => exact congrArg (· + 1) hm
  | takeOpen => exact congrArg (· + 1) hm
  | negate _ => exact congrArg (· - 1) hm
  | negationTooHigh _ => exact congrArg (· - 1) hm
  | close _ => exact congrArg (· - 1) hm
  | _ => exact hm

/-- One sign too many is counted, and ends the parse. -/
theorem Happens.capped (h : Happens c m m') (hm : m.nesting ≤ c.limit + m.control.excess) :
    m'.nesting ≤ c.limit + m'.control.excess := by
  cases h with
  | takeNot => exact Nat.succ_le_succ hm
  | takeOpen => exact Nat.succ_le_succ hm
  | admitted hroom => exact hroom
  | negate _ => exact Nat.le_trans (Nat.sub_le _ 1) hm
  | negationTooHigh _ => exact Nat.le_trans (Nat.sub_le _ 1) (Nat.le_succ_of_le hm)
  | close _ => exact Nat.le_trans (Nat.sub_le _ 1) hm
  | noPredicate _ => exact Nat.le_succ_of_le hm
  | joinTooHigh _ => exact Nat.le_succ_of_le hm
  | unclosed _ => exact Nat.le_succ_of_le hm
  | _ => exact hm

/-- Whichever procedure is at work has been called by the one that waits last. -/
def Moment.Stacked (m : Moment) : Prop :=
  ∃ p, (∀ q ∈ m.control.procedure?, q = p) ∧ Waits p m.stack

theorem Moment.Stacked.waits (h : m.Stacked) {p : Procedure} (hp : m.control.procedure? = some p) :
    Waits p m.stack := by
  obtain ⟨q, hq, hwaits⟩ := h
  rw [hq p hp]
  exact hwaits

theorem Happens.stacked (h : Happens c m m') (hm : m.Stacked) : m'.Stacked := by
  -- What answers is no longer to be seen, so nothing is asked of it.
  have hidden {p : Procedure} : ∀ q ∈ (none : Option Procedure), q = p := fun _ hq => nomatch hq
  have seen {p : Procedure} : ∀ q ∈ some p, q = p := fun q hq => (Option.some.inj hq).symm
  have hwaits {p : Procedure} := hm.waits (p := p)
  obtain ⟨p, hp, hbehind⟩ := hm
  cases h with
  | chain => exact ⟨_, seen, rfl, hwaits rfl⟩
  | takeNot => exact ⟨_, seen, rfl, hwaits rfl⟩
  | plain => exact ⟨_, seen, rfl, hwaits rfl⟩
  | takeOpen => exact ⟨_, seen, rfl, hwaits rfl⟩
  | takeKeyword _ => exact ⟨_, seen, rfl, hwaits rfl⟩
  | admitted _ => exact ⟨p, hp, hbehind⟩
  | firstOperand => exact ⟨_, seen, hbehind.2⟩
  | join _ => exact ⟨_, seen, hbehind.2⟩
  | joinTooHigh _ => exact ⟨_, hidden, hbehind.2⟩
  | negate _ => exact ⟨_, hidden, hbehind.2⟩
  | negationTooHigh _ => exact ⟨_, hidden, hbehind.2⟩
  | handOn => exact ⟨_, hidden, hbehind.2⟩
  | close _ => exact ⟨_, hidden, hbehind.2⟩
  | _ => exact ⟨p, hidden, hbehind⟩

/-- Between two signs at most four procedures call each other. -/
theorem Waits.length_le {p : Procedure} {stack : List Frame} (h : Waits p stack) :
    stack.length ≤ 4 * (opened stack).length + p.level := by
  induction stack generalizing p with
  | nil => exact Nat.zero_le _
  | cons frame stack ih =>
      obtain ⟨rfl, hstack⟩ := h
      have hle := ih hstack
      rw [List.length_cons]
      cases frame with
      | first k =>
          rw [Frame.callee, Procedure.level_operand]
          exact Nat.succ_le_succ hle
      | next k left position =>
          rw [Frame.callee, Procedure.level_operand]
          exact Nat.succ_le_succ hle
      | plain => exact Nat.succ_le_succ hle
      | negation position =>
          have hcalls : stack.length ≤ 4 * (opened stack).length + 2 := hle
          show stack.length + 1 ≤ 4 * ((opened stack).length + 1) + 2
          omega
      | group position =>
          have hcalls : stack.length ≤ 4 * (opened stack).length + 3 := hle
          show stack.length + 1 ≤ 4 * ((opened stack).length + 1) + 0
          omega

theorem exists_taken {ls : List Lexeme} {ts rest : List Token} (h : Takes ls ts rest)
    (hne : ls ≠ []) : ∃ taken, taken ≠ [] ∧ ts = taken ++ rest := by
  obtain ⟨taken, hts, rfl⟩ := takes_iff.mp h
  refine ⟨taken, ?_, hts⟩
  rintro rfl
  exact hne rfl

/-- A predicate takes the name of its column at least. -/
theorem Context.predicate_taken {ts rest : List Token} {e : Expr}
    (h : c.predicate ts = .ok (e, rest)) : ∃ taken, taken ≠ [] ∧ ts = taken ++ rest := by
  obtain ⟨column, f, ls, -, -, htakes⟩ := (c.predicate_ok_iff).mp h
  exact exists_taken htakes (List.cons_ne_nil _ _)

/-- The signs that are open are among the tokens taken, in the order in which they were taken. -/
def Moment.Behind (ts : List Token) (m : Moment) : Prop :=
  ∃ taken, ts = taken ++ m.rest ∧ (opened m.stack).reverse.Sublist taken

section
variable {ts : List Token}

/-- Tokens are taken, and none of them stays open. -/
theorem Moment.Behind.take (hm : m.Behind ts) (taken : List Token) {rest : List Token}
    {control : Control} {n : Nat} (hrest : m.rest = taken ++ rest) {stack : List Frame}
    (hstack : (opened stack).reverse.Sublist (opened m.stack).reverse) :
    Moment.Behind ts ⟨control, stack, rest, n⟩ := by
  obtain ⟨before, hts, hsub⟩ := hm
  refine ⟨before ++ taken, ?_, ?_⟩
  · rw [hts, hrest, List.append_assoc]
  · exact (hstack.trans hsub).trans (List.sublist_append_left before taken)

/-- A sign is taken, and stays open. -/
theorem Moment.Behind.open {t : Token} {rest : List Token} {control : Control} {n : Nat}
    {frame : Frame} (hm : m.Behind ts) (hrest : m.rest = t :: rest) (hsign : frame.sign? = some t) :
    Moment.Behind ts ⟨control, frame :: m.stack, rest, n⟩ := by
  obtain ⟨before, hts, hsub⟩ := hm
  refine ⟨before ++ [t], ?_, ?_⟩
  · rw [hts, hrest, List.append_assoc, List.singleton_append]
  · dsimp only
    rw [opened, List.filterMap_cons_some hsign, List.reverse_cons]
    exact hsub.append_right [t]

theorem Happens.behind (h : Happens c m m') (hm : m.Behind ts) : m'.Behind ts := by
  have closed (t : Token) (open' : List Token) :
      open'.reverse.Sublist (t :: open').reverse := by
    rw [List.reverse_cons]
    exact List.sublist_append_left _ _
  cases h with
  | takeNot => exact hm.open rfl rfl
  | takeOpen => exact hm.open rfl rfl
  | predicate hpredicate =>
      obtain ⟨taken, -, hrest⟩ := Context.predicate_taken hpredicate
      exact hm.take taken hrest (.refl _)
  | @takeKeyword _ _ t _ _ _ _ => exact hm.take [t] rfl (.refl _)
  | negate _ => exact hm.take [] rfl (closed _ _)
  | negationTooHigh _ => exact hm.take [] rfl (closed _ _)
  | @close _ t _ _ _ _ _ => exact hm.take [t] rfl (closed _ _)
  | _ => exact hm.take [] rfl (.refl _)

end

/-- The height that is counted is that of the tree, and within the limit. -/
def Parsed.Measured (limit : Nat) (r : Parsed) : Prop :=
  r.depth = r.expr.depth ∧ r.depth ≤ limit

/-- So are all heights that are at hand. -/
def Moment.Measured (limit : Nat) (m : Moment) : Prop :=
  (∀ r ∈ m.control.parsed?, r.Measured limit) ∧
    ∀ frame ∈ m.stack, ∀ r ∈ frame.left?, r.Measured limit

theorem Context.predicate_measured (hlimit : 2 ≤ c.limit) {ts rest : List Token} {e : Expr}
    (h : c.predicate ts = .ok (e, rest)) : Parsed.Measured c.limit ⟨e, predicateHeight e⟩ := by
  obtain ⟨column, f, ls, -, htests, -⟩ := (c.predicate_ok_iff).mp h
  have hheight := c.predicate_height h
  exact ⟨hheight, Nat.le_trans (hheight ▸ htests.depth_le) hlimit⟩

theorem Happens.measured (hlimit : 2 ≤ c.limit) (h : Happens c m m')
    (hm : m.Measured c.limit) : m'.Measured c.limit := by
  have nothing : ∀ r ∈ (none : Option Parsed), r.Measured c.limit := fun _ hr => nomatch hr
  have only {left : Parsed} (hleft : left.Measured c.limit) :
      ∀ r ∈ some left, r.Measured c.limit := fun _ hr => Option.some.inj hr ▸ hleft
  obtain ⟨hcontrol, hstack⟩ := hm
  have hframe := fun frame (hmem : frame ∈ m.stack.tail) => hstack frame (List.mem_of_mem_tail hmem)
  cases h with
  | chain => exact ⟨nothing, List.forall_mem_cons.mpr ⟨nothing, hstack⟩⟩
  | takeNot => exact ⟨nothing, List.forall_mem_cons.mpr ⟨nothing, hstack⟩⟩
  | plain => exact ⟨nothing, List.forall_mem_cons.mpr ⟨nothing, hstack⟩⟩
  | takeOpen => exact ⟨nothing, List.forall_mem_cons.mpr ⟨nothing, hstack⟩⟩
  | takeKeyword _ => exact ⟨nothing, List.forall_mem_cons.mpr ⟨hcontrol, hstack⟩⟩
  | predicate hpredicate => exact ⟨only (c.predicate_measured hlimit hpredicate), hstack⟩
  | lastOperand _ => exact ⟨hcontrol, hstack⟩
  | firstOperand => exact ⟨hcontrol, hframe⟩
  | @join k left r position _ _ _ hheight =>
      have hleft : left.Measured c.limit := hstack _ List.mem_cons_self left rfl
      have hright : r.Measured c.limit := hcontrol r rfl
      refine ⟨only ⟨?_, hheight⟩, hframe⟩
      rw [Expr.depth, hleft.1, hright.1]
  | @negate r _ _ _ _ hheight =>
      have hinner : r.Measured c.limit := hcontrol r rfl
      refine ⟨only ⟨?_, hheight⟩, hframe⟩
      rw [Expr.depth, hinner.1]
  | handOn => exact ⟨hcontrol, hframe⟩
  | close _ => exact ⟨hcontrol, hframe⟩
  | joinTooHigh _ => exact ⟨nothing, hframe⟩
  | negationTooHigh _ => exact ⟨nothing, hframe⟩
  | _ => exact ⟨nothing, hstack⟩

/-! ## Every moment of a parse -/

/-- What holds of every moment of the parse of `ts`. -/
structure Moment.Holds (c : Context) (ts : List Token) (m : Moment) : Prop where
  counted : m.nesting = (opened m.stack).length
  capped : m.nesting ≤ c.limit + m.control.excess
  stacked : m.Stacked
  behind : m.Behind ts
  measured : m.Measured c.limit

theorem Moment.holds_start (c : Context) (ts : List Token) : Moment.Holds c ts (.start ts) where
  counted := rfl
  capped := Nat.zero_le _
  stacked := ⟨_, fun _ hq => (Option.some.inj hq).symm, trivial⟩
  behind := ⟨[], rfl, .slnil⟩
  measured := ⟨fun _ hr => (nomatch hr), fun _ hframe => (nomatch hframe)⟩

theorem Happens.holds (hlimit : 2 ≤ c.limit) {ts : List Token} (h : Happens c m m')
    (hm : m.Holds c ts) : m'.Holds c ts where
  counted := h.counted hm.counted
  capped := h.capped hm.capped
  stacked := h.stacked hm.stacked
  behind := h.behind hm.behind
  measured := h.measured hlimit hm.measured

theorem Context.holds_of_reaches (hlimit : 2 ≤ c.limit) {ts : List Token}
    (h : c.Reaches (.start ts) m) : m.Holds c ts := by
  induction h with
  | refl => exact Moment.holds_start c ts
  | tail _ hstep ih => exact (c.happens_of_step hstep).holds hlimit ih

theorem Moment.Holds.nesting_le {ts : List Token} (h : m.Holds c ts) : m.nesting ≤ c.limit + 1 := by
  have hexcess : m.control.excess ≤ 1 := by
    cases m.control with
    | opened _ _ => exact Nat.le_refl 1
    | failed _ => exact Nat.le_refl 1
    | call _ => exact Nat.zero_le 1
    | turn _ _ => exact Nat.zero_le 1
    | reply _ => exact Nat.zero_le 1
  exact Nat.le_trans h.capped (Nat.add_le_add_left hexcess _)

theorem Moment.Holds.stack_le {ts : List Token} (h : m.Holds c ts) :
    m.stack.length ≤ 4 * (c.limit + 1) + 3 := by
  obtain ⟨p, -, hwaits⟩ := h.stacked
  have hnesting : (opened m.stack).length ≤ c.limit + 1 := h.counted ▸ h.nesting_le
  calc m.stack.length ≤ 4 * (opened m.stack).length + p.level := hwaits.length_le
    _ ≤ 4 * (c.limit + 1) + 3 := Nat.add_le_add (Nat.mul_le_mul_left 4 hnesting) p.level_le

/-! ## Why calls end -/

/-- A token has been taken, or control has passed on to what comes later in the order. -/
def Advances (m m' : Moment) : Prop :=
  m'.rest.length < m.rest.length ∨
    (m'.rest.length = m.rest.length ∧
      (m'.control.rank < m.control.rank ∨ m'.control.rank = 0))

theorem Happens.advances (h : Happens c m m') : Advances m m' := by
  cases h with
  | @chain k _ _ _ =>
      refine .inr ⟨rfl, .inl ?_⟩
      cases k with
      | and => exact Nat.lt_succ_self 2
      | or => exact Nat.lt_succ_self 3
  | takeNot => exact .inl (Nat.lt_succ_self _)
  | plain => exact .inr ⟨rfl, .inl (Nat.lt_succ_self 1)⟩
  | takeOpen => exact .inl (Nat.lt_succ_self _)
  | predicate hpredicate =>
      obtain ⟨taken, hne, rfl⟩ := c.predicate_taken hpredicate
      refine .inl ?_
      rw [List.length_append]
      exact Nat.lt_add_of_pos_left (List.length_pos_iff.mpr hne)
  | @admitted _ _ p _ _ _ => exact .inr ⟨rfl, .inl (Nat.lt_succ_of_le (Nat.sub_le 4 p.level))⟩
  | takeKeyword _ => exact .inl (Nat.lt_succ_self _)
  | close _ => exact .inl (Nat.lt_succ_self _)
  | _ => exact .inr ⟨rfl, .inr rfl⟩

theorem Advances.trans {m'' : Moment} (h : Advances m m') (h' : Advances m' m'') :
    Advances m m'' := by
  unfold Advances at *
  omega

theorem advances_of_transGen (h : Relation.TransGen c.Step m m') : Advances m m' := by
  induction h with
  | single hstep => exact (c.happens_of_step hstep).advances
  | tail _ hstep ih => exact ih.trans (c.happens_of_step hstep).advances

/-- From one call of a procedure to the next a token is taken. -/
theorem rest_lt_of_cycle {p : Procedure} (hm : m.control = .call p) (hm' : m'.control = .call p)
    (h : Relation.TransGen c.Step m m') : m'.rest.length < m.rest.length := by
  have hpos : 0 < (Control.call p).rank := Nat.sub_pos_of_lt (Nat.lt_succ_of_le p.level_le)
  rcases advances_of_transGen h with htaken | ⟨-, hrank | hrank⟩
  · exact htaken
  · rw [hm, hm'] at hrank
    exact absurd hrank (Nat.lt_irrefl _)
  · rw [hm'] at hrank
    exact absurd hrank (Nat.ne_of_gt hpos)

end

/-! ## What the procedures answer -/

theorem Derives.ne_nil {s : Schema} {p : Phrase} {ls : List Lexeme} {n : Nat} {e : Expr}
    (h : Derives s p ls n e) : ls ≠ [] := by
  induction h with
  | predicate _ _ => exact List.cons_ne_nil _ _
  | not _ _ => exact List.cons_ne_nil _ _
  | group _ _ => exact List.cons_ne_nil _ _
  | one _ ih => exact ih
  | more _ _ _ _ => exact List.append_ne_nil_of_right_ne_nil _ (List.cons_ne_nil _ _)

namespace Context

variable (c : Context)

theorem phrase_sound (hlimit : 2 ≤ c.limit) {room : Nat} {p : Phrase} {ts rest : List Token}
    {r : Parsed} (h : c.phrase room p ts = .ok (r, rest)) : c.Reads room p ts r rest := by
  cases p with
  | unary => exact c.unary_sound hlimit h
  | chain k =>
      cases k with
      | and => exact c.chained_sound (k := .and) (c.unary_sound hlimit) h
      | or => exact c.disjunction_sound (c.unary_sound hlimit) h

theorem Reads.measured {room : Nat} {p : Phrase} {ts rest : List Token} {r : Parsed}
    (h : c.Reads room p ts r rest) :
    r.Measured c.limit ∧ ∃ taken, taken ≠ [] ∧ ts = taken ++ rest := by
  obtain ⟨ls, n, htakes, hderives, -, hdepth⟩ := h
  exact ⟨hdepth, exists_taken htakes hderives.ne_nil⟩

/-- What any procedure reads has the height it says, and is not empty. -/
theorem answer_measured (hlimit : 2 ≤ c.limit) {room : Nat} {p : Procedure} {ts rest : List Token}
    {r : Parsed} (h : c.answer room p ts = .ok (r, rest)) :
    r.Measured c.limit ∧ ∃ taken, taken ≠ [] ∧ ts = taken ++ rest := by
  cases p with
  | phrase p => exact (c.phrase_sound hlimit h).measured
  | primary =>
      have hnot : ∀ position after, ts ≠ ⟨.keyword .not, position⟩ :: after := by
        rintro position after rfl
        cases h
      rw [answer, ← c.unary_eq_primary hnot] at h
      exact (c.unary_sound hlimit h).measured

theorem parse_ends (ts : List Token) :
    ∃ last, c.Reaches (.start ts) last ∧ c.step last = none := by
  have hcomes := c.serves 0 (.phrase .filter) [] ts
  cases hanswer : c.answer (c.limit - 0) (.phrase .filter) ts with
  | ok r =>
      rw [hanswer] at hcomes
      exact ⟨_, hcomes, rfl⟩
  | error e =>
      rw [hanswer] at hcomes
      obtain ⟨⟨control, stack, rest, n⟩, hlast, rfl⟩ := hcomes
      exact ⟨_, hlast, rfl⟩

end Context

/-- The counters of the parser are exact.  A procedure that reads a phrase, with any calls waiting
and any signs open, takes some tokens and answers with the signs it has found open; one that does
not read a phrase fails.  At every moment the counter of signs is the number of those that are open,
which are among the tokens taken in their order, and at most one more than the limit; the heights
that are counted are those of the trees; and no more procedures wait than the limit allows.  A
procedure is called again only behind more tokens, and every parse ends. -/
theorem counters_exact (s : Schema) (stop : Nat) :
    let c : Context := ⟨s, stop, maxDepth⟩
    (∀ p stack n ts,
      (∀ r rest, c.answer (maxDepth - n) p ts = .ok (r, rest) →
        c.Reaches ⟨.call p, stack, ts, n⟩ ⟨.reply r, stack, rest, n⟩ ∧
          r.depth = r.expr.depth ∧ r.depth ≤ maxDepth ∧ ∃ taken, taken ≠ [] ∧ ts = taken ++ rest) ∧
      ∀ e, c.answer (maxDepth - n) p ts = .error e →
        ∃ last, c.Reaches ⟨.call p, stack, ts, n⟩ last ∧ last.control = .failed e) ∧
    (∀ ts m, c.Reaches (.start ts) m →
      m.nesting = (opened m.stack).length ∧ m.nesting ≤ maxDepth + 1 ∧
        (∃ taken, ts = taken ++ m.rest ∧ (opened m.stack).reverse.Sublist taken) ∧
        m.stack.length ≤ 4 * (maxDepth + 1) + 3 ∧
        ∀ r, m.control = .reply r → r.depth = r.expr.depth ∧ r.depth ≤ maxDepth) ∧
    (∀ p m m', m.control = .call p → m'.control = .call p → Relation.TransGen c.Step m m' →
      m'.rest.length < m.rest.length) ∧
    ∀ ts, ∃ last, c.Reaches (.start ts) last ∧ c.step last = none := by
  intro c
  refine ⟨fun p stack n ts => ⟨?_, ?_⟩, ?_, fun _ _ _ => rest_lt_of_cycle, c.parse_ends⟩
  · intro r rest hanswer
    have hcomes := c.serves n p stack ts
    rw [hanswer] at hcomes
    obtain ⟨⟨hdepth, hle⟩, htaken⟩ := c.answer_measured two_le_maxDepth hanswer
    exact ⟨hcomes, hdepth, hle, htaken⟩
  · intro e hanswer
    have hcomes := c.serves n p stack ts
    rw [hanswer] at hcomes
    exact hcomes
  · intro ts m hreaches
    have hholds := c.holds_of_reaches two_le_maxDepth hreaches
    refine ⟨hholds.counted, hholds.nesting_le, hholds.behind, hholds.stack_le, ?_⟩
    intro r hreply
    exact hholds.measured.1 r (by rw [hreply]; rfl)

/-- The tokens of `NOT (a IS NULL)`. -/
def negatedGroup : List Token :=
  [⟨.keyword .not, 0⟩, ⟨.openParen, 4⟩, ⟨.identifier "a", 5⟩, ⟨.keyword .is, 7⟩,
    ⟨.keyword .null, 10⟩, ⟨.closeParen, 14⟩]

/-- The filter calls itself with two signs open, and answers with none. -/
theorem counters_exact_negatedGroup :
    let c : Context := ⟨[⟨"a", .text false, true⟩], 15, maxDepth⟩
    ∃ inner : Moment, inner.control = .call (.phrase .filter) ∧
      c.Reaches (.start negatedGroup) inner ∧ inner.nesting = 2 ∧
      inner.nesting = (opened inner.stack).length ∧
      inner.rest.length < (Moment.start negatedGroup).rest.length ∧
      c.Reaches (.start negatedGroup) ⟨.reply ⟨.not (.leaf (.null false "a")), 2⟩, [], [], 0⟩ := by
  intro c
  let inner : Moment := ⟨.call (.phrase .filter),
    [.group 4, .plain, .negation 0, .first .and, .first .or], negatedGroup.drop 2, 2⟩
  have hrun : Relation.TransGen c.Step (.start negatedGroup) inner :=
    .head rfl (.head rfl (.head rfl (.head rfl (.head rfl (.head rfl (.single rfl))))))
  obtain ⟨hanswers, hmoments, hcycles, -⟩ := counters_exact [⟨"a", .text false, true⟩] 15
  have hanswer : c.answer (maxDepth - 0) (.phrase .filter) negatedGroup =
      .ok (⟨.not (.leaf (.null false "a")), 2⟩, []) := rfl
  exact ⟨inner, rfl, hrun.to_reflTransGen, rfl, (hmoments _ _ hrun.to_reflTransGen).1,
    hcycles _ _ _ rfl rfl hrun, ((hanswers _ [] 0 _).1 _ _ hanswer).1⟩

end Columnar.Filter

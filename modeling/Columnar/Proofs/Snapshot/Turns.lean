/-
# `Proofs.Snapshot.Turns` — a split, one turn after the other

A split is two loops: one goes over the segments, the other tries fewer and
fewer rows for one of them.  Neither knows beforehand how often it turns, and
what is tried is guessed from numbers that need not be accurate.  So a split is
taken apart here into its turns, and in every turn any guess may be made.  The
operations that are not defined everywhere are asked for what they are not
defined on, and then the split has panicked: a difference below zero, bounds
out of order, a slice of rows that are not there.

What a turn does to a split that keeps its promises is said once (`Turn`);
panicking is not among it.  Turns end because a weight goes down with each of
them (`Stage.weight`), whatever is guessed.  The split that runs makes the turns
that its own guesses lead to, and never lacks one (`follows_splitFrom`).
-/
import Columnar.Proofs.Snapshot.RoundTrip
import Mathlib.Logic.Relation

namespace Columnar.Snapshot

/-! ## Stages -/

/-- Where a split is. -/
inductive Stage where
  /-- Between two segments: `offset` rows are in those that are done, the last one first. -/
  | between (offset : Nat) (done : List Segment)
  /-- A segment of `rows` rows is about to be tried. -/
  | trying (offset rows : Nat) (done : List Segment)
  | finished (segments : List Segment)
  | refused (e : FormatError) (before : List Segment)
  /-- An operation was asked for what it is not defined on. -/
  | panicked

/-- A difference that may not be below zero. -/
def difference? (m n : Nat) : Option Nat := if n ≤ m then some (m - n) else none

/-- `clamp`, which asks for bounds in order. -/
def clamp? (n low high : Nat) : Option Nat := if low ≤ high then some (clamp n low high) else none

/-- A slice, which asks for rows that are there. -/
def slice? (b : Batch) (offset rows : Nat) : Option Batch :=
  if offset + rows ≤ b.rows then some (b.slice offset rows) else none

/-- How many rows are tried first: as guessed, but some if there are any, and no more than there
are. -/
def firstRows? (b : Batch) (offset guess : Nat) : Option Nat :=
  (difference? b.rows offset).bind fun remaining => clamp? guess (min remaining 1) remaining

/-- How many rows are tried next: as guessed, but fewer than before. -/
def fewerRows? (rows guess : Nat) : Option Nat :=
  (difference? rows 1).bind fun high => clamp? guess 1 high

/-- The stage behind a stream of rows: it fits, or fewer rows are tried, or there are no fewer. -/
def Stage.behind (limit guess offset rows : Nat) (done : List Segment) (payload : Bytes) : Stage :=
  if payload.length ≤ limit then
    .between (offset + rows) (⟨rows, Columnar.checksum payload, payload⟩ :: done)
  else if rows ≤ 1 then .refused (.rowTooLarge offset payload.length limit) done.reverse
  else
    match fewerRows? rows guess with
    | some rows => .trying offset rows done
    | none => .panicked

/-- The next stage, where a guess is made or not; none behind the end. -/
def Stage.next? (limit : Nat) (b : Batch) (guess : Nat) : Stage → Option Stage
  | between offset done =>
    if offset < b.rows || done.isEmpty then
      match firstRows? b offset guess with
      | some rows => some (.trying offset rows done)
      | none => some .panicked
    else some (.finished done.reverse)
  | trying offset rows done =>
    match slice? b offset rows with
    | some part => some (.behind limit guess offset rows done (Wire.encodeBatch part))
    | none => some .panicked
  | finished _ => none
  | refused _ _ => none
  | panicked => none

/-- One stage comes right behind the other, with some guess. -/
def Step (limit : Nat) (b : Batch) (s s' : Stage) : Prop :=
  ∃ guess, s.next? limit b guess = some s'

/-- A split comes from one stage to the other, whatever is guessed. -/
def Reaches (limit : Nat) (b : Batch) : Stage → Stage → Prop :=
  Relation.ReflTransGen (Step limit b)

/-! ## Operations that are defined -/

section
variable {b : Batch} {offset rows : Nat}

theorem firstRows?_eq (h : offset ≤ b.rows) (guess : Nat) : firstRows? b offset guess =
    some (clamp guess (min (b.rows - offset) 1) (b.rows - offset)) := by
  rw [firstRows?, difference?, if_pos h, Option.bind_some, clamp?, if_pos (Nat.min_le_left _ 1)]

theorem fewerRows?_eq (h : 1 < rows) (guess : Nat) :
    fewerRows? rows guess = some (clamp guess 1 (rows - 1)) := by
  rw [fewerRows?, difference?, if_pos (Nat.le_of_lt h), Option.bind_some, clamp?,
    if_pos (Nat.le_sub_one_of_lt h)]

variable {limit : Nat} {done : List Segment}

theorem next_between (hoffset : offset ≤ b.rows) (hmore : done = [] ∨ offset < b.rows)
    (guess : Nat) : (Stage.between offset done).next? limit b guess = some (.trying offset
      (clamp guess (min (b.rows - offset) 1) (b.rows - offset)) done) := by
  have hcondition : (offset < b.rows || done.isEmpty) = true := by
    rw [Bool.or_eq_true, decide_eq_true_eq, List.isEmpty_iff]
    exact hmore.symm
  rw [Stage.next?, if_pos hcondition, firstRows?_eq hoffset]

theorem next_done (hdone : done ≠ []) (hend : b.rows ≤ offset) (guess : Nat) :
    (Stage.between offset done).next? limit b guess = some (.finished done.reverse) := by
  have hcondition : ¬ (offset < b.rows || done.isEmpty) = true := by
    rw [Bool.or_eq_true, decide_eq_true_eq, List.isEmpty_iff, not_or, Nat.not_lt]
    exact ⟨hend, hdone⟩
  rw [Stage.next?, if_neg hcondition]

theorem next_trying (h : offset + rows ≤ b.rows) (done : List Segment) (guess : Nat) :
    (Stage.trying offset rows done).next? limit b guess =
      some (.behind limit guess offset rows done (encodeRange b offset rows)) := by
  rw [Stage.next?, slice?, if_pos h, encodeRange]

end

/-! ## What turns do -/

/-- The turns of a split that keeps its promises. -/
inductive Turn (limit : Nat) (b : Batch) : Stage → Stage → Prop
  | start {offset rows : Nat} {done : List Segment} : done = [] ∨ offset < b.rows →
      min (b.rows - offset) 1 ≤ rows → rows ≤ b.rows - offset →
      Turn limit b (.between offset done) (.trying offset rows done)
  | finish {offset : Nat} {done : List Segment} : done ≠ [] → b.rows ≤ offset →
      Turn limit b (.between offset done) (.finished done.reverse)
  | commit {offset rows : Nat} {done : List Segment} :
      (encodeRange b offset rows).length ≤ limit →
      Turn limit b (.trying offset rows done)
        (.between (offset + rows) (segmentOf b offset rows :: done))
  | retry {offset rows fewer : Nat} {done : List Segment} :
      limit < (encodeRange b offset rows).length → 1 ≤ fewer → fewer < rows →
      Turn limit b (.trying offset rows done) (.trying offset fewer done)
  | refuse {offset rows : Nat} {done : List Segment} :
      limit < (encodeRange b offset rows).length → rows ≤ 1 →
      Turn limit b (.trying offset rows done)
        (.refused (.rowTooLarge offset (encodeRange b offset rows).length limit) done.reverse)

/-- The segments that are done are so many that no row is in two, and one more in an empty batch. -/
structure Kept (b : Batch) (offset : Nat) (done : List Segment) : Prop where
  inside : offset ≤ b.rows
  start : done = [] → offset = 0
  count : done.length ≤ offset + (1 - b.rows)

/-- What a split promises at a stage. -/
def Stage.Fits (b : Batch) : Stage → Prop
  | between offset done => Kept b offset done
  | trying offset rows done =>
    Kept b offset done ∧ (done = [] ∨ offset < b.rows) ∧ min (b.rows - offset) 1 ≤ rows ∧
      offset + rows ≤ b.rows
  | finished segments => segments.length ≤ max 1 b.rows
  | refused _ before => before.length < max 1 b.rows
  | panicked => False

section
variable {limit guess : Nat} {b : Batch} {s s' : Stage}

theorem turn_behind {offset rows : Nat} {done : List Segment} {payload : Bytes}
    (h : payload = encodeRange b offset rows) :
    Turn limit b (.trying offset rows done) (.behind limit guess offset rows done payload) := by
  subst h
  rw [Stage.behind]
  split
  · next hfits => exact .commit hfits
  · next hfits =>
    have hlong := Nat.lt_of_not_le hfits
    split
    · next hfew => exact .refuse hlong hfew
    · next hmany =>
      have hrows : 1 < rows := Nat.lt_of_not_le hmany
      rw [fewerRows?_eq hrows]
      have hhigh := clamp_le (n := guess) (Nat.le_sub_one_of_lt hrows)
      exact .retry hlong (le_clamp guess 1 _) (Nat.lt_of_le_sub_one (Nat.lt_of_succ_lt hrows) hhigh)

/-- A split that keeps its promises does not panic. -/
theorem turn_of_next (hs : s.Fits b) (h : s.next? limit b guess = some s') : Turn limit b s s' := by
  cases s with
  | between offset done =>
      by_cases hmore : done = [] ∨ offset < b.rows
      · rw [next_between hs.inside hmore] at h
        cases h
        exact .start hmore (le_clamp guess _ _) (clamp_le (Nat.min_le_left _ 1))
      · obtain ⟨hdone, hend⟩ := not_or.mp hmore
        rw [next_done hdone (Nat.le_of_not_lt hend)] at h
        cases h
        exact .finish hdone (Nat.le_of_not_lt hend)
  | trying offset rows done =>
      rw [next_trying hs.2.2.2] at h
      cases h
      exact turn_behind rfl
  | finished segments => cases h
  | refused e before => cases h
  | panicked => cases h

theorem Turn.fits (h : Turn limit b s s') (hs : s.Fits b) : s'.Fits b := by
  cases h with
  | start hmore hlow hhigh =>
      have hinside := hs.inside
      exact ⟨hs, hmore, hlow, by omega⟩
  | finish _ hend =>
      have hcount := hs.count
      have hinside := hs.inside
      rw [Stage.Fits, List.length_reverse]
      omega
  | commit _ =>
      obtain ⟨hkept, hmore, hlow, hrows⟩ := hs
      refine ⟨hrows, fun hnil => absurd hnil (List.cons_ne_nil _ _), ?_⟩
      have hcount := hkept.count
      rw [List.length_cons]
      rcases hmore with rfl | hmore
      · rw [List.length_nil]
        omega
      · omega
  | retry _ hone hfewer =>
      obtain ⟨hkept, hmore, -, hrows⟩ := hs
      exact ⟨hkept, hmore, Nat.le_trans (Nat.min_le_right _ 1) hone, by omega⟩
  | refuse _ _ =>
      obtain ⟨hkept, hmore, -, hrows⟩ := hs
      have hcount := hkept.count
      rw [Stage.Fits, List.length_reverse]
      rcases hmore with rfl | hmore
      · rw [List.length_nil]
        omega
      · omega

theorem fits_start (b : Batch) : (Stage.between 0 []).Fits b :=
  ⟨Nat.zero_le _, fun _ => rfl, Nat.zero_le _⟩

theorem fits_of_reaches (h : Reaches limit b (.between 0 []) s) : s.Fits b := by
  induction h with
  | refl => exact fits_start b
  | tail _ hstep ih =>
      obtain ⟨guess, hnext⟩ := hstep
      exact (turn_of_next ih hnext).fits ih

end

/-! ## Why turns end -/

/-- How many segments there may still be: one for each row that is left, and the first one in any
case. -/
def due (b : Batch) (offset : Nat) (done : List Segment) : Nat :=
  b.rows - offset + (1 - done.length)

/-- What goes down with every turn.  While a segment is tried its share has been paid, but for the
rows that may still be given up. -/
def Stage.weight (b : Batch) : Stage → Nat
  | between offset done => (b.rows + 2) * due b offset done + 1
  | trying offset rows done => (b.rows + 2) * (due b offset done - 1) + rows + 2
  | _ => 0

section
variable {limit : Nat} {b : Batch} {s s' : Stage}

theorem due_pos {offset : Nat} {done : List Segment} (h : done = [] ∨ offset < b.rows) :
    0 < due b offset done := by
  rw [due]
  rcases h with rfl | h
  · rw [List.length_nil]
    omega
  · omega

/-- A segment that is done has paid its share. -/
theorem due_commit {offset rows : Nat} {done : List Segment} (segment : Segment)
    (hmore : done = [] ∨ offset < b.rows) (hlow : min (b.rows - offset) 1 ≤ rows) :
    due b (offset + rows) (segment :: done) ≤ due b offset done - 1 := by
  rw [due, due, List.length_cons]
  rcases hmore with rfl | hmore
  · rw [List.length_nil]
    omega
  · omega

theorem Turn.weight_lt (h : Turn limit b s s') (hs : s.Fits b) : s'.weight b < s.weight b := by
  cases h with
  | @start offset rows done hmore _ hhigh =>
      have hshare : (b.rows + 2) * (due b offset done - 1) + (b.rows + 2) =
          (b.rows + 2) * due b offset done := by
        rw [← Nat.mul_add_one, Nat.sub_add_cancel (due_pos hmore)]
      show (b.rows + 2) * (due b offset done - 1) + rows + 2 < (b.rows + 2) * due b offset done + 1
      omega
  | finish _ _ => exact Nat.succ_pos _
  | @commit offset rows done _ =>
      obtain ⟨-, hmore, hlow, -⟩ := hs
      have hshare := Nat.mul_le_mul_left (b.rows + 2)
        (due_commit (segmentOf b offset rows) hmore hlow)
      show (b.rows + 2) * due b (offset + rows) (segmentOf b offset rows :: done) + 1 <
        (b.rows + 2) * (due b offset done - 1) + rows + 2
      omega
  | retry _ _ hfewer => exact Nat.add_lt_add_right (Nat.add_lt_add_left hfewer _) 2
  | refuse _ _ => exact Nat.succ_pos _

/-- No split makes more turns than it weighs at first. -/
theorem turns_le (run : Nat → Stage) (hstart : run 0 = .between 0 []) (n : Nat)
    (hrun : ∀ i < n, Step limit b (run i) (run (i + 1))) :
    n ≤ (b.rows + 2) * (b.rows + 1) + 1 := by
  have hweight : (run n).Fits b ∧
      n + (run n).weight b ≤ (Stage.between 0 []).weight b := by
    induction n with
    | zero =>
        rw [hstart, Nat.zero_add]
        exact ⟨fits_start b, Nat.le_refl _⟩
    | succ n ih =>
        obtain ⟨hfits, hle⟩ := ih fun i hi => hrun i (Nat.lt_succ_of_lt hi)
        obtain ⟨guess, hnext⟩ := hrun n (Nat.lt_succ_self n)
        have hturn := turn_of_next hfits hnext
        have hlt := hturn.weight_lt hfits
        exact ⟨hturn.fits hfits, by omega⟩
  exact Nat.le_trans (Nat.le_add_right n _) hweight.2

end

/-! ## The turns of the split that runs -/

/-- The guess that is made at a stage. -/
def Guess.offer (g : Guess) (b : Batch) : Stage → Nat
  | .trying offset rows _ => g.next rows (encodeRange b offset rows).length
  | _ => g.first

/-- One stage comes right behind the other with the guesses of `g`. -/
def Follows (g : Guess) (limit : Nat) (b : Batch) : Stage → Stage → Prop :=
  Relation.ReflTransGen fun s s' => s.next? limit b (g.offer b s) = some s'

section
variable {g : Guess} {limit : Nat} {b : Batch}

theorem Follows.reaches {s s' : Stage} (h : Follows g limit b s s') : Reaches limit b s s' :=
  Relation.ReflTransGen.mono (p := Step limit b) (fun _ _ hnext => ⟨_, hnext⟩) _ _ h

/-- What trying rows comes to. -/
def FitFollows (g : Guess) (limit : Nat) (b : Batch) (offset : Nat) (done : List Segment)
    (s : Stage) : Except FormatError (Nat × Bytes) → Prop
  | .ok (rows, payload) => Follows g limit b s
      (.between (offset + rows) (⟨rows, Columnar.checksum payload, payload⟩ :: done))
  | .error e => Follows g limit b s (.refused e done.reverse)

theorem FitFollows.step {offset : Nat} {done : List Segment} {s s' : Stage}
    {outcome : Except FormatError (Nat × Bytes)} (h : s.next? limit b (g.offer b s) = some s')
    (hfollows : FitFollows g limit b offset done s' outcome) :
    FitFollows g limit b offset done s outcome := by
  cases outcome with
  | ok r => exact .head h hfollows
  | error e => exact .head h hfollows

/-- A try: the rows fit, or there is only one, or fewer are tried, for which the bound is enough. -/
theorem fit_cases {offset bound rows : Nat} (h : rows ≤ bound) :
    ((encodeRange b offset rows).length ≤ limit ∧
      fit g limit b offset bound rows = .ok (rows, encodeRange b offset rows)) ∨
    (limit < (encodeRange b offset rows).length ∧ rows ≤ 1 ∧ fit g limit b offset bound rows =
      .error (.rowTooLarge offset (encodeRange b offset rows).length limit)) ∨
    (limit < (encodeRange b offset rows).length ∧ 1 < rows ∧
      fit g limit b offset bound rows = fit g limit b offset (bound - 1)
        (clamp (g.next rows (encodeRange b offset rows).length) 1 (rows - 1))) := by
  rw [fit.eq_def]
  dsimp only
  split
  · next hfits => exact .inl ⟨hfits, rfl⟩
  · next hfits =>
    have hlong := Nat.lt_of_not_le hfits
    cases bound with
    | zero => exact .inr (.inl ⟨hlong, Nat.le_trans h (Nat.zero_le 1), rfl⟩)
    | succ bound =>
        dsimp only
        split
        · next hfew => exact .inr (.inl ⟨hlong, hfew, rfl⟩)
        · next hmany => exact .inr (.inr ⟨hlong, Nat.lt_of_not_le hmany, rfl⟩)

/-- Trying rows never stops for its bound: there are fewer of them each time. -/
theorem follows_fit {offset : Nat} {done : List Segment} {rows : Nat} : ∀ {bound : Nat},
    rows ≤ bound → offset + rows ≤ b.rows →
    FitFollows g limit b offset done (.trying offset rows done)
      (fit g limit b offset bound rows) := by
  induction rows using Nat.strongRecOn with
  | ind rows ih =>
      intro bound hbound hrows
      refine .step (next_trying hrows done _) ?_
      rw [Stage.behind]
      rcases fit_cases (g := g) (b := b) hbound with
        ⟨hfits, hfit⟩ | ⟨hlong, hfew, hfit⟩ | ⟨hlong, hmany, hfit⟩
      · rw [if_pos hfits, hfit]
        exact .refl
      · rw [if_neg (Nat.not_le_of_lt hlong), if_pos hfew, hfit]
        exact .refl
      · rw [if_neg (Nat.not_le_of_lt hlong), if_neg (Nat.not_le_of_lt hmany), fewerRows?_eq hmany,
          hfit]
        have hhigh := clamp_le (n := g.offer b (.trying offset rows done))
          (Nat.le_sub_one_of_lt hmany)
        exact ih _ (by omega) (by omega) (by omega)

/-- Where a split ends. -/
def Ends (g : Guess) (limit : Nat) (b : Batch) (s : Stage) :
    Except (FormatError × List Segment) (List Segment) → Prop
  | .ok segments => Follows g limit b s (.finished segments)
  | .error (e, before) => Follows g limit b s (.refused e before)

theorem Ends.after {s s' : Stage} {outcome : Except (FormatError × List Segment) (List Segment)}
    (h : Follows g limit b s s') (hends : Ends g limit b s' outcome) :
    Ends g limit b s outcome := by
  cases outcome with
  | ok segments => exact h.trans hends
  | error e => exact h.trans hends

/-- A turn of the outer loop: the segment that is found is committed, or the split is refused. -/
theorem follows_segment (g : Guess) (limit : Nat) {offset : Nat} {done : List Segment}
    (hoffset : offset ≤ b.rows) (hmore : done = [] ∨ offset < b.rows) :
    match nextSegment g limit b offset with
    | .ok s => Follows g limit b (.between offset done) (.between (offset + s.rows) (s :: done))
    | .error e => Follows g limit b (.between offset done) (.refused e done.reverse) := by
  have htry := clamp_le (n := g.first) (Nat.min_le_left (b.rows - offset) 1)
  have hinside : offset + clamp g.first (min (b.rows - offset) 1) (b.rows - offset) ≤ b.rows := by
    omega
  have hstart : FitFollows g limit b offset done (.between offset done)
      (fit g limit b offset (b.rows - offset)
        (clamp g.first (min (b.rows - offset) 1) (b.rows - offset))) :=
    .step (next_between hoffset hmore _) (follows_fit htry hinside)
  rw [nextSegment]
  dsimp only
  cases houtcome : fit g limit b offset (b.rows - offset)
      (clamp g.first (min (b.rows - offset) 1) (b.rows - offset)) with
  | ok r =>
      rw [houtcome] at hstart
      exact hstart
  | error e =>
      rw [houtcome] at hstart
      exact hstart

/-- The bound of the outer loop is never the reason why it ends. -/
theorem follows_splitFrom : ∀ {bound offset : Nat} {done : List Segment},
    b.rows < bound + offset ∨ (done ≠ [] ∧ b.rows ≤ offset) → offset ≤ b.rows →
      Ends g limit b (.between offset done) (splitFrom g limit b bound offset done) := by
  intro bound
  induction bound with
  | zero =>
      intro offset done hbound hoffset
      obtain ⟨hdone, hend⟩ := hbound.resolve_left (by omega)
      exact .single (next_done hdone hend _)
  | succ bound ih =>
      intro offset done hbound hoffset
      rcases splitFrom_cases (Eq.refl (splitFrom g limit b (bound + 1) offset done)) with
        ⟨s, hmore, hnext, hrest⟩ | ⟨e, hmore, hnext, herror⟩ | ⟨hdone, hend, hok⟩
      · have hsegment := follows_segment g limit hoffset hmore
        rw [hnext] at hsegment
        obtain ⟨-, -, hrows, hpos⟩ := nextSegment_ok hnext
        rw [← hrest]
        refine .after hsegment (ih ?_ (by omega))
        -- Without rows a segment is the last one: it is that of an empty batch.
        by_cases hlast : offset < b.rows
        · have hp := hpos hlast
          exact .inl (by omega)
        · exact .inr ⟨List.cons_ne_nil s done, by omega⟩
      · have hsegment := follows_segment g limit hoffset hmore
        rw [hnext] at hsegment
        rw [herror]
        exact hsegment
      · rw [hok]
        exact .single (next_done hdone hend _)

/-- However a split ends, there are at most as many segments as rows, or one. -/
theorem length_written (g : Guess) (limit : Nat) (b : Batch) :
    (written g limit b).length ≤ max 1 b.rows := by
  have hends : Ends g limit b (.between 0 []) (splitFrom g limit b (b.rows + 1) 0 []) :=
    follows_splitFrom (.inl (Nat.lt_succ_self b.rows)) (Nat.zero_le _)
  rw [written]
  cases hsplit : splitFrom g limit b (b.rows + 1) 0 [] with
  | ok segments =>
      rw [hsplit] at hends
      exact fits_of_reaches hends.reaches
  | error e =>
      rw [hsplit] at hends
      exact Nat.le_of_lt (fits_of_reaches hends.reaches)

end

/-! ## The loops -/

/-- Splitting ends and does not panic, whatever the limit is and whatever is guessed.  At every
stage that can be reached a batch has been split into no more segments than it has rows, or into
one, or a row has been refused, or any guess leads on.  Rows that are tried are rows of the batch,
and some unless it has none; they are committed, which brings the split at least one row further,
or fewer of them are tried, or there is only one and it is refused.  The number of turns has a
bound in the number of rows; the split that runs ends where its own guesses lead, with no more
segments than that, whether it is refused or not. -/
theorem splitting_ends (limit : Nat) (b : Batch) :
    (∀ s, Reaches limit b (.between 0 []) s → s ≠ .panicked ∧
      ((∃ segments, s = .finished segments ∧ segments.length ≤ max 1 b.rows) ∨
        (∃ e before, s = .refused e before ∧ before.length < max 1 b.rows) ∨
        ∀ guess, ∃ s', s.next? limit b guess = some s')) ∧
    (∀ offset rows done, Reaches limit b (.between 0 []) (.trying offset rows done) →
      offset + rows ≤ b.rows ∧ (0 < b.rows → 1 ≤ rows) ∧
        ∀ s', Step limit b (.trying offset rows done) s' →
          s' = .between (offset + rows) (segmentOf b offset rows :: done) ∨
          (∃ fewer, s' = .trying offset fewer done ∧ 1 ≤ fewer ∧ fewer < rows) ∨
          (rows ≤ 1 ∧ ∃ encoded, limit < encoded ∧
            s' = .refused (.rowTooLarge offset encoded limit) done.reverse)) ∧
    (∀ (run : Nat → Stage) (n : Nat), run 0 = .between 0 [] →
      (∀ i < n, Step limit b (run i) (run (i + 1))) → n ≤ (b.rows + 2) * (b.rows + 1) + 1) ∧
    ∀ g, Ends g limit b (.between 0 []) (splitFrom g limit b (b.rows + 1) 0 []) ∧
      (written g limit b).length ≤ max 1 b.rows := by
  refine ⟨?_, ?_, fun run n hstart hrun => turns_le run hstart n hrun,
    fun g => ⟨follows_splitFrom (.inl (Nat.lt_succ_self b.rows)) (Nat.zero_le _),
      length_written g limit b⟩⟩
  · intro s hreaches
    have hfits := fits_of_reaches hreaches
    cases s with
    | between offset done =>
        refine ⟨Stage.noConfusion, .inr (.inr fun guess => ?_)⟩
        by_cases hmore : done = [] ∨ offset < b.rows
        · exact ⟨_, next_between hfits.inside hmore guess⟩
        · obtain ⟨hdone, hend⟩ := not_or.mp hmore
          exact ⟨_, next_done hdone (Nat.le_of_not_lt hend) guess⟩
    | trying offset rows done =>
        exact ⟨Stage.noConfusion, .inr (.inr fun guess => ⟨_, next_trying hfits.2.2.2 done guess⟩)⟩
    | finished segments => exact ⟨Stage.noConfusion, .inl ⟨segments, rfl, hfits⟩⟩
    | refused e before => exact ⟨Stage.noConfusion, .inr (.inl ⟨e, before, rfl, hfits⟩)⟩
    | panicked => exact hfits.elim
  · intro offset rows done hreaches
    have hfits := fits_of_reaches hreaches
    have ⟨hkept, hmore, hlow, hrows⟩ := hfits
    refine ⟨hrows, ?_, ?_⟩
    · intro hpos
      rcases hmore with hnil | hmore
      · have hzero := hkept.start hnil
        omega
      · omega
    · rintro s' ⟨guess, hnext⟩
      cases turn_of_next hfits hnext with
      | commit _ => exact .inl rfl
      | retry _ hone hfewer => exact .inr (.inl ⟨_, rfl, hone, hfewer⟩)
      | refuse hlong hfew => exact .inr (.inr ⟨hfew, _, hlong, rfl⟩)

/-- Within one byte two rows are too long, and so is one: the first row is refused. -/
theorem splitting_ends_twoFlags : ∃ (encoded : Nat) (run : Nat → Stage),
    run 0 = .between 0 [] ∧ run 1 = .trying 0 2 [] ∧ run 2 = .trying 0 1 [] ∧
    run 3 = .refused (.rowTooLarge 0 encoded 1) [] ∧
    (∀ i < 3, Step 1 twoFlags (run i) (run (i + 1))) ∧
    3 ≤ (twoFlags.rows + 2) * (twoFlags.rows + 1) + 1 ∧ 0 + 2 ≤ twoFlags.rows ∧
    run 3 ≠ .panicked := by
  obtain ⟨hstages, htries, hturns, -⟩ := splitting_ends 1 twoFlags
  have hlong : ∀ rows ∈ [1, 2], ¬ (encodeRange twoFlags 0 rows).length ≤ 1 := by decide +kernel
  let encoded := (encodeRange twoFlags 0 1).length
  let run : Nat → Stage := fun i => [.between 0 [], .trying 0 2 [], .trying 0 1 []].getD i
    (.refused (.rowTooLarge 0 encoded 1) [])
  have hfirst : Step 1 twoFlags (run 0) (run 1) := ⟨7, rfl⟩
  have hretry : Step 1 twoFlags (run 1) (run 2) := by
    refine ⟨0, (next_trying (Nat.le_refl 2) [] 0).trans ?_⟩
    rw [Stage.behind, if_neg (hlong 2 (by decide)), if_neg (by decide)]
    rfl
  have hrefuse : Step 1 twoFlags (run 2) (run 3) := by
    refine ⟨0, (next_trying (Nat.le_succ 1) [] 0).trans ?_⟩
    rw [Stage.behind, if_neg (hlong 1 (by decide)), if_pos (Nat.le_refl 1)]
    rfl
  have hrun : ∀ i < 3, Step 1 twoFlags (run i) (run (i + 1)) := by
    rintro (_ | _ | _ | i) hi
    · exact hfirst
    · exact hretry
    · exact hrefuse
    · omega
  have hreaches : Reaches 1 twoFlags (.between 0 []) (.trying 0 2 []) := .single hfirst
  exact ⟨encoded, run, rfl, rfl, rfl, rfl, hrun, hturns run 3 rfl hrun,
    (htries 0 2 [] hreaches).1, (hstages _ ((hreaches.tail hretry).tail hrefuse)).1⟩

end Columnar.Snapshot

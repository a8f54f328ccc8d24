/-
# `Proofs.Filter.Numbers` — numbers in filter texts

Three places have to agree on what a number is.  A scan takes a run of
characters, and it knows only the last one it has taken; `LongestRun` says
which run this is, by where signs may stand.  A test says whether the run is a
number, and `isNumber_iff` matches it with the grammar.  And a column reads the
spelling again, as a whole number or as a floating point number:
`read_numeral` says that it reads just what is spelled, so no number that
has been let through turns out to be none.
-/
import Columnar.Filter.Parser
import Columnar.Proofs.Filter.Coverage
import Columnar.Proofs.Filter.Lexemes
import Columnar.Proofs.Number.Spelled

namespace Columnar.Filter

open Columnar.Text Number

/-! ## Runs -/

/-- The character may stand in a number behind the characters `before`. -/
inductive Admits (before : List Char) : Char → Prop
  | digit {c : Char} : isDigit c = true → Admits before c
  | point : Admits before '.'
  | mark {c : Char} : isExponentMark c = true → Admits before c
  | leadingMinus : before = [] → Admits before '-'
  | exponentSign {c mark : Char} : c = '-' ∨ c = '+' → before.getLast? = some mark →
      isExponentMark mark = true → Admits before c

/-- Each character may stand behind those in front of it. -/
def IsRun (run : List Char) : Prop :=
  ∀ before c after, run = before ++ c :: after → Admits before c

/-- The run is the longest one that the text begins with. -/
structure LongestRun (run cs : List Char) : Prop where
  front : run <+: cs
  isRun : IsRun run
  longest : ∀ other, other <+: cs → IsRun other → other.length ≤ run.length

theorem isRun_concat {run : List Char} {c : Char} :
    IsRun (run ++ [c]) ↔ IsRun run ∧ Admits run c := by
  constructor
  · intro h
    refine ⟨fun before d after hrun => ?_, h run c [] rfl⟩
    exact h before d (after ++ [c]) (by rw [hrun, List.append_assoc, List.cons_append])
  · rintro ⟨hrun, hc⟩ before d after heq
    rcases List.eq_nil_or_concat after with rfl | ⟨more, e, rfl⟩
    · obtain ⟨rfl, hd⟩ := List.append_inj' heq rfl
      cases hd
      exact hc
    · rw [List.concat_eq_append, ← List.cons_append, ← List.append_assoc] at heq
      obtain ⟨hfront, -⟩ := List.append_inj' heq rfl
      exact hrun before d more hfront

/-- Behind the first character of a number its last character decides. -/
theorem admits_concat_iff {before : List Char} {prev c : Char} :
    Admits (before ++ [prev]) c ↔ continuesNumber prev c = true := by
  have hlast : (before ++ [prev]).getLast? = some prev := List.getLast?_concat
  rw [continuesNumber]
  simp only [Bool.or_eq_true, Bool.and_eq_true, decide_eq_true_eq]
  constructor
  · intro h
    cases h with
    | digit hc => exact .inl (.inl (.inl hc))
    | point => exact .inl (.inl (.inr rfl))
    | mark hc => exact .inl (.inr hc)
    | leadingMinus hnil => exact absurd hnil (List.append_ne_nil_of_right_ne_nil _ (by simp))
    | exponentSign hc hmark hexponent =>
        rw [hlast] at hmark
        cases hmark
        exact .inr ⟨hc, hexponent⟩
  · rintro (((hc | rfl) | hc) | ⟨hc, hexponent⟩)
    · exact .digit hc
    · exact .point
    · exact .mark hc
    · exact .exponentSign hc hlast hexponent

theorem startsNumber_iff {c : Char} :
    startsNumber c = true ↔ isDigit c = true ∨ c = '-' ∨ c = '.' := by
  rw [startsNumber, Bool.or_eq_true, Bool.or_eq_true, decide_eq_true_eq, decide_eq_true_eq,
    or_assoc]

section
variable {rest : List Char}

theorem isRun_numberTail (before : List Char) {prev : Char} (h : IsRun (before ++ [prev])) :
    IsRun (before ++ prev :: numberTail prev rest) := by
  induction rest generalizing before prev with
  | nil => exact h
  | cons c rest ih =>
      rw [numberTail]
      split
      · next hc =>
        have hlonger := isRun_concat.mpr ⟨h, admits_concat_iff.mpr hc⟩
        rw [List.append_cons]
        exact ih _ hlonger
      · exact h

theorem run_le_numberTail (before : List Char) {other : List Char} {prev : Char}
    (h : IsRun (before ++ prev :: other)) (hfront : other <+: rest) :
    other <+: numberTail prev rest := by
  induction rest generalizing before prev other with
  | nil => exact hfront
  | cons c rest ih =>
      cases other with
      | nil => exact List.nil_prefix
      | cons d other =>
          obtain ⟨rfl, hother⟩ := List.cons_prefix_cons.mp hfront
          rw [List.append_cons] at h
          have hd := admits_concat_iff.mp (h _ _ _ rfl)
          rw [numberTail, if_pos hd]
          exact List.cons_prefix_cons.mpr ⟨rfl, ih _ h hother⟩

/-- The scan of a number takes the longest run. -/
theorem longestRun_numberTail (rest : List Char) {first : Char} (h : startsNumber first = true) :
    LongestRun (first :: numberTail first rest) (first :: rest) where
  front := List.cons_prefix_cons.mpr ⟨rfl, prefix_numberTail first rest⟩
  isRun := by
    refine isRun_numberTail [] (isRun_concat.mpr ⟨?_, ?_⟩)
    · intro before c after hnil
      exact absurd hnil.symm (List.append_ne_nil_of_right_ne_nil _ (List.cons_ne_nil _ _))
    · rcases startsNumber_iff.mp h with h | rfl | rfl
      · exact .digit h
      · exact .leadingMinus rfl
      · exact .point
  longest := by
    intro other hother hrun
    cases other with
    | nil => exact Nat.zero_le _
    | cons c other =>
        obtain ⟨rfl, hrest⟩ := List.cons_prefix_cons.mp hother
        exact Nat.succ_le_succ (run_le_numberTail [] hrun hrest).length_le

end

theorem LongestRun.unique {run run' cs : List Char} (h : LongestRun run cs)
    (h' : LongestRun run' cs) : run = run' := by
  have hlength : run.length = run'.length :=
    Nat.le_antisymm (h'.longest run h.front h.isRun) (h.longest run' h'.front h'.isRun)
  exact (List.prefix_of_prefix_length_le h.front h'.front hlength.le).eq_of_length hlength

/-! ## The test -/

theorem isExponentMark_iff {c : Char} : isExponentMark c = true ↔ c = 'e' ∨ c = 'E' := by
  rw [isExponentMark, Bool.or_eq_true, decide_eq_true_eq, decide_eq_true_eq]

theorem isFloatSpelling_iff {run : List Char} : isFloatSpelling run = false ↔ Unmarked run := by
  rw [isFloatSpelling, List.any_eq_false]
  simp only [Bool.or_eq_true, decide_eq_true_eq, isExponentMark_iff, not_or]
  exact Iff.rfl

/-- The run is a number of the grammar, and one of 64 bits if it is whole. -/
def IsNumeral (run : List Char) : Prop :=
  ∃ negative digits exponent, Spelled run negative digits exponent ∧
    (Unmarked run → IsInt64 (signedValue negative digits))

section
variable {run : List Char} (hrun : IsRun run)

include hrun in
theorem IsRun.plus_ne (rest : List Char) : run ≠ '+' :: rest := by
  intro hplus
  cases hrun [] '+' rest hplus with
  | digit h => cases h
  | mark h => cases h
  | exponentSign _ h _ => cases h

include hrun in
/-- No letter of a run begins a word for a special value. -/
theorem IsRun.wordless : Numeral.Wordless run := by
  intro c hc
  obtain ⟨before, after, heq⟩ := List.append_of_mem hc
  cases hrun before c after heq with
  | digit h =>
      rw [lower_digit h]
      exact ⟨ne_of_isDigit h (by decide), ne_of_isDigit h (by decide)⟩
  | point => decide
  | mark h => rcases isExponentMark_iff.mp h with rfl | rfl <;> decide
  | leadingMinus _ => decide
  | exponentSign h _ _ => rcases h with rfl | rfl <;> decide

include hrun in
/-- The test lets through just the numbers of the grammar. -/
theorem isNumber_iff : isNumber run = true ↔ IsNumeral run := by
  have hread {m : Numeral} := read_iff hrun.plus_ne hrun.wordless (m := m)
  rw [isNumber, Bool.and_eq_true]
  cases hmarked : isFloatSpelling run with
  | true =>
      rw [if_pos rfl, Option.isSome_iff_exists]
      constructor
      · rintro ⟨-, m, hm⟩
        obtain ⟨negative, digits, exponent, -, hspelled⟩ := hread.mp hm
        refine ⟨negative, digits, exponent, hspelled, fun hunmarked => ?_⟩
        rw [isFloatSpelling_iff.mpr hunmarked] at hmarked
        cases hmarked
      · rintro ⟨negative, digits, exponent, hspelled, -⟩
        exact ⟨List.any_eq_true.mpr hspelled.digit, _, hread.mpr ⟨_, _, _, rfl, hspelled⟩⟩
  | false =>
      have hunmarked := isFloatSpelling_iff.mp hmarked
      rw [if_neg Bool.false_ne_true, Option.isSome_iff_exists]
      constructor
      · rintro ⟨-, i, hi⟩
        obtain ⟨hwhole, hrange⟩ := int64_iff.mp hi
        obtain ⟨negative, digits, hspelled, rfl⟩ := hwhole.spelled hrun.plus_ne
        exact ⟨negative, digits, 0, hspelled, fun _ => hrange⟩
      · rintro ⟨negative, digits, exponent, hspelled, hrange⟩
        obtain ⟨-, hwhole⟩ := hspelled.whole hunmarked
        exact ⟨List.any_eq_true.mpr hspelled.digit, _, int64_iff.mpr ⟨hwhole, hrange hunmarked⟩⟩

end

/-! ## The lexeme -/

section
variable {first : Char} (h : startsNumber first = true)

include h in
theorem unreserved_startsNumber : Unreserved first := by
  rcases startsNumber_iff.mp h with hdigit | rfl | rfl
  · exact unreserved_digit hdigit
  · exact unreserved_minus
  · exact unreserved_of_not_mem (by decide)

include h in
theorem isBlank_startsNumber : isBlank first = false := by
  rcases startsNumber_iff.mp h with hdigit | rfl | rfl
  · exact isBlank_digit hdigit
  · decide
  · decide

include h in
/-- The run that is no number is the fault. -/
theorem lexeme_malformed {rest : List Char}
    (hrun : isNumber (first :: numberTail first rest) = false) : lexeme first rest =
      .error (.malformedNumber (String.ofList (first :: numberTail first rest))) := by
  have hunreserved := unreserved_startsNumber h
  rw [lexeme, hunreserved.punctuation]
  simp only [hunreserved.operator, if_neg hunreserved.bang, if_neg hunreserved.quote, h, hrun,
    if_true, Bool.false_eq_true, if_false]

end

/-- A number is read in one way only: from a run that is a number. -/
theorem number_of_lexeme {first : Char} {rest : List Char} {spelling : String} {n : Nat}
    (h : lexeme first rest = .ok (.number spelling, n)) : startsNumber first = true ∧
      isNumber spelling.toList = true ∧ spelling.toList = first :: numberTail first rest := by
  cases lexeme_ok_iff.mp h with
  | punctuation hl _ =>
      rw [punctuation?.eq_def] at hl
      split at hl <;> cases hl
  | operator _ hl => cases hl
  | text _ _ hl => cases hl
  | number _ hnumber hrun hl _ =>
      cases hl
      rw [String.toList_ofList]
      exact ⟨hnumber, hrun, rfl⟩
  | word _ _ _ hl _ =>
      rw [wordLexeme] at hl
      split at hl <;> cases hl

/-! ## Where a number stands -/

theorem written_append (ps qs : List Piece) : written (ps ++ qs) = written ps ++ written qs := by
  induction ps with
  | nil => rfl
  | cons p ps ih =>
      rw [List.cons_append, written, ih, written, List.append_assoc, List.append_assoc]

theorem Cut.front {ps qs : List Piece} {after : List Char} (h : Cut after (ps ++ qs)) :
    Cut (written qs ++ after) ps := by
  induction ps with
  | nil => exact .done
  | cons p ps ih =>
      rw [List.cons_append] at h
      cases h with
      | piece hgap hspells hrest =>
          rw [written_append, List.append_assoc] at hspells
          exact .piece hgap hspells (ih hrest)

/-- The first pieces of a text stand in front of the others and of what is left over. -/
theorem cut_of_front {cs after : List Char} {ps : List Piece} (h : ps <+: (scan cs).pieces)
    (hcs : cs = written ps ++ after) : Cut after ps := by
  obtain ⟨left, -, -, hcut, htext⟩ := cut_scan cs
  obtain ⟨more, hmore⟩ := h
  rw [← hmore] at hcut htext
  have hafter : written more ++ ((scan cs).gap ++ left) = after := by
    rw [written_append, List.append_assoc] at htext
    exact List.append_cancel_left (htext.trans hcs)
  rw [← hafter]
  exact hcut.front

theorem mem_place (ps : List Piece) (p : Piece) (more : List Piece) : ∀ offset : Nat,
    ⟨p.lexeme, offset + byteLength (written ps ++ p.gap)⟩ ∈ place offset (ps ++ p :: more) := by
  induction ps with
  | nil => exact fun offset => List.mem_cons_self
  | cons q ps ih =>
      intro offset
      have hposition : offset + byteLength (written (q :: ps) ++ p.gap) =
          offset + q.byteLength + byteLength (written ps ++ p.gap) := by
        rw [byteLength_append, byteLength_append, byteLength_written, byteLength_written,
          List.map_cons, List.sum_cons]
        omega
      rw [hposition]
      exact List.mem_cons_of_mem _ (ih _)

section
variable {cs gap rest : List Char} {ps : List Piece} {first : Char}
  (hps : ps <+: (scan cs).pieces) (hcs : cs = written ps ++ (gap ++ first :: rest))
  (hgap : ∀ c ∈ gap, isBlank c = true) (hfirst : startsNumber first = true)

include hps hcs hgap hfirst in
/-- Behind the pieces that have been cut off a number is the next one. -/
theorem scan_number (hrun : isNumber (first :: numberTail first rest) = true) :
    ∃ more, (scan cs).pieces = ps ++ ⟨gap, first :: numberTail first rest,
      .number (String.ofList (first :: numberTail first rest))⟩ :: more := by
  have hcut := cut_of_front hps hcs
  obtain ⟨htake, hdrop⟩ := takeWhile_blank hgap (isBlank_startsNumber hfirst) rest
  have hl := lexeme_number (unreserved_startsNumber hfirst) hfirst hrun
  have htail := List.prefix_iff_eq_take.mp (prefix_numberTail first rest)
  rw [hcs, scan_written hcut, scan_ok hdrop hl, htake, ← htail]
  exact ⟨_, rfl⟩

include hps hcs hgap hfirst in
/-- Behind the pieces that have been cut off a run that is no number ends the scan. -/
theorem scan_malformed (hrun : isNumber (first :: numberTail first rest) = false) :
    scan cs = ⟨ps, gap, some (.malformedNumber
      (String.ofList (first :: numberTail first rest)))⟩ := by
  have hcut := cut_of_front hps hcs
  obtain ⟨htake, hdrop⟩ := takeWhile_blank hgap (isBlank_startsNumber hfirst) rest
  have hl := lexeme_malformed hfirst hrun
  rw [hcs, scan_written hcut, scan_error hdrop hl, htake, List.append_nil]

end

/-! ## What columns read -/

/-- What a column of the kind makes of a number, from its values: as a whole number if it is
written as one, and as a floating point number. -/
def Kind.ofNumber (unmarked : Bool) (i : Int) (v : Binary .double) : Kind → Except Demand Literal
  | .integer lo hi =>
    if unmarked then
      if lo ≤ i ∧ i ≤ hi then .ok (.int i) else .error (.integerIn lo hi)
    else .error .integer
  | .float => if v.isFinite then .ok (.float v) else .error .finiteNumber
  | .text =>
    if unmarked then .ok (.int i)
    else if v.isFinite then .ok (.float v) else .error .textOrFinite
  | .bool => .error .truth
  | .other => .error .nothing

section
variable {spelling : String} {negative : Bool} {digits : Nat} {exponent : Int}
  (hrun : IsRun spelling.toList) (hspelled : Spelled spelling.toList negative digits exponent)

include hrun hspelled in
theorem binary_numeral : binary? .double spelling.toList =
    some (Numeral.toBinary .double (.finite negative digits exponent)) := by
  have hread := (read_iff hrun.plus_ne hrun.wordless).mpr ⟨_, _, _, rfl, hspelled⟩
  rw [binary?, hread]
  rfl

include hrun hspelled in
theorem finite_numeral : finite? spelling =
    if (Numeral.toBinary .double (.finite negative digits exponent)).isFinite then
      some (Numeral.toBinary .double (.finite negative digits exponent)) else none := by
  rw [finite?, binary_numeral hrun hspelled, Option.filter_some]

include hspelled in
/-- Without a point and a mark a number is read as the whole number it spells. -/
theorem int64_numeral (hplain : isFloatSpelling spelling.toList = false)
    (hrange : IsInt64 (signedValue negative digits)) :
    int64? spelling.toList = some (signedValue negative digits) :=
  int64_iff.mpr ⟨(hspelled.whole (isFloatSpelling_iff.mp hplain)).2, hrange⟩

include hrun hspelled in
/-- Columns read what a number spells. -/
theorem read_numeral
    (hrange : Unmarked spelling.toList → IsInt64 (signedValue negative digits)) (k : Kind) :
    read k (.number spelling) = k.ofNumber (!isFloatSpelling spelling.toList)
      (signedValue negative digits)
      (Numeral.toBinary .double (.finite negative digits exponent)) := by
  have hfinite := finite_numeral hrun hspelled
  generalize Numeral.toBinary .double (.finite negative digits exponent) = v at hfinite ⊢
  cases hmarked : isFloatSpelling spelling.toList with
  | true =>
      cases k with
      | integer lo hi => rw [read, if_pos hmarked]; rfl
      | float => rw [read, hfinite, Kind.ofNumber]; cases v.isFinite <;> rfl
      | text => rw [read, if_pos hmarked, hfinite, Kind.ofNumber]; cases v.isFinite <;> rfl
      | bool => rfl
      | other => rfl
  | false =>
      have hwhole := int64_numeral hspelled hmarked (hrange (isFloatSpelling_iff.mp hmarked))
      have hplain : ¬ isFloatSpelling spelling.toList = true := Bool.eq_false_iff.mp hmarked
      cases k with
      | integer lo hi => rw [read, if_neg hplain, hwhole]; rfl
      | float => rw [read, hfinite, Kind.ofNumber]; cases v.isFinite <;> rfl
      | text => rw [read, if_neg hplain, hwhole]; rfl
      | bool => rfl
      | other => rfl

end

/-! ## Numbers -/

theorem Cut.mem {ps : List Piece} {after : List Char} (h : Cut after ps) {p : Piece}
    (hp : p ∈ ps) : ∃ behind, Spells p.source p.lexeme behind := by
  induction h with
  | done => exact absurd hp List.not_mem_nil
  | piece _ hspells _ ih =>
      rcases List.mem_cons.mp hp with rfl | hp
      · exact ⟨_, hspells⟩
      · exact ih hp

/-- The number of a token is a number of the grammar. -/
theorem numeral_of_token {text spelling : String} {ts : List Token} {t : Token}
    (htokens : tokenize text = .ok ts) (ht : t ∈ ts) (hnumber : t.lexeme = .number spelling) :
    IsRun spelling.toList ∧ IsNumeral spelling.toList := by
  obtain ⟨left, -, -, hcut, -⟩ := cut_scan text.toList
  rw [tokenize] at htokens
  split at htokens
  · cases htokens
    have hmem := List.mem_map_of_mem (f := Token.lexeme) ht
    rw [place_lexemes] at hmem
    obtain ⟨p, hp, hlexeme⟩ := List.mem_map.mp hmem
    obtain ⟨behind, first, tail, -, -, hl⟩ := hcut.mem hp
    rw [hlexeme, hnumber] at hl
    obtain ⟨hfirst, hrun, hspelling⟩ := number_of_lexeme hl
    have hisRun : IsRun spelling.toList := hspelling ▸ (longestRun_numberTail _ hfirst).isRun
    exact ⟨hisRun, (isNumber_iff hisRun).mp hrun⟩
  · cases htokens

/-- The numbers of a filter text are exactly those of the grammar.  Where a digit, a minus or a
point is met behind some pieces and blanks, the longest run that it begins is taken.  A run that
is a number, and one of 64 bits if it is whole, is the next piece, and a token with this spelling;
any other run is the error of the whole text, at its first character.  And a column reads from the
spelling of a number what it spells: the whole number, or the floating point number it is rounded
to, which is the one of its sign that the digits and the exponent are nearest to. -/
theorem numbers_exact :
    (∀ (text : String) (ps : List Piece) (gap : List Char) (first : Char) (rest : List Char),
      ps <+: (scan text.toList).pieces → text.toList = written ps ++ (gap ++ first :: rest) →
      (∀ c ∈ gap, isBlank c = true) → isDigit first = true ∨ first = '-' ∨ first = '.' →
      ∃ run, LongestRun run (first :: rest) ∧
        (IsNumeral run →
          ps ++ [⟨gap, run, .number (String.ofList run)⟩] <+: (scan text.toList).pieces ∧
          ∀ ts, tokenize text = .ok ts →
            ⟨.number (String.ofList run), byteLength (written ps ++ gap)⟩ ∈ ts) ∧
        (¬ IsNumeral run → tokenize text =
          .error ⟨.malformedNumber (String.ofList run), byteLength (written ps ++ gap)⟩)) ∧
    ∀ (text spelling : String) (ts : List Token) (t : Token),
      tokenize text = .ok ts → t ∈ ts → t.lexeme = .number spelling →
      ∃ negative digits exponent, Spelled spelling.toList negative digits exponent ∧
        (Unmarked spelling.toList →
          int64? spelling.toList = some (signedValue negative digits)) ∧
        ∃ v, binary? .double spelling.toList = some v ∧
          (∀ x : Binary .double, x.isFinite = true → 0 < x.magnitude → x.negative = negative →
            (Interval.ofBinary x).Has (digits * 10 ^ exponent) → v = x) ∧
          ∀ k, read k (.number spelling) =
            k.ofNumber (!isFloatSpelling spelling.toList) (signedValue negative digits) v := by
  constructor
  · intro text ps gap first rest hps hcs hgap hfirst
    have hstarts := startsNumber_iff.mpr hfirst
    have hlongest := longestRun_numberTail rest hstarts
    refine ⟨_, hlongest, ?_, ?_⟩
    · intro hnumeral
      have hrun := (isNumber_iff hlongest.isRun).mpr hnumeral
      obtain ⟨more, hpieces⟩ := scan_number hps hcs hgap hstarts hrun
      rw [hpieces]
      refine ⟨⟨more, by rw [List.append_assoc, List.singleton_append]⟩, ?_⟩
      intro ts htokens
      rw [tokenize] at htokens
      split at htokens
      · cases htokens
        have hmem := mem_place ps ⟨gap, first :: numberTail first rest,
          .number (String.ofList (first :: numberTail first rest))⟩ more 0
        rw [← hpieces, Nat.zero_add] at hmem
        exact hmem
      · cases htokens
    · intro hnumeral
      have hrun := Bool.eq_false_iff.mpr fun h => hnumeral ((isNumber_iff hlongest.isRun).mp h)
      rw [tokenize, scan_malformed hps hcs hgap hstarts hrun, byteLength_append, byteLength_written]
  · intro text spelling ts t htokens ht hnumber
    obtain ⟨hrun, negative, digits, exponent, hspelled, hrange⟩ :=
      numeral_of_token htokens ht hnumber
    refine ⟨negative, digits, exponent, hspelled, ?_, _, binary_numeral hrun hspelled, ?_,
      read_numeral hrun hspelled hrange⟩
    · intro hunmarked
      exact int64_numeral hspelled (isFloatSpelling_iff.mpr hunmarked) (hrange hunmarked)
    · rintro x hfinite hpos rfl hhas
      exact toBinary_of_has hfinite hpos hhas

/-- The number ends in front of the second minus. -/
def signedTwice : String := "a > -.5e+1-3"

theorem numbers_exact_signedTwice : ∃ ts, tokenize signedTwice = .ok ts ∧
    LongestRun "-.5e+1".toList "-.5e+1-3".toList ∧ IsNumeral "-.5e+1".toList ∧
    ⟨.number "-.5e+1", 4⟩ ∈ ts ∧
    ∃ negative digits exponent v, Spelled "-.5e+1".toList negative digits exponent ∧
      binary? .double "-.5e+1".toList = some v ∧
      ∀ k, read k (.number "-.5e+1") = k.ofNumber false (signedValue negative digits) v := by
  obtain ⟨hplaces, hreads⟩ := numbers_exact
  let ps : List Piece := [⟨[], ['a'], .identifier "a"⟩, ⟨[' '], ['>'], .operator .gt⟩]
  have htokens : tokenize signedTwice = .ok [⟨.identifier "a", 0⟩, ⟨.operator .gt, 2⟩,
      ⟨.number "-.5e+1", 4⟩, ⟨.number "-3", 10⟩] := by decide +kernel
  have hfront : ps <+: (scan signedTwice.toList).pieces := by decide +kernel
  have hblank : ∀ c ∈ [' '], isBlank c = true := List.forall_mem_singleton.mpr (by decide)
  obtain ⟨run, hlongest, hnumber, -⟩ := hplaces signedTwice ps [' '] '-' ".5e+1-3".toList hfront
    (by decide) hblank (.inr (.inl rfl))
  have htaken : LongestRun "-.5e+1".toList "-.5e+1-3".toList :=
    longestRun_numberTail ".5e+1-3".toList (show startsNumber '-' = true from rfl)
  obtain rfl := hlongest.unique htaken
  have hnumeral : IsNumeral "-.5e+1".toList := (isNumber_iff htaken.isRun).mp (by decide)
  have hmem := (hnumber hnumeral).2 _ htokens
  obtain ⟨negative, digits, exponent, hspelled, -, v, hv, -, hread⟩ :=
    hreads _ _ _ _ htokens hmem rfl
  exact ⟨_, htokens, htaken, hnumeral, hmem, negative, digits, exponent, v, hspelled, hv, hread⟩

end Columnar.Filter

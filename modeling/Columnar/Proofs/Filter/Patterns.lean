/-
# `Proofs.Filter.Patterns` — tests with patterns

A test with a pattern goes by the text of the cell, and the negated test is
its complement, for every cell that is widened to a datum.  A whole number
beyond the signed 64-bit integers is not: it counts as NULL, which neither
test selects.
-/
import Columnar.Proofs.Filter.Faults
import Columnar.Proofs.Filter.Integers
import Columnar.Proofs.Filter.Wildcard

namespace Columnar.Filter

open Number

/-! ## The text of a cell -/

/-- The text of a value that can be tested.  Floating point numbers show theirs in double
precision. -/
def textOf? : (t : DataType) → t.Value → Option String
  | .int signed _, v => some (toString (DataType.wholeNumber signed v))
  | .float _, v => some (Rendering.plain.write (v.convert .double))
  | .text _, v => some v
  | .bool, v => some (cond v "true" "false")
  | _, _ => none

/-- The text in the cell of a row under a name, if there is one. -/
def text? (b : Batch) (column : String) (i : Nat) : Option String :=
  (b.find? column).bind fun c => (c.cells.getD i none).bind (textOf? c.type)

/-- The cell of the row holds a whole number beyond the signed 64-bit integers. -/
def Beyond (b : Batch) (column : String) (i : Nat) : Prop :=
  ∃ x, whole? b column i = some x ∧ greatestInt64 < x

/-- A value is widened to a datum that shows its text, or it is a whole number beyond the signed
64-bit integers. -/
theorem widened_text {t : DataType} {v : t.Value} {s : String} (h : textOf? t v = some s) :
    (∃ d, ((widen? t).bind fun widen => widen v) = some d ∧ d.shown = s ∧
      ∀ x, wholeOf? t v = some x → x ≤ greatestInt64) ∨
    (((widen? t).bind fun widen => widen v) = none ∧
      ∃ x, wholeOf? t v = some x ∧ greatestInt64 < x) := by
  cases t with
  | int signed w =>
      cases h
      by_cases hx : DataType.wholeNumber signed v ≤ greatestInt64
      · refine .inl ⟨.int (DataType.wholeNumber signed v), if_pos hx, rfl, fun x h => ?_⟩
        cases h
        exact hx
      · exact .inr ⟨if_neg hx, _, rfl, Int.not_le.mp hx⟩
  | float p =>
      cases h
      exact .inl ⟨_, rfl, rfl, fun x h => nomatch h⟩
  | text large =>
      cases h
      exact .inl ⟨_, rfl, rfl, fun x h => nomatch h⟩
  | bool =>
      cases h
      exact .inl ⟨_, rfl, rfl, fun x h => nomatch h⟩
  | date => cases h
  | binary => cases h
  | vector n => cases h

theorem textOf_isSome {t : DataType} (h : ¬ Untested t) (v : t.Value) :
    (textOf? t v).isSome = true := by
  cases t with
  | int signed w => rfl
  | float p => rfl
  | text large => rfl
  | bool => rfl
  | date => exact absurd .date h
  | binary => exact absurd .binary h
  | vector n => exact absurd .vector h

theorem type_of_beyond {t : DataType} {v : t.Value} {x : Int} (hx : wholeOf? t v = some x)
    (hbeyond : greatestInt64 < x) : t = .int false .w64 := by
  cases t with
  | int signed w =>
      obtain ⟨rfl, rfl⟩ := unsigned_of_beyond rfl hx hbeyond
      rfl
  | float p => cases hx
  | text large => cases hx
  | bool => cases hx
  | date => cases hx
  | binary => cases hx
  | vector n => cases hx

section
variable {b : Batch} {column : String} {c : Column} {i : Nat}

theorem Beyond.type (hfind : b.find? column = some c) (h : Beyond b column i) :
    c.type = .int false .w64 := by
  obtain ⟨x, hx, hbeyond⟩ := h
  rw [whole?, hfind, Option.bind_some] at hx
  obtain ⟨v, -, hx⟩ := Option.bind_eq_some_iff.mp hx
  exact type_of_beyond hx hbeyond

theorem Beyond.no_datum (hfind : b.find? column = some c) (h : Beyond b column i) :
    datum? b column i = none := by
  have htype := h.type hfind
  obtain ⟨x, hx, hbeyond⟩ := h
  rw [datum_eq_whole hfind htype, hx, Option.filter_some,
    if_neg (by simpa only [decide_eq_true_eq, Int.not_le] using hbeyond)]
  rfl

theorem datum_or_beyond {s : String} (h : text? b column i = some s) :
    (∃ d, datum? b column i = some d ∧ d.shown = s ∧ ¬ Beyond b column i) ∨
      (datum? b column i = none ∧ Beyond b column i) := by
  obtain ⟨c, hfind, h⟩ := Option.bind_eq_some_iff.mp h
  obtain ⟨v, hv, h⟩ := Option.bind_eq_some_iff.mp h
  have hdatum : datum? b column i = (widen? c.type).bind fun widen => widen v := by
    rw [datum?, hfind, Option.bind_some, hv]
    rfl
  have hwhole : whole? b column i = wholeOf? c.type v := by
    rw [whole?, hfind, Option.bind_some, hv, Option.bind_some]
  rw [hdatum, Beyond, hwhole]
  rcases widened_text h with ⟨d, hd, hshown, hle⟩ | ⟨hnone, hbeyond⟩
  · refine .inl ⟨d, hd, hshown, ?_⟩
    rintro ⟨x, hx, hlt⟩
    exact absurd (hle x hx) (Int.not_le.mpr hlt)
  · exact .inr ⟨hnone, hbeyond⟩

theorem isNull_iff_text (hfind : b.find? column = some c) (htype : ¬ Untested c.type) :
    isNull b column i = true ↔ text? b column i = none := by
  rw [text?, hfind, Option.bind_some]
  exact isNull_iff_read hfind (textOf_isSome htype)

theorem lt_rows_of_datum {d : Datum} (h : datum? b column i = some d) : i < b.rows := by
  obtain ⟨c, hfind, h⟩ := Option.bind_eq_some_iff.mp h
  obtain ⟨widen, -, h⟩ := Option.bind_eq_some_iff.mp h
  obtain ⟨v, hv, -⟩ := Option.bind_eq_some_iff.mp h
  exact lt_rows_of_cell hfind hv

/-! ## Rows -/

theorem fault_of_like (hfind : b.find? column = some c) (htype : ¬ Untested c.type)
    {pattern : String} (haffordable : Wildcard.affordable pattern = true) (negated : Bool) :
    (Leaf.like negated column pattern).fault? b = none := by
  cases hfault : (Leaf.like negated column pattern).fault? b with
  | none => rfl
  | some err =>
      cases failsWith_of_fault hfault with
      | missing hmissing =>
          rw [show b.find? column = none from hmissing] at hfind
          cases hfind
      | refused _ hrefused =>
          rw [haffordable] at hrefused
          cases hrefused
      | untested hfind' _ htype' =>
          rw [show b.find? column = _ from hfind'] at hfind
          cases hfind
          exact absurd htype' htype

/-- A test with a pattern picks the rows whose data show a text that fits it or, if it is negated,
one that does not. -/
theorem picks_like {pattern : String} {negated : Bool}
    (haffordable : Wildcard.affordable pattern = true)
    (h : (Leaf.like negated column pattern).fault? b = none) :
    (Leaf.like negated column pattern).Picks b i ↔ ∃ d, datum? b column i = some d ∧
      (Wildcard.Splits pattern.toList d.shown.toList ↔ negated = false) := by
  have htest : ∀ d : Datum, (d.fits pattern != negated) = true ↔
      (Wildcard.Splits pattern.toList d.shown.toList ↔ negated = false) := by
    intro d
    rw [← fits_iff haffordable]
    cases d.fits pattern <;> cases negated <;> decide
  rw [picks_iff h, Leaf.selects, Option.any_eq_true]
  simp only [htest]
  constructor
  · rintro ⟨-, hd⟩
    exact hd
  · rintro ⟨d, hd, hsplits⟩
    exact ⟨lt_rows_of_datum hd, d, hd, hsplits⟩

theorem not_picks_like {pattern : String} {negated : Bool}
    (h : (Leaf.like negated column pattern).fault? b = none) (hdatum : datum? b column i = none) :
    ¬ (Leaf.like negated column pattern).Picks b i := by
  rw [picks_iff h, Leaf.selects, hdatum, Option.any_none]
  rintro ⟨-, hpicked⟩
  cases hpicked

end

/-- A test with a pattern goes by the texts of the cells.  It runs on every column with values that
can be tested, and so does its negation.  Neither selects a NULL.  Of a cell that is not NULL, the
test selects the row if and only if the cell's text can be cut into the pieces of the pattern, and
the negated test if and only if it cannot, but for whole numbers beyond the signed 64-bit integers:
their rows neither selects.  Only unsigned columns of 64 bits have such numbers. -/
theorem patterns_match {b : Batch} {column pattern : String} {c : Column}
    (hfind : b.find? column = some c) (htype : ¬ Untested c.type)
    (haffordable : Wildcard.affordable pattern = true) :
    (Leaf.like false column pattern).Runs b ∧ (Leaf.like true column pattern).Runs b ∧
    ∀ i,
      (isNull b column i = true → ¬ (Leaf.like false column pattern).Picks b i ∧
        ¬ (Leaf.like true column pattern).Picks b i) ∧
      (isNull b column i = false → ∃ text, text? b column i = some text ∧
        (((Leaf.like false column pattern).Picks b i ↔
            Wildcard.Splits pattern.toList text.toList) ∧
          ((Leaf.like true column pattern).Picks b i ↔
            ¬ Wildcard.Splits pattern.toList text.toList) ↔ ¬ Beyond b column i)) ∧
      (Beyond b column i → c.type = .int false .w64 ∧
        ¬ (Leaf.like false column pattern).Picks b i ∧
        ¬ (Leaf.like true column pattern).Picks b i) := by
  have hplain := fault_of_like hfind htype haffordable false
  have hnegated := fault_of_like hfind htype haffordable true
  refine ⟨runs_of_fault hplain, runs_of_fault hnegated, fun i => ⟨fun hnull => ?_,
    fun hnull => ?_, fun hbeyond => ⟨hbeyond.type hfind,
      not_picks_like hplain (hbeyond.no_datum hfind),
      not_picks_like hnegated (hbeyond.no_datum hfind)⟩⟩⟩
  · have hdatum := datum_of_isNull hnull
    exact ⟨not_picks_like hplain hdatum, not_picks_like hnegated hdatum⟩
  · have hsome : text? b column i ≠ none := by
      rw [← Bool.not_eq_true] at hnull
      exact fun h => hnull ((isNull_iff_text hfind htype).mpr h)
    obtain ⟨text, htext⟩ := Option.ne_none_iff_exists'.mp hsome
    refine ⟨text, htext, ?_⟩
    rcases datum_or_beyond htext with ⟨d, hd, hshown, hnot⟩ | ⟨hnone, hbeyond⟩
    · rw [picks_like haffordable hplain, picks_like haffordable hnegated, hd]
      simp [hshown, hnot]
    · have hmissed := not_picks_like hplain hnone
      have hmissedToo := not_picks_like hnegated hnone
      simp [hmissed, hmissedToo, hbeyond]

/-- Notes with a line end and with characters that mean something elsewhere, and a NULL. -/
def notes : Batch where
  rows := 4
  columns := [.ofCells "note" true (.text false)
    #[some "a.b\n(c)*", some "axb", some "", none]]
  aligned := by decide
  sound := by decide

/-- A run may take a line end, and a full stop stands for itself; a NULL is selected by neither
test. -/
theorem patterns_match_notes :
    Wildcard.affordable "a.b%_*" = true ∧
    Wildcard.Splits "a.b%_*".toList "a.b\n(c)*".toList ∧
    (Leaf.like false "note" "a.b%_*").Picks notes 0 ∧
    ¬ Wildcard.Splits "a.b%_*".toList "axb".toList ∧
    (Leaf.like true "note" "a.b%_*").Picks notes 1 ∧
    ¬ (Leaf.like false "note" "a.b%_*").Picks notes 3 ∧
    ¬ (Leaf.like true "note" "a.b%_*").Picks notes 3 := by
  have haffordable : Wildcard.affordable "a.b%_*" = true := by decide +kernel
  have hsplits : Wildcard.Splits "a.b%_*".toList "a.b\n(c)*".toList :=
    (fits_iff haffordable (.text "a.b\n(c)*")).mp (by decide +kernel)
  have hnone : ¬ Wildcard.Splits "a.b%_*".toList "axb".toList :=
    (fits_iff haffordable (.text "axb")).not.mp (by decide +kernel)
  have hwhole : ∀ i, ¬ Beyond notes "note" i := by
    intro i h
    cases h.type (c := notes.columns[0]) rfl
  have htype : ¬ Untested (DataType.text false) := fun h => nomatch h
  obtain ⟨-, -, hrows⟩ := @patterns_match notes "note" "a.b%_*" _ rfl htype haffordable
  obtain ⟨text, htext, hexact⟩ := (hrows 0).2.1 (by decide +kernel)
  obtain ⟨text', htext', hexact'⟩ := (hrows 1).2.1 (by decide +kernel)
  rw [show text? notes "note" 0 = some "a.b\n(c)*" by decide +kernel] at htext
  rw [show text? notes "note" 1 = some "axb" by decide +kernel] at htext'
  cases htext
  cases htext'
  obtain ⟨hmissed, hmissedToo⟩ := (hrows 3).1 (by decide +kernel)
  exact ⟨haffordable, hsplits, (hexact.mpr (hwhole 0)).1.mpr hsplits, hnone,
    (hexact'.mpr (hwhole 1)).2.mpr hnone, hmissed, hmissedToo⟩

/-- A number that is beyond, with a text that starts with a nine, is selected neither as one that
does nor as one that does not. -/
theorem beyond_matches_neither :
    isNull counts "n" 2 = false ∧ text? counts "n" 2 = some "9223372036854775808" ∧
    Wildcard.Splits "9%".toList "9223372036854775808".toList ∧
    (Expr.leaf (.like false "n" "9%")).evaluate counts = .ok [false, true, false, false] ∧
    (Expr.leaf (.like true "n" "9%")).evaluate counts = .ok [true, false, false, false] := by
  refine ⟨by decide +kernel, by decide +kernel, ?_, by decide +kernel, by decide +kernel⟩
  exact (fits_iff (by decide +kernel) (.int 9223372036854775808)).mp (by decide +kernel)

end Columnar.Filter

/-
# `Proofs.Filter.Wildcard` — patterns as regular expressions

A text fits a pattern if it can be cut into one piece for each character of
the pattern.  A pattern is run as a regular expression: the characters
between two wildcards are escaped together, and the whole stands between the
ends of the text.  Whatever characters the pattern has, that expression is
read as one element for each of them (`read_expression`), and these match
what can be cut (`reaches_iff`).  So a text is found to fit if and only if it
does (`fits_iff`), and only patterns with large automata are refused.
-/
import Columnar.Proofs.Filter.Selection
import Columnar.Proofs.Text.Regex

namespace Columnar.Filter

/-! ## Cutting a text -/

namespace Wildcard

open Text (Regex)
open Text.Regex (Element)

theorem splits_nil_iff {s : List Char} : Splits [] s ↔ s = [] := by
  constructor
  · intro h
    cases h
    rfl
  · rintro rfl
    exact .done

/-- A run is empty, or it takes the first character of the text. -/
theorem splits_run_iff {p s : List Char} :
    Splits ('%' :: p) s ↔ Splits p s ∨ ∃ c t, s = c :: t ∧ Splits ('%' :: p) t := by
  constructor
  · intro h
    cases h with
    | run piece h =>
        cases piece with
        | nil => exact .inl h
        | cons c piece => exact .inr ⟨c, _, rfl, .run piece h⟩
    | same c hrun hone h => exact absurd rfl hrun
  · rintro (h | ⟨c, t, rfl, h⟩)
    · exact .run [] h
    · cases h with
      | run piece h => exact .run (c :: piece) h
      | same c hrun hone h => exact absurd rfl hrun

theorem splits_one_iff {p s : List Char} :
    Splits ('_' :: p) s ↔ ∃ c t, s = c :: t ∧ Splits p t := by
  constructor
  · intro h
    cases h with
    | one c h => exact ⟨c, _, rfl, h⟩
    | same c hrun hone h => exact absurd rfl hone
  · rintro ⟨c, t, rfl, h⟩
    exact .one c h

theorem splits_same_iff {q : Char} {p s : List Char} (hrun : q ≠ '%') (hone : q ≠ '_') :
    Splits (q :: p) s ↔ ∃ t, s = q :: t ∧ Splits p t := by
  constructor
  · intro h
    cases h with
    | run piece h => exact absurd rfl hrun
    | one c h => exact absurd rfl hone
    | same c _ _ h => exact ⟨_, rfl, h⟩
  · rintro ⟨t, rfl, h⟩
    exact .same q hrun hone h

/-! ## Expressions -/

/-- What a pattern character stands for. -/
def element (c : Char) : Element :=
  if c = '%' then .many .any else if c = '_' then .one .any else .one (.exactly c)

/-- How the element of a pattern character is written. -/
def written (c : Char) : List Char :=
  if c = '%' then ['.', '*'] else if c = '_' then ['.'] else Regex.escaped c

/-- The elements of a pattern stand between the ends of the text. -/
def elements (pattern : List Char) : List Element := .start :: (pattern.map element ++ [.stop])

theorem toList_escape (s : String) :
    (Regex.escape s).toList = s.toList.flatMap Regex.escaped := String.toList_ofList

/-- The characters that are pending are written before the next wildcard or at the end. -/
theorem toList_expressionFrom : ∀ (pattern : List Char) (front pending : String),
    (expressionFrom front pending pattern).toList = front.toList ++
      (pending.toList.flatMap Regex.escaped ++ (pattern.flatMap written ++ ['$']))
  | [], front, pending => by
      simp [expressionFrom, toList_escape]
  | c :: pattern, front, pending => by
      rw [expressionFrom, List.flatMap_cons, written]
      by_cases hrun : c = '%'
      · rw [if_pos hrun, if_pos hrun, toList_expressionFrom]
        simp [toList_escape]
      · rw [if_neg hrun, if_neg hrun]
        by_cases hone : c = '_'
        · rw [if_pos hone, if_pos hone, toList_expressionFrom]
          simp [toList_escape]
        · rw [if_neg hone, if_neg hone, toList_expressionFrom]
          simp

theorem readFrom_written (done : List Element) (c : Char) (rest : List Char) :
    Regex.readFrom false done (written c ++ rest) =
      Regex.readFrom false (element c :: done) rest := by
  rw [written, element]
  by_cases hrun : c = '%'
  · rw [if_pos hrun, if_pos hrun]
    exact Regex.readFrom_run done rest
  · rw [if_neg hrun, if_neg hrun]
    by_cases hone : c = '_'
    · rw [if_pos hone, if_pos hone]
      exact Regex.readFrom_any done rest
    · rw [if_neg hone, if_neg hone]
      exact Regex.readFrom_escaped done rest c

theorem readFrom_pattern (rest : List Char) : ∀ (pattern : List Char) (done : List Element),
    Regex.readFrom false done (pattern.flatMap written ++ rest) =
      Regex.readFrom false ((pattern.map element).reverse ++ done) rest
  | [], done => rfl
  | c :: pattern, done => by
      rw [List.flatMap_cons, List.append_assoc, readFrom_written, readFrom_pattern rest pattern,
        List.map_cons, List.reverse_cons, List.append_assoc, List.singleton_append]

/-- The expression for a pattern is read as the elements of the pattern, whatever characters the
pattern has. -/
theorem read_expression (pattern : String) :
    Regex.read? (expression pattern) = some ⟨true, elements pattern.toList⟩ := by
  have hchars : (expression pattern).toList =
      Regex.dotAllFlag ++ '^' :: (pattern.toList.flatMap written ++ ['$']) :=
    toList_expressionFrom ..
  have hread : Regex.readFrom false [] ('^' :: (pattern.toList.flatMap written ++ ['$'])) =
      some (elements pattern.toList).reverse := by
    change Regex.readFrom false [.start] _ = _
    rw [readFrom_pattern, Regex.readFrom_stop]
    simp [elements, Regex.readFrom]
  rw [Regex.read_of_flag hchars, hread, Option.map_some, List.reverse_reverse]

example : expression "a.b%_*" = "(?s)^a\\.b.*.\\*$" := by decide +kernel

/-! ## Matches -/

/-- Between the ends of a text, the elements of a pattern match what can be cut into its pieces. -/
theorem reaches_iff : ∀ {pattern s : List Char} {first : Bool},
    Regex.Reaches true (pattern.map element ++ [.stop]) first s ↔ Splits pattern s
  | [], s, first => by
      rw [splits_nil_iff]
      constructor
      · intro h
        cases h with
        | stop h => rfl
      · rintro rfl
        exact .stop .done
  | c :: pattern, s, first => by
      rw [List.map_cons, List.cons_append, element]
      by_cases hrun : c = '%'
      · rw [if_pos hrun, hrun]
        -- The run takes characters of the text one by one.
        induction s generalizing first with
        | nil =>
            rw [Regex.reaches_many_iff, splits_run_iff, reaches_iff]
            refine or_congr_right ⟨?_, ?_⟩
            · rintro ⟨_, _, h, -⟩
              cases h
            · rintro ⟨_, _, h, -⟩
              cases h
        | cons d s ih =>
            rw [Regex.reaches_many_iff, splits_run_iff, reaches_iff]
            refine or_congr_right ⟨?_, ?_⟩
            · rintro ⟨_, _, heq, -, h⟩
              cases heq
              exact ⟨d, s, rfl, (ih false).mp h⟩
            · rintro ⟨_, _, heq, h⟩
              cases heq
              exact ⟨d, s, rfl, rfl, (ih false).mpr h⟩
      · rw [if_neg hrun]
        by_cases hone : c = '_'
        · rw [if_pos hone, hone, Regex.reaches_one_iff, splits_one_iff]
          exact exists₂_congr fun d t => and_congr_right fun _ =>
            (and_iff_right rfl).trans reaches_iff
        · rw [if_neg hone, Regex.reaches_one_iff, splits_same_iff hrun hone]
          constructor
          · rintro ⟨d, t, rfl, hsame, h⟩
            exact ⟨t, beq_iff_eq.mp hsame ▸ rfl, reaches_iff.mp h⟩
          · rintro ⟨t, rfl, h⟩
            exact ⟨c, t, rfl, beq_self_eq_true c, reaches_iff.mpr h⟩

/-- A match is one of the whole text. -/
theorem finds_iff {pattern s : List Char} :
    Regex.Finds ⟨true, elements pattern⟩ s ↔ Splits pattern s := by
  constructor
  · rintro ⟨before, rest, rfl, h⟩
    cases before with
    | nil =>
        cases h with
        | start h => exact reaches_iff.mp h
    | cons c before => cases h
  · intro h
    exact ⟨[], s, rfl, .start (reaches_iff.mpr h)⟩

/-- A pattern is refused only if its automata are too large. -/
theorem regex_eq (pattern : String) : regex? pattern =
    if Regex.affordable ⟨true, elements pattern.toList⟩ then some ⟨true, elements pattern.toList⟩
    else none := by
  rw [regex?, Regex.compile?, read_expression, Option.filter_some]

theorem regex_of_affordable {pattern : String} (h : affordable pattern = true) :
    regex? pattern = some ⟨true, elements pattern.toList⟩ := by
  rw [affordable, regex_eq] at h
  rw [regex_eq]
  split at h
  · rw [if_pos ‹_›]
  · cases h

end Wildcard

/-- A datum fits a pattern if and only if its text can be cut into the pieces of the pattern. -/
theorem fits_iff {pattern : String} (h : Wildcard.affordable pattern = true) (d : Datum) :
    d.fits pattern = true ↔ Wildcard.Splits pattern.toList d.shown.toList := by
  rw [Datum.fits, Wildcard.regex_of_affordable h, Option.any_some, Text.Regex.isMatch_iff,
    Wildcard.finds_iff]

end Columnar.Filter

/-
# `Proofs.Filter.Pieces` — texts as runs of pieces

A text is the pieces it is cut into, one behind the other, and what is left
over: blanks, and behind them what no lexeme begins (`cut_scan`).  The
other way around, pieces whose lexemes each stand in front of what follows
are found again in the text they are written to (`scan_written`).
-/
import Columnar.Proofs.Filter.Boundaries

namespace Columnar.Filter

open Columnar.Text Number

/-- The characters of the pieces. -/
def written : List Piece → List Char
  | [] => []
  | p :: ps => p.gap ++ (p.source ++ written ps)

/-- In front of `after`, each piece is a run of blanks and the characters of its lexeme. -/
inductive Cut (after : List Char) : List Piece → Prop
  | done : Cut after []
  | piece {p : Piece} {ps : List Piece} : (∀ c ∈ p.gap, isBlank c = true) →
      Spells p.source p.lexeme (written ps ++ after) → Cut after ps → Cut after (p :: ps)

/-- Why there are no more pieces: the text is at its end, or no lexeme begins with what is left. -/
inductive Stuck : Option LexFault → List Char → Prop
  | finished : Stuck none []
  | fault {c : Char} {rest : List Char} {fault : LexFault} : isBlank c = false →
      lexeme c rest = .error fault → Stuck (some fault) (c :: rest)

theorem takeWhile_blank {gap : List Char} {first : Char} (hgap : ∀ c ∈ gap, isBlank c = true)
    (hfirst : isBlank first = false) (rest : List Char) :
    (gap ++ first :: rest).takeWhile isBlank = gap ∧
      (gap ++ first :: rest).dropWhile isBlank = first :: rest := by
  have hstop : ¬ isBlank first = true := Bool.eq_false_iff.mp hfirst
  constructor
  · rw [List.takeWhile_append_of_pos hgap, List.takeWhile_cons_of_neg hstop, List.append_nil]
  · rw [List.dropWhile_append_of_pos hgap, List.dropWhile_cons_of_neg hstop]

theorem scan_written {ps : List Piece} {after : List Char} (h : Cut after ps) :
    scan (written ps ++ after) =
      ⟨ps ++ (scan after).pieces, (scan after).gap, (scan after).fault⟩ := by
  induction h with
  | done => rfl
  | @piece p ps hgap hspells _ ih =>
      obtain ⟨first, tail, hsource, hblank, hl⟩ := hspells
      obtain ⟨htake, hdrop⟩ := takeWhile_blank hgap hblank (tail ++ (written ps ++ after))
      have htext : written (p :: ps) ++ after =
          p.gap ++ first :: (tail ++ (written ps ++ after)) := by
        simp only [written, hsource, List.append_assoc, List.cons_append]
      rw [htext, scan_ok hdrop hl, htake, List.take_left, List.drop_left, ih, ← hsource]
      rfl

theorem isBlank_takeWhile (cs : List Char) : ∀ c ∈ cs.takeWhile isBlank, isBlank c = true :=
  List.all_eq_true.mp List.all_takeWhile

/-- The lexeme a text begins with stands in front of the rest of the text. -/
theorem spells_of_lexeme {first : Char} {rest : List Char} {l : Lexeme} {n : Nat}
    (hblank : isBlank first = false) (h : lexeme first rest = .ok (l, n)) :
    Spells (first :: rest.take n) l (rest.drop n) := by
  have hlength := List.length_take_of_le (begins_le (lexeme_ok_iff.mp h))
  refine ⟨first, rest.take n, rfl, hblank, ?_⟩
  rw [List.take_append_drop, hlength]
  exact h

/-- A text is its pieces and what is left over. -/
theorem cut_scan (cs : List Char) : ∃ left, Stuck (scan cs).fault left ∧
    (∀ c ∈ (scan cs).gap, isBlank c = true) ∧ Cut ((scan cs).gap ++ left) (scan cs).pieces ∧
    written (scan cs).pieces ++ ((scan cs).gap ++ left) = cs := by
  induction cs using scan.induct with
  | case1 cs hcs =>
      have hall : cs.takeWhile isBlank ++ [] = cs := by
        rw [← hcs, List.takeWhile_append_dropWhile]
      rw [scan_end hcs]
      exact ⟨[], .finished, isBlank_takeWhile cs, .done, hall⟩
  | case2 cs first rest hcs fault hl =>
      have hall : cs.takeWhile isBlank ++ first :: rest = cs := by
        rw [← hcs, List.takeWhile_append_dropWhile]
      rw [scan_error hcs hl]
      exact ⟨first :: rest, .fault (head_dropWhile hcs) hl, isBlank_takeWhile cs, .done, hall⟩
  | case3 cs first rest hcs l n hl ih =>
      obtain ⟨left, hstuck, hgap, hcut, hwritten⟩ := ih
      have hspells := spells_of_lexeme (head_dropWhile hcs) hl
      rw [← hwritten] at hspells
      rw [scan_ok hcs hl]
      refine ⟨left, hstuck, hgap, .piece (isBlank_takeWhile cs) hspells hcut, ?_⟩
      calc cs.takeWhile isBlank ++ (first :: rest.take n ++ written (scan (rest.drop n)).pieces) ++
            ((scan (rest.drop n)).gap ++ left)
          = cs.takeWhile isBlank ++ (first :: rest.take n ++
              (written (scan (rest.drop n)).pieces ++ ((scan (rest.drop n)).gap ++ left))) := by
            rw [List.append_assoc, List.append_assoc]
        _ = cs.takeWhile isBlank ++ first :: rest := by
            rw [hwritten, List.cons_append, List.take_append_drop]
        _ = cs := by rw [← hcs, List.takeWhile_append_dropWhile]

theorem scan_blank {gap : List Char} (hgap : ∀ c ∈ gap, isBlank c = true) :
    scan gap = ⟨[], gap, none⟩ := by
  have hdrop : gap.dropWhile isBlank = [] := List.dropWhile_eq_nil_iff.mpr hgap
  have htake : gap.takeWhile isBlank = gap := List.takeWhile_eq_self_iff.mpr hgap
  rw [scan_end hdrop, htake]

/-- The pieces of a text that ends behind them in blanks are its tokens. -/
theorem tokenize_written {ps : List Piece} {gap : List Char} (hgap : ∀ c ∈ gap, isBlank c = true)
    (h : Cut gap ps) : tokenize (String.ofList (written ps ++ gap)) = .ok (place 0 ps) := by
  rw [tokenize, String.toList_ofList, scan_written h, scan_blank hgap, List.append_nil]

/-- What comes later may be left out: a lexeme that does not go on with it ends here as well. -/
theorem Cut.shorten {ps : List Piece} {after longer : List Char} (h : Cut longer ps)
    (hfront : after <+: longer) : Cut after ps := by
  induction h with
  | done => exact .done
  | @piece p ps hgap hspells _ ih =>
      obtain ⟨halone, hends⟩ := spells_iff.mp hspells
      have hshorter := (List.prefix_append_right_inj (written ps)).mpr hfront
      exact .piece hgap (spells_iff.mpr ⟨halone, hends.shorten hshorter⟩) ih

/-- Read alone, the characters of a lexeme are that lexeme. -/
theorem tokenize_spelled {w : List Char} {l : Lexeme} (h : Spells w l []) :
    tokenize (String.ofList w) = .ok [⟨l, 0⟩] := by
  have hnone : ∀ c ∈ ([] : List Char), isBlank c = true := fun _ hc => absurd hc List.not_mem_nil
  have hcut : Cut [] [⟨[], w, l⟩] := .piece hnone h .done
  have htokens := tokenize_written hnone hcut
  simp only [written, List.nil_append, List.append_nil] at htokens
  exact htokens

end Columnar.Filter

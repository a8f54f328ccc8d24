/-
# `Proofs.Text.Regex` — what is read and what is found

A text that is escaped is read as its characters.  The marks that the
decision keeps say for every place of the text whether the elements match
from there on (`Marks`); each element in front keeps that, so a match is
found if and only if there is one (`isMatch_iff`).
-/
import Columnar.Text.Regex

namespace Columnar.Text.Regex

/-! ## Reading -/

section
variable (done : List Element) (rest : List Char)

theorem readFrom_any :
    readFrom false done ('.' :: rest) = readFrom false (.one .any :: done) rest := rfl

theorem readFrom_run :
    readFrom false done ('.' :: '*' :: rest) = readFrom false (.many .any :: done) rest := rfl

theorem readFrom_stop : readFrom false done ('$' :: rest) = readFrom false (.stop :: done) rest :=
  rfl

theorem put_of_not_meta {c : Char} (h : isMeta c = false) :
    put? c done = some (.one (.exactly c) :: done) := by
  have hne : ∀ d, isMeta d = true → c ≠ d := by
    rintro d hd rfl
    rw [hd] at h
    cases h
  simp only [put?, if_neg (hne '^' rfl), if_neg (hne '$' rfl), if_neg (hne '.' rfl),
    if_neg (hne '*' rfl), h, Bool.false_eq_true, if_false]

/-- Escaped, every character stands for itself. -/
theorem readFrom_escaped (c : Char) :
    readFrom false done (escaped c ++ rest) = readFrom false (.one (.exactly c) :: done) rest := by
  rw [escaped]
  cases hmeta : isMeta c with
  | true =>
      change readFrom true done (c :: rest) = _
      rw [readFrom, if_pos hmeta]
  | false =>
      have hplain : c ≠ '\\' := by
        rintro rfl
        cases hmeta
      change readFrom false done (c :: rest) = _
      rw [readFrom, if_neg hplain, put_of_not_meta done hmeta]

end

/-- After the flag, elements are read. -/
theorem read_of_flag {text : String} {rest : List Char} (h : text.toList = dotAllFlag ++ rest) :
    read? text = (readFrom false [] rest).map fun done => ⟨true, done.reverse⟩ := by
  have hflag : dotAllFlag.isPrefixOf (dotAllFlag ++ rest) = true :=
    List.isPrefixOf_iff_prefix.mpr (List.prefix_append ..)
  rw [read?, h]
  simp only [hflag, if_true, List.drop_left]

/-! ## Marks -/

/-- There is a mark for each place of a text, the first one first, that says whether the rest of
the text from there on has a property.  Whether the place is the first one may count. -/
inductive Marks (p : Bool → List Char → Prop) : Bool → List Char → List Bool → Prop
  | last {first mark : Bool} : (mark = true ↔ p first []) → Marks p first [] [mark]
  | more {first : Bool} {c : Char} {s : List Char} {mark : Bool} {marks : List Bool} :
      (mark = true ↔ p first (c :: s)) → Marks p false s marks →
      Marks p first (c :: s) (mark :: marks)

section
variable {p : Bool → List Char → Prop} {first : Bool} {s : List Char} {marks : List Bool}

theorem Marks.head (h : Marks p first s marks) : marks.headD false = true ↔ p first s := by
  cases h with
  | last hmark => exact hmark
  | more hmark _ => exact hmark

theorem Marks.eq_cons (h : Marks p first s marks) : marks = marks.headD false :: marks.tail := by
  cases h with
  | last _ => rfl
  | more _ _ => rfl

/-- A mark is set if and only if the property holds of the text from some place on. -/
theorem Marks.any (h : Marks p first s marks) : marks.any id = true ↔
    ∃ before rest, s = before ++ rest ∧ p (first && before.isEmpty) rest := by
  induction h with
  | last hmark =>
      rw [List.any_cons, List.any_nil, Bool.or_false, id, hmark]
      constructor
      · exact fun h => ⟨[], [], rfl, by simpa using h⟩
      · rintro ⟨before, rest, heq, h⟩
        obtain ⟨rfl, rfl⟩ := List.append_eq_nil_iff.mp heq.symm
        simpa using h
  | @more first c s mark marks hmark _ ih =>
      rw [List.any_cons, Bool.or_eq_true, ih, id, hmark]
      constructor
      · rintro (h | ⟨before, rest, rfl, h⟩)
        · exact ⟨[], c :: s, rfl, by simpa using h⟩
        · exact ⟨c :: before, rest, rfl, by simpa using h⟩
      · rintro ⟨before, rest, heq, h⟩
        cases before with
        | nil =>
            cases heq
            exact .inl (by simpa using h)
        | cons d before =>
            cases heq
            exact .inr ⟨before, rest, rfl, by simpa using h⟩

theorem marks_all (h : ∀ first s, p first s) :
    ∀ first s, Marks p first s (s.map (fun _ => true) ++ [true])
  | first, [] => .last ⟨fun _ => h first [], fun _ => rfl⟩
  | first, c :: s => .more ⟨fun _ => h first (c :: s), fun _ => rfl⟩ (marks_all h false s)

theorem marks_none (h : ∀ s, ¬ p false s) :
    ∀ s : List Char, Marks p false s (false :: s.map fun _ => false)
  | [] => .last ⟨fun hmark => (nomatch hmark), fun hp => absurd hp (h [])⟩
  | c :: s =>
      .more ⟨fun hmark => (nomatch hmark), fun hp => absurd hp (h (c :: s))⟩ (marks_none h s)

end

/-! ## Elements -/

section
variable {dotAll first : Bool} {es : List Element} {a : Atom} {s : List Char} {marks : List Bool}

theorem reaches_one_iff : Reaches dotAll (.one a :: es) first s ↔
    ∃ c t, s = c :: t ∧ a.admits dotAll c = true ∧ Reaches dotAll es false t := by
  constructor
  · intro h
    cases h with
    | one hadmits h => exact ⟨_, _, rfl, hadmits, h⟩
  · rintro ⟨c, t, rfl, hadmits, h⟩
    exact .one hadmits h

/-- A run is empty, or it takes the first character of the text. -/
theorem reaches_many_iff : Reaches dotAll (.many a :: es) first s ↔
    Reaches dotAll es first s ∨
      ∃ c t, s = c :: t ∧ a.admits dotAll c = true ∧ Reaches dotAll (.many a :: es) false t := by
  constructor
  · intro h
    cases h with
    | none h => exact .inl h
    | more hadmits h => exact .inr ⟨_, _, rfl, hadmits, h⟩
  · rintro (h | ⟨c, t, rfl, hadmits, h⟩)
    · exact .none h
    · exact .more hadmits h

theorem marks_start (h : Marks (Reaches dotAll es) true s marks) :
    Marks (Reaches dotAll (.start :: es)) true s (marks.headD false :: s.map fun _ => false) := by
  have hhead : marks.headD false = true ↔ Reaches dotAll (.start :: es) true s := by
    rw [h.head]
    constructor
    · exact .start
    · intro h
      cases h with
      | start h => exact h
  have hnone : ∀ t, ¬ Reaches dotAll (.start :: es) false t := by
    intro t h
    cases h
  cases s with
  | nil => exact .last hhead
  | cons c s => exact .more hhead (marks_none hnone s)

theorem marks_stop (h : Marks (Reaches dotAll es) first s marks) :
    Marks (Reaches dotAll (.stop :: es)) first s
      (s.map (fun _ => false) ++ [marks.getLastD false]) := by
  induction h with
  | last hmark =>
      refine .last (hmark.trans ⟨.stop, fun h => ?_⟩)
      cases h with
      | stop h => exact h
  | @more first c s mark marks _ hrest ih =>
      have hlast : (mark :: marks).getLastD false = marks.getLastD false := by
        rw [hrest.eq_cons]
        rfl
      rw [hlast]
      refine .more ⟨fun h => ?_, fun h => ?_⟩ ih
      · cases h
      · cases h

theorem marks_one (h : Marks (Reaches dotAll es) first s marks) :
    Marks (Reaches dotAll (.one a :: es)) first s
      (List.zipWith (fun c mark => a.admits dotAll c && mark) s marks.tail ++ [false]) := by
  induction h with
  | last _ =>
      refine .last ⟨fun h => ?_, fun h => ?_⟩
      · cases h
      · cases h
  | @more first c s mark marks _ hrest ih =>
      rw [List.tail_cons, hrest.eq_cons, List.zipWith_cons_cons, List.cons_append]
      refine .more ?_ ih
      rw [Bool.and_eq_true, hrest.head, reaches_one_iff]
      constructor
      · rintro ⟨hadmits, h⟩
        exact ⟨c, s, rfl, hadmits, h⟩
      · rintro ⟨_, _, heq, h⟩
        cases heq
        exact h

theorem marks_many (h : Marks (Reaches dotAll es) first s marks) :
    Marks (Reaches dotAll (.many a :: es)) first s (runs (a.admits dotAll) s marks) := by
  induction h with
  | last hmark =>
      refine .last (hmark.trans ⟨.none, fun h => ?_⟩)
      cases h with
      | none h => exact h
  | @more first c s mark marks hmark _ ih =>
      refine .more ?_ ih
      rw [Bool.or_eq_true, Bool.and_eq_true, hmark, ih.head, reaches_many_iff (s := c :: s)]
      refine or_congr_right ⟨fun h => ⟨c, s, rfl, h⟩, ?_⟩
      rintro ⟨_, _, heq, h⟩
      cases heq
      exact h

/-- An element in front keeps what the marks mean. -/
theorem marks_marked (e : Element) (h : Marks (Reaches dotAll es) true s marks) :
    Marks (Reaches dotAll (e :: es)) true s (marked dotAll s e marks) := by
  cases e with
  | start => exact marks_start h
  | stop => exact marks_stop h
  | one a => exact marks_one h
  | many a => exact marks_many h

theorem marks_elements (dotAll : Bool) (s : List Char) : ∀ es : List Element,
    Marks (Reaches dotAll es) true s
      (es.foldr (marked dotAll s) (s.map (fun _ => true) ++ [true]))
  | [] => marks_all (fun _ _ => .done) true s
  | e :: es => marks_marked e (marks_elements dotAll s es)

end

/-- A match is found if and only if there is one. -/
theorem isMatch_iff (re : Regex) (text : String) :
    re.isMatch text = true ↔ re.Finds text.toList := by
  rw [isMatch, (marks_elements re.dotAll text.toList re.elements).any, Finds]
  simp only [Bool.true_and]

end Columnar.Text.Regex

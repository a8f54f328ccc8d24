/-
# `Proofs.Filter.Boundaries` — where a lexeme ends

A lexeme is read as far as its characters go, so what stands behind it can
only matter by its first character.  `Lexeme.goesOn` says which character
would be read as part of a lexeme: a word goes on with the characters of
words, a number with those that its last character admits, a text literal
with a second quote, and `<` and `>` with the second half of a longer
operator.  `spells_iff`: the lexeme stands in front of a text exactly if it
is read alone and does not go on with what follows.  Characters that are
`Outside` end every lexeme, blanks among them.
-/
import Columnar.Proofs.Filter.Scanning
import Columnar.Proofs.Text.Class

namespace Columnar.Filter

open Columnar.Text Number

/-! ## What a lexeme goes on with -/

/-- Behind the characters `w` of the lexeme, the character is read as one more of them. -/
def Lexeme.goesOn (w : List Char) : Lexeme → Char → Bool
  | .identifier _, c => continuesWord c
  | .keyword _, c => continuesWord c
  | .number _, c => w.getLast?.any fun prev => continuesNumber prev c
  | .text _, c => c = '\''
  | .operator .lt, c => c = '=' || c = '>'
  | .operator .gt, c => c = '='
  | _, _ => false

/-- The lexeme, written as `w`, does not go on with what follows. -/
def Lexeme.EndsAt (l : Lexeme) (w after : List Char) : Prop :=
  ∀ c ∈ after.head?, l.goesOn w c = false

theorem endsAt_nil (l : Lexeme) (w : List Char) : l.EndsAt w [] := fun _ hc => nomatch hc

theorem endsAt_cons {l : Lexeme} {w : List Char} {c : Char} {after : List Char} :
    l.EndsAt w (c :: after) ↔ l.goesOn w c = false :=
  ⟨fun h => h c rfl, fun h _ hd => Option.some.inj hd ▸ h⟩

/-! ## Operators -/

/-- The texts of an operator. -/
def Comparison.spellings : Comparison → List (List Char)
  | .eq => [['=']]
  | .ne => [['!', '='], ['<', '>']]
  | .lt => [['<']]
  | .le => [['<', '=']]
  | .gt => [['>']]
  | .ge => [['>', '=']]

section
variable {first c d : Char} {tail after rest : List Char} {op op' : Comparison}

theorem operator_of_one (h : some (op', 0) = some (op, tail.length))
    (heq : first :: (tail ++ after) = c :: rest) (hmem : [c] ∈ op'.spellings)
    (hends : (Lexeme.operator op').EndsAt [c] rest) :
    first :: tail ∈ op.spellings ∧ (Lexeme.operator op).EndsAt (first :: tail) after := by
  obtain ⟨rfl, hlength⟩ := Prod.mk.inj (Option.some.inj h)
  obtain ⟨rfl, rfl⟩ := List.cons.inj heq
  obtain rfl := List.eq_nil_of_length_eq_zero hlength.symm
  exact ⟨hmem, hends⟩

theorem operator_of_two (h : some (op', 1) = some (op, tail.length))
    (heq : first :: (tail ++ after) = c :: d :: rest) (hmem : [c, d] ∈ op'.spellings)
    (hends : (Lexeme.operator op').EndsAt [c, d] rest) :
    first :: tail ∈ op.spellings ∧ (Lexeme.operator op).EndsAt (first :: tail) after := by
  obtain ⟨rfl, hlength⟩ := Prod.mk.inj (Option.some.inj h)
  obtain ⟨rfl, hrest⟩ := List.cons.inj heq
  obtain ⟨rfl, rfl⟩ := List.append_inj (hrest.trans List.singleton_append.symm) hlength.symm
  exact ⟨hmem, hends⟩

theorem endsAt_lt (heq : ∀ rest', rest ≠ '=' :: rest') (hgt : ∀ rest', rest ≠ '>' :: rest') :
    (Lexeme.operator .lt).EndsAt ['<'] rest := by
  cases rest with
  | nil => exact endsAt_nil _ _
  | cons c rest =>
      have hc : c ≠ '=' ∧ c ≠ '>' := ⟨fun hc => heq rest (hc ▸ rfl), fun hc => hgt rest (hc ▸ rfl)⟩
      simp [endsAt_cons, Lexeme.goesOn, hc]

theorem endsAt_gt (heq : ∀ rest', rest ≠ '=' :: rest') :
    (Lexeme.operator .gt).EndsAt ['>'] rest := by
  cases rest with
  | nil => exact endsAt_nil _ _
  | cons c rest =>
      have hc : c ≠ '=' := fun hc => heq rest (hc ▸ rfl)
      simp [endsAt_cons, Lexeme.goesOn, hc]

/-- An operator is one of its texts, where it is not the beginning of a longer one. -/
theorem operator_iff : operator? (first :: (tail ++ after)) = some (op, tail.length) ↔
    first :: tail ∈ op.spellings ∧ (Lexeme.operator op).EndsAt (first :: tail) after := by
  constructor
  · intro h
    rw [operator?.eq_def] at h
    split at h
    · next heq => exact operator_of_two h heq (by decide) fun _ _ => rfl
    · next heq => exact operator_of_two h heq (by decide) fun _ _ => rfl
    · next hle hne heq => exact operator_of_one h heq (by decide) (endsAt_lt hle hne)
    · next heq => exact operator_of_two h heq (by decide) fun _ _ => rfl
    · next hge heq => exact operator_of_one h heq (by decide) (endsAt_gt hge)
    · next heq => exact operator_of_two h heq (by decide) fun _ _ => rfl
    · next heq => exact operator_of_one h heq (by decide) fun _ _ => rfl
    · cases h
  · rintro ⟨hmem, hends⟩
    cases op with
    | eq =>
        cases List.mem_singleton.mp hmem
        rfl
    | ne =>
        rcases List.mem_cons.mp hmem with heq | hmem
        · cases heq
          rfl
        · cases List.mem_singleton.mp hmem
          rfl
    | lt =>
        cases List.mem_singleton.mp hmem
        cases after with
        | nil => rfl
        | cons c after =>
            have hc := endsAt_cons.mp hends
            simp only [Lexeme.goesOn, Bool.or_eq_false_iff, decide_eq_false_iff_not] at hc
            simp [operator?, hc.1, hc.2]
    | le =>
        cases List.mem_singleton.mp hmem
        rfl
    | gt =>
        cases List.mem_singleton.mp hmem
        cases after with
        | nil => rfl
        | cons c after =>
            have hc := endsAt_cons.mp hends
            simp only [Lexeme.goesOn, decide_eq_false_iff_not] at hc
            simp [operator?, hc]
    | ge =>
        cases List.mem_singleton.mp hmem
        rfl

end

/-! ## Runs -/

/-- A run of characters of words ends where the next one is none. -/
theorem takeWhile_append_iff {p : Char → Bool} {tail after : List Char} :
    (tail ++ after).takeWhile p = tail ↔
      tail.takeWhile p = tail ∧ ∀ c ∈ after.head?, p c = false := by
  induction tail with
  | nil =>
      cases after with
      | nil => simp
      | cons c after => simp [List.takeWhile_cons]
  | cons c tail ih =>
      rw [List.cons_append, List.takeWhile_cons, List.takeWhile_cons]
      split
      · rw [List.cons.injEq, List.cons.injEq, ih]
        exact (and_assoc).symm.trans (and_congr_left fun _ => Iff.rfl)
      · simp

theorem prefix_numberTail (prev : Char) (rest : List Char) : numberTail prev rest <+: rest := by
  induction rest generalizing prev with
  | nil => exact List.prefix_refl []
  | cons c rest ih =>
      rw [numberTail]
      split
      · exact List.cons_prefix_cons.mpr ⟨rfl, ih c⟩
      · exact List.nil_prefix

/-- The last character of a number decides what it goes on with. -/
theorem numberTail_append_iff {prev : Char} {tail after : List Char} :
    numberTail prev (tail ++ after) = tail ↔
      numberTail prev tail = tail ∧
        ∀ c ∈ after.head?, ((prev :: tail).getLast?.any fun q => continuesNumber q c) = false := by
  induction tail generalizing prev with
  | nil =>
      cases after with
      | nil => simp [numberTail]
      | cons c after => simp [numberTail]
  | cons d tail ih =>
      rw [List.cons_append, numberTail, numberTail, List.getLast?_cons_cons]
      split
      · rw [List.cons.injEq, List.cons.injEq, ih]
        exact (and_assoc).symm.trans (and_congr_left fun _ => Iff.rfl)
      · simp

/-- A step of `textBody?` puts a character in front of the value and counts `k` characters. -/
theorem map_cons_iff {r : Option (List Char × Nat)} {c : Char} {k m : Nat} {value : List Char} :
    r.map (fun (v, n) => (c :: v, n + k)) = some (value, m + k) ↔
      ∃ v, r = some (v, m) ∧ c :: v = value := by
  constructor
  · intro h
    obtain ⟨⟨v, n⟩, rfl, heq⟩ := Option.map_eq_some_iff.mp h
    obtain ⟨hvalue, hcount⟩ := Prod.mk.inj heq
    obtain rfl := Nat.add_right_cancel hcount
    exact ⟨v, rfl, hvalue⟩
  · rintro ⟨v, rfl, rfl⟩
    rfl

theorem textBody_pos {body value : List Char} {n : Nat} (h : textBody? body = some (value, n)) :
    n ≠ 0 := by
  rintro rfl
  induction body using textBody?.induct with
  | case1 => cases h
  | case2 => cases h
  | case3 c rest _ => simp [textBody?] at h
  | case4 rest _ => simp [textBody?] at h
  | case5 rest hquote =>
      rw [textBody?.eq_5 _ hquote] at h
      cases h
  | case6 c rest hbackslash hquote _ =>
      rw [textBody?.eq_6 _ _ hbackslash hquote] at h
      simp at h

theorem textBody_le {body value : List Char} {n : Nat} (h : textBody? body = some (value, n)) :
    n ≤ body.length := by
  induction body using textBody?.induct generalizing value n with
  | case1 => cases h
  | case2 => cases h
  | case3 c rest ih =>
      obtain ⟨⟨v, m⟩, hrest, heq⟩ := Option.map_eq_some_iff.mp h
      cases heq
      exact Nat.add_le_add_right (ih hrest) 2
  | case4 rest ih =>
      obtain ⟨⟨v, m⟩, hrest, heq⟩ := Option.map_eq_some_iff.mp h
      cases heq
      exact Nat.add_le_add_right (ih hrest) 2
  | case5 rest hquote =>
      rw [textBody?.eq_5 _ hquote] at h
      cases h
      exact Nat.succ_pos rest.length
  | case6 c rest hbackslash hquote ih =>
      rw [textBody?.eq_6 _ _ hbackslash hquote] at h
      obtain ⟨⟨v, m⟩, hrest, heq⟩ := Option.map_eq_some_iff.mp h
      cases heq
      exact Nat.add_le_add_right (ih hrest) 1

/-- A text literal ends with a quote that no second one follows. -/
theorem textBody_append_iff {tail after value : List Char} :
    textBody? (tail ++ after) = some (value, tail.length) ↔
      textBody? tail = some (value, tail.length) ∧ ∀ c ∈ after.head?, c ≠ '\'' := by
  induction tail using textBody?.induct generalizing value with
  | case1 =>
      constructor
      · intro h
        exact absurd rfl (textBody_pos h)
      · rintro ⟨h, -⟩
        cases h
  | case2 =>
      constructor
      · intro h
        cases after with
        | nil => cases h
        | cons c after => simp [textBody?] at h
      · rintro ⟨h, -⟩
        cases h
  | case3 c rest ih =>
      rw [List.cons_append, List.cons_append, textBody?, textBody?, List.length_cons,
        List.length_cons, map_cons_iff, map_cons_iff]
      simp only [ih, and_right_comm, exists_and_right]
  | case4 rest ih =>
      rw [List.cons_append, List.cons_append, textBody?, textBody?, List.length_cons,
        List.length_cons, map_cons_iff, map_cons_iff]
      simp only [ih, and_right_comm, exists_and_right]
  | case5 rest hquote =>
      cases rest with
      | nil =>
          cases after with
          | nil => simp [textBody?]
          | cons c after =>
              by_cases hc : c = '\''
              · simp [hc, textBody?]
              · simp [hc, textBody?, eq_comm]
      | cons d rest =>
          have hd : d ≠ '\'' := fun hd => hquote rest (hd ▸ rfl)
          simp [textBody?, hd]
  | case6 c rest hbackslash hquote ih =>
      rw [List.cons_append, textBody?.eq_6 _ _ hbackslash hquote,
        textBody?.eq_6 _ _ hbackslash hquote, List.length_cons, map_cons_iff, map_cons_iff]
      simp only [ih, and_right_comm, exists_and_right]

/-! ## Lexemes -/

theorem goesOn_punctuation {first : Char} {l : Lexeme} (h : punctuation? first = some l)
    (w : List Char) (c : Char) : l.goesOn w c = false := by
  rw [punctuation?.eq_def] at h
  split at h <;> cases h <;> rfl

theorem goesOn_wordLexeme (word w : List Char) (c : Char) :
    (wordLexeme word).goesOn w c = continuesWord c := by
  rw [wordLexeme]
  split
  · rfl
  · rfl

theorem eq_of_prefix_append {run tail after : List Char} (h : run <+: tail ++ after)
    (hlength : tail.length = run.length) : run = tail := by
  obtain ⟨rest, hrest⟩ := h
  exact List.append_inj_left hrest hlength.symm

/-- A lexeme takes characters of the text only. -/
theorem begins_le {first : Char} {rest : List Char} {l : Lexeme} {n : Nat}
    (h : Begins first rest l n) : n ≤ rest.length := by
  cases h with
  | punctuation _ hn => exact hn ▸ Nat.zero_le rest.length
  | operator hop _ =>
      rw [operator?.eq_def] at hop
      split at hop <;> simp_all <;> omega
  | text _ hvalue _ => exact textBody_le hvalue
  | number _ _ _ _ hn => exact hn ▸ (prefix_numberTail first rest).length_le
  | word _ _ _ _ hn => exact hn ▸ (List.takeWhile_sublist continuesWord).length_le

/-- What stands behind a lexeme matters only by the character that follows. -/
theorem begins_append_iff {first : Char} {tail after : List Char} {l : Lexeme} :
    Begins first (tail ++ after) l tail.length ↔
      Begins first tail l tail.length ∧ l.EndsAt (first :: tail) after := by
  have hoperator {op : Comparison} : operator? (first :: tail) = some (op, tail.length) ↔
      first :: tail ∈ op.spellings := by
    have halone : operator? (first :: (tail ++ [])) = some (op, tail.length) ↔ _ := operator_iff
    rw [List.append_nil] at halone
    rw [halone]
    exact and_iff_left (endsAt_nil _ _)
  constructor
  · intro h
    cases h with
    | punctuation hl hn =>
        exact ⟨.punctuation hl hn, fun c _ => goesOn_punctuation hl _ c⟩
    | operator hop hl =>
        subst hl
        obtain ⟨hmem, hends⟩ := operator_iff.mp hop
        exact ⟨.operator (hoperator.mpr hmem) rfl, hends⟩
    | text hquote hvalue hl =>
        subst hl
        obtain ⟨hvalue, hends⟩ := textBody_append_iff.mp hvalue
        exact ⟨.text hquote hvalue rfl, fun c hc => decide_eq_false (hends c hc)⟩
    | number hunreserved hnumber hrun hl hn =>
        have htail := eq_of_prefix_append (prefix_numberTail _ _) hn
        rw [htail] at hrun hl
        subst hl
        obtain ⟨hself, hends⟩ := numberTail_append_iff.mp htail
        rw [← hself] at hrun
        exact ⟨.number hunreserved hnumber hrun (by rw [hself]) (by rw [hself]), hends⟩
    | word hunreserved hnumber hword hl hn =>
        have hfront : (tail ++ after).takeWhile continuesWord <+: tail ++ after :=
          List.takeWhile_prefix continuesWord
        have htail := eq_of_prefix_append hfront hn
        rw [htail] at hl
        subst hl
        obtain ⟨hself, hends⟩ := takeWhile_append_iff.mp htail
        refine ⟨.word hunreserved hnumber hword (by rw [hself]) (by rw [hself]), ?_⟩
        intro c hc
        rw [goesOn_wordLexeme]
        exact hends c hc
  · rintro ⟨h, hends⟩
    cases h with
    | punctuation hl hn => exact .punctuation hl hn
    | operator hop hl =>
        subst hl
        exact .operator (operator_iff.mpr ⟨hoperator.mp hop, hends⟩) rfl
    | text hquote hvalue hl =>
        subst hl
        refine .text hquote (textBody_append_iff.mpr ⟨hvalue, ?_⟩) rfl
        exact fun c hc => of_decide_eq_false (hends c hc)
    | number hunreserved hnumber hrun hl hn =>
        have hself := (prefix_numberTail first tail).eq_of_length hn.symm
        rw [hself] at hrun hl
        subst hl
        have htail := numberTail_append_iff.mpr ⟨hself, hends⟩
        exact .number hunreserved hnumber (by rwa [htail]) (by rw [htail]) (by rw [htail])
    | word hunreserved hnumber hword hl hn =>
        have hfront : tail.takeWhile continuesWord <+: tail := List.takeWhile_prefix continuesWord
        have hself := hfront.eq_of_length hn.symm
        rw [hself] at hl
        subst hl
        simp only [Lexeme.EndsAt, goesOn_wordLexeme] at hends
        have htail := takeWhile_append_iff.mpr ⟨hself, hends⟩
        exact .word hunreserved hnumber hword (by rw [htail]) (by rw [htail])

/-- A lexeme stands in front of a text if it stands alone and does not go on with the text. -/
theorem spells_iff {w after : List Char} {l : Lexeme} :
    Spells w l after ↔ Spells w l [] ∧ l.EndsAt w after := by
  simp only [Spells, lexeme_ok_iff, List.append_nil, begins_append_iff]
  constructor
  · rintro ⟨first, tail, rfl, hblank, hbegins, hends⟩
    exact ⟨⟨first, tail, rfl, hblank, hbegins⟩, hends⟩
  · rintro ⟨⟨first, tail, rfl, hblank, hbegins⟩, hends⟩
    exact ⟨first, tail, rfl, hblank, hbegins, hends⟩

theorem Lexeme.EndsAt.shorten {l : Lexeme} {w after longer : List Char}
    (h : l.EndsAt w longer) (hfront : after <+: longer) : l.EndsAt w after := by
  intro c hc
  obtain ⟨rest, rfl⟩ := hfront
  refine h c ?_
  rw [List.head?_append, hc]
  rfl

/-! ## Characters that end everything -/

/-- The character is none that some lexeme goes on with. -/
structure Outside (c : Char) : Prop where
  word : continuesWord c = false
  number : ∀ prev, continuesNumber prev c = false
  quote : c ≠ '\''
  equal : c ≠ '='
  greater : c ≠ '>'

theorem goesOn_outside {c : Char} (h : Outside c) (l : Lexeme) (w : List Char) :
    l.goesOn w c = false := by
  cases l with
  | identifier _ => exact h.word
  | keyword _ => exact h.word
  | number _ =>
      rw [Lexeme.goesOn, Option.any_eq_false]
      intro prev _
      simp [h.number]
  | text _ => exact decide_eq_false h.quote
  | operator op => cases op <;> simp [Lexeme.goesOn, h.equal, h.greater]
  | openParen => rfl
  | closeParen => rfl
  | comma => rfl
  | openBracket => rfl
  | closeBracket => rfl

theorem endsAt_outside {l : Lexeme} {w after : List Char} (h : ∀ c ∈ after.head?, Outside c) :
    l.EndsAt w after :=
  fun c hc => goesOn_outside (h c hc) l w

theorem outside_blank {c : Char} (h : isBlank c = true) : Outside c := by
  have hne : ∀ d, isBlank d = false → c ≠ d := by
    rintro d hd rfl
    rw [h] at hd
    cases hd
  have hdigit : isDigit c = false := by
    refine Bool.eq_false_iff.mpr fun hdigit => ?_
    rw [isBlank_digit hdigit] at h
    cases h
  refine ⟨?_, fun prev => ?_, hne _ (by decide), hne _ (by decide), hne _ (by decide)⟩
  · simp [continuesWord, isAlphanumeric_blank h, hne '_' (by decide), hne '.' (by decide)]
  · simp [continuesNumber, isExponentMark, hdigit, hne '.' (by decide), hne 'e' (by decide),
      hne 'E' (by decide), hne '-' (by decide), hne '+' (by decide)]

theorem endsAt_blank {l : Lexeme} {w gap : List Char} (h : ∀ c ∈ gap, isBlank c = true) :
    l.EndsAt w gap :=
  endsAt_outside fun c hc => outside_blank (h c (List.mem_of_head? hc))

end Columnar.Filter

/-
# `Proofs.Filter.Scanning` — texts and the lexemes they are cut into

`Lexes cs ls`: the characters are cut into the lexemes `ls`, without a
fault.  `Spells w l after`: in front of `after` the characters `w` are one
lexeme, which is `l`.  From the second the first is built piece by piece.
`Begins` says of each kind of lexeme which characters it is read from.

A name is `Plain` if the tokenizer reads it as one identifier.  These are
the words that are no keywords, and only such names come out of any text.
-/
import Columnar.Filter.Token
import Columnar.Proofs.Text.Class
import Mathlib.Data.List.TakeWhile

namespace Columnar.Filter

open Columnar.Text Number

/-! ## Steps of a scan -/

section
variable {cs : List Char}

theorem scan_end (h : cs.dropWhile isBlank = []) : scan cs = ⟨[], cs.takeWhile isBlank, none⟩ := by
  rw [scan]
  split
  · rfl
  · next heq => rw [h] at heq; cases heq

variable {first : Char} {rest : List Char} (h : cs.dropWhile isBlank = first :: rest)

include h in
theorem scan_error {fault : LexFault} (hl : lexeme first rest = .error fault) :
    scan cs = ⟨[], cs.takeWhile isBlank, some fault⟩ := by
  rw [scan]
  split
  · next heq => rw [h] at heq; cases heq
  · next heq =>
    rw [h] at heq
    cases heq
    rw [hl]

include h in
theorem scan_ok {l : Lexeme} {n : Nat} (hl : lexeme first rest = .ok (l, n)) :
    scan cs = ⟨⟨cs.takeWhile isBlank, first :: rest.take n, l⟩ :: (scan (rest.drop n)).pieces,
      (scan (rest.drop n)).gap, (scan (rest.drop n)).fault⟩ := by
  rw [scan]
  split
  · next heq => rw [h] at heq; cases heq
  · next heq =>
    rw [h] at heq
    cases heq
    rw [hl]

end

/-- The characters are cut into the lexemes. -/
def Lexes (cs : List Char) (ls : List Lexeme) : Prop :=
  (scan cs).fault = none ∧ (scan cs).pieces.map Piece.lexeme = ls

theorem lexes_nil : Lexes [] [] := by
  rw [Lexes, scan_end rfl]
  exact ⟨rfl, rfl⟩

theorem lexes_blank {c : Char} {cs : List Char} {ls : List Lexeme} (hc : isBlank c = true)
    (h : Lexes cs ls) : Lexes (c :: cs) ls := by
  have hdrop : (c :: cs).dropWhile isBlank = cs.dropWhile isBlank := List.dropWhile_cons_of_pos hc
  cases hcs : cs.dropWhile isBlank with
  | nil =>
      rw [Lexes, scan_end hcs] at h
      rw [Lexes, scan_end (hdrop.trans hcs)]
      exact h
  | cons first rest =>
      cases hl : lexeme first rest with
      | error fault => rw [Lexes, scan_error hcs hl] at h; cases h.1
      | ok r =>
          obtain ⟨l, n⟩ := r
          rw [Lexes, scan_ok hcs hl] at h
          rw [Lexes, scan_ok (hdrop.trans hcs) hl]
          exact h

/-- In front of `after`, the characters are one lexeme. -/
def Spells (w : List Char) (l : Lexeme) (after : List Char) : Prop :=
  ∃ first tail, w = first :: tail ∧ isBlank first = false ∧
    lexeme first (tail ++ after) = .ok (l, tail.length)

theorem lexes_append {w after : List Char} {l : Lexeme} {ls : List Lexeme}
    (hw : Spells w l after) (h : Lexes after ls) : Lexes (w ++ after) (l :: ls) := by
  obtain ⟨first, tail, rfl, hblank, hl⟩ := hw
  have hdrop : (first :: (tail ++ after)).dropWhile isBlank = first :: (tail ++ after) :=
    List.dropWhile_cons_of_neg (by simp [hblank])
  rw [Lexes, List.cons_append, scan_ok hdrop hl, List.drop_left]
  exact ⟨h.1, congrArg (l :: ·) h.2⟩

theorem place_lexemes (pieces : List Piece) : ∀ offset : Nat,
    (place offset pieces).map Token.lexeme = pieces.map Piece.lexeme := by
  induction pieces with
  | nil => exact fun _ => rfl
  | cons p rest ih =>
      intro offset
      rw [place, List.map_cons, ih, List.map_cons]

theorem tokenize_of_lexes {text : String} {ls : List Lexeme} (h : Lexes text.toList ls) :
    ∃ ts, tokenize text = .ok ts ∧ ts.map Token.lexeme = ls := by
  refine ⟨place 0 (scan text.toList).pieces, ?_, ?_⟩
  · rw [tokenize]
    simp only [h.1]
  · rw [place_lexemes]
    exact h.2

theorem lexes_of_tokenize {text : String} {ts : List Token} (h : tokenize text = .ok ts) :
    Lexes text.toList (ts.map Token.lexeme) := by
  rw [tokenize] at h
  split at h
  · next hfault =>
    cases h
    exact ⟨hfault, (place_lexemes _ 0).symm⟩
  · cases h

/-! ## Kinds of first characters -/

/-- Neither punctuation nor an operator nor a quote begins with the character. -/
structure Unreserved (c : Char) : Prop where
  punctuation : punctuation? c = none
  operator : ∀ rest, operator? (c :: rest) = none
  bang : c ≠ '!'
  quote : c ≠ '\''

/-- The characters that punctuation, operators and text literals begin with. -/
def reserved : List Char := ['(', ')', ',', '[', ']', '<', '>', '=', '!', '\'']

theorem unreserved_of_not_mem {c : Char} (h : c ∉ reserved) : Unreserved c where
  punctuation := by
    rw [punctuation?.eq_def]
    split <;> first | rfl | exact absurd (by decide) h
  operator rest := by
    rw [operator?.eq_def]
    split <;> first | rfl | next heq => exact absurd ((List.cons.inj heq).1 ▸ by decide) h
  bang := by
    rintro rfl
    exact h (by decide)
  quote := by
    rintro rfl
    exact h (by decide)

theorem lexeme_number {first : Char} (h : Unreserved first) (hnumber : startsNumber first = true)
    {rest : List Char} (hrun : isNumber (first :: numberTail first rest) = true) :
    lexeme first rest = .ok (.number (String.ofList (first :: numberTail first rest)),
      (numberTail first rest).length) := by
  rw [lexeme, h.punctuation]
  simp only [h.operator, if_neg h.bang, if_neg h.quote, hnumber, hrun, if_true]

theorem lexeme_word {first : Char} (h : Unreserved first) (hnumber : startsNumber first = false)
    (hword : startsWord first = true) (rest : List Char) :
    lexeme first rest = .ok (wordLexeme (first :: rest.takeWhile continuesWord),
      (rest.takeWhile continuesWord).length) := by
  rw [lexeme, h.punctuation]
  simp only [h.operator, if_neg h.bang, if_neg h.quote, hnumber, hword, if_true,
    Bool.false_eq_true, if_false]

theorem operator_none {c : Char} {rest : List Char} (h : operator? (c :: rest) = none)
    (hbang : c ≠ '!') : ∀ rest', operator? (c :: rest') = none := by
  intro rest'
  have hlt : c ≠ '<' := by
    rintro rfl
    rw [operator?.eq_def] at h
    split at h <;> simp_all
  have hgt : c ≠ '>' := by
    rintro rfl
    rw [operator?.eq_def] at h
    split at h <;> simp_all
  have heq : c ≠ '=' := by
    rintro rfl
    cases h
  rw [operator?.eq_def]
  split <;> simp_all

theorem wordLexeme_identifier {w : List Char} {name : String}
    (h : wordLexeme w = .identifier name) : name = String.ofList w ∧ Keyword.ofWord? name = none := by
  rw [wordLexeme] at h
  split at h
  · cases h
  · next hnone =>
    cases h
    exact ⟨rfl, hnone⟩

/-! ## Readings -/

/-- A text that begins with `first` begins with the lexeme, which takes `n` characters of `rest`. -/
inductive Begins (first : Char) (rest : List Char) (l : Lexeme) (n : Nat) : Prop
  | punctuation : punctuation? first = some l → n = 0 → Begins first rest l n
  | operator {op : Comparison} : operator? (first :: rest) = some (op, n) → l = .operator op →
      Begins first rest l n
  | text {value : List Char} : first = '\'' → textBody? rest = some (value, n) →
      l = .text (String.ofList value) → Begins first rest l n
  | number : Unreserved first → startsNumber first = true →
      isNumber (first :: numberTail first rest) = true →
      l = .number (String.ofList (first :: numberTail first rest)) →
      n = (numberTail first rest).length → Begins first rest l n
  | word : Unreserved first → startsNumber first = false → startsWord first = true →
      l = wordLexeme (first :: rest.takeWhile continuesWord) →
      n = (rest.takeWhile continuesWord).length → Begins first rest l n

theorem begins_of_lexeme {first : Char} {rest : List Char} {l : Lexeme} {n : Nat}
    (h : lexeme first rest = .ok (l, n)) : Begins first rest l n := by
  rw [lexeme] at h
  split at h
  · next hl =>
    cases h
    exact .punctuation hl rfl
  · next hpunctuation =>
    split at h
    · next hop =>
      cases h
      exact .operator hop rfl
    · next hoperator =>
      split at h
      · cases h
      · next hbang =>
        split at h
        · next hquote =>
          split at h
          · next hvalue =>
            cases h
            exact .text hquote hvalue rfl
          · cases h
        · next hquote =>
          have hunreserved : Unreserved first :=
            ⟨hpunctuation, operator_none hoperator hbang, hbang, hquote⟩
          dsimp only at h
          split at h
          · next hnumber =>
            split at h
            · next hrun =>
              cases h
              exact .number hunreserved hnumber hrun rfl rfl
            · cases h
          · next hnumber =>
            split at h
            · next hword =>
              cases h
              exact .word hunreserved (Bool.eq_false_iff.mpr hnumber) hword rfl rfl
            · cases h

theorem lexeme_of_begins {first : Char} {rest : List Char} {l : Lexeme} {n : Nat}
    (h : Begins first rest l n) : lexeme first rest = .ok (l, n) := by
  cases h with
  | punctuation hl hn => rw [lexeme, hl, hn]
  | operator hop hl =>
      have hpunctuation : punctuation? first = none := by
        rw [operator?.eq_def] at hop
        split at hop <;> simp_all [punctuation?]
      rw [lexeme, hpunctuation, hop, hl]
  | text hquote hvalue hl =>
      subst hquote
      rw [lexeme]
      simp only [punctuation?, operator?, hvalue, hl]
      rfl
  | number hunreserved hnumber hrun hl hn => rw [lexeme_number hunreserved hnumber hrun, hl, hn]
  | word hunreserved hnumber hword hl hn => rw [lexeme_word hunreserved hnumber hword, hl, hn]

theorem lexeme_ok_iff {first : Char} {rest : List Char} {l : Lexeme} {n : Nat} :
    lexeme first rest = .ok (l, n) ↔ Begins first rest l n :=
  ⟨begins_of_lexeme, lexeme_of_begins⟩

/-- A name is read in one way only: as a word that is no keyword. -/
theorem lexeme_identifier {first : Char} {rest : List Char} {name : String} {n : Nat}
    (h : lexeme first rest = .ok (.identifier name, n)) :
    Unreserved first ∧ startsNumber first = false ∧ startsWord first = true ∧
      name = String.ofList (first :: rest.takeWhile continuesWord) ∧
      Keyword.ofWord? name = none := by
  cases lexeme_ok_iff.mp h with
  | punctuation hl _ =>
      rw [punctuation?.eq_def] at hl
      split at hl <;> cases hl
  | operator _ hl => cases hl
  | text _ _ hl => cases hl
  | number _ _ _ hl _ => cases hl
  | word hunreserved hnumber hword hl _ =>
      obtain ⟨hname, hkeyword⟩ := wordLexeme_identifier hl.symm
      exact ⟨hunreserved, hnumber, hword, hname, hkeyword⟩

/-! ## Words and names -/

/-- The tokenizer reads the name as one identifier. -/
def Plain (name : String) : Prop := tokenize name = .ok [⟨.identifier name, 0⟩]

/-- The characters are those of one word. -/
structure IsWord (first : Char) (tail : List Char) : Prop where
  blank : isBlank first = false
  unreserved : Unreserved first
  number : startsNumber first = false
  word : startsWord first = true
  tail : tail.all continuesWord = true

theorem head_dropWhile {cs : List Char} {first : Char} {rest : List Char}
    (h : cs.dropWhile isBlank = first :: rest) : isBlank first = false := by
  have hne : cs.dropWhile isBlank ≠ [] := by
    rw [h]
    exact List.cons_ne_nil first rest
  have hhead := List.head_dropWhile_not isBlank hne
  simp only [h, List.head_cons] at hhead
  exact hhead

theorem spells_word {first : Char} {tail after : List Char} (h : IsWord first tail)
    (hafter : ∀ c ∈ after.head?, continuesWord c = false) :
    Spells (first :: tail) (wordLexeme (first :: tail)) after := by
  have htail : (tail ++ after).takeWhile continuesWord = tail := by
    rw [List.takeWhile_append_of_pos (List.all_eq_true.mp h.tail)]
    cases after with
    | nil => exact List.append_nil tail
    | cons c after =>
        rw [List.takeWhile_cons_of_neg (by simp [hafter c rfl]), List.append_nil]
  refine ⟨first, tail, rfl, h.blank, ?_⟩
  rw [lexeme_word h.unreserved h.number h.word, htail]

/-- An identifier is a word that is no keyword. -/
theorem isWord_of_lexeme {first : Char} {rest : List Char} {name : String} {n : Nat}
    (hblank : isBlank first = false) (h : lexeme first rest = .ok (.identifier name, n)) :
    ∃ tail, name.toList = first :: tail ∧ IsWord first tail ∧ Keyword.ofWord? name = none := by
  obtain ⟨hunreserved, hnumber, hword, rfl, hkeyword⟩ := lexeme_identifier h
  exact ⟨_, String.toList_ofList,
    ⟨hblank, hunreserved, hnumber, hword, List.all_takeWhile⟩, hkeyword⟩

theorem plain_iff {name : String} : Plain name ↔ ∃ first tail, name.toList = first :: tail ∧
    IsWord first tail ∧ Keyword.ofWord? name = none := by
  constructor
  · intro h
    rw [Plain, tokenize] at h
    split at h
    · cases hcs : name.toList.dropWhile isBlank with
      | nil => rw [scan_end hcs] at h; cases h
      | cons first rest =>
          cases hl : lexeme first rest with
          | error fault => rw [scan_error hcs hl] at h; cases h
          | ok r =>
              obtain ⟨l, n⟩ := r
              rw [scan_ok hcs hl] at h
              have htoken := (List.cons.inj (Except.ok.inj h)).1
              obtain rfl : l = .identifier name := congrArg Token.lexeme htoken
              exact ⟨first, isWord_of_lexeme (head_dropWhile hcs) hl⟩
    · cases h
  · rintro ⟨first, tail, hchars, hword, hkeyword⟩
    have hspells : Spells (first :: tail) (wordLexeme (first :: tail)) [] :=
      spells_word hword fun _ hc => nomatch hc
    obtain ⟨_, _, heq, -, hl⟩ := hspells
    cases heq
    have hdrop : name.toList.dropWhile isBlank = first :: tail := by
      rw [hchars]
      exact List.dropWhile_cons_of_neg (by simp [hword.blank])
    have htake : name.toList.takeWhile isBlank = [] := by
      rw [hchars]
      exact List.takeWhile_cons_of_neg (by simp [hword.blank])
    have hname : wordLexeme (first :: tail) = .identifier name := by
      rw [wordLexeme, ← hchars, String.ofList_toList, hkeyword]
    rw [List.append_nil, hname] at hl
    rw [Plain, tokenize, scan_ok hdrop hl, List.drop_length, scan_end rfl, htake]
    rfl

/-- Every identifier of a text is a plain name. -/
theorem plain_of_lexes : ∀ {cs : List Char} {ls : List Lexeme}, Lexes cs ls →
    ∀ name, .identifier name ∈ ls → Plain name := by
  intro cs
  induction hn : cs.length using Nat.strongRecOn generalizing cs with
  | ind n ih =>
      intro ls h name hname
      cases hcs : cs.dropWhile isBlank with
      | nil =>
          rw [Lexes, scan_end hcs] at h
          rw [← h.2] at hname
          exact absurd hname List.not_mem_nil
      | cons first rest =>
          cases hl : lexeme first rest with
          | error fault => rw [Lexes, scan_error hcs hl] at h; cases h.1
          | ok r =>
              obtain ⟨l, k⟩ := r
              rw [Lexes, scan_ok hcs hl] at h
              obtain ⟨hfault, rfl⟩ := h
              rcases List.mem_cons.mp hname with hfirst | hrest
              · obtain rfl : l = .identifier name := hfirst.symm
                exact plain_iff.mpr ⟨first, isWord_of_lexeme (head_dropWhile hcs) hl⟩
              · have hshorter : (rest.drop k).length < n := by
                  have hle := (List.dropWhile_sublist (l := cs) isBlank).length_le
                  rw [hcs, List.length_cons] at hle
                  rw [List.length_drop]
                  omega
                exact ih _ hshorter rfl ⟨hfault, rfl⟩ name hrest

/-! ## Keywords in any case -/

theorem keyword_letters (k : Keyword) : ∀ c ∈ k.word.toList, 65 ≤ c.toNat ∧ c.toNat ≤ 90 := by
  have hall : k.word.toList.all (fun c => 65 ≤ c.toNat ∧ c.toNat ≤ 90) = true := by
    cases k <;> decide
  intro c hc
  exact of_decide_eq_true (List.all_eq_true.mp hall c hc)

theorem ofWord_word (k : Keyword) : Keyword.all.find? (fun k' => k'.word = k.word) = some k := by
  cases k <;> decide

theorem ofWord_iff {w : List Char} {k : Keyword} :
    Keyword.ofWord? (String.ofList w) = some k ↔ w.map upper = k.word.toList := by
  rw [Keyword.ofWord?, upperAscii, String.toList_ofList]
  constructor
  · intro h
    have hfound := List.find?_some h
    rw [of_decide_eq_true hfound, String.toList_ofList]
  · intro h
    rw [h, String.ofList_toList]
    exact ofWord_word k

theorem wordLexeme_keyword_iff {w : List Char} {k : Keyword} :
    wordLexeme w = .keyword k ↔ w.map upper = k.word.toList := by
  rw [← ofWord_iff, wordLexeme]
  cases Keyword.ofWord? (String.ofList w) with
  | none => simp
  | some k' => simp

theorem isWord_letters {first : Char} {tail : List Char} (h : ∀ c ∈ first :: tail, IsLetter c) :
    IsWord first tail := by
  obtain ⟨hfirst, htail⟩ := List.forall_mem_cons.mp h
  have hreserved : reserved.all (fun d => ¬ IsLetter d) = true := by decide
  have hblank : isBlank first = false := by
    refine Bool.eq_false_iff.mpr fun hblank => ?_
    have := isAlphanumeric_blank hblank
    rw [isAlphanumeric, hfirst.isAlphabetic] at this
    cases this
  refine ⟨hblank, unreserved_of_not_mem fun hmem => ?_, ?_, ?_, ?_⟩
  · exact of_decide_eq_true (List.all_eq_true.mp hreserved first hmem) hfirst
  · simp [startsNumber, hfirst.isDigit, hfirst.ne (show ¬ IsLetter '-' by decide),
      hfirst.ne (show ¬ IsLetter '.' by decide)]
  · simp [startsWord, hfirst.isAlphabetic]
  · rw [List.all_eq_true]
    intro c hc
    simp [continuesWord, isAlphanumeric, (htail c hc).isAlphabetic]

/-- A keyword is read from its letters, in any case. -/
theorem spells_keyword_of {w after : List Char} {k : Keyword} (h : w.map upper = k.word.toList)
    (hafter : ∀ c ∈ after.head?, continuesWord c = false) : Spells w (.keyword k) after := by
  have hletters : ∀ c ∈ w, IsLetter c := by
    intro c hc
    have hmem := List.mem_map_of_mem (f := upper) hc
    rw [h] at hmem
    exact keyword_letters k _ hmem
  cases w with
  | nil => cases k <;> cases h
  | cons first tail =>
      rw [← wordLexeme_keyword_iff.mpr h]
      exact spells_word (isWord_letters hletters) hafter

end Columnar.Filter

/-
# `Proofs.Filter.Lexemes` — lexemes that are read from their own text

The canonical text of each kind of lexeme is read as the lexeme: alone, and
so in front of a delimiter, since no lexeme goes on with one.  For numbers
this says that a text of digits, point and exponent is one run, and that it
counts as a floating point number exactly if it was written as one.
-/
import Columnar.Filter.Canonical
import Columnar.Proofs.Filter.Boundaries
import Columnar.Proofs.Number.Rendering

namespace Columnar.Filter

open Columnar.Text Number

/-! ## Delimiters -/

/-- The characters of canonical texts that no lexeme goes on with. -/
def isDelimiter (c : Char) : Bool := c = ' ' || c = ')' || c = ',' || c = ']'

/-- The characters end what stands in front of them. -/
def Delimited (after : List Char) : Prop := ∀ c ∈ after.head?, isDelimiter c = true

theorem delimiter_cases {c : Char} (h : isDelimiter c = true) :
    c = ' ' ∨ c = ')' ∨ c = ',' ∨ c = ']' := by
  simpa [isDelimiter, or_assoc] using h

theorem outside_delimiter {c : Char} (h : isDelimiter c = true) : Outside c := by
  rcases delimiter_cases h with rfl | rfl | rfl | rfl
  · exact outside_blank (by decide)
  · exact ⟨by decide +kernel, fun _ => rfl, by decide, by decide, by decide⟩
  · exact ⟨by decide +kernel, fun _ => rfl, by decide, by decide, by decide⟩
  · exact ⟨by decide +kernel, fun _ => rfl, by decide, by decide, by decide⟩

/-- What is read alone is read in front of a delimiter. -/
theorem spells_delimited {w after : List Char} {l : Lexeme} (h : Spells w l [])
    (hafter : Delimited after) : Spells w l after :=
  spells_iff.mpr ⟨h, endsAt_outside fun c hc => outside_delimiter (hafter c hc)⟩

theorem delimited_nil : Delimited [] := fun _ hc => nomatch hc

theorem delimited_cons {c : Char} (h : isDelimiter c = true) (after : List Char) :
    Delimited (c :: after) := by
  intro d hd
  obtain rfl : c = d := Option.some.inj hd
  exact h

/-! ## Lexemes in front of a delimiter -/

section
variable {after : List Char} (hafter : Delimited after)

include hafter in
theorem spells_name {name : String} (h : Plain name) :
    Spells name.toList (.identifier name) after := by
  obtain ⟨first, tail, hchars, hword, hkeyword⟩ := plain_iff.mp h
  have hname : wordLexeme (first :: tail) = .identifier name := by
    rw [wordLexeme, ← hchars, String.ofList_toList, hkeyword]
  rw [hchars, ← hname]
  exact spells_delimited (spells_word hword fun c hc => absurd hc (Option.not_mem_none c)) hafter

include hafter in
theorem spells_keyword (k : Keyword) : Spells k.word.toList (.keyword k) after := by
  have hcapitals : k.word.toList.map upper = k.word.toList := by cases k <;> decide
  exact spells_delimited (spells_keyword_of hcapitals fun c hc => absurd hc (Option.not_mem_none c))
    hafter

theorem spells_operator (op : Comparison) (after : List Char) :
    Spells op.symbol.toList (.operator op) (' ' :: after) := by
  cases op <;> exact ⟨_, _, rfl, by decide, rfl⟩

theorem spells_punctuation {c : Char} {l : Lexeme} (hblank : isBlank c = false)
    (h : punctuation? c = some l) (after : List Char) : Spells [c] l after := by
  refine ⟨c, [], rfl, hblank, ?_⟩
  rw [lexeme, h]
  rfl

/-! ### Text literals -/

theorem textBody_escaped (cs : List Char) :
    textBody? (cs.flatMap escaped ++ ['\'']) = some (cs, (cs.flatMap escaped).length + 1) := by
  induction cs with
  | nil => rfl
  | cons c cs ih =>
      rw [List.flatMap_cons, escaped]
      split
      · next hc =>
        subst hc
        rw [List.append_assoc]
        change (textBody? (cs.flatMap escaped ++ ['\''])).map _ = _
        rw [ih]
        rfl
      · split
        · next hc =>
          subst hc
          rw [List.append_assoc]
          change (textBody? (cs.flatMap escaped ++ ['\''])).map _ = _
          rw [ih]
          rfl
        · next hbackslash hquote =>
          rw [List.append_assoc, List.singleton_append, textBody?.eq_6 _ _ hbackslash hquote, ih]
          rfl

include hafter in
theorem spells_text (s : String) : Spells (textLiteral s).toList (.text s) after := by
  have hchars : (textLiteral s).toList = '\'' :: (s.toList.flatMap escaped ++ ['\'']) := by
    simp only [textLiteral, String.toList_append, String.toList_ofList]
    rfl
  have hbegins : Begins '\'' (s.toList.flatMap escaped ++ ['\'']) (.text s)
      (s.toList.flatMap escaped ++ ['\'']).length := by
    refine .text rfl ?_ (by rw [String.ofList_toList])
    rw [textBody_escaped, List.length_append, List.length_singleton]
  refine spells_delimited ⟨'\'', _, hchars, by decide, ?_⟩ hafter
  rw [List.append_nil]
  exact lexeme_of_begins hbegins

/-! ### Numbers -/

theorem unreserved_digit {c : Char} (h : isDigit c = true) : Unreserved c := by
  refine unreserved_of_not_mem fun hmem => ?_
  have hnone : reserved.all (fun d => isDigit d = false) = true := by decide
  exact ne_of_isDigit h (of_decide_eq_true (List.all_eq_true.mp hnone c hmem)) rfl

theorem unreserved_minus : Unreserved '-' := ⟨rfl, fun _ => rfl, by decide, by decide⟩

/-- The run goes on to its end, whatever stands in front of it. -/
def Free (run : List Char) : Prop := ∀ prev, numberTail prev run = run

theorem free_cons {c : Char} {run : List Char} (hc : ∀ prev, continuesNumber prev c = true)
    (h : numberTail c run = run) : Free (c :: run) := by
  intro prev
  rw [numberTail, if_pos (hc prev), h]

theorem continues_digit {c : Char} (h : isDigit c = true) (prev : Char) :
    continuesNumber prev c = true := by
  simp [continuesNumber, h]

/-- Behind a run, the scan goes on with what it keeps of the rest. -/
theorem numberTail_append {run more kept : List Char} {prev : Char}
    (h : numberTail prev run = run) (hmore : ∀ prev, numberTail prev more = kept) :
    numberTail prev (run ++ more) = run ++ kept := by
  induction run generalizing prev with
  | nil => exact hmore prev
  | cons c run ih =>
      rw [numberTail] at h
      split at h
      · next hc => rw [List.cons_append, numberTail, if_pos hc, ih (List.cons.inj h).2]; rfl
      · cases h

theorem free_digits {ds : List Char} (h : ∀ c ∈ ds, isDigit c = true) : Free ds := by
  induction ds with
  | nil => exact fun _ => rfl
  | cons c ds ih =>
      have hrest := ih fun d hd => h d (List.mem_cons_of_mem c hd)
      exact free_cons (continues_digit (h c List.mem_cons_self)) (hrest c)

theorem free_exponentText (e : Option Int) : Free (Spelling.exponentText e) := by
  cases e with
  | none => exact fun _ => rfl
  | some e =>
      have hdigits : Free (Nat.toDigits 10 e.natAbs) := free_digits fun c hc => isDigit_toDigits hc
      refine free_cons (fun _ => by simp [continuesNumber, isExponentMark]) ?_
      rw [toList_toString]
      split
      · rw [numberTail, if_pos (by decide), hdigits '-']
      · exact hdigits 'e'

theorem free_pointText {fraction : List Char} (h : ∀ c ∈ fraction, isDigit c = true) :
    Free (Spelling.pointText fraction) := by
  rw [Spelling.pointText]
  split
  · exact fun _ => rfl
  · exact free_cons (fun _ => by simp [continuesNumber]) (free_digits h '.')

theorem free_text {s : Spelling} (h : s.Proper) : Free s.text := fun prev =>
  numberTail_append (free_digits h.whole prev) fun q =>
    numberTail_append (free_pointText h.fraction q) (free_exponentText s.exponent)

include hafter in
/-- Digits, with a sign or not, begin a number. -/
theorem spells_number {negative : Bool} {run : List Char} (hfree : Free run)
    (hhead : ∃ c rest, run = c :: rest ∧ isDigit c = true)
    (hnumber : isNumber (if negative then '-' :: run else run) = true) :
    Spells (if negative then '-' :: run else run)
      (.number (String.ofList (if negative then '-' :: run else run))) after := by
  refine spells_delimited ?_ hafter
  obtain ⟨c, rest, rfl, hc⟩ := hhead
  cases negative with
  | true =>
      rw [if_pos rfl] at hnumber ⊢
      have htail := hfree '-'
      rw [← htail] at hnumber
      have hl := lexeme_number unreserved_minus (by decide) hnumber
      rw [htail] at hl
      exact ⟨'-', c :: rest, rfl, by decide, (List.append_nil (c :: rest)).symm ▸ hl⟩
  | false =>
      rw [if_neg Bool.false_ne_true] at hnumber ⊢
      have htail : numberTail c rest = rest := by
        have := hfree '0'
        rw [numberTail, if_pos (continues_digit hc '0')] at this
        exact (List.cons.inj this).2
      rw [← htail] at hnumber
      have hl := lexeme_number (unreserved_digit hc) (by simp [startsNumber, hc]) hnumber
      rw [htail] at hl
      exact ⟨c, rest, rfl, isBlank_digit hc, (List.append_nil rest).symm ▸ hl⟩

theorem any_isDigit_signed {run : List Char} (h : ∃ c rest, run = c :: rest ∧ isDigit c = true)
    (negative : Bool) : (if negative then '-' :: run else run).any isDigit = true := by
  obtain ⟨c, rest, rfl, hc⟩ := h
  rw [List.any_eq_true]
  refine ⟨c, ?_, hc⟩
  cases negative with
  | true => exact List.mem_cons_of_mem _ List.mem_cons_self
  | false => exact List.mem_cons_self

theorem isFloatSpelling_digits {ds : List Char} (h : ∀ c ∈ ds, isDigit c = true) (negative : Bool) :
    isFloatSpelling (if negative then '-' :: ds else ds) = false := by
  have hds : ds.any (fun c => c = '.' || isExponentMark c) = false := by
    rw [List.any_eq_false]
    intro c hc
    have hdigit := h c hc
    simp [isExponentMark, ne_of_isDigit hdigit (show isDigit '.' = false by decide),
      ne_of_isDigit hdigit (show isDigit 'e' = false by decide),
      ne_of_isDigit hdigit (show isDigit 'E' = false by decide)]
  cases negative with
  | true => exact hds
  | false => exact hds

theorem isFloatSpelling_text {s : Spelling} (h : s.Proper) (negative : Bool) :
    isFloatSpelling (if negative then '-' :: s.text else s.text) = true := by
  have htext : isFloatSpelling s.text = true := by
    rw [isFloatSpelling, List.any_eq_true]
    rcases h.marked with hfraction | hexponent
    · refine ⟨'.', ?_, rfl⟩
      rw [Spelling.text, Spelling.pointText, if_neg hfraction]
      exact List.mem_append_right _ (List.mem_append_left _ List.mem_cons_self)
    · obtain ⟨e, he⟩ := Option.isSome_iff_exists.mp hexponent
      refine ⟨'e', ?_, rfl⟩
      rw [Spelling.text, he]
      exact List.mem_append_right _ (List.mem_append_right _ List.mem_cons_self)
  cases negative with
  | true => exact htext
  | false => exact htext

/-- The whole number has 64 bits, with its sign. -/
def IsInt64 (v : Int) : Prop := leastInt64 ≤ v ∧ v ≤ greatestInt64

theorem int64_toString {v : Int} (h : IsInt64 v) : int64? (toString v).toList = some v := by
  rw [int64?, integer_toString, Option.filter_some, if_pos]
  simp [h.1, h.2]

include hafter in
theorem spells_int {v : Int} (h : IsInt64 v) :
    Spells (toString v).toList (.number (toString v)) after := by
  have hdigits : ∀ c ∈ Nat.toDigits 10 v.natAbs, isDigit c = true := fun c hc => isDigit_toDigits hc
  have hhead : ∃ c rest, Nat.toDigits 10 v.natAbs = c :: rest ∧ isDigit c = true := by
    obtain ⟨c, rest, heq⟩ := List.exists_cons_of_ne_nil (Nat.toDigits_ne_nil (b := 10) (n := v.natAbs))
    exact ⟨c, rest, heq, hdigits c (heq ▸ List.mem_cons_self)⟩
  have hread := int64_toString h
  have hname : toString v = String.ofList (toString v).toList := String.ofList_toList.symm
  rw [hname, String.toList_ofList]
  rw [toList_toString] at hread ⊢
  refine spells_number hafter (free_digits hdigits) hhead ?_
  rw [isNumber, any_isDigit_signed hhead, isFloatSpelling_digits hdigits, hread]
  rfl

include hafter in
theorem spells_float {v : Binary .double} (h : v.isFinite = true) :
    Spells (Rendering.literal.write v).toList (.number (Rendering.literal.write v)) after := by
  obtain ⟨s, htext, hproper, -⟩ := Rendering.write_spelling h
  have hname : Rendering.literal.write v = String.ofList (Rendering.literal.write v).toList :=
    String.ofList_toList.symm
  rw [hname, String.toList_ofList, htext]
  refine spells_number hafter (free_text hproper) hproper.head ?_
  rw [isNumber, any_isDigit_signed hproper.head, isFloatSpelling_text hproper, Spelling.read_spelling hproper]
  rfl

end

end Columnar.Filter

/-
# `Proofs.Filter.Respelling` — the same lexemes, written in another way

A text may be laid out anew, with other blanks between its lexemes, its
keywords in other letters and `!=` for `<>`: it says the same
(`layout_insignificant`).  A lexeme so respelled is read alone as before,
and what it goes on with has not changed either; so the one question is
what stands in front of it without a blank.  That ends as it did, because
it goes on with all first letters of keywords or with none of them, and
with neither first character of `!=` and `<>`.
-/
import Columnar.Proofs.Filter.Coverage
import Columnar.Proofs.Filter.Positions
import Mathlib.Data.List.Forall2

namespace Columnar.Filter

open Columnar.Text Number

/-! ## Keywords -/

/-- A keyword is spelled by its letters, in any case. -/
theorem spells_keyword_iff {w : List Char} {k : Keyword} :
    Spells w (.keyword k) [] ↔ w.map upper = k.word.toList := by
  constructor
  · rintro ⟨first, tail, rfl, -, hl⟩
    rw [List.append_nil] at hl
    cases lexeme_ok_iff.mp hl with
    | punctuation hl _ =>
        rw [punctuation?.eq_def] at hl
        split at hl <;> cases hl
    | operator _ hl => cases hl
    | text _ _ hl => cases hl
    | number _ _ _ hl _ => cases hl
    | word _ _ _ hl hn =>
        have hfront : tail.takeWhile continuesWord <+: tail := List.takeWhile_prefix continuesWord
        rw [hfront.eq_of_length hn.symm] at hl
        exact wordLexeme_keyword_iff.mp hl.symm
  · intro h
    exact spells_keyword_of h fun c hc => absurd hc (Option.not_mem_none c)

/-! ## Respelling -/

/-- The characters `w` of the lexeme are written as `w'`: keywords in other letters, the operator
`!=` in one of its texts, everything else as it is. -/
def Lexeme.Respells (w w' : List Char) : Lexeme → Prop
  | .keyword _ => w'.map upper = w.map upper
  | .operator .ne => w' ∈ Comparison.ne.spellings
  | _ => w' = w

theorem spells_ne {w : List Char} (h : w ∈ Comparison.ne.spellings) :
    Spells w (.operator .ne) [] := by
  rcases List.mem_cons.mp h with rfl | h
  · exact ⟨_, _, rfl, by decide, rfl⟩
  · obtain rfl := List.mem_singleton.mp h
    exact ⟨_, _, rfl, by decide, rfl⟩

/-- A lexeme is read from its characters also when they are respelled. -/
theorem spells_respelled {w w' : List Char} {l : Lexeme} (h : Spells w l [])
    (hrespells : l.Respells w w') : Spells w' l [] := by
  cases l with
  | keyword k =>
      rw [spells_keyword_iff] at h ⊢
      exact hrespells.trans h
  | operator op =>
      cases op with
      | ne => exact spells_ne hrespells
      | _ =>
          obtain rfl : w' = w := hrespells
          exact h
  | _ =>
      obtain rfl : w' = w := hrespells
      exact h

/-- What a lexeme goes on with does not depend on how it is spelled. -/
theorem goesOn_respelled {w w' : List Char} {l : Lexeme} (h : l.Respells w w') (c : Char) :
    l.goesOn w' c = l.goesOn w c := by
  cases l with
  | number _ => rw [show w' = w from h]
  | operator op => cases op <;> rfl
  | _ => rfl

/-! ## Lexemes that touch -/

/-- A letter that some keyword may begin with: no exponent mark. -/
def IsInitial (c : Char) : Prop := IsLetter c ∧ upper c ≠ 'E'

/-- Of two such letters a lexeme goes on with both or with none. -/
theorem goesOn_initial {c d : Char} (hc : IsInitial c) (hd : IsInitial d) (l : Lexeme)
    (w : List Char) : l.goesOn w c = l.goesOn w d := by
  have hword : ∀ {c}, IsInitial c → continuesWord c = true := by
    intro c hc
    simp [continuesWord, isAlphanumeric, hc.1.isAlphabetic]
  have hnumber : ∀ {c}, IsInitial c → ∀ prev, continuesNumber prev c = false := by
    intro c hc prev
    have hmark : c ≠ 'e' ∧ c ≠ 'E' := by
      constructor
      · rintro rfl
        exact hc.2 (by decide)
      · rintro rfl
        exact hc.2 (by decide)
    have hne := fun d hd => hc.1.ne (d := d) hd
    simp [continuesNumber, isExponentMark, hc.1.isDigit, hmark, hne '.' (by decide),
      hne '-' (by decide), hne '+' (by decide)]
  have hsign : ∀ {c}, IsInitial c → c ≠ '\'' ∧ c ≠ '=' ∧ c ≠ '>' := by
    intro c hc
    exact ⟨hc.1.ne (by decide), hc.1.ne (by decide), hc.1.ne (by decide)⟩
  cases l with
  | identifier _ => exact (hword hc).trans (hword hd).symm
  | keyword _ => exact (hword hc).trans (hword hd).symm
  | number _ => simp only [Lexeme.goesOn, hnumber hc, hnumber hd]
  | text _ => simp [Lexeme.goesOn, hsign hc, hsign hd]
  | operator op => cases op <;> simp [Lexeme.goesOn, hsign hc, hsign hd]
  | _ => rfl

theorem outside_bang : Outside '!' :=
  ⟨by decide +kernel, fun _ => rfl, by decide, by decide, by decide⟩

theorem outside_less : Outside '<' :=
  ⟨by decide +kernel, fun _ => rfl, by decide, by decide, by decide⟩

theorem isInitial_keyword {w : List Char} {k : Keyword} (h : w.map upper = k.word.toList) :
    ∀ c ∈ w.head?, IsInitial c := by
  intro c hc
  have hhead : k.word.toList.head? = some (upper c) := by
    rw [← h, List.head?_map, hc]
    rfl
  have hmark : ∀ k : Keyword, k.word.toList.head? ≠ some 'E' := by
    intro k
    cases k <;> decide
  refine ⟨keyword_letters k _ (List.mem_of_head? hhead), fun hupper => ?_⟩
  rw [hupper] at hhead
  exact hmark k hhead

/-- In front of a respelled lexeme another one ends where it ended before. -/
theorem endsAt_respelled {v v' : List Char} {m : Lexeme} (hv : Spells v m [])
    (hrespells : m.Respells v v') {l : Lexeme} {w : List Char} (h : l.EndsAt w v) :
    l.EndsAt w v' := by
  cases m with
  | keyword k =>
      have hword := spells_keyword_iff.mp hv
      have hword' : v'.map upper = k.word.toList := Eq.trans hrespells hword
      obtain ⟨a, tail, rfl, -⟩ := hv
      intro c hc
      rw [goesOn_initial (isInitial_keyword hword' c hc) (isInitial_keyword hword a rfl)]
      exact h a rfl
  | operator op =>
      cases op with
      | ne =>
          rcases List.mem_cons.mp hrespells with rfl | hmem
          · exact endsAt_cons.mpr (goesOn_outside outside_bang l w)
          · obtain rfl := List.mem_singleton.mp hmem
            exact endsAt_cons.mpr (goesOn_outside outside_less l w)
      | _ =>
          obtain rfl : v' = v := hrespells
          exact h
  | _ =>
      obtain rfl : v' = v := hrespells
      exact h

/-! ## Texts laid out anew -/

/-- The piece `q` says what `p` says: blanks, and the lexeme respelled. -/
structure Piece.Rewrites (p q : Piece) : Prop where
  lexeme : q.lexeme = p.lexeme
  source : p.lexeme.Respells p.source q.source
  blank : ∀ c ∈ q.gap, isBlank c = true

/-- The pieces are written anew.  Blanks that stood between two lexemes may be others, but not
none. -/
structure Relaid (ps qs : List Piece) : Prop where
  pieces : List.Forall₂ Piece.Rewrites ps qs
  gaps : List.Forall₂ (fun p q => q.gap = [] → p.gap = []) ps.tail qs.tail

theorem Relaid.lexemes {ps qs : List Piece} (h : Relaid ps qs) :
    qs.map Piece.lexeme = ps.map Piece.lexeme := by
  have hpieces := h.pieces
  clear h
  induction hpieces with
  | nil => rfl
  | cons hpq _ ih => rw [List.map_cons, List.map_cons, hpq.lexeme, ih]

theorem endsAt_append {l : Lexeme} {w v after : List Char} (hv : v ≠ []) :
    l.EndsAt w (v ++ after) ↔ l.EndsAt w v := by
  obtain ⟨c, tail, rfl⟩ := List.exists_cons_of_ne_nil hv
  exact Iff.rfl

theorem spells_ne_nil {w after : List Char} {l : Lexeme} (h : Spells w l after) : w ≠ [] := by
  obtain ⟨first, tail, rfl, -⟩ := h
  exact List.cons_ne_nil first tail

/-- A lexeme that ends in front of the pieces ends in front of them written anew. -/
theorem endsAt_relaid {ps qs : List Piece} {gap gap' : List Char}
    (hpieces : List.Forall₂ Piece.Rewrites ps qs)
    (hgaps : List.Forall₂ (fun p q => q.gap = [] → p.gap = []) ps qs) (hcut : Cut gap ps)
    (hgap' : ∀ c ∈ gap', isBlank c = true) {l : Lexeme} {w : List Char}
    (h : l.EndsAt w (written ps ++ gap)) : l.EndsAt w (written qs ++ gap') := by
  cases hpieces with
  | nil => exact endsAt_blank hgap'
  | @cons p q ps qs hpq hrest =>
      obtain ⟨hgap, -⟩ := List.forall₂_cons.mp hgaps
      rw [written, List.append_assoc]
      by_cases hq : q.gap = []
      · cases hcut with
        | piece _ hspells _ =>
            have halone := (spells_iff.mp hspells).1
            have hsource := spells_ne_nil (spells_respelled halone hpq.source)
            rw [written, hgap hq, List.nil_append, List.append_assoc,
              endsAt_append (spells_ne_nil hspells)] at h
            rw [hq, List.nil_append, List.append_assoc, endsAt_append hsource]
            exact endsAt_respelled halone hpq.source h
      · rw [endsAt_append hq]
        exact endsAt_blank hpq.blank

/-- Written anew, the pieces are cut where they were. -/
theorem Cut.relaid {ps qs : List Piece} {gap gap' : List Char} (h : Cut gap ps)
    (hrelaid : Relaid ps qs) (hgap' : ∀ c ∈ gap', isBlank c = true) : Cut gap' qs := by
  obtain ⟨hpieces, hgaps⟩ := hrelaid
  induction hpieces with
  | nil => exact .done
  | @cons p q ps qs hpq hrest ih =>
      cases h with
      | piece _ hspells hcut =>
          obtain ⟨halone, hends⟩ := spells_iff.mp hspells
          have hends' := endsAt_relaid hrest hgaps hcut hgap' hends
          have htails : List.Forall₂ (fun p q => q.gap = [] → p.gap = []) ps.tail qs.tail := by
            cases hgaps with
            | nil => exact .nil
            | cons _ hgaps => exact hgaps
          refine .piece hpq.blank ?_ (ih hcut htails)
          rw [hpq.lexeme]
          refine spells_iff.mpr ⟨spells_respelled halone hpq.source, fun c hc => ?_⟩
          rw [goesOn_respelled hpq.source]
          exact hends' c hc

/-- The second text is the first with its pieces, the blanks and the characters of each of its
tokens, written anew, and with other blanks behind them. -/
def LaidAnew (text text' : String) : Prop :=
  ∃ qs gap, Relaid (scan text.toList).pieces qs ∧ (∀ c ∈ gap, isBlank c = true) ∧
    text'.toList = written qs ++ gap

theorem tokenize_laidAnew {text text' : String} {ts : List Token} (h : tokenize text = .ok ts)
    (hlaid : LaidAnew text text') :
    ∃ ts', tokenize text' = .ok ts' ∧ ts'.map Token.lexeme = ts.map Token.lexeme := by
  obtain ⟨qs, gap, hrelaid, hgap, htext'⟩ := hlaid
  obtain ⟨-, hlexemes⟩ := lexes_of_tokenize h
  obtain ⟨left, -, -, hcut, -⟩ := cut_scan text.toList
  have htokens := tokenize_written hgap (hcut.relaid hrelaid hgap)
  rw [← htext', String.ofList_toList] at htokens
  refine ⟨_, htokens, ?_⟩
  rw [place_lexemes, hrelaid.lexemes, hlexemes]

/-- Layout, the case of keywords and the spelling of `!=` do not matter: with its pieces written
anew, a text has the same lexemes, and over every schema it is read to the same tree, or with an
error that says the same about the same token. -/
theorem layout_insignificant {text text' : String} {ts : List Token} (h : tokenize text = .ok ts)
    (hlaid : LaidAnew text text') (schema : Schema) :
    ∃ ts', tokenize text' = .ok ts' ∧ ts'.map Token.lexeme = ts.map Token.lexeme ∧
      ((∃ e, parse schema text = .ok e ∧ parse schema text' = .ok e) ∨
        ∃ err i, parse schema text = .error err ∧ err.position = startOf text ts i ∧
          parse schema text' = .error (err.move fun _ => startOf text' ts' i)) := by
  obtain ⟨ts', htokens, hlexemes⟩ := tokenize_laidAnew h hlaid
  exact ⟨ts', htokens, hlexemes, parse_alike h htokens hlexemes schema⟩

/-- Other blanks, a keyword in capitals and the other inequality: the column that is not there is
missed at the place where its name is now. -/
theorem layout_insignificant_unknown :
    LaidAnew "a<>1and b" "a\u2003!= 1AND\n\nb" ∧
    parse [⟨"a", .int true .w64, true⟩] "a<>1and b" = .error (.unknownColumn "b" 8) ∧
    ∃ ts' i, tokenize "a\u2003!= 1AND\n\nb" = .ok ts' ∧
      parse [⟨"a", .int true .w64, true⟩] "a\u2003!= 1AND\n\nb" =
        .error (.unknownColumn "b" (startOf "a\u2003!= 1AND\n\nb" ts' i)) := by
  have htokens : tokenize "a<>1and b" = .ok [⟨.identifier "a", 0⟩, ⟨.operator .ne, 1⟩,
      ⟨.number "1", 3⟩, ⟨.keyword .and, 4⟩, ⟨.identifier "b", 8⟩] := by decide +kernel
  have hpieces : (scan "a<>1and b".toList).pieces = [⟨[], ['a'], .identifier "a"⟩,
      ⟨[], ['<', '>'], .operator .ne⟩, ⟨[], ['1'], .number "1"⟩,
      ⟨[], ['a', 'n', 'd'], .keyword .and⟩, ⟨[' '], ['b'], .identifier "b"⟩] := by decide +kernel
  have hlaid : LaidAnew "a<>1and b" "a\u2003!= 1AND\n\nb" := by
    refine ⟨[⟨[], ['a'], .identifier "a"⟩, ⟨['\u2003'], ['!', '='], .operator .ne⟩,
      ⟨[' '], ['1'], .number "1"⟩, ⟨[], ['A', 'N', 'D'], .keyword .and⟩,
      ⟨['\n', '\n'], ['b'], .identifier "b"⟩], [], ?_, List.forall_mem_nil _, by decide⟩
    rw [hpieces]
    have hne : ['!', '='] ∈ Comparison.ne.spellings := by decide
    have hand : ['A', 'N', 'D'].map upper = ['a', 'n', 'd'].map upper := by decide
    have hblank : ∀ {gap : List Char}, gap.all isBlank = true → ∀ c ∈ gap, isBlank c = true :=
      List.all_eq_true.mp
    exact {
      pieces := .cons ⟨rfl, rfl, hblank rfl⟩ (.cons ⟨rfl, hne, hblank rfl⟩
        (.cons ⟨rfl, rfl, hblank rfl⟩ (.cons ⟨rfl, hand, hblank rfl⟩
          (.cons ⟨rfl, rfl, hblank rfl⟩ .nil))))
      gaps := .cons (fun _ => rfl) (.cons (fun _ => rfl) (.cons (fun _ => rfl) (.cons
        (fun h => nomatch h) .nil))) }
  have hmissing : parse [⟨"a", .int true .w64, true⟩] "a<>1and b" =
      .error (.unknownColumn "b" 8) := by decide +kernel
  obtain ⟨ts', htokens', -, ⟨e, he, -⟩ | ⟨err, i, herr, -, hthere⟩⟩ :=
    layout_insignificant htokens hlaid [⟨"a", .int true .w64, true⟩]
  · rw [hmissing] at he
    cases he
  · rw [hmissing] at herr
    cases herr
    exact ⟨hlaid, hmissing, ts', i, htokens', hthere⟩

end Columnar.Filter

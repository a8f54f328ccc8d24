/-
# `Proofs.Toml.Text` — a text is read from the string it is written as

Whatever the text is, the string it is written as is read as this text, and
what stands behind the string is left over, if no quote stands there
(`readText_write`).  Each form has its own reason.  Between double quotes
every character is read from its escape.  Between single quotes there is
nothing to escape, as the form is chosen only for texts without.  With three
quotes the text may itself hold quotes, two of them in a row, and these may
be its last characters: then four or five quotes stand at the end, and the
reader gives the first ones to the text.
-/
import Columnar.Toml.Text

namespace Columnar.Toml

/-! ## Runs -/

section
variable {c : Char}

/-- One turn of `longestRun`. -/
def countRun (c : Char) (r : Nat × Nat) (x : Char) : Nat × Nat :=
  if x = c then (r.1 + 1, max r.2 (r.1 + 1)) else (0, r.2)

theorem longestRun_eq (text : List Char) : longestRun c text = (text.foldl (countRun c) (0, 0)).2 :=
  rfl

theorem countRun_mono (text : List Char) :
    ∀ r : Nat × Nat, r.2 ≤ (text.foldl (countRun c) r).2 := by
  induction text with
  | nil => exact fun r => Nat.le_refl r.2
  | cons x text ih =>
      intro r
      refine Nat.le_trans ?_ (ih _)
      rw [countRun]
      split
      · exact Nat.le_max_left _ _
      · exact Nat.le_refl _

theorem countRun_replicate (n : Nat) : ∀ r : Nat × Nat, r.1 ≤ r.2 →
    r.1 + n ≤ ((List.replicate n c).foldl (countRun c) r).2 := by
  induction n with
  | zero => exact fun r h => h
  | succ n ih =>
      intro r _
      rw [List.replicate_succ, List.foldl_cons, countRun, if_pos rfl]
      have := ih (r.1 + 1, max r.2 (r.1 + 1)) (Nat.le_max_right _ _)
      dsimp only at this
      omega

theorem countRun_le (text : List Char) : ∀ r : Nat × Nat, r.1 ≤ r.2 →
    (text.foldl (countRun c) r).1 ≤ (text.foldl (countRun c) r).2 := by
  induction text with
  | nil => exact fun r h => h
  | cons x text ih =>
      intro r _
      refine ih _ ?_
      rw [countRun]
      split
      · exact Nat.le_max_right _ _
      · exact Nat.zero_le _

/-- No run is longer than the longest one. -/
theorem run_le {n : Nat} {text : List Char} (h : List.replicate n c <:+: text) :
    n ≤ longestRun c text := by
  obtain ⟨before, after, rfl⟩ := h
  rw [longestRun_eq, List.foldl_append, List.foldl_append]
  have hbefore := countRun_le before (c := c) (0, 0) (Nat.le_refl 0)
  have hrun := countRun_replicate (c := c) n _ hbefore
  exact Nat.le_trans (Nat.le_trans (Nat.le_add_left n _) hrun) (countRun_mono after _)

theorem not_mem_of_longestRun {text : List Char} (h : longestRun c text = 0) : c ∉ text := by
  intro hmem
  obtain ⟨before, after, rfl⟩ := List.append_of_mem hmem
  have hone : List.replicate 1 c <:+: before ++ c :: after :=
    ⟨before, after, by rw [List.append_assoc]; rfl⟩
  have := run_le hone
  omega

end

/-! ## Characters -/

@[simp] theorem push_some (c : Char) (text rest : List Char) :
    Reading.push c (some (text, rest)) = some (c :: text, rest) := rfl

/-- The escape of a control character is read as this character. -/
theorem codePoint_control {c : Char} (h : isControl c = true) : ∃ w x y z,
    (Text.hex 4 c.toNat).toList.map Text.upper = [w, x, y, z] ∧
      codePoint? [w, x, y, z] = some c := by
  have hall : ∀ n < 128, ((Text.hex 4 n).toList.map Text.upper).length = 4 ∧
      codePoint? ((Text.hex 4 n).toList.map Text.upper) = some (Char.ofNat n) := by decide +kernel
  have hsmall : c.toNat < 128 := by
    rw [isControl, Bool.or_eq_true, decide_eq_true_eq, decide_eq_true_eq] at h
    rcases h with h | rfl
    · exact Nat.lt_trans h (by decide)
    · decide
  obtain ⟨hlength, hpoint⟩ := hall c.toNat hsmall
  generalize (Text.hex 4 c.toNat).toList.map Text.upper = digits at hlength hpoint
  match digits, hlength with
  | [w, x, y, z], _ =>
    rw [Char.ofNat_toNat] at hpoint
    exact ⟨w, x, y, z, rfl, hpoint⟩

/-- The letters that stand behind a backslash. -/
def letters : List Char := ['b', 't', 'n', 'f', 'r', '"', '\\']

/-- What a character between double quotes is written as: a backslash and a letter, a backslash
and four digits, or itself. -/
inductive Escaped (c : Char) : List Char → Prop
  | letter {x : Char} : x ∈ letters → escape? x = some c → Escaped c ['\\', x]
  | digits {w x y z : Char} : codePoint? [w, x, y, z] = some c → Escaped c ['\\', 'u', w, x, y, z]
  | plain : isPlain c = true → c ≠ '"' → c ≠ '\\' → c ≠ '\r' → Escaped c [c]

theorem escaped_escapeChar (c : Char) : Escaped c (escapeChar c) := by
  by_cases hspecial : c ∈ ['\x08', '\t', '\n', '\x0c', '\r', '"', '\\']
  · simp only [List.mem_cons, List.not_mem_nil, or_false] at hspecial
    rcases hspecial with rfl | rfl | rfl | rfl | rfl | rfl | rfl
    all_goals exact .letter (by decide) rfl
  · simp only [List.mem_cons, List.not_mem_nil, not_or, or_false] at hspecial
    obtain ⟨hb, ht, hn, hf, hr, hquote, hbackslash⟩ := hspecial
    rw [escapeChar, if_neg hb, if_neg ht, if_neg hn, if_neg hf, if_neg hr, if_neg hquote,
      if_neg hbackslash]
    split
    · next hcontrol =>
      obtain ⟨w, x, y, z, hdigits, hpoint⟩ := codePoint_control hcontrol
      rw [hdigits]
      exact .digits hpoint
    · next hcontrol =>
      have hplain : isPlain c = true := by
        rw [isPlain, Bool.eq_false_iff.mpr hcontrol]
        exact Bool.or_true _
      exact .plain hplain hquote hbackslash hr

theorem lineEnd_none {c : Char} (hline : c ≠ '\n') (hreturn : c ≠ '\r') (rest : List Char) :
    lineEnd? (c :: rest) = none :=
  lineEnd?.eq_3 _ (fun _ heq => hline (List.cons.inj heq).1)
    (fun _ heq => hreturn (List.cons.inj heq).1)

/-- The letters are no line ends and begin no digits of a code point. -/
theorem letter_cases {x : Char} (h : x ∈ letters) : x ≠ 'u' ∧ x ≠ 'U' ∧
    ∀ rest, endsLine (x :: rest) = false := by
  have hcases : x ≠ 'u' ∧ x ≠ 'U' ∧ isSpace x = false ∧ x ≠ '\n' ∧ x ≠ '\r' := by
    simp only [letters, List.mem_cons, List.not_mem_nil, or_false] at h
    rcases h with rfl | rfl | rfl | rfl | rfl | rfl | rfl
    all_goals decide
  obtain ⟨hu, hU, hspace, hn, hr⟩ := hcases
  refine ⟨hu, hU, fun rest => ?_⟩
  rw [endsLine, List.dropWhile_cons_of_neg (by rw [hspace]; exact Bool.false_ne_true),
    lineEnd_none hn hr]
  rfl

/-! ## Between double quotes -/

section
variable {c : Char} {cs : List Char} (rest : List Char)

theorem readBasic_escaped (h : Escaped c cs) :
    readBasic (cs ++ rest) = (readBasic rest).push c := by
  cases h with
  | @letter x hx hescape =>
      obtain ⟨hu, hU, -⟩ := letter_cases hx
      change readBasic ('\\' :: x :: rest) = _
      rw [readBasic.eq_4 _ _ (fun _ _ _ _ _ heq _ => hu heq)
        (fun _ _ _ _ _ _ _ _ _ heq _ => hU heq), hescape]
      rfl
  | @digits w x y z hpoint =>
      change readBasic ('\\' :: 'u' :: w :: x :: y :: z :: rest) = _
      rw [readBasic, hpoint]
      rfl
  | plain hplain hquote hbackslash _ =>
      change readBasic (c :: rest) = _
      rw [readBasic.eq_5 _ _ hquote (fun _ _ _ _ _ heq _ => hbackslash heq)
        (fun _ _ _ _ _ _ _ _ _ heq _ => hbackslash heq) (fun _ _ heq _ => hbackslash heq), hplain,
        bne_iff_ne.mpr hbackslash]
      rfl

theorem readBasic_write (text : List Char) :
    readBasic (text.flatMap escapeChar ++ '"' :: rest) = some (text, rest) := by
  induction text with
  | nil => rw [List.flatMap_nil, List.nil_append, readBasic]
  | cons c text ih =>
      rw [List.flatMap_cons, List.append_assoc, readBasic_escaped _ (escaped_escapeChar c), ih,
        push_some]

/-! ## Between single quotes -/

theorem readLiteral_write {text : List Char} (hplain : ∀ c ∈ text, isPlain c = true)
    (hquote : '\'' ∉ text) : readLiteral (text ++ '\'' :: rest) = some (text, rest) := by
  induction text with
  | nil => rw [List.nil_append, readLiteral]
  | cons c text ih =>
      obtain ⟨hc, htext⟩ := List.forall_mem_cons.mp hplain
      obtain ⟨hne, hmore⟩ := not_or.mp (mt List.mem_cons.mpr hquote)
      rw [List.cons_append, readLiteral.eq_2 _ _ fun heq => hne heq.symm, if_pos hc, ih htext hmore,
        push_some]

end

/-! ## Between three double quotes -/

/-- The characters do not begin with the quote. -/
def NotQuoted (q : Char) (cs : List Char) : Prop := ∀ c ∈ cs.head?, c ≠ q

theorem NotQuoted.ne {q : Char} {cs more : List Char} (h : NotQuoted q cs) : cs ≠ q :: more := by
  rintro rfl
  exact h q rfl rfl

section
variable {c : Char} {cs rest : List Char}

theorem readLongBasic_escaped (h : Escaped c cs) (rest : List Char) :
    readLongBasic false (cs ++ rest) = (readLongBasic false rest).push c := by
  cases h with
  | @letter x hx hescape =>
      obtain ⟨hu, hU, hline⟩ := letter_cases hx
      change readLongBasic false ('\\' :: x :: rest) = _
      rw [readLongBasic.eq_7 _ _ _ (fun _ _ _ _ _ heq _ => hu heq)
        (fun _ _ _ _ _ _ _ _ _ heq _ => hU heq), hline, if_neg Bool.false_ne_true, hescape]
      rfl
  | @digits w x y z hpoint =>
      change readLongBasic false ('\\' :: 'u' :: w :: x :: y :: z :: rest) = _
      rw [readLongBasic, hpoint]
      rfl
  | plain hplain hquote hbackslash hreturn =>
      change readLongBasic false (c :: rest) = _
      rw [readLongBasic.eq_9 _ _ _ (fun _ heq _ => hquote heq) (fun _ heq _ => hquote heq)
        (fun _ heq _ => hquote heq) hquote (fun _ _ _ _ _ heq _ => hbackslash heq)
        (fun _ _ _ _ _ _ _ _ _ heq _ => hbackslash heq) (fun _ _ heq _ => hbackslash heq)
        (fun _ heq _ => hreturn heq), hplain, bne_iff_ne.mpr hbackslash]
      rfl

theorem readLongBasic_newline (rest : List Char) :
    readLongBasic false ('\n' :: rest) = (readLongBasic false rest).push '\n' := by
  rw [readLongBasic.eq_9 _ _ _ (fun _ heq _ => by cases heq) (fun _ heq _ => by cases heq)
    (fun _ heq _ => by cases heq) (fun heq => by cases heq) (fun _ _ _ _ _ heq _ => by cases heq)
    (fun _ _ _ _ _ _ _ _ _ heq _ => by cases heq) (fun _ _ heq _ => by cases heq)
    (fun _ heq _ => by cases heq)]
  rfl

/-- A quote that no two others follow is one of the text. -/
theorem readLongBasic_quote (h : ∀ more, cs ≠ '"' :: '"' :: more) :
    readLongBasic false ('"' :: cs) = (readLongBasic false cs).push '"' :=
  readLongBasic.eq_4 _ _ (fun _ => h _) (fun _ => h _) (fun _ => h _)

/-- The quotes at the end: the last three close the string, and the others are of the text. -/
theorem readLongBasic_close (h : NotQuoted '"' rest) :
    readLongBasic false ('"' :: '"' :: '"' :: rest) = some ([], rest) ∧
    readLongBasic false ('"' :: '"' :: '"' :: '"' :: rest) = some (['"'], rest) ∧
    readLongBasic false ('"' :: '"' :: '"' :: '"' :: '"' :: rest) = some (['"', '"'], rest) :=
  ⟨readLongBasic.eq_3 _ _ (fun _ => h.ne) (fun _ => h.ne), readLongBasic.eq_2 _ _ (fun _ => h.ne),
    readLongBasic.eq_1 _ _⟩

/-- A character is written as itself if it is a line end or a quote behind fewer than two. -/
theorem escapeLong_cases (marks : Nat) (c : Char) (text : List Char) :
    (c = '"' ∧ marks < 2 ∧ escapeLong marks (c :: text) = '"' :: escapeLong (marks + 1) text) ∨
    (c = '\n' ∧ escapeLong marks (c :: text) = '\n' :: escapeLong 0 text) ∨
    ∃ cs, Escaped c cs ∧ escapeLong marks (c :: text) = cs ++ escapeLong 0 text := by
  rw [escapeLong]
  split
  · next hline => subst hline; exact .inr (.inl ⟨rfl, rfl⟩)
  · split
    · next hquote =>
      subst hquote
      split
      · next hmarks => exact .inl ⟨rfl, hmarks, rfl⟩
      · exact .inr (.inr ⟨['\\', '"'], .letter (by decide) rfl, rfl⟩)
    · exact .inr (.inr ⟨_, escaped_escapeChar c, rfl⟩)

theorem Escaped.notQuoted (h : Escaped c cs) (rest : List Char) : NotQuoted '"' (cs ++ rest) := by
  cases h with
  | letter _ _ => rintro d ⟨⟩; decide
  | digits _ => rintro d ⟨⟩; decide
  | plain _ hquote _ _ => rintro d ⟨⟩; exact hquote

/-- Behind two quotes, no third one is written as itself. -/
theorem escapeLong_notQuoted {marks : Nat} (hmarks : 2 ≤ marks) (c : Char) (text tail : List Char) :
    NotQuoted '"' (escapeLong marks (c :: text) ++ tail) := by
  rcases escapeLong_cases marks c text with ⟨-, hfew, -⟩ | ⟨-, hwritten⟩ | ⟨cs, hescaped, hwritten⟩
  · exact absurd hfew (Nat.not_lt_of_le hmarks)
  · rw [hwritten]
    rintro d ⟨⟩
    decide
  · rw [hwritten, List.append_assoc]
    exact hescaped.notQuoted _

/-- Behind a quote, two more stand together only at the end of the text. -/
theorem escapeLong_apart {marks : Nat} (hmarks : 1 ≤ marks) (text tail : List Char) :
    text = [] ∨ (text = ['"'] ∧ escapeLong marks text = ['"']) ∨
      ∀ more, escapeLong marks text ++ tail ≠ '"' :: '"' :: more := by
  cases text with
  | nil => exact .inl rfl
  | cons c text =>
      rcases escapeLong_cases marks c text with ⟨rfl, -, hwritten⟩ | ⟨-, hwritten⟩ |
        ⟨cs, hescaped, hwritten⟩
      · cases text with
        | nil => exact .inr (.inl ⟨rfl, hwritten⟩)
        | cons d text =>
            refine .inr (.inr fun more heq => ?_)
            rw [hwritten] at heq
            have hopen := escapeLong_notQuoted (Nat.succ_le_succ hmarks) d text tail
            exact hopen.ne (List.cons.inj heq).2
      · refine .inr (.inr fun more heq => ?_)
        rw [hwritten] at heq
        cases (List.cons.inj heq).1
      · refine .inr (.inr fun more => ?_)
        rw [hwritten, List.append_assoc]
        exact (hescaped.notQuoted _).ne

theorem readLongBasic_write (hrest : NotQuoted '"' rest) (text : List Char) : ∀ marks,
    readLongBasic false (escapeLong marks text ++ '"' :: '"' :: '"' :: rest) =
      some (text, rest) := by
  obtain ⟨hthree, hfour, hfive⟩ := readLongBasic_close hrest
  induction text with
  | nil => exact fun marks => hthree
  | cons c text ih =>
      intro marks
      rcases escapeLong_cases marks c text with ⟨rfl, -, hwritten⟩ | ⟨rfl, hwritten⟩ |
        ⟨cs, hescaped, hwritten⟩
      · rw [hwritten, List.cons_append]
        rcases escapeLong_apart (Nat.le_add_left 1 marks) text ('"' :: '"' :: '"' :: rest) with
          rfl | ⟨rfl, hlast⟩ | hapart
        · exact hfour
        · rw [hlast]
          exact hfive
        · rw [readLongBasic_quote hapart, ih, push_some]
      · rw [hwritten, List.cons_append, readLongBasic_newline, ih, push_some]
      · rw [hwritten, List.append_assoc, readLongBasic_escaped hescaped, ih, push_some]

end

/-! ## Between three single quotes -/

section
variable {rest : List Char}

/-- The characters that stand between three single quotes as they are. -/
def isLinePlain (c : Char) : Bool := isPlain c || c = '\n'

theorem readLongLiteral_plain {c : Char} {cs : List Char} (hc : isLinePlain c = true)
    (h : ∀ more, c :: cs ≠ '\'' :: '\'' :: '\'' :: more) :
    readLongLiteral (c :: cs) = (readLongLiteral cs).push c := by
  have hreturn : c ≠ '\r' := by
    rintro rfl
    cases hc
  have hquotes : ∀ more, c = '\'' → cs ≠ '\'' :: '\'' :: more := by
    rintro more rfl rfl
    exact h more rfl
  rw [readLongLiteral.eq_5 _ _ (fun _ hq => hquotes _ hq) (fun _ hq => hquotes _ hq)
    (fun _ hq => hquotes _ hq) (fun _ heq _ => hreturn heq)]
  exact if_pos hc

theorem readLongLiteral_write (hrest : NotQuoted '\'' rest) {text : List Char}
    (hplain : ∀ c ∈ text, isLinePlain c = true) (hruns : ¬ ['\'', '\'', '\''] <:+: text) :
    readLongLiteral (text ++ '\'' :: '\'' :: '\'' :: rest) = some (text, rest) := by
  induction text with
  | nil => exact readLongLiteral.eq_3 _ (fun _ => hrest.ne) (fun _ => hrest.ne)
  | cons c text ih =>
      obtain ⟨hc, htext⟩ := List.forall_mem_cons.mp hplain
      have hmore := ih htext fun h => hruns (h.trans (List.suffix_cons c text).isInfix)
      by_cases hquotes : ∃ more, c :: (text ++ '\'' :: '\'' :: '\'' :: rest) =
          '\'' :: '\'' :: '\'' :: more
      · obtain ⟨more, heq⟩ := hquotes
        obtain ⟨rfl, hbehind⟩ := List.cons.inj heq
        cases text with
        | nil => exact readLongLiteral.eq_2 _ (fun _ => hrest.ne)
        | cons d text =>
            obtain ⟨rfl, hlast⟩ := List.cons.inj hbehind
            cases text with
            | nil => exact readLongLiteral.eq_1 _
            | cons e text =>
                obtain ⟨rfl, -⟩ := List.cons.inj hlast
                exact absurd ⟨[], text, rfl⟩ hruns
      · rw [List.cons_append, readLongLiteral_plain hc (not_exists.mp hquotes), hmore, push_some]

end

/-! ## All forms -/

section
variable {text : List Char}

theorem linePlain_of_any
    (h : (text.any fun c => isControl c && c != '\n' && c != '\t') = false) :
    ∀ c ∈ text, isLinePlain c = true := by
  intro c hc
  have := List.any_eq_false.mp h c hc
  rw [isLinePlain, isPlain]
  by_cases htab : c = '\t'
  · simp [htab]
  · by_cases hline : c = '\n'
    · simp [hline]
    · simp_all

theorem form_literal (h : form text = .literal) :
    (∀ c ∈ text, isPlain c = true) ∧ '\'' ∉ text := by
  rw [form] at h
  split at h
  · cases h
  · split at h
    · next hchosen =>
      simp only [Bool.and_eq_true, Bool.not_eq_true', decide_eq_true_eq] at hchosen
      obtain ⟨⟨hcontrol, hquotes⟩, hlines⟩ := hchosen
      refine ⟨fun c hc => ?_, not_mem_of_longestRun hquotes⟩
      have hplain := linePlain_of_any hcontrol c hc
      have hline : ¬ c = '\n' :=
        of_decide_eq_false (Bool.eq_false_iff.mpr (List.any_eq_false.mp hlines c hc))
      simpa [isLinePlain, hline] using hplain
    · split at h
      · cases h
      · split at h
        · cases h
        · split at h <;> cases h

theorem form_longLiteral (h : form text = .longLiteral) :
    (∀ c ∈ text, isLinePlain c = true) ∧ ¬ ['\'', '\'', '\''] <:+: text := by
  rw [form] at h
  split at h
  · cases h
  · split at h
    · cases h
    · split at h
      · cases h
      · split at h
        · next hchosen =>
          simp only [Bool.and_eq_true, Bool.not_eq_true', decide_eq_true_eq] at hchosen
          refine ⟨linePlain_of_any hchosen.1, fun hthree => ?_⟩
          have := run_le (n := 3) hthree
          omega
        · split at h <;> cases h

/-- The line end that is put behind the opening quotes is taken away again, and no other. -/
theorem afterOpening_opening {cs : List Char}
    (h : text.any (· = '\n') = false → lineEnd? cs = none) :
    afterOpening (opening text ++ cs) = cs := by
  rw [opening]
  split
  · rfl
  · next hnone =>
    rw [List.nil_append, afterOpening, h (Bool.eq_false_iff.mpr hnone)]
    rfl

theorem Escaped.lineEnd {c : Char} {cs : List Char} (h : Escaped c cs) (rest : List Char) :
    lineEnd? (cs ++ rest) = none := by
  cases h with
  | letter _ _ => exact lineEnd_none (by decide) (by decide) _
  | digits _ => exact lineEnd_none (by decide) (by decide) _
  | plain hplain _ _ hreturn =>
      refine lineEnd_none ?_ hreturn _
      rintro rfl
      cases hplain

theorem lineEnd_escapeLong (h : text.any (· = '\n') = false) (rest : List Char) :
    lineEnd? (escapeLong 0 text ++ '"' :: rest) = none := by
  cases text with
  | nil => exact lineEnd_none (by decide) (by decide) _
  | cons c text =>
      rcases escapeLong_cases 0 c text with ⟨-, -, hwritten⟩ | ⟨rfl, -⟩ | ⟨cs, hescaped, hwritten⟩
      · rw [hwritten]
        exact lineEnd_none (by decide) (by decide) _
      · cases h
      · rw [hwritten, List.append_assoc]
        exact hescaped.lineEnd _

theorem lineEnd_linePlain (h : text.any (· = '\n') = false)
    (hplain : ∀ c ∈ text, isLinePlain c = true) (rest : List Char) :
    lineEnd? (text ++ '\'' :: rest) = none := by
  cases text with
  | nil => exact lineEnd_none (by decide) (by decide) _
  | cons c text =>
      refine lineEnd_none ?_ ?_ _
      · rintro rfl
        cases h
      · rintro rfl
        cases hplain '\r' List.mem_cons_self

end

/-- A string is read as the text it was written for, and ends where it was written to. -/
theorem readText_write (text : List Char) {rest : List Char} (hdouble : NotQuoted '"' rest)
    (hsingle : NotQuoted '\'' rest) : readText? (write text ++ rest) = some (text, rest) := by
  rw [write]
  cases hform : form text with
  | basic =>
      -- Two quotes at the front are those of the empty text.
      have hthree : ∀ more, text.flatMap escapeChar ++ '"' :: rest ≠ '"' :: '"' :: more := by
        intro more heq
        cases text with
        | nil => exact hdouble.ne (List.cons.inj heq).2
        | cons c text =>
            rw [List.flatMap_cons, List.append_assoc] at heq
            exact ((escaped_escapeChar c).notQuoted _).ne heq
      dsimp only
      rw [List.cons_append, List.append_assoc, List.singleton_append, readText?.eq_3 _
        (fun _ heq => hthree _ (List.cons.inj heq).2)
        (fun _ heq => absurd (List.cons.inj heq).1 (by decide))]
      exact readBasic_write rest text
  | literal =>
      obtain ⟨hplain, hquote⟩ := form_literal hform
      have hthree : ∀ more, text ++ '\'' :: rest ≠ '\'' :: '\'' :: more := by
        intro more heq
        cases text with
        | nil => exact hsingle.ne (List.cons.inj heq).2
        | cons c text => exact hquote ((List.cons.inj heq).1 ▸ List.mem_cons_self)
      dsimp only
      rw [List.cons_append, List.append_assoc, List.singleton_append, readText?.eq_3 _
        (fun _ heq => absurd (List.cons.inj heq).1 (by decide))
        (fun _ heq => hthree _ (List.cons.inj heq).2)]
      exact readLiteral_write rest hplain hquote
  | longBasic =>
      simp only [List.append_assoc, List.cons_append, List.nil_append]
      rw [readText?, afterOpening_opening fun hnone => lineEnd_escapeLong hnone _]
      exact readLongBasic_write hdouble text 0
  | longLiteral =>
      obtain ⟨hplain, hruns⟩ := form_longLiteral hform
      simp only [List.append_assoc, List.cons_append, List.nil_append]
      rw [readText?, afterOpening_opening fun hnone => lineEnd_linePlain hnone hplain _]
      exact readLongLiteral_write hsingle hplain hruns

end Columnar.Toml

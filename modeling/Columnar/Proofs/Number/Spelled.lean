/-
# `Proofs.Number.Spelled` — the grammar of numbers

    whole     := [ "+" | "-" ] digits
    mantissa  := digits [ "." digit* ] | "." digits
    exponent  := [ ( "e" | "E" ) whole ]
    number    := [ "-" ] mantissa exponent

The rules carry what they mean: a whole number its value, a number its sign,
its digits without the point and the power of ten that these count.  The
readers read just what derives, with this meaning; of the other texts a reader
of numbers takes, a leading plus and the words for special values, none can be
met where the first character is a digit, a minus or a point and no letter but
`e` follows.
-/
import Columnar.Proofs.Number.Decimal

namespace Columnar.Number

open Columnar.Text

/-! ## Rules -/

/-- One digit or more. -/
structure DigitRun (cs : List Char) : Prop where
  nonempty : cs ≠ []
  digits : ∀ c ∈ cs, isDigit c = true

/-- A whole number and its value. -/
inductive Whole : List Char → Int → Prop
  | plain {ds : List Char} : DigitRun ds → Whole ds (natural ds)
  | plus {ds : List Char} : DigitRun ds → Whole ('+' :: ds) (natural ds)
  | minus {ds : List Char} : DigitRun ds → Whole ('-' :: ds) (-(natural ds : Int))

/-- Digits with a point or without, read as if there were none, and how many are behind it. -/
inductive Mantissa : List Char → (digits places : Nat) → Prop
  | whole {ds : List Char} : DigitRun ds → Mantissa ds (natural ds) 0
  | point {ds fs : List Char} : DigitRun ds → (∀ c ∈ fs, isDigit c = true) →
      Mantissa (ds ++ '.' :: fs) (natural (ds ++ fs)) fs.length
  | fraction {fs : List Char} : DigitRun fs → Mantissa ('.' :: fs) (natural fs) fs.length

/-- The power of ten that a number is to be multiplied with. -/
inductive Exponent : List Char → Int → Prop
  | absent : Exponent [] 0
  | marked {mark : Char} {cs : List Char} {e : Int} : mark = 'e' ∨ mark = 'E' → Whole cs e →
      Exponent (mark :: cs) e

/-- A number spells `± digits · 10 ^ exponent`. -/
inductive Spelled : List Char → (negative : Bool) → (digits : Nat) → (exponent : Int) → Prop
  | plain {ms es : List Char} {digits places : Nat} {e : Int} : Mantissa ms digits places →
      Exponent es e → Spelled (ms ++ es) false digits (e - (places : Int))
  | minus {ms es : List Char} {digits places : Nat} {e : Int} : Mantissa ms digits places →
      Exponent es e → Spelled ('-' :: (ms ++ es)) true digits (e - (places : Int))

/-! ## Whole numbers -/

theorem DigitRun.head {ds : List Char} (h : DigitRun ds) :
    ∃ c rest, ds = c :: rest ∧ isDigit c = true := by
  obtain ⟨c, rest, rfl⟩ := List.exists_cons_of_ne_nil h.nonempty
  exact ⟨c, rest, rfl, h.digits c List.mem_cons_self⟩

/-- A sign is taken off, and what is left is the text itself if there was none. -/
theorem signed_cases (cs : List Char) :
    (∃ ds, cs = '-' :: ds ∧ signed cs = (true, ds)) ∨
      (∃ ds, cs = '+' :: ds ∧ signed cs = (false, ds)) ∨ signed cs = (false, cs) := by
  rw [signed.eq_def]
  split
  · exact .inl ⟨_, rfl, rfl⟩
  · exact .inr (.inl ⟨_, rfl, rfl⟩)
  · exact .inr (.inr rfl)

theorem integer_of_signed {cs ds : List Char} {negative : Bool} (h : signed cs = (negative, ds))
    {i : Int} : integer? cs = some i ↔
      DigitRun ds ∧ i = if negative then -(natural ds : Int) else natural ds := by
  rw [integer?, h]
  dsimp only
  constructor
  · intro heq
    split at heq
    · cases heq
    · next hcheck =>
      obtain ⟨hempty, hall⟩ := Bool.or_eq_false_iff.mp (Bool.eq_false_iff.mpr hcheck)
      rw [Bool.not_eq_false'] at hall
      rw [← apply_ite some, Option.some.injEq] at heq
      exact ⟨⟨List.isEmpty_eq_false_iff.mp hempty, List.all_eq_true.mp hall⟩, heq.symm⟩
  · rintro ⟨hds, rfl⟩
    rw [List.isEmpty_eq_false_iff.mpr hds.nonempty, List.all_eq_true.mpr hds.digits,
      ← apply_ite some]
    rfl

/-- A whole number is read as its value, and nothing else is read. -/
theorem integer_iff {cs : List Char} {i : Int} : integer? cs = some i ↔ Whole cs i := by
  constructor
  · intro h
    rcases signed_cases cs with ⟨ds, rfl, hsigned⟩ | ⟨ds, rfl, hsigned⟩ | hsigned
    · obtain ⟨hds, rfl⟩ := (integer_of_signed hsigned).mp h
      exact .minus hds
    · obtain ⟨hds, rfl⟩ := (integer_of_signed hsigned).mp h
      exact .plus hds
    · obtain ⟨hds, rfl⟩ := (integer_of_signed hsigned).mp h
      exact .plain hds
  · intro h
    cases h with
    | plain hds => exact integer_digits hds.nonempty hds.digits false
    | plus hds => exact (integer_of_signed rfl).mpr ⟨hds, rfl⟩
    | minus hds => exact (integer_of_signed rfl).mpr ⟨hds, rfl⟩

/-- A whole number is read as one of 64 bits if it is in their range. -/
theorem int64_iff {cs : List Char} {i : Int} :
    int64? cs = some i ↔ Whole cs i ∧ leastInt64 ≤ i ∧ i ≤ greatestInt64 := by
  rw [int64?, Option.filter_eq_some_iff, integer_iff, Bool.and_eq_true, decide_eq_true_eq,
    decide_eq_true_eq]

/-! ## Numbers -/

namespace Numeral

theorem exponent_iff {cs : List Char} {e : Int} : exponent? cs = some e ↔ Exponent cs e := by
  constructor
  · intro h
    cases cs with
    | nil =>
        cases h
        exact .absent
    | cons mark cs =>
        rw [exponent?] at h
        split at h
        · next hmark =>
          rw [Bool.or_eq_true, decide_eq_true_eq, decide_eq_true_eq] at hmark
          exact .marked hmark (integer_iff.mp h)
        · cases h
  · intro h
    cases h with
    | absent => rfl
    | marked hmark hwhole =>
        rw [exponent?, if_pos, integer_iff.mpr hwhole]
        rw [Bool.or_eq_true, decide_eq_true_eq, decide_eq_true_eq]
        exact hmark

end Numeral

/-- An exponent begins with its mark, which is no digit and no point. -/
theorem Exponent.head {es : List Char} {e : Int} (h : Exponent es e) :
    ∀ c ∈ es.head?, isDigit c = false ∧ c ≠ '.' := by
  cases h with
  | absent => exact fun c hc => nomatch hc
  | marked hmark _ =>
      rintro c ⟨⟩
      rcases hmark with rfl | rfl <;> decide

namespace Numeral

theorem fractional_none {cs : List Char} (h : ∀ c ∈ cs.head?, c ≠ '.') :
    fractional cs = ([], cs) := by
  rw [fractional.eq_def]
  split
  · exact absurd rfl (h '.' rfl)
  · rfl

/-- Behind a point all digits are taken; without a point nothing is. -/
theorem fractional_cases {cs fraction rest : List Char} (h : fractional cs = (fraction, rest)) :
    (cs = '.' :: (fraction ++ rest) ∧ ∀ c ∈ fraction, isDigit c = true) ∨
      (fraction = [] ∧ rest = cs) := by
  rw [fractional.eq_def] at h
  split at h
  · cases h
    exact .inl ⟨by rw [List.takeWhile_append_dropWhile], List.all_eq_true.mp List.all_takeWhile⟩
  · cases h
    exact .inr ⟨rfl, rfl⟩

theorem fractional_digits {fs rest : List Char} (hfs : ∀ c ∈ fs, isDigit c = true)
    (hrest : ∀ c ∈ rest.head?, isDigit c = false) :
    fractional ('.' :: (fs ++ rest)) = (fs, rest) := by
  obtain ⟨htake, hdrop⟩ := Spelling.takeWhile_digits hfs hrest
  rw [fractional, htake, hdrop]

section
variable {negative : Bool} {digits places : Nat} {e : Int} {ms es : List Char}

theorem unsigned_of_parts {cs whole after fraction rest : List Char}
    (hwhole : cs.takeWhile isDigit = whole) (hafter : cs.dropWhile isDigit = after)
    (hparts : fractional after = (fraction, rest)) (hrest : Exponent rest e)
    (hsome : whole ≠ [] ∨ fraction ≠ []) : unsigned? negative cs =
      some (.finite negative (natural (whole ++ fraction)) (e - (fraction.length : Int))) := by
  have hcheck : ¬ (whole.isEmpty && fraction.isEmpty) = true := by
    rw [Bool.and_eq_true, List.isEmpty_iff, List.isEmpty_iff, not_and_or]
    exact hsome
  rw [unsigned?, hwhole, hafter, hparts]
  dsimp only
  rw [if_neg hcheck, exponent_iff.mpr hrest]
  rfl

theorem unsigned_of_mantissa (hms : Mantissa ms digits places) (hes : Exponent es e) :
    unsigned? negative (ms ++ es) = some (.finite negative digits (e - (places : Int))) := by
  have hdigit := fun c hc => (hes.head c hc).1
  cases hms with
  | whole hds =>
      obtain ⟨htake, hdrop⟩ := Spelling.takeWhile_digits hds.digits hdigit
      have hparts := fractional_none fun c hc => (hes.head c hc).2
      rw [unsigned_of_parts htake hdrop hparts hes (.inl hds.nonempty), List.append_nil]
      rfl
  | @point ds fs hds hfs =>
      have hpoint : ∀ c ∈ ('.' :: (fs ++ es)).head?, isDigit c = false := by
        rintro c ⟨⟩
        decide
      obtain ⟨htake, hdrop⟩ := Spelling.takeWhile_digits hds.digits hpoint
      rw [List.append_assoc, List.cons_append]
      exact unsigned_of_parts htake hdrop (fractional_digits hfs hdigit) hes (.inl hds.nonempty)
  | @fraction fs hfs =>
      have hparts := fractional_digits hfs.digits hdigit
      rw [List.cons_append]
      exact unsigned_of_parts rfl rfl hparts hes (.inr hfs.nonempty)

theorem mantissa_of_unsigned {cs : List Char} {m : Numeral} (h : unsigned? negative cs = some m) :
    ∃ ms es digits places e, cs = ms ++ es ∧ Mantissa ms digits places ∧ Exponent es e ∧
      m = .finite negative digits (e - (places : Int)) := by
  have hcs : cs = cs.takeWhile isDigit ++ cs.dropWhile isDigit :=
    List.takeWhile_append_dropWhile.symm
  have hwhole : ∀ c ∈ cs.takeWhile isDigit, isDigit c = true :=
    List.all_eq_true.mp List.all_takeWhile
  rw [unsigned?] at h
  generalize cs.takeWhile isDigit = ds at h hcs hwhole
  generalize cs.dropWhile isDigit = after at h hcs
  generalize hparts : fractional after = parts at h
  obtain ⟨fraction, rest⟩ := parts
  dsimp only at h
  split at h
  · cases h
  · next hcheck =>
    rw [Bool.and_eq_true, List.isEmpty_iff, List.isEmpty_iff] at hcheck
    obtain ⟨e, he, rfl⟩ := Option.map_eq_some_iff.mp h
    have hexponent := exponent_iff.mp he
    rw [hcs]
    rcases fractional_cases hparts with ⟨rfl, hfraction⟩ | ⟨rfl, rfl⟩
    · by_cases hds : ds = []
      · subst hds
        have hne : fraction ≠ [] := fun hnil => hcheck ⟨rfl, hnil⟩
        exact ⟨'.' :: fraction, rest, _, _, e, rfl, .fraction ⟨hne, hfraction⟩, hexponent, rfl⟩
      · have hmantissa : Mantissa (ds ++ '.' :: fraction) _ _ := .point ⟨hds, hwhole⟩ hfraction
        refine ⟨_, rest, _, _, e, ?_, hmantissa, hexponent, rfl⟩
        rw [List.append_assoc, List.cons_append]
    · have hds : ds ≠ [] := fun hnil => hcheck ⟨hnil, rfl⟩
      rw [List.append_nil]
      exact ⟨ds, rest, _, _, e, rfl, .whole ⟨hds, hwhole⟩, hexponent, rfl⟩

theorem unsigned_iff {cs : List Char} {m : Numeral} : unsigned? negative cs = some m ↔
    ∃ ms es digits places e, cs = ms ++ es ∧ Mantissa ms digits places ∧ Exponent es e ∧
      m = .finite negative digits (e - (places : Int)) := by
  constructor
  · exact mantissa_of_unsigned
  · rintro ⟨ms, es, digits, places, e, rfl, hms, hes, rfl⟩
    exact unsigned_of_mantissa hms hes

end

/-- None of the words for special values begins with one of the characters. -/
def Wordless (cs : List Char) : Prop := ∀ c ∈ cs, lower c ≠ 'i' ∧ lower c ≠ 'n'

theorem Wordless.head {cs : List Char} (h : Wordless cs) :
    ∀ c ∈ cs.head?, lower c ≠ 'i' ∧ lower c ≠ 'n' := fun c hc => h c (List.mem_of_mem_head? hc)

end Numeral

theorem Mantissa.head {ms : List Char} {digits places : Nat} (h : Mantissa ms digits places) :
    ∃ c rest, ms = c :: rest ∧ (isDigit c = true ∨ c = '.') := by
  cases h with
  | whole hds =>
      obtain ⟨c, rest, rfl, hc⟩ := hds.head
      exact ⟨c, rest, rfl, .inl hc⟩
  | point hds _ =>
      obtain ⟨c, rest, rfl, hc⟩ := hds.head
      exact ⟨c, _, rfl, .inl hc⟩
  | fraction _ => exact ⟨'.', _, rfl, .inr rfl⟩

section
variable {cs : List Char} {negative : Bool} {digits : Nat} {exponent : Int}

/-- A leading minus is the sign. -/
theorem spelled_minus_iff : Spelled ('-' :: cs) negative digits exponent ↔ negative = true ∧
    ∃ ms es places e, cs = ms ++ es ∧ Mantissa ms digits places ∧ Exponent es e ∧
      exponent = e - (places : Int) := by
  constructor
  · intro h
    generalize htext : '-' :: cs = text at h
    cases h with
    | plain hms hes =>
        obtain ⟨c, rest, rfl, hc⟩ := hms.head
        obtain ⟨rfl, -⟩ := List.cons.inj htext
        exact absurd hc (by decide)
    | minus hms hes => exact ⟨rfl, _, _, _, _, (List.cons.inj htext).2, hms, hes, rfl⟩
  · rintro ⟨rfl, ms, es, places, e, rfl, hms, hes, rfl⟩
    exact .minus hms hes

theorem spelled_plain_iff (hcs : ∀ rest, cs ≠ '-' :: rest) :
    Spelled cs negative digits exponent ↔ negative = false ∧
      ∃ ms es places e, cs = ms ++ es ∧ Mantissa ms digits places ∧ Exponent es e ∧
        exponent = e - (places : Int) := by
  constructor
  · intro h
    cases h with
    | plain hms hes => exact ⟨rfl, _, _, _, _, rfl, hms, hes, rfl⟩
    | minus hms hes => exact absurd rfl (hcs _)
  · rintro ⟨rfl, ms, es, places, e, rfl, hms, hes, rfl⟩
    exact .plain hms hes

end

/-- Where no plus leads and no word for a special value can stand, a number is read from just the
texts that spell one. -/
theorem read_iff {cs : List Char} (hplus : ∀ rest, cs ≠ '+' :: rest) (hword : Numeral.Wordless cs)
    {m : Numeral} : Numeral.read? cs = some m ↔
      ∃ negative digits exponent, m = .finite negative digits exponent ∧
        Spelled cs negative digits exponent := by
  rw [Numeral.read?]
  rcases signed_cases cs with ⟨ds, rfl, hsigned⟩ | ⟨ds, rfl, -⟩ | hsigned
  · have hrest : Numeral.Wordless ds := (List.forall_mem_cons.mp hword).2
    rw [hsigned]
    dsimp only
    rw [Numeral.special_none hrest.head, Option.none_or, Numeral.unsigned_iff]
    constructor
    · rintro ⟨ms, es, digits, places, e, rfl, hms, hes, rfl⟩
      exact ⟨_, _, _, rfl, .minus hms hes⟩
    · rintro ⟨negative, digits, exponent, rfl, hspelled⟩
      obtain ⟨rfl, ms, es, places, e, hds, hms, hes, rfl⟩ := spelled_minus_iff.mp hspelled
      exact ⟨ms, es, digits, places, e, hds, hms, hes, rfl⟩
  · exact absurd rfl (hplus ds)
  · have hminus : ∀ rest, cs ≠ '-' :: rest := by
      rintro rest rfl
      cases hsigned
    rw [hsigned]
    dsimp only
    rw [Numeral.special_none hword.head, Option.none_or, Numeral.unsigned_iff]
    constructor
    · rintro ⟨ms, es, digits, places, e, rfl, hms, hes, rfl⟩
      exact ⟨_, _, _, rfl, .plain hms hes⟩
    · rintro ⟨negative, digits, exponent, rfl, hspelled⟩
      obtain ⟨rfl, ms, es, places, e, hds, hms, hes, rfl⟩ := (spelled_plain_iff hminus).mp hspelled
      exact ⟨ms, es, digits, places, e, hds, hms, hes, rfl⟩

/-! ## Numbers that are whole -/

/-- Digits with a sign. -/
def signedValue (negative : Bool) (digits : Nat) : Int :=
  if negative then -(digits : Int) else digits

/-- Neither a point nor the mark of an exponent is in the text. -/
def Unmarked (cs : List Char) : Prop := ∀ c ∈ cs, c ≠ '.' ∧ c ≠ 'e' ∧ c ≠ 'E'

theorem Mantissa.digitRun {ms es : List Char} {digits places : Nat} {e : Int}
    (hms : Mantissa ms digits places) (hes : Exponent es e) (h : Unmarked (ms ++ es)) :
    DigitRun (ms ++ es) ∧ digits = natural (ms ++ es) ∧ e - (places : Int) = 0 := by
  obtain ⟨hleft, hright⟩ := List.forall_mem_append.mp h
  cases hes with
  | marked hmark _ =>
      obtain ⟨-, he, hE⟩ := hright _ List.mem_cons_self
      exact absurd hmark (not_or.mpr ⟨he, hE⟩)
  | absent =>
      rw [List.append_nil]
      cases hms with
      | whole hds => exact ⟨hds, rfl, rfl⟩
      | point _ _ => exact absurd rfl (hleft '.' (List.mem_append_right _ List.mem_cons_self)).1
      | fraction _ => exact absurd rfl (hleft '.' List.mem_cons_self).1

section
variable {cs : List Char} {negative : Bool} {digits : Nat} {exponent i : Int}

/-- Without a point and a mark a number is a whole number. -/
theorem Spelled.whole (h : Spelled cs negative digits exponent) (hcs : Unmarked cs) :
    exponent = 0 ∧ Whole cs (signedValue negative digits) := by
  cases h with
  | plain hms hes =>
      obtain ⟨hds, rfl, hzero⟩ := hms.digitRun hes hcs
      exact ⟨hzero, .plain hds⟩
  | minus hms hes =>
      obtain ⟨hds, rfl, hzero⟩ := hms.digitRun hes (List.forall_mem_cons.mp hcs).2
      exact ⟨hzero, .minus hds⟩

theorem Whole.spelled (h : Whole cs i) (hplus : ∀ rest, cs ≠ '+' :: rest) :
    ∃ negative digits, Spelled cs negative digits 0 ∧ i = signedValue negative digits := by
  cases h with
  | plain hds =>
      have hspelled := Spelled.plain (.whole hds) .absent
      rw [List.append_nil] at hspelled
      exact ⟨_, _, hspelled, rfl⟩
  | plus _ => exact absurd rfl (hplus _)
  | minus hds =>
      have hspelled := Spelled.minus (.whole hds) .absent
      rw [List.append_nil] at hspelled
      exact ⟨_, _, hspelled, rfl⟩

theorem Mantissa.digit {ms : List Char} {digits places : Nat} (h : Mantissa ms digits places) :
    ∃ c ∈ ms, isDigit c = true := by
  cases h with
  | whole hds =>
      obtain ⟨c, rest, rfl, hc⟩ := hds.head
      exact ⟨c, List.mem_cons_self, hc⟩
  | point hds _ =>
      obtain ⟨c, rest, rfl, hc⟩ := hds.head
      exact ⟨c, List.mem_cons_self, hc⟩
  | fraction hfs =>
      obtain ⟨c, rest, rfl, hc⟩ := hfs.head
      exact ⟨c, List.mem_cons_of_mem _ List.mem_cons_self, hc⟩

theorem Spelled.digit (h : Spelled cs negative digits exponent) : ∃ c ∈ cs, isDigit c = true := by
  cases h with
  | plain hms _ =>
      obtain ⟨c, hmem, hc⟩ := hms.digit
      exact ⟨c, List.mem_append_left _ hmem, hc⟩
  | minus hms _ =>
      obtain ⟨c, hmem, hc⟩ := hms.digit
      exact ⟨c, List.mem_cons_of_mem _ (List.mem_append_left _ hmem), hc⟩

end

end Columnar.Number

/-
# `Proofs.Toml.Scalar` — whole numbers and truth values are read as they are written

The digits of a number that is not zero are a word on their own: no date,
no time and no number with a point or an exponent is written with digits
alone, and no zero stands in front of them.
-/
import Columnar.Proofs.Number.Decimal
import Columnar.Toml.Scalar
import Mathlib.Data.List.TakeWhile

namespace Columnar.Toml

open Number Text

/-! ## Digits -/

section
variable {ds : List Char}

theorem ungroup_digits (hne : ds ≠ []) (hds : ∀ c ∈ ds, isDigit c = true) :
    ungroup? isDigit ds = some ds := by
  induction ds with
  | nil => exact absurd rfl hne
  | cons c ds ih =>
      obtain ⟨hc, hmore⟩ := List.forall_mem_cons.mp hds
      cases ds with
      | nil => rw [ungroup?, if_pos hc]
      | cons d ds =>
          have hd : d ≠ '_' := ne_of_isDigit (hmore d List.mem_cons_self) (by decide)
          have hne : d :: ds ≠ [] := List.cons_ne_nil d ds
          rw [ungroup?.eq_4 _ _ _ hne (fun _ h => hd (List.cons.inj h).1), if_pos hc, ih hne hmore]
          rfl

theorem signed_digits (hds : ∀ c ∈ ds, isDigit c = true) : signed ds = (false, ds) := by
  cases ds with
  | nil => rfl
  | cons c ds =>
      have hc := hds c List.mem_cons_self
      exact signed.eq_3 _ (fun _ h => ne_of_isDigit hc (by decide) (List.cons.inj h).1)
        (fun _ h => ne_of_isDigit hc (by decide) (List.cons.inj h).1)

/-- No mark stands behind digits that are only digits. -/
theorem after_digits {c : Char} (hc : isDigit c = false) (hds : ∀ d ∈ ds, isDigit d = true) :
    after? c ds = none := by
  cases ds with
  | nil => rfl
  | cons d ds => exact if_neg (ne_of_isDigit (hds d List.mem_cons_self) hc)

theorem digits_rest {n low high : Nat} {r : Nat × List Char} (hds : ∀ d ∈ ds, isDigit d = true)
    (h : digits? n low high ds = some r) : ∀ d ∈ r.2, isDigit d = true := by
  rw [digits?] at h
  split at h
  · cases h
    exact fun d hd => hds d (List.mem_of_mem_drop hd)
  · cases h

theorem isTime_digits (hds : ∀ c ∈ ds, isDigit c = true) : isTime ds = false := by
  have htime : afterTime? ds = none := by
    rw [afterTime?]
    cases hfirst : digits? 2 0 23 ds with
    | none => rfl
    | some r =>
        have := after_digits (c := ':') (by decide) (digits_rest hds hfirst)
        simp only [Option.bind_eq_bind, Option.bind_some, this, Option.bind_none]
  have hdate : afterDate? ds = none := by
    rw [afterDate?]
    cases hfirst : digits? 4 0 9999 ds with
    | none => rfl
    | some r =>
        have := after_digits (c := '-') (by decide) (digits_rest hds hfirst)
        simp only [Option.bind_eq_bind, Option.bind_some, this, Option.bind_none]
  rw [isTime, htime, hdate]
  rfl

theorem decimal_digits (hds : ∀ c ∈ ds, isDigit c = true) : decimal? ds = none := by
  have hmark : ∀ c ∈ ds, (!(decide (c = 'e') || decide (c = 'E'))) = true := by
    intro c hc
    have he := ne_of_isDigit (hds c hc) (d := 'e') (by decide)
    have hE := ne_of_isDigit (hds c hc) (d := 'E') (by decide)
    rw [decide_eq_false he, decide_eq_false hE]
    rfl
  have hpoint : ∀ c ∈ ds, (c != '.') = true := fun c hc =>
    bne_iff_ne.mpr (ne_of_isDigit (hds c hc) (by decide))
  have hmantissa := List.takeWhile_eq_self_iff.mpr hmark
  have hpower := List.dropWhile_eq_nil_iff.mpr hmark
  rw [decimal?]
  simp only [hmantissa, hpower, List.dropWhile_eq_nil_iff.mpr hpoint]
  rfl

theorem float_digits (hds : ∀ c ∈ ds, isDigit c = true) : float? ds = none := by
  have hword : ∀ {c : Char} {cs : List Char}, isDigit c = false → ds ≠ c :: cs := by
    rintro c cs hc rfl
    rw [hds c List.mem_cons_self] at hc
    cases hc
  rw [float?, signed_digits hds]
  simp only [if_neg (hword (c := 'i') (by decide)), if_neg (hword (c := 'n') (by decide)),
    decimal_digits hds, Option.bind_none]

end

/-! ## Whole numbers -/

/-- No zero stands in front of the digits of a number. -/
theorem toDigits_head {n : Nat} : 0 < n → (Nat.toDigits 10 n).head? ≠ some '0' := by
  induction n using Nat.strong_induction_on with
  | _ n ih =>
      intro hn
      rcases Nat.lt_or_ge n 10 with hsmall | hlarge
      · have hall : ∀ m < 10, 0 < m → some m.digitChar ≠ some '0' := by decide
        rw [Nat.toDigits_of_lt_base hsmall]
        exact hall n hsmall hn
      · have hless : n / 10 < n := Nat.div_lt_self hn (by decide)
        have hpos : 0 < n / 10 := Nat.div_pos hlarge (by decide)
        rw [Nat.toDigits_of_base_le (by decide) hlarge,
          List.head?_append_of_ne_nil _ Nat.toDigits_ne_nil]
        exact ih (n / 10) hless hpos

section
variable {n : Nat} (hn : 0 < n) (hfits : (n : Int) ≤ greatestInt64)
include hn hfits

theorem int_toDigits : int? (Nat.toDigits 10 n) = some (n : Int) := by
  have hds : ∀ c ∈ Nat.toDigits 10 n, isDigit c = true := fun c => isDigit_toDigits
  have hhead := toDigits_head hn
  have hne : ∀ {c : Char} {rest : List Char}, Nat.toDigits 10 n ≠ '0' :: c :: rest := by
    intro c rest heq
    rw [heq] at hhead
    exact hhead rfl
  have hwhole : wholeDigits? (Nat.toDigits 10 n) = some (Nat.toDigits 10 n) := by
    rw [wholeDigits?, ungroup_digits Nat.toDigits_ne_nil hds, Option.filter_some, if_pos]
    rw [bne_iff_ne.mpr hhead, Bool.or_true]
  have hread : integer? (Nat.toDigits 10 n) = some (n : Int) := by
    have := integer_digits Nat.toDigits_ne_nil hds false
    rwa [if_neg Bool.false_ne_true, if_neg Bool.false_ne_true, natural_toDigits] at this
  have hleast : leastInt64 ≤ (n : Int) := Int.le_trans (by decide) (Int.natCast_nonneg n)
  rw [int?.eq_4 _ (fun _ => hne) (fun _ => hne) (fun _ => hne), signed_digits hds]
  dsimp only
  rw [hwhole, Option.bind_some, if_neg Bool.false_ne_true, int64?, hread, Option.filter_some,
    if_pos]
  rw [decide_eq_true hleast, decide_eq_true hfits]
  rfl

theorem word_toDigits : word? (Nat.toDigits 10 n) = some (.int n) := by
  have hds : ∀ c ∈ Nat.toDigits 10 n, isDigit c = true := fun c => isDigit_toDigits
  have hword : ∀ {c : Char} {cs : List Char}, isDigit c = false → Nat.toDigits 10 n ≠ c :: cs := by
    intro c cs hc heq
    have := hds c (heq ▸ List.mem_cons_self)
    rw [hc] at this
    cases this
  rw [word?, if_neg (hword (by decide)), if_neg (hword (by decide)), isTime_digits hds,
    if_neg Bool.false_ne_true, float_digits hds, int_toDigits hn hfits]
  rfl

end

/-! ## Words in front of a line end -/

/-- A word ends where the line does. -/
theorem scalar_line {word rest : List Char} {v : Value} (hword : ∀ c ∈ word, isWordChar c = true)
    (h : word? word = some v) : scalar? (word ++ '\n' :: rest) = some (v, '\n' :: rest) := by
  have hstop : ¬ isWordChar '\n' = true := by decide
  rw [scalar?]
  simp only [List.takeWhile_append_of_pos hword, List.dropWhile_append_of_pos hword,
    List.takeWhile_cons_of_neg hstop, List.dropWhile_cons_of_neg hstop, List.append_nil, h]
  rfl

theorem isWordChar_number (n : Nat) : ∀ c ∈ (toString n).toList, isWordChar c = true := by
  have hdigits : (toString n).toList = Nat.toDigits 10 n := Nat.toList_repr
  intro c hc
  rw [hdigits] at hc
  rw [isWordChar, isDigit_toDigits hc]
  rfl

theorem isWordChar_truth (b : Bool) : ∀ c ∈ (toString b).toList, isWordChar c = true := by
  cases b with
  | false => exact List.all_eq_true.mp (by decide)
  | true => exact List.all_eq_true.mp (by decide)

theorem word_number {n : Nat} (hn : 0 < n) (hfits : (n : Int) ≤ greatestInt64) :
    word? (toString n).toList = some (.int n) := by
  have hdigits : (toString n).toList = Nat.toDigits 10 n := Nat.toList_repr
  rw [hdigits]
  exact word_toDigits hn hfits

theorem word_truth (b : Bool) : word? (toString b).toList = some (.bool b) := by
  cases b with
  | true => rfl
  | false => rfl

end Columnar.Toml

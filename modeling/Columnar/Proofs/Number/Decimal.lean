/-
# `Proofs.Number.Decimal` — decimal texts and what is read from them

A `Spelling` is a decimal text in its parts: digits, digits behind a point,
an exponent.  Its text is read as the number it stands for, with or without
a sign in front (`read_spelling`), and is rounded to a given number if it
stands for a rational in the interval of that number
(`toBinary_of_has`).  Whole numbers are read from their own decimal texts.
-/
import Columnar.Number.Decimal
import Columnar.Proofs.Number.Rounding
import Columnar.Proofs.Text.Class

namespace Columnar.Number

open Columnar.Text

/-! ## Digits -/

theorem isDigit_eq (c : Char) : isDigit c = c.isDigit := by
  simp only [isDigit, Char.isDigit, Char.le_def, ge_iff_le, UInt32.le_iff_toNat_le]

theorem natural_eq (ds : List Char) : natural ds = Nat.ofDigitChars 10 ds 0 := by
  rw [natural, Nat.ofDigitChars_eq_foldl]
  rfl

theorem natural_append (ds es : List Char) :
    natural (ds ++ es) = natural ds * 10 ^ es.length + natural es := by
  rw [natural_eq, natural_eq, natural_eq, Nat.ofDigitChars_append,
    Nat.ofDigitChars_eq_ofDigitChars_zero, Nat.mul_comm]

theorem natural_zeros (n : Nat) : natural (List.replicate n '0') = 0 := by
  rw [natural_eq, Nat.ofDigitChars_replicate_zero, Nat.mul_zero]

theorem natural_toDigits (n : Nat) : natural (Nat.toDigits 10 n) = n := by
  rw [natural_eq, Nat.ofDigitChars_ten_toDigits]

theorem isDigit_toDigits {n : Nat} {c : Char} (h : c ∈ Nat.toDigits 10 n) : isDigit c = true := by
  rw [isDigit_eq]
  exact Nat.isDigit_of_mem_toDigits (by decide) (by decide) h

/-! ## Whole numbers -/

theorem integer_digits {ds : List Char} (hne : ds ≠ []) (hds : ∀ c ∈ ds, isDigit c = true)
    (negative : Bool) : integer? (if negative then '-' :: ds else ds) =
      some (if negative then -(natural ds : Int) else natural ds) := by
  have hempty : ds.isEmpty = false := List.isEmpty_eq_false_iff.mpr hne
  have hall : ds.all isDigit = true := List.all_eq_true.mpr hds
  cases negative with
  | true =>
      rw [if_pos rfl, if_pos rfl, integer?]
      simp only [signed, hempty, hall]
      rfl
  | false =>
      have hsigned : signed ds = (false, ds) := by
        cases ds with
        | nil => exact absurd rfl hne
        | cons c rest =>
            have hc := hds c List.mem_cons_self
            rw [signed.eq_def]
            split
            · next heq => exact absurd (List.cons.inj heq).1 (ne_of_isDigit hc (by decide))
            · next heq => exact absurd (List.cons.inj heq).1 (ne_of_isDigit hc (by decide))
            · rfl
      rw [integer?, if_neg Bool.false_ne_true, if_neg Bool.false_ne_true, hsigned]
      simp only [hempty, hall]
      rfl

/-- The decimal text of a whole number: its digits, with a sign if it is negative. -/
theorem toList_toString (i : Int) : (toString i).toList =
    if decide (i < 0) then '-' :: Nat.toDigits 10 i.natAbs else Nat.toDigits 10 i.natAbs := by
  cases i with
  | ofNat n =>
      have hneg : ¬ (Int.ofNat n < 0) := Int.not_lt.mpr (Int.natCast_nonneg n)
      rw [decide_eq_false hneg, if_neg Bool.false_ne_true]
      exact Nat.toList_repr
  | negSucc n =>
      rw [decide_eq_true (Int.negSucc_lt_zero n), if_pos rfl]
      change ("-" ++ (n + 1).repr).toList = _
      rw [String.toList_append, Nat.toList_repr]
      rfl

theorem integer_toString (i : Int) : integer? (toString i).toList = some i := by
  have hne : Nat.toDigits 10 i.natAbs ≠ [] := Nat.toDigits_ne_nil
  rw [toList_toString, integer_digits hne (fun c => isDigit_toDigits) (decide (i < 0)),
    natural_toDigits]
  congr 1
  by_cases h : i < 0
  · rw [decide_eq_true h, if_pos rfl]
    omega
  · rw [decide_eq_false h, if_neg Bool.false_ne_true]
    omega

/-- No word for a special value begins with another letter. -/
theorem Numeral.special_none {cs : List Char}
    (h : ∀ c ∈ cs.head?, lower c ≠ 'i' ∧ lower c ≠ 'n') (negative : Bool) :
    special? negative cs = none := by
  have hword : ∀ {w : String} {d : Char} {ds : List Char}, w.toList = d :: ds →
      d = 'i' ∨ d = 'n' → String.ofList (cs.map lower) ≠ w := by
    intro w d ds hw hd heq
    have hchars := congrArg String.toList heq
    rw [String.toList_ofList, hw] at hchars
    cases cs with
    | nil => cases hchars
    | cons c cs =>
        obtain ⟨hi, hn⟩ := h c rfl
        rcases hd with rfl | rfl
        · exact hi (List.cons.inj hchars).1
        · exact hn (List.cons.inj hchars).1
  rw [special?]
  simp only [hword (w := "inf") rfl (.inl rfl), hword (w := "infinity") rfl (.inl rfl),
    hword (w := "nan") rfl (.inr rfl), decide_false, Bool.or_self, Bool.false_eq_true, if_false]

/-! ## Spellings -/

/-- The parts of an unsigned decimal text. -/
structure Spelling where
  whole : List Char
  /-- The digits behind the point; without any there is no point. -/
  fraction : List Char
  exponent : Option Int

namespace Spelling

/-- The digits behind the point, and the point. -/
def pointText (fraction : List Char) : List Char := if fraction = [] then [] else '.' :: fraction

def exponentText : Option Int → List Char
  | none => []
  | some e => 'e' :: (toString e).toList

def text (s : Spelling) : List Char := s.whole ++ (pointText s.fraction ++ exponentText s.exponent)

/-- The whole number that the digits spell without the point. -/
def digits (s : Spelling) : Nat := natural (s.whole ++ s.fraction)

/-- The power of ten that the digits count. -/
def power (s : Spelling) : Int := s.exponent.getD 0 - (s.fraction.length : Int)

/-- The number that the text stands for. -/
def value (s : Spelling) : ℚ := s.digits * 10 ^ s.power

/-- Digits stand where they must, and the text is seen to be no whole number. -/
structure Proper (s : Spelling) : Prop where
  whole_ne : s.whole ≠ []
  whole : ∀ c ∈ s.whole, isDigit c = true
  fraction : ∀ c ∈ s.fraction, isDigit c = true
  marked : s.fraction ≠ [] ∨ s.exponent.isSome = true

variable {s : Spelling}

theorem Proper.head (h : s.Proper) : ∃ c rest, s.text = c :: rest ∧ isDigit c = true := by
  obtain ⟨whole, fraction, exponent⟩ := s
  cases whole with
  | nil => exact absurd rfl h.whole_ne
  | cons c rest => exact ⟨c, _, rfl, h.whole c List.mem_cons_self⟩

theorem exponent_exponentText (e : Option Int) :
    Numeral.exponent? (exponentText e) = some (e.getD 0) := by
  cases e with
  | none => rfl
  | some e =>
      rw [exponentText, Numeral.exponent?, if_pos (by decide), integer_toString]
      rfl

/-- A run of digits ends where something else stands. -/
theorem takeWhile_digits {ds rest : List Char} (hds : ∀ c ∈ ds, isDigit c = true)
    (hrest : ∀ c ∈ rest.head?, isDigit c = false) :
    (ds ++ rest).takeWhile isDigit = ds ∧ (ds ++ rest).dropWhile isDigit = rest := by
  have hstop : rest.takeWhile isDigit = [] ∧ rest.dropWhile isDigit = rest := by
    cases rest with
    | nil => exact ⟨rfl, rfl⟩
    | cons c rest =>
        have hc := hrest c rfl
        rw [List.takeWhile_cons_of_neg (by simp [hc]), List.dropWhile_cons_of_neg (by simp [hc])]
        exact ⟨rfl, rfl⟩
  constructor
  · rw [List.takeWhile_append_of_pos hds, hstop.1, List.append_nil]
  · rw [List.dropWhile_append_of_pos hds, hstop.2]

theorem exponentText_head (e : Option Int) : ∀ c ∈ (exponentText e).head?, isDigit c = false := by
  cases e with
  | none => exact fun c hc => nomatch hc
  | some e =>
      rintro c ⟨⟩
      decide

theorem fractional_pointText {fraction : List Char} (h : ∀ c ∈ fraction, isDigit c = true)
    (e : Option Int) : Numeral.fractional (pointText fraction ++ exponentText e) =
      (fraction, exponentText e) := by
  rw [pointText]
  split
  · next hnone =>
    subst hnone
    cases e with
    | none => rfl
    | some e => rfl
  · obtain ⟨htake, hdrop⟩ := takeWhile_digits h (exponentText_head e)
    rw [List.cons_append, Numeral.fractional, htake, hdrop]

theorem pointText_head (fraction : List Char) (e : Option Int) :
    ∀ c ∈ (pointText fraction ++ exponentText e).head?, isDigit c = false := by
  rw [pointText]
  split
  · exact exponentText_head e
  · rintro c ⟨⟩
    decide

theorem unsigned_text (h : s.Proper) (negative : Bool) :
    Numeral.unsigned? negative s.text = some (.finite negative s.digits s.power) := by
  have hwhole : s.whole.isEmpty = false := List.isEmpty_eq_false_iff.mpr h.whole_ne
  obtain ⟨htake, hdrop⟩ := takeWhile_digits h.whole (pointText_head s.fraction s.exponent)
  rw [Numeral.unsigned?, text, htake, hdrop, fractional_pointText h.fraction]
  simp only [hwhole, exponent_exponentText]
  rfl

theorem special_text (h : s.Proper) (negative : Bool) :
    Numeral.special? negative s.text = none := by
  obtain ⟨c, rest, htext, hc⟩ := h.head
  refine Numeral.special_none ?_ negative
  rw [htext]
  rintro _ ⟨⟩
  rw [lower_digit hc]
  exact ⟨ne_of_isDigit hc (by decide), ne_of_isDigit hc (by decide)⟩

/-- The text of a spelling is read, with a sign or without. -/
theorem read_spelling (h : s.Proper) (negative : Bool) :
    Numeral.read? (if negative then '-' :: s.text else s.text) =
      some (.finite negative s.digits s.power) := by
  have hsigned : signed (if negative then '-' :: s.text else s.text) = (negative, s.text) := by
    cases negative with
    | true => rfl
    | false =>
        obtain ⟨c, rest, htext, hc⟩ := h.head
        rw [if_neg Bool.false_ne_true, htext, signed.eq_def]
        split
        · next heq => exact absurd (List.cons.inj heq).1 (ne_of_isDigit hc (by decide))
        · next heq => exact absurd (List.cons.inj heq).1 (ne_of_isDigit hc (by decide))
        · rfl
  rw [Numeral.read?, hsigned]
  simp only [special_text h, unsigned_text h, Option.none_or]

end Spelling

/-! ## Rounding what was read -/

section
variable {p : Precision} {x : Binary p}

theorem unitExponent_le (h : x.isFinite = true) : x.unitExponent ≤ 971 := by
  have hlt : x.magnitude < p.infinity := by simpa [Binary.isFinite] using h
  have hdiv : x.magnitude / 2 ^ (p.digits - 1) < 2 ^ p.exponentBits - 1 :=
    Nat.div_lt_of_lt_mul (by rw [Nat.mul_comm]; exact hlt)
  rw [Binary.unitExponent]
  generalize x.magnitude / 2 ^ (p.digits - 1) = n at hdiv ⊢
  cases p with
  | half => simp only [Precision.exponentBits, Precision.least] at hdiv ⊢; omega
  | single => simp only [Precision.exponentBits, Precision.least] at hdiv ⊢; omega
  | double => simp only [Precision.exponentBits, Precision.least] at hdiv ⊢; omega

theorem two_zpow_le_ten_zpow (n : Nat) : (2 : ℚ) ^ (3 * (n : Int)) ≤ 10 ^ (n : Int) := by
  rw [zpow_mul, zpow_natCast, zpow_natCast]
  exact pow_le_pow_left₀ (by norm_num) (by norm_num) n

/-- What rounds to a finite number that is not zero is well within the powers of ten up to the
four hundredth. -/
theorem has_reach (hfinite : x.isFinite = true) (hpos : 0 < x.magnitude) {y : ℚ}
    (h : (Interval.ofBinary x).Has y) : (10 : ℚ) ^ (-400 : Int) ≤ y ∧ y < 10 ^ (400 : Int) := by
  obtain ⟨t, rfl, hlow, hhigh, -⟩ := h.units hpos
  have hunit : (0 : ℚ) < 2 ^ x.unitExponent := by positivity
  have hone : (1 : ℚ) ≤ x.significand := by exact_mod_cast Binary.significand_pos hpos
  have hbelow : (Interval.below x : ℚ) ≤ 2 := by exact_mod_cast Interval.below_le x
  have hlt : (x.significand : ℚ) < 2 * Binary.hidden p := by exact_mod_cast x.significand_lt
  have hhidden : (Binary.hidden p : ℚ) ≤ 2 ^ 52 := by exact_mod_cast Binary.hidden_le p
  have hleast := Int.le_trans (Binary.least_ge p) x.least_le_unitExponent
  have hunit' := unitExponent_le hfinite
  constructor
  · calc (10 : ℚ) ^ (-400 : Int) = (10 ^ ((400 : Nat) : Int))⁻¹ := zpow_neg ..
      _ ≤ (2 ^ (3 * ((400 : Nat) : Int)))⁻¹ := inv_anti₀ (by positivity) (two_zpow_le_ten_zpow 400)
      _ = 2 ^ (-(3 * ((400 : Nat) : Int))) := (zpow_neg ..).symm
      _ ≤ 2 ^ (-1 + x.unitExponent) := zpow_le_zpow_right₀ (by norm_num) (by omega)
      _ = 1 / 2 * 2 ^ x.unitExponent := by rw [zpow_add₀ (by norm_num)]; norm_num
      _ ≤ t * 2 ^ x.unitExponent := mul_le_mul_of_nonneg_right (by linarith) hunit.le
  · have ht : t < 2 ^ (54 : Int) :=
      calc t ≤ x.significand + 1 / 2 := hhigh
        _ < 2 * 2 ^ 52 + 1 / 2 := by linarith
        _ ≤ 2 ^ (54 : Int) := by norm_num
    calc t * 2 ^ x.unitExponent < 2 ^ (54 : Int) * 2 ^ x.unitExponent :=
          mul_lt_mul_of_pos_right ht hunit
      _ = 2 ^ (54 + x.unitExponent) := (zpow_add₀ (by norm_num) ..).symm
      _ ≤ 2 ^ (3 * ((400 : Nat) : Int)) := zpow_le_zpow_right₀ (by norm_num) (by omega)
      _ ≤ 10 ^ ((400 : Nat) : Int) := two_zpow_le_ten_zpow 400

theorem toDigits_bounds {n : Nat} (h : 0 < n) :
    10 ^ ((Nat.toDigits 10 n).length - 1) ≤ n ∧ n < 10 ^ (Nat.toDigits 10 n).length := by
  have hlength := Nat.length_toDigits_pos (b := 10) (n := n)
  constructor
  · rcases Nat.eq_or_lt_of_le hlength with hone | hmore
    · rw [← hone]
      exact h
    · by_contra hlt
      have := (Nat.length_toDigits_le_iff (by decide) (show 0 < (Nat.toDigits 10 n).length - 1 by omega)).mpr
        (Nat.lt_of_not_le hlt)
      omega
  · exact (Nat.length_toDigits_le_iff (by decide) hlength).mp (Nat.le_refl _)

/-- Digits that stand for a rational between two powers of ten lie between these powers. -/
theorem count_bounds {n : Nat} {e low high : Int} (hn : 0 < n)
    (hlow : (10 : ℚ) ^ low ≤ n * 10 ^ e) (hhigh : (n : ℚ) * 10 ^ e < 10 ^ high) :
    low < (Nat.toDigits 10 n).length + e ∧ ((Nat.toDigits 10 n).length : Int) + e ≤ high := by
  have hten : (0 : ℚ) < 10 ^ e := by positivity
  obtain ⟨hfirst, hlast⟩ := toDigits_bounds hn
  have hlength := Nat.length_toDigits_pos (b := 10) (n := n)
  generalize (Nat.toDigits 10 n).length = k at hfirst hlast hlength ⊢
  have hcount : (n : ℚ) < 10 ^ (k : Int) := by
    rw [zpow_natCast]
    exact_mod_cast hlast
  have hlead : (10 : ℚ) ^ ((k - 1 : Nat) : Int) ≤ n := by
    rw [zpow_natCast]
    exact_mod_cast hfirst
  constructor
  · rw [← zpow_lt_zpow_iff_right₀ (by norm_num : (1 : ℚ) < 10), zpow_add₀ (by norm_num)]
    exact lt_of_le_of_lt hlow (mul_lt_mul_of_pos_right hcount hten)
  · have hlt : ((k - 1 : Nat) : Int) + e < high := by
      rw [← zpow_lt_zpow_iff_right₀ (by norm_num : (1 : ℚ) < 10), zpow_add₀ (by norm_num)]
      exact lt_of_le_of_lt (mul_le_mul_of_nonneg_right hlead hten.le) hhigh
    omega

/-- A decimal that stands for a rational in the interval of a number is rounded to it. -/
theorem toBinary_of_has (hfinite : x.isFinite = true) (hpos : 0 < x.magnitude) {n : Nat} {e : Int}
    (h : (Interval.ofBinary x).Has (n * 10 ^ e)) :
    Numeral.toBinary p (.finite x.negative n e) = x := by
  have hn : 0 < n := by
    have hvalue := h.pos hpos
    rw [mul_pos_iff_of_pos_right (by positivity)] at hvalue
    exact_mod_cast hvalue
  obtain ⟨hlow, hhigh⟩ := has_reach hfinite hpos h
  obtain ⟨hleast, hmost⟩ := count_bounds hn hlow hhigh
  rw [Numeral.toBinary]
  generalize (Nat.toDigits 10 n).length = k at hleast hmost ⊢
  have hsmall : ¬ ((k : Int) + e < -Numeral.reach) := Int.not_lt.mpr hleast.le
  have hlarge : ¬ (Numeral.reach < (k : Int) + e) := Int.not_lt.mpr hmost
  have hsmall' : (decide (n = 0) || decide ((k : Int) + e < -Numeral.reach)) = false := by
    rw [decide_eq_false (Nat.ne_of_gt hn), decide_eq_false hsmall]
    rfl
  simp only [hsmall', if_neg Bool.false_ne_true, if_neg hlarge]
  split
  · next he =>
    obtain ⟨m, rfl⟩ := Int.eq_ofNat_of_zero_le he
    have hratio : ((n * 10 ^ (m : Int).toNat : Nat) : ℚ) / (1 : Nat) = n * 10 ^ (m : Int) := by
      rw [Int.toNat_natCast, zpow_natCast]
      push_cast
      ring
    rw [Binary.ofRatio, Binary.round_of_has hfinite hpos Nat.one_pos (hratio ▸ h),
      Binary.ofMagnitude_magnitude]
  · next he =>
    obtain ⟨m, hm⟩ := Int.eq_ofNat_of_zero_le (show 0 ≤ -e by omega)
    obtain rfl : e = -(m : Int) := by omega
    have hratio : (n : ℚ) / ((10 ^ (-(-(m : Int))).toNat : Nat) : ℚ) = n * 10 ^ (-(m : Int)) := by
      rw [neg_neg, Int.toNat_natCast, zpow_neg, zpow_natCast]
      push_cast
      exact div_eq_mul_inv ..
    rw [Binary.ofRatio, Binary.round_of_has hfinite hpos (Nat.pow_pos (by decide)) (hratio ▸ h),
      Binary.ofMagnitude_magnitude]

end

end Columnar.Number

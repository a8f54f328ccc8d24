/-
# `Proofs.Number.Rounding` — what rounds to a number

A finite number that is not zero stands for an interval of reals
(`Interval.ofBinary`), and every ratio in that interval is rounded to it
(`round_of_has`).  The interval is half a unit wide on each side, and the one
difficulty is a power of two: below it the units are half as large, so a
ratio just below is rounded among the smaller units, and comes out at the
power of two all the same because the interval has only a quarter of a unit
on that side.

The values are rationals here, `num / den` and `2 ^ e` with a whole exponent.
-/
import Columnar.Number.Shortest
import Mathlib.Algebra.Order.Field.Power
import Mathlib.Tactic.FieldSimp
import Mathlib.Tactic.Linarith
import Mathlib.Tactic.Positivity
import Mathlib.Tactic.Ring

namespace Columnar.Number

/-! ## Fields -/

namespace Binary

variable {p : Precision}

/-- The significand of a normal number without its leading bit, as a number. -/
def hidden (p : Precision) : Nat := 2 ^ (p.digits - 1)

theorem hidden_pos (p : Precision) : 0 < hidden p := Nat.two_pow_pos _

theorem hidden_le (p : Precision) : hidden p ≤ 2 ^ 52 := by
  cases p with
  | half => decide
  | single => decide
  | double => decide

theorem least_ge (p : Precision) : -1074 ≤ p.least := by
  cases p with
  | half => decide
  | single => decide
  | double => decide

theorem significand_lt (x : Binary p) : x.significand < 2 * hidden p := by
  rw [significand]
  have := Nat.mod_lt x.magnitude (hidden_pos p)
  simp only [hidden] at this ⊢
  split <;> omega

theorem least_le_unitExponent (x : Binary p) : p.least ≤ x.unitExponent := by
  rw [unitExponent]
  omega

/-- Only numbers with the least unit have no leading bit. -/
theorem hidden_le_significand {x : Binary p} (h : p.least < x.unitExponent) :
    hidden p ≤ x.significand := by
  rw [unitExponent] at h
  have hle : hidden p ≤ x.magnitude := by
    by_contra hlt
    have hzero : x.magnitude / 2 ^ (p.digits - 1) = 0 := Nat.div_eq_of_lt (Nat.lt_of_not_le hlt)
    rw [hzero] at h
    simp at h
  rw [hidden] at hle ⊢
  rw [significand, if_neg (Nat.not_lt.mpr hle)]
  exact Nat.le_add_left _ _

/-- The bits below the sign count the units, and one more leading bit for each larger unit. -/
theorem magnitude_eq (x : Binary p) :
    x.magnitude = (x.unitExponent - p.least).toNat * hidden p + x.significand := by
  have hunit : (x.unitExponent - p.least).toNat = x.magnitude / 2 ^ (p.digits - 1) - 1 := by
    rw [unitExponent]
    omega
  rw [hunit, significand]
  by_cases h : x.magnitude < 2 ^ (p.digits - 1)
  · rw [if_pos h, Nat.div_eq_of_lt h]
    simp
  · rw [if_neg h]
    have hpos : 1 ≤ x.magnitude / 2 ^ (p.digits - 1) :=
      (Nat.one_le_div_iff (hidden_pos p)).mpr (Nat.le_of_not_lt h)
    have hdecomposed := Nat.div_add_mod x.magnitude (2 ^ (p.digits - 1))
    obtain ⟨k, hk⟩ := Nat.exists_eq_add_of_le' hpos
    rw [hk] at hdecomposed ⊢
    rw [Nat.add_sub_cancel, hidden]
    calc x.magnitude = 2 ^ (p.digits - 1) * (k + 1) + x.magnitude % 2 ^ (p.digits - 1) :=
          hdecomposed.symm
      _ = k * 2 ^ (p.digits - 1) + (x.magnitude % 2 ^ (p.digits - 1) + 2 ^ (p.digits - 1)) := by
          ring

theorem significand_pos {x : Binary p} (h : 0 < x.magnitude) : 0 < x.significand := by
  rcases Int.lt_or_eq_of_le x.least_le_unitExponent with hlt | heq
  · exact Nat.lt_of_lt_of_le (hidden_pos p) (hidden_le_significand hlt)
  · have := x.magnitude_eq
    rw [← heq, Int.sub_self] at this
    simp only [Int.toNat_zero, Nat.zero_mul, Nat.zero_add] at this
    exact this ▸ h

theorem ofMagnitude_magnitude (x : Binary p) : ofMagnitude x.negative x.magnitude = x := by
  have hwidth : 2 ^ p.width = 2 * 2 ^ (p.width - 1) := by
    cases p with
    | half => rfl
    | single => rfl
    | double => rfl
  obtain ⟨bits⟩ := x
  rw [ofMagnitude, negative, magnitude, Binary.mk.injEq, BitVec.msb_eq_decide]
  apply BitVec.eq_of_toNat_eq
  have hlt := bits.isLt
  rw [hwidth] at hlt
  by_cases h : 2 ^ (p.width - 1) ≤ bits.toNat
  · have hmod : bits.toNat % 2 ^ (p.width - 1) = bits.toNat - 2 ^ (p.width - 1) := by
      rw [Nat.mod_eq_sub_mod h, Nat.mod_eq_of_lt (by omega)]
    rw [decide_eq_true h, if_pos rfl, hmod, Nat.add_sub_cancel' h]
    exact Nat.mod_eq_of_lt bits.isLt
  · have hmod : bits.toNat % 2 ^ (p.width - 1) = bits.toNat := Nat.mod_eq_of_lt (by omega)
    rw [decide_eq_false h, if_neg Bool.false_ne_true, hmod]
    exact Nat.mod_eq_of_lt bits.isLt

/-! ## Ratios -/

theorem scale2_pos {num den : Nat} (hden : 0 < den) (e : Int) : 0 < (scale2 num den e).2 := by
  rw [scale2]
  split
  · exact hden
  · exact Nat.mul_pos hden (Nat.two_pow_pos _)

theorem scale2_ratio (num den : Nat) (e : Int) :
    ((scale2 num den e).1 : ℚ) / (scale2 num den e).2 = num / den * 2 ^ e := by
  rw [scale2]
  split
  · next h =>
    obtain ⟨n, rfl⟩ := Int.eq_ofNat_of_zero_le h
    rw [Int.toNat_natCast, zpow_natCast]
    push_cast
    ring
  · next h =>
    obtain ⟨n, hn⟩ := Int.eq_ofNat_of_zero_le (show 0 ≤ -e by omega)
    obtain rfl : e = -(n : Int) := by omega
    rw [neg_neg, Int.toNat_natCast, zpow_neg, zpow_natCast]
    push_cast
    rw [div_mul_eq_div_div, div_eq_mul_inv ((num : ℚ) / den)]

theorem log2_bounds {n : Nat} (h : 0 < n) :
    (2 : ℚ) ^ (n.log2 : Int) ≤ n ∧ (n : ℚ) < 2 ^ ((n.log2 : Int) + 1) := by
  have hle : 2 ^ n.log2 ≤ n := Nat.log2_self_le (Nat.ne_of_gt h)
  have hlt : n < 2 ^ (n.log2 + 1) := Nat.lt_log2_self
  constructor
  · rw [zpow_natCast]
    exact_mod_cast hle
  · have hexp : ((n.log2 : Int) + 1) = ((n.log2 + 1 : Nat) : Int) := by push_cast; rfl
    rw [hexp, zpow_natCast]
    exact_mod_cast hlt

/-- `floorLog2` brackets the ratio between two powers of two. -/
theorem floorLog2_bounds {num den : Nat} (hnum : 0 < num) (hden : 0 < den) :
    (2 : ℚ) ^ floorLog2 num den ≤ num / den ∧
      (num : ℚ) / den < 2 ^ (floorLog2 num den + 1) := by
  have hden' : (0 : ℚ) < den := by exact_mod_cast hden
  obtain ⟨hn, hn'⟩ := log2_bounds hnum
  obtain ⟨hd, hd'⟩ := log2_bounds hden
  have hlow : (2 : ℚ) ^ ((num.log2 : Int) - den.log2 - 1) ≤ num / den := by
    rw [le_div_iff₀ hden']
    calc (2 : ℚ) ^ ((num.log2 : Int) - den.log2 - 1) * den
        ≤ 2 ^ ((num.log2 : Int) - den.log2 - 1) * 2 ^ ((den.log2 : Int) + 1) :=
          mul_le_mul_of_nonneg_left hd'.le (by positivity)
      _ = 2 ^ (num.log2 : Int) := by
          rw [← zpow_add₀ (by norm_num)]
          congr 1
          ring
      _ ≤ num := hn
  have hhigh : (num : ℚ) / den < 2 ^ ((num.log2 : Int) - den.log2 + 1) := by
    rw [div_lt_iff₀ hden']
    calc (num : ℚ) < 2 ^ ((num.log2 : Int) + 1) := hn'
      _ = 2 ^ ((num.log2 : Int) - den.log2 + 1) * 2 ^ (den.log2 : Int) := by
          rw [← zpow_add₀ (by norm_num)]
          congr 1
          ring
      _ ≤ 2 ^ ((num.log2 : Int) - den.log2 + 1) * den :=
          mul_le_mul_of_nonneg_left hd (by positivity)
  rw [floorLog2]
  generalize (num.log2 : Int) - den.log2 = e at hlow hhigh ⊢
  have hpos : (0 : ℚ) < (scale2 num den (-e)).2 := by exact_mod_cast scale2_pos hden (-e)
  have hratio := scale2_ratio num den (-e)
  have hcancel : (num : ℚ) / den = num / den * 2 ^ (-e) * 2 ^ e := by
    rw [mul_assoc, ← zpow_add₀ (by norm_num), neg_add_cancel, zpow_zero, mul_one]
  split
  · next hlt =>
    have hone : (num : ℚ) / den * 2 ^ (-e) < 1 := by
      rw [← hratio, div_lt_one hpos]
      exact_mod_cast hlt
    refine ⟨hlow, ?_⟩
    rw [sub_add_cancel, hcancel]
    exact mul_lt_of_lt_one_left (by positivity) hone
  · next hge =>
    have hone : 1 ≤ (num : ℚ) / den * 2 ^ (-e) := by
      rw [← hratio, one_le_div hpos]
      exact_mod_cast Nat.le_of_not_lt hge
    refine ⟨?_, hhigh⟩
    rw [hcancel]
    exact le_mul_of_one_le_left (by positivity) hone

theorem floorLog2_lt {num den : Nat} (hnum : 0 < num) (hden : 0 < den) {k : Int}
    (h : (num : ℚ) / den < 2 ^ k) : floorLog2 num den < k := by
  rw [← zpow_lt_zpow_iff_right₀ (one_lt_two : (1 : ℚ) < 2)]
  exact lt_of_le_of_lt (floorLog2_bounds hnum hden).1 h

theorem le_floorLog2 {num den : Nat} (hnum : 0 < num) (hden : 0 < den) {k : Int}
    (h : (2 : ℚ) ^ k ≤ num / den) : k ≤ floorLog2 num den := by
  have hlt : k < floorLog2 num den + 1 := by
    rw [← zpow_lt_zpow_iff_right₀ (one_lt_two : (1 : ℚ) < 2)]
    exact lt_of_le_of_lt h (floorLog2_bounds hnum hden).2
  omega

/-- The nearest whole number is the one at most a half away, if the half is only reached by an
even one. -/
theorem nearest_of_close {num den n : Nat} (hden : 0 < den) (hlow : 2 * n * den ≤ 2 * num + den)
    (hhigh : 2 * num ≤ 2 * n * den + den)
    (htie : n % 2 = 0 ∨ (2 * n * den < 2 * num + den ∧ 2 * num < 2 * n * den + den)) :
    nearest num den = n := by
  rw [nearest]
  have hsum := Nat.div_add_mod num den
  have hr := Nat.mod_lt num hden
  generalize num / den = q at hsum ⊢
  generalize num % den = r at hsum hr ⊢
  subst hsum
  -- `n` is `q` or `q + 1`: multiples of `den` that are not so close are too far away.
  have hn : n = q ∨ n = q + 1 := by
    have h₁ : n < q + 2 := by
      by_contra h
      have := Nat.mul_le_mul_right den (Nat.le_of_not_lt h)
      nlinarith
    have h₂ : q < n + 1 := by
      by_contra h
      have := Nat.mul_le_mul_right den (Nat.le_of_not_lt h)
      nlinarith
    omega
  rcases hn with rfl | rfl
  · have hhalf : 2 * r ≤ den := by nlinarith
    split
    · rfl
    · split
      · omega
      · have heven : n % 2 = 0 := by
          refine htie.resolve_right fun h => ?_
          have : 2 * r < den := by nlinarith [h.2]
          omega
        omega
  · have hhalf : den ≤ 2 * r := by nlinarith
    split
    · omega
    · split
      · rfl
      · have heven : (q + 1) % 2 = 0 := by
          refine htie.resolve_right fun h => ?_
          have : den < 2 * r := by nlinarith [h.1]
          omega
        omega

theorem nearest_eq {num den n : Nat} (hden : 0 < den) (hlow : (n : ℚ) - 1 / 2 ≤ num / den)
    (hhigh : (num : ℚ) / den ≤ n + 1 / 2)
    (htie : n % 2 = 0 ∨ ((n : ℚ) - 1 / 2 < num / den ∧ (num : ℚ) / den < n + 1 / 2)) :
    nearest num den = n := by
  have hden' : (0 : ℚ) < den := by exact_mod_cast hden
  refine nearest_of_close hden ?_ ?_ (htie.imp id ?_)
  · rw [le_div_iff₀ hden'] at hlow
    have : (2 * n * den : ℚ) ≤ 2 * num + den := by linarith
    exact_mod_cast this
  · rw [div_le_iff₀ hden'] at hhigh
    have : (2 * num : ℚ) ≤ 2 * n * den + den := by linarith
    exact_mod_cast this
  · rintro ⟨hl, hh⟩
    rw [lt_div_iff₀ hden'] at hl
    rw [div_lt_iff₀ hden'] at hh
    constructor
    · have : (2 * n * den : ℚ) < 2 * num + den := by linarith
      exact_mod_cast this
    · have : (2 * num : ℚ) < 2 * n * den + den := by linarith
      exact_mod_cast this

end Binary

/-! ## Intervals -/

namespace Interval

/-- The rational lies in the interval. -/
def Has (i : Interval) (y : ℚ) : Prop :=
  if i.closed then (i.low : ℚ) / i.den ≤ y ∧ y ≤ i.high / i.den
  else (i.low : ℚ) / i.den < y ∧ y < i.high / i.den

theorem Has.le {i : Interval} {y : ℚ} (h : i.Has y) :
    (i.low : ℚ) / i.den ≤ y ∧ y ≤ i.high / i.den := by
  rw [Has] at h
  split at h
  · exact h
  · exact ⟨h.1.le, h.2.le⟩

variable {p : Precision} {x : Binary p}

/-- Quarters of a unit that the interval reaches below its number. -/
def below (x : Binary p) : Nat := if x.significand = Binary.hidden p then 1 else 2

theorem below_le (x : Binary p) : below x ≤ 2 := by
  rw [below]
  split <;> omega

theorem den_ofBinary (x : Binary p) : 0 < (ofBinary x).den := Binary.scale2_pos Nat.one_pos _

/-- The unit and the denominator of the interval are a quarter of a unit. -/
theorem quarter_ofBinary (x : Binary p) (n : Nat) :
    ((n * (Binary.scale2 1 1 (x.unitExponent - 2)).1 : Nat) : ℚ) / (ofBinary x).den =
      (n : ℚ) / 4 * 2 ^ x.unitExponent := by
  have h := Binary.scale2_ratio 1 1 (x.unitExponent - 2)
  rw [Nat.cast_mul, mul_div_assoc]
  change (n : ℚ) * ((Binary.scale2 1 1 (x.unitExponent - 2)).1 /
    (Binary.scale2 1 1 (x.unitExponent - 2)).2) = _
  rw [h, zpow_sub₀ (by norm_num)]
  norm_num
  ring

theorem low_ofBinary (h : 0 < x.magnitude) : ((ofBinary x).low : ℚ) / (ofBinary x).den =
    (x.significand - (below x : ℚ) / 4) * 2 ^ x.unitExponent := by
  have hs := Binary.significand_pos h
  have hb := below_le x
  have hcast : ((4 * x.significand - below x : Nat) : ℚ) = 4 * x.significand - below x := by
    rw [Nat.cast_sub (by omega)]
    push_cast
    rfl
  have hquarter := quarter_ofBinary x (4 * x.significand - below x)
  rw [hcast] at hquarter
  refine Eq.trans hquarter ?_
  ring

theorem value_ofBinary (x : Binary p) : ((ofBinary x).value : ℚ) / (ofBinary x).den =
    x.significand * 2 ^ x.unitExponent := by
  have hquarter := quarter_ofBinary x (4 * x.significand)
  refine Eq.trans hquarter ?_
  push_cast
  ring

theorem high_ofBinary (x : Binary p) : ((ofBinary x).high : ℚ) / (ofBinary x).den =
    (x.significand + 1 / 2) * 2 ^ x.unitExponent := by
  have hquarter := quarter_ofBinary x (4 * x.significand + 2)
  refine Eq.trans hquarter ?_
  push_cast
  ring

/-- A rational of the interval counts nearly as many units as the number; the ends count for an
even number only. -/
theorem Has.units (hpos : 0 < x.magnitude) {y : ℚ} (h : (ofBinary x).Has y) :
    ∃ t : ℚ, y = t * 2 ^ x.unitExponent ∧ x.significand - (below x : ℚ) / 4 ≤ t ∧
      t ≤ x.significand + 1 / 2 ∧
      (x.significand % 2 = 0 ∨
        (x.significand - (below x : ℚ) / 4 < t ∧ t < x.significand + 1 / 2)) := by
  have hunit : (0 : ℚ) < 2 ^ x.unitExponent := by positivity
  refine ⟨y / 2 ^ x.unitExponent, by field_simp, ?_⟩
  have hle := h.le
  rw [low_ofBinary hpos, high_ofBinary] at hle
  refine ⟨(le_div_iff₀ hunit).mpr hle.1, (div_le_iff₀ hunit).mpr hle.2, ?_⟩
  by_cases heven : x.significand % 2 = 0
  · exact .inl heven
  · have hopen : (ofBinary x).closed = false := beq_false_of_ne heven
    rw [Has, hopen, low_ofBinary hpos, high_ofBinary] at h
    exact .inr ⟨(lt_div_iff₀ hunit).mpr h.1, (div_lt_iff₀ hunit).mpr h.2⟩

theorem Has.pos (hpos : 0 < x.magnitude) {y : ℚ} (h : (ofBinary x).Has y) : 0 < y := by
  obtain ⟨t, rfl, hlow, -⟩ := h.units hpos
  have hs : (1 : ℚ) ≤ x.significand := by exact_mod_cast Binary.significand_pos hpos
  have hb : (below x : ℚ) ≤ 2 := by exact_mod_cast below_le x
  have ht : 0 < t := by linarith
  positivity

end Interval

/-! ## Rounding -/

namespace Binary

variable {p : Precision} {x : Binary p}

theorem two_le_digits (p : Precision) : 2 ≤ p.digits := by
  cases p with
  | half => decide
  | single => decide
  | double => decide

theorem hidden_cast (p : Precision) : (hidden p : ℚ) = 2 ^ ((p.digits : Int) - 1) := by
  have hexp : ((p.digits : Int) - 1) = ((p.digits - 1 : Nat) : Int) := by
    have := two_le_digits p
    omega
  rw [hexp, zpow_natCast, hidden]
  push_cast
  rfl

/-- With `t` units in the ratio, `round` counts in the unit of the number, or in the next smaller
one if the number is a power of two and the ratio lies below it. -/
theorem round_unit {num den : Nat} (hnum : 0 < num) (hden : 0 < den) {t : ℚ}
    (hratio : (num : ℚ) / den = t * 2 ^ x.unitExponent)
    (hlow : x.significand - (Interval.below x : ℚ) / 4 ≤ t) (hhigh : t ≤ x.significand + 1 / 2) :
    let q := max (floorLog2 num den - (p.digits - 1 : Nat)) p.least
    q = x.unitExponent ∨
      (q = x.unitExponent - 1 ∧ p.least < x.unitExponent ∧ x.significand = hidden p ∧
        t < hidden p) := by
  intro q
  have hdigits := two_le_digits p
  have hbelow : (Interval.below x : ℚ) ≤ 2 := by exact_mod_cast Interval.below_le x
  have hunit : (0 : ℚ) < 2 ^ x.unitExponent := by positivity
  have hq : q = max (floorLog2 num den - (p.digits - 1 : Nat)) p.least := rfl
  have hleast := x.least_le_unitExponent
  -- The leading bit of the ratio is found by comparing its units with powers of two.
  have hbelowLead : ∀ {k : Int}, t < 2 ^ k → floorLog2 num den < k + x.unitExponent := by
    intro k hk
    refine floorLog2_lt hnum hden ?_
    rw [hratio, zpow_add₀ (by norm_num)]
    exact mul_lt_mul_of_pos_right hk hunit
  have hfromLead : ∀ {k : Int}, (2 : ℚ) ^ k ≤ t → k + x.unitExponent ≤ floorLog2 num den := by
    intro k hk
    refine le_floorLog2 hnum hden ?_
    rw [hratio, zpow_add₀ (by norm_num)]
    exact mul_le_mul_of_nonneg_right hk hunit.le
  have hdouble : ∀ k : Int, (2 : ℚ) ^ k = 2 * 2 ^ (k - 1) := by
    intro k
    rw [← zpow_one_add₀ (by norm_num), add_sub_cancel]
  -- Fewer units than the next leading bit would need: the unit is large enough.
  have hupper : floorLog2 num den < p.digits + x.unitExponent := by
    refine hbelowLead ?_
    have hs : (x.significand : ℚ) + 1 ≤ 2 * hidden p := by exact_mod_cast x.significand_lt
    rw [hdouble, ← hidden_cast]
    linarith
  rcases Int.lt_or_eq_of_le hleast with hlt | heq
  · by_cases ht : (hidden p : ℚ) ≤ t
    · rw [hidden_cast] at ht
      have := hfromLead ht
      left
      omega
    · have htlt : t < hidden p := lt_of_not_ge ht
      have hpower : x.significand = hidden p := by
        by_contra hne
        have : (hidden p : ℚ) + 1 ≤ x.significand := by
          have := hidden_le_significand hlt
          exact_mod_cast (show hidden p + 1 ≤ x.significand by omega)
        linarith
      have hhalf : (2 : ℚ) ^ ((p.digits : Int) - 1 - 1) ≤ t := by
        have hone : (1 : ℚ) ≤ hidden p := by exact_mod_cast hidden_pos p
        have heq := hdouble ((p.digits : Int) - 1)
        rw [← hidden_cast] at heq
        rw [hpower] at hlow
        linarith
      have hge := hfromLead hhalf
      have hle := hbelowLead (hidden_cast p ▸ htlt)
      right
      exact ⟨by omega, hlt, hpower, htlt⟩
  · left
    omega

/-- Every ratio in the interval of a number is rounded to the number. -/
theorem round_of_has (hfinite : x.isFinite = true) (hpos : 0 < x.magnitude) {num den : Nat}
    (hden : 0 < den) (h : (Interval.ofBinary x).Has ((num : ℚ) / den)) :
    round p num den = x.magnitude := by
  have hden' : (0 : ℚ) < den := by exact_mod_cast hden
  have hnum : 0 < num := by
    have := h.pos hpos
    rw [div_pos_iff_of_pos_right hden'] at this
    exact_mod_cast this
  have hinfinite : x.magnitude < p.infinity := by simpa [isFinite] using hfinite
  obtain ⟨t, hratio, hlow, hhigh, htie⟩ := h.units hpos
  have hunit := round_unit hnum hden hratio hlow hhigh
  have hbelow : (Interval.below x : ℚ) ≤ 2 := by exact_mod_cast Interval.below_le x
  rw [round, if_neg (Nat.ne_of_gt hnum)]
  generalize max (floorLog2 num den - (p.digits - 1 : Nat)) p.least = q at hunit ⊢
  have hscaled : ((scale2 num den (-q)).1 : ℚ) / (scale2 num den (-q)).2 =
      t * 2 ^ (x.unitExponent - q) := by
    rw [scale2_ratio, hratio, mul_assoc, ← zpow_add₀ (by norm_num), sub_eq_add_neg]
  have hpos' : 0 < (scale2 num den (-q)).2 := scale2_pos hden (-q)
  dsimp only
  rcases hunit with rfl | ⟨rfl, hlt, hpower, ht⟩
  · rw [sub_self, zpow_zero, mul_one] at hscaled
    have hnearest : nearest (scale2 num den (-x.unitExponent)).1
        (scale2 num den (-x.unitExponent)).2 = x.significand := by
      refine nearest_eq hpos' ?_ ?_ ?_
      · rw [hscaled]; linarith
      · rw [hscaled]; linarith
      · rw [hscaled]
        exact htie.imp id fun h => ⟨by linarith [h.1], h.2⟩
    rw [hnearest, ← hidden, ← magnitude_eq]
    exact Nat.min_eq_right hinfinite.le
  · have hone : Interval.below x = 1 := if_pos hpower
    rw [hone, hpower] at hlow
    have hexp : x.unitExponent - (x.unitExponent - 1) = 1 := by ring
    rw [hexp, zpow_one] at hscaled
    have hnearest : nearest (scale2 num den (-(x.unitExponent - 1))).1
        (scale2 num den (-(x.unitExponent - 1))).2 = 2 * hidden p := by
      refine nearest_eq hpos' ?_ ?_ (.inl (Nat.mul_mod_right 2 _))
      · rw [hscaled]; push_cast at hlow ⊢; linarith
      · rw [hscaled]; push_cast; linarith
    have hunits : (x.unitExponent - p.least).toNat = (x.unitExponent - 1 - p.least).toNat + 1 := by
      omega
    have hsum : (x.unitExponent - 1 - p.least).toNat * hidden p + 2 * hidden p = x.magnitude := by
      rw [x.magnitude_eq, hpower, hunits]
      ring
    rw [hnearest, ← hidden, hsum]
    exact Nat.min_eq_right hinfinite.le

end Binary

end Columnar.Number

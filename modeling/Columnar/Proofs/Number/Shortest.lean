/-
# `Proofs.Number.Shortest` — the digits that are found round to the number

The search goes down a ladder of decimal grids and takes the first one with
a point in the interval of the number.  What it takes lies in the interval,
and it never falls off the ladder: the interval of a number is wider than
`10 ^ -16` of its value, so the seventeenth grid has a point.

For this the ladder has to begin no higher than the number, and the first
exponent is an estimate: `1233 / 4096` for the logarithm of two.  Over the
exponents of all formats it is less than one off.
-/
import Columnar.Proofs.Number.Decimal
import Mathlib.Data.Nat.Cast.Order.Field

namespace Columnar.Number

namespace Interval

variable {i : Interval}

/-! ## Grids -/

theorem den_scaled (h : 0 < i.den) (k : Int) : 0 < (i.scaled k).den := by
  rw [scaled]
  split
  · exact Nat.mul_pos h (Nat.pow_pos (by decide))
  · exact h

/-- Scaling divides by the grid: the ends, the value and everything in between. -/
theorem scaled_ratios (i : Interval) (k : Int) :
    ((i.scaled k).low : ℚ) / (i.scaled k).den = i.low / i.den / 10 ^ k ∧
    ((i.scaled k).value : ℚ) / (i.scaled k).den = i.value / i.den / 10 ^ k ∧
    ((i.scaled k).high : ℚ) / (i.scaled k).den = i.high / i.den / 10 ^ k := by
  rw [scaled]
  split
  · next h =>
    obtain ⟨n, rfl⟩ := Int.eq_ofNat_of_zero_le h
    rw [Int.toNat_natCast, zpow_natCast]
    push_cast
    exact ⟨(div_div ..).symm, (div_div ..).symm, (div_div ..).symm⟩
  · next h =>
    obtain ⟨n, hn⟩ := Int.eq_ofNat_of_zero_le (show 0 ≤ -k by omega)
    obtain rfl : k = -(n : Int) := by omega
    rw [neg_neg, Int.toNat_natCast, zpow_neg, zpow_natCast]
    push_cast
    simp only [div_inv_eq_mul]
    exact ⟨mul_div_right_comm .., mul_div_right_comm .., mul_div_right_comm ..⟩

theorem closed_scaled (i : Interval) (k : Int) : (i.scaled k).closed = i.closed := by
  rw [scaled]
  split <;> rfl

theorem has_scaled_iff {k : Int} {y : ℚ} : (i.scaled k).Has y ↔ i.Has (y * 10 ^ k) := by
  have hgrid : (0 : ℚ) < 10 ^ k := by positivity
  obtain ⟨hlow, -, hhigh⟩ := i.scaled_ratios k
  rw [Has, Has, closed_scaled, hlow, hhigh]
  simp only [div_le_iff₀ hgrid, le_div_iff₀ hgrid, div_lt_iff₀ hgrid, lt_div_iff₀ hgrid]

theorem holds_iff (h : 0 < i.den) {n : Nat} : i.holds n = true ↔ i.Has n := by
  have hden : (0 : ℚ) < i.den := by exact_mod_cast h
  rw [holds, Has]
  simp only [div_le_iff₀ hden, le_div_iff₀ hden, div_lt_iff₀ hden, lt_div_iff₀ hden]
  split
  · simp only [Bool.and_eq_true, decide_eq_true_eq]
    norm_cast
  · simp only [Bool.and_eq_true, decide_eq_true_eq]
    norm_cast

theorem holds_of_point {t : Tie} {n : Nat} (h : i.point? t = some n) : i.holds n = true := by
  rw [point?] at h
  split at h
  · next hdown hup =>
    split at h
    · cases h; exact hdown
    · cases h; exact hup
    · cases h
      cases t with
      | up => exact hup
      | even =>
          rw [Tie.choose]
          rcases Nat.mod_two_eq_zero_or_one (i.value / i.den) with heven | hodd
          · rwa [heven]
          · rwa [hodd]
  · next hdown _ => cases h; exact hdown
  · next hup => cases h; exact hup
  · cases h

/-- An interval around its value and wider than the grid has one of the two neighbours in it. -/
theorem point_of_wide (h : 0 < i.den) (t : Tie) (hlow : (i.low : ℚ) / i.den < i.value / i.den)
    (hhigh : (i.value : ℚ) / i.den < i.high / i.den)
    (hwide : (i.low : ℚ) / i.den + 1 < i.high / i.den) : ∃ n, i.point? t = some n := by
  have hden : (0 : ℚ) < i.den := by exact_mod_cast h
  have hdown : ((i.value / i.den : Nat) : ℚ) ≤ i.value / i.den := Nat.cast_div_le
  have hup : (i.value : ℚ) / i.den < (i.value / i.den : Nat) + 1 := by
    rw [div_lt_iff₀ hden]
    exact_mod_cast Nat.lt_mul_of_div_lt (Nat.lt_succ_self _) h
  rw [point?]
  cases hd : i.holds (i.value / i.den) with
  | true =>
      cases hu : i.holds (i.value / i.den + 1) with
      | true => cases hc : compare (2 * (i.value % i.den)) i.den <;> exact ⟨_, rfl⟩
      | false => exact ⟨_, rfl⟩
  | false =>
      cases hu : i.holds (i.value / i.den + 1) with
      | true => exact ⟨_, rfl⟩
      | false =>
          exfalso
          rw [← Bool.not_eq_true, holds_iff h, Has] at hd hu
          push_cast at hd hu
          split at hd
          · next hclosed =>
            rw [if_pos hclosed] at hu
            have hbelow : ((i.value / i.den : Nat) : ℚ) < i.low / i.den :=
              lt_of_not_ge fun hle => hd ⟨hle, by linarith⟩
            have habove : (i.high : ℚ) / i.den < (i.value / i.den : Nat) + 1 :=
              lt_of_not_ge fun hle => hu ⟨by linarith, hle⟩
            linarith
          · next hopen =>
            rw [if_neg hopen] at hu
            have hbelow : ((i.value / i.den : Nat) : ℚ) ≤ i.low / i.den :=
              le_of_not_gt fun hlt => hd ⟨hlt, by linarith⟩
            have habove : (i.high : ℚ) / i.den ≤ (i.value / i.den : Nat) + 1 :=
              le_of_not_gt fun hlt => hu ⟨by linarith, hlt⟩
            linarith

end Interval

/-! ## The first grid -/

/-- The estimate of the decimal exponent is at most one too high. -/
theorem ten_zpow_estimate {l : Int} (h : -10000 ≤ l) : (10 : ℚ) ^ (l * 1233 / 4096 - 1) ≤ 2 ^ l := by
  rcases Int.le_total 0 l with hl | hl
  · obtain ⟨n, rfl⟩ := Int.eq_ofNat_of_zero_le hl
    obtain ⟨m, hm⟩ := Int.eq_ofNat_of_zero_le (show 0 ≤ (n : Int) * 1233 / 4096 by omega)
    have hexp : m * 227 * 3 ≤ 205 * n := by omega
    have hbase : 10 ^ 205 ≤ (2 ^ 227) ^ 3 := by decide
    have hpow : ((10 ^ m) ^ 227) ^ 3 ≤ ((2 ^ n) ^ 227) ^ 3 := by
      calc ((10 ^ m) ^ 227) ^ 3 = 10 ^ (m * 227 * 3) := by rw [Nat.pow_mul, Nat.pow_mul]
        _ ≤ 10 ^ (205 * n) := Nat.pow_le_pow_right (by decide) hexp
        _ = (10 ^ 205) ^ n := Nat.pow_mul ..
        _ ≤ ((2 ^ 227) ^ 3) ^ n := Nat.pow_le_pow_left hbase n
        _ = ((2 ^ n) ^ 227) ^ 3 := by rw [Nat.pow_right_comm _ 3, Nat.pow_right_comm _ 227]
    have hle : 10 ^ m ≤ 2 ^ n :=
      (Nat.pow_le_pow_iff_left (by decide)).mp ((Nat.pow_le_pow_iff_left (by decide)).mp hpow)
    rw [hm]
    calc (10 : ℚ) ^ ((m : Int) - 1) ≤ 10 ^ (m : Int) := zpow_le_zpow_right₀ (by norm_num) (by omega)
      _ = ((10 ^ m : Nat) : ℚ) := by rw [zpow_natCast]; push_cast; rfl
      _ ≤ ((2 ^ n : Nat) : ℚ) := by exact_mod_cast hle
      _ = 2 ^ (n : Int) := by rw [zpow_natCast]; push_cast; rfl
  · obtain ⟨n, hn⟩ := Int.eq_ofNat_of_zero_le (show 0 ≤ -l by omega)
    obtain rfl : l = -(n : Int) := by omega
    obtain ⟨m, hm⟩ := Int.eq_ofNat_of_zero_le (show 0 ≤ 1 - -(n : Int) * 1233 / 4096 by omega)
    have hexp : 28 * n ≤ 93 * m := by omega
    have hbase : 2 ^ 93 ≤ 10 ^ 28 := by decide
    have hpow : (2 ^ n) ^ 93 ≤ (10 ^ m) ^ 93 := by
      calc (2 ^ n) ^ 93 = (2 ^ 93) ^ n := by rw [← Nat.pow_mul, ← Nat.pow_mul, Nat.mul_comm]
        _ ≤ (10 ^ 28) ^ n := Nat.pow_le_pow_left hbase n
        _ = 10 ^ (28 * n) := (Nat.pow_mul ..).symm
        _ ≤ 10 ^ (93 * m) := Nat.pow_le_pow_right (by decide) hexp
        _ = (10 ^ m) ^ 93 := by rw [← Nat.pow_mul, Nat.mul_comm]
    have hle : 2 ^ n ≤ 10 ^ m := (Nat.pow_le_pow_iff_left (by decide)).mp hpow
    have hlast : -(n : Int) * 1233 / 4096 - 1 = -(m : Int) := by omega
    rw [hlast, zpow_neg, zpow_neg, zpow_natCast, zpow_natCast]
    exact inv_anti₀ (by positivity) (by exact_mod_cast hle)

namespace Interval

variable {i : Interval}

/-- The first grid is no coarser than the value. -/
theorem lead_le (hden : 0 < i.den) (hvalue : 0 < i.value) (h : (2 : ℚ) ^ (-10000 : Int) ≤ i.value / i.den) :
    (10 : ℚ) ^ i.lead ≤ i.value / i.den := by
  have hfloor := (Binary.floorLog2_bounds hvalue hden).1
  have hbound := Binary.le_floorLog2 hvalue hden h
  have hreaches : ∀ {e : Int}, (i.scaled e).den ≤ (i.scaled e).value →
      (10 : ℚ) ^ e ≤ i.value / i.den := by
    intro e he
    have hgrid : (0 : ℚ) < 10 ^ e := by positivity
    have hden' : (0 : ℚ) < (i.scaled e).den := by exact_mod_cast den_scaled hden e
    rw [← one_le_div hgrid, ← (i.scaled_ratios e).2.1, one_le_div hden']
    exact_mod_cast he
  rw [lead]
  dsimp only
  split
  · next he => exact hreaches (of_decide_eq_true he)
  · split
    · next he => exact hreaches (of_decide_eq_true he)
    · exact le_trans (ten_zpow_estimate hbound) hfloor

/-- If one of the grids that are tried has a point in the interval, what is found lies in it. -/
theorem has_firstHit (hden : 0 < i.den) (t : Tie) : ∀ {tries j : Nat} {k : Int}, j < tries →
    (∃ n, (i.scaled (k - j)).point? t = some n) →
      i.Has ((firstHit t i tries k).1 * 10 ^ (firstHit t i tries k).2) := by
  intro tries
  induction tries with
  | zero =>
      intro j k hj
      exact absurd hj (Nat.not_lt_zero j)
  | succ tries ih =>
      intro j k hj hpoint
      rw [firstHit]
      split
      · next n hn => exact has_scaled_iff.mp ((holds_iff (den_scaled hden k)).mp (holds_of_point hn))
      · next hnone =>
        cases j with
        | zero =>
            obtain ⟨n, hn⟩ := hpoint
            rw [Nat.cast_zero, sub_zero, hnone] at hn
            cases hn
        | succ j =>
            have hstep : k - ((j + 1 : Nat) : Int) = k - 1 - j := by push_cast; ring
            rw [hstep] at hpoint
            exact ih (Nat.lt_of_succ_lt_succ hj) hpoint

end Interval

/-! ## Seventeen digits -/

section
variable {p : Precision} {x : Binary p}

open Binary

/-- The interval is wider than `10 ^ -16` of the number. -/
theorem significand_le_width (x : Binary p) :
    (x.significand : ℚ) / 10 ^ 16 < 1 / 2 + (Interval.below x : ℚ) / 4 := by
  have hhidden : (hidden p : ℚ) ≤ 2 ^ 52 := by exact_mod_cast hidden_le p
  rw [div_lt_iff₀ (by positivity), Interval.below]
  split
  · next heq =>
    rw [heq]
    calc (hidden p : ℚ) ≤ 2 ^ 52 := hhidden
      _ < (1 / 2 + ((1 : Nat) : ℚ) / 4) * 10 ^ 16 := by norm_num
  · calc (x.significand : ℚ) < 2 * hidden p := by exact_mod_cast x.significand_lt
      _ ≤ 2 * 2 ^ 52 := by linarith
      _ ≤ (1 / 2 + ((2 : Nat) : ℚ) / 4) * 10 ^ 16 := by norm_num

/-- What the search for the shortest digits finds lies in the interval of the number. -/
theorem has_hit (hpos : 0 < x.magnitude) (t : Tie) :
    (Interval.ofBinary x).Has
      ((firstHit t (Interval.ofBinary x) mostDigits (Interval.ofBinary x).lead).1 *
        10 ^ (firstHit t (Interval.ofBinary x) mostDigits (Interval.ofBinary x).lead).2) := by
  have hden := Interval.den_ofBinary x
  have hden' : (0 : ℚ) < (Interval.ofBinary x).den := by exact_mod_cast hden
  have hlow := Interval.low_ofBinary hpos
  have hvalue := Interval.value_ofBinary x
  have hhigh := Interval.high_ofBinary x
  have hwidth := significand_le_width x
  generalize Interval.ofBinary x = i at hden hden' hlow hvalue hhigh ⊢
  have hunit : (0 : ℚ) < 2 ^ x.unitExponent := by positivity
  have hone : (1 : ℚ) ≤ x.significand := by exact_mod_cast significand_pos hpos
  have hbelow : (0 : ℚ) < Interval.below x := by
    have : 0 < Interval.below x := by
      rw [Interval.below]
      split <;> decide
    exact_mod_cast this
  have hfirst : (2 : ℚ) ^ (-10000 : Int) ≤ i.value / i.den := by
    have hleast := Int.le_trans (least_ge p) x.least_le_unitExponent
    rw [hvalue]
    calc (2 : ℚ) ^ (-10000 : Int) ≤ 2 ^ x.unitExponent :=
          zpow_le_zpow_right₀ (by norm_num) (by omega)
      _ ≤ x.significand * 2 ^ x.unitExponent := le_mul_of_one_le_left hunit.le hone
  have hvaluepos : 0 < i.value := by
    have : (0 : ℚ) < i.value / i.den := lt_of_lt_of_le (by positivity) hfirst
    rw [div_pos_iff_of_pos_right hden'] at this
    exact_mod_cast this
  have hlead := Interval.lead_le hden hvaluepos hfirst
  refine Interval.has_firstHit (j := 16) hden t (by decide) ?_
  obtain ⟨hslow, hsvalue, hshigh⟩ := i.scaled_ratios (i.lead - (16 : Nat))
  have hgrid : (0 : ℚ) < 10 ^ (i.lead - ((16 : Nat) : Int)) := by positivity
  have hgrid' : (10 : ℚ) ^ (i.lead - ((16 : Nat) : Int)) = 10 ^ i.lead / 10 ^ 16 := by
    rw [zpow_sub₀ (by norm_num), zpow_natCast]
  refine Interval.point_of_wide (Interval.den_scaled hden _) t ?_ ?_ ?_
  · rw [hslow, hsvalue, hlow, hvalue]
    exact div_lt_div_of_pos_right (mul_lt_mul_of_pos_right (by linarith) hunit) hgrid
  · rw [hsvalue, hshigh, hvalue, hhigh]
    exact div_lt_div_of_pos_right (mul_lt_mul_of_pos_right (by linarith) hunit) hgrid
  · rw [hslow, hshigh, hlow, hhigh, div_add_one hgrid.ne']
    refine div_lt_div_of_pos_right ?_ hgrid
    have hstep : (10 : ℚ) ^ (i.lead - ((16 : Nat) : Int)) ≤
        x.significand / 10 ^ 16 * 2 ^ x.unitExponent := by
      rw [hgrid', div_mul_eq_mul_div]
      rw [hvalue] at hlead
      exact div_le_div_of_nonneg_right hlead (by positivity)
    have hwide := mul_lt_mul_of_pos_right hwidth hunit
    calc (x.significand - (Interval.below x : ℚ) / 4) * 2 ^ x.unitExponent +
          10 ^ (i.lead - ((16 : Nat) : Int))
        < (x.significand - (Interval.below x : ℚ) / 4) * 2 ^ x.unitExponent +
          (1 / 2 + (Interval.below x : ℚ) / 4) * 2 ^ x.unitExponent := by linarith
      _ = (x.significand + 1 / 2) * 2 ^ x.unitExponent := by ring

end

end Columnar.Number

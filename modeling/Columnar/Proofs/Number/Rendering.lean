/-
# `Proofs.Number.Rendering` — what is written is read back

The literal text of a finite number is a spelling, in each of its layouts:
digits around a point, or one digit and an exponent.  It stands for the
rational that the search for the shortest digits has found, and that one
rounds to the number.  So reading the text gives the number, bit by bit, with
the sign of its zeros.
-/
import Columnar.Proofs.Number.Shortest
import Mathlib.Data.List.TakeWhile

namespace Columnar.Number

open Columnar.Text

/-! ## Digits -/

/-- Digits that stand for a rational, the first of them for the power of ten `lead`. -/
structure Digits.Stand (d : Digits) (y : ℚ) : Prop where
  ne_nil : d.digits ≠ []
  digits : ∀ c ∈ d.digits, isDigit c = true
  value : (natural d.digits : ℚ) * 10 ^ (d.lead + 1 - (d.digits.length : Int)) = y

/-- Cutting zeros off the end leaves digits that zeros complete again. -/
theorem trimmed_append_zeros (ds : List Char) : ∃ n,
    ds = (ds.reverse.dropWhile (· = '0')).reverse ++ List.replicate n '0' := by
  refine ⟨(ds.reverse.takeWhile (· = '0')).length, ?_⟩
  have hzeros : ds.reverse.takeWhile (· = '0') =
      List.replicate (ds.reverse.takeWhile (· = '0')).length '0' := by
    rw [List.eq_replicate_iff]
    refine ⟨rfl, fun c hc => ?_⟩
    have hzero := List.mem_takeWhile_imp hc
    exact of_decide_eq_true hzero
  have hsplit := List.takeWhile_append_dropWhile (p := fun c => decide (c = '0')) (l := ds.reverse)
  have hreversed := congrArg List.reverse hsplit
  rw [List.reverse_append, List.reverse_reverse] at hreversed
  rw [← List.reverse_replicate, ← hzeros]
  exact hreversed.symm

theorem stand_ofNat {n : Nat} (hn : 0 < n) (k : Int) : (Digits.ofNat n k).Stand (n * 10 ^ k) := by
  obtain ⟨zeros, hsplit⟩ := trimmed_append_zeros (Nat.toDigits 10 n)
  have hlead : (Digits.ofNat n k).lead = k + ((Nat.toDigits 10 n).length : Int) - 1 := rfl
  have hdigits : Nat.toDigits 10 n = (Digits.ofNat n k).digits ++ List.replicate zeros '0' := hsplit
  generalize Digits.ofNat n k = d at hlead hdigits ⊢
  have hnatural : n = natural d.digits * 10 ^ zeros := by
    have := natural_toDigits n
    rw [hdigits, natural_append, natural_zeros, List.length_replicate, Nat.add_zero] at this
    exact this.symm
  have hlength : ((Nat.toDigits 10 n).length : Int) = d.digits.length + zeros := by
    rw [hdigits, List.length_append, List.length_replicate]
    push_cast
    rfl
  constructor
  · intro hnil
    rw [hnil, natural_eq, Nat.ofDigitChars_nil, Nat.zero_mul] at hnatural
    exact absurd hn (hnatural ▸ Nat.lt_irrefl 0)
  · intro c hc
    exact isDigit_toDigits (hdigits ▸ List.mem_append_left _ hc)
  · have hexp : d.lead + 1 - (d.digits.length : Int) = (zeros : Int) + k := by
      rw [hlead, hlength]
      ring
    have hcast : (n : ℚ) = natural d.digits * 10 ^ (zeros : Int) := by
      rw [zpow_natCast]
      exact_mod_cast hnatural
    rw [hexp, hcast, zpow_add₀ (by norm_num), mul_assoc]

/-! ## Layouts -/

namespace Rendering

variable {r : Rendering} {d : Digits} {y : ℚ}

theorem isDigit_replicate {n : Nat} {c : Char} (h : c ∈ List.replicate n '0') :
    isDigit c = true := by
  rw [List.eq_of_mem_replicate h]
  decide

theorem isDigit_zero {c : Char} (h : c ∈ ['0']) : isDigit c = true := isDigit_replicate (n := 1) h

/-- Digits, a point and digits are a spelling. -/
theorem spelling_of_runs {whole fraction : List Char} (hne : whole ≠ [])
    (hwhole : ∀ c ∈ whole, isDigit c = true) (hmore : fraction ≠ [])
    (hfraction : ∀ c ∈ fraction, isDigit c = true)
    (hvalue : (natural (whole ++ fraction) : ℚ) * 10 ^ (-(fraction.length : Int)) = y) :
    ∃ s : Spelling, whole ++ '.' :: fraction = s.text ∧ s.Proper ∧ s.value = y := by
  refine ⟨⟨whole, fraction, none⟩, ?_, ⟨hne, hwhole, hfraction, .inl hmore⟩, ?_⟩
  · simp only [Spelling.text, Spelling.pointText, if_neg hmore, Spelling.exponentText,
      List.append_nil]
  · rw [Spelling.value, Spelling.digits, Spelling.power]
    dsimp only [Option.getD_none]
    rw [zero_sub]
    exact hvalue

/-- All digits stand behind the point, with zeros in front of them. -/
theorem leading_spelling (hlead : d.lead < 0) (h : d.Stand y) :
    ∃ s : Spelling, '0' :: '.' :: (List.replicate (-d.lead - 1).toNat '0' ++ d.digits) = s.text ∧
      s.Proper ∧ s.value = y := by
  refine spelling_of_runs (List.cons_ne_nil '0' []) (fun _ => isDigit_zero)
    (List.append_ne_nil_of_right_ne_nil _ h.ne_nil)
    (fun c hc => (List.mem_append.mp hc).elim isDigit_replicate (h.digits c)) ?_
  have hzero : natural ['0'] = 0 := rfl
  have hdigits : natural (['0'] ++ (List.replicate (-d.lead - 1).toNat '0' ++ d.digits)) =
      natural d.digits := by
    rw [natural_append, natural_append, natural_zeros, hzero]
    simp only [Nat.zero_mul, Nat.zero_add]
  have hpower : -((List.replicate (-d.lead - 1).toNat '0' ++ d.digits).length : Int) =
      d.lead + 1 - (d.digits.length : Int) := by
    rw [List.length_append, List.length_replicate]
    omega
  rw [hdigits, hpower]
  exact h.value

/-- All digits stand in front of the point, with zeros up to it. -/
theorem trailing_spelling {n : Nat} (hn : (n : Int) = d.lead + 1) (hle : d.digits.length ≤ n)
    (h : d.Stand y) :
    ∃ s : Spelling, d.digits ++ List.replicate (n - d.digits.length) '0' ++ ['.', '0'] = s.text ∧
      s.Proper ∧ s.value = y := by
  refine spelling_of_runs (List.append_ne_nil_of_left_ne_nil h.ne_nil _)
    (fun c hc => (List.mem_append.mp hc).elim (h.digits c) isDigit_replicate)
    (List.cons_ne_nil '0' []) (fun _ => isDigit_zero) ?_
  have hzero : natural ['0'] = 0 := rfl
  have hexp : d.lead + 1 - (d.digits.length : Int) = ((n - d.digits.length : Nat) : Int) := by
    omega
  have hvalue := h.value
  rw [hexp, zpow_natCast] at hvalue
  rw [natural_append, natural_append, natural_zeros, hzero, List.length_replicate,
    List.length_singleton, ← hvalue]
  push_cast
  norm_num
  ring

/-- The point stands between two digits. -/
theorem inner_spelling {n : Nat} (hn : (n : Int) = d.lead + 1) (hpos : 0 < n)
    (hlt : n < d.digits.length) (h : d.Stand y) :
    ∃ s : Spelling, d.digits.take n ++ '.' :: d.digits.drop n = s.text ∧ s.Proper ∧
      s.value = y := by
  have hwhole : d.digits.take n ≠ [] := by
    intro hnil
    rcases List.take_eq_nil_iff.mp hnil with hzero | hnil
    · exact absurd hzero hpos.ne'
    · exact h.ne_nil hnil
  have hmore : d.digits.drop n ≠ [] := fun hnil =>
    absurd (List.drop_eq_nil_iff.mp hnil) (Nat.not_le_of_lt hlt)
  refine spelling_of_runs hwhole (fun c hc => h.digits c (List.mem_of_mem_take hc)) hmore
    (fun c hc => h.digits c (List.mem_of_mem_drop hc)) ?_
  have hpower : -((d.digits.drop n).length : Int) = d.lead + 1 - (d.digits.length : Int) := by
    rw [List.length_drop]
    omega
  rw [List.take_append_drop, hpower]
  exact h.value

theorem point_spelling (hr : r.fraction = true) (h : d.Stand y) :
    ∃ s : Spelling, r.point d = s.text ∧ s.Proper ∧ s.value = y := by
  rw [point]
  split
  · next hlead => exact leading_spelling hlead h
  · next hlead =>
    have hn : ((d.lead.toNat + 1 : Nat) : Int) = d.lead + 1 := by omega
    have hpos : 0 < d.lead.toNat + 1 := Nat.succ_pos d.lead.toNat
    dsimp only
    generalize d.lead.toNat + 1 = n at hn hpos ⊢
    split
    · next hdrop =>
      have hle := List.drop_eq_nil_iff.mp hdrop
      rw [List.take_of_length_le hle]
      exact trailing_spelling hn hle h
    · next rest hdrop =>
      have hlt : n < d.digits.length := by
        by_contra hle
        exact hdrop (List.drop_eq_nil_iff.mpr (Nat.le_of_not_lt hle))
      rw [Nat.sub_eq_zero_of_le hlt.le, List.replicate_zero, List.append_nil]
      exact inner_spelling hn hpos hlt h

/-- One digit, the others behind the point, and the exponent. -/
theorem spelling_of_first {first : Char} {rest : List Char} (hdigits : d.digits = first :: rest)
    (h : d.Stand y) :
    ∃ s : Spelling, first :: (Spelling.pointText rest ++ 'e' :: (toString d.lead).toList) = s.text ∧
      s.Proper ∧ s.value = y := by
  have hvalue := h.value
  have hall := h.digits
  rw [hdigits] at hvalue hall
  refine ⟨⟨[first], rest, some d.lead⟩, rfl, ?_, ?_⟩
  · exact
      { whole_ne := List.cons_ne_nil _ _
        whole := fun c hc => hall c (List.mem_singleton.mp hc ▸ List.mem_cons_self)
        fraction := fun c hc => hall c (List.mem_cons_of_mem _ hc)
        marked := .inr rfl }
  · have hpower : d.lead - (rest.length : Int) = d.lead + 1 - ((first :: rest).length : Int) := by
      rw [List.length_cons]
      omega
    rw [Spelling.value, Spelling.digits, Spelling.power]
    dsimp only [Option.getD_some]
    rw [hpower]
    exact hvalue

theorem exponent_spelling (h : d.Stand y) :
    ∃ s : Spelling, exponent d = s.text ∧ s.Proper ∧ s.value = y := by
  cases hdigits : d.digits with
  | nil => exact absurd hdigits h.ne_nil
  | cons first rest =>
      rw [exponent, hdigits]
      cases rest with
      | nil => exact spelling_of_first hdigits h
      | cons second rest => exact spelling_of_first hdigits h

/-! ## Whole texts -/

variable {p : Precision} {x : Binary p}

/-- The text of a finite number is a spelling, which is read as the number. -/
theorem magnitude_spelling (hfinite : x.isFinite = true) :
    ∃ s : Spelling, literal.magnitude x = s.text ∧ s.Proper ∧
      Numeral.toBinary p (.finite x.negative s.digits s.power) = x := by
  rw [magnitude]
  split
  · next hzero =>
    have hmagnitude : x.magnitude = 0 := beq_iff_eq.mp hzero
    refine ⟨⟨['0'], ['0'], none⟩, rfl, ?_, ?_⟩
    · exact
        { whole_ne := List.cons_ne_nil _ _
          whole := fun _ => isDigit_zero
          fraction := fun _ => isDigit_zero
          marked := .inl (List.cons_ne_nil _ _) }
    · have := x.ofMagnitude_magnitude
      rw [hmagnitude] at this
      exact this
  · next hzero =>
    have hpos : 0 < x.magnitude := Nat.pos_of_ne_zero fun h => hzero (beq_iff_eq.mpr h)
    have hhas := has_hit hpos literal.tie
    rw [shortest]
    generalize firstHit literal.tie (Interval.ofBinary x) mostDigits (Interval.ofBinary x).lead = hit
      at hhas ⊢
    have hhit : 0 < hit.1 := by
      have hvalue := hhas.pos hpos
      rw [mul_pos_iff_of_pos_right (by positivity)] at hvalue
      exact_mod_cast hvalue
    have hstand := stand_ofNat hhit hit.2
    have hread : ∀ {s : Spelling}, s.value = hit.1 * 10 ^ hit.2 →
        Numeral.toBinary p (.finite x.negative s.digits s.power) = x := by
      intro s hs
      rw [← hs] at hhas
      exact toBinary_of_has hfinite hpos hhas
    dsimp only
    split
    · obtain ⟨s, htext, hproper, hvalue⟩ := point_spelling (r := literal) rfl hstand
      exact ⟨s, htext, hproper, hread hvalue⟩
    · obtain ⟨s, htext, hproper, hvalue⟩ := exponent_spelling hstand
      exact ⟨s, htext, hproper, hread hvalue⟩

theorem write_spelling (hfinite : x.isFinite = true) :
    ∃ s : Spelling, (literal.write x).toList = (if x.negative then '-' :: s.text else s.text) ∧
      s.Proper ∧ Numeral.toBinary p (.finite x.negative s.digits s.power) = x := by
  have hlt : x.magnitude < p.infinity := by simpa [Binary.isFinite] using hfinite
  have hnan : x.isNaN = false := by
    rw [Binary.isNaN]
    exact decide_eq_false (Nat.not_lt.mpr hlt.le)
  have hinfinite : x.isInfinite = false := beq_false_of_ne (Nat.ne_of_lt hlt)
  obtain ⟨s, htext, hproper, hbinary⟩ := magnitude_spelling hfinite
  refine ⟨s, ?_, hproper, hbinary⟩
  rw [write, hnan, hinfinite, htext]
  simp only [if_neg Bool.false_ne_true, String.toList_append, String.toList_ofList]
  cases x.negative with
  | true => rfl
  | false => rfl

/-- The text of a finite number is read as this number. -/
theorem binary_write (hfinite : x.isFinite = true) :
    binary? p (literal.write x).toList = some x := by
  obtain ⟨s, htext, hproper, hbinary⟩ := write_spelling hfinite
  rw [binary?, htext, Spelling.read_spelling hproper, Option.map_some, hbinary]

end Rendering

end Columnar.Number

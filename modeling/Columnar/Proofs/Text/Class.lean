/-
# `Proofs.Text.Class` — classes that exclude each other, and lengths in bytes

Blanks are neither letters nor numbers nor digits: the tables have no code
point in common.  The number of bytes of a run of characters is that of the
text they are.
-/
import Columnar.Text.Class

namespace Columnar.Text

/-! ## Classes -/

theorem within_iff {ranges : List (Nat × Nat)} {c : Char} :
    within ranges c = true ↔ ∃ r ∈ ranges, r.1 ≤ c.toNat ∧ c.toNat ≤ r.2 := by
  simp [within]

/-- No code point lies in ranges of two tables that are apart. -/
theorem within_apart {ranges others : List (Nat × Nat)}
    (hapart : ∀ r ∈ ranges, ∀ q ∈ others, r.2 < q.1 ∨ q.2 < r.1) {c : Char}
    (h : within ranges c = true) : within others c = false := by
  obtain ⟨r, hr, hlow, hhigh⟩ := within_iff.mp h
  refine Bool.eq_false_iff.mpr fun hother => ?_
  obtain ⟨q, hq, hlow', hhigh'⟩ := within_iff.mp hother
  have := hapart r hr q hq
  omega

theorem isAlphanumeric_blank {c : Char} (h : isBlank c = true) : isAlphanumeric c = false := by
  have halphabetic : within Ranges.alphabetic c = false := within_apart (by decide +kernel) h
  have hnumeric : within Ranges.numeric c = false := within_apart (by decide +kernel) h
  rw [isAlphanumeric, isAlphabetic, halphabetic, hnumeric]
  rfl

theorem isDigit_bounds {c : Char} (h : isDigit c = true) : 48 ≤ c.toNat ∧ c.toNat ≤ 57 := by
  simp only [isDigit, Bool.and_eq_true, decide_eq_true_eq, Char.le_def, UInt32.le_iff_toNat_le] at h
  exact h

/-- A digit is none of the characters outside of the run of digits. -/
theorem ne_of_isDigit {c d : Char} (h : isDigit c = true) (hd : isDigit d = false) : c ≠ d := by
  rintro rfl
  rw [h] at hd
  cases hd

theorem lower_digit {c : Char} (h : isDigit c = true) : lower c = c := by
  have hbounds := isDigit_bounds h
  rw [lower, if_neg]
  simp only [Bool.and_eq_true, decide_eq_true_eq, Char.le_def, UInt32.le_iff_toNat_le, not_and]
  intro hcapital
  have : 65 ≤ c.toNat := hcapital
  omega

theorem isBlank_digit {c : Char} (h : isDigit c = true) : isBlank c = false := by
  have hbounds := isDigit_bounds h
  have hranges : ∀ r ∈ Ranges.whiteSpace, r.2 < 48 ∨ 57 < r.1 := by decide
  refine Bool.eq_false_iff.mpr fun hblank => ?_
  obtain ⟨r, hr, hlow, hhigh⟩ := within_iff.mp hblank
  have := hranges r hr
  omega

/-! ## Letters -/

/-- A letter of the English alphabet, capital or small. -/
def IsLetter (c : Char) : Prop := 65 ≤ (upper c).toNat ∧ (upper c).toNat ≤ 90

instance (c : Char) : Decidable (IsLetter c) := inferInstanceAs (Decidable (_ ∧ _))

theorem IsLetter.bounds {c : Char} (h : IsLetter c) :
    (65 ≤ c.toNat ∧ c.toNat ≤ 90) ∨ (97 ≤ c.toNat ∧ c.toNat ≤ 122) := by
  rw [IsLetter, upper] at h
  split at h
  · next hsmall =>
    simp only [Bool.and_eq_true, decide_eq_true_eq, Char.le_def, UInt32.le_iff_toNat_le] at hsmall
    exact .inr hsmall
  · exact .inl h

theorem IsLetter.isAlphabetic {c : Char} (h : IsLetter c) : isAlphabetic c = true := by
  have hcapitals : (65, 90) ∈ Ranges.alphabetic := by decide +kernel
  have hsmall : (97, 122) ∈ Ranges.alphabetic := by decide +kernel
  rcases h.bounds with hbounds | hbounds
  · exact within_iff.mpr ⟨_, hcapitals, hbounds⟩
  · exact within_iff.mpr ⟨_, hsmall, hbounds⟩

theorem IsLetter.ne {c d : Char} (h : IsLetter c) (hd : ¬ IsLetter d) : c ≠ d := by
  rintro rfl
  exact hd h

theorem IsLetter.isDigit {c : Char} (h : IsLetter c) : isDigit c = false := by
  refine Bool.eq_false_iff.mpr fun hdigit => ?_
  have := isDigit_bounds hdigit
  have := h.bounds
  omega

/-! ## Lengths -/

theorem utf8ByteSize_ofList_cons (c : Char) (cs : List Char) :
    (String.ofList (c :: cs)).utf8ByteSize = c.utf8Size + (String.ofList cs).utf8ByteSize := by
  have happend : String.ofList (c :: cs) = String.singleton c ++ String.ofList cs := by
    rw [String.singleton_eq_ofList, ← String.ofList_append]
    rfl
  rw [happend, String.utf8ByteSize_append, String.utf8ByteSize_singleton]

/-- The bytes that are counted are those of the text. -/
theorem byteLength_eq (cs : List Char) : byteLength cs = (String.ofList cs).utf8ByteSize := by
  have hfrom : ∀ n : Nat, cs.foldl (fun n c => n + c.utf8Size) n =
      n + (String.ofList cs).utf8ByteSize := by
    induction cs with
    | nil => exact fun _ => rfl
    | cons c cs ih =>
        intro n
        rw [List.foldl_cons, ih, utf8ByteSize_ofList_cons, Nat.add_assoc]
  rw [byteLength, hfrom 0, Nat.zero_add]

theorem byteLength_append (cs ds : List Char) :
    byteLength (cs ++ ds) = byteLength cs + byteLength ds := by
  rw [byteLength_eq, byteLength_eq, byteLength_eq, String.ofList_append, String.utf8ByteSize_append]

theorem byteLength_pos {cs : List Char} (h : cs ≠ []) : 0 < byteLength cs := by
  obtain ⟨c, cs, rfl⟩ := List.exists_cons_of_ne_nil h
  have := c.utf8Size_pos
  rw [byteLength_eq, utf8ByteSize_ofList_cons]
  omega

end Columnar.Text

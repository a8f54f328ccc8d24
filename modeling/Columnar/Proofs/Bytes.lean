/-
# `Proofs.Bytes` — fields are read back as they were written

Little-endian fields of a fixed width and numbers below `256 ^ width` are the
same thing; padding ends at a multiple of its unit; packed bits and texts are
read back.  Everything that is said about messages and files rests on these
equations, and none of it opens `ofNat` or `toNat` again.
-/
import Columnar.Bytes

namespace Columnar.Bytes

/-! ## Numbers -/

@[simp] theorem length_ofNat : ∀ (w n : Nat), (ofNat w n).length = w
  | 0, _ => rfl
  | w + 1, n => by simp [ofNat, length_ofNat w]

theorem toNat_ofNat : ∀ (w n : Nat), toNat (ofNat w n) = n % 256 ^ w
  | 0, n => by simp [ofNat, toNat, Nat.mod_one]
  | w + 1, n => by
      simp only [ofNat, toNat, toNat_ofNat w, UInt8.toNat_ofNat', Nat.pow_succ']
      exact (Nat.mod_mul ..).symm

theorem toNat_ofNat_of_lt {w n : Nat} (h : n < 256 ^ w) : toNat (ofNat w n) = n := by
  rw [toNat_ofNat, Nat.mod_eq_of_lt h]

theorem toNat_lt : ∀ b : Bytes, toNat b < 256 ^ b.length
  | [] => by simp [toNat]
  | x :: b => by
      have hx : x.toNat < 256 := x.toNat_lt
      have hb := toNat_lt b
      simp only [toNat, List.length_cons, Nat.pow_succ]
      omega

/-- Every field is the field of its number. -/
theorem ofNat_toNat : ∀ b : Bytes, ofNat b.length (toNat b) = b
  | [] => rfl
  | x :: b => by
      have hx : x.toNat < 256 := x.toNat_lt
      have hdiv : (x.toNat + 256 * toNat b) / 256 = toNat b := by omega
      have hmod : UInt8.ofNat (x.toNat + 256 * toNat b) = x := by
        apply UInt8.toNat_inj.mp
        rw [UInt8.toNat_ofNat']
        omega
      simp only [List.length_cons, ofNat, toNat, hdiv, hmod, ofNat_toNat b]

/-! ## Runs of fields -/

/-- One field of a run of fields of one width. -/
theorem take_drop_flatMap {α β : Type} {f : α → List β} {w : Nat} (hf : ∀ x, (f x).length = w) :
    ∀ (l : List α) (k : Nat) (hk : k < l.length), ((l.flatMap f).drop (w * k)).take w = f l[k]
  | x :: l, 0, _ => by
      rw [List.flatMap_cons, Nat.mul_zero, List.drop_zero, ← hf x, List.take_left]
      rfl
  | x :: l, k + 1, hk => by
      have ih := take_drop_flatMap hf l k (Nat.lt_of_succ_lt_succ hk)
      have hw : w * (k + 1) = (f x).length + w * k := by rw [hf x, Nat.mul_succ, Nat.add_comm]
      rw [List.flatMap_cons, hw, List.drop_length_add_append, ih]
      rfl

theorem length_flatMap_const {α β : Type} {f : α → List β} {w : Nat} (hf : ∀ x, (f x).length = w)
    (l : List α) : (l.flatMap f).length = w * l.length := by
  induction l with
  | nil => rfl
  | cons x l ih => rw [List.flatMap_cons, List.length_append, hf x, ih, List.length_cons,
      Nat.mul_succ, Nat.add_comm]

/-! ## Alignment -/

@[simp] theorem length_zeros (n : Nat) : (zeros n).length = n := by simp [zeros]

theorem gap_lt {unit : Nat} (h : 0 < unit) (n : Nat) : gap unit n < unit := Nat.mod_lt _ h

theorem add_gap_mod {unit : Nat} (h : 0 < unit) (n : Nat) : (n + gap unit n) % unit = 0 := by
  have hr : n % unit < unit := Nat.mod_lt _ h
  have hn := Nat.div_add_mod n unit
  by_cases hz : n % unit = 0
  · simp [gap, hz]
  · have hg : gap unit n = unit - n % unit := Nat.mod_eq_of_lt (by omega)
    have : n + gap unit n = unit * (n / unit + 1) := by rw [hg, Nat.mul_add]; omega
    rw [this, Nat.mul_mod_right]

theorem length_padded (unit : Nat) (b : Bytes) :
    (padded unit b).length = b.length + gap unit b.length := by simp [padded]

/-! ## Text -/

theorem toText_ofText (s : String) : toText? (ofText s) = some s := by
  simp only [toText?, ofText, Array.toArray_toList, String.fromUTF8?, String.toUTF8_eq_toByteArray]
  rw [dif_pos s.isValidUTF8]
  rfl

/-! ## Bits -/

/-- The number that the first `k` bits make up. -/
def bitSum (bit : Nat → Bool) (k : Nat) : Nat :=
  (List.range k).foldl (fun n i => if bit i then n + 2 ^ i else n) 0

theorem bitSum_succ (bit : Nat → Bool) (k : Nat) :
    bitSum bit (k + 1) = if bit k then bitSum bit k + 2 ^ k else bitSum bit k := by
  simp [bitSum, List.range_succ]

theorem bitSum_lt (bit : Nat → Bool) : ∀ k, bitSum bit k < 2 ^ k
  | 0 => by simp [bitSum]
  | k + 1 => by
      have ih := bitSum_lt bit k
      rw [bitSum_succ, Nat.pow_succ]
      split <;> omega

theorem testBit_bitSum (bit : Nat → Bool) :
    ∀ k i, (bitSum bit k).testBit i = (decide (i < k) && bit i)
  | 0, i => by simp [bitSum]
  | k + 1, i => by
      have ih := testBit_bitSum bit k i
      have hlt := bitSum_lt bit k
      rw [bitSum_succ]
      rcases Nat.lt_trichotomy i k with h | h | h
      · have hi : i < k + 1 := by omega
        split
        · rw [Nat.add_comm, Nat.testBit_two_pow_add_gt h, ih]
          simp [h, hi]
        · simp [ih, h, hi]
      · subst h
        split
        · next hb => rw [Nat.add_comm, Nat.testBit_two_pow_add_eq, ih]; simp [hb]
        · next hb => rw [ih]; simp [hb]
      · have hi : ¬ i < k + 1 := by omega
        have hk : 2 ^ (k + 1) ≤ 2 ^ i := Nat.pow_le_pow_right (by decide) h
        rw [Nat.pow_succ] at hk
        have : (if bit k = true then bitSum bit k + 2 ^ k else bitSum bit k) < 2 ^ i := by
          split <;> omega
        rw [Nat.testBit_lt_two_pow this]
        simp [hi]

theorem testBit_byteOfBits (bit : Nat → Bool) {i : Nat} (h : i < 8) :
    (byteOfBits bit).toNat.testBit i = bit i := by
  have hlt := bitSum_lt bit 8
  have hbyte : (byteOfBits bit).toNat = bitSum bit 8 := by
    change (UInt8.ofNat (bitSum bit 8)).toNat = _
    rw [UInt8.toNat_ofNat', Nat.mod_eq_of_lt hlt]
  rw [hbyte, testBit_bitSum]
  simp [h]

theorem length_ofBits (bits : Array Bool) : (ofBits bits).length = (bits.size + 7) / 8 := by
  simp [ofBits]

/-- A bit is read where it was packed. -/
theorem bit_ofBits (bits : Array Bool) {i : Nat} (h : i < bits.size) :
    bit (ofBits bits).toArray i = bits[i] := by
  have hbyte : i / 8 < (bits.size + 7) / 8 := by omega
  have hget : (ofBits bits).toArray.getD (i / 8) 0 =
      byteOfBits fun j => bits.getD (8 * (i / 8) + j) false := by
    simp [ofBits, Array.getD_eq_getD_getElem?, hbyte]
  rw [bit, hget, testBit_byteOfBits _ (Nat.mod_lt _ (by decide)), Nat.div_add_mod]
  simp [Array.getD_eq_getD_getElem?, h]

end Columnar.Bytes

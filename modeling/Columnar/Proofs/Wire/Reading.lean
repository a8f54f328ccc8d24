/-
# `Proofs.Wire.Reading` — a reader finds what was laid out

`Holds d m widest` says that the bytes at hand begin with a message.  For
each kind of item there is one equation: reading at the place where it is
laid gives back what it says.  A table gives back a table whose slots are the
ones that were written and no others (`table_of_laid`); that is all that the
readers of schemas and batches have to know about it.
-/
import Columnar.Proofs.Sequence
import Columnar.Proofs.Wire.Message
import Columnar.Wire.Table

namespace Columnar.Wire

open Columnar.Wire.Builder

/-! ## Parts of the bytes at hand -/

theorem part_append (a field c : Bytes) :
    Data.part? (a ++ (field ++ c)).toArray a.length field.length = some field.toArray := by
  have hle : a.length + field.length ≤ (a ++ (field ++ c)).length := by simp
  simp only [Data.part?, List.size_toArray, if_pos hle, Option.some.injEq]
  apply Array.ext'
  simp

/-- The bytes at hand begin with a message that is not too long for its references. -/
structure Holds (d : Data) (m : Bytes) (widest : Nat) : Prop where
  bytes : ∃ rest : Bytes, d = (m ++ rest).toArray
  unit : IsUnit widest
  aligned : m.length % widest = 0
  short : m.length < 2 ^ 31

namespace Holds

variable {d : Data} {m : Bytes} {widest : Nat}

theorem part_at (h : Holds d m widest) {place : Nat} {field : Bytes} (hat : At m place field) :
    d.part? (m.length - place) field.length = some field.toArray := by
  obtain ⟨rest, rfl⟩ := h.bytes
  obtain ⟨front, after, rfl, hlen⟩ := hat
  have hplace : (front ++ (field ++ after)).length - place = front.length := by
    rw [List.length_append, hlen]; omega
  have := part_append front field (after ++ rest)
  rw [hplace]
  simpa [List.append_assoc] using this

theorem number_at (h : Holds d m widest) {place width value : Nat}
    (hat : At m place (Bytes.ofNat width value)) (hv : value < 256 ^ width) :
    d.number? (m.length - place) width = some value := by
  have hp := h.part_at hat
  rw [Bytes.length_ofNat] at hp
  simp [Data.number?, hp, Bytes.toNat_ofNat_of_lt hv]

theorem mod_sub (h : Holds d m widest) {place width : Nat} (hw : IsUnit width)
    (hle : width ≤ widest) (hmod : place % width = 0) :
    (m.length - place) % width = 0 := by
  have hdvd : width ∣ m.length :=
    Nat.dvd_trans (hw.dvd h.unit hle) (Nat.dvd_of_mod_eq_zero h.aligned)
  exact Nat.mod_eq_zero_of_dvd (Nat.dvd_sub hdvd (Nat.dvd_of_mod_eq_zero hmod))

theorem aligned_at (h : Holds d m widest) {place width value : Nat}
    (hat : At m place (Bytes.ofNat width value)) (hv : value < 256 ^ width) (hw : IsUnit width)
    (hle : width ≤ widest) (hmod : place % width = 0) :
    d.aligned? (m.length - place) width = some value := by
  rw [Data.aligned?, if_pos (h.mod_sub hw hle hmod), h.number_at hat hv]

theorem target_at (h : Holds d m widest) {place target : Nat}
    (hat : At m place (Bytes.ofNat 4 (place - target))) (hmod : place % 4 = 0)
    (hle : 4 ≤ widest) (hlt : target ≤ place) :
    d.target? (m.length - place) = some (m.length - target) := by
  have hplace := hat.le_length
  have hshort := h.short
  have := h.aligned_at hat (by omega) isUnit_four hle hmod
  simp only [Data.target?, this, Option.map_some, Option.some.injEq]
  omega

/-! ## Vectors and texts -/

theorem count_at (h : Holds d m widest) (width unit : Nat) {place count : Nat} {content : Bytes}
    (hat : At m place (Bytes.ofNat 4 count ++ content)) (hmod : place % 4 = 0)
    (hle : 4 ≤ widest) (hlen : content.length = width * count) (hcount : count < 2 ^ 32)
    (hunit : 4 % unit = 0) : d.count? width unit (m.length - place) = some count := by
  have hplace := hat.le_length
  have hfield := hat.length_le
  rw [List.length_append, Bytes.length_ofNat] at hfield
  have hcontent := h.part_at hat.right
  have hpos : m.length - (place - 4) = m.length - place + 4 := by omega
  rw [Bytes.length_ofNat, hpos, hlen] at hcontent
  have h4 := h.mod_sub isUnit_four hle hmod
  have hmod' : (m.length - place + 4) % unit = 0 := by
    have h4' : unit ∣ 4 := Nat.dvd_of_mod_eq_zero hunit
    have : 4 ∣ m.length - place + 4 :=
      Nat.dvd_of_mod_eq_zero (by omega)
    exact Nat.mod_eq_zero_of_dvd (Nat.dvd_trans h4' this)
  simp [Data.count?, h.aligned_at hat.left (by omega) isUnit_four hle hmod, hcontent,
    hmod']

theorem text_at (h : Holds d m widest) {place : Nat} {content : String} {siblings : List Nat}
    (hl : (Item.text content).Laid m widest siblings place) :
    d.text? (m.length - place) = some content := by
  rw [Item.Laid] at hl
  obtain ⟨hat, hmod, hle⟩ := hl
  have hplace := hat.le_length
  have hfield := hat.length_le
  have hshort := h.short
  simp only [List.length_append, Bytes.length_ofNat, List.length_singleton] at hfield
  have hcount := h.count_at 1 1 hat.left hmod hle (by omega) (by omega) rfl
  have hcontent := h.part_at hat.left.right
  have hclose := h.number_at (show At m _ (Bytes.ofNat 1 0) from hat.right) (by decide)
  have hpos : m.length - (place - 4) = m.length - place + 4 := by omega
  have hpos' : m.length - (place - (4 + (Bytes.ofText content).length)) =
      m.length - place + 4 + (Bytes.ofText content).length := by omega
  rw [Bytes.length_ofNat, hpos] at hcontent
  rw [List.length_append, Bytes.length_ofNat, hpos'] at hclose
  simp [Data.text?, hcount, hcontent, hclose, Bytes.toText_ofText]

theorem refBytes_at {m : Bytes} : ∀ {place : Nat} {targets : List Nat},
    At m place (refBytes place targets) → 4 * targets.length ≤ place →
      ∀ i (hi : i < targets.length),
        At m (place - 4 * i) (Bytes.ofNat 4 (place - 4 * i - targets[i]))
  | place, t :: ts, hat, _, 0, _ => hat.left
  | place, t :: ts, hat, hle, i + 1, hi => by
      have hright := hat.right
      rw [Bytes.length_ofNat] at hright
      simp only [List.length_cons] at hle hi
      have ih := refBytes_at hright (by omega) i (by omega)
      rwa [show place - 4 - 4 * i = place - 4 * (i + 1) by omega] at ih

/-- A vector of references gives back what is read at its targets. -/
theorem refs_at (h : Holds d m widest) {place : Nat} {indices siblings : List Nat}
    (hl : (Item.refs indices).Laid m widest siblings place) {α : Type} (read? : Nat → Option α) :
    d.refs? read? (m.length - place) =
      indices.mapM fun i => read? (m.length - siblings.getD i 0) := by
  rw [Item.Laid] at hl
  obtain ⟨hat, hmod, hle, hbelow⟩ := hl
  have hplace := hat.le_length
  have hfield := hat.length_le
  have hshort := h.short
  simp only [List.length_append, Bytes.length_ofNat, length_refBytes, List.length_map] at hfield
  have hcount := h.count_at 4 4 hat hmod hle
    (by simp [length_refBytes]) (by omega) rfl
  have hrefs := hat.right
  rw [Bytes.length_ofNat] at hrefs
  simp only [Data.refs?, hcount, Option.bind_eq_bind, Option.bind_some]
  apply mapM_range
  intro i hi
  have hi' : i < (indices.map fun i => siblings.getD i 0).length := by simpa using hi
  have hi'' := hbelow indices[i] (List.getElem_mem hi)
  have hfield' := refBytes_at hrefs (by simp; omega) i hi'
  rw [List.getElem_map] at hfield'
  have htarget := h.target_at hfield' (by omega) hle (by omega)
  rw [show m.length - (place - 4 - 4 * i) = m.length - place + 4 + 4 * i by omega] at htarget
  rw [htarget, Option.bind_some]

/-- A vector of pairs of numbers gives back the pairs. -/
theorem pairs_at (h : Holds d m widest) {place : Nat} {pairs : List (Nat × Nat)}
    {siblings : List Nat} (hp : ∀ p ∈ pairs, p.1 < 2 ^ 64 ∧ p.2 < 2 ^ 64)
    (hl : (Item.pairs pairs.length
      (pairs.flatMap fun p => Bytes.ofNat 8 p.1 ++ Bytes.ofNat 8 p.2)).Laid m widest siblings place) :
    d.pairs? (m.length - place) = some pairs := by
  rw [Item.Laid] at hl
  obtain ⟨hat, hmod, hle⟩ := hl
  have hsixteen : ∀ p : Nat × Nat, (Bytes.ofNat 8 p.1 ++ Bytes.ofNat 8 p.2).length = 16 := by simp
  have hcontent := Bytes.length_flatMap_const hsixteen pairs
  have hplace := hat.le_length
  have hfield := hat.length_le
  have hshort := h.short
  rw [List.length_append, Bytes.length_ofNat, hcontent] at hfield
  have hcount := h.count_at 16 1 hat hmod hle hcontent (by omega) rfl
  have hrun := hat.right
  rw [Bytes.length_ofNat] at hrun
  simp only [Data.pairs?, hcount, Option.bind_eq_bind, Option.bind_some]
  apply mapM_range_some
  intro i hi
  have hpair := (hrun.drop (n := 16 * i) (by omega)).take 16
  rw [Bytes.take_drop_flatMap hsixteen pairs i hi] at hpair
  obtain ⟨h₁, h₂⟩ := hp _ (List.getElem_mem hi)
  have hfirst := h.number_at hpair.left h₁
  have hsecond := h.number_at hpair.right h₂
  rw [show m.length - (place - 4 - 16 * i) = m.length - place + 4 + 16 * i by omega] at hfirst
  rw [Bytes.length_ofNat,
    show m.length - (place - 4 - 16 * i - 8) = m.length - place + 12 + 16 * i by omega] at hsecond
  simp [hfirst, hsecond]

end Holds

/-! ## Tables -/

/-- What a reader gets from the place of a slot, if the table has it. -/
def SlotReads (d : Data) (m : Bytes) (targets : List Nat) (place : Option Nat) :
    Option Slot → Prop
  | none => place = none
  | some (.number width value) => ∃ p, place = some p ∧ d.aligned? p width = some value
  | some (.part i) => ∃ p, place = some p ∧ d.target? p = some (m.length - targets.getD i 0)

/-- The entries that a shape needs for its slots. -/
theorem shape_count {places : List (Nat × Nat)} {n : Nat} (h : ∀ p ∈ places, p.1 < n) :
    ∀ c, c ≤ n → places.foldl (fun n p => max n (p.1 + 1)) c ≤ n ∧
      c ≤ places.foldl (fun n p => max n (p.1 + 1)) c ∧
      ∀ p ∈ places, p.1 < places.foldl (fun n p => max n (p.1 + 1)) c := by
  induction places with
  | nil => intro c hc; exact ⟨hc, Nat.le_refl _, by simp⟩
  | cons q places ih =>
      intro c hc
      have hq := h q List.mem_cons_self
      obtain ⟨h₁, h₂, h₃⟩ := ih (fun p hp => h p (List.mem_cons_of_mem _ hp)) (max c (q.1 + 1))
        (by omega)
      rw [List.foldl_cons]
      refine ⟨h₁, by omega, fun p hp => ?_⟩
      rcases List.mem_cons.mp hp with rfl | hp
      · omega
      · exact h₃ p hp

/-- Slots and their places are looked up alike. -/
theorem lookup_forall₂ {R : Slot → Nat → Prop} {contents : List (Nat × Slot)}
    {places : List (Nat × Nat)}
    (h : List.Forall₂ (fun c p => p.1 = c.1 ∧ R c.2 p.2) contents places) (k : Nat) :
    (contents.lookup k = none ∧ places.lookup k = none) ∨
      ∃ s p, contents.lookup k = some s ∧ places.lookup k = some p ∧ R s p := by
  induction h with
  | nil => exact .inl ⟨rfl, rfl⟩
  | @cons c p contents places hcp _ ih =>
      obtain ⟨kc, s⟩ := c
      obtain ⟨kp, place⟩ := p
      obtain ⟨hk, hr⟩ := hcp
      dsimp only at hk hr
      subst hk
      by_cases hkk : k = kp
      · subst hkk
        exact .inr ⟨s, place, by simp, by simp, hr⟩
      · simpa [List.lookup_cons, beq_false_of_ne hkk] using ih

namespace Holds

variable {d : Data} {m : Bytes} {widest : Nat}

/-- The shape of a table is found from its front. -/
theorem shape_at (h : Holds d m widest) {start front shapePlace : Nat} {targets : List Nat}
    {contents : List (Nat × Slot)} {places : List (Nat × Nat)}
    (t : TableAt m widest start front targets contents places shapePlace) :
    d.shape? (m.length - front) = some (m.length - shapePlace) := by
  have hshort := h.short
  have hplace := t.shape.le_length
  have hlen := t.shape.length_le
  have hpos : 0 < (shape start front places).length := by rw [length_shape]; omega
  rcases t.distance with ⟨hfront, hat⟩ | ⟨hfront, hat⟩
  · have hread := h.aligned_at hat (by omega) isUnit_four t.wide t.aligned
    simp only [Data.shape?, hread, Option.bind_eq_bind, Option.bind_some]
    rw [if_pos (by simp; omega), if_pos (by omega), Option.some.injEq]
    omega
  · have hle := hat.le_length
    have hread := h.aligned_at hat (by omega) isUnit_four t.wide t.aligned
    simp only [Data.shape?, hread, Option.bind_eq_bind, Option.bind_some]
    rw [if_neg (by simp; omega), Option.some.injEq]
    omega

/-- The table that a shape describes: one entry for each slot, the distance to the front. -/
theorem table_at (h : Holds d m widest) {start front shapePlace : Nat} {targets : List Nat}
    {contents : List (Nat × Slot)} {places : List (Nat × Nat)}
    (t : TableAt m widest start front targets contents places shapePlace)
    (hlow : ∀ p ∈ places, p.1 < 16) (hbelow : ∀ p ∈ places, front - p.2 < 2 ^ 16) :
    d.table? (m.length - front) = some ⟨m.length - front,
      (List.range (places.foldl (fun n p => max n (p.1 + 1)) 0)).map fun k =>
        match places.lookup k with
        | some place => front - place
        | none => 0⟩ := by
  obtain ⟨hcount, -, -⟩ := shape_count hlow 0 (by decide)
  generalize hc : places.foldl (fun n p => max n (p.1 + 1)) 0 = count at *
  have hlen := length_shape start front places
  rw [hc] at hlen
  have hform := h.part_at t.shape
  have hread : d.aligned? (m.length - shapePlace) 2 = some (4 + 2 * count) := by
    have hat := t.shape
    rw [shape, hc, List.append_assoc] at hat
    exact h.aligned_at hat.left (by omega) (.inr (.inl rfl)) (Nat.le_trans (by decide) t.wide)
      t.even
  rw [hlen] at hform
  simp only [Data.table?, h.shape_at t, hread, hform, Option.bind_eq_bind, Option.bind_some]
  rw [if_pos (by omega), Option.some.injEq, Table.mk.injEq]
  refine ⟨rfl, ?_⟩
  rw [show (4 + 2 * count) / 2 - 2 = count by omega]
  apply List.map_congr_left
  intro k hk
  rw [List.mem_range] at hk
  have hfield : ((shape start front places).drop (4 + 2 * k)).take 2 =
      Bytes.ofNat 2 (match places.lookup k with
        | some place => front - place
        | none => 0) := by
    have hchunk := Bytes.take_drop_flatMap (f := fun k => Bytes.ofNat 2 (match places.lookup k with
      | some place => front - place
      | none => 0)) (fun _ => Bytes.length_ofNat 2 _) (List.range count) k (by simpa using hk)
    rw [List.getElem_range] at hchunk
    rw [shape, hc, ← hchunk, ← List.drop_drop]
    rfl
  have hext : ((shape start front places).toArray.extract (4 + 2 * k) (6 + 2 * k)).toList =
      ((shape start front places).drop (4 + 2 * k)).take 2 := by
    rw [Array.toList_extract, List.extract_eq_take_drop]
    congr 1
    omega
  rw [hext, hfield, Bytes.toNat_ofNat_of_lt]
  cases hlook : places.lookup k with
  | none => exact show 0 < 256 ^ 2 by decide
  | some place =>
      obtain ⟨l₁, l₂, hsplit, -⟩ := List.lookup_eq_some_iff.mp hlook
      exact hbelow (k, place) (by simp [hsplit])

/-- A table is read with the slots it was written with and no others. -/
theorem table_of_laid (h : Holds d m widest) {parts : List Item} {slots : List (Nat × Slot)}
    {siblings : List Nat} {place : Nat} (hf : SlotsFit parts.length slots)
    (hl : (Item.table parts slots).Laid m widest siblings place) :
    ∃ t targets, d.table? (m.length - place) = some t ∧
      Item.LaidAll m widest parts [] targets ∧
      ∀ k, SlotReads d m targets (t.slot? k) (slots.lookup k) := by
  rw [Item.Laid] at hl
  obtain ⟨targets, start, places, shapePlace, hparts, t⟩ := hl
  have hspan := t.span
  have hlow : ∀ p ∈ places, p.1 < 16 :=
    forall_right t.slots (fun c hc => (hf.each c hc).1) fun c p hc hp => hp.1 ▸ hc
  have hbelow : ∀ p ∈ places, place - p.2 < 2 ^ 16 :=
    forall_right t.slots (fun _ _ => trivial) fun c p _ hp => by omega
  obtain ⟨-, -, hcount⟩ := shape_count hlow 0 (by decide)
  refine ⟨_, targets, h.table_at t hlow hbelow, hparts, fun k => ?_⟩
  simp only [Table.slot?, List.getElem?_map]
  rcases lookup_forall₂ (R := fun s p => start < p ∧ p < place ∧ SlotAt m widest targets p s)
      t.slots k with ⟨hs, hp⟩ | ⟨s, p, hs, hp, hstart, hfront, hat⟩
  · rw [hs, SlotReads]
    by_cases hk : k < places.foldl (fun n p => max n (p.1 + 1)) 0
    · rw [List.getElem?_eq_getElem (by simpa using hk), List.getElem_range]
      simp [hp]
    · rw [List.getElem?_eq_none (by simpa using hk)]
      rfl
  · obtain ⟨l₁, l₂, hsplit, -⟩ := List.lookup_eq_some_iff.mp hp
    have hk := hcount (k, p) (by simp [hsplit])
    obtain ⟨s₁, s₂, hsplit', -⟩ := List.lookup_eq_some_iff.mp hs
    have hfit : s.Fits parts.length := (hf.each (k, s) (by simp [hsplit'])).2
    have hplace : (m.length - place + (place - p)) = m.length - p := by
      have : place ≤ m.length := by
        rcases t.distance with ⟨-, hd⟩ | ⟨-, hd⟩ <;> exact hd.le_length
      omega
    have hne : ((place - p) != 0) = true := by simp; omega
    rw [hs, List.getElem?_eq_getElem (by simpa using hk), List.getElem_range]
    simp only [Option.map_some, hp, Option.filter_some, hne, if_true, hplace]
    cases s with
    | number width value =>
        exact ⟨_, rfl, h.aligned_at hat.1 hfit.2 hfit.1 hat.2.2 hat.2.1⟩
    | part i => exact ⟨_, rfl, h.target_at hat.1 hat.2.1 t.wide (Nat.le_of_lt hat.2.2)⟩

end Holds

/-! ## Slots -/

theorem numberSlot_some {d : Data} {m : Bytes} {targets : List Nat} {t : Table}
    {k width value default : Nat}
    (h : SlotReads d m targets (t.slot? k) (some (.number width value))) :
    d.numberSlot? t k width default = some value := by
  obtain ⟨p, hp, hread⟩ := h
  rw [Data.numberSlot?, hp]
  exact hread

theorem numberSlot_none {d : Data} {m : Bytes} {targets : List Nat} {t : Table}
    {k width default : Nat} (h : SlotReads d m targets (t.slot? k) none) :
    d.numberSlot? t k width default = some default := by
  have hp : t.slot? k = none := h
  rw [Data.numberSlot?, hp]

/-- A number that is left out when it holds the default is read all the same. -/
theorem numberSlot_unless {d : Data} {m : Bytes} {targets : List Nat} {t : Table}
    {k width value default : Nat}
    (h : SlotReads d m targets (t.slot? k)
      (if value = default then none else some (.number width value))) :
    d.numberSlot? t k width default = some value := by
  split at h
  · next heq => rw [numberSlot_none h, heq]
  · exact numberSlot_some h

theorem refSlot_some {d : Data} {m : Bytes} {targets : List Nat} {t : Table} {k i : Nat}
    {α : Type} {read? : Nat → Option α} {a : α}
    (h : SlotReads d m targets (t.slot? k) (some (.part i)))
    (hread : read? (m.length - targets.getD i 0) = some a) :
    d.refSlot? t k read? = some (some a) := by
  obtain ⟨p, hp, htarget⟩ := h
  simp only [Data.refSlot?, hp, htarget, hread, Option.bind_eq_bind, Option.bind_some]
  rfl

theorem refSlot_none {d : Data} {m : Bytes} {targets : List Nat} {t : Table} {k : Nat}
    {α : Type} {read? : Nat → Option α} (h : SlotReads d m targets (t.slot? k) none) :
    d.refSlot? t k read? = some none := by
  have hp : t.slot? k = none := h
  rw [Data.refSlot?, hp]

theorem needed_some {d : Data} {m : Bytes} {targets : List Nat} {t : Table} {k i : Nat}
    {α : Type} {read? : Nat → Option α} {a : α}
    (h : SlotReads d m targets (t.slot? k) (some (.part i)))
    (hread : read? (m.length - targets.getD i 0) = some a) :
    d.needed? t k read? = some a := by
  rw [Data.needed?, refSlot_some h hread]
  rfl

end Columnar.Wire

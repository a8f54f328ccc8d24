/-
# `Proofs.Wire.Message` — what is laid out in a message stays there

A message grows at its front, so a place counted from the end never moves:
`At m place field` says that a field lies there, and it is kept by everything
that is put in front.  `Item.Laid` says the same of an item with all that it
refers to, and `layout_laid` that laying an item out makes it so; `encode_laid`
is the case of a whole message.

Alignment is a property of the end of the message, too: a place that is a
multiple of a width stays one, and the length of the finished message is a
multiple of the greatest width in it.
-/
import Mathlib.Data.List.Forall2
import Columnar.Proofs.Bytes
import Columnar.Wire.Item

namespace Columnar.Wire

/-! ## Places -/

/-- The field lies in the message so that it takes `place` bytes together with what follows it. -/
def At (m : Bytes) (place : Nat) (field : Bytes) : Prop :=
  ∃ front rest, m = front ++ (field ++ rest) ∧ (field ++ rest).length = place

namespace At

variable {m : Bytes} {place : Nat} {field a b : Bytes}

theorem append_left (h : At m place field) (front : Bytes) : At (front ++ m) place field := by
  obtain ⟨f, rest, rfl, hlen⟩ := h
  exact ⟨front ++ f, rest, by simp, hlen⟩

theorem le_length (h : At m place field) : place ≤ m.length := by
  obtain ⟨f, rest, rfl, hlen⟩ := h
  simp only [List.length_append] at hlen ⊢
  omega

theorem length_le (h : At m place field) : field.length ≤ place := by
  obtain ⟨f, rest, rfl, hlen⟩ := h
  simp only [List.length_append] at hlen
  omega

theorem left (h : At m place (a ++ b)) : At m place a := by
  obtain ⟨f, rest, rfl, hlen⟩ := h
  exact ⟨f, b ++ rest, by simp, by simpa using hlen⟩

theorem right (h : At m place (a ++ b)) : At m (place - a.length) b := by
  obtain ⟨f, rest, rfl, hlen⟩ := h
  refine ⟨f ++ a, rest, by simp, ?_⟩
  simp only [List.length_append] at hlen ⊢
  omega

theorem take (h : At m place field) (n : Nat) : At m place (field.take n) := by
  rw [← List.take_append_drop n field] at h
  exact h.left

theorem drop (h : At m place field) {n : Nat} (hn : n ≤ field.length) :
    At m (place - n) (field.drop n) := by
  rw [← List.take_append_drop n field] at h
  have := h.right
  rwa [List.length_take, Nat.min_eq_left hn] at this

end At

/-! ## Units of alignment -/

/-- The widths that numbers are aligned to. -/
def IsUnit (w : Nat) : Prop := w = 1 ∨ w = 2 ∨ w = 4 ∨ w = 8

theorem isUnit_four : IsUnit 4 := .inr (.inr (.inl rfl))

theorem IsUnit.pos {w : Nat} (h : IsUnit w) : 0 < w := by
  rcases h with rfl | rfl | rfl | rfl <;> decide

theorem IsUnit.max {v w : Nat} (hv : IsUnit v) (hw : IsUnit w) : IsUnit (max v w) := by
  rcases Nat.le_total v w with h | h
  · rwa [Nat.max_eq_right h]
  · rwa [Nat.max_eq_left h]

/-- A unit divides every greater one. -/
theorem IsUnit.dvd {v w : Nat} (hv : IsUnit v) (hw : IsUnit w) (h : v ≤ w) : v ∣ w := by
  rcases hv with rfl | rfl | rfl | rfl <;> rcases hw with rfl | rfl | rfl | rfl <;>
    omega

/-! ## Builders -/

/-- A builder that knows how much it holds and where its shapes are. -/
structure Builder.Good (b : Builder) : Prop where
  used : b.used = b.bytes.length
  widest : IsUnit b.widest
  shapes : ∀ s ∈ b.shapes, At b.bytes s.2 s.1 ∧ s.2 % 2 = 0

/-- A builder that came about by putting more in front. -/
structure Builder.Grows (b b' : Builder) : Prop where
  front : ∃ front, b'.bytes = front ++ b.bytes
  used : b.used ≤ b'.used
  widest : b.widest ≤ b'.widest
  good : b.Good → b'.Good

namespace Builder

variable {b b' b'' : Builder}

theorem good_empty : empty.Good := ⟨rfl, .inl rfl, by simp [empty]⟩

theorem Grows.refl (b : Builder) : b.Grows b := ⟨⟨[], rfl⟩, Nat.le_refl _, Nat.le_refl _, id⟩

theorem Grows.trans (h : b.Grows b') (h' : b'.Grows b'') : b.Grows b'' := by
  obtain ⟨f, hf⟩ := h.front
  obtain ⟨f', hf'⟩ := h'.front
  exact ⟨⟨f' ++ f, by rw [hf', hf, List.append_assoc]⟩, Nat.le_trans h.used h'.used,
    Nat.le_trans h.widest h'.widest, fun hb => h'.good (h.good hb)⟩

theorem Grows.at (h : b.Grows b') {place : Nat} {field : Bytes} (hat : At b.bytes place field) :
    At b'.bytes place field := by
  obtain ⟨f, hf⟩ := h.front
  exact hf ▸ hat.append_left f

@[simp] theorem used_push (b : Builder) (front : Bytes) :
    (b.push front).used = b.used + front.length := rfl

@[simp] theorem widest_push (b : Builder) (front : Bytes) : (b.push front).widest = b.widest := rfl

theorem push_grows (b : Builder) (front : Bytes) : b.Grows (b.push front) where
  front := ⟨front, rfl⟩
  used := Nat.le_add_right _ _
  widest := Nat.le_refl _
  good hb :=
    { used := by simp only [push, hb.used, List.length_append]; omega
      widest := hb.widest
      shapes := fun s hs => ⟨(hb.shapes s hs).1.append_left front, (hb.shapes s hs).2⟩ }

theorem at_push (hb : b.Good) (front : Bytes) :
    At (b.push front).bytes (b.push front).used front :=
  ⟨[], b.bytes, rfl, by simp only [used_push, hb.used, List.length_append]; omega⟩

theorem at_push_number (hb : b.Good) (width value : Nat) :
    At (b.push (Bytes.ofNat width value)).bytes (b.used + width) (Bytes.ofNat width value) := by
  simpa using at_push hb (Bytes.ofNat width value)

theorem used_align (b : Builder) (n unit : Nat) :
    (b.align n unit).used = b.used + Bytes.gap unit (b.used + n) := by simp [align]

theorem widest_align (b : Builder) (n unit : Nat) :
    (b.align n unit).widest = max b.widest unit := rfl

theorem align_grows (b : Builder) (n : Nat) {unit : Nat} (hu : IsUnit unit) :
    b.Grows (b.align n unit) := by
  have h := b.push_grows (Bytes.zeros (Bytes.gap unit (b.used + n)))
  exact
    { front := h.front
      used := h.used
      widest := Nat.le_max_left _ _
      good := fun hb => ⟨(h.good hb).used, hb.widest.max hu, (h.good hb).shapes⟩ }

theorem align_mod (b : Builder) (n : Nat) {unit : Nat} (hu : IsUnit unit) :
    ((b.align n unit).used + n) % unit = 0 := by
  have := Bytes.add_gap_mod hu.pos (b.used + n)
  rw [used_align]
  rwa [show b.used + Bytes.gap unit (b.used + n) + n
    = b.used + n + Bytes.gap unit (b.used + n) by omega]

theorem used_align_lt (b : Builder) (n : Nat) {unit : Nat} (hu : IsUnit unit) :
    (b.align n unit).used < b.used + unit := by
  have := Bytes.gap_lt hu.pos (b.used + n)
  rw [used_align]
  omega

/-! ## Numbers and references -/

/-- A number or a reference of some width has been put in front: it is at a multiple of its
width. -/
structure Puts (b b' : Builder) (width : Nat) (field : Bytes) : Prop where
  grows : b.Grows b'
  at_used : b.Good → At b'.bytes b'.used field
  aligned : b'.used % width = 0
  widest : width ≤ b'.widest
  above : b.used + width ≤ b'.used
  below : b'.used < b.used + 2 * width

theorem aligned_puts (b : Builder) {width : Nat} (hw : IsUnit width) {field : Bytes}
    (hf : field.length = width) : b.Puts ((b.align width width).push field) width field := by
  have hg := b.align_grows width hw
  have hmod := b.align_mod width hw
  have hlt := b.used_align_lt width hw
  have hle := hg.used
  exact
    { grows := hg.trans (push_grows _ _)
      at_used := fun hb => at_push (hg.good hb) field
      aligned := by rw [used_push, hf]; exact hmod
      widest := by rw [widest_push, widest_align]; exact Nat.le_max_right _ _
      above := by rw [used_push, hf]; omega
      below := by rw [used_push, hf]; omega }

theorem number_puts (b : Builder) {width : Nat} (hw : IsUnit width) (value : Nat) :
    b.Puts (b.number width value) width (Bytes.ofNat width value) :=
  aligned_puts b hw (Bytes.length_ofNat _ _)

/-- A reference holds how far its target lies behind it. -/
theorem reference_puts (b : Builder) (target : Nat) :
    b.Puts (b.reference target) 4 (Bytes.ofNat 4 ((b.reference target).used - target)) := by
  have hused : (b.reference target).used = (b.align 4 4).used + 4 := by simp [reference]
  have h := aligned_puts b isUnit_four (Bytes.length_ofNat 4 ((b.align 4 4).used + 4 - target))
  rw [hused]
  exact h

/-! ## Vectors and texts -/

/-- References to places, the first of which lies at `place`. -/
def refBytes : (place : Nat) → (targets : List Nat) → Bytes
  | _, [] => []
  | place, t :: ts => Bytes.ofNat 4 (place - t) ++ refBytes (place - 4) ts

theorem length_refBytes : ∀ (place : Nat) (targets : List Nat),
    (refBytes place targets).length = 4 * targets.length
  | _, [] => rfl
  | place, t :: ts => by
      simp only [refBytes, List.length_append, Bytes.length_ofNat, length_refBytes _ ts,
        List.length_cons]
      omega

/-- At a multiple of four no reference needs to be aligned. -/
theorem reference_bytes (b : Builder) (target : Nat) (h : b.used % 4 = 0) :
    (b.reference target).bytes = Bytes.ofNat 4 (b.used + 4 - target) ++ b.bytes ∧
      (b.reference target).used = b.used + 4 := by
  have hgap : Bytes.gap 4 (b.used + 4) = 0 := by simp [Bytes.gap]; omega
  simp [reference, align, push, hgap, Bytes.zeros]

theorem references_grow (targets : List Nat) (b : Builder) (h : b.used % 4 = 0) :
    b.Grows (targets.foldr (fun t b => b.reference t) b) ∧
      (targets.foldr (fun t b => b.reference t) b).used = b.used + 4 * targets.length ∧
      (targets.foldr (fun t b => b.reference t) b).bytes =
        refBytes (b.used + 4 * targets.length) targets ++ b.bytes := by
  induction targets with
  | nil => exact ⟨.refl b, rfl, rfl⟩
  | cons t ts ih =>
      obtain ⟨hgrow, hused, hbytes⟩ := ih
      simp only [List.foldr_cons, List.length_cons]
      generalize ts.foldr (fun t b => b.reference t) b = c at *
      obtain ⟨hb, hu⟩ := c.reference_bytes t (by omega)
      refine ⟨hgrow.trans (c.reference_puts t).grows, by omega, ?_⟩
      have hplace : b.used + 4 * (ts.length + 1) = b.used + 4 * ts.length + 4 := by omega
      rw [hb, hbytes, hused, hplace, refBytes, List.append_assoc, Nat.add_sub_cancel]

/-- A field that begins with a count has been put in front, at a multiple of four. -/
structure Lays (b b' : Builder) (field : Bytes) : Prop where
  grows : b.Grows b'
  at_used : b.Good → At b'.bytes b'.used field
  aligned : b'.used % 4 = 0
  widest : 4 ≤ b'.widest

theorem text_lays (b : Builder) (content : String) :
    b.Lays (b.text content)
      (Bytes.ofNat 4 (Bytes.ofText content).length ++ Bytes.ofText content ++ [0]) := by
  have hg := b.align_grows ((Bytes.ofText content).length + 1) isUnit_four
  have hmod := b.align_mod ((Bytes.ofText content).length + 1) isUnit_four
  exact
    { grows := hg.trans (push_grows _ _)
      at_used := fun hb => at_push (hg.good hb) _
      aligned := by simp only [text, used_push, List.length_append, Bytes.length_ofNat,
        List.length_singleton]; omega
      widest := Nat.le_max_right _ _ }

theorem pairs_lays (b : Builder) (count : Nat) (content : Bytes) :
    b.Lays (b.pairs count content) (Bytes.ofNat 4 count ++ content) := by
  have hg := b.align_grows content.length isUnit_four
  have hmod := b.align_mod content.length isUnit_four
  exact
    { grows := hg.trans (push_grows _ _)
      at_used := fun hb => at_push (hg.good hb) _
      aligned := by simp only [pairs, used_push, List.length_append, Bytes.length_ofNat]; omega
      widest := Nat.le_max_right _ _ }

theorem refs_used (b : Builder) (targets : List Nat) :
    b.used + 4 * targets.length + 4 ≤ (b.refs targets).used := by
  have hg := (b.align_grows (4 * targets.length) isUnit_four).used
  have hmod := b.align_mod (4 * targets.length) isUnit_four
  obtain ⟨-, hused, -⟩ := references_grow targets (b.align (4 * targets.length) 4) (by omega)
  simp only [refs, used_push, Bytes.length_ofNat, hused]
  omega

theorem refs_lays (b : Builder) (targets : List Nat) :
    b.Lays (b.refs targets)
      (Bytes.ofNat 4 targets.length ++ refBytes ((b.refs targets).used - 4) targets) := by
  have hg := b.align_grows (4 * targets.length) isUnit_four
  have hmod := b.align_mod (4 * targets.length) isUnit_four
  obtain ⟨hgrow, hused, hbytes⟩ :=
    references_grow targets (b.align (4 * targets.length) 4) (by omega)
  have hu : (b.refs targets).used =
      (b.align (4 * targets.length) 4).used + 4 * targets.length + 4 := by
    simp only [refs, used_push, Bytes.length_ofNat, hused]
  exact
    { grows := (hg.trans hgrow).trans (push_grows _ _)
      at_used := fun hb => by
        have hgood := (hgrow.trans (push_grows _ (Bytes.ofNat 4 targets.length))).good (hg.good hb)
        refine ⟨[], (b.align (4 * targets.length) 4).bytes, ?_, ?_⟩
        · rw [hu, refs]
          simp [push, hbytes]
        · have := (hg.good hb).used
          simp only [List.length_append, Bytes.length_ofNat, length_refBytes, hu]
          omega
      aligned := by omega
      widest := by
        have := hgrow.widest
        simp only [refs, widest_push]
        exact Nat.le_trans (Nat.le_max_right _ _) this }

end Builder

/-! ## Tables -/

/-- What a slot holds lies at a place; `targets` are the places of the table's parts. -/
def SlotAt (m : Bytes) (widest : Nat) (targets : List Nat) (place : Nat) : Slot → Prop
  | .number width value =>
    At m place (Bytes.ofNat width value) ∧ place % width = 0 ∧ width ≤ widest
  | .part i =>
    At m place (Bytes.ofNat 4 (place - targets.getD i 0)) ∧ place % 4 = 0 ∧
      targets.getD i 0 < place

/-- A number that fits its width, or a part that the table has. -/
def Slot.Fits (parts : Nat) : Slot → Prop
  | .number width value => IsUnit width ∧ value < 256 ^ width
  | .part i => i < parts

/-- Slots that a table with so many parts can have. -/
structure SlotsFit (parts : Nat) (slots : List (Nat × Slot)) : Prop where
  few : slots.length ≤ 16
  each : ∀ s ∈ slots, s.1 < 16 ∧ s.2.Fits parts

/-- A table that begins at `front` and ends at `start`: its shape is where the distance at its
front says, and every slot is where the shape says. -/
structure TableAt (m : Bytes) (widest start front : Nat) (targets : List Nat)
    (contents : List (Nat × Slot)) (places : List (Nat × Nat)) (shapePlace : Nat) : Prop where
  shape : At m shapePlace (Builder.shape start front places)
  even : shapePlace % 2 = 0
  distance :
    (shapePlace = front + (Builder.shape start front places).length ∧
        At m front (Bytes.ofNat 4 (Builder.shape start front places).length)) ∨
      (shapePlace < front ∧ At m front (Bytes.ofNat 4 (2 ^ 32 + shapePlace - front)))
  aligned : front % 4 = 0
  wide : 4 ≤ widest
  span : front < start + 2 ^ 16
  slots : List.Forall₂ (fun c p => p.1 = c.1 ∧ start < p.2 ∧ p.2 < front ∧
    SlotAt m widest targets p.2 c.2) contents places

theorem SlotAt.grow {b b' : Builder} (h : b.Grows b') {targets : List Nat} {place : Nat} :
    ∀ {s : Slot}, SlotAt b.bytes b.widest targets place s →
      SlotAt b'.bytes b'.widest targets place s
  | .number _ _, ⟨hat, hmod, hle⟩ => ⟨h.at hat, hmod, Nat.le_trans hle h.widest⟩
  | .part _, ⟨hat, hmod, hlt⟩ => ⟨h.at hat, hmod, hlt⟩

theorem TableAt.grow {b b' : Builder} (h : b.Grows b') {start front shapePlace : Nat}
    {targets : List Nat} {contents : List (Nat × Slot)} {places : List (Nat × Nat)}
    (t : TableAt b.bytes b.widest start front targets contents places shapePlace) :
    TableAt b'.bytes b'.widest start front targets contents places shapePlace where
  shape := h.at t.shape
  even := t.even
  distance := t.distance.imp (fun d => ⟨d.1, h.at d.2⟩) (fun d => ⟨d.1, h.at d.2⟩)
  aligned := t.aligned
  wide := Nat.le_trans t.wide h.widest
  span := t.span
  slots := t.slots.imp fun _ _ hp => ⟨hp.1, hp.2.1, hp.2.2.1, hp.2.2.2.grow h⟩

namespace Builder

theorem getD_le {targets : List Nat} {n : Nat} (h : ∀ t ∈ targets, t ≤ n) (i : Nat) :
    targets.getD i 0 ≤ n := by
  rw [List.getD_eq_getElem?_getD]
  cases hi : targets[i]? with
  | none => exact Nat.zero_le _
  | some t => exact h t (List.mem_of_getElem? hi)

/-- A slot lies where the builder is after it. -/
theorem slot_at {b : Builder} (hb : b.Good) {targets : List Nat} (ht : ∀ t ∈ targets, t ≤ b.used)
    {parts : Nat} : ∀ {s : Slot}, s.Fits parts →
      b.Grows (b.slot targets s) ∧ b.used < (b.slot targets s).used ∧
        (b.slot targets s).used ≤ b.used + 16 ∧
        SlotAt (b.slot targets s).bytes (b.slot targets s).widest targets
          (b.slot targets s).used s
  | .number width value, ⟨hw, _⟩ => by
      have h := b.number_puts hw value
      have habove := h.above
      have hbelow := h.below
      have hpos := hw.pos
      have h8 : width ≤ 8 := by rcases hw with rfl | rfl | rfl | rfl <;> decide
      exact ⟨h.grows, by simp only [slot]; omega, by simp only [slot]; omega,
        h.at_used hb, h.aligned, h.widest⟩
  | .part i, _ => by
      have h := b.reference_puts (targets.getD i 0)
      have habove := h.above
      have hbelow := h.below
      have hi := getD_le ht i
      exact ⟨h.grows, by simp only [slot]; omega, by simp only [slot]; omega,
        h.at_used hb, h.aligned, by simp only [slot]; omega⟩

theorem slots_at (targets : List Nat) (parts : Nat) :
    ∀ (contents : List (Nat × Slot)) {b : Builder}, b.Good → (∀ t ∈ targets, t ≤ b.used) →
      (∀ s ∈ contents, s.2.Fits parts) →
      b.Grows (slots targets contents b).2 ∧
        (slots targets contents b).2.used ≤ b.used + 16 * contents.length ∧
        List.Forall₂ (fun c p => p.1 = c.1 ∧ b.used < p.2 ∧
            p.2 ≤ (slots targets contents b).2.used ∧
            SlotAt (slots targets contents b).2.bytes (slots targets contents b).2.widest
              targets p.2 c.2)
          contents (slots targets contents b).1
  | [], b, _, _, _ => ⟨.refl b, Nat.le_refl _, .nil⟩
  | (k, s) :: rest, b, hb, ht, hf => by
      have hs : s.Fits parts := hf (k, s) List.mem_cons_self
      obtain ⟨hgrow, hlt, hle, hat⟩ := slot_at hb ht hs
      obtain ⟨hgrow', hle', hrest⟩ := slots_at targets parts rest (hgrow.good hb)
        (fun t h => Nat.le_trans (ht t h) hgrow.used)
        (fun x hx => hf x (List.mem_cons_of_mem _ hx))
      simp only [slots, List.length_cons]
      refine ⟨hgrow.trans hgrow', by omega, .cons ⟨rfl, hlt, hgrow'.used, hat.grow hgrow'⟩ ?_⟩
      exact hrest.imp fun c p hp => ⟨hp.1, Nat.lt_trans hlt hp.2.1, hp.2.2⟩

theorem length_shape (start front : Nat) (places : List (Nat × Nat)) :
    (shape start front places).length =
      4 + 2 * places.foldl (fun n p => max n (p.1 + 1)) 0 := by
  simp only [shape, List.length_append, Bytes.length_ofNat, List.length_range,
    Bytes.length_flatMap_const (w := 2) fun _ => Bytes.length_ofNat _ _]

/-- A shape that lies at an even place may be remembered. -/
theorem remember_grows (b : Builder) {form : Bytes} {place : Nat} (hat : At b.bytes place form)
    (heven : place % 2 = 0) : b.Grows { b with shapes := (form, place) :: b.shapes } where
  front := ⟨[], rfl⟩
  used := Nat.le_refl _
  widest := Nat.le_refl _
  good hb :=
    { used := hb.used
      widest := hb.widest
      shapes := fun s hs => by
        rcases List.mem_cons.mp hs with rfl | hs
        · exact ⟨hat, heven⟩
        · exact hb.shapes s hs }

/-- The slots, the distance to the shape and, unless there is one already, the shape. -/
theorem table_at {b : Builder} (hb : b.Good) {targets : List Nat}
    (ht : ∀ t ∈ targets, t ≤ b.used) {parts : Nat} {contents : List (Nat × Slot)}
    (hf : SlotsFit parts contents) :
    b.Grows (b.table targets contents).2 ∧
      (b.table targets contents).1 ≤ (b.table targets contents).2.used ∧
      ∃ start places shapePlace,
        TableAt (b.table targets contents).2.bytes (b.table targets contents).2.widest start
          (b.table targets contents).1 targets contents places shapePlace := by
  obtain ⟨hgrow, hle, hslots⟩ := slots_at targets parts contents hb ht fun s hs => (hf.each s hs).2
  have hlen := hf.few
  simp only [table]
  generalize hp : (slots targets contents b).1 = places at *
  generalize (slots targets contents b).2 = filled at *
  have hgrow₄ := filled.align_grows 4 isUnit_four
  have hmod := filled.align_mod 4 isUnit_four
  have hlt := filled.used_align_lt 4 isUnit_four
  have hwide : 4 ≤ (filled.align 4 4).widest := Nat.le_max_right _ _
  have hgood : (filled.align 4 4).Good := hgrow₄.good (hgrow.good hb)
  have hused := hgrow₄.used
  generalize filled.align 4 4 = a at *
  have hlenShape := length_shape b.used (a.used + 4) places
  generalize hshape : shape b.used (a.used + 4) places = form at *
  have hslots' : ∀ c : Builder, a.Grows c →
      List.Forall₂ (fun c' p => p.1 = c'.1 ∧ b.used < p.2 ∧ p.2 < a.used + 4 ∧
        SlotAt c.bytes c.widest targets p.2 c'.2) contents places := fun c hc =>
    hslots.imp fun _ _ hp =>
      ⟨hp.1, hp.2.1, by have := hp.2.2.1; omega, hp.2.2.2.grow (hgrow₄.trans hc)⟩
  split
  · next place hlook =>
    obtain ⟨_, _, hsplit, _⟩ := List.lookup_eq_some_iff.mp hlook
    obtain ⟨hat, heven⟩ := hgood.shapes (form, place) (by simp [hsplit])
    have hpush := a.push_grows (Bytes.ofNat 4 (2 ^ 32 + place - (a.used + 4)))
    have hplace : place ≤ a.used := hgood.used ▸ hat.le_length
    refine ⟨(hgrow.trans hgrow₄).trans hpush, by simp, b.used, places, place, ?_⟩
    exact
      { shape := hshape ▸ hpush.at hat
        even := heven
        distance := .inr ⟨by omega, at_push_number hgood 4 _⟩
        aligned := hmod
        wide := hwide
        span := by omega
        slots := hslots' _ hpush }
  · next hlook =>
    let c := (a.push (Bytes.ofNat 4 form.length)).push form
    have hpush := a.push_grows (Bytes.ofNat 4 form.length)
    have hpush' : (a.push (Bytes.ofNat 4 form.length)).Grows c := push_grows _ form
    have hfront : At c.bytes (a.used + 4) (Bytes.ofNat 4 form.length) :=
      hpush'.at (at_push_number hgood 4 _)
    have hform : At c.bytes c.used form := at_push (hpush.good hgood) form
    have hc : c.used = a.used + 4 + form.length := by simp [c]
    have hkeep := remember_grows c hform (by omega)
    have hfull := (hpush.trans hpush').trans hkeep
    refine ⟨(hgrow.trans hgrow₄).trans hfull, by simp, b.used, places, c.used, ?_⟩
    subst hshape
    exact
      { shape := hform
        even := by omega
        distance := .inl ⟨hc, hfront⟩
        aligned := hmod
        wide := hwide
        span := by omega
        slots := hslots' _ hfull }

end Builder

/-! ## Items -/

mutual

/-- The item with all of its parts can be laid out without loss. -/
def Item.Fits : Item → Prop
  | .table parts slots => Item.AllFit parts ∧ SlotsFit parts.length slots
  | _ => True

def Item.AllFit : List Item → Prop
  | [] => True
  | item :: rest => item.Fits ∧ Item.AllFit rest

end

mutual

/-- The item lies at a place with all that it refers to; `siblings` are the places of the parts
before it in the same table. -/
def Item.Laid (m : Bytes) (widest : Nat) : Item → (siblings : List Nat) → (place : Nat) → Prop
  | .text content, _, place =>
    At m place
        (Bytes.ofNat 4 (Bytes.ofText content).length ++ Bytes.ofText content ++ [0]) ∧
      place % 4 = 0 ∧ 4 ≤ widest
  | .pairs count content, _, place =>
    At m place (Bytes.ofNat 4 count ++ content) ∧ place % 4 = 0 ∧ 4 ≤ widest
  | .refs indices, siblings, place =>
    At m place (Bytes.ofNat 4 indices.length ++
        Builder.refBytes (place - 4) (indices.map fun i => siblings.getD i 0)) ∧
      place % 4 = 0 ∧ 4 ≤ widest ∧ ∀ i ∈ indices, siblings.getD i 0 + 4 * indices.length < place
  | .table parts slots, _, place =>
    ∃ targets start places shapePlace, Item.LaidAll m widest parts [] targets ∧
      TableAt m widest start place targets slots places shapePlace

/-- The parts of a table lie at the places `targets`; `done` are those of the parts before. -/
def Item.LaidAll (m : Bytes) (widest : Nat) : List Item → (done targets : List Nat) → Prop
  | [], done, targets => targets = done
  | item :: rest, done, targets =>
    ∃ place, item.Laid m widest done place ∧ Item.LaidAll m widest rest (done ++ [place]) targets

end

mutual

theorem Item.Laid.grow {b b' : Builder} (h : b.Grows b') :
    ∀ {item : Item} {siblings : List Nat} {place : Nat},
      item.Laid b.bytes b.widest siblings place → item.Laid b'.bytes b'.widest siblings place
  | .text _, _, _, hl => by
      rw [Item.Laid] at hl ⊢
      exact ⟨h.at hl.1, hl.2.1, Nat.le_trans hl.2.2 h.widest⟩
  | .pairs _ _, _, _, hl => by
      rw [Item.Laid] at hl ⊢
      exact ⟨h.at hl.1, hl.2.1, Nat.le_trans hl.2.2 h.widest⟩
  | .refs _, _, _, hl => by
      rw [Item.Laid] at hl ⊢
      exact ⟨h.at hl.1, hl.2.1, Nat.le_trans hl.2.2.1 h.widest, hl.2.2.2⟩
  | .table _ _, _, _, hl => by
      rw [Item.Laid] at hl ⊢
      obtain ⟨targets, start, places, shapePlace, hparts, htable⟩ := hl
      exact ⟨targets, start, places, shapePlace, Item.LaidAll.grow h hparts, htable.grow h⟩

theorem Item.LaidAll.grow {b b' : Builder} (h : b.Grows b') :
    ∀ {items : List Item} {done targets : List Nat},
      Item.LaidAll b.bytes b.widest items done targets →
        Item.LaidAll b'.bytes b'.widest items done targets
  | [], _, _, hl => by
      rw [Item.LaidAll] at hl ⊢
      exact hl
  | _ :: _, _, _, hl => by
      rw [Item.LaidAll] at hl ⊢
      obtain ⟨place, hitem, hrest⟩ := hl
      exact ⟨place, hitem.grow h, hrest.grow h⟩

end

/-- Each part of a table lies at its target, and was laid out when the targets before it were
known. -/
theorem Item.LaidAll.get {m : Bytes} {widest : Nat} : ∀ {items : List Item} {done targets : List Nat},
    Item.LaidAll m widest items done targets →
      (∀ j < done.length, targets.getD j 0 = done.getD j 0) ∧
        ∀ i item, items[i]? = some item → ∃ siblings,
          item.Laid m widest siblings (targets.getD (done.length + i) 0) ∧
            ∀ j < done.length + i, siblings.getD j 0 = targets.getD j 0
  | [], done, targets, h => by
      rw [Item.LaidAll] at h
      exact ⟨fun j _ => by rw [h], fun i item hi => by simp at hi⟩
  | first :: rest, done, targets, h => by
      rw [Item.LaidAll] at h
      obtain ⟨place, hfirst, hrest⟩ := h
      obtain ⟨hdone, hget⟩ := hrest.get
      rw [List.length_append, List.length_singleton] at hdone hget
      have hbefore : ∀ j < done.length, targets.getD j 0 = done.getD j 0 := fun j hj => by
        rw [hdone j (by omega)]
        simp [List.getD_eq_getElem?_getD, List.getElem?_append_left hj]
      refine ⟨hbefore, fun i item hi => ?_⟩
      cases i with
      | zero =>
          rw [List.getElem?_cons_zero, Option.some.injEq] at hi
          have hplace := hdone done.length (Nat.lt_succ_self _)
          rw [List.getD_eq_getElem?_getD (l := done ++ _), List.getElem?_concat_length] at hplace
          rw [Nat.add_zero, hplace]
          exact ⟨done, hi ▸ hfirst, fun j hj => (hbefore j hj).symm⟩
      | succ i =>
          rw [List.getElem?_cons_succ] at hi
          have := hget i item hi
          rwa [Nat.add_assoc, Nat.add_comm 1] at this

mutual

theorem Item.layout_laid : ∀ (item : Item) (siblings : List Nat) {b : Builder}, item.Fits →
    b.Good → (∀ t ∈ siblings, t ≤ b.used) →
      b.Grows (item.layout siblings b).2 ∧
        (item.layout siblings b).1 ≤ (item.layout siblings b).2.used ∧
        item.Laid (item.layout siblings b).2.bytes (item.layout siblings b).2.widest siblings
          (item.layout siblings b).1
  | .text content, _, b, _, hb, _ => by
      have h := b.text_lays content
      rw [Item.layout, Item.Laid]
      exact ⟨h.grows, Nat.le_refl _, h.at_used hb, h.aligned, h.widest⟩
  | .pairs count content, _, b, _, hb, _ => by
      have h := b.pairs_lays count content
      rw [Item.layout, Item.Laid]
      exact ⟨h.grows, Nat.le_refl _, h.at_used hb, h.aligned, h.widest⟩
  | .refs indices, siblings, b, _, hb, hs => by
      have h := b.refs_lays (indices.map fun i => siblings.getD i 0)
      have hlen := (b.refs_used (indices.map fun i => siblings.getD i 0))
      have hat := h.at_used hb
      rw [List.length_map] at hat hlen
      rw [Item.layout, Item.Laid]
      refine ⟨h.grows, Nat.le_refl _, hat, h.aligned, h.widest, fun i _ => ?_⟩
      have := Builder.getD_le hs i
      dsimp only
      omega
  | .table parts slots, _, b, hf, hb, _ => by
      rw [Item.Fits] at hf
      obtain ⟨hgrow, hle, hparts⟩ := Item.layoutAll_laid parts [] hf.1 hb (by simp)
      obtain ⟨hgrow', hle', start, places, shapePlace, htable⟩ :=
        Builder.table_at (hgrow.good hb) hle hf.2
      rw [Item.layout, Item.Laid]
      exact ⟨hgrow.trans hgrow', hle', _, start, places, shapePlace, hparts.grow hgrow', htable⟩

theorem Item.layoutAll_laid : ∀ (items : List Item) (done : List Nat) {b : Builder},
    Item.AllFit items → b.Good → (∀ t ∈ done, t ≤ b.used) →
      b.Grows (Item.layoutAll items done b).2 ∧
        (∀ t ∈ (Item.layoutAll items done b).1, t ≤ (Item.layoutAll items done b).2.used) ∧
        Item.LaidAll (Item.layoutAll items done b).2.bytes
          (Item.layoutAll items done b).2.widest items done (Item.layoutAll items done b).1
  | [], done, b, _, _, hd => by
      rw [Item.layoutAll, Item.LaidAll]
      exact ⟨.refl b, hd, rfl⟩
  | item :: rest, done, b, hf, hb, hd => by
      rw [Item.AllFit] at hf
      obtain ⟨hgrow, hle, hlaid⟩ := item.layout_laid done hf.1 hb hd
      have hd' : ∀ t ∈ done ++ [(item.layout done b).1], t ≤ (item.layout done b).2.used := by
        intro t ht
        rcases List.mem_append.mp ht with ht | ht
        · exact Nat.le_trans (hd t ht) hgrow.used
        · exact List.mem_singleton.mp ht ▸ hle
      obtain ⟨hgrow', hle', hrest⟩ := Item.layoutAll_laid rest _ hf.2 (hgrow.good hb) hd'
      rw [Item.layoutAll, Item.LaidAll]
      exact ⟨hgrow.trans hgrow', hle', _, hlaid.grow hgrow', hrest⟩

end

/-- A whole message: a reference to its item comes first, and its length is a multiple of every
width in it. -/
theorem Item.encode_laid {item : Item} (hf : item.Fits) :
    ∃ widest root, IsUnit widest ∧ 4 ≤ widest ∧ item.encode.length % widest = 0 ∧
      root < item.encode.length ∧
      At item.encode item.encode.length (Bytes.ofNat 4 (item.encode.length - root)) ∧
      item.Laid item.encode widest [] root := by
  obtain ⟨hgrow, hle, hlaid⟩ := item.layout_laid [] hf Builder.good_empty (by simp)
  have hgood := hgrow.good Builder.good_empty
  generalize hr : item.layout [] Builder.empty = r at *
  obtain ⟨root, b⟩ := r
  dsimp only at *
  have hwide := hgood.widest
  have hgrow₁ := b.align_grows 4 hwide
  have hmod := b.align_mod 4 hwide
  have hwide₁ : (b.align 4 b.widest).widest = b.widest := Nat.max_self _
  generalize ha : b.align 4 b.widest = a at *
  have hput := a.reference_puts root
  have hgood₁ := hgrow₁.good hgood
  have hused := (hput.grows.good hgood₁).used
  have habove := hput.above
  have henc : item.encode = (a.reference root).bytes := by simp [Item.encode, hr, ha]
  rw [henc]
  refine ⟨(a.reference root).widest, root, (hput.grows.good hgood₁).widest, hput.widest, ?_, ?_,
    ?_, hlaid.grow (hgrow₁.trans hput.grows)⟩
  · have hlast : (a.reference root).widest = max a.widest 4 := rfl
    have h4 := hput.aligned
    rw [← hused, hlast, hwide₁]
    rcases hwide with h | h | h | h
    · rwa [h]
    · rwa [h]
    · rwa [h]
    · rw [h] at hmod ⊢
      rw [(a.reference_bytes root (by omega)).2]
      exact hmod
  · have := hgrow₁.used
    omega
  · have := hput.at_used hgood₁
    rwa [hused] at this

end Columnar.Wire

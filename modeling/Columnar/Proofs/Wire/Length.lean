/-
# `Proofs.Wire.Length` — how long a stream is

Where things lie in a message depends on what is laid out and in which order,
and not on the numbers that are put in.  So two messages of one outline are
equally long (`Item.Alike`): it is enough that a number has the same width, a
vector of pairs the same length, and that a slot which is left out for its
default is left out in both.  For streams of batches this says that only the
body depends on the cells: the rest has one length for all batches with rows
under one schema (`length_encodeBatch`).
-/
import Columnar.Proofs.Wire.Stream

namespace Columnar.Wire

/-! ## Builders -/

/-- Builders that have come equally far, with the same shapes; the numbers in them may differ. -/
structure Builder.Alike (b b' : Builder) : Prop where
  length : b.bytes.length = b'.bytes.length
  used : b.used = b'.used
  widest : b.widest = b'.widest
  shapes : b.shapes = b'.shapes

/-- Slots that take equally much room. -/
inductive Slot.Alike : Slot → Slot → Prop
  | number (width value value' : Nat) : Slot.Alike (.number width value) (.number width value')
  | part (i : Nat) : Slot.Alike (.part i) (.part i)

/-- Slots of the same numbers that take equally much room. -/
abbrev SlotsAlike (slots slots' : List (Nat × Slot)) : Prop :=
  List.Forall₂ (fun s s' => s.1 = s'.1 ∧ s.2.Alike s'.2) slots slots'

namespace Builder

theorem Alike.refl (b : Builder) : b.Alike b := ⟨rfl, rfl, rfl, rfl⟩

section
variable {b b' : Builder} (h : b.Alike b')
include h

theorem Alike.push {front front' : Bytes} (hf : front.length = front'.length) :
    (b.push front).Alike (b'.push front') where
  length := by simp only [Builder.push, List.length_append, hf, h.length]
  used := by rw [used_push, used_push, h.used, hf]
  widest := h.widest
  shapes := h.shapes

theorem Alike.align (n unit : Nat) : (b.align n unit).Alike (b'.align n unit) := by
  have hpush := h.push (congrArg List.length
    (show Bytes.zeros (Bytes.gap unit (b.used + n)) = Bytes.zeros (Bytes.gap unit (b'.used + n)) by
      rw [h.used]))
  exact
    { length := hpush.length
      used := hpush.used
      widest := by rw [widest_align, widest_align, h.widest]
      shapes := h.shapes }

theorem Alike.number (width value value' : Nat) :
    (b.number width value).Alike (b'.number width value') :=
  (h.align width width).push (by rw [Bytes.length_ofNat, Bytes.length_ofNat])

theorem Alike.reference (target target' : Nat) :
    (b.reference target).Alike (b'.reference target') :=
  (h.align 4 4).push (by rw [Bytes.length_ofNat, Bytes.length_ofNat])

theorem Alike.pairs (count count' : Nat) {content content' : Bytes}
    (hc : content.length = content'.length) :
    (b.pairs count content).Alike (b'.pairs count' content') := by
  rw [Builder.pairs, Builder.pairs, hc]
  refine (h.align content'.length 4).push ?_
  simp only [List.length_append, Bytes.length_ofNat, hc]

theorem Alike.slot (targets : List Nat) {s s' : Slot} (hs : s.Alike s') :
    (b.slot targets s).Alike (b'.slot targets s') := by
  cases hs with
  | number width value value' => exact h.number width value value'
  | part i => exact h.reference _ _

theorem Alike.slots (targets : List Nat) {slots slots' : List (Nat × Slot)}
    (hs : SlotsAlike slots slots') :
    (Builder.slots targets slots b).1 = (Builder.slots targets slots' b').1 ∧
      (Builder.slots targets slots b).2.Alike (Builder.slots targets slots' b').2 := by
  induction hs generalizing b b' with
  | nil => exact ⟨rfl, h⟩
  | @cons s s' _ _ hfirst _ ih =>
      obtain ⟨hkey, hslot⟩ := hfirst
      have hput := h.slot targets hslot
      obtain ⟨hplaces, hrest⟩ := ih hput
      refine ⟨?_, hrest⟩
      simp only [Builder.slots, hkey, hput.used, hplaces]

/-- Tables of one outline lie at one place, and leave builders that are alike. -/
theorem Alike.table (targets : List Nat) {slots slots' : List (Nat × Slot)}
    (hs : SlotsAlike slots slots') :
    (b.table targets slots).1 = (b'.table targets slots').1 ∧
      (b.table targets slots).2.Alike (b'.table targets slots').2 := by
  obtain ⟨hplaces, hslots⟩ := h.slots targets hs
  have hfilled := hslots.align 4 4
  simp only [Builder.table]
  generalize (Builder.slots targets slots b).2.align 4 4 = filled at hfilled
  generalize (Builder.slots targets slots' b').2.align 4 4 = filled' at hfilled
  rw [hplaces, h.used, hfilled.used, hfilled.shapes]
  split
  · exact ⟨rfl, hfilled.push rfl⟩
  · refine ⟨rfl, ?_⟩
    generalize Builder.shape b'.used (filled'.used + 4) (Builder.slots targets slots' b').1 = shape
    have hshape : ((filled.push (Bytes.ofNat 4 shape.length)).push shape).Alike
        ((filled'.push (Bytes.ofNat 4 shape.length)).push shape) := (hfilled.push rfl).push rfl
    exact
      { length := hshape.length
        used := hshape.used
        widest := hshape.widest
        shapes := by
          dsimp only
          rw [hshape.used, hshape.shapes] }

end

end Builder

/-! ## Items -/

/-- Items of one outline: laid out after builders that are alike, they lie at one place and leave
builders that are alike. -/
def Item.Alike (item item' : Item) : Prop :=
  ∀ (siblings : List Nat) {b b' : Builder}, b.Alike b' →
    (item.layout siblings b).1 = (item'.layout siblings b').1 ∧
      (item.layout siblings b).2.Alike (item'.layout siblings b').2

theorem Item.layoutAll_alike {parts parts' : List Item} (hparts : List.Forall₂ Item.Alike parts parts')
    (done : List Nat) {b b' : Builder} (h : b.Alike b') :
    (Item.layoutAll parts done b).1 = (Item.layoutAll parts' done b').1 ∧
      (Item.layoutAll parts done b).2.Alike (Item.layoutAll parts' done b').2 := by
  induction hparts generalizing done b b' with
  | nil => exact ⟨rfl, h⟩
  | cons hfirst _ ih =>
      obtain ⟨hplace, halike⟩ := hfirst done h
      simp only [Item.layoutAll, hplace]
      exact ih _ halike

theorem Item.pairs_alike (count count' : Nat) {content content' : Bytes}
    (hc : content.length = content'.length) :
    (Item.pairs count content).Alike (.pairs count' content') := by
  intro siblings b b' h
  have hpairs := h.pairs count count' hc
  simp only [Item.layout]
  exact ⟨hpairs.used, hpairs⟩

theorem Item.table_alike {parts parts' : List Item} {slots slots' : List (Nat × Slot)}
    (hparts : List.Forall₂ Item.Alike parts parts') (hslots : SlotsAlike slots slots') :
    (Item.table parts slots).Alike (.table parts' slots') := by
  intro siblings b b' h
  obtain ⟨htargets, halike⟩ := Item.layoutAll_alike hparts [] h
  simp only [Item.layout, htargets]
  exact halike.table _ hslots

/-- Messages of one outline are equally long. -/
theorem Item.Alike.length_encode {item item' : Item} (h : item.Alike item') :
    item.encode.length = item'.encode.length := by
  obtain ⟨hroot, halike⟩ := h [] (Builder.Alike.refl Builder.empty)
  simp only [Item.encode, hroot, halike.widest]
  exact ((halike.align 4 _).reference _ _).length

/-! ## Messages -/

/-- A number is left out in both slots or in none. -/
theorem numberUnless_alike {default width value value' k : Nat}
    (h : value = default ↔ value' = default) :
    SlotsAlike (numberUnless default width value k) (numberUnless default width value' k) := by
  rw [numberUnless, numberUnless]
  by_cases hv : value = default
  · rw [if_pos hv, if_pos (h.mp hv)]
    exact .nil
  · rw [if_neg hv, if_neg fun hv' => hv (h.mpr hv')]
    exact .cons ⟨rfl, .number width value value'⟩ .nil

theorem SlotsAlike.append {slots slots' more more' : List (Nat × Slot)} (h : SlotsAlike slots slots')
    (hmore : SlotsAlike more more') : SlotsAlike (slots ++ more) (slots' ++ more') :=
  List.rel_append h hmore

theorem length_message (kind : Nat) {bodyLength bodyLength' : Nat} {header header' : Item}
    (hbody : bodyLength = 0 ↔ bodyLength' = 0) (hheader : header.Alike header') :
    (message kind bodyLength header).length = (message kind bodyLength' header').length := by
  have hslots : SlotsAlike
      ([(0, .number 2 version), (1, .number 1 kind)] ++ numberUnless 0 8 bodyLength 3 ++ [(2, .part 0)])
      ([(0, .number 2 version), (1, .number 1 kind)] ++ numberUnless 0 8 bodyLength' 3 ++
        [(2, .part 0)]) := by
    refine SlotsAlike.append (SlotsAlike.append ?_ (numberUnless_alike hbody)) ?_
    · exact .cons ⟨rfl, .number 2 _ _⟩ (.cons ⟨rfl, .number 1 _ _⟩ .nil)
    · exact .cons ⟨rfl, .part 0⟩ .nil
  have hlength := (Item.table_alike (.cons hheader .nil) hslots).length_encode
  rw [message_eq, message_eq, length_frame, length_frame, filled, filled, List.length_append,
    List.length_append, messageItem, messageItem, hlength]

theorem pairsItem_alike {pairs pairs' : List (Nat × Nat)} (h : pairs.length = pairs'.length) :
    (pairsItem pairs).Alike (pairsItem pairs') := by
  have hpair : ∀ p : Nat × Nat, (Bytes.ofNat 8 p.1 ++ Bytes.ofNat 8 p.2).length = 16 := by
    intro p
    rw [List.length_append, Bytes.length_ofNat, Bytes.length_ofNat]
  refine Item.pairs_alike _ _ ?_
  rw [Bytes.length_flatMap_const hpair, Bytes.length_flatMap_const hpair, h]

/-! ## Batches -/

/-- How many nodes and buffers a column has is a matter of its type. -/
theorem length_part (t : DataType) (whole whole' : Array (Option t.Value))
    (start length start' length' : Nat) :
    (Part.ofRange t whole start length).nodes.length =
        (Part.ofRange t whole' start' length').nodes.length ∧
      (Part.ofRange t whole start length).buffers.length =
        (Part.ofRange t whole' start' length').buffers.length := by
  have hruns : ∀ (width : Nat) (contents : List Bytes), (runs width contents).length = 2 := by
    intro width contents
    rw [runs]
    split <;> rfl
  cases t with
  | text large => simp only [Part.ofRange, Part.ofCells, List.length_cons, hruns, and_self]
  | binary => simp only [Part.ofRange, Part.ofCells, List.length_cons, hruns, and_self]
  | _ => simp only [Part.ofRange, Part.ofCells, List.length_cons, List.length_append, and_self]

theorem length_part_column {c c' : Column} (h : c.type = c'.type) :
    (Part.ofColumn c).nodes.length = (Part.ofColumn c').nodes.length ∧
      (Part.ofColumn c).buffers.length = (Part.ofColumn c').buffers.length := by
  obtain ⟨name, nullable, type, whole, start, length, inside, memory⟩ := c
  obtain ⟨name', nullable', type', whole', start', length', inside', memory'⟩ := c'
  dsimp only at h
  subst h
  exact length_part type whole whole' start length start' length'

/-- Columns of two batches under one schema correspond. -/
theorem columns_of_schema {b b' : Batch} (h : b.schema = b'.schema) :
    List.Forall₂ (fun c c' => c.field = c'.field) b.columns b'.columns := by
  have hfields : List.Forall₂ Eq (b.columns.map Column.field) (b'.columns.map Column.field) := by
    rw [List.forall₂_eq_eq_eq]
    exact h
  rwa [List.forall₂_map_left_iff, List.forall₂_map_right_iff] at hfields

/-- How many nodes and buffers a batch has is a matter of its schema. -/
theorem length_parts {b b' : Batch} (h : b.schema = b'.schema) :
    (nodesOf b).length = (nodesOf b').length ∧ (buffersOf b).length = (buffersOf b').length := by
  have hcolumns := columns_of_schema h
  rw [nodesOf, nodesOf, buffersOf, buffersOf]
  generalize b.columns = columns at hcolumns
  generalize b'.columns = columns' at hcolumns
  induction hcolumns with
  | nil => exact ⟨rfl, rfl⟩
  | cons hfield _ ih =>
      obtain ⟨hnodes, hbuffers⟩ := length_part_column (congrArg Field.type hfield)
      simp only [List.map_cons, List.flatMap_cons, List.length_append, hnodes, hbuffers, ih]
      exact ⟨trivial, trivial⟩

theorem length_extents (buffers : List Bytes) : (extents buffers).length = buffers.length := by
  simp [extents]

theorem batchItem_alike {b b' : Batch} (hschema : b.schema = b'.schema)
    (hrows : b.rows = 0 ↔ b'.rows = 0) : (batchItem b).Alike (batchItem b') := by
  obtain ⟨hnodes, hbuffers⟩ := length_parts hschema
  refine Item.table_alike (.cons (pairsItem_alike ?_) (.cons (pairsItem_alike hnodes) .nil))
    ((numberUnless_alike hrows).append (.cons ⟨rfl, .part 1⟩ (.cons ⟨rfl, .part 0⟩ .nil)))
  rw [length_extents, length_extents, hbuffers]

/-- Every column has a bitmap. -/
theorem validity_mem (t : DataType) (whole : Array (Option t.Value)) (start length : Nat) :
    validity whole start length ∈ (Part.ofRange t whole start length).buffers := by
  cases t <;> exact List.mem_cons_self

/-- How many bytes the cells of a batch take in its stream. -/
def bodyLength (b : Batch) : Nat := (body (buffersOf b)).length

/-- Rows without columns take no bytes, and with columns they take some. -/
theorem bodyLength_eq_zero_iff {b : Batch} (hrows : 0 < b.rows) :
    bodyLength b = 0 ↔ b.columns = [] := by
  constructor
  · intro hzero
    rw [List.eq_nil_iff_forall_not_mem]
    intro c hc
    have hmem : validity c.whole c.start c.length ∈ buffersOf b :=
      List.mem_flatMap.mpr ⟨_, List.mem_map_of_mem hc, validity_mem c.type c.whole _ _⟩
    have hbody := length_le_body hmem
    have hbitmap := bitmapBytes_le_validity c.inside
    have hcells : 0 < c.length := b.aligned c hc ▸ hrows
    rw [bitmapBytes] at hbitmap
    rw [bodyLength] at hzero
    omega
  · intro hcolumns
    rw [bodyLength, buffersOf, hcolumns]
    rfl

/-- The streams of two batches with rows under one schema differ in their lengths by what their
cells take. -/
theorem length_encodeBatch {b b' : Batch} (hschema : b.schema = b'.schema) (hrows : 0 < b.rows)
    (hrows' : 0 < b'.rows) :
    (encodeBatch b).length + bodyLength b' = (encodeBatch b').length + bodyLength b := by
  have hempty : bodyLength b = 0 ↔ bodyLength b' = 0 := by
    rw [bodyLength_eq_zero_iff hrows, bodyLength_eq_zero_iff hrows', ← List.length_eq_zero_iff,
      ← List.length_eq_zero_iff, (columns_of_schema hschema).length_eq]
  have hmessage := length_message batchKind hempty
    (batchItem_alike hschema (iff_of_false (Nat.ne_of_gt hrows) (Nat.ne_of_gt hrows')))
  rw [encodeBatch, encodeBatch, hschema, batchMessage_eq, batchMessage_eq]
  rw [bodyLength, bodyLength] at *
  simp only [List.length_append]
  omega

end Columnar.Wire

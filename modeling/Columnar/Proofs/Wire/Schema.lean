/-
# `Proofs.Wire.Schema` — schemas are read back from messages

Every column of every type has one table, and the reader of declarations
finds in it the name, the type and the permission that were written.  A
vector has one child, so its table is two deep, which is the depth that
`readField_of_laid` asks for.
-/
import Columnar.Proofs.Wire.Reading
import Columnar.Wire.Declaration

namespace Columnar.Wire

open Number

/-! ## Tables that can be laid out -/

theorem isUnit_one : IsUnit 1 := .inl rfl
theorem isUnit_two : IsUnit 2 := .inr (.inl rfl)
theorem isUnit_eight : IsUnit 8 := .inr (.inr (.inr rfl))

theorem numberUnless_fits {parts default width value k : Nat} (hk : k < 16) (hw : IsUnit width)
    (hv : value < 256 ^ width) :
    ∀ s ∈ numberUnless default width value k, s.1 < 16 ∧ s.2.Fits parts := by
  intro s hs
  rw [numberUnless] at hs
  split at hs
  · exact absurd hs List.not_mem_nil
  · exact List.mem_singleton.mp hs ▸ ⟨hk, hw, hv⟩

theorem length_numberUnless_le (default width value k : Nat) :
    (numberUnless default width value k).length ≤ 1 := by
  rw [numberUnless]
  split <;> simp

theorem toNat_lt_256 (b : Bool) : b.toNat < 256 := by cases b <;> decide

/-- The table of a column fits if the parts that describe the type do. -/
theorem column_fits {name : String} {nullable : Bool} {code children type : Nat}
    {description : List Item} (hd : Item.AllFit description) (hcode : code < 256)
    (hchildren : children < description.length + 1) (htype : type < description.length + 1) :
    (column name nullable code description children type).Fits := by
  have hnull := length_numberUnless_le 0 1 nullable.toNat 1
  rw [column, Item.Fits, Item.AllFit]
  refine ⟨⟨by simp [Item.Fits], hd⟩, ⟨?_, ?_⟩⟩
  · simp only [List.length_append, List.length_cons, List.length_nil]
    omega
  · intro s hs
    simp only [List.mem_append, List.mem_cons, List.not_mem_nil, or_false] at hs
    rcases hs with ((rfl | rfl) | hs) | (rfl | rfl)
    · exact ⟨by simp, Nat.succ_pos _⟩
    · exact ⟨by simp, isUnit_one, hcode⟩
    · exact numberUnless_fits (by decide) isUnit_one (toNat_lt_256 nullable) s hs
    · exact ⟨by simp, hchildren⟩
    · exact ⟨by simp, htype⟩

theorem table_fits {slots : List (Nat × Slot)} (h : SlotsFit 0 slots) : (Item.table [] slots).Fits := by
  rw [Item.Fits, Item.AllFit]
  exact ⟨trivial, h⟩

theorem refs_fits (indices : List Nat) : (Item.refs indices).Fits := by simp [Item.Fits]

/-- The table of a type without numbers. -/
theorem slotsFit_nil : SlotsFit 0 [] := ⟨by decide, fun _ h => absurd h List.not_mem_nil⟩

theorem slotsFit_unless {default width value k : Nat} (hk : k < 16) (hw : IsUnit width)
    (hv : value < 256 ^ width) : SlotsFit 0 (numberUnless default width value k) :=
  ⟨Nat.le_trans (length_numberUnless_le ..) (by decide), numberUnless_fits hk hw hv⟩

theorem intSlots_fit (signed : Bool) (w : Width) :
    SlotsFit 0 (numberUnless 0 1 signed.toNat 1 ++ [(0, .number 4 w.bits)]) := by
  have hw : w.bits < 256 ^ 4 := by cases w <;> decide
  refine ⟨?_, fun s hs => ?_⟩
  · have := length_numberUnless_le 0 1 signed.toNat 1
    simp only [List.length_append, List.length_singleton]
    omega
  · rcases List.mem_append.mp hs with hs | hs
    · exact numberUnless_fits (by decide) isUnit_one (toNat_lt_256 signed) s hs
    · exact List.mem_singleton.mp hs ▸ ⟨by simp, isUnit_four, hw⟩

theorem precisionSlots_fit (p : Precision) : SlotsFit 0 (numberUnless 0 2 (precisionCode p) 0) :=
  slotsFit_unless (by decide) isUnit_two (by cases p <;> decide)

theorem dateSlots_fit : SlotsFit 0 [(0, .number 2 0)] :=
  ⟨by decide, fun _ hs => List.mem_singleton.mp hs ▸ ⟨by decide, isUnit_two, by decide⟩⟩

theorem lengthSlots_fit (n : VectorLength) : SlotsFit 0 (numberUnless 0 4 n.val 0) :=
  slotsFit_unless (by decide) isUnit_four (Nat.lt_trans n.isLt (by decide))

theorem precisionParts_fit (p : Precision) : Item.AllFit (precisionParts p) := by
  rw [precisionParts, Item.AllFit, Item.AllFit, Item.AllFit]
  exact ⟨refs_fits _, table_fits (precisionSlots_fit p), trivial⟩

theorem typeCode_lt (t : DataType) : typeCode t < 256 := by
  cases t with
  | text large => cases large <;> decide
  | _ => exact Nat.lt_of_le_of_lt (Nat.le_refl _) (by simp [typeCode])

theorem fieldItem_fits (f : Field) : (fieldItem f).Fits := by
  obtain ⟨name, type, nullable⟩ := f
  have hplain : Item.AllFit [.table [] [], .refs []] := by
    rw [Item.AllFit, Item.AllFit, Item.AllFit]
    exact ⟨table_fits slotsFit_nil, refs_fits _, trivial⟩
  cases type with
  | int signed w =>
      apply column_fits _ (typeCode_lt _) (by simp) (by simp)
      rw [Item.AllFit, Item.AllFit, Item.AllFit]
      exact ⟨refs_fits _, table_fits (intSlots_fit signed w), trivial⟩
  | float p =>
      exact column_fits (precisionParts_fit p) (typeCode_lt _) (by simp [precisionParts])
        (by simp [precisionParts])
  | text large => cases large <;> exact column_fits hplain (typeCode_lt _) (by simp) (by simp)
  | bool => exact column_fits hplain (typeCode_lt _) (by simp) (by simp)
  | date =>
      apply column_fits _ (typeCode_lt _) (by simp) (by simp)
      rw [Item.AllFit, Item.AllFit, Item.AllFit]
      exact ⟨table_fits dateSlots_fit, refs_fits _, trivial⟩
  | binary => exact column_fits hplain (typeCode_lt _) (by simp) (by simp)
  | vector n =>
      apply column_fits _ (typeCode_lt _) (by simp) (by simp)
      rw [Item.AllFit, Item.AllFit, Item.AllFit, Item.AllFit]
      exact ⟨column_fits (precisionParts_fit .single) (by decide) (by decide) (by decide),
        table_fits (lengthSlots_fit n), refs_fits _, trivial⟩

theorem allFit_append {items items' : List Item} (h : Item.AllFit items) (h' : Item.AllFit items') :
    Item.AllFit (items ++ items') := by
  induction items with
  | nil => exact h'
  | cons item items ih =>
      rw [Item.AllFit] at h
      rw [List.cons_append, Item.AllFit]
      exact ⟨h.1, ih h.2⟩

theorem schemaItem_fits (s : Schema) : (schemaItem s).Fits := by
  rw [schemaItem, Item.Fits]
  refine ⟨allFit_append ?_ ?_, ⟨by simp, fun x hx => ?_⟩⟩
  · induction s with
    | nil => rw [List.map_nil, Item.AllFit]; trivial
    | cons f s ih => rw [List.map_cons, Item.AllFit]; exact ⟨fieldItem_fits f, ih⟩
  · rw [Item.AllFit, Item.AllFit]
    exact ⟨refs_fits _, trivial⟩
  · refine List.mem_singleton.mp hx ▸ ⟨by simp, ?_⟩
    simp [Slot.Fits]

/-! ## Tables that are read -/

section Reading

variable {d : Data} {m : Bytes} {widest place : Nat} {siblings : List Nat}

/-- A table without parts gives a type if its slots do. -/
theorem readType_of_laid (h : Holds d m widest) {slots : List (Nat × Slot)} {code : Nat}
    {children : List DeclaredField} {known : DeclaredType} (hf : SlotsFit 0 slots)
    (hl : (Item.table [] slots).Laid m widest siblings place)
    (hread : ∀ t targets, (∀ k, SlotReads d m targets (t.slot? k) (slots.lookup k)) →
      (plainType? code <|> sizedType? d t code <|> nestedType? d t children code) = some known) :
    readType? d code children (m.length - place) = some known := by
  have hf' : SlotsFit ([] : List Item).length slots := hf
  obtain ⟨t, targets, ht, -, hslots⟩ := h.table_of_laid hf' hl
  simp only [readType?, ht, Option.bind_eq_bind, Option.bind_some]
  exact hread t targets hslots

/-- A column is read if its type is read, and the columns inside it. -/
theorem readField_column (h : Holds d m widest) {name : String} {nullable : Bool}
    {code children type depth : Nat} {description : List Item} {inner : List DeclaredField}
    {known : DeclaredType} (hf : (column name nullable code description children type).Fits)
    (hl : (column name nullable code description children type).Laid m widest siblings place)
    (hread : ∀ targets, Item.LaidAll m widest (.text name :: description) [] targets →
      d.refs? (readField? d depth) (m.length - targets.getD children 0) = some inner ∧
        readType? d code inner (m.length - targets.getD type 0) = some known) :
    readField? d (depth + 1) (m.length - place) = some ⟨name, known, nullable, []⟩ := by
  rw [column, Item.Fits] at hf
  rw [column] at hl
  obtain ⟨t, targets, ht, hparts, hslots⟩ := h.table_of_laid hf.2 hl
  obtain ⟨hinner, htype⟩ := hread targets hparts
  obtain ⟨before, hname, -⟩ := hparts.get.2 0 _ rfl
  have hlook1 : ([(0, .part 0), (2, .number 1 code)] ++ numberUnless 0 1 nullable.toNat 1 ++
      [(5, .part children), (3, .part type)] : List (Nat × Slot)).lookup 1 =
        if nullable.toNat = 0 then none else some (.number 1 nullable.toNat) := by
    cases nullable <;> rfl
  have hlook : ∀ k, k ≠ 1 → ([(0, .part 0), (2, .number 1 code)] ++
      numberUnless 0 1 nullable.toNat 1 ++
      [(5, .part children), (3, .part type)] : List (Nat × Slot)).lookup k =
        [(0, .part 0), (2, .number 1 code), (5, .part children), (3, .part type)].lookup k := by
    intro k hk
    cases nullable <;> simp [numberUnless, List.lookup_cons, beq_false_of_ne hk]
  have h1 := hslots 1
  rw [hlook1] at h1
  have hslots' := fun k hk => hlook k hk ▸ hslots k
  have hnullable := numberSlot_unless h1
  have hn : d.needed? t 0 d.text? = some name := needed_some (hslots' 0 (by decide)) (h.text_at hname)
  have hcode : d.numberSlot? t 2 1 0 = some code := numberSlot_some (hslots' 2 (by decide))
  have hdict : d.refSlot? t 4 (readDictionary? d) = some none :=
    refSlot_none (hslots' 4 (by decide))
  have hchildren := refSlot_some (hslots' 5 (by decide)) hinner
  have hvalues := needed_some (hslots' 3 (by decide)) htype
  have hnotes : d.refSlot? t 6 (d.refs? (readNote? d)) = some none :=
    refSlot_none (hslots' 6 (by decide))
  have hbool : (nullable.toNat != 0) = nullable := by cases nullable <;> rfl
  simp only [readField?, readNotes?, ht, hn, hnullable, hcode, hdict, hchildren, hvalues, hnotes,
    Option.bind_eq_bind, Option.bind_some, Option.getD_some, hbool]
  rfl

/-- A column without columns inside it is read if the table of its type is. -/
theorem readField_leaf (h : Holds d m widest) {name : String} {nullable : Bool}
    {code i j depth : Nat} {description : List Item} {slots : List (Nat × Slot)}
    {known : DeclaredType} (hi : description[i]? = some (.refs []))
    (hj : description[j]? = some (.table [] slots)) (hs : SlotsFit 0 slots)
    (hf : (column name nullable code description (i + 1) (j + 1)).Fits)
    (hl : (column name nullable code description (i + 1) (j + 1)).Laid m widest siblings place)
    (hread : ∀ t targets, (∀ k, SlotReads d m targets (t.slot? k) (slots.lookup k)) →
      (plainType? code <|> sizedType? d t code <|> nestedType? d t [] code) = some known) :
    readField? d (depth + 1) (m.length - place) = some ⟨name, known, nullable, []⟩ := by
  apply readField_column h hf hl
  intro targets hparts
  obtain ⟨before, hrefs, -⟩ := hparts.get.2 (i + 1) _ hi
  obtain ⟨before', htype, -⟩ := hparts.get.2 (j + 1) _ hj
  rw [List.length_nil, Nat.zero_add] at hrefs htype
  exact ⟨h.refs_at hrefs _, readType_of_laid h hs htype hread⟩

theorem readField_single (h : Holds d m widest) (name : String) (nullable : Bool) (p : Precision)
    (depth : Nat)
    (hl : (column name nullable (typeCode (.float p)) (precisionParts p) 1 2).Laid m widest
      siblings place) :
    readField? d (depth + 1) (m.length - place) =
      some ⟨name, .known (.float p), nullable, []⟩ := by
  apply readField_leaf h rfl rfl (precisionSlots_fit p)
    (column_fits (precisionParts_fit p) (typeCode_lt _) (by simp [precisionParts])
      (by simp [precisionParts])) hl
  intro t targets hslots
  have h0 := hslots 0
  have hlook : (numberUnless 0 2 (precisionCode p) 0).lookup 0 =
      if precisionCode p = 0 then none else some (.number 2 (precisionCode p)) := by
    cases p <;> rfl
  rw [hlook] at h0
  have hcode : precision? (precisionCode p) = some p := by cases p <;> rfl
  simp only [plainType?, sizedType?, typeCode, numberSlot_unless h0, hcode, Option.bind_eq_bind,
    Option.bind_some]
  rfl

theorem readField_of_laid (h : Holds d m widest) {f : Field} (depth : Nat)
    (hl : (fieldItem f).Laid m widest siblings place) :
    readField? d (depth + 2) (m.length - place) = some f.declared := by
  have hf := fieldItem_fits f
  obtain ⟨name, type, nullable⟩ := f
  cases type with
  | int signed w =>
      apply readField_leaf h rfl rfl (intSlots_fit signed w) hf hl
      intro t targets hslots
      have h0 := hslots 0
      have h1 := hslots 1
      have hlook0 : (numberUnless 0 1 signed.toNat 1 ++ [(0, Slot.number 4 w.bits)]).lookup 0 =
          some (.number 4 w.bits) := by cases signed <;> rfl
      have hlook1 : (numberUnless 0 1 signed.toNat 1 ++ [(0, Slot.number 4 w.bits)]).lookup 1 =
          if signed.toNat = 0 then none else some (.number 1 signed.toNat) := by
        cases signed <;> rfl
      rw [hlook0] at h0
      rw [hlook1] at h1
      have hwidth : width? w.bits = some w := by cases w <;> rfl
      have hsigned : (signed.toNat != 0) = signed := by cases signed <;> rfl
      simp only [typeCode, plainType?, sizedType?, numberSlot_some h0, numberSlot_unless h1,
        hwidth, hsigned, Option.bind_eq_bind, Option.bind_some]
      rfl
  | float p => exact readField_single h name nullable p (depth + 1) hl
  | text large =>
      cases large <;>
        exact readField_leaf h rfl rfl slotsFit_nil hf hl fun _ _ _ => rfl
  | bool => exact readField_leaf h rfl rfl slotsFit_nil hf hl fun _ _ _ => rfl
  | date =>
      apply readField_leaf h rfl rfl dateSlots_fit hf hl
      intro t targets hslots
      have hunit : d.numberSlot? t 0 2 1 = some 0 := numberSlot_some (hslots 0)
      simp only [typeCode, plainType?, sizedType?, hunit, Option.bind_eq_bind, Option.bind_some]
      rfl
  | binary => exact readField_leaf h rfl rfl slotsFit_nil hf hl fun _ _ _ => rfl
  | vector n =>
      apply readField_column h hf hl
      intro targets hparts
      obtain ⟨before, hitem, -⟩ := hparts.get.2 1 _ rfl
      obtain ⟨before', htype, -⟩ := hparts.get.2 2 _ rfl
      obtain ⟨before'', hrefs, hsame⟩ := hparts.get.2 3 _ rfl
      have hread := readField_single h itemName true .single depth hitem
      have hchildren : d.refs? (readField? d (depth + 1)) (m.length - targets.getD 3 0) =
          some [itemField] := by
        refine (h.refs_at hrefs _).trans ?_
        rw [List.mapM_cons, List.mapM_nil, hsame 1 (by decide)]
        rw [List.length_nil, Nat.zero_add] at hread
        rw [hread]
        rfl
      refine ⟨hchildren, readType_of_laid h (lengthSlots_fit n) htype ?_⟩
      · intro t targets hslots
        have h0 := hslots 0
        have hlook : (numberUnless 0 4 n.val 0).lookup 0 =
            if n.val = 0 then none else some (.number 4 n.val) := by
          rw [numberUnless]
          split <;> rfl
        rw [hlook] at h0
        simp only [typeCode, plainType?, sizedType?, nestedType?, numberSlot_unless h0,
          Option.bind_eq_bind, Option.bind_some]
        exact congrArg some (dif_pos ⟨n.isLt, rfl⟩)

theorem readSchema_of_laid (h : Holds d m widest) {s : Schema}
    (hl : (schemaItem s).Laid m widest siblings place) :
    readSchema? d (m.length - place) = some s.declared := by
  have hf := schemaItem_fits s
  rw [schemaItem, Item.Fits] at hf
  rw [schemaItem] at hl
  obtain ⟨t, targets, ht, hparts, hslots⟩ := h.table_of_laid hf.2 hl
  obtain ⟨before, hrefs, hsame⟩ := hparts.get.2 s.length (.refs (List.range s.length)) (by simp)
  rw [List.length_nil, Nat.zero_add] at hrefs hsame
  have hcolumns : d.refs? (readField? d fieldDepth) (m.length - targets.getD s.length 0) =
      some (s.map Field.declared) := by
    rw [h.refs_at hrefs]
    have hrange := mapM_range_some (l := s.map Field.declared)
      (f := fun i => readField? d fieldDepth (m.length - before.getD i 0)) fun i hi => by
        rw [List.length_map] at hi
        have hitem : (s.map fieldItem ++ [.refs (List.range s.length)])[i]? =
            some (fieldItem s[i]) := by
          rw [List.getElem?_append_left (by simpa using hi), List.getElem?_map,
            List.getElem?_eq_getElem hi]
          rfl
        obtain ⟨_, hfield, -⟩ := hparts.get.2 i _ hitem
        rw [List.length_nil, Nat.zero_add] at hfield
        rw [hsame i hi, List.getElem_map]
        exact readField_of_laid h 59 hfield
    rwa [List.length_map] at hrange
  have hversion : d.numberSlot? t 0 2 0 = some 0 := numberSlot_none (hslots 0)
  have hneeded := needed_some (hslots 1) hcolumns
  have hnotes : d.refSlot? t 2 (d.refs? (readNote? d)) = some none := refSlot_none (hslots 2)
  have hfeatures : d.refSlot? t 3 (d.count? 8 8) = some none := refSlot_none (hslots 3)
  simp only [readSchema?, readNotes?, ht, hversion, hneeded, hnotes, hfeatures,
    Option.bind_eq_bind, Option.bind_some]
  rfl

end Reading

end Columnar.Wire

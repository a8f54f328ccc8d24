/-
# `Proofs.Toml.Document` — documents of tables are read as they are laid out

A section is a header and one line for each entry, under plain keys.  Read
behind other sections it adds its table to theirs, with its entries in their
order (`Document.reads_section`).  What a line needs of its value is that it
is read up to the line end, whatever comes behind (`Laid`): that is so of
numbers, of truth values, and of texts in each of their forms.
-/
import Columnar.Proofs.Toml.Scalar
import Columnar.Proofs.Toml.Text
import Columnar.Toml.Document

namespace Columnar.Toml

open Text

/-! ## Blanks -/

section
variable {c : Char} {cs : List Char}

theorem skipSpaces_cons (h : isSpace c = false) (cs : List Char) :
    skipSpaces (c :: cs) = c :: cs :=
  List.dropWhile_cons_of_neg (by rw [h]; exact Bool.false_ne_true)

theorem skipComment_cons (h : c ≠ '#') (cs : List Char) : skipComment (c :: cs) = c :: cs :=
  skipComment.eq_2 _ fun _ heq => h (List.cons.inj heq).1

/-- The character begins a line that is not blank. -/
structure BeginsLine (c : Char) : Prop where
  space : isSpace c = false
  comment : c ≠ '#'
  line : c ≠ '\n'
  back : c ≠ '\r'

theorem skipLines_cons (h : BeginsLine c) (fuel : Nat) : skipLines fuel (c :: cs) = c :: cs := by
  cases fuel with
  | zero => rfl
  | succ fuel =>
      rw [skipLines, skipSpaces_cons h.space, skipComment_cons h.comment,
        lineEnd_none h.line h.back]

end

/-! ## Keys -/

/-- The key is written without quotes. -/
def PlainKey (key : String) : Prop := key.toList ≠ [] ∧ ∀ c ∈ key.toList, isKeyChar c = true

instance (key : String) : Decidable (PlainKey key) :=
  @instDecidableAnd _ _ inferInstance (List.decidableBAll _ _)

theorem ne_of_isKeyChar {c d : Char} (hc : isKeyChar c = true) (hd : isKeyChar d = false) :
    c ≠ d := by
  rintro rfl
  rw [hc] at hd
  cases hd

theorem beginsLine_of_isKeyChar {c : Char} (h : isKeyChar c = true) : BeginsLine c where
  space := by
    rw [isSpace, decide_eq_false (ne_of_isKeyChar h (by decide)),
      decide_eq_false (ne_of_isKeyChar h (by decide))]
    rfl
  comment := ne_of_isKeyChar h (by decide)
  line := ne_of_isKeyChar h (by decide)
  back := ne_of_isKeyChar h (by decide)

section
variable {key : String} {rest : List Char}

theorem PlainKey.head (h : PlainKey key) :
    ∃ c cs, key.toList = c :: cs ∧ isKeyChar c = true := by
  obtain ⟨c, cs, hkey⟩ := List.exists_cons_of_ne_nil h.1
  exact ⟨c, cs, hkey, h.2 c (hkey ▸ List.mem_cons_self)⟩

theorem readPart_plain (h : PlainKey key) (hrest : ∀ c ∈ rest.head?, isKeyChar c = false) :
    readPart? (key.toList ++ rest) = some (key, rest) := by
  have hstop : rest.takeWhile isKeyChar = [] ∧ rest.dropWhile isKeyChar = rest := by
    cases rest with
    | nil => exact ⟨rfl, rfl⟩
    | cons d rest =>
        have hd : ¬ isKeyChar d = true := Bool.eq_false_iff.mp (hrest d rfl)
        exact ⟨List.takeWhile_cons_of_neg hd, List.dropWhile_cons_of_neg hd⟩
  obtain ⟨c, cs, hkey, hc⟩ := h.head
  have hquote : ∀ more, key.toList ++ rest ≠ '"' :: more := by
    intro more heq
    rw [hkey] at heq
    exact ne_of_isKeyChar hc (by decide) (List.cons.inj heq).1
  have hsingle : ∀ more, key.toList ++ rest ≠ '\'' :: more := by
    intro more heq
    rw [hkey] at heq
    exact ne_of_isKeyChar hc (by decide) (List.cons.inj heq).1
  have hempty : key.toList.isEmpty = false := List.isEmpty_eq_false_iff.mpr h.1
  rw [readPart?.eq_3 _ hquote hsingle]
  simp only [List.takeWhile_append_of_pos h.2, List.dropWhile_append_of_pos h.2, hstop,
    List.append_nil, hempty, String.ofList_toList]
  rfl

theorem readKey_plain (h : PlainKey key) (hrest : ∀ c ∈ rest.head?, isKeyChar c = false)
    (hpoint : ∀ more, skipSpaces rest ≠ '.' :: more) (room : Nat) :
    readKey? (room + 1) (key.toList ++ rest) = some ([], key, skipSpaces rest) := by
  obtain ⟨c, cs, hkey, hc⟩ := h.head
  have hskip : skipSpaces (key.toList ++ rest) = key.toList ++ rest := by
    rw [hkey]
    exact skipSpaces_cons (beginsLine_of_isKeyChar hc).space _
  rw [readKey?, hskip, readPart_plain h hrest]
  dsimp only
  split
  · next heq => exact absurd heq (hpoint _)
  · rfl

end

/-! ## Values -/

/-- The characters are read as the value, up to the line end behind them. -/
structure Laid (cs : List Char) (v : Value) : Prop where
  space : ∀ c ∈ cs.head?, isSpace c = false
  read : ∀ rest, readValue? (depthLimit - 1) (cs ++ '\n' :: rest) = some (v, '\n' :: rest)

/-- A value that begins with no bracket and no brace is not made of others. -/
theorem readValue_plain {c : Char} (hbracket : c ≠ '[') (hbrace : c ≠ '{') (cs : List Char) :
    readValue? (depthLimit - 1) (c :: cs) = readPlain? (c :: cs) :=
  readValue?.eq_4 _ _ (fun _ heq => hbracket (List.cons.inj heq).1)
    (fun _ heq => hbrace (List.cons.inj heq).1)

/-- A word is laid out as it is. -/
theorem laid_word {word : List Char} {v : Value} (hne : word ≠ [])
    (hword : ∀ c ∈ word, isWordChar c = true) (h : word? word = some v) : Laid word v := by
  obtain ⟨c, cs, rfl⟩ := List.exists_cons_of_ne_nil hne
  have hc := hword c List.mem_cons_self
  have hother : ∀ {d : Char}, isWordChar d = false → c ≠ d := by
    rintro d hd rfl
    rw [hc] at hd
    cases hd
  constructor
  · rintro d ⟨⟩
    rw [isSpace, decide_eq_false (hother (by decide)), decide_eq_false (hother (by decide))]
    rfl
  · intro rest
    rw [List.cons_append, readValue_plain (hother (by decide)) (hother (by decide)),
      readPlain?.eq_3 _ (fun _ heq => hother (by decide) (List.cons.inj heq).1)
        (fun _ heq => hother (by decide) (List.cons.inj heq).1)]
    exact scalar_line hword h

theorem laid_number {n : Nat} (hn : 0 < n) (hfits : (n : Int) ≤ Number.greatestInt64) :
    Laid (toString n).toList (.int n) := by
  have hne : (toString n).toList ≠ [] := by
    have hdigits : (toString n).toList = Nat.toDigits 10 n := Nat.toList_repr
    rw [hdigits]
    exact Nat.toDigits_ne_nil
  exact laid_word hne (isWordChar_number n) (word_number hn hfits)

theorem laid_truth (b : Bool) : Laid (toString b).toList (.bool b) :=
  laid_word (by cases b <;> decide) (isWordChar_truth b) (word_truth b)

theorem write_head (text : List Char) : ∃ q cs, write text = q :: cs ∧ (q = '"' ∨ q = '\'') := by
  rw [write]
  cases form text with
  | basic => exact ⟨_, _, rfl, .inl rfl⟩
  | literal => exact ⟨_, _, rfl, .inr rfl⟩
  | longBasic => exact ⟨_, _, rfl, .inl rfl⟩
  | longLiteral => exact ⟨_, _, rfl, .inr rfl⟩

theorem laid_text (text : String) : Laid (write text.toList) (.text text) := by
  obtain ⟨q, cs, hwrite, hq⟩ := write_head text.toList
  constructor
  · rw [hwrite]
    rintro d ⟨⟩
    rcases hq with rfl | rfl <;> decide
  · intro rest
    have hread : readText? (write text.toList ++ '\n' :: rest) = some (text.toList, '\n' :: rest) :=
      readText_write text.toList (by rintro d ⟨⟩; decide) (by rintro d ⟨⟩; decide)
    rw [hwrite] at hread ⊢
    rcases hq with rfl | rfl
    · rw [List.cons_append] at hread ⊢
      rw [readValue_plain (by decide) (by decide), readPlain?, hread]
      exact congrArg (fun t => some (Value.text t, _)) String.ofList_toList
    · rw [List.cons_append] at hread ⊢
      rw [readValue_plain (by decide) (by decide), readPlain?, hread]
      exact congrArg (fun t => some (Value.text t, _)) String.ofList_toList

/-! ## Lines -/

section
variable {key : String} {rest : List Char}

theorem endLine_newline (rest : List Char) : endLine? ('\n' :: rest) = some rest := by
  rw [endLine?, skipSpaces_cons (by decide), skipComment_cons (by decide)]
  rfl

/-- A header opens its table. -/
theorem readLine_header (d : Document) (h : PlainKey key) (rest : List Char) :
    d.readLine? ('[' :: (key.toList ++ ']' :: '\n' :: rest)) =
      (d.root.openTable [] key).map fun root => (⟨root, [key]⟩, rest) := by
  obtain ⟨c, cs, hkey, hc⟩ := h.head
  have hsingle : ∀ more, key.toList ++ ']' :: '\n' :: rest ≠ '[' :: more := by
    intro more heq
    rw [hkey] at heq
    exact ne_of_isKeyChar hc (by decide) (List.cons.inj heq).1
  have hbracket : skipSpaces (']' :: '\n' :: rest) = ']' :: '\n' :: rest :=
    skipSpaces_cons (by decide) _
  have hread : readKey? (depthLimit - 1) (key.toList ++ ']' :: '\n' :: rest) =
      some ([], key, ']' :: '\n' :: rest) := by
    rw [← hbracket]
    refine readKey_plain h (by rintro d ⟨⟩; decide) (fun _ heq => ?_) 78
    rw [hbracket] at heq
    exact absurd (List.cons.inj heq).1 (by decide)
  rw [Document.readLine?.eq_2 _ _ hsingle, hread]
  simp only [Option.bind_eq_bind, Option.bind_some, after?, if_true, endLine_newline]
  cases d.root.openTable [] key with
  | none => rfl
  | some root => rfl

/-- A line `key = value` adds the value to the table that was opened last. -/
theorem readLine_entry (d : Document) (h : PlainKey key) {value : List Char} {v : Value}
    (hvalue : Laid value v) (rest : List Char) :
    d.readLine? (key.toList ++ ' ' :: '=' :: ' ' :: (value ++ '\n' :: rest)) =
      (d.root.alter false (Table.addEntry [] key v) d.current).map
        fun root => (⟨root, d.current⟩, rest) := by
  obtain ⟨c, cs, hkey, hc⟩ := h.head
  have hheader : ∀ more,
      key.toList ++ ' ' :: '=' :: ' ' :: (value ++ '\n' :: rest) ≠ '[' :: more := by
    intro more heq
    rw [hkey] at heq
    exact ne_of_isKeyChar hc (by decide) (List.cons.inj heq).1
  have hequals : skipSpaces (' ' :: '=' :: ' ' :: (value ++ '\n' :: rest)) =
      '=' :: ' ' :: (value ++ '\n' :: rest) :=
    skipSpaces_cons (c := '=') (by decide) _
  have hread : readKey? (depthLimit - 1)
      (key.toList ++ ' ' :: '=' :: ' ' :: (value ++ '\n' :: rest)) =
      some ([], key, '=' :: ' ' :: (value ++ '\n' :: rest)) := by
    rw [← hequals]
    refine readKey_plain h (by rintro d ⟨⟩; decide) (fun _ heq => ?_) 78
    rw [hequals] at heq
    exact absurd (List.cons.inj heq).1 (by decide)
  have hspace : skipSpaces (' ' :: (value ++ '\n' :: rest)) = value ++ '\n' :: rest := by
    change skipSpaces (value ++ '\n' :: rest) = _
    cases value with
    | nil => exact skipSpaces_cons (by decide) _
    | cons x value => exact skipSpaces_cons (hvalue.space x rfl) _
  have hline : skipSpaces ('\n' :: rest) = '\n' :: rest := skipSpaces_cons (by decide) _
  rw [Document.readLine?.eq_3 _ _ (fun _ heq => hheader _ heq) (fun _ heq => hheader _ heq),
    readEntry?, hread]
  simp only [Option.bind_eq_bind, Option.bind_some, after?, if_true, hspace, hvalue.read, hline,
    Option.pure_def, endLine_newline]
  cases d.root.alter false (Table.addEntry [] key v) d.current with
  | none => rfl
  | some root => rfl

end

/-! ## Tables -/

section
variable {es done : Entries} {key name : String}

theorem value_append (h : ∀ e ∈ done, e.1 ≠ key) (v : Value) (more : Entries) :
    Entries.value? (done ++ (key, v) :: more) key = some v := by
  have hnone : List.lookup key done = none :=
    List.lookup_eq_none_iff.mpr fun e he => bne_iff_ne.mpr (Ne.symm (h e he))
  rw [Entries.value?, List.lookup_append, hnone, Option.none_or, List.lookup_cons,
    beq_self_eq_true]

theorem value_none (h : ∀ e ∈ es, e.1 ≠ key) : Entries.value? es key = none := by
  rw [Entries.value?, List.lookup_eq_none_iff]
  exact fun e he => bne_iff_ne.mpr (Ne.symm (h e he))

theorem put_append (h : ∀ e ∈ done, e.1 ≠ key) (v w : Value) :
    Entries.put (done ++ [(key, v)]) key w = done ++ [(key, w)] := by
  have hany : (done ++ [(key, v)]).any (fun e => decide (e.1 = key)) = true := by
    rw [List.any_append, List.any_cons, decide_eq_true rfl, Bool.true_or, Bool.or_true]
  have hkept : done.map (fun e => if e.1 = key then (key, w) else e) = done := by
    conv_rhs => rw [← List.map_id done]
    exact List.map_congr_left fun e he => if_neg (h e he)
  rw [Entries.put, if_pos hany, List.map_append, hkept, List.map_singleton, if_pos rfl]

/-- A header with a new name opens a table without entries. -/
theorem openTable_new (h : ∀ e ∈ done, e.1 ≠ name) :
    Table.openTable [] name (.header, done) =
      some (.header, done ++ [(name, .table .header [])]) := by
  rw [Table.openTable, Table.alter]
  dsimp only
  rw [value_none h]

/-- An entry with a new key goes to the end of the table that was opened last. -/
theorem addEntry_last (h : ∀ e ∈ done, e.1 ≠ name) (hkey : ∀ e ∈ es, e.1 ≠ key) (v : Value) :
    Table.alter false (Table.addEntry [] key v) [name]
        (.header, done ++ [(name, .table .header es)]) =
      some (.header, done ++ [(name, .table .header (es ++ [(key, v)]))]) := by
  have hadded : Table.addEntry [] key v (.header, es) = some (.header, es ++ [(key, v)]) := by
    rw [Table.addEntry, Table.alter]
    dsimp only
    rw [value_none hkey]
    rfl
  have hpasses : passes false .header = true := rfl
  rw [Table.alter, value_append h]
  dsimp only
  rw [if_pos hpasses, Table.alter, hadded, Option.map_some, put_append h]

end

/-! ## Documents -/

/-- The lines are read to the end, and leave the document as it is said. -/
def Document.Reads (d : Document) (cs : List Char) (r : Document) : Prop :=
  ∀ fuel, cs.length < fuel → Document.readLines? fuel d cs = some r

section
variable {d d' r : Document} {cs rest : List Char}

theorem Document.reads_end (d : Document) : d.Reads [] d := by
  intro fuel hfuel
  cases fuel with
  | zero => cases hfuel
  | succ fuel => rfl

theorem Document.reads_blank (h : d.Reads cs r) : d.Reads ('\n' :: cs) r := by
  intro fuel hfuel
  cases fuel with
  | zero => cases hfuel
  | succ fuel => exact h (fuel + 1) (Nat.lt_trans (Nat.lt_succ_self _) hfuel)

theorem Document.reads_line {c : Char} (hc : BeginsLine c)
    (hline : d.readLine? (c :: cs) = some (d', rest)) (hless : rest.length < (c :: cs).length)
    (h : d'.Reads rest r) : d.Reads (c :: cs) r := by
  intro fuel hfuel
  cases fuel with
  | zero => cases hfuel
  | succ fuel =>
      rw [Document.readLines?, skipLines_cons hc]
      split
      · next heq => cases heq
      · next heq => exact absurd (List.cons.inj heq).1 hc.comment
      · rw [hline]
        exact h fuel (Nat.lt_of_lt_of_le hless (Nat.le_of_lt_succ hfuel))

end

/-! ## Sections -/

/-- An entry as it is laid out. -/
structure Item where
  key : String
  text : List Char
  value : Value

namespace Item

/-- The line of the entry. -/
def line (i : Item) : List Char := i.key.toList ++ ' ' :: '=' :: ' ' :: (i.text ++ ['\n'])

/-- The entry is read from its line. -/
structure Proper (i : Item) : Prop where
  key : PlainKey i.key
  laid : Laid i.text i.value

def entry (i : Item) : String × Value := (i.key, i.value)

end Item

section
variable {done : Entries} {name : String} {rest : List Char} {r : Document}

/-- The lines of the entries add these to the table that was opened last. -/
theorem Document.reads_items (hname : ∀ e ∈ done, e.1 ≠ name) :
    ∀ {items : List Item} {es : Entries},
    (∀ i ∈ items, i.Proper) → (items.map Item.key).Nodup → (∀ i ∈ items, ∀ e ∈ es, e.1 ≠ i.key) →
    Document.Reads
      ⟨(.header, done ++ [(name, .table .header (es ++ items.map Item.entry))]), [name]⟩ rest r →
    Document.Reads ⟨(.header, done ++ [(name, .table .header es)]), [name]⟩
      (items.flatMap Item.line ++ rest) r := by
  intro items
  induction items with
  | nil =>
      intro es _ _ _ h
      rw [List.map_nil, List.append_nil] at h
      exact h
  | cons i items ih =>
      intro es hproper hkeys hnew h
      obtain ⟨hi, hitems⟩ := List.forall_mem_cons.mp hproper
      obtain ⟨hapart, hkeys⟩ := List.nodup_cons.mp hkeys
      obtain ⟨hfresh, hnew⟩ := List.forall_mem_cons.mp hnew
      have hmore : Document.Reads
          ⟨(.header, done ++ [(name, .table .header (es ++ [i.entry]))]), [name]⟩
          (items.flatMap Item.line ++ rest) r := by
        refine ih hitems hkeys ?_ ?_
        · intro j hj e he
          rcases List.mem_append.mp he with he | he
          · exact hnew j hj e he
          · rw [List.mem_singleton.mp he]
            exact fun heq => hapart (List.mem_map.mpr ⟨j, hj, heq.symm⟩)
        · rw [List.append_assoc]
          exact h
      have htext : (i :: items).flatMap Item.line ++ rest = i.key.toList ++
          ' ' :: '=' :: ' ' :: (i.text ++ '\n' :: (items.flatMap Item.line ++ rest)) := by
        simp only [List.flatMap_cons, Item.line, List.append_assoc, List.cons_append,
          List.nil_append]
      have hline := readLine_entry
        ⟨(.header, done ++ [(name, .table .header es)]), [name]⟩ hi.key hi.laid
        (items.flatMap Item.line ++ rest)
      rw [addEntry_last hname hfresh, Option.map_some] at hline
      obtain ⟨c, cs, hkey, hc⟩ := hi.key.head
      rw [htext]
      rw [hkey, List.cons_append] at hline ⊢
      refine Document.reads_line (beginsLine_of_isKeyChar hc) hline ?_ hmore
      simp only [List.length_cons, List.length_append]
      omega

/-- The header of a section and its lines. -/
def sectionText (name : String) (items : List Item) : List Char :=
  '[' :: (name.toList ++ ']' :: '\n' :: items.flatMap Item.line)

/-- A section adds its table to those of the sections in front of it. -/
theorem Document.reads_section (hplain : PlainKey name) (hname : ∀ e ∈ done, e.1 ≠ name)
    {items : List Item} (hproper : ∀ i ∈ items, i.Proper) (hkeys : (items.map Item.key).Nodup)
    {current : List String}
    (h : Document.Reads ⟨(.header, done ++ [(name, .table .header (items.map Item.entry))]), [name]⟩
      rest r) :
    Document.Reads ⟨(.header, done), current⟩ (sectionText name items ++ rest) r := by
  have hitems : Document.Reads ⟨(.header, done ++ [(name, .table .header [])]), [name]⟩
      (items.flatMap Item.line ++ rest) r :=
    Document.reads_items hname hproper hkeys (fun _ _ _ he => absurd he List.not_mem_nil) h
  have hline := readLine_header ⟨(.header, done), current⟩ hplain
    (items.flatMap Item.line ++ rest)
  rw [openTable_new hname, Option.map_some] at hline
  have htext : sectionText name items ++ rest =
      '[' :: (name.toList ++ ']' :: '\n' :: (items.flatMap Item.line ++ rest)) := by
    simp only [sectionText, List.append_assoc, List.cons_append]
  rw [htext]
  refine Document.reads_line ⟨by decide, by decide, by decide, by decide⟩ hline ?_ hitems
  simp only [List.length_cons, List.length_append]
  omega

/-- A document is read if its lines are, and they do not begin with a byte order mark. -/
theorem Document.read_of_reads {text : String} (hmark : ∀ c ∈ text.toList.head?, c ≠ '\ufeff')
    (h : Document.start.Reads text.toList r) : Document.read? text = some r.root.2 := by
  rw [Document.read?]
  split
  · next heq => exact absurd rfl (hmark '\ufeff' (heq ▸ rfl))
  · rw [h _ (Nat.lt_succ_self _)]
    rfl

end

end Columnar.Toml

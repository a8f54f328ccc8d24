/-
# `Proofs.Folders` — folders are made where nothing is in their way

Along a path of names there is `Room` if what is there already are folders.
Then all folders of the path can be made, and nothing else changes (`Made`).
What keeps a folder from being made is then only that the one above it is
missing, so making the ones above first is enough; this is the induction, and
it stops at the folder that the path starts from.
-/
import Columnar.Proofs.Directory

namespace Columnar.Directory

/-! ## Room -/

/-- A name that an entry can have. -/
def GoodName (name : String) : Prop := Path.IsName name ∧ name.utf8ByteSize ≤ nameLimit

/-- Along the names from a folder on there are no files. -/
structure Room (d : Directory) (start : Place) (names : List String) : Prop where
  base : d.find? start = some .folder
  good : ∀ name ∈ names, GoodName name
  free : ∀ front rest, names = front ++ rest →
    ∀ content, d.find? (start ++ front) ≠ some (.file content)

/-- There are folders all along the names. -/
def Paved (d : Directory) (start : Place) (names : List String) : Prop :=
  ∀ front rest, names = front ++ rest → d.find? (start ++ front) = some .folder

/-- The folders along the names have been made, and nothing else. -/
structure Made (d d' : Directory) (start : Place) (names : List String) : Prop where
  paved : d'.Paved start names
  same : ∀ q, (∀ front rest, names = front ++ rest → q ≠ start ++ front) → d'.find? q = d.find? q

section
variable {d d' : Directory} {start : Place} {name : String} {names above : List String}

theorem step_good (h : GoodName name) (hfolder : d.find? start = some .folder) :
    d.step start name = .ok (start ++ [name]) :=
  (step_name h.1).mpr ⟨hfolder, child_ok_iff.mpr ⟨h.2, rfl⟩⟩

theorem Room.tail (h : d.Room start (name :: names))
    (hfolder : d.find? (start ++ [name]) = some .folder) : d.Room (start ++ [name]) names where
  base := hfolder
  good := (List.forall_mem_cons.mp h.good).2
  free := by
    rintro front rest rfl content
    have := h.free (name :: front) rest rfl content
    rwa [List.append_cons] at this

theorem Room.init (h : d.Room start (above ++ names)) : d.Room start above where
  base := h.base
  good := fun name hname => h.good name (List.mem_append_left names hname)
  free := by
    rintro front rest rfl content
    exact h.free front (rest ++ names) (List.append_assoc front rest names) content

theorem Room.place (h : d.Room start names) :
    d.find? (start ++ names) = none ∨ d.find? (start ++ names) = some .folder := by
  cases hfind : d.find? (start ++ names) with
  | none => exact .inl rfl
  | some e =>
      cases e with
      | file content => exact absurd hfind (h.free names [] (List.append_nil names).symm content)
      | folder => exact .inr rfl

theorem Paved.cons (hstart : d.find? start = some .folder) (h : d.Paved (start ++ [name]) names) :
    d.Paved start (name :: names) := by
  intro front rest hsplit
  cases front with
  | nil => rwa [List.append_nil]
  | cons first front =>
      obtain ⟨rfl, htail⟩ := List.cons.inj hsplit
      rw [List.append_cons]
      exact h front rest htail

theorem paved_nil (h : d.find? start = some .folder) : d.Paved start [] := by
  intro front rest hsplit
  rw [(List.append_eq_nil_iff.mp hsplit.symm).1, List.append_nil]
  exact h

theorem Paved.tail (h : d.Paved start (name :: names)) : d.Paved (start ++ [name]) names := by
  rintro front rest rfl
  rw [← List.append_cons]
  exact h (name :: front) rest rfl

/-- A walk along folders goes as far as the names. -/
theorem walk_paved : ∀ {names : List String} {start : Place}, (∀ name ∈ names, GoodName name) →
    d.Paved start names → d.walk start names = .ok (start ++ names)
  | [], start, _, _ => by rw [walk, List.append_nil]
  | name :: names, start, hgood, hpaved => by
      obtain ⟨hname, hnames⟩ := List.forall_mem_cons.mp hgood
      have hfolder := hpaved [] (name :: names) rfl
      rw [List.append_nil] at hfolder
      rw [walk_cons, step_good hname hfolder, List.append_cons start name names]
      exact walk_paved hnames hpaved.tail

/-- Where there is room, a walk comes through, or something is missing. -/
theorem walk_room : ∀ {names : List String} {start : Place}, d.Room start names →
    (d.walk start names = .ok (start ++ names) ∧
      (d.Paved start names ∨ d.find? (start ++ names) = none)) ∨
    d.walk start names = .error .missing
  | [], start, h => by
      exact .inl ⟨by rw [walk, List.append_nil], .inl (paved_nil h.base)⟩
  | name :: names, start, h => by
      have hname := (List.forall_mem_cons.mp h.good).1
      have hfirst : d.Room start ([name] ++ names) := h
      rw [walk_cons, step_good hname h.base, List.append_cons start name names]
      rcases hfirst.init.place with hnone | hfolder
      · cases names with
        | nil =>
            rw [List.append_nil]
            exact .inl ⟨rfl, .inr hnone⟩
        | cons next names =>
            refine .inr ?_
            change d.walk (start ++ [name]) (next :: names) = _
            rw [walk, hnone]
      · rcases walk_room (h.tail hfolder) with ⟨hwalk, hpaved | hnone⟩ | hmissing
        · exact .inl ⟨hwalk, .inl (hpaved.cons h.base)⟩
        · exact .inl ⟨hwalk, .inr hnone⟩
        · exact .inr hmissing

/-! ## One folder -/

theorem check_ok_iff {p : Path} : check p = .ok () ↔
    ("/".intercalate p.parts).toList.any (· = '\x00') = false ∧
      ("/".intercalate p.parts).utf8ByteSize ≤ pathLimit := by
  rw [check]
  split
  · next hzero =>
    constructor
    · intro h
      cases h
    · rintro ⟨hnone, -⟩
      exact absurd hzero (Bool.eq_false_iff.mp hnone)
  · next hzero =>
    split
    · next hlong =>
      constructor
      · intro h
        cases h
      · rintro ⟨-, hshort⟩
        exact absurd hshort (Nat.not_le_of_lt hlong)
    · next hshort =>
      exact ⟨fun _ => ⟨Bool.eq_false_iff.mpr hzero, Nat.le_of_not_lt hshort⟩, fun _ => rfl⟩

/-- The path of a folder on the way is no longer than the whole. -/
theorem check_above (h : check ⟨start, above ++ names⟩ = .ok ()) :
    check ⟨start, above⟩ = .ok () := by
  by_cases hnone : names = []
  · subst hnone
    rwa [List.append_nil] at h
  · by_cases hempty : above = []
    · subst hempty
      rfl
    · rw [check_ok_iff] at h ⊢
      dsimp only at h ⊢
      rw [String.intercalate_append_of_ne_nil hempty hnone] at h
      obtain ⟨hzero, hshort⟩ := h
      simp only [String.toList_append, List.any_append, Bool.or_eq_false_iff] at hzero
      rw [String.utf8ByteSize_append, String.utf8ByteSize_append] at hshort
      exact ⟨hzero.1.1, by omega⟩

/-- Where the last name of a path goes. -/
theorem spot_eq (hname : Path.IsName name) (hcheck : check ⟨start, above ++ [name]⟩ = .ok ()) :
    d.spot ⟨start, above ++ [name]⟩ = (d.walk start above).bind fun folder =>
      match d.find? folder with
      | none => .error .missing
      | some (.file _) => .error .notFolder
      | some .folder => .ok ⟨folder, name, false⟩ := by
  have hne : name ≠ "" := by
    rintro rfl
    exact nomatch hname.1
  have hdrop : (name :: above.reverse).dropWhile (· = "") = name :: above.reverse := by
    rw [List.dropWhile_cons_of_neg (by simpa using hne)]
  simp only [spot, hcheck, ok_bind, List.reverse_append, List.reverse_singleton,
    List.singleton_append, hdrop, List.reverse_reverse, List.head?_cons, Option.some.injEq, hne,
    decide_false]
  rfl

/-- Folders along all names but the last, and along the last. -/
theorem Paved.concat (h : d.Paved start above)
    (hlast : d.find? (start ++ (above ++ [name])) = some .folder) :
    d.Paved start (above ++ [name]) := by
  intro front rest hsplit
  rcases List.eq_nil_or_concat rest with rfl | ⟨rest, last, rfl⟩
  · rw [List.append_nil] at hsplit
    rwa [← hsplit]
  · rw [List.concat_eq_append, ← List.append_assoc] at hsplit
    exact h front rest (List.append_inj_left' hsplit rfl)

/-- Making the last folder changes nothing along the way. -/
theorem made_put (h : d.Paved start above) :
    d.Made (d.put (start ++ (above ++ [name])) .folder) start (above ++ [name]) := by
  have hne : start ++ (above ++ [name]) ≠ [] := by simp
  constructor
  · refine Paved.concat ?_ (d.find_put .folder hne)
    rintro front rest rfl
    rw [d.find_put_of_ne, h front rest rfl]
    intro heq
    have := congrArg List.length heq
    simp only [List.length_append, List.length_singleton] at this
    omega
  · intro q hq
    exact d.find_put_of_ne _ (hq _ [] (List.append_nil _).symm)

/-- In a folder that a walk leads to, a folder is made unless there is something already. -/
theorem makeFolder_of_walk (hgood : GoodName name) (hcheck : check ⟨start, above ++ [name]⟩ = .ok ())
    (hwalk : d.walk start above = .ok (start ++ above))
    (hfolder : d.find? (start ++ above) = some .folder) :
    d.makeFolder ⟨start, above ++ [name]⟩ =
      (d.find? (start ++ (above ++ [name]))).elim
        (.ok (d.put (start ++ (above ++ [name])) .folder)) fun _ => .error .taken := by
  have hspot := spot_eq (d := d) hgood.1 hcheck
  rw [hwalk] at hspot
  simp only [Except.bind, hfolder] at hspot
  have hchild : child (start ++ above) name = .ok (start ++ (above ++ [name])) := by
    rw [child_ok_iff, ← List.append_assoc]
    exact ⟨hgood.2, rfl⟩
  rw [makeFolder, hspot]
  simp only [ok_bind, named_of_isName hgood.1, hchild]
  cases d.find? (start ++ (above ++ [name])) with
  | none => rfl
  | some e => rfl

/-- Where there is room for a folder, it is made if it is not there, or the one above it is
missing. -/
theorem ensureFolder_room (h : d.Room start (above ++ [name]))
    (hcheck : check ⟨start, above ++ [name]⟩ = .ok ()) :
    (d.ensureFolder ⟨start, above ++ [name]⟩ = .error .missing ∧ ¬ d.Paved start above) ∨
      ∃ d', d.ensureFolder ⟨start, above ++ [name]⟩ = .ok d' ∧
        d.Made d' start (above ++ [name]) := by
  have hgood : GoodName name := h.good name (List.mem_append_right above List.mem_cons_self)
  have hspot := spot_eq (d := d) hgood.1 hcheck
  have hmissing : d.spot ⟨start, above ++ [name]⟩ = .error .missing →
      d.ensureFolder ⟨start, above ++ [name]⟩ = .error .missing := by
    intro hspot
    rw [ensureFolder, makeFolder, hspot]
    rfl
  rcases walk_room h.init with ⟨hwalk, hpaved | hnone⟩ | hnowhere
  · have hfolder := hpaved above [] (List.append_nil above).symm
    have hmake := makeFolder_of_walk hgood hcheck hwalk hfolder
    refine .inr ?_
    rcases h.place with hnone | hthere
    · rw [hnone, Option.elim_none] at hmake
      exact ⟨_, by rw [ensureFolder, hmake], made_put hpaved⟩
    · rw [hthere, Option.elim_some] at hmake
      have hall : d.Paved start (above ++ [name]) := hpaved.concat hthere
      have hfound : d.hasFolder ⟨start, above ++ [name]⟩ = true := by
        simp only [hasFolder, entry, hcheck, ok_bind, walk_paved h.good hall, hthere]
      refine ⟨d, ?_, ⟨hall, fun _ _ => rfl⟩⟩
      rw [ensureFolder, hmake]
      exact if_pos hfound
  · rw [hwalk] at hspot
    simp only [Except.bind, hnone] at hspot
    refine .inl ⟨hmissing hspot, fun hpaved => ?_⟩
    rw [hpaved above [] (List.append_nil above).symm] at hnone
    cases hnone
  · rw [hnowhere] at hspot
    refine .inl ⟨hmissing hspot, fun hpaved => ?_⟩
    rw [walk_paved h.init.good hpaved] at hnowhere
    cases hnowhere

/-! ## Folders on the way -/

theorem Made.trans {d'' : Directory} (h : d.Made d' start above)
    (h' : d'.Made d'' start (above ++ names)) : d.Made d'' start (above ++ names) where
  paved := h'.paved
  same := by
    intro q hq
    rw [h'.same q hq]
    refine h.same q fun front rest hsplit => hq front (rest ++ names) ?_
    rw [hsplit, List.append_assoc]

/-- There is still room when folders have been made. -/
theorem Made.room (h : d.Made d' start above) (hroom : d.Room start (above ++ names)) :
    d'.Room start (above ++ names) where
  base := by
    have := h.paved [] above rfl
    rwa [List.append_nil] at this
  good := hroom.good
  free := by
    intro front rest hsplit content
    by_cases hon : ∃ front' rest', above = front' ++ rest' ∧ start ++ front = start ++ front'
    · obtain ⟨front', rest', habove, heq⟩ := hon
      rw [heq, h.paved front' rest' habove]
      exact nofun
    · rw [h.same (start ++ front) fun front' rest' habove heq => hon ⟨front', rest', habove, heq⟩]
      exact hroom.free front rest hsplit content

theorem above_concat (hname : Path.IsName name) :
    Path.above? ⟨start, above ++ [name]⟩ = if above = [] then none else some ⟨start, above⟩ := by
  have htrimmed : Path.trimmed ⟨start, above ++ [name]⟩ = name :: above.reverse := by
    rw [Path.trimmed, List.reverse_append, List.reverse_singleton, List.singleton_append,
      List.dropWhile_cons_of_neg (by rw [hname.1]; exact Bool.false_ne_true)]
  rw [Path.above?, htrimmed]
  simp only [List.isEmpty_reverse, List.isEmpty_iff, List.reverse_reverse]

/-- Where there is room, all folders of a path are made, the upper ones first. -/
theorem makeFoldersUpTo_room (depth : Nat) :
    ∀ {d : Directory} {above : List String} {name : String},
    above.length ≤ depth → d.Room start (above ++ [name]) →
    check ⟨start, above ++ [name]⟩ = .ok () →
    ∃ d', d.makeFoldersUpTo depth ⟨start, above ++ [name]⟩ = .ok d' ∧
      d.Made d' start (above ++ [name]) := by
  induction depth with
  | zero =>
      intro d above name hdepth h hcheck
      have hnone : above = [] := List.length_eq_zero_iff.mp (Nat.le_zero.mp hdepth)
      subst hnone
      rcases ensureFolder_room h hcheck with ⟨-, hpaved⟩ | hmade
      · exact absurd (paved_nil h.base) hpaved
      · exact hmade
  | succ depth ih =>
      intro d above name hdepth h hcheck
      have hname : GoodName name := h.good name (List.mem_append_right above List.mem_cons_self)
      rcases ensureFolder_room h hcheck with ⟨hmissing, hpaved⟩ | ⟨d', hmake, hmade⟩
      · rcases List.eq_nil_or_concat above with rfl | ⟨upper, last, rfl⟩
        · exact absurd (paved_nil h.base) hpaved
        · rw [List.concat_eq_append] at *
          have hshort : upper.length ≤ depth := by
            rw [List.length_append, List.length_singleton] at hdepth
            exact Nat.le_of_succ_le_succ hdepth
          have habove : Path.above? ⟨start, upper ++ [last] ++ [name]⟩ =
              some ⟨start, upper ++ [last]⟩ := by
            rw [above_concat hname.1, if_neg (by simp)]
          obtain ⟨d₁, hupper, hmade⟩ := ih hshort h.init (check_above hcheck)
          rcases ensureFolder_room (hmade.room h) hcheck with ⟨-, hpaved⟩ | ⟨d₂, hlast, hmade'⟩
          · exact absurd hmade.paved hpaved
          · refine ⟨d₂, ?_, hmade.trans hmade'⟩
            rw [makeFoldersUpTo, hmissing, habove]
            dsimp only
            rw [hupper]
            exact hlast
      · refine ⟨d', ?_, hmade⟩
        rw [makeFoldersUpTo, hmake]

/-! ## Room for a file -/

/-- A file can be put under the path: it is made of names, files are not on the way, and the last
name is not that of a folder. -/
structure Writable (d : Directory) (p : Path) : Prop where
  named : p.parts ≠ []
  good : ∀ name ∈ p.parts, GoodName name
  check : check p = .ok ()
  base : d.find? p.start = some .folder
  way : ∀ front rest, p.parts = front ++ rest → rest ≠ [] →
    ∀ content, d.find? (p.start ++ front) ≠ some (.file content)
  free : d.find? (p.start ++ p.parts) ≠ some .folder

/-- Makes the folders that a file under the path needs. -/
def makeAbove (d : Directory) (p : Path) : Except FileError Directory :=
  match p.above? with
  | some folder => d.makeFolders folder
  | none => .ok d

/-- With the folders above it the path has a spot for a file. -/
theorem Writable.spot {p : Path} (h : d.Writable p) :
    ∃ d₁, d.makeAbove p = .ok d₁ ∧ d₁.FileSpot p (p.start ++ p.parts) := by
  obtain ⟨start, parts⟩ := p
  obtain ⟨hnamed, hgood, hcheck, hbase, hway, hfree⟩ := h
  rcases List.eq_nil_or_concat parts with rfl | ⟨above, name, rfl⟩
  · exact absurd rfl hnamed
  · rw [List.concat_eq_append] at *
    have hname : GoodName name := hgood name (List.mem_append_right above List.mem_cons_self)
    have hroom : d.Room start above := by
      refine ⟨hbase, fun n hn => hgood n (List.mem_append_left _ hn), ?_⟩
      rintro front rest rfl
      exact hway front (rest ++ [name]) (List.append_assoc front rest [name])
        (List.append_ne_nil_of_right_ne_nil rest (List.cons_ne_nil name []))
    have hspot : ∀ {d₁ : Directory}, d.Made d₁ start above →
        d₁.FileSpot ⟨start, above ++ [name]⟩ (start ++ (above ++ [name])) := by
      intro d₁ hmade
      have hfolder := hmade.paved above [] (List.append_nil above).symm
      refine (fileSpot_concat hname.1).mpr ⟨hcheck, start ++ above,
        walk_paved hroom.good hmade.paved, hfolder, ?_, ?_⟩
      · rw [child_ok_iff, ← List.append_assoc]
        exact ⟨hname.2, rfl⟩
      · rw [hmade.same]
        · exact hfree
        · rintro front rest rfl heq
          have := congrArg List.length heq
          simp only [List.length_append, List.length_singleton] at this
          omega
    rw [makeAbove, above_concat hname.1]
    rcases List.eq_nil_or_concat above with rfl | ⟨upper, last, rfl⟩
    · exact ⟨d, rfl, hspot ⟨paved_nil hbase, fun _ _ => rfl⟩⟩
    · rw [List.concat_eq_append] at *
      obtain ⟨d₁, hmake, hmade⟩ := makeFoldersUpTo_room (upper ++ [last]).length
        (by rw [List.length_append]; exact Nat.le_add_right _ _) hroom (check_above hcheck)
      refine ⟨d₁, ?_, hspot hmade⟩
      rw [if_neg (by simp)]
      exact hmake

end

end Columnar.Directory

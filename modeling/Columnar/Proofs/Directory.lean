/-
# `Proofs.Directory` — what an operation on files leaves behind

A walk passes through folders only, so it comes out at the same place in any
directory that has kept the folders (`FoldersKept`).  Writing and moving a
file change the entries of one or two places that are no folders.  From these
two facts it follows that a file that was written can be written again, moved
and read under the same paths.
-/
import Columnar.Directory
import Columnar.Proofs.Sequence

namespace Columnar

/-- The path ends in a name. -/
def Path.Named (p : Path) : Prop := ∃ above name, p.parts = above ++ [name] ∧ Path.IsName name

namespace Directory

/-! ## Entries -/

theorem lookup_filter_ne {p q : Place} (h : q ≠ p) : ∀ entries : List (Place × Entry),
    (entries.filter (·.1 != p)).lookup q = entries.lookup q
  | [] => rfl
  | (r, e) :: rest => by
      have ih := lookup_filter_ne h rest
      by_cases hr : r = p
      · subst hr
        rw [List.filter_cons_of_neg (by simp), ih, List.lookup_cons, beq_false_of_ne h]
      · rw [List.filter_cons_of_pos (by simpa using hr), List.lookup_cons, List.lookup_cons, ih]

theorem find_erase (d : Directory) {p : Place} (h : p ≠ []) : (d.erase p).find? p = none := by
  rw [find?, if_neg h, erase]
  induction d.entries with
  | nil => rfl
  | cons entry rest ih =>
      obtain ⟨q, e⟩ := entry
      by_cases hq : q = p
      · rwa [List.filter_cons_of_neg (by simpa using hq)]
      · rw [List.filter_cons_of_pos (by simpa using hq), List.lookup_cons,
          beq_false_of_ne (Ne.symm hq)]
        exact ih

theorem find_erase_of_ne (d : Directory) {p q : Place} (h : q ≠ p) :
    (d.erase p).find? q = d.find? q := by
  simp only [find?, erase, lookup_filter_ne h]

theorem find_put_of_ne (d : Directory) {p q : Place} (e : Entry) (h : q ≠ p) :
    (d.put p e).find? q = d.find? q := by
  rw [← d.find_erase_of_ne h]
  simp only [find?, put, List.lookup_cons, beq_false_of_ne h]

theorem find_put (d : Directory) {p : Place} (e : Entry) (h : p ≠ []) :
    (d.put p e).find? p = some e := by
  simp only [find?, put, if_neg h, List.lookup_cons, beq_self_eq_true]

/-! ## Folders -/

/-- What was a folder still is one. -/
def FoldersKept (d d' : Directory) : Prop := ∀ p, d.find? p = some .folder → d'.find? p = some .folder

theorem FoldersKept.trans {d d' d'' : Directory} (h : d.FoldersKept d') (h' : d'.FoldersKept d'') :
    d.FoldersKept d'' := fun p hp => h' p (h p hp)

/-- Folders are kept if all entries but one are, and that one was no folder. -/
theorem foldersKept_of_same {d d' : Directory} {p : Place} (h : d.find? p ≠ some .folder)
    (hsame : ∀ q, q ≠ p → d'.find? q = d.find? q) : d.FoldersKept d' := by
  intro q hq
  have hne : q ≠ p := by
    rintro rfl
    exact h hq
  rw [hsame q hne, hq]

theorem foldersKept_put (d : Directory) {p : Place} (e : Entry) (h : d.find? p ≠ some .folder) :
    d.FoldersKept (d.put p e) := foldersKept_of_same h fun _ hq => d.find_put_of_ne e hq

theorem foldersKept_erase (d : Directory) {p : Place} (h : d.find? p ≠ some .folder) :
    d.FoldersKept (d.erase p) := foldersKept_of_same h fun _ hq => d.find_erase_of_ne hq

/-! ## Walks -/

/-- Where one part of a path leads. -/
def step (d : Directory) (place : Place) (part : String) : Except FileError Place :=
  match d.find? place with
  | none => .error .missing
  | some (.file _) => .error .notFolder
  | some .folder =>
    if Path.isIdle part then .ok place
    else if part = ".." then .ok place.dropLast
    else child place part

theorem walk_cons (d : Directory) (place : Place) (part : String) (rest : List String) :
    d.walk place (part :: rest) = (d.step place part).bind fun next => d.walk next rest := by
  rw [walk, step]
  cases d.find? place with
  | none => rfl
  | some e =>
      cases e with
      | file c => rfl
      | folder =>
          dsimp only
          split
          · rfl
          · split
            · rfl
            · cases child place part <;> rfl

/-- A step is made in a folder. -/
theorem step_of_kept {d d' : Directory} (h : d.FoldersKept d') {place r : Place} {part : String}
    (hs : d.step place part = .ok r) : d'.step place part = .ok r := by
  rw [step] at hs
  cases hf : d.find? place with
  | none => rw [hf] at hs; cases hs
  | some e =>
      cases e with
      | file c => rw [hf] at hs; cases hs
      | folder =>
          rw [hf] at hs
          rw [step, h place hf]
          exact hs

/-- A walk comes out at the same place as long as the folders are kept. -/
theorem walk_of_kept {d d' : Directory} (h : d.FoldersKept d') : ∀ {parts : List String}
    {place r : Place}, d.walk place parts = .ok r → d'.walk place parts = .ok r
  | [], _, _, hw => hw
  | part :: rest, place, r, hw => by
      rw [walk_cons] at hw ⊢
      cases hs : d.step place part with
      | error e => rw [hs] at hw; cases hw
      | ok next =>
          rw [hs] at hw
          rw [step_of_kept h hs]
          exact walk_of_kept h hw

/-- A walk goes on where its first part has led. -/
theorem walk_append (d : Directory) : ∀ (above : List String) {rest : List String}
    {place folder : Place}, d.walk place above = .ok folder →
      d.walk place (above ++ rest) = d.walk folder rest
  | [], _, _, _, hw => by
      cases hw
      rfl
  | part :: above, rest, place, folder, hw => by
      rw [walk_cons] at hw
      rw [List.cons_append, walk_cons]
      cases hs : d.step place part with
      | error e => rw [hs] at hw; cases hw
      | ok next =>
          rw [hs] at hw
          exact walk_append d above hw

/-- A walk that fails does so before it could go on. -/
theorem walk_append_error (d : Directory) : ∀ (above : List String) {rest : List String}
    {place : Place} {e : FileError}, d.walk place above = .error e →
      d.walk place (above ++ rest) = .error e
  | part :: above, rest, place, e, hw => by
      rw [walk_cons] at hw
      rw [List.cons_append, walk_cons]
      cases hs : d.step place part with
      | error e' =>
          rw [hs] at hw
          exact hw
      | ok next =>
          rw [hs] at hw
          exact walk_append_error d above hw

/-! ## Spots -/

theorem spot_of_kept {d d' : Directory} (h : d.FoldersKept d') {p : Path} {s : Spot}
    (hs : d.spot p = .ok s) : d'.spot p = .ok s := by
  simp only [spot, bind_ok_iff] at hs ⊢
  obtain ⟨u, hcheck, folder, hwalk, hs⟩ := hs
  refine ⟨u, hcheck, folder, walk_of_kept h hwalk, ?_⟩
  cases hf : d.find? folder with
  | none => rw [hf] at hs; cases hs
  | some e =>
      cases e with
      | file c => rw [hf] at hs; cases hs
      | folder =>
          rw [hf] at hs
          rw [h folder hf]
          exact hs

/-- A spot with a name and no slash behind it is what the last part of the path names. -/
theorem spot_parts {d : Directory} {p : Path} {s : Spot} (hs : d.spot p = .ok s)
    (hnamed : s.named = true) (hslash : s.slash = false) :
    check p = .ok () ∧ d.find? s.folder = some .folder ∧ s.last ≠ "" ∧ s.last ≠ "." ∧
      s.last ≠ ".." ∧ ∃ above, p.parts = above ++ [s.last] ∧ d.walk p.start above = .ok s.folder := by
  simp only [spot, bind_ok_iff] at hs
  obtain ⟨⟨⟩, hcheck, folder, hwalk, hs⟩ := hs
  cases hf : d.find? folder with
  | none => rw [hf] at hs; cases hs
  | some e =>
      cases e with
      | file c => rw [hf] at hs; cases hs
      | folder =>
          rw [hf] at hs
          cases hs
          cases hreversed : p.parts.reverse with
          | nil => simp [hreversed, Spot.named] at hnamed
          | cons last above =>
              have hlast : last ≠ "" := by simpa [hreversed] using hslash
              have hdrop : (last :: above).dropWhile (· = "") = last :: above := by
                rw [List.dropWhile_cons_of_neg (by simpa using hlast)]
              rw [hreversed] at hwalk hnamed
              simp only [hdrop] at hwalk hnamed
              simp only [Spot.named, Bool.and_eq_true, bne_iff_ne] at hnamed
              have hparts : p.parts = above.reverse ++ [last] := by
                rw [← List.reverse_reverse p.parts, hreversed, List.reverse_cons]
              simp only [hdrop]
              exact ⟨hcheck, hf, hlast, hnamed.1, hnamed.2, above.reverse, hparts, hwalk⟩

/-- What is at a spot is found under its path. -/
theorem walk_spot {d : Directory} {p : Path} {s : Spot} {place : Place} (hs : d.spot p = .ok s)
    (hnamed : s.named = true) (hslash : s.slash = false) (hplace : child s.folder s.last = .ok place) :
    check p = .ok () ∧ d.walk p.start p.parts = .ok place := by
  obtain ⟨hcheck, hfolder, hempty, hdot, hup, above, hparts, hwalk⟩ := spot_parts hs hnamed hslash
  refine ⟨hcheck, ?_⟩
  rw [hparts, walk_append d above hwalk, walk_cons, step, hfolder]
  have hidle : Path.isIdle s.last = false := by simp [Path.isIdle, hempty, hdot]
  simp only [hidle, hup, hplace]
  rfl

/-! ## Files -/

theorem child_ne_nil {folder place : Place} {name : String} (h : child folder name = .ok place) :
    place ≠ [] := by
  rw [child] at h
  split at h
  · cases h
  · cases h
    exact List.append_ne_nil_of_right_ne_nil folder (List.cons_ne_nil name [])

/-- Where a file of a path lies or would lie: a place under a name, no slash behind it, and no
folder there. -/
structure FileSpot (d : Directory) (p : Path) (place : Place) : Prop where
  spot : ∃ s, d.spot p = .ok s ∧ s.named = true ∧ s.slash = false ∧
    child s.folder s.last = .ok place
  free : d.find? place ≠ some .folder

theorem FileSpot.of_kept {d d' : Directory} {p : Path} {place : Place} (h : d.FoldersKept d')
    (hs : d.FileSpot p place) (hfree : d'.find? place ≠ some .folder) : d'.FileSpot p place := by
  obtain ⟨⟨s, hspot, hrest⟩, -⟩ := hs
  exact ⟨⟨s, spot_of_kept h hspot, hrest⟩, hfree⟩

/-- What differs at one place only, and has no folder there, has the same spots. -/
theorem fileSpot_iff_of_same {d d' : Directory} {p : Path} {place spot : Place}
    (hfree : d.find? place ≠ some .folder) (hfree' : d'.find? place ≠ some .folder)
    (hsame : ∀ q, q ≠ place → d'.find? q = d.find? q) : d'.FileSpot p spot ↔ d.FileSpot p spot := by
  have hsame' : ∀ q, q ≠ place → d.find? q = d'.find? q := fun q hq => (hsame q hq).symm
  by_cases hspot : spot = place
  · subst hspot
    exact ⟨fun h => h.of_kept (foldersKept_of_same hfree' hsame') hfree,
      fun h => h.of_kept (foldersKept_of_same hfree hsame) hfree'⟩
  · constructor
    · intro h
      exact h.of_kept (foldersKept_of_same hfree' hsame') (hsame spot hspot ▸ h.free)
    · intro h
      exact h.of_kept (foldersKept_of_same hfree hsame) ((hsame spot hspot).symm ▸ h.free)

theorem FileSpot.ne_nil {d : Directory} {p : Path} {place : Place} (hs : d.FileSpot p place) :
    place ≠ [] := by
  obtain ⟨⟨s, -, -, -, hplace⟩, -⟩ := hs
  exact child_ne_nil hplace

/-- There is only one spot for a path. -/
theorem FileSpot.unique {d : Directory} {p : Path} {place place' : Place}
    (hs : d.FileSpot p place) (hs' : d.FileSpot p place') : place = place' := by
  obtain ⟨⟨s, hspot, -, -, hplace⟩, -⟩ := hs
  obtain ⟨⟨s', hspot', -, -, hplace'⟩, -⟩ := hs'
  have hsame : s = s' := Except.ok.inj (hspot.symm.trans hspot')
  subst hsame
  exact Except.ok.inj (hplace.symm.trans hplace')

theorem write_ok_iff {d d' : Directory} {p : Path} {content : Bytes} :
    d.write p content = .ok d' ↔ ∃ place, d.FileSpot p place ∧ d' = d.put place (.file content) := by
  constructor
  · intro h
    simp only [write, bind_ok_iff] at h
    obtain ⟨s, hs, h⟩ := h
    split at h
    · cases h
    · next hname =>
      simp only [Bool.or_eq_true, Bool.not_eq_true', not_or, Bool.not_eq_true,
        Bool.not_eq_false] at hname
      simp only [bind_ok_iff] at h
      obtain ⟨place, hplace, h⟩ := h
      split at h
      · cases h
      · next hfree =>
        cases h
        exact ⟨place, ⟨⟨s, hs, hname.2, hname.1, hplace⟩, hfree⟩, rfl⟩
  · rintro ⟨place, ⟨⟨s, hs, hnamed, hslash, hplace⟩, hfree⟩, rfl⟩
    simp only [write, bind_ok_iff]
    refine ⟨s, hs, ?_⟩
    rw [if_neg (by simp [hnamed, hslash])]
    refine bind_ok_iff.mpr ⟨place, hplace, ?_⟩
    split
    · next hfolder => exact absurd hfolder hfree
    · rfl

/-- What was written can be written again. -/
theorem write_put {d : Directory} {p : Path} {place : Place} (hs : d.FileSpot p place)
    (content content' : Bytes) :
    (d.put place (.file content)).write p content' =
      .ok ((d.put place (.file content)).put place (.file content')) := by
  have hfind := d.find_put (.file content) hs.ne_nil
  refine write_ok_iff.mpr ⟨place, hs.of_kept (d.foldersKept_put _ hs.free) ?_, rfl⟩
  rw [hfind]
  exact fun h => (nomatch h)

theorem rename_ok {d d' : Directory} {source target : Path}
    (h : d.rename source target = .ok d') : ∃ old new content, d.FileSpot source old ∧
      d.FileSpot target new ∧ d.find? old = some (.file content) ∧
      d' = (d.erase old).put new (.file content) := by
  simp only [rename, bind_ok_iff] at h
  obtain ⟨s, hs, t, ht, h⟩ := h
  split at h
  · cases h
  · next hnames =>
    simp only [Bool.or_eq_true, Bool.not_eq_true', not_or, Bool.not_eq_false] at hnames
    simp only [bind_ok_iff] at h
    obtain ⟨old, hold, h⟩ := h
    split at h
    · cases h
    · cases h
    · next content hfile =>
      simp only [bind_ok_iff] at h
      obtain ⟨_, hcontent, new, hnew, h⟩ := h
      cases hcontent
      split at h
      · cases h
      · next hslashes =>
        simp only [Bool.or_eq_true, not_or, Bool.not_eq_true] at hslashes
        split at h
        · cases h
        · next hfree =>
          cases h
          refine ⟨old, new, content, ⟨⟨s, hs, hnames.1, hslashes.1, hold⟩, ?_⟩,
            ⟨⟨t, ht, hnames.2, hslashes.2, hnew⟩, hfree⟩, hfile, rfl⟩
          rw [hfile]
          exact fun h => (nomatch h)

/-- A file is moved if it has a spot to go to. -/
theorem rename_of_spots {d : Directory} {source target : Path} {old new : Place} {content : Bytes}
    (hs : d.FileSpot source old) (ht : d.FileSpot target new)
    (hfile : d.find? old = some (.file content)) :
    d.rename source target = .ok ((d.erase old).put new (.file content)) := by
  obtain ⟨⟨s, hs, hsnamed, hsslash, hold⟩, -⟩ := hs
  obtain ⟨⟨t, ht, htnamed, htslash, hnew⟩, hfree⟩ := ht
  simp only [rename, bind_ok_iff]
  refine ⟨s, hs, t, ht, ?_⟩
  rw [if_neg (by simp [hsnamed, htnamed])]
  refine bind_ok_iff.mpr ⟨old, hold, ?_⟩
  rw [hfile]
  refine bind_ok_iff.mpr ⟨content, rfl, bind_ok_iff.mpr ⟨new, hnew, ?_⟩⟩
  rw [if_neg (by simp [hsslash, htslash])]
  split
  · next hfolder => exact absurd hfolder hfree
  · rfl

/-- What is at the spot of a path is what the path leads to. -/
theorem entry_of_spot {d : Directory} {p : Path} {place : Place} (hs : d.FileSpot p place) :
    d.entry p = (d.find? place).elim (.error .missing) .ok := by
  obtain ⟨⟨s, hspot, hnamed, hslash, hplace⟩, -⟩ := hs
  obtain ⟨hcheck, hwalk⟩ := walk_spot hspot hnamed hslash hplace
  simp only [entry, hcheck, hwalk, ok_bind]
  cases d.find? place with
  | none => rfl
  | some e => rfl

/-- A file at the spot of a path is read under the path. -/
theorem read_of_spot {d : Directory} {p : Path} {place : Place} (hs : d.FileSpot p place)
    {content : Bytes} (hfile : d.find? place = some (.file content)) : d.read p = .ok content := by
  have hentry := entry_of_spot hs
  rw [hfile] at hentry
  simp only [read, bind_ok_iff]
  exact ⟨_, hentry, rfl⟩

/-- A file that was moved is read under its new path. -/
theorem read_of_rename {d d' : Directory} {source target : Path} {old : Place} {content : Bytes}
    (h : d.rename source target = .ok d') (hs : d.FileSpot source old)
    (hfile : d.find? old = some (.file content)) : d'.read target = .ok content := by
  obtain ⟨old', new, content', hs', ht, hfile', rfl⟩ := rename_ok h
  have hsame := hs.unique hs'
  subst hsame
  rw [hfile, Option.some.injEq, Entry.file.injEq] at hfile'
  subst hfile'
  have herase := d.foldersKept_erase hs.free
  have hfree : (d.erase old).find? new ≠ some .folder := by
    by_cases hne : new = old
    · subst hne
      rw [d.find_erase hs.ne_nil]
      exact fun h => (nomatch h)
    · rw [d.find_erase_of_ne hne]
      exact ht.free
  have hkept := herase.trans ((d.erase old).foldersKept_put (.file content) hfree)
  have hfind := (d.erase old).find_put (.file content) ht.ne_nil
  refine read_of_spot (ht.of_kept hkept ?_) hfind
  rw [hfind]
  exact fun h => (nomatch h)

/-! ## Names in a folder -/

section
variable {d d' : Directory} {folder place : Place} {name : String}

theorem child_ok_iff :
    child folder name = .ok place ↔ name.utf8ByteSize ≤ nameLimit ∧ place = folder ++ [name] := by
  rw [child]
  split
  · next hlong =>
    constructor
    · intro h
      cases h
    · rintro ⟨h, -⟩
      exact absurd h (Nat.not_le_of_lt hlong)
  · next hshort =>
    constructor
    · intro h
      cases h
      exact ⟨Nat.le_of_not_lt hshort, rfl⟩
    · rintro ⟨-, rfl⟩
      rfl

theorem step_name (hname : Path.IsName name) :
    d.step folder name = .ok place ↔ d.find? folder = some .folder ∧ child folder name = .ok place := by
  obtain ⟨hidle, hup⟩ := hname
  rw [step]
  cases d.find? folder with
  | none => exact ⟨fun h => (nomatch h), fun h => (nomatch h.1)⟩
  | some e =>
      cases e with
      | file c => exact ⟨fun h => (nomatch h), fun h => (nomatch h.1)⟩
      | folder =>
          simp only [hidle, hup, Bool.false_eq_true, if_false, true_and]

/-- The spot of a path that ends in a name is in the folder that leads there. -/
theorem spot_concat (hname : Path.IsName name) {start : Place} {above : List String} {s : Spot} :
    d.spot ⟨start, above ++ [name]⟩ = .ok s ↔ check ⟨start, above ++ [name]⟩ = .ok () ∧
      ∃ folder, d.walk start above = .ok folder ∧ d.find? folder = some .folder ∧
        s = ⟨folder, name, false⟩ := by
  have hne : name ≠ "" := by
    rintro rfl
    exact nomatch hname.1
  have hdrop : (name :: above.reverse).dropWhile (· = "") = name :: above.reverse := by
    rw [List.dropWhile_cons_of_neg (by simpa using hne)]
  simp only [spot, bind_ok_iff, List.reverse_append, List.reverse_singleton, List.singleton_append,
    hdrop, List.reverse_reverse, List.head?_cons, Option.some.injEq, hne, decide_false]
  constructor
  · rintro ⟨⟨⟩, hcheck, folder, hwalk, h⟩
    cases hf : d.find? folder with
    | none => rw [hf] at h; cases h
    | some e =>
        cases e with
        | file c => rw [hf] at h; cases h
        | folder =>
            rw [hf] at h
            cases h
            exact ⟨hcheck, folder, hwalk, hf, rfl⟩
  · rintro ⟨hcheck, folder, hwalk, hf, rfl⟩
    exact ⟨(), hcheck, folder, hwalk, by rw [hf]⟩

theorem named_of_isName (hname : Path.IsName name) (slash : Bool) :
    (Spot.mk folder name slash).named = true := by
  obtain ⟨hidle, hup⟩ := hname
  simp only [Path.isIdle, Bool.or_eq_false_iff, decide_eq_false_iff_not] at hidle
  simp [Spot.named, hidle.2, hup]

/-- A file under a path that ends in a name lies in the folder that leads there. -/
theorem fileSpot_concat (hname : Path.IsName name) {start : Place} {above : List String} :
    d.FileSpot ⟨start, above ++ [name]⟩ place ↔ check ⟨start, above ++ [name]⟩ = .ok () ∧
      ∃ folder, d.walk start above = .ok folder ∧ d.find? folder = some .folder ∧
        child folder name = .ok place ∧ d.find? place ≠ some .folder := by
  constructor
  · rintro ⟨⟨s, hs, -, -, hplace⟩, hfree⟩
    obtain ⟨hcheck, folder, hwalk, hfolder, rfl⟩ := (spot_concat hname).mp hs
    exact ⟨hcheck, folder, hwalk, hfolder, hplace, hfree⟩
  · rintro ⟨hcheck, folder, hwalk, hfolder, hplace, hfree⟩
    exact ⟨⟨_, (spot_concat hname).mpr ⟨hcheck, folder, hwalk, hfolder, rfl⟩,
      named_of_isName hname false, rfl, hplace⟩, hfree⟩

/-- A file under a name lies in the folder that the path starts from. -/
theorem fileSpot_name (hname : Path.IsName name) :
    d.FileSpot ⟨folder, [name]⟩ place ↔ check ⟨folder, [name]⟩ = .ok () ∧
      d.find? folder = some .folder ∧ child folder name = .ok place ∧
      d.find? place ≠ some .folder := by
  rw [← List.nil_append [name], fileSpot_concat hname]
  simp only [walk, Except.ok.injEq, exists_eq_left']

/-- A file that is found under a path that ends in a name is at the spot of the path. -/
theorem spot_of_read {p : Path} (hp : p.Named) {content : Bytes} (h : d.read p = .ok content) :
    ∃ place, d.FileSpot p place ∧ d.find? place = some (.file content) := by
  obtain ⟨start, parts⟩ := p
  obtain ⟨above, name, rfl, hname⟩ := hp
  simp only [read, entry, bind_ok_iff] at h
  obtain ⟨e, ⟨⟨⟩, hcheck, place, hwalk, hentry⟩, h⟩ := h
  cases hfolder : d.walk start above with
  | error e =>
      rw [walk_append_error d above hfolder] at hwalk
      cases hwalk
  | ok folder =>
      rw [walk_append d above hfolder, walk_cons] at hwalk
      cases hs : d.step folder name with
      | error e => rw [hs] at hwalk; cases hwalk
      | ok next =>
          rw [hs] at hwalk
          cases hwalk
          obtain ⟨hf, hchild⟩ := (step_name hname).mp hs
          cases hfile : d.find? place with
          | none => rw [hfile] at hentry; cases hentry
          | some e' =>
              rw [hfile] at hentry
              cases hentry
              cases e with
              | folder => cases h
              | file c =>
                  cases h
                  refine ⟨place, (fileSpot_concat hname).mpr
                    ⟨hcheck, folder, hfolder, hf, hchild, ?_⟩, hfile⟩
                  rw [hfile]
                  exact fun h => nomatch h

theorem read_name (hname : Path.IsName name) {content : Bytes} :
    d.read ⟨folder, [name]⟩ = .ok content ↔ check ⟨folder, [name]⟩ = .ok () ∧
      d.find? folder = some .folder ∧ child folder name = .ok (folder ++ [name]) ∧
      d.find? (folder ++ [name]) = some (.file content) := by
  constructor
  · intro h
    obtain ⟨place, hspot, hfile⟩ := spot_of_read ⟨[], name, rfl, hname⟩ h
    obtain ⟨hcheck, hfolder, hchild, -⟩ := (fileSpot_name hname).mp hspot
    obtain ⟨-, rfl⟩ := child_ok_iff.mp hchild
    exact ⟨hcheck, hfolder, hchild, hfile⟩
  · rintro ⟨hcheck, hfolder, hchild, hfile⟩
    refine read_of_spot ((fileSpot_name hname).mpr ⟨hcheck, hfolder, hchild, ?_⟩) hfile
    rw [hfile]
    exact fun h => nomatch h

/-- A name that is read in one directory is read in every other one that has a file there. -/
theorem read_name_of_find (hname : Path.IsName name) {content content' : Bytes}
    (hread : d.read ⟨folder, [name]⟩ = .ok content) (hfolder : d'.find? folder = some .folder)
    (hfile : d'.find? (folder ++ [name]) = some (.file content')) :
    d'.read ⟨folder, [name]⟩ = .ok content' := by
  obtain ⟨hcheck, -, hchild, -⟩ := (read_name hname).mp hread
  exact (read_name hname).mpr ⟨hcheck, hfolder, hchild, hfile⟩

end

/-! ## Removing -/

theorem remove_of_spot {d : Directory} {p : Path} {place : Place} {content : Bytes}
    (hs : d.FileSpot p place) (hfile : d.find? place = some (.file content)) :
    d.remove p = .ok (d.erase place) := by
  have hread := read_of_spot hs hfile
  obtain ⟨⟨s, hspot, -, -, hplace⟩, -⟩ := hs
  obtain ⟨-, rfl⟩ := child_ok_iff.mp hplace
  simp only [remove, bind_ok_iff]
  exact ⟨s, hspot, content, hread, rfl⟩

/-- Only a file that could be written can be removed. -/
theorem spot_of_remove {d d' : Directory} {p : Path} (hp : p.Named) (h : d.remove p = .ok d') :
    ∃ place, d.FileSpot p place := by
  simp only [remove, bind_ok_iff] at h
  obtain ⟨_, -, content, hread, -⟩ := h
  obtain ⟨place, hspot, -⟩ := spot_of_read hp hread
  exact ⟨place, hspot⟩

theorem attempt_of_ok {d d' : Directory} {operation : Directory → Except FileError Directory}
    (h : operation d = .ok d') : d.attempt operation = d' := by
  rw [attempt, h]

theorem attempt_of_not_ok {d : Directory} {operation : Directory → Except FileError Directory}
    (h : ∀ d', operation d ≠ .ok d') : d.attempt operation = d := by
  rw [attempt]
  split
  · next d' hok => exact absurd hok (h d')
  · rfl

end Directory

end Columnar

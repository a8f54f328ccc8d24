/-
# `Proofs.Snapshot.Atomicity` — a save is all or nothing

A save that fails leaves every entry as it was, but for a leftover under the
provisional name, which is gone.  That covers the entry that the path itself
leads to, whatever it is: a walk along the path passes through folders only,
and none of them is the provisional file (`entry_of_same`).  A save that
succeeds leaves the complete snapshot at the path, nothing under the
provisional name, and all other entries as they were.
-/
import Columnar.Proofs.Snapshot.RoundTrip

namespace Columnar

/-! ## Parts that stay in their folder -/

/-- The parts of a path with a name: what leads to its folder, the name, and parts that stay. -/
theorem Path.parts_of_trimmed {p : Path} {name : String} {rest : List String}
    (h : p.trimmed = name :: rest) : ∃ idle, p.parts = rest.reverse ++ name :: idle ∧
      isIdle name = false ∧ ∀ part ∈ idle, isIdle part = true := by
  rw [trimmed] at h
  have hsplit := List.takeWhile_append_dropWhile (p := isIdle) (l := p.parts.reverse)
  have hhead := List.head?_dropWhile_not isIdle p.parts.reverse
  rw [h] at hsplit hhead
  refine ⟨(p.parts.reverse.takeWhile isIdle).reverse, ?_, by simpa using hhead, fun part hpart => ?_⟩
  · have hparts := congrArg List.reverse hsplit
    rw [List.reverse_reverse, List.reverse_append, List.reverse_cons, List.append_assoc] at hparts
    exact hparts.symm
  · exact List.all_eq_true.mp List.all_takeWhile part (List.mem_reverse.mp hpart)

theorem Directory.step_of_same {d d' : Directory} {place : Place} (part : String)
    (hsame : d'.find? place = d.find? place) : d'.step place part = d.step place part := by
  rw [step, step, hsame]

/-- Parts that stay lead nowhere else; all they ask is what is there. -/
theorem Directory.walk_idle {d d' : Directory} {place : Place}
    (hsame : d'.find? place = d.find? place) : ∀ {idle : List String},
      (∀ part ∈ idle, Path.isIdle part = true) →
        d'.walk place idle = d.walk place idle ∧ ∀ r, d.walk place idle = .ok r → r = place
  | [], _ => ⟨rfl, fun r h => (Except.ok.inj h).symm⟩
  | part :: idle, hidle => by
      obtain ⟨hpart, hrest⟩ := List.forall_mem_cons.mp hidle
      obtain ⟨ih, hplace⟩ := walk_idle hsame hrest
      rw [walk_cons, walk_cons, step_of_same part hsame]
      cases hs : d.step place part with
      | error e => exact ⟨rfl, fun r h => nomatch h⟩
      | ok next =>
          have hnext : next = place := by
            rw [step] at hs
            split at hs
            · cases hs
            · cases hs
            · rw [if_pos hpart] at hs
              exact (Except.ok.inj hs).symm
          rw [hnext]
          exact ⟨ih, hplace⟩

namespace Snapshot

/-! ## The entry at the path -/

section
variable {d d' : Directory} {p : Path} {temporary : Place}

/-- A walk along the path does not see the provisional file, and does not end there. -/
theorem walk_of_same (hspot : d.FileSpot (provisional p) temporary)
    (hsame : ∀ q, q ≠ temporary → d'.find? q = d.find? q) :
    d'.walk p.start p.parts = d.walk p.start p.parts ∧
      ∀ r, d.walk p.start p.parts = .ok r → r ≠ temporary := by
  have hkept := Directory.foldersKept_of_same hspot.free hsame
  have hsuffix : Path.IsName ".partial" := by
    have h := isName_provisional ""
    rwa [String.empty_append] at h
  -- the suffix stands as a part of its own, in the folder that the path leads to
  have hfolder : provisional p = ⟨p.start, p.parts ++ [".partial"]⟩ →
      d'.walk p.start p.parts = d.walk p.start p.parts ∧
        ∀ r, d.walk p.start p.parts = .ok r → r ≠ temporary := by
    intro hp
    rw [hp] at hspot
    obtain ⟨-, folder, hwalk, -, hchild, -⟩ := (Directory.fileSpot_concat hsuffix).mp hspot
    obtain ⟨-, rfl⟩ := Directory.child_ok_iff.mp hchild
    rw [hwalk, Directory.walk_of_kept hkept hwalk]
    refine ⟨rfl, fun r hr heq => ?_⟩
    cases hr
    exact absurd (congrArg List.length heq) (by simp)
  cases htrimmed : p.trimmed with
  | nil => exact hfolder (by rw [provisional, Path.extended, htrimmed])
  | cons name rest =>
      by_cases hup : name = ".."
      · refine hfolder ?_
        rw [provisional, Path.extended, htrimmed]
        exact if_pos hup
      · obtain ⟨idle, hparts, hname, hidle⟩ := Path.parts_of_trimmed htrimmed
        have hp : provisional p = ⟨p.start, rest.reverse ++ [name ++ ".partial"]⟩ := by
          rw [provisional, Path.extended, htrimmed]
          exact if_neg hup
        rw [hp] at hspot
        obtain ⟨-, folder, hwalk, hfind, hchild, -⟩ :=
          (Directory.fileSpot_concat (isName_provisional name)).mp hspot
        obtain ⟨-, rfl⟩ := Directory.child_ok_iff.mp hchild
        rw [hparts, Directory.walk_append d _ hwalk,
          Directory.walk_append d' _ (Directory.walk_of_kept hkept hwalk), Directory.walk_cons,
          Directory.walk_cons,
          Directory.step_of_same name (show d'.find? folder = d.find? folder by rw [hkept folder hfind, hfind])]
        cases hs : d.step folder name with
        | error e =>
            refine ⟨rfl, fun r hr => ?_⟩
            cases hr
        | ok next =>
            obtain ⟨-, hnext⟩ := (Directory.step_name ⟨hname, hup⟩).mp hs
            obtain ⟨-, rfl⟩ := Directory.child_ok_iff.mp hnext
            have hne : folder ++ [name] ≠ folder ++ [name ++ ".partial"] := by
              intro heq
              exact provisional_ne name (List.singleton_inj.mp (List.append_cancel_left heq)).symm
            obtain ⟨hidle, hplace⟩ := Directory.walk_idle (hsame _ hne) hidle
            exact ⟨hidle, fun r hr => hplace r hr ▸ hne⟩

/-- A change of the provisional file does not show under the path. -/
theorem entry_of_same (hspot : d.FileSpot (provisional p) temporary)
    (hsame : ∀ q, q ≠ temporary → d'.find? q = d.find? q) : d'.entry p = d.entry p := by
  obtain ⟨hwalk, hplace⟩ := walk_of_same hspot hsame
  rw [Directory.entry, Directory.entry, hwalk]
  cases hr : d.walk p.start p.parts with
  | error e => rfl
  | ok r =>
      simp only [ok_bind, hsame r (hplace r hr)]

end

/-! ## All or nothing -/

/-- What a save leaves if it fails with the provisional file removed. -/
theorem failed_effect {d d' : Directory} {p : Path} {temporary : Place}
    (hspot : d.FileSpot (provisional p) temporary) (hgone : d'.find? temporary = none)
    (hsame : ∀ q, q ≠ temporary → d'.find? q = d.find? q) :
    (∀ q, ¬ d.FileSpot (provisional p) q → d'.find? q = d.find? q) ∧ d'.entry p = d.entry p ∧
      (∀ q, d.FileSpot (provisional p) q → d'.find? q = none) ∧
      ∀ content, d'.entry (provisional p) ≠ .ok (.file content) := by
  have hfree : d'.find? temporary ≠ some .folder := fun h => nomatch hgone.symm.trans h
  refine ⟨fun q hq => hsame q ?_, entry_of_same hspot hsame, fun q hq => ?_, fun content hfile => ?_⟩
  · rintro rfl
    exact hq hspot
  · rw [hq.unique hspot, hgone]
  · have hentry := Directory.entry_of_spot
      ((Directory.fileSpot_iff_of_same hspot.free hfree hsame).mpr hspot)
    rw [hgone, hfile] at hentry
    cases hentry

/-- No file is found under a provisional name that has no spot. -/
theorem entry_of_no_spot {d : Directory} {p : Path}
    (hnone : ∀ place, ¬ d.FileSpot (provisional p) place) (content : Bytes) :
    d.entry (provisional p) ≠ .ok (.file content) := by
  intro hentry
  have hread : d.read (provisional p) = .ok content := by
    rw [Directory.read, hentry]
    rfl
  obtain ⟨place, hspot, -⟩ := Directory.spot_of_read (named_provisional p) hread
  exact hnone place hspot

/-- A save is all or nothing for the rest of the directory, whatever is in it: any files, an earlier
snapshot, a leftover under the provisional name, a folder in place of either.  The provisional name
has the suffix `.partial`.  A limit that is refused leaves the directory as it was.  After any other
failure every entry is as it was, but for what a file under the provisional name would replace; the
path leads to what it led to, and the provisional name to no file.  After a success the complete
snapshot is under the path, nothing is under the provisional name, and every other entry is as it
was. -/
theorem save_all_or_nothing (g : Guess) (limit : Nat) (p : Path) (b : Batch) (d : Directory) :
    (∀ above name, p.parts = above ++ [name] → Path.IsName name →
      provisional p = ⟨p.start, above ++ [name ++ ".partial"]⟩) ∧
    (limit = 0 ∨ chunkLimit < limit → saveWith g limit p b d = (d, .error (.limit limit))) ∧
    (∀ d' e, 0 < limit → limit ≤ chunkLimit → saveWith g limit p b d = (d', .error e) →
      (∀ q, ¬ d.FileSpot (provisional p) q → d'.find? q = d.find? q) ∧
      d'.entry p = d.entry p ∧
      (∀ q, d.FileSpot (provisional p) q → d'.find? q = none) ∧
      ∀ content, d'.entry (provisional p) ≠ .ok (.file content)) ∧
    ∀ d' summary, saveWith g limit p b d = (d', .ok summary) →
      ∃ l place temporary, Layout.ofBatch g limit b = .ok l ∧
        d.FileSpot p place ∧ d.FileSpot (provisional p) temporary ∧ temporary ≠ place ∧
        d'.find? place = some (.file l.encode) ∧ d'.read p = .ok l.encode ∧
        d'.find? temporary = none ∧ d'.entry (provisional p) = .error .missing ∧
        (∀ q, q ≠ temporary → q ≠ place → d'.find? q = d.find? q) ∧
        (b.rows < 2 ^ 64 → ∃ b', fetch d' p b.schema = .ok b' ∧ b'.Agrees b) := by
  refine ⟨?_, saveWith_refused, fun d' e hpos hle h => ?_, fun d' summary h => ?_⟩
  · intro above name hparts hname
    obtain ⟨start, parts⟩ := p
    obtain rfl : parts = above ++ [name] := hparts
    exact provisional_concat hname
  · have houtcome := saveWith_outcome (g := g) (p := p) (b := b) (d := d) hpos hle
    rw [h] at houtcome
    cases houtcome with
    | unwritten e hnone =>
        exact ⟨fun _ _ => rfl, rfl, fun q hq => absurd hq (hnone q), entry_of_no_spot hnone⟩
    | unsplit _ hspot hgone hsame => exact failed_effect hspot hgone hsame
    | unmoved e _ hspot hgone hsame => exact failed_effect hspot hgone hsame
  · obtain ⟨hle, houtcome⟩ := outcome_of_ok h
    cases houtcome with
    | @stored _ place temporary l hlayout hplace hspot hfile hgone hsame hread =>
        have hkept : d.FoldersKept d' := by
          intro q hq
          have hspot' : q ≠ temporary := fun heq => hspot.free (heq ▸ hq)
          have hplace' : q ≠ place := fun heq => hplace.free (heq ▸ hq)
          rw [hsame q hspot' hplace', hq]
        have hentry := Directory.entry_of_spot
          (hspot.of_kept hkept fun h => nomatch hgone.symm.trans h)
        rw [hgone] at hentry
        exact ⟨l, place, temporary, hlayout, hplace, hspot, provisional_place_ne hplace hspot,
          hfile, hread, hgone, hentry, hsame, fun hrows => fetch_agrees hrows
            (Nat.lt_of_le_of_lt hle (by decide)) hlayout hread⟩

/-- A folder with an old file, a leftover under its provisional name, and another file. -/
def shelf : Directory :=
  ⟨[(["flags"], .file [1, 2, 3]), (["flags.partial"], .file [4]), (["other"], .file [5])]⟩

/-- A limit of no bytes is refused and all three files stay; a limit of 8 bytes fails at the first
row and only the leftover goes; with 4096 bytes the old file is replaced. -/
theorem save_all_or_nothing_shelf :
    saveWith oneByOne 0 (.ofPlace ["flags"]) twoFlags shelf = (shelf, .error (.limit 0)) ∧
    (∃ d' e, saveWith oneByOne 8 (.ofPlace ["flags"]) twoFlags shelf = (d', .error e) ∧
      d'.entry (.ofPlace ["flags"]) = .ok (.file [1, 2, 3]) ∧
      d'.find? ["flags.partial"] = none ∧ d'.find? ["other"] = some (.file [5])) ∧
    ∃ d' summary b', saveWith oneByOne 4096 (.ofPlace ["flags"]) twoFlags shelf =
        (d', .ok summary) ∧
      fetch d' (.ofPlace ["flags"]) twoFlags.schema = .ok b' ∧ b'.Agrees twoFlags ∧
      d'.find? ["flags.partial"] = none ∧ d'.find? ["other"] = some (.file [5]) := by
  have hname : Path.IsName "flags" := ⟨by decide, by decide⟩
  have hspot : shelf.FileSpot (provisional (.ofPlace ["flags"])) ["flags.partial"] := by
    have hp : provisional (.ofPlace ["flags"]) = ⟨[], ["flags" ++ ".partial"]⟩ :=
      provisional_name hname
    rw [hp]
    exact (Directory.fileSpot_name (isName_provisional "flags")).mpr
      ⟨rfl, rfl, rfl, fun h => nomatch h⟩
  have hother : ¬ shelf.FileSpot (provisional (.ofPlace ["flags"])) ["other"] := by
    intro h
    exact absurd (h.unique hspot) (by decide)
  refine ⟨(save_all_or_nothing _ _ _ _ _).2.1 (.inl rfl), ?_, ?_⟩
  · have hfails : (saveWith oneByOne 8 (.ofPlace ["flags"]) twoFlags shelf).2.isOk = false := by
      decide +kernel
    cases hsave : saveWith oneByOne 8 (.ofPlace ["flags"]) twoFlags shelf with
    | mk d' outcome =>
        rw [hsave] at hfails
        cases outcome with
        | ok summary => exact absurd hfails.symm Bool.false_ne_true
        | error e =>
            obtain ⟨hsame, hentry, hgone, -⟩ :=
              (save_all_or_nothing _ _ _ _ _).2.2.1 d' e (by decide) (by decide) hsave
            exact ⟨d', e, rfl, hentry, hgone _ hspot, hsame _ hother⟩
  · have hdone : (saveWith oneByOne 4096 (.ofPlace ["flags"]) twoFlags shelf).2.isOk = true := by
      decide +kernel
    obtain ⟨d', summary, hsave⟩ := exists_of_isOk hdone
    obtain ⟨l, place, temporary, -, hplace, htemporary, -, -, -, hgone, -, hsame, hfetch⟩ :=
      (save_all_or_nothing _ _ _ _ _).2.2.2 d' summary hsave
    obtain ⟨b', hb', hagrees⟩ := hfetch (by decide)
    rw [htemporary.unique hspot] at hgone hsame
    have hself : place = ["flags"] := place_of_fileSpot hname hplace
    rw [hself] at hsame
    exact ⟨d', summary, b', hsave, hb', hagrees, hgone, hsame ["other"] (by decide) (by decide)⟩

end Snapshot

end Columnar

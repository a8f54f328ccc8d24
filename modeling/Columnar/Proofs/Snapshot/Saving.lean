/-
# `Proofs.Snapshot.Saving` — what a save leaves behind

A save touches at most two entries: the one at its path, and the one at the
path's provisional name.  `SaveOutcome` says once what can happen, with the
reason of every failure: the limit is refused, the provisional file cannot be
made, the batch cannot be split, the finished file cannot get its name, or it
gets it.  In no case is a provisional file left.  `SaveEffect` is the same
under a name in a folder, where the two entries are known beforehand.
-/
import Columnar.Proofs.Directory
import Columnar.Proofs.Snapshot.Split
import Columnar.Snapshot.Store

namespace Columnar.Snapshot

/-! ## The provisional name -/

/-- The provisional name of a path that ends in a name stands in the same folder. -/
theorem provisional_concat {start : Place} {above : List String} {name : String}
    (hname : Path.IsName name) :
    provisional ⟨start, above ++ [name]⟩ = ⟨start, above ++ [name ++ ".partial"]⟩ := by
  have htrimmed : (Path.mk start (above ++ [name])).trimmed = name :: above.reverse := by
    rw [Path.trimmed, List.reverse_append, List.reverse_singleton, List.singleton_append,
      List.dropWhile_cons_of_neg]
    rw [hname.1]
    exact Bool.false_ne_true
  rw [provisional, Path.extended, htrimmed]
  dsimp only
  rw [if_neg hname.2, List.reverse_reverse]

theorem provisional_name {folder : Place} {name : String} (hname : Path.IsName name) :
    provisional ⟨folder, [name]⟩ = ⟨folder, [name ++ ".partial"]⟩ :=
  show provisional ⟨folder, [] ++ [name]⟩ = ⟨folder, [] ++ [name ++ ".partial"]⟩ from
    provisional_concat hname

theorem length_provisional (name : String) : (name ++ ".partial").length = name.length + 8 := by
  rw [String.length_append]
  rfl

theorem provisional_ne (name : String) : name ++ ".partial" ≠ name := by
  intro h
  have := congrArg String.length h
  rw [length_provisional] at this
  omega

theorem isName_provisional (name : String) : Path.IsName (name ++ ".partial") := by
  have hlong : ∀ short : String, short.length < 8 → name ++ ".partial" ≠ short := by
    rintro short hshort rfl
    rw [length_provisional] at hshort
    omega
  have hempty := hlong "" (by decide)
  have hdot := hlong "." (by decide)
  exact ⟨by simp [Path.isIdle, hempty, hdot], hlong ".." (by decide)⟩

/-- A provisional path ends in a name, whatever the path ends in. -/
theorem named_provisional (p : Path) : (provisional p).Named := by
  have hsuffix : Path.IsName ".partial" := by
    have h := isName_provisional ""
    rwa [String.empty_append] at h
  rw [provisional, Path.extended]
  split
  · exact ⟨p.parts, _, rfl, hsuffix⟩
  · next name rest htrimmed =>
    split
    · exact ⟨p.parts, _, rfl, hsuffix⟩
    · exact ⟨rest.reverse, _, rfl, isName_provisional name⟩

/-- A file and its provisional file lie in one folder under different names. -/
theorem provisional_spot {d : Directory} {p : Path} {place temporary : Place}
    (hs : d.FileSpot p place) (ht : d.FileSpot (provisional p) temporary) :
    ∃ folder name, place = folder ++ [name] ∧ temporary = folder ++ [name ++ ".partial"] := by
  obtain ⟨⟨s, hspot, hnamed, hslash, hplace⟩, -⟩ := hs
  obtain ⟨-, -, hempty, hdot, hup, above, hparts, hwalk⟩ :=
    Directory.spot_parts hspot hnamed hslash
  have hname : Path.IsName s.last := ⟨by simp [Path.isIdle, hempty, hdot], hup⟩
  obtain ⟨start, parts⟩ := p
  dsimp only at hparts hwalk
  subst hparts
  rw [provisional_concat hname] at ht
  obtain ⟨-, folder, hfolder, -, hchild, -⟩ :=
    (Directory.fileSpot_concat (isName_provisional s.last)).mp ht
  have hsame : s.folder = folder := Except.ok.inj (hwalk.symm.trans hfolder)
  subst hsame
  exact ⟨s.folder, s.last, (Directory.child_ok_iff.mp hplace).2, (Directory.child_ok_iff.mp hchild).2⟩

theorem provisional_place_ne {d : Directory} {p : Path} {place temporary : Place}
    (hs : d.FileSpot p place) (ht : d.FileSpot (provisional p) temporary) : temporary ≠ place := by
  obtain ⟨folder, name, rfl, rfl⟩ := provisional_spot hs ht
  intro heq
  exact provisional_ne name (List.singleton_inj.mp (List.append_cancel_left heq))

/-! ## Writing -/

/-- What is reported of the file of a layout. -/
def Layout.summary (l : Layout) : Summary := ⟨l.totalRows, l.segments.length, l.encode.length⟩

/-- The number of segments takes as many bytes as the zero before. -/
theorem length_draft (l : Layout) : l.draft.length = l.encode.length := by
  simp only [Layout.draft, Layout.encode, Layout.encodeWith, header, List.length_append,
    Bytes.length_ofNat]

theorem ofBatch_error_iff {g : Guess} {limit : Nat} {b : Batch} {e : FormatError} :
    Layout.ofBatch g limit b = .error e ↔ split g limit b = .error e := by
  rw [Layout.ofBatch]
  cases split g limit b with
  | error e' => simp only [Except.map, Except.error.injEq]
  | ok segments => simp only [Except.map, reduceCtorEq]

theorem ofBatch_ok {g : Guess} {limit : Nat} {b : Batch} {l : Layout}
    (h : Layout.ofBatch g limit b = .ok l) : split g limit b = .ok l.segments ∧
      l.totalRows = b.rows ∧ l.schemaBytes = Wire.encodeSchema b.schema := by
  rw [Layout.ofBatch] at h
  cases hsplit : split g limit b with
  | error e => rw [hsplit] at h; cases h
  | ok segments =>
      rw [hsplit] at h
      cases h
      exact ⟨rfl, rfl, rfl⟩

section
variable {g : Guess} {limit : Nat} {b : Batch} {d d' : Directory}

/-- What writing a file can leave: nothing, or a file that is complete if and only if the batch is
split. -/
theorem writeFile_effect (g : Guess) (limit : Nat) (p : Path) (b : Batch) (d : Directory) :
    (∃ e, writeFile g limit p b d = (d, .error e) ∧ ∀ place, ¬ d.FileSpot p place) ∨
    ∃ place content outcome, d.FileSpot p place ∧
      writeFile g limit p b d = ((d.put place (.file [])).put place (.file content), outcome) ∧
      ((∃ e, split g limit b = .error e ∧ outcome = .error (.format e)) ∨
        ∃ l, Layout.ofBatch g limit b = .ok l ∧ content = l.encode ∧ outcome = .ok l.summary) := by
  cases hwrite : d.write p [] with
  | error e =>
      refine .inl ⟨.file e, by rw [writeFile, hwrite], fun place hspot => ?_⟩
      rw [Directory.write_ok_iff.mpr ⟨place, hspot, rfl⟩] at hwrite
      cases hwrite
  | ok d₁ =>
      obtain ⟨place, hspot, rfl⟩ := Directory.write_ok_iff.mp hwrite
      have hagain : ∀ content, (d.put place (.file [])).attempt (·.write p content) =
          (d.put place (.file [])).put place (.file content) := fun content =>
        Directory.attempt_of_ok (Directory.write_put hspot [] content)
      cases hlayout : Layout.ofBatch g limit b with
      | error e =>
          refine .inr ⟨place, unfinished g limit b, _, hspot, ?_,
            .inl ⟨e, ofBatch_error_iff.mp hlayout, rfl⟩⟩
          rw [writeFile, hwrite, hlayout]
          dsimp only
          rw [hagain]
      | ok l =>
          obtain ⟨-, htotal, -⟩ := ofBatch_ok hlayout
          refine .inr ⟨place, l.encode, _, hspot, ?_, .inr ⟨l, rfl, rfl, rfl⟩⟩
          rw [writeFile, hwrite, hlayout]
          dsimp only
          rw [finish_draft, hagain, length_draft, ← htotal]
          rfl

/-- After a file was written at a place and written again, only the entry there differs. -/
theorem written_twice (d : Directory) {p : Path} {place : Place} (content : Bytes)
    (hspot : d.FileSpot p place) :
    ((d.put place (.file [])).put place (.file content)).find? place = some (.file content) ∧
      ∀ q, q ≠ place → ((d.put place (.file [])).put place (.file content)).find? q = d.find? q := by
  refine ⟨Directory.find_put _ _ hspot.ne_nil, fun q hq => ?_⟩
  rw [Directory.find_put_of_ne _ _ hq, d.find_put_of_ne _ hq]

/-- Writing the file of a batch leaves the finished file at the spot of its path. -/
theorem writeFile_ok {p : Path} {summary : Summary}
    (h : writeFile g limit p b d = (d', .ok summary)) :
    ∃ l place, Layout.ofBatch g limit b = .ok l ∧ d'.FileSpot p place ∧
      d'.find? place = some (.file l.encode) := by
  rcases writeFile_effect g limit p b d with
    ⟨e, hwrite, -⟩ | ⟨place, content, outcome, hspot, hwrite, hcontent⟩
  · cases hwrite.symm.trans h
  · cases hwrite.symm.trans h
    rcases hcontent with ⟨e, -, herror⟩ | ⟨l, hlayout, rfl, -⟩
    · cases herror
    · obtain ⟨hfile, hsame⟩ := written_twice d l.encode hspot
      have hspot' := (Directory.fileSpot_iff_of_same hspot.free
        (fun hfolder => nomatch hfile.symm.trans hfolder) hsame).mpr hspot
      exact ⟨l, place, hlayout, hspot', hfile⟩

/-! ## After writing -/

/-- A provisional file is removed, whatever it holds, and nothing else. -/
theorem removed_effect {p : Path} {place : Place} {content : Bytes} (hspot : d.FileSpot p place)
    (hfile : d'.find? place = some (.file content)) (hsame : ∀ q, q ≠ place → d'.find? q = d.find? q) :
    (d'.attempt (·.remove p)).find? place = none ∧
      ∀ q, q ≠ place → (d'.attempt (·.remove p)).find? q = d.find? q := by
  have hfree : d'.find? place ≠ some .folder := fun h => nomatch hfile.symm.trans h
  have hspot' := (Directory.fileSpot_iff_of_same hspot.free hfree hsame).mpr hspot
  rw [Directory.attempt_of_ok (Directory.remove_of_spot hspot' hfile)]
  refine ⟨d'.find_erase hspot.ne_nil, fun q hq => ?_⟩
  rw [d'.find_erase_of_ne hq, hsame q hq]

/-- A provisional file is moved to its path if the path has a spot, and only then. -/
theorem renamed_effect {p : Path} (p' : Path) {old : Place} {content : Bytes}
    (hspot : d.FileSpot p old)
    (hfile : d'.find? old = some (.file content)) (hsame : ∀ q, q ≠ old → d'.find? q = d.find? q) :
    (∃ new, d.FileSpot p' new ∧ d'.rename p p' = .ok ((d'.erase old).put new (.file content)) ∧
      ((d'.erase old).put new (.file content)).read p' = .ok content) ∨
    ∃ e, d'.rename p p' = .error e ∧ ∀ new, ¬ d.FileSpot p' new := by
  have hfree : d'.find? old ≠ some .folder := fun h => nomatch hfile.symm.trans h
  have hspots : ∀ {p : Path} {spot : Place}, d'.FileSpot p spot ↔ d.FileSpot p spot :=
    Directory.fileSpot_iff_of_same hspot.free hfree hsame
  cases hrename : d'.rename p p' with
  | error e =>
      refine .inr ⟨e, rfl, fun new hnew => ?_⟩
      have hmoved := Directory.rename_of_spots (hspots.mpr hspot) (hspots.mpr hnew) hfile
      exact nomatch hrename.symm.trans hmoved
  | ok d₂ =>
      obtain ⟨-, new, -, -, hnew, -⟩ := Directory.rename_ok hrename
      have hmoved := Directory.rename_of_spots (hspots.mpr hspot) hnew hfile
      exact .inl ⟨new, hspots.mp hnew, hrename ▸ hmoved,
        Directory.read_of_rename hmoved (hspots.mpr hspot) hfile⟩

end

/-! ## The outcome -/

/-- What a save of a batch at a path can leave of a directory, and its outcome, when the limit is
not refused. -/
inductive SaveOutcome (g : Guess) (limit : Nat) (p : Path) (b : Batch) (d : Directory) :
    Directory × Except Failure Summary → Prop
  /-- No provisional file can be made. -/
  | unwritten (e : Failure) :
      (∀ temporary, ¬ d.FileSpot (provisional p) temporary) →
      SaveOutcome g limit p b d (d, .error e)
  /-- The batch cannot be split; the provisional file is removed again. -/
  | unsplit {d' : Directory} {temporary : Place} {e : FormatError} :
      split g limit b = .error e →
      d.FileSpot (provisional p) temporary → d'.find? temporary = none →
      (∀ q, q ≠ temporary → d'.find? q = d.find? q) →
      SaveOutcome g limit p b d (d', .error (.format e))
  /-- The complete file cannot get its name; it is removed again. -/
  | unmoved {d' : Directory} {temporary : Place} (e : FileError) :
      (∀ place, ¬ d.FileSpot p place) →
      d.FileSpot (provisional p) temporary → d'.find? temporary = none →
      (∀ q, q ≠ temporary → d'.find? q = d.find? q) →
      SaveOutcome g limit p b d (d', .error (.file e))
  /-- The complete file got its name. -/
  | stored {d' : Directory} {place temporary : Place} {l : Layout} :
      Layout.ofBatch g limit b = .ok l →
      d.FileSpot p place → d.FileSpot (provisional p) temporary →
      d'.find? place = some (.file l.encode) → d'.find? temporary = none →
      (∀ q, q ≠ temporary → q ≠ place → d'.find? q = d.find? q) →
      d'.read p = .ok l.encode →
      SaveOutcome g limit p b d (d', .ok l.summary)

section
variable {g : Guess} {limit : Nat} {p : Path} {b : Batch} {d d' : Directory}

/-- A limit that is refused is refused before anything is touched. -/
theorem saveWith_refused (h : limit = 0 ∨ chunkLimit < limit) :
    saveWith g limit p b d = (d, .error (.limit limit)) := by
  rw [saveWith, if_pos (by simpa using h)]

/-- A save has one of the four outcomes. -/
theorem saveWith_outcome (hpos : 0 < limit) (hle : limit ≤ chunkLimit) :
    SaveOutcome g limit p b d (saveWith g limit p b d) := by
  have hlimit : ¬ (limit = 0 || chunkLimit < limit) = true := by
    simp only [Bool.or_eq_true, decide_eq_true_eq, not_or, Nat.not_lt]
    exact ⟨Nat.ne_of_gt hpos, hle⟩
  rw [saveWith, if_neg hlimit]
  dsimp only
  rcases writeFile_effect g limit (provisional p) b d with
    ⟨e, hwrite, hnone⟩ | ⟨temporary, content, outcome, hspot, hwrite, hcontent⟩
  · rw [hwrite]
    dsimp only
    rw [Directory.attempt_of_not_ok fun d' hremove => ?_]
    · exact .unwritten e hnone
    · obtain ⟨place, hplace⟩ := Directory.spot_of_remove (named_provisional p) hremove
      exact hnone place hplace
  · obtain ⟨hfile, hsame⟩ := written_twice d content hspot
    rw [hwrite]
    generalize (d.put temporary (.file [])).put temporary (.file content) = d₁ at hfile hsame
    obtain ⟨hgone, hothers⟩ := removed_effect hspot hfile hsame
    rcases hcontent with ⟨e, hsplit, rfl⟩ | ⟨l, hlayout, rfl, rfl⟩
    · exact .unsplit hsplit hspot hgone hothers
    · rcases renamed_effect p hspot hfile hsame with
        ⟨place, hplace, hrename, hread⟩ | ⟨e, hrename, hnone⟩
      · have hne := provisional_place_ne hplace hspot
        dsimp only
        rw [hrename]
        refine .stored hlayout hplace hspot (Directory.find_put _ _ hplace.ne_nil) ?_
          (fun q hq hq' => ?_) hread
        · rw [Directory.find_put_of_ne _ _ hne, d₁.find_erase hspot.ne_nil]
        · rw [Directory.find_put_of_ne _ _ hq', d₁.find_erase_of_ne hq, hsame q hq]
      · dsimp only
        rw [hrename]
        exact .unmoved e hnone hspot hgone hothers

theorem exists_of_isOk {after : Directory × Except Failure Summary} (h : after.2.isOk = true) :
    ∃ d' summary, after = (d', .ok summary) := by
  obtain ⟨d', outcome⟩ := after
  cases outcome with
  | error e => exact absurd h Bool.false_ne_true
  | ok summary => exact ⟨d', summary, rfl⟩

theorem outcome_of_ok {summary : Summary} (h : saveWith g limit p b d = (d', .ok summary)) :
    limit ≤ chunkLimit ∧ SaveOutcome g limit p b d (d', .ok summary) := by
  by_cases hlimit : limit = 0 ∨ chunkLimit < limit
  · rw [saveWith_refused hlimit] at h
    cases h
  · obtain ⟨hzero, hle⟩ := not_or.mp hlimit
    have hle : limit ≤ chunkLimit := Nat.le_of_not_lt hle
    exact ⟨hle, h ▸ saveWith_outcome (Nat.pos_of_ne_zero hzero) hle⟩

/-- A save that succeeds leaves the file of the batch's layout at its path. -/
theorem save_ok {summary : Summary} (h : saveWith g limit p b d = (d', .ok summary)) :
    limit < 2 ^ 31 ∧ ∃ l, Layout.ofBatch g limit b = .ok l ∧ d'.read p = .ok l.encode := by
  obtain ⟨hle, houtcome⟩ := outcome_of_ok h
  cases houtcome with
  | stored hlayout _ _ _ _ _ hread =>
      exact ⟨Nat.lt_of_le_of_lt hle (by decide), _, hlayout, hread⟩

/-- A save that succeeds reports the file that it leaves. -/
theorem save_summary {summary : Summary} {l : Layout}
    (h : saveWith g limit p b d = (d', .ok summary)) (hl : Layout.ofBatch g limit b = .ok l) :
    summary = l.summary := by
  obtain ⟨-, houtcome⟩ := outcome_of_ok h
  cases houtcome with
  | @stored _ _ _ l' hlayout =>
      have hsame : l' = l := Except.ok.inj (hlayout.symm.trans hl)
      rw [hsame]

end

/-! ## Under a name -/

/-- What a save of a batch under a name in a folder can leave of a directory, and its outcome. -/
inductive SaveEffect (g : Guess) (limit : Nat) (folder : Place) (name : String) (b : Batch)
    (d : Directory) : Directory × Except Failure Summary → Prop
  /-- The limit is refused, or no provisional file can be made. -/
  | untouched (e : Failure) :
      (limit = 0 ∨ chunkLimit < limit ∨
        ∀ place, ¬ d.FileSpot (provisional ⟨folder, [name]⟩) place) →
      SaveEffect g limit folder name b d (d, .error e)
  /-- The provisional file was made, and removed again. -/
  | cleared {d' : Directory} (e : Failure) :
      d.find? (folder ++ [name ++ ".partial"]) ≠ some .folder →
      d'.find? (folder ++ [name ++ ".partial"]) = none →
      (∀ q, q ≠ folder ++ [name ++ ".partial"] → d'.find? q = d.find? q) →
      SaveEffect g limit folder name b d (d', .error e)
  /-- The complete file got its name. -/
  | stored {d' : Directory} {l : Layout} (summary : Summary) :
      limit < 2 ^ 31 → Layout.ofBatch g limit b = .ok l →
      d'.read ⟨folder, [name]⟩ = .ok l.encode →
      d'.find? (folder ++ [name ++ ".partial"]) = none →
      (∀ q, q ≠ folder ++ [name ++ ".partial"] → q ≠ folder ++ [name] → d'.find? q = d.find? q) →
      SaveEffect g limit folder name b d (d', .ok summary)

section
variable {g : Guess} {limit : Nat} {folder place : Place} {name : String} {b : Batch} {d : Directory}

theorem place_of_fileSpot (hname : Path.IsName name) (h : d.FileSpot ⟨folder, [name]⟩ place) :
    place = folder ++ [name] := by
  obtain ⟨-, -, hchild, -⟩ := (Directory.fileSpot_name hname).mp h
  exact (Directory.child_ok_iff.mp hchild).2

theorem place_of_provisional (hname : Path.IsName name)
    (h : d.FileSpot (provisional ⟨folder, [name]⟩) place) : place = folder ++ [name ++ ".partial"] := by
  rw [provisional_name hname] at h
  exact place_of_fileSpot (isName_provisional name) h

/-- A save under a name has one of the three effects. -/
theorem saveWith_effect (hname : Path.IsName name) :
    SaveEffect g limit folder name b d (saveWith g limit ⟨folder, [name]⟩ b d) := by
  by_cases hlimit : limit = 0 ∨ chunkLimit < limit
  · rw [saveWith_refused hlimit]
    exact .untouched _ (hlimit.imp id .inl)
  · obtain ⟨hzero, hle⟩ := not_or.mp hlimit
    have hle : limit ≤ chunkLimit := Nat.le_of_not_lt hle
    have houtcome := saveWith_outcome (g := g) (p := ⟨folder, [name]⟩) (b := b) (d := d)
      (Nat.pos_of_ne_zero hzero) hle
    generalize saveWith g limit ⟨folder, [name]⟩ b d = after at houtcome
    cases houtcome with
    | unwritten e hnone => exact .untouched e (.inr (.inr hnone))
    | unsplit _ hspot hgone hothers =>
        obtain rfl := place_of_provisional hname hspot
        exact .cleared _ hspot.free hgone hothers
    | unmoved e _ hspot hgone hothers =>
        obtain rfl := place_of_provisional hname hspot
        exact .cleared _ hspot.free hgone hothers
    | stored hlayout hplace hspot _ hgone hothers hread =>
        obtain rfl := place_of_provisional hname hspot
        obtain rfl := place_of_fileSpot hname hplace
        exact .stored _ (Nat.lt_of_le_of_lt hle (by decide)) hlayout hread hgone hothers

end

end Columnar.Snapshot

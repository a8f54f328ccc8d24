/-
# `Proofs.Snapshot.Session` — a directory of snapshots is a store

A session is a sequence of saves under names in one directory; some succeed
and some fail.  Next to the directory it keeps a record of what was asked and
how it ended, which decides nothing and only serves to say what the
directory should hold (`latest?`).  `Holds` is the invariant: it holds of the
empty directory, every save keeps it whatever its outcome, and with it every
name loads as the batch that was saved last under it.
-/
import Mathlib.Data.List.Induction
import Columnar.Proofs.Snapshot.RoundTrip

namespace Columnar.Snapshot

/-! ## Sessions -/

/-- A save that is asked for. -/
structure Saving where
  name : String
  limit : Nat
  batch : Batch
  guess : Guess

/-- The directory after it, and whether it succeeded. -/
def Saving.perform (s : Saving) (d : Directory) : Directory × Except Failure Summary :=
  saveWith s.guess s.limit (.ofPlace [s.name]) s.batch d

/-- A directory, and the saves that were made in it with their outcomes, the last one first. -/
structure Session where
  directory : Directory
  record : List (Saving × Except Failure Summary)

namespace Session

def start : Session := ⟨.empty, []⟩

def step (t : Session) (s : Saving) : Session :=
  ⟨(s.perform t.directory).1, (s, (s.perform t.directory).2) :: t.record⟩

/-- The session of the saves, one after the other. -/
def run (saves : List Saving) : Session := saves.foldl step start

/-- The batch of the last save under the name that succeeded. -/
def latest? (t : Session) (name : String) : Option Batch :=
  t.record.findSome? fun (s, outcome) =>
    if s.name = name ∧ outcome.isOk = true then some s.batch else none

end Session

/-! ## One name -/

/-- A file under the name in the top folder is the snapshot of the batch, however it was cut into
segments. -/
def Stored (d : Directory) (name : String) (b : Batch) : Prop :=
  Path.IsName name ∧ ∃ g limit l, limit < 2 ^ 31 ∧ Layout.ofBatch g limit b = .ok l ∧
    d.read (.ofPlace [name]) = .ok l.encode

section
variable {d d' : Directory} {name : String} {b : Batch}

theorem find_top (d : Directory) : d.find? [] = some .folder := if_pos rfl

theorem Stored.of_find (h : Stored d name b) (hsame : d'.find? [name] = d.find? [name]) :
    Stored d' name b := by
  obtain ⟨hname, g, limit, l, hlimit, hlayout, hread⟩ := h
  obtain ⟨-, -, -, hfile⟩ := (Directory.read_name hname).mp hread
  exact ⟨hname, g, limit, l, hlimit, hlayout,
    Directory.read_name_of_find hname hread (find_top d') (hsame.trans hfile)⟩

/-- What is stored under a name is fetched. -/
theorem Stored.fetch (h : Stored d name b) (hrows : b.rows < 2 ^ 64) :
    ∃ b', fetch d (.ofPlace [name]) b.schema = .ok b' ∧ b'.Agrees b := by
  obtain ⟨-, g, limit, l, hlimit, hlayout, hread⟩ := h
  exact fetch_agrees hrows hlimit hlayout hread

end

namespace Session

/-! ## Records -/

theorem run_concat (saves : List Saving) (s : Saving) : run (saves ++ [s]) = (run saves).step s :=
  List.foldl_concat _ _ _ _

theorem latest_step (t : Session) (s : Saving) (name : String) :
    (t.step s).latest? name =
      if s.name = name ∧ (s.perform t.directory).2.isOk = true then some s.batch
      else t.latest? name := by
  rw [latest?, step, List.findSome?_cons]
  dsimp only
  by_cases h : s.name = name ∧ (s.perform t.directory).2.isOk = true
  · rw [if_pos h, if_pos h]
  · rw [if_neg h, if_neg h]
    rfl

/-- What is the latest under a name was asked for. -/
theorem mem_of_latest {saves : List Saving} {name : String} {b : Batch}
    (h : (run saves).latest? name = some b) : ∃ s ∈ saves, s.name = name ∧ s.batch = b := by
  induction saves using List.reverseRecOn with
  | nil => cases h
  | append_singleton saves s ih =>
      rw [run_concat, latest_step] at h
      split at h
      · next hs =>
        cases h
        exact ⟨s, List.mem_append_right _ List.mem_cons_self, hs.1, rfl⟩
      · obtain ⟨s', hs', hsame⟩ := ih h
        exact ⟨s', List.mem_append_left _ hs', hsame⟩

/-! ## The invariant -/

/-- Every name holds the latest batch, and nothing else is there. -/
structure Holds (t : Session) : Prop where
  stored : ∀ name b, t.latest? name = some b → Stored t.directory name b
  only : ∀ place, place ≠ [] → t.directory.find? place ≠ none →
    ∃ name b, place = [name] ∧ t.latest? name = some b

theorem holds_start : start.Holds where
  stored _ _ h := by cases h
  only place hplace h := by
    rw [start, Directory.find?, if_neg hplace] at h
    exact absurd rfl h

/-- A name under which no save succeeded does not exist. -/
theorem Holds.find_of_latest {t : Session} {name : String} (h : t.Holds)
    (hnone : t.latest? name = none) : t.directory.find? [name] = none := by
  by_contra hentry
  obtain ⟨name', b, hplace, hb⟩ := h.only [name] (List.cons_ne_nil _ _) hentry
  cases hplace
  rw [hnone] at hb
  cases hb

/-- A session whose entries and latest batches are those of another one. -/
theorem Holds.of_same {t t' : Session} (h : t.Holds)
    (hfind : ∀ place, t'.directory.find? place = t.directory.find? place)
    (hlatest : ∀ name, t'.latest? name = t.latest? name) : t'.Holds where
  stored name b hb := (h.stored name b (hlatest name ▸ hb)).of_find (hfind [name])
  only place hplace hp := by
    obtain ⟨name, b, rfl, hb⟩ := h.only place hplace (hfind place ▸ hp)
    exact ⟨name, b, rfl, (hlatest name).trans hb⟩

/-- A session that has another batch under one name, and all else as another session. -/
theorem Holds.of_stored {t t' : Session} (h : t.Holds) (name : String) (b : Batch)
    (hstored : Stored t'.directory name b)
    (hfind : ∀ place, place ≠ [name] → t'.directory.find? place = t.directory.find? place)
    (hlatest : ∀ name', t'.latest? name' = if name = name' then some b else t.latest? name') :
    t'.Holds where
  stored name' b' hb := by
    rw [hlatest] at hb
    split at hb
    · next heq =>
      cases hb
      exact heq ▸ hstored
    · next hne =>
      exact (h.stored name' b' hb).of_find
        (hfind [name'] fun heq => hne (List.singleton_inj.mp heq).symm)
  only place hplace hentry := by
    by_cases hself : place = [name]
    · exact ⟨name, b, hself, (hlatest name).trans (if_pos rfl)⟩
    · obtain ⟨name', b', rfl, hb⟩ := h.only place hplace (hfind place hself ▸ hentry)
      have hne : name ≠ name' := fun heq => hself (heq ▸ rfl)
      exact ⟨name', b', rfl, by rw [hlatest, if_neg hne, hb]⟩

/-- A save keeps the invariant, whatever its outcome, as long as its provisional name is not in
use. -/
theorem holds_step {t : Session} {s : Saving} (h : t.Holds) (hname : Path.IsName s.name)
    (hunused : t.latest? (s.name ++ ".partial") = none) : (t.step s).Holds := by
  have hpartial : t.directory.find? [s.name ++ ".partial"] = none := h.find_of_latest hunused
  -- the provisional file is not there before or after
  have hkept : ∀ {d' : Directory} {place : Place}, d'.find? [s.name ++ ".partial"] = none →
      (place ≠ [s.name ++ ".partial"] → d'.find? place = t.directory.find? place) →
      d'.find? place = t.directory.find? place := by
    intro d' place hgone hother
    by_cases hplace : place = [s.name ++ ".partial"]
    · rw [hplace, hgone, hpartial]
    · exact hother hplace
  have heffect : SaveEffect s.guess s.limit [] s.name s.batch t.directory (s.perform t.directory) :=
    saveWith_effect hname
  have hlatest := latest_step t s
  have hdirectory : (t.step s).directory = (s.perform t.directory).1 := rfl
  generalize s.perform t.directory = after at heffect hlatest hdirectory
  cases heffect with
  | untouched e _ =>
      refine h.of_same (fun place => by rw [hdirectory]) fun name => ?_
      rw [hlatest, if_neg fun h => Bool.false_ne_true h.2]
  | cleared e _ hgone hothers =>
      refine h.of_same (fun place => ?_) fun name => ?_
      · rw [hdirectory]
        exact hkept hgone (hothers place)
      · rw [hlatest, if_neg fun h => Bool.false_ne_true h.2]
  | @stored d' l summary hlimit hlayout hread hgone hothers =>
      refine h.of_stored s.name s.batch ?_ (fun place hself => ?_) fun name => ?_
      · rw [hdirectory]
        exact ⟨hname, s.guess, s.limit, l, hlimit, hlayout, hread⟩
      · rw [hdirectory]
        exact hkept hgone fun hplace => hothers place hplace hself
      · rw [hlatest]
        simp only [Except.isOk, Except.toBool, and_true]

/-- Every session keeps the invariant if no name in it is the provisional name of another one. -/
theorem holds_run {saves : List Saving} (hnames : ∀ s ∈ saves, Path.IsName s.name)
    (hapart : ∀ s ∈ saves, ∀ s' ∈ saves, s.name ≠ s'.name ++ ".partial") : (run saves).Holds := by
  induction saves using List.reverseRecOn with
  | nil => exact holds_start
  | append_singleton saves s ih =>
      have hs : s ∈ saves ++ [s] := List.mem_append_right _ List.mem_cons_self
      have hbefore : ∀ {s'}, s' ∈ saves → s' ∈ saves ++ [s] := fun h => List.mem_append_left _ h
      rw [run_concat]
      refine holds_step (ih (fun s' h => hnames s' (hbefore h)) fun s' h s'' h' =>
        hapart s' (hbefore h) s'' (hbefore h')) (hnames s hs) ?_
      by_contra hused
      obtain ⟨b, hb⟩ := Option.ne_none_iff_exists'.mp hused
      obtain ⟨s', hs', hsame, -⟩ := mem_of_latest hb
      exact hapart s' (hbefore hs') s hs hsame

/-! ## The store -/

/-- A directory of snapshots is a store.  After any part of a session in which no name is the
provisional name of another one, what was saved last under a name is what loads from it, a name
under which no save succeeded does not exist, and nothing else is in the directory. -/
theorem store_exact {saves before : List Saving} (hnames : ∀ s ∈ saves, Path.IsName s.name)
    (hrows : ∀ s ∈ saves, s.batch.rows < 2 ^ 64)
    (hapart : ∀ s ∈ saves, ∀ s' ∈ saves, s.name ≠ s'.name ++ ".partial")
    (hbefore : before <+: saves) :
    (∀ name b, (run before).latest? name = some b → ∃ b',
      fetch (run before).directory (.ofPlace [name]) b.schema = .ok b' ∧ b'.Agrees b) ∧
    (∀ name, (run before).latest? name = none → (run before).directory.find? [name] = none) ∧
    ∀ place, place ≠ [] → (run before).directory.find? place ≠ none →
      ∃ name b, place = [name] ∧ (run before).latest? name = some b := by
  have hmem : ∀ {s}, s ∈ before → s ∈ saves := fun h => hbefore.subset h
  have hholds : (run before).Holds :=
    holds_run (fun s h => hnames s (hmem h)) fun s h s' h' => hapart s (hmem h) s' (hmem h')
  refine ⟨fun name b hb => ?_, fun name hnone => hholds.find_of_latest hnone, hholds.only⟩
  obtain ⟨s, hs, -, rfl⟩ := mem_of_latest hb
  exact (hholds.stored name _ hb).fetch (hrows s (hmem hs))

/-- Two rows saved, then a save of no rows over them that is refused for its limit, one that finds
a row too large, and a save under another name. -/
def severalSaves : List Saving :=
  [⟨"flags", 4096, twoFlags, oneByOne⟩, ⟨"flags", 0, .empty [], oneByOne⟩,
   ⟨"flags", 8, twoFlags, oneByOne⟩, ⟨"none", 4096, .empty [], oneByOne⟩]

/-- The two rows load in spite of the two failures, and before the last save its name does not
exist. -/
theorem store_exact_severalSaves :
    (run severalSaves).record.map (·.2.isOk) = [true, false, false, true] ∧
    (∀ s ∈ severalSaves, Path.IsName s.name) ∧
    (∀ s ∈ severalSaves, s.batch.rows < 2 ^ 64) ∧
    (∀ s ∈ severalSaves, ∀ s' ∈ severalSaves, s.name ≠ s'.name ++ ".partial") ∧
    severalSaves.take 3 <+: severalSaves ∧
    (∃ b b', (run severalSaves).latest? "flags" = some b ∧ b.rows = 2 ∧
      fetch (run severalSaves).directory (.ofPlace ["flags"]) b.schema = .ok b' ∧ b'.Agrees b) ∧
    (run (severalSaves.take 3)).directory.find? ["none"] = none := by
  have hnames : ∀ s ∈ severalSaves, Path.IsName s.name := by
    simp [severalSaves, Path.IsName, Path.isIdle]
  have hrows : ∀ s ∈ severalSaves, s.batch.rows < 2 ^ 64 := by
    simp [severalSaves, twoFlags, Batch.empty]
  have hapart : ∀ s ∈ severalSaves, ∀ s' ∈ severalSaves, s.name ≠ s'.name ++ ".partial" := by
    simp only [severalSaves, List.forall_mem_cons, List.not_mem_nil, false_implies, implies_true]
    decide
  have hbefore : severalSaves.take 3 <+: severalSaves := List.take_prefix 3 _
  have hlatest : ((run severalSaves).latest? "flags").map Batch.rows = some 2 := by decide +kernel
  have hnone : ((run (severalSaves.take 3)).latest? "none").map Batch.rows = none := by
    decide +kernel
  obtain ⟨b, hb, hb2⟩ := Option.map_eq_some_iff.mp hlatest
  obtain ⟨b', hfetch, hagrees⟩ :=
    (store_exact hnames hrows hapart List.prefix_rfl).1 "flags" b hb
  exact ⟨by decide +kernel, hnames, hrows, hapart, hbefore, ⟨b, b', hb, hb2, hfetch, hagrees⟩,
    (store_exact hnames hrows hapart hbefore).2.1 "none" (Option.map_eq_none_iff.mp hnone)⟩

end Session

end Columnar.Snapshot

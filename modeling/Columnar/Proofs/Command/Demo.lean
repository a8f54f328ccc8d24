/-
# `Proofs.Command.Demo` — a table saved from the command line

`demo` saves a table of as many rows as it is asked for, in chunks no longer
than the settings allow.  `SaveEnds` says once how that can end: with a
failure, after which the destination is as it was, or with a snapshot of that
table at the destination.  So the limit goes unchanged from the file of the
settings through the command line to every chunk.

Settings that are rejected do not end the command.  It goes on under the
default ones, as it does without a file (`rejected_settings_pass`).
-/
import Columnar.Command.Run
import Columnar.Proofs.Snapshot.Atomicity
import Columnar.Proofs.Snapshot.Partition
import Columnar.Proofs.Snapshot.Totals

namespace Columnar

namespace Snapshot

/-- What the file of a batch says: its rows, once in the header and once over all chunks, and chunks
within the limit. -/
theorem info_of_ofBatch {g : Guess} {limit : Nat} {b : Batch} {l : Layout} {d : Directory}
    {p : Path} (hrows : b.rows < 2 ^ 64) (hlimit : limit < 2 ^ 31)
    (hlayout : Layout.ofBatch g limit b = .ok l) (hread : d.read p = .ok l.encode) :
    ∃ i, info d p = .ok i ∧ i.totalRows = b.rows ∧ (i.chunks.map SegmentInfo.rows).sum = b.rows ∧
      ∀ c ∈ i.chunks, c.length ≤ limit := by
  obtain ⟨hl, -, hsum, htotal, -⟩ := layout_ofBatch hrows hlimit hlayout
  obtain ⟨hsplit, -, -⟩ := ofBatch_ok hlayout
  obtain ⟨hcovers, -, -⟩ := split_ok hsplit
  have hchunks : List.Forall₂ (SegmentInfo.OfRange b limit l.encode) l.contents
      (rangesFrom 0 l.segments) :=
    ofRange_of_finds (contents_finds l) (covers_ranges hcovers)
      fun s hs => (covers_le hcovers s hs).1
  refine ⟨l.info l.encode.length, info_of_read hl hread, htotal, ?_, forall_of_ofRange hchunks⟩
  show (l.contents.map SegmentInfo.rows).sum = b.rows
  rw [Layout.contents, describe_rows, hsum, htotal]

end Snapshot

namespace Command

open scoped Snapshot

/-! ## Numbers of rows -/

theorem countFrom_lt : ∀ {digits : List Char} {n m : Nat}, n < 2 ^ 64 →
    countFrom n digits = .ok m → m < 2 ^ 64
  | [], n, m, hn, h => by
      cases h
      exact hn
  | c :: rest, n, m, hn, h => by
      rw [countFrom] at h
      split at h
      · cases h
      · split at h
        · cases h
        · next hfits => exact countFrom_lt (Nat.lt_of_not_le hfits) h

/-- A number on the command line is below `2 ^ 64`. -/
theorem count_lt {s : String} {n : Nat} (h : count s = .ok n) : n < 2 ^ 64 := by
  have hzero : 0 < 2 ^ 64 := by decide
  rw [count] at h
  split at h
  · cases h
  · cases h
  · exact countFrom_lt hzero h
  · exact countFrom_lt hzero h

theorem number_lt {r : Reading} {name : String} {n : Nat} (h : r.number? name = some n) :
    n < 2 ^ 64 := by
  rw [Reading.number?] at h
  obtain ⟨s, -, hs⟩ := Option.bind_eq_some_iff.mp h
  cases hcount : count s with
  | error e => rw [hcount] at hs; cases hs
  | ok m =>
      rw [hcount] at hs
      cases hs
      exact count_lt hcount

/-- Only the verb `demo` asks for a table, of a number of rows that has been read or left out. -/
theorem demo_of_action {v : Verb} {r : Reading} {path : String} {n : Nat} {limit : Option Nat}
    (h : r.action? v = some (.demo path n limit)) : n = (r.number? "rows").getD demoRows := by
  rw [Reading.action?] at h
  obtain ⟨about, -, h⟩ := Option.bind_eq_some_iff.mp h
  cases v with
  | check =>
      dsimp only at h
      split at h
      · cases h
      · cases h
  | inspect => cases h
  | load => cases h
  | demo =>
      cases h
      rfl
  | completions =>
      obtain ⟨shell, -, h⟩ := Option.map_eq_some_iff.mp h
      cases h

theorem readHelp_ne_run (words : List String) (a : Action) : readHelp words ≠ .ok (.run a) := by
  fun_cases readHelp words
  all_goals exact nofun

/-- An action is read from the words behind a verb. -/
theorem readVerb_of_read {arguments : List String} {a : Action}
    (h : read arguments = .ok (.run a)) :
    ∃ v words, readVerb v words = .ok (.run a) := by
  revert h
  fun_cases read arguments with
  | case2 word rest v _ => exact fun h => ⟨v, rest, h⟩
  | case3 rest => exact fun h => absurd h (readHelp_ne_run rest a)
  | _ => exact nofun

theorem action_of_readVerb {v : Verb} {words : List String} {a : Action}
    (h : readVerb v words = .ok (.run a)) : ∃ r : Reading, r.action? v = some a := by
  rw [readVerb] at h
  obtain ⟨reading, -, h⟩ := bind_ok_iff.mp h
  cases reading with
  | none => cases h
  | some r =>
      dsimp only at h
      cases haction : r.action? v with
      | none => rw [haction] at h; cases h
      | some a' =>
          rw [haction] at h
          cases h
          exact ⟨r, haction⟩

/-- The number of rows that is asked for is below `2 ^ 64`. -/
theorem rows_lt {arguments : List String} {path : String} {n : Nat} {limit : Option Nat}
    (h : read arguments = .ok (.run (.demo path n limit))) : n < 2 ^ 64 := by
  obtain ⟨v, words, hverb⟩ := readVerb_of_read h
  obtain ⟨r, haction⟩ := action_of_readVerb hverb
  rw [demo_of_action haction]
  cases hrows : r.number? "rows" with
  | none =>
      show demoRows < 2 ^ 64
      decide
  | some m => exact number_lt hrows

/-! ## How it can end -/

/-- The path that a table is saved at. -/
def destination (base : Place) (settings : Settings) (path : String) : Path :=
  .within base (withExtension settings.fileExtension path)

/-- How a command can end that saves a batch at a path, in chunks of at most `limit` bytes: the
directory that it leaves of another one, and what it says. -/
inductive SaveEnds (limit : Nat) (p : Path) (b : Batch) (d : Directory) :
    Directory × Outcome → Prop
  /-- It fails.  The path leads to what it led to, and all else is as it was, but for what a file
  under the provisional name would replace; nothing is left under that name. -/
  | failed {d' : Directory} (f : Failure) :
      d'.entry p = d.entry p →
      (∀ q, ¬ d.FileSpot (Snapshot.provisional p) q → d'.find? q = d.find? q) →
      (∀ content, d'.entry (Snapshot.provisional p) ≠ .ok (.file content)) →
      SaveEnds limit p b d (d', .failure f)
  /-- It succeeds.  A snapshot is at the path that has the rows of the batch and no chunk beyond the
  limit; all else is as it was, but for the provisional file, which is gone. -/
  | saved {d' : Directory} {place temporary : Place} {i : Snapshot.SnapshotInfo} {b' : Batch}
      (output : List String) :
      d.FileSpot p place → d.FileSpot (Snapshot.provisional p) temporary →
      Snapshot.info d' p = .ok i → i.totalRows = b.rows →
      (i.chunks.map Snapshot.SegmentInfo.rows).sum = b.rows →
      (∀ c ∈ i.chunks, c.length ≤ limit) →
      Snapshot.fetch d' p b.schema = .ok b' → b'.Agrees b →
      d'.find? temporary = none →
      (∀ q, q ≠ temporary → q ≠ place → d'.find? q = d.find? q) →
      SaveEnds limit p b d (d', .lines output)

/-- A command that ends with success has saved the batch. -/
theorem SaveEnds.saved_of_code {limit : Nat} {p : Path} {b : Batch} {d : Directory}
    {after : Directory × Outcome} (h : SaveEnds limit p b d after) (hcode : after.2.code = 0) :
    ∃ i b', Snapshot.info after.1 p = .ok i ∧ i.totalRows = b.rows ∧
      (∀ c ∈ i.chunks, c.length ≤ limit) ∧
      Snapshot.fetch after.1 p b.schema = .ok b' ∧ b'.Agrees b := by
  cases h with
  | failed f _ _ _ =>
      have hone : (Outcome.failure f).code = 1 := rfl
      exact absurd (hone.symm.trans hcode) Nat.one_ne_zero
  | saved _ _ _ hinfo htotal _ hchunks hfetch hagrees _ _ =>
      exact ⟨_, _, hinfo, htotal, hchunks, hfetch, hagrees⟩

/-- A command that ends with a failure leaves the destination as it was. -/
theorem SaveEnds.entry_of_code {limit : Nat} {p : Path} {b : Batch} {d : Directory}
    {after : Directory × Outcome} (h : SaveEnds limit p b d after) (hcode : after.2.code ≠ 0) :
    after.1.entry p = d.entry p := by
  cases h with
  | failed _ hentry _ _ => exact hentry
  | saved output => exact absurd (show (Outcome.lines output).code = 0 from rfl) hcode

/-- A table is saved in chunks within the limit, or all is as it was. -/
theorem demo_ends {base : Place} {settings : Settings} {path : String} {n : Nat} {d : Directory}
    (limit : Option Nat) (hrows : n < 2 ^ 64) (hleast : 1 ≤ limit.getD settings.maxChunkBytes)
    (hmost : limit.getD settings.maxChunkBytes ≤ chunkLimit) :
    SaveEnds (limit.getD settings.maxChunkBytes) (destination base settings path) (Demo.batch n) d
      (demo base settings path n limit d) := by
  rw [demo]
  have houtcome : Snapshot.SaveOutcome _ _ _ _ d
      (Snapshot.save (limit.getD settings.maxChunkBytes)
        (.within base (withExtension settings.fileExtension path)) (Demo.batch n) d) :=
    Snapshot.saveWith_outcome hleast hmost
  rw [destination]
  generalize Snapshot.save _ _ _ d = after at houtcome ⊢
  cases houtcome with
  | unwritten e hnone =>
      exact .failed e rfl (fun _ _ => rfl) (Snapshot.entry_of_no_spot hnone)
  | unsplit _ hspot hgone hsame =>
      obtain ⟨hothers, hentry, -, hleft⟩ := Snapshot.failed_effect hspot hgone hsame
      exact .failed _ hentry hothers hleft
  | unmoved e _ hspot hgone hsame =>
      obtain ⟨hothers, hentry, -, hleft⟩ := Snapshot.failed_effect hspot hgone hsame
      exact .failed _ hentry hothers hleft
  | stored hlayout hplace hspot _ hgone hsame hread =>
      have hlimit : limit.getD settings.maxChunkBytes < 2 ^ 31 :=
        Nat.lt_of_le_of_lt hmost (by decide)
      obtain ⟨i, hinfo, htotal, hsum, hchunks⟩ :=
        Snapshot.info_of_ofBatch hrows hlimit hlayout hread
      obtain ⟨b', hfetch, hagrees⟩ := Snapshot.fetch_agrees hrows hlimit hlayout hread
      exact .saved _ hplace hspot hinfo htotal hsum hchunks hfetch hagrees hgone hsame

end Command

/-! ## Settings -/

/-- Settings that a document holds have a limit that snapshots can be written with. -/
theorem Settings.limit_of_text {text : String} {s : Settings} (h : Settings.ofText text = .ok s) :
    1 ≤ s.maxChunkBytes ∧ s.maxChunkBytes ≤ chunkLimit := by
  rw [ofText] at h
  split at h
  · cases h
  · split at h
    · next hlimit =>
      cases h
      simpa using hlimit
    · cases h

/-- So have settings that are loaded, be they those of a file or the default ones. -/
theorem Settings.limit_of_load {d : Directory} {p : Path} {s : Settings}
    (h : Settings.load d p = .ok s) : 1 ≤ s.maxChunkBytes ∧ s.maxChunkBytes ≤ chunkLimit := by
  rw [load] at h
  split at h
  · cases h
    decide
  · cases h
  · split at h
    · cases h
    · next text _ =>
      cases htext : ofText text with
      | error e => rw [htext] at h; cases h
      | ok s' =>
          rw [htext] at h
          cases h
          exact limit_of_text htext

namespace Command

section
variable {arguments : List String} {base : Place} {config : Path} {d : Directory}

/-- An action is carried out under the settings that are loaded. -/
theorem execute_of_load {a : Action} {s : Settings} (hread : read arguments = .ok (.run a))
    (hload : Settings.load d config = .ok s) :
    execute base config arguments d = run base s a d := by
  rw [execute, hread, Settings.loadOrDefault, hload]

/-- An action is carried out all the same under settings that are rejected: under the default
ones. -/
theorem execute_of_rejected {a : Action} {f : Failure} (hread : read arguments = .ok (.run a))
    (hload : Settings.load d config = .error f) :
    execute base config arguments d = run base .default a d := by
  rw [execute, hread, Settings.loadOrDefault, hload]

end

/-- The limit of the settings reaches every chunk, and nothing but the settings decides on it.  For
every command line that asks for a table without a limit of its own, every file of settings and
every directory: under settings that are loaded, the command fails and leaves the destination as it
was, or saves a snapshot of as many rows as it was asked for in which no chunk is beyond the limit
of these settings.  Settings that are rejected do not make it fail: it does what it does under the
default settings, at their destination and within their limit. -/
theorem demo_under_settings {arguments : List String} {path : String} {n : Nat}
    (hread : read arguments = .ok (.run (.demo path n none))) (base : Place) (config : Path)
    (d : Directory) :
    (∀ s, Settings.load d config = .ok s →
      SaveEnds s.maxChunkBytes (destination base s path) (Demo.batch n) d
        (execute base config arguments d)) ∧
    (∀ f, Settings.load d config = .error f →
      execute base config arguments d = demo base .default path n none d ∧
      SaveEnds chunkLimit (destination base .default path) (Demo.batch n) d
        (execute base config arguments d)) := by
  have hrows := rows_lt hread
  constructor
  · intro s hload
    obtain ⟨hleast, hmost⟩ := Settings.limit_of_load hload
    rw [execute_of_load hread hload]
    exact demo_ends none hrows hleast hmost
  · intro f hload
    have hleast : 1 ≤ Settings.default.maxChunkBytes := by decide
    rw [execute_of_rejected hread hload]
    exact ⟨rfl, demo_ends none hrows hleast (Nat.le_refl chunkLimit)⟩

/-- A directory with nothing but a file of settings. -/
def configured (text : String) : Directory := ⟨[(["config.toml"], .file (Bytes.ofText text))]⟩

/-- Three rows are asked for under the settings of a text. -/
def demoThree (text : String) : Directory × Outcome :=
  execute [] (.ofPlace ["config.toml"]) ["demo", "out", "--rows", "3"] (configured text)

theorem read_demoThree :
    read ["demo", "out", "--rows", "3"] = .ok (.run (.demo "out" 3 none)) :=
  rfl

theorem load_configured (text : String) :
    Settings.load (configured text) (.ofPlace ["config.toml"]) =
      (Settings.ofText text).mapError .settings := by
  have hentry : (configured text).entry (.ofPlace ["config.toml"]) =
      .ok (.file (Bytes.ofText text)) := rfl
  rw [Settings.load, hentry]
  simp only [Bytes.toText_ofText]

theorem load_limit {text : String} {limit : Nat}
    (h : Settings.ofText text = .ok { Settings.default with maxChunkBytes := limit }) :
    Settings.load (configured text) (.ofPlace ["config.toml"]) =
      .ok { Settings.default with maxChunkBytes := limit } := by
  rw [load_configured, h]
  rfl

theorem destination_out (limit : Nat) :
    destination [] { Settings.default with maxChunkBytes := limit } "out" =
      .ofPlace ["out.vdbsnap"] := by
  show Path.within [] (withExtension Settings.default.fileExtension "out") =
    .ofPlace ["out.vdbsnap"]
  decide +kernel

/-- Three rows are saved within a limit of 4096 bytes, and not at all within a limit of 1. -/
theorem demo_under_settings_threeRows :
    read ["demo", "out", "--rows", "3"] = .ok (.run (.demo "out" 3 none)) ∧
    (∃ i, Snapshot.info (demoThree "[snapshot]\nmax_chunk_bytes = 4096\n").1
        (.ofPlace ["out.vdbsnap"]) = .ok i ∧ i.totalRows = 3 ∧ ∀ c ∈ i.chunks, c.length ≤ 4096) ∧
    (demoThree "[snapshot]\nmax_chunk_bytes = 1\n").2.code = 1 ∧
    (demoThree "[snapshot]\nmax_chunk_bytes = 1\n").1.entry (.ofPlace ["out.vdbsnap"]) =
      (configured "[snapshot]\nmax_chunk_bytes = 1\n").entry (.ofPlace ["out.vdbsnap"]) := by
  have hwide : Settings.ofText "[snapshot]\nmax_chunk_bytes = 4096\n" =
      .ok { Settings.default with maxChunkBytes := 4096 } := by decide +kernel
  have hnarrow : Settings.ofText "[snapshot]\nmax_chunk_bytes = 1\n" =
      .ok { Settings.default with maxChunkBytes := 1 } := by decide +kernel
  have hzero : (demoThree "[snapshot]\nmax_chunk_bytes = 4096\n").2.code = 0 := by decide +kernel
  have hone : (demoThree "[snapshot]\nmax_chunk_bytes = 1\n").2.code = 1 := by decide +kernel
  have hsaved : SaveEnds 4096 (.ofPlace ["out.vdbsnap"]) (Demo.batch 3) (configured _)
      (demoThree "[snapshot]\nmax_chunk_bytes = 4096\n") :=
    destination_out 4096 ▸ (demo_under_settings read_demoThree [] _ _).1 _ (load_limit hwide)
  have hfailed : SaveEnds 1 (.ofPlace ["out.vdbsnap"]) (Demo.batch 3) (configured _)
      (demoThree "[snapshot]\nmax_chunk_bytes = 1\n") :=
    destination_out 1 ▸ (demo_under_settings read_demoThree [] _ _).1 _ (load_limit hnarrow)
  obtain ⟨i, -, hinfo, htotal, hchunks, -⟩ := hsaved.saved_of_code hzero
  have hfails : (demoThree "[snapshot]\nmax_chunk_bytes = 1\n").2.code ≠ 0 := by
    rw [hone]
    exact Nat.one_ne_zero
  exact ⟨read_demoThree, ⟨i, hinfo, htotal, hchunks⟩, hone, hfailed.entry_of_code hfails⟩

/-- A limit of zero is rejected, and the rows are saved nevertheless. -/
theorem rejected_settings_pass :
    Settings.load (configured "[snapshot]\nmax_chunk_bytes = 0\n") (.ofPlace ["config.toml"]) =
      .error (.settings (.limitOutOfRange 0)) ∧
    read ["demo", "out", "--rows", "3"] = .ok (.run (.demo "out" 3 none)) ∧
    (configured "[snapshot]\nmax_chunk_bytes = 0\n").find? ["out.vdbsnap"] = none ∧
    (demoThree "[snapshot]\nmax_chunk_bytes = 0\n").2.code = 0 ∧
    ((demoThree "[snapshot]\nmax_chunk_bytes = 0\n").1.find? ["out.vdbsnap"]).isSome = true := by
  refine ⟨?_, read_demoThree, by decide +kernel, by decide +kernel, by decide +kernel⟩
  have htext : Settings.ofText "[snapshot]\nmax_chunk_bytes = 0\n" =
      .error (.limitOutOfRange 0) := by decide +kernel
  rw [load_configured, htext]
  rfl

end Command

end Columnar

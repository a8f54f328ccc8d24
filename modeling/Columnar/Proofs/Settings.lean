/-
# `Proofs.Settings` — settings are loaded as they were saved

The document of some settings has two sections, and reading it follows its
lines (`Proofs.Toml.Document`): each entry is read back whatever form its
text was written in (`Proofs.Toml.Text`), and the limit, which has to be in
its range, as the number that it is.  Saving makes the folders above the path
first (`Proofs.Folders`); where that succeeds the document can be written and
is what is loaded afterwards.
-/
import Columnar.Proofs.Bytes
import Columnar.Proofs.Folders
import Columnar.Proofs.Toml.Document
import Columnar.Settings.Store

namespace Columnar.Settings

open Toml

/-! ## The document -/

section
variable (s : Settings)

/-- The entries of the table `snapshot`. -/
def snapshotItems : List Item :=
  [⟨"max_chunk_bytes", (toString s.maxChunkBytes).toList, .int s.maxChunkBytes⟩,
    ⟨"sync", (toString s.sync).toList, .bool s.sync⟩,
    ⟨"file_extension", write s.fileExtension.toList, .text s.fileExtension⟩]

/-- The entries of the table `logging`. -/
def loggingItems : List Item := [⟨"filter", write s.logFilter.toList, .text s.logFilter⟩]

/-- The two sections, with an empty line between them. -/
def sections : List Char :=
  sectionText "snapshot" s.snapshotItems ++ '\n' :: (sectionText "logging" s.loggingItems ++ [])

/-- The two tables. -/
def tables : Entries :=
  [("snapshot", .table .header (s.snapshotItems.map Item.entry)),
    ("logging", .table .header (s.loggingItems.map Item.entry))]

variable {s}

theorem fits_of_limit (hmost : s.maxChunkBytes ≤ chunkLimit) :
    (s.maxChunkBytes : Int) ≤ Number.greatestInt64 :=
  Int.le_trans (Int.ofNat_le.mpr hmost) (by decide)

theorem snapshotItems_proper (hleast : 1 ≤ s.maxChunkBytes) (hmost : s.maxChunkBytes ≤ chunkLimit) :
    ∀ i ∈ s.snapshotItems, i.Proper := by
  have hlimit : PlainKey "max_chunk_bytes" := by decide
  have hsync : PlainKey "sync" := by decide
  have hextension : PlainKey "file_extension" := by decide
  exact List.forall_mem_cons.mpr ⟨⟨hlimit, laid_number hleast (fits_of_limit hmost)⟩,
    List.forall_mem_cons.mpr ⟨⟨hsync, laid_truth s.sync⟩,
      List.forall_mem_singleton.mpr ⟨hextension, laid_text s.fileExtension⟩⟩⟩

theorem loggingItems_proper (s : Settings) : ∀ i ∈ s.loggingItems, i.Proper := by
  have hfilter : PlainKey "filter" := by decide
  exact List.forall_mem_singleton.mpr ⟨hfilter, laid_text s.logFilter⟩

/-- The fields are found again among the entries. -/
theorem ofEntries_tables (s : Settings) : ofEntries? s.tables = some s := by
  have hfirst : s.tables.value? "snapshot" =
      some (.table .header (s.snapshotItems.map Item.entry)) := rfl
  have hsecond : s.tables.value? "logging" =
      some (.table .header (s.loggingItems.map Item.entry)) := rfl
  have hsnapshot : fields? ["max_chunk_bytes", "sync", "file_extension"]
      (.table .header (s.snapshotItems.map Item.entry)) =
        some [some (.int s.maxChunkBytes), some (.bool s.sync), some (.text s.fileExtension)] := rfl
  have hlogging : fields? ["filter"] (.table .header (s.loggingItems.map Item.entry)) =
      some [some (.text s.logFilter)] := rfl
  have hlimit : count? (.int s.maxChunkBytes) = some s.maxChunkBytes := by
    rw [count?, if_pos (Int.natCast_nonneg s.maxChunkBytes)]
    rfl
  rw [ofEntries?, hfirst, hsecond]
  simp only [Option.getD_some, hsnapshot, hlogging, Option.bind_eq_bind, Option.bind_some,
    orDefault, hlimit, flag?, text?, Option.pure_def]

theorem document_sections (hmost : s.maxChunkBytes ≤ chunkLimit) :
    s.document? = some (String.ofList s.sections) := by
  rw [document?, if_pos (fits_of_limit hmost)]
  congr 2
  simp only [sections, sectionText, snapshotItems, loggingItems, Item.line, line, List.flatMap_cons,
    List.flatMap_nil, List.append_assoc, List.cons_append, List.nil_append, List.append_nil]
  rfl

theorem read_sections (hleast : 1 ≤ s.maxChunkBytes) (hmost : s.maxChunkBytes ≤ chunkLimit) :
    Document.read? (String.ofList s.sections) = some s.tables := by
  have hnames : "snapshot" ≠ "logging" := by decide
  have hkeys : ["max_chunk_bytes", "sync", "file_extension"].Nodup := by decide
  have hlogging : Document.Reads
      ⟨(.header, [("snapshot", .table .header (s.snapshotItems.map Item.entry))]), ["snapshot"]⟩
      (sectionText "logging" s.loggingItems ++ []) ⟨(.header, s.tables), ["logging"]⟩ :=
    Document.reads_section (by decide) (List.forall_mem_singleton.mpr hnames) s.loggingItems_proper
      (List.nodup_singleton "filter") (Document.reads_end _)
  have hdocument : Document.start.Reads s.sections ⟨(.header, s.tables), ["logging"]⟩ :=
    Document.reads_section (by decide) (List.forall_mem_nil _) (snapshotItems_proper hleast hmost)
      hkeys (Document.reads_blank hlogging)
  have hchars : (String.ofList s.sections).toList = s.sections := String.toList_ofList
  rw [← hchars] at hdocument
  refine Document.read_of_reads ?_ hdocument
  rw [hchars]
  rintro c ⟨⟩
  decide

/-- The settings are read from the document that holds them. -/
theorem ofText_document (hleast : 1 ≤ s.maxChunkBytes) (hmost : s.maxChunkBytes ≤ chunkLimit) :
    ∃ text, s.document? = some text ∧ ofText text = .ok s := by
  refine ⟨_, document_sections hmost, ?_⟩
  rw [ofText, read_sections hleast hmost, Option.bind_some, ofEntries_tables]
  dsimp only
  rw [decide_eq_true hleast, decide_eq_true hmost]
  rfl

end

/-! ## The file -/

section
variable {s : Settings} {p : Path} {d d' : Directory}

/-- Saving makes the folders above the path, and writes the document to its spot. -/
theorem save_eq {text : String} (h : s.document? = some text) :
    s.save p d = Failure.ofFile (d.makeAbove p >>= fun d => d.write p (Bytes.ofText text)) := by
  rw [save, h, Directory.makeAbove]
  cases p.above? with
  | none => rfl
  | some folder =>
      dsimp only
      cases d.makeFolders folder with
      | error e => rfl
      | ok d₁ => rfl

theorem ofFile_ok_iff {α : Type} {r : Except FileError α} {a : α} :
    Failure.ofFile r = .ok a ↔ r = .ok a := by
  cases r with
  | error e =>
      constructor
      · intro h
        cases h
      · intro h
        cases h
  | ok b =>
      constructor
      · intro h
        exact congrArg _ (Except.ok.inj h)
      · intro h
        exact congrArg _ (Except.ok.inj h)

/-- What is loaded is what the file at the spot holds. -/
theorem load_of_spot {place : Place} (hs : d.FileSpot p place) {text : String}
    (hfile : d.find? place = some (.file (Bytes.ofText text))) :
    load d p = (ofText text).mapError .settings := by
  rw [load, Directory.entry_of_spot hs, hfile]
  simp only [Option.elim_some, Bytes.toText_ofText]

/-- Settings are loaded as they were saved, whatever characters they hold.  They are read from the
document that they are written as; they can be saved wherever a file can be put; what was saved is
loaded again; and only files keep them from being saved. -/
theorem load_of_save (hleast : 1 ≤ s.maxChunkBytes) (hmost : s.maxChunkBytes ≤ chunkLimit)
    (p : Path) (d : Directory) :
    (∃ text, s.document? = some text ∧ ofText text = .ok s) ∧
    (d.Writable p → ∃ d', s.save p d = .ok d') ∧
    (∀ d', s.save p d = .ok d' → load d' p = .ok s) ∧
    (∀ e, s.save p d = .error e → ∃ reason, e = .file reason) := by
  obtain ⟨text, htext, hread⟩ := ofText_document hleast hmost
  have hsave := save_eq (p := p) (d := d) htext
  refine ⟨⟨text, htext, hread⟩, ?_, ?_, ?_⟩
  · intro hwritable
    obtain ⟨d₁, hfolders, hspot⟩ := hwritable.spot
    have hwrite : d₁.write p (Bytes.ofText text) = .ok _ :=
      Directory.write_ok_iff.mpr ⟨_, hspot, rfl⟩
    exact ⟨_, hsave.trans (ofFile_ok_iff.mpr (bind_ok_iff.mpr ⟨d₁, hfolders, hwrite⟩))⟩
  · intro d' h
    obtain ⟨d₁, -, hwrite⟩ := bind_ok_iff.mp (ofFile_ok_iff.mp (hsave.symm.trans h))
    obtain ⟨place, hspot, rfl⟩ := Directory.write_ok_iff.mp hwrite
    have hfile := d₁.find_put (.file (Bytes.ofText text)) hspot.ne_nil
    have hkept := hspot.of_kept (d₁.foldersKept_put _ hspot.free) (by rw [hfile]; exact nofun)
    rw [load_of_spot hkept hfile, hread]
    rfl
  · intro e h
    rw [hsave] at h
    cases hfile : d.makeAbove p >>= fun d => d.write p (Bytes.ofText text) with
    | ok d' => rw [hfile] at h; cases h
    | error reason =>
        rw [hfile] at h
        cases h
        exact ⟨reason, rfl⟩

end

/-- Settings in which each text needs a form of its own. -/
def quoting : Settings := ⟨65536, false, "\"\"\"'\\", "\nwarn,\"\"\"io\"=trace\"\"" ⟩

/-- Quotes at the end of a text and a line end at its beginning are found again, in a file two
folders down. -/
theorem load_of_save_quoting : ∃ d',
    quoting.save ⟨[], ["home", "conf", "vdb.toml"]⟩ .empty = .ok d' ∧
    load d' ⟨[], ["home", "conf", "vdb.toml"]⟩ = .ok quoting := by
  have hempty : ∀ place content, Directory.empty.find? place ≠ some (.file content) := by
    intro place content
    rw [Directory.find?]
    split
    · intro h
      cases h
    · intro h
      cases h
  have hgood : ∀ name ∈ ["home", "conf", "vdb.toml"], Directory.GoodName name := by
    simp only [Directory.GoodName, Path.IsName]
    decide +kernel
  have hfree : Directory.empty.find? ["home", "conf", "vdb.toml"] ≠ some .folder := by
    intro h
    cases h
  have hwritable : Directory.empty.Writable ⟨[], ["home", "conf", "vdb.toml"]⟩ :=
    ⟨List.cons_ne_nil _ _, hgood, by decide +kernel, rfl, fun _ _ _ _ => hempty _, hfree⟩
  obtain ⟨-, hsave, hload, -⟩ := load_of_save (s := quoting) (by decide) (by decide)
    ⟨[], ["home", "conf", "vdb.toml"]⟩ .empty
  obtain ⟨d', hd⟩ := hsave hwritable
  exact ⟨d', hd, hload d' hd⟩

end Columnar.Settings

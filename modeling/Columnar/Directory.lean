/-
# `Directory` — a tree of named files

What saving, loading and configuring act on, as a value: each operation
takes a directory and answers with the one it leaves behind, or with the
reason why it changed nothing.

An entry is known by its `Place`, the names on the way to it.  What a user
writes is a `Path`, and that has to be walked: each part but the last has to
be a folder that exists, also if the next part leads back out of it.
-/
import Columnar.Bytes

namespace Columnar

/-- The names along the way from the top to an entry.  The top itself is a folder and has no
entry of its own. -/
abbrev Place := List String

/-- A path as it is written: the folder it starts from, and what stands between its slashes. -/
structure Path where
  start : Place
  parts : List String
deriving DecidableEq, Repr

namespace Path

/-- The path that a text writes, from a folder on or, with a slash in front, from the top on. -/
def within (base : Place) (s : String) : Path :=
  ⟨if s.toList.head? = some '/' then [] else base, (s.toList.splitOn '/').map String.ofList⟩

/-- The path of a place. -/
def ofPlace (p : Place) : Path := ⟨[], p⟩

/-- A part that stays in its folder. -/
def isIdle (part : String) : Bool := part = "" || part = "."

/-- A part that names an entry of its folder. -/
def IsName (part : String) : Prop := isIdle part = false ∧ part ≠ ".."

/-- The parts without those at the end that stay in their folder; the last one comes first. -/
def trimmed (p : Path) : List String := p.parts.reverse.dropWhile isIdle

/-- The path of what the last part is in; `none` if nothing is left above it. -/
def above? (p : Path) : Option Path :=
  match p.trimmed with
  | [] => none
  | _ :: rest => if rest.isEmpty then none else some { p with parts := rest.reverse }

/-- The path with a suffix to its name.  A path without a name gets a last part that is the
suffix. -/
def extended (p : Path) (suffix : String) : Path :=
  match p.trimmed with
  | [] => { p with parts := p.parts ++ [suffix] }
  | name :: rest =>
    if name = ".." then { p with parts := p.parts ++ [suffix] }
    else { p with parts := rest.reverse ++ [name ++ suffix] }

end Path

inductive Entry where
  | file (content : Bytes)
  | folder
deriving DecidableEq

/-- Why an operation on files fails. -/
inductive FileError where
  | missing
  | isFolder
  | notFolder
  | taken
  /-- The path leads to a folder by way of itself. -/
  | busy
  | tooLong
  /-- The path holds a zero byte. -/
  | zeroByte
  | notText
deriving DecidableEq, Repr

def FileError.message : FileError → String
  | missing => "No such file or directory (os error 2)"
  | isFolder => "Is a directory (os error 21)"
  | notFolder => "Not a directory (os error 20)"
  | taken => "File exists (os error 17)"
  | busy => "Device or resource busy (os error 16)"
  | tooLong => "File name too long (os error 36)"
  | zeroByte => "file name contained an unexpected NUL byte"
  | notText => "stream did not contain valid UTF-8"

/-- A tree of files. -/
structure Directory where
  entries : List (Place × Entry)

namespace Directory

/-- The directory without files. -/
def empty : Directory := ⟨[]⟩

/-! ## Entries -/

/-- The entry at a place. -/
def find? (d : Directory) (p : Place) : Option Entry :=
  if p = [] then some .folder else d.entries.lookup p

/-- The directory without the entry at a place. -/
def erase (d : Directory) (p : Place) : Directory := ⟨d.entries.filter (·.1 != p)⟩

/-- The directory with an entry at a place, in place of any that was there. -/
def put (d : Directory) (p : Place) (e : Entry) : Directory := ⟨(p, e) :: (d.erase p).entries⟩

/-- The entries in a folder and their names, in the order of the names. -/
def listing (d : Directory) (folder : Place) : List (String × Entry) :=
  (d.entries.filterMap fun e =>
    if e.1.dropLast = folder then e.1.getLast?.map fun name => (name, e.2) else none).mergeSort
      fun a b => a.1 ≤ b.1

/-! ## Paths -/

/-- Bytes that a name may have. -/
def nameLimit : Nat := 255

/-- Bytes that a whole path may have. -/
def pathLimit : Nat := 4095

/-- Checks that a path can be written down. -/
def check (p : Path) : Except FileError Unit :=
  let text := "/".intercalate p.parts
  if text.toList.any (· = '\x00') then .error .zeroByte
  else if pathLimit < text.utf8ByteSize then .error .tooLong
  else .ok ()

/-- The place of a name in a folder. -/
def child (folder : Place) (name : String) : Except FileError Place :=
  if nameLimit < name.utf8ByteSize then .error .tooLong else .ok (folder ++ [name])

/-- Where the parts of a path lead; the last step may lead to a place without an entry. -/
def walk (d : Directory) : Place → List String → Except FileError Place
  | place, [] => .ok place
  | place, part :: rest =>
    match d.find? place with
    | none => .error .missing
    | some (.file _) => .error .notFolder
    | some .folder =>
      if Path.isIdle part then d.walk place rest
      else if part = ".." then d.walk place.dropLast rest
      else
        match child place part with
        | .error e => .error e
        | .ok next => d.walk next rest

/-- The entry at a path, or why there is none. -/
def entry (d : Directory) (p : Path) : Except FileError Entry := do
  check p
  match d.find? (← d.walk p.start p.parts) with
  | some e => .ok e
  | none => .error .missing

/-- Where something with a new name would go: the folder, the last part of the path, and whether
a slash stands behind it. -/
structure Spot where
  folder : Place
  last : String
  slash : Bool

/-- The last part is a name. -/
def Spot.named (s : Spot) : Bool := s.last != "." && s.last != ".."

/-- Where the last part of a path would go. -/
def spot (d : Directory) (p : Path) : Except FileError Spot := do
  check p
  let reversed := p.parts.reverse
  let (last, above) := match reversed.dropWhile (· = "") with
    | [] => (".", [])
    | last :: above => (last, above.reverse)
  let folder ← d.walk p.start above
  match d.find? folder with
  | none => .error .missing
  | some (.file _) => .error .notFolder
  | some .folder => .ok ⟨folder, last, reversed.head? = some ""⟩

/-! ## Files -/

/-- The content of a file. -/
def read (d : Directory) (p : Path) : Except FileError Bytes := do
  match ← d.entry p with
  | .file content => .ok content
  | .folder => .error .isFolder

/-- Writes a file, in place of any file that was there. -/
def write (d : Directory) (p : Path) (content : Bytes) : Except FileError Directory := do
  let s ← d.spot p
  if s.slash || !s.named then throw .isFolder
  let place ← child s.folder s.last
  match d.find? place with
  | some .folder => .error .isFolder
  | _ => .ok (d.put place (.file content))

/-- Removes a file. -/
def remove (d : Directory) (p : Path) : Except FileError Directory := do
  let s ← d.spot p
  let _ ← d.read p
  return d.erase (s.folder ++ [s.last])

/-- Moves a file, in place of any file that was there. -/
def rename (d : Directory) (source target : Path) : Except FileError Directory := do
  let s ← d.spot source
  let t ← d.spot target
  if !s.named || !t.named then throw .busy
  let old ← child s.folder s.last
  let content ← match d.find? old with
    | none => throw .missing
    | some .folder => throw .isFolder
    | some (.file content) => pure content
  let new ← child t.folder t.last
  if s.slash || t.slash then throw .notFolder
  match d.find? new with
  | some .folder => .error .isFolder
  | _ => .ok ((d.erase old).put new (.file content))

/-- The directory after an operation; one that fails leaves it as it was. -/
def attempt (d : Directory) (operation : Directory → Except FileError Directory) : Directory :=
  match operation d with
  | .ok after => after
  | .error _ => d

/-! ## Folders -/

/-- There is a folder at the path. -/
def hasFolder (d : Directory) (p : Path) : Bool :=
  match d.entry p with
  | .ok .folder => true
  | _ => false

/-- Makes a folder. -/
def makeFolder (d : Directory) (p : Path) : Except FileError Directory := do
  let s ← d.spot p
  if !s.named then throw .taken
  let place ← child s.folder s.last
  match d.find? place with
  | some _ => .error .taken
  | none => .ok (d.put place .folder)

/-- Makes a folder unless there is one. -/
def ensureFolder (d : Directory) (p : Path) : Except FileError Directory :=
  match d.makeFolder p with
  | .error .taken => if d.hasFolder p then .ok d else .error .taken
  | r => r

/-- Makes a folder and what is missing above it, at most `depth` folders. -/
def makeFoldersUpTo : (depth : Nat) → Directory → Path → Except FileError Directory
  | 0, d, p => d.ensureFolder p
  | depth + 1, d, p =>
    match d.ensureFolder p, p.above? with
    | .error .missing, some above => do
      let d ← makeFoldersUpTo depth d above
      d.ensureFolder p
    | r, _ => r

/-- Makes a folder and all that is missing above it. -/
def makeFolders (d : Directory) (p : Path) : Except FileError Directory :=
  makeFoldersUpTo p.parts.length d p

end Directory

end Columnar

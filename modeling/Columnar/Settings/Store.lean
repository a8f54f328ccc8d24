/-
# `Settings.Store` — settings in a file

Without a file the settings are the default ones.  Saving makes the folders
that the file needs.
-/
import Columnar.Failure

namespace Columnar.Settings

/-- The settings in the file at a path. -/
def load (d : Directory) (p : Path) : Except Failure Settings :=
  match d.entry p with
  | .error _ => .ok default
  | .ok .folder => .error (.file .isFolder)
  | .ok (.file content) =>
    match Bytes.toText? content with
    | none => .error (.file .notText)
    | some s => (ofText s).mapError .settings

/-- The settings in the file at a path, or the default ones if it cannot be read. -/
def loadOrDefault (d : Directory) (p : Path) : Settings :=
  match load d p with
  | .ok s => s
  | .error _ => default

/-- Saves settings in a file. -/
def save (s : Settings) (p : Path) (d : Directory) : Except Failure Directory := do
  let d ← match p.above? with
    | some folder => Failure.ofFile (d.makeFolders folder)
    | none => pure d
  match s.document? with
  | none => throw (.settings .invalid)
  | some text => Failure.ofFile (d.write p (Bytes.ofText text))

end Columnar.Settings

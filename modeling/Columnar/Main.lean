/-
# `Main` — the program

Reads the part of the file system that a command is about into a directory,
carries the command out there, and writes what has changed back.
-/
import Columnar.Command.Run

namespace Columnar.Program

/-! ## The file system -/

/-- The place as the system writes it. -/
def written (p : Place) : String := "/" ++ "/".intercalate p

/-- What is found at a place. -/
def look (p : Place) : IO (Option Entry) := do
  try
    let content ← IO.FS.readBinFile (written p)
    return some (.file content.data.toList)
  catch
    | .noFileOrDirectory _ _ _ => return none
    | _ => return some .folder

/-- The places that a path passes. -/
def stations (p : Path) : List Place :=
  let step (seen : List Place × Place) (part : String) : List Place × Place :=
    let (done, here) := seen
    let next :=
      if Path.isIdle part then here else if part = ".." then here.dropLast else here ++ [part]
    (next :: done, next)
  let (onward, _) := p.parts.foldl step ([], p.start)
  (List.range (p.start.length + 1)).map (p.start.take ·) ++ onward.reverse

/-- The directory of all that is found at some places. -/
def survey (places : List Place) : IO Directory := do
  let mut d := Directory.empty
  for p in places do
    if (d.find? p).isNone then
      match ← look p with
      | some e => d := d.put p e
      | none => pure ()
  return d

/-- Writes a file under a provisional name and moves it to its own. -/
def store (p : Place) (content : Bytes) (sync : Bool) : IO Unit := do
  let temporary := written p ++ ".partial"
  let handle ← IO.FS.Handle.mk temporary .write
  handle.write ⟨content.toArray⟩
  if sync then handle.flush
  IO.FS.rename temporary (written p)

/-- Writes back what has changed at some places. -/
def restore (places : List Place) (sync : Bool) (before after : Directory) : IO Unit := do
  for p in places do
    match before.find? p, after.find? p with
    | some (.file _), none => IO.FS.removeFile (written p)
    | old, some (.file content) =>
      if old != some (.file content) then store p content sync
    | _, _ => pure ()

/-! ## The command line -/

/-- Where settings are kept. -/
def configPath (base : Place) : IO Path := do
  if let some p ← IO.getEnv "VDB_CONFIG" then return .within base p
  if let some p ← IO.getEnv "XDG_CONFIG_HOME" then
    return .within base (p ++ "/vdb/config.toml")
  let home := (← IO.getEnv "HOME").getD "/"
  return .within base (home ++ "/.config/vdb/config.toml")

/-- The paths that a command line is about. -/
def subjects (base : Place) (settings : Settings) (arguments : List String) : List Path :=
  match Command.read arguments with
  | .ok (.run (.inspect p _)) => [.within base p]
  | .ok (.run (.load p _ _)) => [.within base p]
  | .ok (.run (.demo p _ _)) =>
    let target := Path.within base (Command.withExtension settings.fileExtension p)
    [Snapshot.provisional target, target]
  | _ => []

end Columnar.Program

open Columnar Program in
def main (arguments : List String) : IO UInt32 := do
  let base := (toString (← IO.currentDir)).splitOn "/" |>.filter (· != "")
  let config ← configPath base
  let settings := Settings.loadOrDefault (← survey (stations config)) config
  let places := (subjects base settings arguments).flatMap stations
  let before ← survey (stations config ++ places)
  let (after, outcome) := Command.execute base config arguments before
  restore places settings.sync before after
  IO.print outcome.output
  IO.eprint outcome.errors
  return outcome.code.toUInt32

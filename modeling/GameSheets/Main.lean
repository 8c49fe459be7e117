/-
  The command: a run on the disk of this machine, with the time of its clock.
-/
import GameSheets.CommandLine.Run
import Std.Time.DateTime.Timestamp

namespace GameSheets

namespace Disk

/-- What an action finds; `none` when it fails. -/
def attempt {α : Type} (action : IO α) : IO (Option α) := do
  try
    return some (← action)
  catch _ => return none

/-- The entries of a directory of this machine. -/
def entriesOf (directory : String) : IO (Array IO.FS.DirEntry) :=
  (IO.FS.DirEntry.mk directory "").root.readDir

/-- An entry of a directory of this machine. -/
def entryOf (entry : IO.FS.DirEntry) : IO DirectoryEntry := do
  let metadata ← attempt entry.path.metadata
  return ⟨some entry.fileName, metadata.any (·.type == .file)⟩

/-- The disk of this machine. -/
def machine : Disk IO where
  isDirectory path := do return (← attempt (entriesOf path)).isSome
  entries path := attempt do (← entriesOf path).toList.mapM entryOf
  read path := attempt (IO.FS.readFile path)
  makeDirectories path := do
    -- the empty path is that of the working directory, which is there
    let made ← attempt do
      if path ≠ "" then IO.FS.createDirAll path
    return made.isSome
  writeFile path text := do return (← attempt (IO.FS.writeFile path text)).isSome

end Disk

/-- The time of this machine's clock. -/
def clockTime : IO Timestamp := do
  let now ← Std.Time.Timestamp.now
  return Timestamp.ofUnixSeconds now.toSecondsSinceUnixEpoch.val

/-- A log record on one line. -/
def LogRecord.line (record : LogRecord) : String :=
  record.level.name ++ " " ++ record.message
    ++ String.join (record.fields.map fun (key, value) => " " ++ key ++ "=" ++ value)

end GameSheets

open GameSheets in
/-- Carries out the words of the command line. -/
def main (words : List String) : IO UInt32 := do
  let ending ← CommandLine.execute Disk.machine (← clockTime) words
  for record in ending.log do
    IO.eprintln record.line
  IO.print ending.output
  if let some error := ending.runError then
    IO.eprintln ("Error: " ++ error)
  if let some error := ending.usageError then
    IO.eprintln ("error: " ++ error)
  return ending.exitCode.toUInt32

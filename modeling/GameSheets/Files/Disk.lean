/-
  Disks, as far as a run knows them.

  A run reads texts, lists directories and writes texts, and does so in any monad: a real disk
  answers in `IO`, a file tree in memory as a state.
-/

namespace GameSheets

/-- An entry of a directory; names that are not UTF-8 are not known. -/
structure DirectoryEntry where
  name : Option String
  isFile : Bool
  deriving DecidableEq, Repr

/-- The operations of a disk. -/
structure Disk (m : Type → Type) where
  isDirectory : String → m Bool
  /-- The entries of a directory in any order; `none` when it cannot be listed. -/
  entries : String → m (Option (List DirectoryEntry))
  /-- The text of a file; `none` when it cannot be read or is not UTF-8. -/
  read : String → m (Option String)
  /-- Makes a directory with those above it, as far as they are not there; `false` when that
  fails. -/
  makeDirectories : String → m Bool
  /-- Makes a file in a directory that is there, or replaces one; `false` when that fails. -/
  writeFile : String → String → m Bool

end GameSheets

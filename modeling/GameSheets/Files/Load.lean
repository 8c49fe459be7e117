/-
  Loading the sheets of an input: a workbook document, or a directory of them.

  Of a directory, the regular files with the ending `json` are read in the order of their names;
  names that start with `~` or the comment mark are passed over.  The first file that cannot be
  read, or that is no workbook, ends the load.
-/
import GameSheets.Files.Disk
import GameSheets.Files.Path
import GameSheets.Workbook.Reader

namespace GameSheets

/-- Why an input cannot be loaded. -/
inductive LoadError
  | unreadable (path : String)
  | invalid (path : String) (fault : Document.Fault)
  deriving DecidableEq, Repr

namespace LoadError

/-- The error in words. -/
def message : LoadError → String
  | unreadable path => "Failed to read " ++ path
  | invalid path _ => "Invalid workbook " ++ path

end LoadError

namespace DirectoryEntry

/-- The name of an entry that holds a workbook document. -/
def documentName? (entry : DirectoryEntry) : Option String :=
  entry.name.filter fun name =>
    name.toList.head? != some '~' && !isComment name && entry.isFile
      && Path.ending? name == some "json"

end DirectoryEntry

namespace Load

/-- The paths of the documents in a directory, in the order of their names. -/
def documents (directory : String) (entries : List DirectoryEntry) : List String :=
  ((entries.filterMap (·.documentName?)).mergeSort fun name other => decide (name ≤ other)).map
    (Path.join directory)

variable {m : Type → Type} [Monad m]

/-- The sheets of one document. -/
def sheetsOf (disk : Disk m) (path : String) : m (Except LoadError (List Sheet)) := do
  match ← disk.read path with
  | none => return .error (.unreadable path)
  | some text => return (Workbook.readSheets text).mapError (LoadError.invalid path)

/-- The sheets of documents, one after another. -/
def sheetsOfAll (disk : Disk m) : List String → m (Except LoadError (List Sheet))
  | [] => return .ok []
  | path :: rest => do
    match ← sheetsOf disk path with
    | .error cause => return .error cause
    | .ok sheets =>
      match ← sheetsOfAll disk rest with
      | .error cause => return .error cause
      | .ok others => return .ok (sheets ++ others)

/-- The sheets of an input. -/
def sheets (disk : Disk m) (path : String) : m (Except LoadError (List Sheet)) := do
  if ← disk.isDirectory path then
    match ← disk.entries path with
    | none => return .error (.unreadable path)
    | some entries => sheetsOfAll disk (documents path entries)
  else sheetsOfAll disk [path]

end Load

end GameSheets

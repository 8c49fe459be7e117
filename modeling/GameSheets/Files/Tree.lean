/-
  File trees in memory.

  A tree knows the entries at absolute locations, a location being the names on the way from the
  root.  Paths are followed step by step: each step but the last must lead through a directory, and
  two dots lead to the directory above, the root being above itself.
-/
import GameSheets.Files.Disk
import GameSheets.Files.Path

namespace GameSheets

-- The bytes of a file are compared with the core instance wherever this module is read.
attribute [local instance (high)] ByteArray.instDecidableEq

/-- The names on the way from the root. -/
abbrev Location := List String

/-- What stands at a location. -/
inductive TreeEntry
  | directory
  | file (bytes : ByteArray)
  deriving DecidableEq

/-- The entries of a tree, and the location that relative paths start from. -/
structure FileTree where
  entries : List (Location × TreeEntry)
  workingDirectory : Location

/-- Why a path leads nowhere. -/
inductive WalkFault
  | missing
  | blocked
  deriving DecidableEq, Repr

namespace FileTree

/-! ## Locations -/

/-- What stands at a location; the root is a directory. -/
def lookup? (tree : FileTree) (location : Location) : Option TreeEntry :=
  if location = [] then some .directory
  else (tree.entries.find? (·.1 = location)).map (·.2)

/-- The tree with an entry at a location. -/
def place (tree : FileTree) (location : Location) (entry : TreeEntry) : FileTree :=
  { tree with
    entries := (location, entry) :: tree.entries.filter (·.1 ≠ location) }

/-- A name that a disk can hold: at most 255 bytes, and no zero among them. -/
def isName (name : String) : Bool :=
  name.utf8ByteSize ≤ 255 && !name.toList.contains '\x00'

/-- Follows steps from a location.  The last one may lead to a place where nothing stands. -/
def walk (tree : FileTree) (location : Location) : List PathStep → Except WalkFault Location
  | [] => .ok location
  | step :: rest =>
    match tree.lookup? location with
    | none => .error .missing
    | some (.file _) => .error .blocked
    | some .directory =>
      match step with
      | .root => walk tree [] rest
      | .here => walk tree location rest
      | .up => walk tree location.dropLast rest
      | .name name =>
        if isName name then walk tree (location ++ [name]) rest else .error .blocked

/-- The location of a path.  The empty path has none. -/
def locate (tree : FileTree) (path : String) : Except WalkFault Location :=
  if path = "" then .error .missing else tree.walk tree.workingDirectory (Path.steps path)

/-- What stands at a path. -/
def entryAt? (tree : FileTree) (path : String) : Option TreeEntry :=
  match tree.locate path with
  | .ok location => tree.lookup? location
  | .error _ => none

/-- The path can only be that of a directory. -/
def endsInDirectory (path : String) : Bool :=
  match path.toList.reverse with
  | '/' :: _ => true
  | '.' :: '/' :: _ => true
  | _ => false

/-! ## Reading -/

/-- A directory stands at the path. -/
def isDirectory (tree : FileTree) (path : String) : Bool :=
  match tree.entryAt? path with
  | some .directory => true
  | _ => false

/-- The text of a file. -/
def read? (tree : FileTree) (path : String) : Option String :=
  match tree.entryAt? path with
  | some (.file bytes) => if endsInDirectory path then none else String.fromUTF8? bytes
  | _ => none

/-- The entry that a directory at a location has by way of a location in the tree. -/
def child? (location : Location) (entry : Location × TreeEntry) : Option DirectoryEntry :=
  if entry.1.dropLast = location then
    entry.1.getLast?.map fun name => ⟨some name, entry.2 != .directory⟩
  else none

/-- The entries of the directory at a path. -/
def list? (tree : FileTree) (path : String) : Option (List DirectoryEntry) :=
  if tree.isDirectory path then
    match tree.locate path with
    | .ok location => some (tree.entries.filterMap (child? location))
    | .error _ => none
  else none

/-! ## Writing -/

/-- Makes one directory, where nothing stands yet. -/
def makeDirectory (tree : FileTree) (path : String) : Except WalkFault FileTree := do
  let location ← tree.locate path
  match tree.lookup? location with
  | some _ => .error .blocked
  | none => .ok (tree.place location .directory)

/-- Makes a directory with those above it, going up at most `steps` directories. -/
def makeDirectories (tree : FileTree) : Nat → String → Option FileTree
  | 0, _ => none
  | steps + 1, path =>
    if path = "" then some tree
    else
      match tree.makeDirectory path with
      | .ok made => some made
      | .error .blocked => if tree.isDirectory path then some tree else none
      | .error .missing => do
        let above ← makeDirectories tree steps (← Path.parent? path)
        match above.makeDirectory path with
        | .ok made => some made
        | .error _ => if above.isDirectory path then some above else none

/-- Writes a file into a directory that stands. -/
def put? (tree : FileTree) (path : String) (bytes : ByteArray) : Option FileTree :=
  if endsInDirectory path then none
  else
    match tree.locate path with
    | .error _ => none
    | .ok location =>
      match tree.lookup? location with
      | some .directory => none
      | _ => some (tree.place location (.file bytes))

/-- Makes a directory with all those above it: there are no more of them than steps on the way. -/
def makeAll? (tree : FileTree) (path : String) : Option FileTree :=
  tree.makeDirectories ((Path.steps path).length + 1) path

/-- Writes a file with the directories above it. -/
def write? (tree : FileTree) (path : String) (bytes : ByteArray) : Option FileTree :=
  match Path.parent? path with
  | none => tree.put? path bytes
  | some directory => (tree.makeAll? directory).bind (·.put? path bytes)

/-! ## As a disk -/

/-- Takes the place of the tree, if there is one; whether there is. -/
def become (changed : Option FileTree) : StateM FileTree Bool := do
  match changed with
  | none => return false
  | some tree => do
    set tree
    return true

/-- A file tree as a disk.  What fails leaves the tree as it is. -/
def disk : Disk (StateM FileTree) where
  isDirectory path := do return (← get).isDirectory path
  entries path := do return (← get).list? path
  read path := do return (← get).read? path
  makeDirectories path := do become ((← get).makeAll? path)
  writeFile path text := do become ((← get).put? path text.toUTF8)

end FileTree

end GameSheets

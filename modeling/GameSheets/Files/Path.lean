/-
  Paths as texts.

  A path is a sequence of components between slashes.  Repeated slashes and single dots say
  nothing, except a single dot at the very front of a relative path; two dots stay, since what lies
  above a directory is for the disk to say.
-/
import GameSheets.Text.Split

namespace GameSheets

/-- One step of a path. -/
inductive PathStep
  | root
  | here
  | up
  | name (name : String)
  deriving DecidableEq, Repr

namespace Path

/-! ## Components -/

/-- The step that the text between two slashes makes behind the front of a path. -/
def step? (text : List Char) : Option PathStep :=
  if text = [] ∨ text = ['.'] then none
  else if text = ['.', '.'] then some .up
  else some (.name (String.ofList text))

/-- The steps of a path. -/
def steps (path : String) : List PathStep :=
  match Text.pieces (· == '/') path.toList with
  | [] => []
  | first :: rest =>
    let front : List PathStep :=
      if first = [] ∧ rest ≠ [] then [.root]
      else if first = ['.'] then [.here]
      else (step? first).toList
    front ++ rest.filterMap step?

/-- Two paths with the same steps. -/
def sameSteps (path other : String) : Bool :=
  steps path == steps other

/-- The path starts at the root. -/
def isAbsolute (path : String) : Bool :=
  path.toList.head? == some '/'

/-! ## Joining and cutting -/

/-- A path seen from a directory.  An absolute path stays as it is. -/
def join (directory path : String) : String :=
  if isAbsolute path then path
  else if directory = "" ∨ directory.toList.getLast? = some '/' then directory ++ path
  else directory ++ "/" ++ path

/-- Drops slashes, and single dots behind slashes, from the end of a path read backwards; the
root stays. -/
def dropIdle : List Char → List Char
  | ['/'] => ['/']
  | ['.', '/'] => ['/']
  | '/' :: rest => dropIdle rest
  | '.' :: '/' :: rest => dropIdle rest
  | text => text

/-- The directory of a path: the text before its last step.  A path without a step, and the root,
have none. -/
def parent? (path : String) : Option String :=
  match (steps path).getLast? with
  | none | some .root => none
  | some _ =>
    let text := dropIdle path.toList.reverse
    let above := text.dropWhile (· ≠ '/')
    some (String.ofList (dropIdle above).reverse)

/-! ## Names -/

/-- The last step, when it is a name. -/
def fileName? (path : String) : Option String :=
  match (steps path).getLast? with
  | some (.name name) => some name
  | _ => none

/-- A file name cut at its last dot; a name whose only dot leads it is not cut. -/
def splitName (name : String) : String × Option String :=
  match Text.splitLast? '.' name.toList with
  | none => (name, none)
  | some (stem, ending) =>
    if stem = [] then (name, none) else (String.ofList stem, some (String.ofList ending))

/-- The file name without its ending. -/
def stem? (path : String) : Option String :=
  (fileName? path).map fun name => (splitName name).1

/-- The ending of a file name. -/
def ending? (name : String) : Option String :=
  (splitName name).2

end Path

end GameSheets

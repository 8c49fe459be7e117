/-
  Writing artifacts.

  The plan of a write lists its files in order: for each platform the enum header, the data header
  and the documents.  Files are written one by one; the first that fails ends the write, and those
  before it stay.  A workbook is published by compiling it and writing all its artifacts; nothing
  is written unless all of it compiles.
-/
import GameSheets.Compile
import GameSheets.Files.Disk

namespace GameSheets

/-- A file to be written. -/
structure PlannedFile where
  path : String
  text : String
  deriving DecidableEq, Repr

namespace Artifacts

/-- The files of one platform, in the order in which they are written. -/
def plan (config : Config) (artifacts : Artifacts) : List PlannedFile :=
  let headers := config.headerDir artifacts.platform
  let documents := config.jsonDir artifacts.platform
  [⟨Path.join headers (config.enumFile artifacts.platform), artifacts.enumHeader⟩,
    ⟨Path.join headers (config.dataFile artifacts.platform), artifacts.dataHeader⟩]
    ++ artifacts.documents.map fun (sheet, document) =>
      ⟨Path.join documents (sheet ++ ".json"), document.text⟩

/-- The files of all platforms. -/
def planAll (config : Config) (artifacts : List Artifacts) : List PlannedFile :=
  artifacts.flatMap (plan config)

end Artifacts

/-- A file could not be written. -/
structure WriteError where
  path : String
  deriving DecidableEq, Repr

namespace WriteError

/-- The error in words. -/
def message (error : WriteError) : String :=
  "Failed to write " ++ error.path

end WriteError

namespace PlannedFile

/-- What is reported of a file that was written. -/
def event (file : PlannedFile) : Event :=
  .wrote file.path file.text.utf8ByteSize

variable {m : Type → Type} [Monad m]

/-- Writes one file.  The directories above it are made first, where the path has any. -/
def write (disk : Disk m) (file : PlannedFile) : m Bool := do
  match Path.parent? file.path with
  | none => disk.writeFile file.path file.text
  | some directory =>
    if ← disk.makeDirectories directory then disk.writeFile file.path file.text
    else return false

/-- Writes files in order up to the first that fails; the paths of all when none does. -/
def writeAll (disk : Disk m) : List PlannedFile → m (Reported WriteError (List String))
  | [] => return Reported.done []
  | file :: rest => do
    if ← file.write disk then
      let others ← writeAll disk rest
      return ⟨file.event :: others.events, others.outcome.map (file.path :: ·)⟩
    else return Reported.lift (.error ⟨file.path⟩)

end PlannedFile

/-! ## Publishing -/

/-- Why a workbook cannot be published. -/
inductive PublishError
  | compile (cause : CompileError)
  | write (cause : WriteError)
  deriving DecidableEq, Repr

namespace PublishError

/-- The error in words, with the causes behind it. -/
def chain : PublishError → String
  | compile cause => cause.chain
  | write cause => cause.message

end PublishError

namespace Workbook

/-- Compiles a workbook and writes its artifacts; the paths of the written files in order. -/
def publish {m : Type → Type} [Monad m] (disk : Disk m) (workbook : Workbook) (config : Config)
    (platforms : List Platform) : m (Reported PublishError (List String)) := do
  let compiled := workbook.compile config platforms
  match compiled.outcome with
  | .error cause => return ⟨compiled.events, .error (.compile cause)⟩
  | .ok artifacts =>
    let written ← PlannedFile.writeAll disk (Artifacts.planAll config artifacts)
    return ⟨compiled.events ++ written.events, written.outcome.mapError PublishError.write⟩

end Workbook

end GameSheets

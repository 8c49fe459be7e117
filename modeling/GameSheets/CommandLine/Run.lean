/-
  Runs: from a command line to written artifacts.

  A run reads the configuration, loads the input, compiles it and writes the artifacts.  Output
  directories that the command line names win over the configuration; those that still have their
  standard value lie beside the input.  The first failure ends the run.
-/
import GameSheets.CommandLine.Options
import GameSheets.Config.Reader
import GameSheets.Files.Load
import GameSheets.Files.Write

namespace GameSheets

namespace CommandLine

/-! ## Errors -/

/-- Why a run fails. -/
inductive RunError
  | configUnreadable (path : String)
  | configInvalid (path : String)
  | load (input : String) (cause : LoadError)
  | publish (cause : PublishError)
  deriving DecidableEq, Repr

namespace RunError

/-- The error in words, with the causes behind it. -/
def message : RunError → String
  | configUnreadable path => "Failed to read config " ++ path
  | configInvalid path => "Invalid config " ++ path
  | load input cause => "loading " ++ input ++ ": " ++ cause.message
  | publish cause => cause.chain

end RunError

/-! ## Configuration -/

/-- Puts a directory from the command line into a configuration. -/
def override (config : Config) : Setting × String → Config
  | (.headerDir .server, dir) => { config with serverHeaderDir := dir }
  | (.headerDir .client, dir) => { config with clientHeaderDir := dir }
  | (.jsonDir .server, dir) => { config with serverJsonDir := dir }
  | (.jsonDir .client, dir) => { config with clientJsonDir := dir }
  | (.config, _) => config
  | (.pinnedClock, _) => config

variable {m : Type → Type} [Monad m]

/-- The configuration file's settings. -/
def readConfig (disk : Disk m) : Option String → m (Except RunError Config)
  | none => return .ok .standard
  | some path => do
    match ← disk.read path with
    | none => return .error (.configUnreadable path)
    | some text =>
      match Config.read? text with
      | none => return .error (.configInvalid path)
      | some config => return .ok config

/-- The directory of an input: itself, or the one that it is in. -/
def inputDir (disk : Disk m) (input : String) : m String := do
  if ← disk.isDirectory input then return input
  else return (Path.parent? input).getD "."

namespace Options

/-- The configuration of a run. -/
def configuration (options : Options) (disk : Disk m) : m (Except RunError Config) := do
  match ← readConfig disk (options.value? .config) with
  | .error cause => return .error cause
  | .ok config =>
    let directory ← inputDir disk options.input
    return .ok (options.settings.foldl override (config.resolve directory))

/-! ## Running -/

/-- The workbook of a run, exported at the clock that was given or else now. -/
def workbook (options : Options) (disk : Disk m) (now : Timestamp) :
    m (Except RunError Workbook) := do
  match ← Load.sheets disk options.input with
  | .error cause => return .error (.load options.input cause)
  | .ok sheets => return .ok ⟨sheets, some (options.clock?.getD now)⟩

/-- Runs; the paths of the written files in order. -/
def run (options : Options) (disk : Disk m) (now : Timestamp) :
    m (Reported RunError (List String)) := do
  match ← options.configuration disk with
  | .error cause => return Reported.lift (.error cause)
  | .ok config =>
    match ← options.workbook disk now with
    | .error cause => return Reported.lift (.error cause)
    | .ok workbook =>
      return (← workbook.publish disk config options.platforms).mapError RunError.publish

end Options

/-! ## The whole command -/

/-- How a command ended. -/
structure Ending where
  exitCode : UInt8
  output : String
  /-- What went wrong in a run. -/
  runError : Option String
  /-- What is wrong with the command line. -/
  usageError : Option String
  log : List LogRecord
  deriving DecidableEq, Repr

namespace Ending

/-- The line that answers a request for the version. -/
def versionLine : String :=
  "tablec 0.1.0\n"

/-- The ending of a command line that leads to no run. -/
def ofNoRun : NoRun → Ending
  | .version => ⟨0, versionLine, none, none, []⟩
  | .help => ⟨0, "", none, none, []⟩
  | .misuse error => ⟨2, "", none, some error.message, []⟩

/-- The records of a run that are shown: traces never, details when asked for. -/
def shown (verbose : Bool) (record : LogRecord) : Bool :=
  match record.level with
  | .trace => false
  | .debug => verbose
  | .info => true
  | .warn => true

/-- The ending of a run. -/
def ofRun (options : Options) (reported : Reported RunError (List String)) : Ending :=
  let log := (reported.events.map Event.record).filter (shown options.verbose)
  match reported.outcome with
  | .ok _ => ⟨0, "", none, none, log⟩
  | .error cause => ⟨1, "", some cause.message, none, log⟩

end Ending

/-- Carries out a command line. -/
def execute (disk : Disk m) (now : Timestamp) (words : List String) : m Ending := do
  match Options.ofWords words with
  | .error reason => return Ending.ofNoRun reason
  | .ok options => return Ending.ofRun options (← options.run disk now)

end CommandLine

end GameSheets

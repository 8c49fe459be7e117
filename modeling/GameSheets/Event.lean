/-
  Events: what a run reports while it works.

  An event is shown in two ways: as a line of text, and as a log record with a level, a message and
  named fields.
-/
import GameSheets.Fingerprint
import GameSheets.Platform
import GameSheets.Text.Split

namespace GameSheets

/-- The part of a run that passes over a sheet. -/
inductive Stage
  | refine
  | generate
  deriving DecidableEq, Repr

namespace Stage

/-- The stage in a report. -/
def name : Stage → String
  | refine => "refine"
  | generate => "generate"

end Stage

/-- The header that was generated. -/
inductive HeaderKind
  | enums
  | data
  deriving DecidableEq, Repr

namespace HeaderKind

/-- The header in a report. -/
def name : HeaderKind → String
  | enums => "enum"
  | data => "data"

end HeaderKind

/-- Something that happened in a run. -/
inductive Event
  /-- A sheet became the start of a merged sheet, or rows at its end. -/
  | merged (logical source : String) (rows : Nat)
  | skipped (stage : Stage) (sheet reason : String)
  | excluded (sheet column : String) (platform : Platform)
  /-- A column refers to an enum sheet that the workbook does not have. -/
  | unchecked (sheet column enumSheet : String)
  | refined (sheet : String) (platform : Platform) (rows : Nat) (fingerprint : UInt64)
  | generated (platform : Platform) (kind : HeaderKind) (declarations : Nat)
  | wrote (path : String) (bytes : Nat)
  deriving DecidableEq, Repr

/-- How much a log record matters. -/
inductive LogLevel
  | trace
  | debug
  | info
  | warn
  deriving DecidableEq, Repr

namespace LogLevel

/-- The level in a log. -/
def name : LogLevel → String
  | trace => "TRACE"
  | debug => "DEBUG"
  | info => "INFO"
  | warn => "WARN"

end LogLevel

/-- A log record. -/
structure LogRecord where
  level : LogLevel
  message : String
  fields : List (String × String)
  deriving DecidableEq, Repr

namespace Event

/-- The event as a line of text. -/
def text : Event → String
  | merged logical source rows =>
    "merged " ++ source ++ " into " ++ logical ++ " (" ++ toString rows ++ " rows)"
  | skipped stage sheet reason =>
    stage.name ++ ": skipped " ++ sheet ++ " (" ++ reason ++ ")"
  | excluded sheet column platform =>
    "excluded " ++ sheet ++ "." ++ column ++ " on " ++ platform.name
  | unchecked sheet column enumSheet =>
    sheet ++ "." ++ column ++ " references unknown enum table " ++ enumSheet
  | refined sheet platform rows fingerprint =>
    "refined " ++ sheet ++ " for " ++ platform.name ++ " (" ++ toString rows
      ++ " rows, fingerprint " ++ Fingerprint.text fingerprint ++ ")"
  | generated platform kind declarations =>
    "generated " ++ platform.name ++ " " ++ kind.name ++ " header (" ++ toString declarations
      ++ " declarations)"
  | wrote path bytes => "wrote " ++ path ++ " (" ++ toString bytes ++ " bytes)"

/-- The line of the event has `needle` somewhere in it. -/
def mentions (needle : String) (event : Event) : Bool :=
  Text.occurs needle.toList event.text.toList

/-- The event as a log record. -/
def record : Event → LogRecord
  | merged logical source rows =>
    ⟨.debug, "table merged", [("logical", logical), ("source", source), ("rows", toString rows)]⟩
  | skipped stage sheet reason =>
    ⟨.debug, "table skipped", [("stage", stage.name), ("table", sheet), ("reason", reason)]⟩
  | excluded sheet column platform =>
    ⟨.trace, "column excluded",
      [("table", sheet), ("column", column), ("platform", platform.name)]⟩
  | unchecked sheet column enumSheet =>
    ⟨.warn, "enum table not found, values are not checked",
      [("table", sheet), ("column", column), ("enum_name", enumSheet)]⟩
  | refined sheet platform rows fingerprint =>
    ⟨.debug, "table refined",
      [("table", sheet), ("platform", platform.name), ("rows", toString rows),
        ("fingerprint", toString fingerprint.toNat)]⟩
  | generated platform kind declarations =>
    ⟨.info, "header generated",
      [("platform", platform.name), ("kind", kind.name), ("declarations", toString declarations)]⟩
  | wrote path bytes => ⟨.info, "artifact written", [("path", path), ("bytes", toString bytes)]⟩

end Event

end GameSheets

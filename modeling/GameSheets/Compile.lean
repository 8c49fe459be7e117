/-
  Compiling a workbook: every artifact of the platforms asked for, in memory.

  The sheets are merged once.  For each platform the data sheets are refined and exported, then the
  enum header and the data header are generated; the first fault ends the run.
-/
import GameSheets.Document.Table
import GameSheets.Header.Client
import GameSheets.Header.Server
import GameSheets.Workbook.Merge

namespace GameSheets

/-! ## Headers of a platform -/

namespace Header

/-- The enum header of a platform. -/
def enumHeader (config : Config) (exportedAt : Option Timestamp) (platform : Platform)
    (enumerations : List Enumeration) : Except DeclarationError String :=
  match platform with
  | .server => serverEnumHeader (.ofConfig config) exportedAt enumerations
  | .client => clientEnumHeader (.ofConfig config) exportedAt enumerations

/-- The data header of a platform. -/
def dataHeader (config : Config) (exportedAt : Option Timestamp) (platform : Platform)
    (records : List Record) : String :=
  match platform with
  | .server => serverDataHeader (.ofConfig config) exportedAt records
  | .client => clientDataHeader (.ofConfig config) exportedAt records

end Header

namespace Workbook

/-- The header of a workbook's enumerations. -/
def enumHeader (workbook : Workbook) (config : Config) (platform : Platform) :
    Except DeclarationError String :=
  match workbook.enumerations with
  | .error cause => .error cause
  | .ok enumerations => Header.enumHeader config workbook.exportedAt platform enumerations

/-- The header of a workbook's row types. -/
def dataHeader (workbook : Workbook) (config : Config) (platform : Platform) :
    Except DeclarationError String :=
  match workbook.records platform config.rowNameField with
  | .error cause => .error cause
  | .ok records => .ok (Header.dataHeader config workbook.exportedAt platform records)

end Workbook

/-! ## Artifacts -/

/-- What is generated for one platform; each document comes with the name of its sheet. -/
structure Artifacts where
  platform : Platform
  enumHeader : String
  dataHeader : String
  documents : List (String × TableDocument)
  deriving DecidableEq, Repr

/-- Why a workbook cannot be compiled. -/
inductive CompileError
  | merge (cause : MergeError)
  | refine (cause : RefineError)
  | declare (cause : DeclarationError)
  | exported (cause : ExportError)
  deriving DecidableEq, Repr

namespace CompileError

/-- The error in words. -/
def message : CompileError → String
  | merge cause => cause.message
  | refine cause => cause.message
  | declare cause => cause.message
  | exported cause => cause.message

/-- The type cell's own error behind a faulty schema. -/
def typeCellCause? : CompileError → Option TypeCellError
  | refine (.schema (.typeCell _ cause)) => some cause
  | declare (.schema (.typeCell _ cause)) => some cause
  | _ => none

/-- The error with the causes behind it. -/
def chain (error : CompileError) : String :=
  match error.typeCellCause? with
  | some cause => error.message ++ ": " ++ cause.message
  | none => error.message

end CompileError

namespace Workbook

/-- The document of a table with the table's name. -/
def namedDocument (config : Config) (platform : Platform) (table : TypedTable) :
    Except ExportError (String × TableDocument) :=
  (table.document platform config.rowNameField).map fun document => (table.name, document)

/-- What is reported of sheets that hold neither data nor an enumeration. -/
def ungenerated (workbook : Workbook) : List Event :=
  (workbook.sheets.filter (·.kind = .other)).map fun sheet =>
    .skipped .generate sheet.name "neither a data nor an enum table"

/-- The artifacts of one platform, from a merged workbook. -/
def artifactsFor (workbook : Workbook) (config : Config) (platform : Platform) :
    Reported CompileError Artifacts := do
  let tables ← (workbook.refine platform).mapError CompileError.refine
  let documents ← Reported.lift
    ((tables.mapM (namedDocument config platform)).mapError CompileError.exported)
  let enumHeader ← Reported.lift
    ((workbook.enumHeader config platform).mapError CompileError.declare)
  Reported.report [.generated platform .enums workbook.enumSheets.length]
  let dataHeader ← Reported.lift
    ((workbook.dataHeader config platform).mapError CompileError.declare)
  Reported.report [.generated platform .data workbook.dataSheets.length]
  return ⟨platform, enumHeader, dataHeader, documents⟩

/-- The artifacts of the platforms in order. -/
def compile (workbook : Workbook) (config : Config) (platforms : List Platform) :
    Reported CompileError (List Artifacts) := do
  let merged ← workbook.merge.mapError CompileError.merge
  Reported.report merged.ungenerated
  Reported.forEach (merged.artifactsFor config) platforms

end Workbook

end GameSheets

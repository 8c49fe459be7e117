/-
  Refining data sheets into typed tables.

  A refined table has the columns that a platform keeps, and a value for each of them in every row.
  An empty cell stands for the default of its type where the column is nullable, and is an error
  where it is not; cells of other columns are not looked at, but for the first, which is the id.

  Faults are found sheet by sheet; in a sheet the schema comes first, then the rows in order; in a
  row the id comes first, then the kept cells from the left.
-/
import GameSheets.Reported
import GameSheets.Sheet.Schema
import GameSheets.Table.Literal

namespace GameSheets

/-! ## Typed tables -/

/-- The name and type of a column. -/
structure TableColumn where
  name : String
  base : BaseType
  deriving DecidableEq, Repr

/-- A table of typed cells for one platform. -/
structure TypedTable where
  name : String
  platform : Platform
  columns : List TableColumn
  rows : List (List Value)
  /-- The id of each row, also where its column is not kept. -/
  ids : List String
  fingerprint : UInt64
  deriving DecidableEq, Repr

namespace TypedTable

/-- The texts that the fingerprint covers, row by row. -/
def shownCells (rows : List (List Value)) : List String :=
  rows.flatMap fun row => row.map Value.shown

/-- The position of the first column of the given name. -/
def position? (table : TypedTable) (name : String) : Option Nat :=
  table.columns.findIdx? (·.name = name)

end TypedTable

/-! ## Errors -/

/-- Where a faulty cell stands. -/
structure CellSite where
  sheet : String
  id : String
  column : String
  declared : String
  deriving DecidableEq, Repr

/-- Why a data sheet cannot be refined. -/
inductive RefineError
  | schema (cause : SchemaError)
  | emptyCell (site : CellSite)
  | invalidValue (site : CellSite) (value : String)
  | unknownSymbol (site : CellSite) (value : String)
  | duplicateId (sheet id : String)
  deriving DecidableEq, Repr

namespace CellSite

/-- The sheet, row and column in words. -/
def text (site : CellSite) : String :=
  "table: " ++ site.sheet ++ ", Id: " ++ site.id ++ ", column: " ++ site.column

end CellSite

namespace RefineError

/-- The error in words. -/
def message : RefineError → String
  | schema cause => cause.message
  | emptyCell site =>
    "Fail to pass null. table: " ++ site.sheet ++ ", Id: " ++ site.id ++ ", type: " ++ site.declared
      ++ ", column: " ++ site.column
  | invalidValue site value =>
    "Invalid " ++ site.declared ++ " value " ++ Text.quoted value ++ ". " ++ site.text
  | unknownSymbol site value =>
    "Unknown enumerator " ++ Text.quoted value ++ " for " ++ site.declared ++ ". " ++ site.text
  | duplicateId sheet id => "Duplicate Id " ++ Text.quoted id ++ " in table '" ++ sheet ++ "'"

end RefineError

/-! ## Refining -/

namespace KeptColumn

/-- The value in one cell of the column. -/
def read (symbolsOf? : String → Option (List String)) (sheet : String) (row : List String)
    (column : KeptColumn) : Except RefineError Value :=
  let site : CellSite := ⟨sheet, Sheet.cellAt row 0, column.name, column.declared⟩
  let written := Sheet.cellAt row column.position
  if written = "" ∧ column.nullable = false then .error (.emptyCell site)
  else
    let text := if written = "" then column.base.emptyText else written
    match column.base.readLiteral symbolsOf? text with
    | .ok value => .ok value
    | .error .invalid => .error (.invalidValue site text)
    | .error .unknownSymbol => .error (.unknownSymbol site text)

/-- The values in the cells of one row. -/
def readAll (symbolsOf? : String → Option (List String)) (sheet : String) (row : List String) :
    List KeptColumn → Except RefineError (List Value)
  | [] => .ok []
  | column :: rest =>
    match column.read symbolsOf? sheet row with
    | .error cause => .error cause
    | .ok value =>
      match readAll symbolsOf? sheet row rest with
      | .error cause => .error cause
      | .ok values => .ok (value :: values)

end KeptColumn

namespace Sheet

/-- The values of rows, none of which has an id among `seen` or that of a row before it. -/
def readRows (symbolsOf? : String → Option (List String)) (sheet : String)
    (kept : List KeptColumn) : List String → List (List String) →
    Except RefineError (List (List Value))
  | _, [] => .ok []
  | seen, row :: rest =>
    let id := cellAt row 0
    if id ∈ seen then .error (.duplicateId sheet id)
    else
      match KeptColumn.readAll symbolsOf? sheet row kept with
      | .error cause => .error cause
      | .ok values =>
        match readRows symbolsOf? sheet kept (id :: seen) rest with
        | .error cause => .error cause
        | .ok others => .ok (values :: others)

/-- What is reported about a column: that it is left out, or that its symbols are not checked. -/
def columnEvent? (symbolsOf? : String → Option (List String)) (platform : Platform)
    (sheet : String) (column : Column) : Option Event :=
  match column.keptOn? platform with
  | none => some (.excluded sheet column.name platform)
  | some kept =>
    match kept.base with
    | .enumeration name =>
      if (symbolsOf? name).isNone then some (.unchecked sheet column.name name) else none
    | _ => none

/-- Refines one data sheet. -/
def refine (symbolsOf? : String → Option (List String)) (platform : Platform) (sheet : Sheet) :
    Reported RefineError TypedTable := do
  let columns ← Reported.lift (sheet.schema.mapError RefineError.schema)
  Reported.report (columns.filterMap (columnEvent? symbolsOf? platform sheet.name))
  let kept := columns.filterMap (·.keptOn? platform)
  let rows ← Reported.lift (readRows symbolsOf? sheet.name kept [] sheet.dataRows)
  let fingerprint := Fingerprint.ofTexts (TypedTable.shownCells rows)
  Reported.report [.refined sheet.name platform rows.length fingerprint]
  return {
    name := sheet.name
    platform := platform
    columns := kept.map fun column => ⟨column.name, column.base⟩
    rows := rows
    ids := sheet.dataRows.map (cellAt · 0)
    fingerprint := fingerprint }

end Sheet

namespace Workbook

/-- Refines one sheet of a workbook, if it holds data. -/
def refineSheet (workbook : Workbook) (platform : Platform) (sheet : Sheet) :
    Reported RefineError (Option TypedTable) :=
  if sheet.isData then do
    let table ← sheet.refine workbook.symbolsOf? platform
    return some table
  else do
    Reported.report [.skipped .refine sheet.name "not a data table"]
    return none

/-- The typed tables of every data sheet, in order. -/
def refine (workbook : Workbook) (platform : Platform) :
    Reported RefineError (List TypedTable) := do
  let tables ← Reported.forEach (workbook.refineSheet platform) workbook.sheets
  return tables.filterMap id

end Workbook

end GameSheets

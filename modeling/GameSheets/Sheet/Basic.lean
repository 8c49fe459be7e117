/-
  Sheets and workbooks as they were read: tables of texts.

  A sheet whose first column is `Id` holds data, and its row 0 gives the types of its columns.  A
  sheet whose first three columns are `Enum`, `Value` and `Description` holds the symbols of an
  enumeration, one a row.  All other sheets, and those whose name is a comment, hold neither.
-/
import GameSheets.Comment
import GameSheets.Timestamp

namespace GameSheets

/-- A named table of texts. -/
structure Sheet where
  name : String
  columns : List String
  rows : List (List String)
  deriving DecidableEq, Repr

/-- What a sheet holds. -/
inductive SheetKind
  | data
  | enumeration
  | other
  deriving DecidableEq, Repr

namespace Sheet

/-- The kind that the sheet's name and first columns give it. -/
def kind (sheet : Sheet) : SheetKind :=
  if isComment sheet.name then .other
  else
    match sheet.columns with
    | "Id" :: _ => .data
    | "Enum" :: "Value" :: "Description" :: _ => .enumeration
    | _ => .other

/-- The sheet holds data. -/
def isData (sheet : Sheet) : Bool :=
  sheet.kind == .data

/-- The sheet holds the symbols of an enumeration. -/
def isEnumeration (sheet : Sheet) : Bool :=
  sheet.kind == .enumeration

/-- The row of type cells. -/
def typeRow? (sheet : Sheet) : Option (List String) :=
  sheet.rows.head?

/-- The rows behind the type cells. -/
def dataRows (sheet : Sheet) : List (List String) :=
  sheet.rows.tail

/-- The kind of a sheet depends on the mark of its name and on its columns alone. -/
theorem kind_congr {sheet other : Sheet} (hname : isComment sheet.name = isComment other.name)
    (hcolumns : sheet.columns = other.columns) : sheet.kind = other.kind := by
  unfold kind
  rw [hname, hcolumns]

/-- The first column of a data sheet is that of the ids. -/
theorem columns_eq_of_isData {sheet : Sheet} (h : sheet.isData = true) :
    ∃ others, sheet.columns = "Id" :: others := by
  unfold isData kind at h
  split at h
  · cases h
  · split at h
    · exact ⟨_, ‹_›⟩
    · cases h
    · cases h

/-- The rows of a sheet are its type row, if it has one, and the rows behind it. -/
theorem rows_eq_append (sheet : Sheet) :
    sheet.rows = sheet.typeRow?.toList ++ sheet.dataRows := by
  unfold typeRow? dataRows
  cases sheet.rows with
  | nil => rfl
  | cons row rest => rfl

/-- The cell of a row at a position, empty where the row is too short. -/
def cellAt (row : List String) (position : Nat) : String :=
  row[position]?.getD ""

end Sheet

/-- Sheets in order, and the time at which they were exported. -/
structure Workbook where
  sheets : List Sheet
  exportedAt : Option Timestamp
  deriving DecidableEq, Repr

namespace Workbook

/-- The data sheets in order. -/
def dataSheets (workbook : Workbook) : List Sheet :=
  workbook.sheets.filter Sheet.isData

/-- The enum sheets in order. -/
def enumSheets (workbook : Workbook) : List Sheet :=
  workbook.sheets.filter Sheet.isEnumeration

end Workbook

end GameSheets

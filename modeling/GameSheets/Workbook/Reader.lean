/-
  Reading workbooks.

  A workbook document is an object with the sheets under `tables`, each an object with a `name`, its
  `columns` and, if there are any, its `rows`; other keys say nothing.  What is read is cleaned:
  every text is trimmed, sheets without a name and commented ones are dropped, and so are rows of
  empty cells.
-/
import GameSheets.Document.Reader
import GameSheets.Sheet.Basic

namespace GameSheets

/-! ## Cleaning -/

namespace Sheet

/-- The row has a cell that is not empty. -/
def hasText (row : List String) : Bool :=
  row.any (· ≠ "")

/-- The sheet with all texts trimmed and without its empty rows; `none` when it is to be left
out. -/
def clean? (sheet : Sheet) : Option Sheet :=
  let name := Text.trim sheet.name
  if name = "" ∨ isComment name = true then none
  else
    some {
      name := name
      columns := sheet.columns.map Text.trim
      rows := (sheet.rows.map fun row => row.map Text.trim).filter hasText }

end Sheet

/-! ## Reading -/

/-- The fields of a sheet that have been read. -/
structure SheetFields where
  name : Option String
  columns : Option (List String)
  rows : Option (List (List String))

namespace SheetFields

/-- No field. -/
def start : SheetFields := ⟨none, none, none⟩

/-- Reads rows. -/
def readRows : Document.Reader (List (List String)) :=
  Document.readArray (Document.readArray Document.readText)

/-- Reads columns. -/
def readColumns : Document.Reader (List String) :=
  Document.readArray Document.readText

/-- The use of a key. -/
def use (fields : SheetFields) (key : String) : Document.FieldUse SheetFields :=
  match key with
  | "name" =>
    if fields.name.isSome then .repeated
    else .known fun tokens =>
      (Document.readText tokens).map fun (name, rest) => ({ fields with name := some name }, rest)
  | "columns" =>
    if fields.columns.isSome then .repeated
    else .known fun tokens =>
      (readColumns tokens).map fun (columns, rest) =>
        ({ fields with columns := some columns }, rest)
  | "rows" =>
    if fields.rows.isSome then .repeated
    else .known fun tokens =>
      (readRows tokens).map fun (rows, rest) => ({ fields with rows := some rows }, rest)
  | _ => .unknown

/-- The sheet, once it has a name and columns. -/
def complete? (fields : SheetFields) : Option Sheet :=
  match fields.name, fields.columns with
  | some name, some columns => some ⟨name, columns, fields.rows.getD []⟩
  | _, _ => none

/-- Reads a sheet as the array of its fields. -/
def inOrder : Document.Reader Sheet := fun tokens => do
  let (_, tokens) ← Document.firstItem tokens
  let (name, tokens) ← Document.readText tokens
  let (_, tokens) ← Document.furtherItem tokens
  let (columns, tokens) ← readColumns tokens
  let (more, tokens) ← Document.nextItem tokens
  if more then
    let (rows, tokens) ← readRows tokens
    return (⟨name, columns, rows⟩, tokens)
  else return (⟨name, columns, []⟩, tokens)

end SheetFields

namespace Sheet

/-- Reads a sheet. -/
def reader : Document.Reader Sheet :=
  Document.readRecord SheetFields.use .start SheetFields.complete? SheetFields.inOrder

/-- Reads sheets. -/
def listReader : Document.Reader (List Sheet) :=
  Document.readArray reader

/-- Reads the sheets of a workbook document. -/
def documentReader : Document.Reader (List Sheet) :=
  Document.readRecord use none id fun tokens => do
    let (_, tokens) ← Document.firstItem tokens
    listReader tokens
where
  /-- The use of a key. -/
  use (sheets : Option (List Sheet)) (key : String) : Document.FieldUse (Option (List Sheet)) :=
    match key with
    | "tables" =>
      if sheets.isSome then .repeated
      else .known fun tokens => (listReader tokens).map fun (sheets, rest) => (some sheets, rest)
    | _ => .unknown

end Sheet

namespace Workbook

/-- The cleaned sheets of a workbook document. -/
def readSheets (text : String) : Except Document.Fault (List Sheet) :=
  (Document.readAll Sheet.documentReader text).map fun sheets => sheets.filterMap Sheet.clean?

/-- The workbook of a document, which has no export time. -/
def read (text : String) : Except Document.Fault Workbook :=
  (readSheets text).map fun sheets => ⟨sheets, none⟩

end Workbook

end GameSheets

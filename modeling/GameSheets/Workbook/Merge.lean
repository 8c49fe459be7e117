/-
  Merging the parts of split sheets.

  A sheet named `Item_Weapon` is a part of the logical sheet `Item`.  The first part of a logical
  sheet gives its place, its columns and its rows; each later part must have the same columns and
  the same type cells, and its rows are added behind, without its row of type cells.  Enum sheets
  have no such row and are added whole.

    Item_Weapon   Grade   Item_Armor      is merged into      Item   Grade
-/
import GameSheets.Reported
import GameSheets.Sheet.Basic
import GameSheets.Text.Split

namespace GameSheets

/-- Why the sheets of a workbook cannot be merged. -/
inductive MergeError
  | badName (sheet : String)
  | duplicateSheet (sheet : String)
  | duplicateColumn (sheet column : String)
  | raggedRow (sheet : String) (row expected found : Nat)
  | schemaMismatch (logical part expected found : String)
  deriving DecidableEq, Repr

namespace MergeError

/-- The error in words. -/
def message : MergeError → String
  | badName sheet => "Table name '" ++ sheet ++ "' must be '<name>' or '<name>_<suffix>'"
  | duplicateSheet sheet => "Table '" ++ sheet ++ "' appears more than once"
  | duplicateColumn sheet column =>
    "Table '" ++ sheet ++ "' declares column '" ++ column ++ "' more than once"
  | raggedRow sheet row expected found =>
    "Table '" ++ sheet ++ "' row " ++ toString row ++ " has " ++ toString found
      ++ " cells, expected " ++ toString expected
  | schemaMismatch logical part expected found =>
    "Table schema is not matched. " ++ logical ++ ", source: [" ++ expected ++ "], dest(" ++ part
      ++ "): [" ++ found ++ "]"

end MergeError

namespace Sheet

/-! ## Names -/

/-- The name of the logical sheet: the whole name when it has no underscore, the part before it
when it has one between two non-empty parts. -/
def logicalName? (name : String) : Option String :=
  match Text.pieces (· == '_') name.toList with
  | [whole] => some (String.ofList whole)
  | [head, tail] => if head ≠ [] ∧ tail ≠ [] then some (String.ofList head) else none
  | _ => none

/-- The name of the logical sheet, or the error that there is none. -/
def logicalName (name : String) : Except MergeError String :=
  match logicalName? name with
  | some logical => .ok logical
  | none => .error (.badName name)

/-! ## Shape -/

/-- The first item that an earlier one equals. -/
def firstRepeated? : List String → List String → Option String
  | _, [] => none
  | seen, item :: rest => if item ∈ seen then some item else firstRepeated? (item :: seen) rest

/-- The first row, counted from `row`, that has not `width` cells, with the number it has. -/
def firstRagged? (width : Nat) : Nat → List (List String) → Option (Nat × Nat)
  | _, [] => none
  | row, cells :: rest =>
    if cells.length = width then firstRagged? width (row + 1) rest else some (row, cells.length)

/-- There is no repetition exactly where the items are distinct and new. -/
theorem firstRepeated?_eq_none_iff {seen items : List String} :
    firstRepeated? seen items = none ↔ items.Nodup ∧ ∀ item ∈ items, item ∉ seen := by
  induction items generalizing seen with
  | nil => simp [firstRepeated?]
  | cons item rest ih =>
    by_cases h : item ∈ seen
    · simp [firstRepeated?, h]
    · simp only [firstRepeated?, if_neg h, ih, List.nodup_cons, List.mem_cons, not_or]
      grind

/-- There is no ragged row exactly where every row has the width. -/
theorem firstRagged?_eq_none_iff {width row : Nat} {rows : List (List String)} :
    firstRagged? width row rows = none ↔ ∀ cells ∈ rows, cells.length = width := by
  induction rows generalizing row with
  | nil => simp [firstRagged?]
  | cons cells rest ih => by_cases h : cells.length = width <;> simp [firstRagged?, h, ih]

/-- Columns have different names and every row has a cell for each. -/
def checkShape (sheet : Sheet) : Except MergeError Unit :=
  match firstRepeated? [] sheet.columns with
  | some column => .error (.duplicateColumn sheet.name column)
  | none =>
    match firstRagged? sheet.columns.length 0 sheet.rows with
    | some (row, found) => .error (.raggedRow sheet.name row sheet.columns.length found)
    | none => .ok ()

/-- Every sheet has its shape and a name that no sheet before it has. -/
def checkAll : List String → List Sheet → Except MergeError Unit
  | _, [] => .ok ()
  | seen, sheet :: rest =>
    match sheet.checkShape with
    | .error cause => .error cause
    | .ok () =>
      if sheet.name ∈ seen then .error (.duplicateSheet sheet.name)
      else checkAll (sheet.name :: seen) rest

/-! ## Parts -/

/-- A row of cells in one line. -/
def rowText (row : List String) : String :=
  String.intercalate ", " row

/-- The type cells in one line, empty when there are none. -/
def typeRowText (sheet : Sheet) : String :=
  (sheet.typeRow?.map rowText).getD ""

/-- The rows that a part adds to the merged sheet before it.  Columns are compared one by one,
type cells by the line they make. -/
def rowsToAppend (merged part : Sheet) : Except MergeError (List (List String)) :=
  if merged.columns ≠ part.columns then
    .error (.schemaMismatch merged.name part.name (rowText merged.columns) (rowText part.columns))
  else if merged.isEnumeration then .ok part.rows
  else if merged.typeRowText ≠ part.typeRowText then
    .error (.schemaMismatch merged.name part.name merged.typeRowText part.typeRowText)
  else .ok part.dataRows

/-- Adds rows to the sheet of the given name. -/
def appendTo (name : String) (rows : List (List String)) (sheets : List Sheet) : List Sheet :=
  sheets.map fun sheet =>
    if sheet.name = name then { sheet with rows := sheet.rows ++ rows } else sheet

/-- Adding rows changes no name and no order. -/
theorem map_name_appendTo (name : String) (rows : List (List String)) (sheets : List Sheet) :
    (appendTo name rows sheets).map (·.name) = sheets.map (·.name) := by
  simp only [appendTo, List.map_map]
  apply List.map_congr_left
  intro sheet _
  simp only [Function.comp]
  split <;> rfl

/-- Adds one part to the sheets merged so far. -/
def addPart (merged : List Sheet) (part : Sheet) : Reported MergeError (List Sheet) := do
  let logical ← Reported.lift (logicalName part.name)
  match merged.find? (·.name = logical) with
  | none =>
    Reported.report [.merged logical part.name part.rows.length]
    return merged ++ [{ part with name := logical }]
  | some base =>
    let rows ← Reported.lift (rowsToAppend base part)
    Reported.report [.merged logical part.name rows.length]
    return appendTo logical rows merged

/-- Adds parts in order. -/
def addParts (merged : List Sheet) : List Sheet → Reported MergeError (List Sheet)
  | [] => Reported.done merged
  | part :: rest => do
    let merged ← addPart merged part
    addParts merged rest

end Sheet

namespace Workbook

/-- The workbook of logical sheets.  The shapes and names of all sheets are checked before any part
is added. -/
def merge (workbook : Workbook) : Reported MergeError Workbook := do
  Reported.lift (Sheet.checkAll [] workbook.sheets)
  let sheets ← Sheet.addParts [] workbook.sheets
  return { workbook with sheets := sheets }

end Workbook

end GameSheets

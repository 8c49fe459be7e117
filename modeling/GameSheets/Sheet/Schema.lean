/-
  The schema of a data sheet: its columns with their type cells, read once for every use.

  Columns are paired with the cells of row 0 from the left; columns without a cell have no place in
  the schema.
-/
import GameSheets.Column.TypeCell
import GameSheets.Sheet.Basic

namespace GameSheets

/-- A column and its type cell. -/
structure Column where
  /-- The position of its cells in a row. -/
  position : Nat
  name : String
  /-- The type cell as it was written. -/
  declared : String
  type : TypeCell
  deriving DecidableEq, Repr

/-- A column that a platform keeps. -/
structure KeptColumn where
  position : Nat
  name : String
  declared : String
  base : BaseType
  nullable : Bool
  deriving DecidableEq, Repr

/-- Why a sheet has no schema. -/
inductive SchemaError
  | noTypeRow (sheet : String)
  | typeCell (sheet : String) (cause : TypeCellError)
  deriving DecidableEq, Repr

namespace SchemaError

/-- The error in words. -/
def message : SchemaError → String
  | noTypeRow sheet => "Table '" ++ sheet ++ "' has no type-declaration row"
  | typeCell sheet cause => "Table '" ++ sheet ++ "': " ++ cause.message

end SchemaError

namespace Column

/-- The column as a platform keeps it, if it does. -/
def keptOn? (platform : Platform) (column : Column) : Option KeptColumn :=
  match column.type with
  | .comment _ => none
  | .typed base nullable .. =>
    if column.type.includes platform then
      some ⟨column.position, column.name, column.declared, base, nullable⟩
    else none

/-- Reads columns with their type cells, the first standing at `position`. -/
def readAll (position : Nat) : List (String × String) → Except TypeCellError (List Column)
  | [] => .ok []
  | (name, declared) :: rest =>
    match TypeCell.read name declared with
    | .error cause => .error cause
    | .ok type =>
      match readAll (position + 1) rest with
      | .error cause => .error cause
      | .ok columns => .ok (⟨position, name, declared, type⟩ :: columns)

end Column

namespace Sheet

/-- The columns of a data sheet with their type cells, or the first fault from the left. -/
def schema (sheet : Sheet) : Except SchemaError (List Column) :=
  match sheet.typeRow? with
  | none => .error (.noTypeRow sheet.name)
  | some typeRow =>
    match Column.readAll 0 (sheet.columns.zip typeRow) with
    | .error cause => .error (.typeCell sheet.name cause)
    | .ok columns => .ok columns

end Sheet

end GameSheets

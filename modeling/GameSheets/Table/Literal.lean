/-
  Reading the text of a cell as a value of the column's base type.
-/
import GameSheets.Column.BaseType
import GameSheets.Number.Integer
import GameSheets.Sheet.Basic
import GameSheets.Table.Composite
import GameSheets.Table.Value

namespace GameSheets

/-! ## Symbols -/

namespace Sheet

/-- The symbols of an enum sheet: first cells that are neither empty nor comments. -/
def symbols (sheet : Sheet) : List String :=
  (sheet.rows.filterMap List.head?).filter fun name => name != "" && !isComment name

end Sheet

namespace Workbook

/-- The symbols of the last enum sheet of the given name. -/
def symbolsOf? (workbook : Workbook) (name : String) : Option (List String) :=
  ((workbook.enumSheets.filter (·.name = name)).getLast?).map Sheet.symbols

end Workbook

/-! ## Literals -/

/-- Why a text is no value of a type. -/
inductive LiteralFault
  | invalid
  | unknownSymbol
  deriving DecidableEq, Repr

namespace LiteralFault

/-- The value if there is one, else an invalid literal. -/
def orInvalid (value? : Option Value) : Except LiteralFault Value :=
  match value? with
  | some value => .ok value
  | none => .error invalid

end LiteralFault

namespace BaseType

/-- Reads a finite number; single-precision columns refuse those beyond their range. -/
def readFloat? (single : Bool) (text : String) : Option Value :=
  ((Number.Binary64.ofText? text.toList).filter fun value =>
    value.isFinite && (!single || value.fitsSingle)).map Value.float

/-- Reads a composite of the given keys; its text is kept as it was written. -/
def readComposite? (keys : List Char) (text : String) : Option Value :=
  if Composite.lists keys text then some (.composite text) else none

/-- Reads a value.  A symbol is checked only when its enum sheet is known, and the empty symbol
never is. -/
def readLiteral (symbolsOf? : String → Option (List String)) (text : String) :
    BaseType → Except LiteralFault Value
  | int32 => LiteralFault.orInvalid ((Number.Bounds.int32.read? text).map Value.int)
  | int64 => LiteralFault.orInvalid ((Number.Bounds.int64.read? text).map Value.int)
  | float => LiteralFault.orInvalid (readFloat? true text)
  | double => LiteralFault.orInvalid (readFloat? false text)
  | vector => LiteralFault.orInvalid (readComposite? Composite.vectorKeys text)
  | rotator => LiteralFault.orInvalid (readComposite? Composite.rotatorKeys text)
  | string => .ok (.text text)
  | enumeration sheet =>
    match symbolsOf? sheet with
    | none => .ok (.symbol text)
    | some symbols =>
      if text = "" ∨ text ∈ symbols then .ok (.symbol text) else .error .unknownSymbol

end BaseType

end GameSheets

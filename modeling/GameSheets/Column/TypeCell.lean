/-
  Type cells: what row 0 of a data sheet says about a column.

  A type cell reads `base[_index][?]_letters`.  The letters, any mix of `s` and `c`, include the
  column for the server and the client; a question mark, which may stand anywhere, makes it
  nullable; the index repeats the one in the column's name and is not used.

    int32_cs        Enum_Grade_2?_s        vector_
-/
import GameSheets.Column.BaseType
import GameSheets.Comment
import GameSheets.Text.Quoted
import GameSheets.Text.Split

namespace GameSheets

/-- A type cell. -/
inductive TypeCell
  /-- The column or its type cell is a comment; the cell is kept as it was written. -/
  | comment (cell : String)
  | typed (base : BaseType) (nullable onServer onClient : Bool)
  deriving DecidableEq, Repr

/-- What is wrong with the form of a type cell. -/
inductive MalformedCell
  | noInclusion
  | strayLetter
  | noBase
  deriving DecidableEq, Repr

namespace MalformedCell

/-- The fault in words. -/
def text : MalformedCell → String
  | noInclusion => "missing platform inclusion suffix"
  | strayLetter => "inclusion suffix may only contain 's' and 'c'"
  | noBase => "missing base type"

end MalformedCell

/-- Why a type cell cannot be read. -/
inductive TypeCellError
  | malformed (column cell : String) (fault : MalformedCell)
  | unknownBase (column base : String)
  deriving DecidableEq, Repr

namespace TypeCellError

/-- The error in words. -/
def message : TypeCellError → String
  | malformed column cell fault =>
    "Malformed type token " ++ Text.quoted cell ++ " for column '" ++ column ++ "': " ++ fault.text
  | unknownBase column base =>
    "Unknown base type " ++ Text.quoted base ++ " for column '" ++ column ++ "'"

end TypeCellError

namespace TypeCell

/-- The column takes part on the platform. -/
def includes (platform : Platform) : TypeCell → Bool
  | comment _ => false
  | typed _ _ onServer onClient =>
    match platform with
    | .server => onServer
    | .client => onClient

/-- The base type, unless the cell is a comment. -/
def base? : TypeCell → Option BaseType
  | comment _ => none
  | typed base .. => some base

/-- An empty cell of the column stands for the type's default. -/
def isNullable : TypeCell → Bool
  | comment _ => false
  | typed _ nullable .. => nullable

/-- The column takes no part at all. -/
def isComment : TypeCell → Bool
  | comment _ => true
  | typed .. => false

/-- What stands before a final underscore with digits behind it. -/
def dropIndex? (body : List Char) : Option (List Char) :=
  match Text.splitLast? '_' body with
  | some (head, digits) => if digits ≠ [] ∧ digits.all Char.isDigit = true then some head else none
  | none => none

/-- The base type in the part before the letters.  The index is dropped first: a reference takes
any name, so `Enum_Grade_1` would otherwise name a sheet `Grade_1`. -/
def baseOf? (body : List Char) : Option BaseType :=
  ((dropIndex? body).bind fun head => BaseType.ofText? (String.ofList head)).or
    (BaseType.ofText? (String.ofList body))

/-- Reads the type cell of a column. -/
def read (column cell : String) : Except TypeCellError TypeCell :=
  if GameSheets.isComment column || GameSheets.isComment cell then .ok (.comment cell)
  else
    match Text.splitLast? '_' (cell.toList.filter (· != '?')) with
    | none => .error (.malformed column cell .noInclusion)
    | some (body, letters) =>
      if letters.all (fun c => c == 's' || c == 'c') = false then
        .error (.malformed column cell .strayLetter)
      else if body = [] then .error (.malformed column cell .noBase)
      else
        match baseOf? body with
        | none => .error (.unknownBase column (String.ofList body))
        | some base =>
          .ok (.typed base (cell.toList.contains '?')
            (letters.contains Platform.server.letter) (letters.contains Platform.client.letter))

end TypeCell

end GameSheets

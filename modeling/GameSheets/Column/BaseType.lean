/-
  Base types of columns.

  Seven types have fixed names; a name behind `Enum_` refers to the enum sheet of that name.  Each
  type has a native name on each platform, a plain type under which the server's archive stores it,
  and a text that stands for an empty cell of a nullable column.
-/
import GameSheets.Platform

namespace GameSheets

/-- The type of a column's values. -/
inductive BaseType
  | int32
  | int64
  | float
  | double
  | vector
  | rotator
  | string
  /-- A symbol of the enum sheet of this name. -/
  | enumeration (sheet : String)
  deriving DecidableEq, Repr

namespace BaseType

/-- The name of a reference to an enum sheet. -/
def referenceTo (sheet : String) : String :=
  "Enum_" ++ sheet

/-- The type as type cells write it. -/
def text : BaseType → String
  | int32 => "int32"
  | int64 => "int64"
  | float => "float"
  | double => "double"
  | vector => "vector"
  | rotator => "rotator"
  | string => "string"
  | enumeration sheet => referenceTo sheet

/-- The sheet that a reference names; the name must not be empty. -/
def referenced? : List Char → Option String
  | 'E' :: 'n' :: 'u' :: 'm' :: '_' :: sheet =>
    if sheet = [] then none else some (String.ofList sheet)
  | _ => none

/-- Reads a type as type cells write it. -/
def ofText? (text : String) : Option BaseType :=
  match text with
  | "int32" => some int32
  | "int64" => some int64
  | "float" => some float
  | "double" => some double
  | "vector" => some vector
  | "rotator" => some rotator
  | "string" => some string
  | _ => (referenced? text.toList).map enumeration

/-- The values are symbols of an enum sheet. -/
def isEnumeration : BaseType → Bool
  | enumeration _ => true
  | _ => false

/-- The values are three named numbers, kept as text. -/
def isComposite : BaseType → Bool
  | vector | rotator => true
  | _ => false

/-- The type's name in a platform's headers. -/
def nativeName (platform : Platform) : BaseType → String
  | int32 => "int32"
  | int64 => "int64"
  | float => "float"
  | double => "double"
  | vector => "FVector"
  | rotator => "FRotator"
  | string =>
    match platform with
    | .server => "std::string"
    | .client => "FString"
  | enumeration sheet => referenceTo sheet

/-- The type under which the server's archive stores a value. -/
def storedName : BaseType → String
  | int32 => "int32"
  | int64 => "int64"
  | float => "float"
  | double => "double"
  | vector | rotator | string | enumeration _ => "std::string"

/-- The text that stands for an empty cell of a nullable column. -/
def emptyText : BaseType → String
  | int32 | int64 => "0"
  | float | double => "0.0"
  | vector => "(X=0,Y=0,Z=0)"
  | rotator => "(P=0,Y=0,R=0)"
  | string | enumeration _ => ""

end BaseType

end GameSheets

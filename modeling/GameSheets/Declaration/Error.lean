/-
  Why a declaration cannot be generated.
-/
import GameSheets.Sheet.Schema

namespace GameSheets

/-- Why columns with one key do not make an array. -/
inductive GroupFault
  | noColumns
  | repeatedIndex
  /-- The indices are not those from 1 to the number of columns. -/
  | gaps (size : Nat) (found : List Nat)
  | typeDiffers (column : String)
  | inclusionDiffers (column : String) (platform : Platform)
  deriving DecidableEq, Repr

namespace GroupFault

/-- The fault in words. -/
def text : GroupFault → String
  | noColumns => "no sibling columns recorded"
  | repeatedIndex => "an index is declared more than once"
  | gaps size found =>
    "indices must run 1..=" ++ toString size ++ ", found "
      ++ String.intercalate ", " (found.map toString)
  | typeDiffers column => "column '" ++ column ++ "' has a different type"
  | inclusionDiffers column platform =>
    "column '" ++ column ++ "' differs in " ++ platform.name ++ " inclusion"

end GroupFault

/-- Why a header's declarations cannot be generated. -/
inductive DeclarationError
  | schema (cause : SchemaError)
  | badArray (sheet column key : String) (fault : GroupFault)
  | duplicateField (sheet field : String)
  | invalidOrdinal (sheet symbol value : String)
  | emptyEnum (sheet : String)
  | duplicateSymbol (sheet symbol : String)
  | ordinalOutOfRange (sheet symbol : String) (ordinal : Int) (range : Number.Bounds)
  deriving DecidableEq, Repr

namespace DeclarationError

/-- The error in words. -/
def message : DeclarationError → String
  | schema cause => cause.message
  | badArray sheet column key fault =>
    "Array group '" ++ key ++ "' in table '" ++ sheet ++ "' cannot be resolved at column '"
      ++ column ++ "': " ++ fault.text
  | duplicateField sheet field =>
    "Table '" ++ sheet ++ "' declares field '" ++ field ++ "' more than once"
  | invalidOrdinal sheet symbol value =>
    "Invalid value " ++ Text.quoted value ++ " for enumerator '" ++ symbol ++ "' in enum table '"
      ++ sheet ++ "'"
  | emptyEnum sheet => "Enum table '" ++ sheet ++ "' declares no enumerators"
  | duplicateSymbol sheet symbol =>
    "Enumerator '" ++ symbol ++ "' declared more than once in enum table '" ++ sheet ++ "'"
  | ordinalOutOfRange sheet symbol ordinal range =>
    "Enumerator '" ++ symbol ++ "' of enum table '" ++ sheet ++ "' has ordinal "
      ++ toString ordinal ++ ", outside " ++ toString range.low ++ "..=" ++ toString range.high

end DeclarationError

end GameSheets

/-
  Enumerations: the declarations that enum sheets make.

  Each row with a symbol declares one enumerator.  Its ordinal is the value in the row, or else one
  more than the ordinal before it, the first being zero.  Rows without a symbol, and rows whose
  symbol is a comment, take no ordinal.
-/
import GameSheets.Declaration.Error

namespace GameSheets

/-- A symbol with its ordinal, and the value that its row gives it, if any. -/
structure Enumerator where
  name : String
  explicit : Option Int
  ordinal : Int
  deriving DecidableEq, Repr

/-- The description of a symbol. -/
structure SymbolDoc where
  name : String
  text : String
  deriving DecidableEq, Repr

/-- The declaration that an enum sheet makes. -/
structure Enumeration where
  name : String
  sheet : String
  entries : List Enumerator
  docs : List SymbolDoc
  deriving DecidableEq, Repr

namespace Enumerator

/-- The enumerator as a header declares it. -/
def label (entry : Enumerator) : String :=
  match entry.explicit with
  | some value => entry.name ++ " = " ++ toString value
  | none => entry.name

/-- The value in a row's second cell; an empty cell gives none. -/
def explicitOf (sheet symbol value : String) : Except DeclarationError (Option Int) :=
  if value = "" then .ok none
  else
    match Number.Bounds.int64.read? value with
    | some n => .ok (some n)
    | none => .error (.invalidOrdinal sheet symbol value)

/-- The ordinal of an enumerator behind one of the given ordinal. -/
def ordinalAfter (previous : Option Int) (explicit : Option Int) : Int :=
  explicit.getD ((previous.map (· + 1)).getD 0)

/-- Reads the rows of an enum sheet behind the symbols `seen` and an enumerator of ordinal
`previous`; each enumerator comes with its description. -/
def readAll (sheet : String) : List String → Option Int → List (List String) →
    Except DeclarationError (List (Enumerator × String))
  | _, _, [] => .ok []
  | seen, previous, row :: rest =>
    let name := Sheet.cellAt row 0
    if name = "" ∨ isComment name = true then readAll sheet seen previous rest
    else if name ∈ seen then .error (.duplicateSymbol sheet name)
    else
      match explicitOf sheet name (Sheet.cellAt row 1) with
      | .error cause => .error cause
      | .ok explicit =>
        let entry : Enumerator := ⟨name, explicit, ordinalAfter previous explicit⟩
        match readAll sheet (name :: seen) (some entry.ordinal) rest with
        | .error cause => .error cause
        | .ok others => .ok ((entry, Sheet.cellAt row 2) :: others)

end Enumerator

namespace Enumeration

/-- The declaration that an enum sheet makes, which has at least one enumerator. -/
def ofSheet (sheet : Sheet) : Except DeclarationError Enumeration :=
  match Enumerator.readAll sheet.name [] none sheet.rows with
  | .error cause => .error cause
  | .ok [] => .error (.emptyEnum sheet.name)
  | .ok described =>
    .ok {
      name := BaseType.referenceTo sheet.name
      sheet := sheet.name
      entries := described.map (·.1)
      docs := (described.filter (·.2 ≠ "")).map fun (entry, text) => ⟨entry.name, text⟩ }

/-- The ordinal of a symbol. -/
def ordinal? (enumeration : Enumeration) (symbol : String) : Option Int :=
  (enumeration.entries.find? (·.name = symbol)).map (·.ordinal)

/-- Every ordinal lies in the range; the error names the first that does not. -/
def checkRange (range : Number.Bounds) (enumeration : Enumeration) :
    Except DeclarationError Unit :=
  match enumeration.entries.find? fun entry => !range.contains entry.ordinal with
  | some entry => .error (.ordinalOutOfRange enumeration.sheet entry.name entry.ordinal range)
  | none => .ok ()

end Enumeration

namespace Workbook

/-- The declarations of the enum sheets, in order. -/
def enumerations (workbook : Workbook) : Except DeclarationError (List Enumeration) :=
  workbook.enumSheets.mapM Enumeration.ofSheet

end Workbook

end GameSheets

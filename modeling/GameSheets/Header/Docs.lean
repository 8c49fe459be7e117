/-
  The comment that carries the descriptions of an enumeration's symbols.
-/
import GameSheets.Declaration.Enumeration

namespace GameSheets.Header

/-- The line of one symbol. -/
def docLine (doc : SymbolDoc) : String :=
  doc.name ++ " : " ++ doc.text ++ "\n"

/-- A comment with a line for each described symbol; nothing when there is none. -/
def docComment (docs : List SymbolDoc) : String :=
  if docs.isEmpty then "" else "/*\n" ++ String.join (docs.map docLine) ++ "*/\n"

end GameSheets.Header

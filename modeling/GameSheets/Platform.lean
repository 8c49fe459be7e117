/-
  The two programs that a workbook is compiled for.

  A type cell names each by one letter; options and reports name it by a word.
-/

namespace GameSheets

/-- A program that receives headers and data. -/
inductive Platform
  | server
  | client
  deriving DecidableEq, Repr

namespace Platform

/-- The word for the platform in reports. -/
def name : Platform → String
  | server => "server"
  | client => "client"

/-- The letter that includes a column for the platform. -/
def letter : Platform → Char
  | server => 's'
  | client => 'c'

/-- Reads the word or the letter, in either case.  Folding the letters of ASCII is enough: no
other character has a letter of these two words as its small form. -/
def ofText? (text : String) : Option Platform :=
  let folded := String.ofList (text.toList.map Char.toLower)
  if folded = "server" ∨ folded = "s" then some server
  else if folded = "client" ∨ folded = "c" then some client
  else none

end Platform

end GameSheets

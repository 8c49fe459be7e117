/-
  The comment mark.

  A number sign at the front of a sheet's name, a column's name, a type cell or an enumerator's
  name takes that thing out of everything that is generated.
-/

namespace GameSheets

/-- The text starts with the comment mark. -/
def isComment (text : String) : Bool :=
  text.toList.head? == some '#'

end GameSheets

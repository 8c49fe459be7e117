/-
  Values of typed tables.

  A value is a number, or a text of one of three kinds: plain text, a composite of named numbers,
  and a symbol of an enum sheet.
-/
import GameSheets.Number.Layout

namespace GameSheets

/-- A typed cell. -/
inductive Value
  | int (value : Int)
  | float (value : Number.Binary64)
  | text (text : String)
  /-- A vector or rotator, as its text. -/
  | composite (text : String)
  /-- A symbol of an enum sheet; empty for an empty cell. -/
  | symbol (name : String)
  deriving DecidableEq, Repr

namespace Value

/-- Equality of values: that of numbers and that of texts, values of two kinds being different. -/
def equals : Value → Value → Bool
  | int value, int other => value = other
  | float value, float other => value.equals other
  | text shown, text other => shown = other
  | composite shown, composite other => shown = other
  | symbol name, symbol other => name = other
  | _, _ => false

/-- The value in a report, which is also what the fingerprint covers. -/
def shown : Value → String
  | int value => toString value
  | float value => value.text
  | text shown => shown
  | composite shown => shown
  | symbol name => name

end Value

end GameSheets

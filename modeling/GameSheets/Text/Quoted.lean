/-
  Quoting a text in a message.

  A quoted text stands between double quotes.  The quote and the backslash take a backslash before
  them, the usual controls their short escapes, and every other character that does not show on its
  own its code point in braces.
-/
import GameSheets.Text.SpelledOut

namespace GameSheets.Text

/-- A code point in small hexadecimal digits. -/
def codePoint (c : Char) : String :=
  "\\u\x7b" ++ String.ofList (Nat.toDigits 16 c.toNat) ++ "\x7d"

/-- A character as it stands in a quotation. -/
def quotedChar (c : Char) : String :=
  if c = '"' then "\\\""
  else if c = '\\' then "\\\\"
  else if c = '\n' then "\\n"
  else if c = '\r' then "\\r"
  else if c = '\t' then "\\t"
  else if c = '\x00' then "\\0"
  else if spelledOut.contains c then codePoint c
  else c.toString

/-- The text in double quotes, with escapes. -/
def quoted (text : String) : String :=
  "\"" ++ String.join (text.toList.map quotedChar) ++ "\""

end GameSheets.Text

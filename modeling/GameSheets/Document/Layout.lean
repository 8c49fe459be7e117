/-
  Writing JSON on many lines.

  Members stand on lines of their own, two spaces deeper than what holds them; what has no members
  stays on one line.  In texts, quotes, backslashes and the controls below U+0020 are escaped, and
  nothing else is.
-/
import GameSheets.Number.Layout

namespace GameSheets.Document

/-- Four small hexadecimal digits. -/
def hex4 (n : Nat) : String :=
  let digits := Nat.toDigits 16 n
  String.ofList (List.replicate (4 - digits.length) '0' ++ digits)

/-- A character as it stands in a text. -/
def escaped (c : Char) : String :=
  if c = '"' then "\\\""
  else if c = '\\' then "\\\\"
  else if c = '\n' then "\\n"
  else if c = '\r' then "\\r"
  else if c = '\t' then "\\t"
  else if c = '\x08' then "\\b"
  else if c = '\x0c' then "\\f"
  else if c.toNat < 0x20 then "\\u" ++ hex4 c.toNat
  else c.toString

/-- A text between quotes. -/
def textLiteral (text : String) : String :=
  "\"" ++ String.join (text.toList.map escaped) ++ "\""

/-- The spaces before a line at a depth. -/
def indent (depth : Nat) : String :=
  String.ofList (List.replicate (2 * depth) ' ')

/-- Members between brackets, `depth` being that of the line with the brackets. -/
def bracketed (opening closing : String) (depth : Nat) (members : List String) : String :=
  if members.isEmpty then opening ++ closing
  else
    opening ++ "\n"
      ++ String.intercalate ",\n" (members.map fun member => indent (depth + 1) ++ member)
      ++ "\n" ++ indent depth ++ closing

/-- An array of members that are already written. -/
def arrayText (depth : Nat) (members : List String) : String :=
  bracketed "[" "]" depth members

/-- An object of keys with values that are already written. -/
def objectText (depth : Nat) (members : List (String × String)) : String :=
  bracketed "\x7b" "\x7d" depth
    (members.map fun (key, value) => textLiteral key ++ ": " ++ value)

end GameSheets.Document

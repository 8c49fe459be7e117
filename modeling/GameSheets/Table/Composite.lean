/-
  Composites: three named numbers in one cell.

  A cell lists `key=number` for each of three keys, in any order, between commas or white space,
  and with or without parentheses around the whole:

    (X=1,Y=2,Z=3)        X=1 Y=2 Z=3
-/
import GameSheets.Number.Decimal
import GameSheets.Text.Blank
import GameSheets.Text.Split

namespace GameSheets.Composite

/-- The keys of a vector. -/
def vectorKeys : List Char := ['X', 'Y', 'Z']

/-- The keys of a rotator. -/
def rotatorKeys : List Char := ['P', 'Y', 'R']

/-- Drops an opening parenthesis together with a closing one; one alone stays. -/
def withoutParentheses (text : List Char) : List Char :=
  match text with
  | '(' :: rest => if rest.getLast? = some ')' then rest.dropLast else text
  | _ => text

/-- Components are separated by commas and white space. -/
def isSeparator (c : Char) : Bool :=
  c == ',' || Text.isBlank c

/-- The texts between separators, without the empty ones. -/
def components (text : List Char) : List (List Char) :=
  (Text.pieces isSeparator (withoutParentheses text)).filter (· ≠ [])

/-- The key of a component that is a key, an equals sign and a number. -/
def keyOf? (component : List Char) : Option (List Char) :=
  match Text.splitFirst? '=' component with
  | none => none
  | some (key, number) => if (Number.Binary64.ofText? number).isSome then some key else none

/-- Every component has a key of the list that none before it has. -/
def distinctKeys (keys : List Char) : List (List Char) → List (List Char) → Bool
  | _, [] => true
  | seen, component :: rest =>
    match keyOf? component with
    | none => false
    | some key =>
      (keys.map fun c => [c]).contains key && !seen.contains key
        && distinctKeys keys (key :: seen) rest

/-- The text lists each of the keys once, with a number. -/
def lists (keys : List Char) (text : String) : Bool :=
  let parts := components text.toList
  distinctKeys keys [] parts && parts.length == keys.length

end GameSheets.Composite

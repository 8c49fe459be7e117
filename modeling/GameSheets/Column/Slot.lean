/-
  Slots: columns that are elements of an array.

  A column named by a key, an underscore and a number from 1 on is one slot of the array that is
  named by the key in the plural.  `Power_1` and `Power_2` are the two slots of `Powers`.
-/
import GameSheets.Number.Integer
import GameSheets.Text.Split

namespace GameSheets

/-- A place in an array, as a column's name gives it. -/
structure Slot where
  key : String
  /-- Counted from 1, as sheets write it. -/
  index : Nat
  deriving DecidableEq, Repr

namespace Slot

/-- The greatest index. -/
def greatestIndex : Nat := 18446744073709551615

/-- Reads a column's name.  Any other name, also one with the index zero or one beyond 64 bits, is
that of a scalar. -/
def ofName? (name : String) : Option Slot :=
  match Text.splitLast? '_' name.toList with
  | none => none
  | some (key, digits) =>
    match Number.natural? digits with
    | none => none
    | some index =>
      if key ≠ [] ∧ 1 ≤ index ∧ index ≤ greatestIndex then some ⟨String.ofList key, index⟩
      else none

/-- The name of the array. -/
def fieldName (slot : Slot) : String :=
  slot.key ++ "s"

/-- The place counted from zero. -/
def offset (slot : Slot) : Nat :=
  slot.index - 1

end Slot

end GameSheets

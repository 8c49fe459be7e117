/-
  How large a number of a JSON text may be.

  A number is read in steps that each may round.  Its digits fill a significand of 64 bits; the
  digits that no longer fit are not read, and those before the point count as factors of ten.  The
  significand becomes a double, and so does the power of ten behind it; a number whose product
  of the two is infinite is out of range.  So a number can be refused although the double nearest
  to it is finite, and no number is too small.
-/
import GameSheets.Number.Decimal

namespace GameSheets.Document

open Number

-- Powers of naturals are the core ones wherever this module is read.
attribute [local instance (high)] instPowNat

/-- The greatest significand. -/
def greatestSignificand : Nat := 2 ^ (64 : Nat) - 1

/-- The significand with one more digit, while that fits. -/
def extended? (significand : Nat) (digit : Char) : Option Nat :=
  (some (10 * significand + (digit.toNat - '0'.toNat))).filter (· ≤ greatestSignificand)

/-- Reads the digits before the point; those that do not fit are factors of ten. -/
def wholePart (significand : Nat) : List Char → Decimal
  | [] => ⟨significand, 0⟩
  | digit :: rest =>
    match extended? significand digit with
    | some next => wholePart next rest
    | none => ⟨significand, (digit :: rest).length⟩

/-- Reads the digits behind the point, up to the first that does not fit. -/
def fractionPart (decimal : Decimal) : List Char → Decimal
  | [] => decimal
  | digit :: rest =>
    match extended? decimal.coefficient digit with
    | some next => fractionPart ⟨next, decimal.exponent - 1⟩ rest
    | none => decimal

/-- Reads a number without a sign. -/
def magnitude? (text : List Char) : Option Decimal :=
  let whole := wholePart 0 (text.takeWhile Char.isDigit)
  let rest := text.dropWhile Char.isDigit
  let (decimal, rest) :=
    match rest with
    | '.' :: tail =>
      (fractionPart whole (tail.takeWhile Char.isDigit), tail.dropWhile Char.isDigit)
    | _ => (whole, rest)
  (Decimal.exponent? rest).map fun power => ⟨decimal.coefficient, decimal.exponent + power⟩

/-- Whether the significand times the power of ten is finite.  Powers beyond the greatest finite
one leave only zero in range. -/
def isInRange (decimal : Decimal) : Bool :=
  if decimal.coefficient = 0 ∨ decimal.exponent < 0 then true
  else if 308 < decimal.exponent then false
  else
    let significand := Binary64.ofRatio false ⟨decimal.coefficient, 1⟩
    let power := Binary64.ofRatio false ⟨10 ^ decimal.exponent.toNat, 1⟩
    (significand.mul power).isFinite

end GameSheets.Document

/-
  Reading decimal fractions into double precision.

  A literal is an optional sign followed by digits with at most one point among, before or after
  them and an optional exponent; or by one of the words `inf`, `infinity` and `nan` in any case.
  The value is the double nearest to the number written; it is infinite when that is too large.
-/
import GameSheets.Number.Binary64
import GameSheets.Number.Integer

namespace GameSheets.Number

/-- The number `coefficient * 10 ^ exponent`. -/
structure Decimal where
  coefficient : Nat
  exponent : Int
  deriving DecidableEq, Repr

namespace Decimal

/-- The number of decimal digits of a positive natural. -/
def width (n : Nat) : Nat :=
  (Nat.toDigits 10 n).length

/-- The nearest double.  Numbers of more than 310 places before the point are infinite, and those
that start more than 330 places behind it are zero, so that no power of ten is taken beyond. -/
def toBinary64 (negative : Bool) (decimal : Decimal) : Binary64 :=
  if decimal.coefficient = 0 then .zero negative
  else
    let point := (width decimal.coefficient : Int) + decimal.exponent
    if 310 < point then .infinite negative
    else if point < -330 then .zero negative
    else .ofRatio negative (Ratio.scale ⟨decimal.coefficient, 1⟩ 10 decimal.exponent)

/-- Reads `e` or `E`, a sign and digits, up to the end; nothing stands for the exponent zero. -/
def exponent? : List Char → Option Int
  | [] => some 0
  | c :: rest => if c = 'e' ∨ c = 'E' then integer? rest else none

/-- Reads digits, a point and digits, with a digit on at least one side, and an exponent. -/
def ofText? (text : List Char) : Option Decimal :=
  let whole := text.takeWhile Char.isDigit
  let rest := text.dropWhile Char.isDigit
  let (fraction, rest) :=
    match rest with
    | '.' :: tail => (tail.takeWhile Char.isDigit, tail.dropWhile Char.isDigit)
    | _ => ([], rest)
  if whole = [] ∧ fraction = [] then none
  else
    (exponent? rest).map fun exponent =>
      ⟨digitsValue (whole ++ fraction), exponent - fraction.length⟩

end Decimal

namespace Binary64

/-- Reads a literal without its sign. -/
def unsigned? (negative : Bool) (text : List Char) : Option Binary64 :=
  let word := String.ofList (text.map Char.toLower)
  if word = "inf" ∨ word = "infinity" then some (.infinite negative)
  else if word = "nan" then some .notANumber
  else (Decimal.ofText? text).map (Decimal.toBinary64 negative)

/-- Reads a literal. -/
def ofText? : List Char → Option Binary64
  | '-' :: rest => unsigned? true rest
  | '+' :: rest => unsigned? false rest
  | text => unsigned? false text

end Binary64

end GameSheets.Number

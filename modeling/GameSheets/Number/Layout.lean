/-
  Writing doubles.

  Two layouts of the shortest digits are in use.  Reports write every number positionally, so that
  `1e21` is a 1 and 21 zeros; documents write a point or an exponent in every number, and the
  exponent only outside the powers from `10 ^ -5` to `10 ^ 15`.
-/
import GameSheets.Number.Shortest

namespace GameSheets.Number

/-- A run of zeros. -/
def zeros (count : Nat) : List Char :=
  List.replicate count '0'

/-- Digits with the decimal point `point` places from their left end, whole numbers being followed
by `whole`. -/
def placed (whole : String) (digits : List Char) (point : Int) : String :=
  if point ≤ 0 then "0." ++ String.ofList (zeros (-point).toNat ++ digits)
  else if digits.length ≤ point.toNat then
    String.ofList (digits ++ zeros (point.toNat - digits.length)) ++ whole
  else
    String.ofList (digits.take point.toNat) ++ "." ++ String.ofList (digits.drop point.toNat)

/-- One digit before the point, and an exponent that always has a sign. -/
def scientific (digits : List Char) (point : Int) : String :=
  let power := point - 1
  let lead := String.ofList (digits.take 1)
  let tail := if digits.length ≤ 1 then "" else "." ++ String.ofList (digits.drop 1)
  let sign := if power < 0 then "-" else "+"
  lead ++ tail ++ "e" ++ sign ++ toString power.natAbs

namespace Binary64

/-- The sign in front of a number. -/
def signText (negative : Bool) : String :=
  if negative then "-" else ""

/-- The shortest digits of a positive number and the place of its point. -/
def digits (tie : Tie) (significand : Nat) (exponent : Int) : List Char × Int :=
  let decimal := Decimal.shortest tie significand exponent
  let digits := Nat.toDigits 10 decimal.coefficient
  (digits, decimal.exponent + digits.length)

/-- The positional layout; a tie between two shortest decimals goes upward. -/
def text : Binary64 → String
  | finite negative significand exponent =>
    signText negative ++
      if significand = 0 then "0"
      else
        let (digits, point) := digits .upward significand exponent
        placed "" digits point
  | infinite negative => signText negative ++ "inf"
  | notANumber => "NaN"

/-- The layout of documents; a tie between two shortest decimals goes to the even one.  Only
numbers have one. -/
def documentText? : Binary64 → Option String
  | finite negative significand exponent =>
    some (signText negative ++
      if significand = 0 then "0.0"
      else
        let (digits, point) := digits .toEven significand exponent
        if -5 < point ∧ point ≤ 16 then placed ".0" digits point else scientific digits point)
  | infinite _ => none
  | notANumber => none

end Binary64

end GameSheets.Number

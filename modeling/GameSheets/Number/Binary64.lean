/-
  Double-precision numbers as exact values.

  A finite number is a sign, a whole significand and a power of two, in the one form that the
  64-bit format gives it: the significand has 53 bits, or fewer when the exponent is already the
  least one.  Rounding is done on quotients of naturals, so nothing here is itself rounded.
-/

namespace GameSheets.Number

-- Powers of naturals are the core ones wherever this module is read.
attribute [local instance (high)] instPowNat

/-- A value of the 64-bit binary format. -/
inductive Binary64
  /-- The number `significand * 2 ^ exponent`, negated when `negative`. -/
  | finite (negative : Bool) (significand : Nat) (exponent : Int)
  | infinite (negative : Bool)
  | notANumber
  deriving DecidableEq, Repr

/-- A quotient of naturals, the denominator being positive. -/
structure Ratio where
  numerator : Nat
  denominator : Nat
  deriving DecidableEq, Repr

namespace Ratio

/-- The quotient times `base ^ exponent`. -/
def scale (ratio : Ratio) (base : Nat) (exponent : Int) : Ratio :=
  ⟨ratio.numerator * base ^ exponent.toNat, ratio.denominator * base ^ (-exponent).toNat⟩

/-- The integer nearest to the quotient; of two equally near, the even one. -/
def roundToEven (ratio : Ratio) : Nat :=
  let whole := ratio.numerator / ratio.denominator
  let twice := 2 * (ratio.numerator % ratio.denominator)
  if ratio.denominator < twice ∨ (twice = ratio.denominator ∧ whole % 2 = 1) then whole + 1
  else whole

/-- The greatest `k` with `2 ^ k` at most the quotient, for a positive quotient: the difference of
the two lengths in bits, or one less. -/
def floorLog2 (ratio : Ratio) : Int :=
  let estimate : Int := (ratio.numerator.log2 : Int) - (ratio.denominator.log2 : Int)
  if ratio.numerator * 2 ^ ratio.denominator.log2 < ratio.denominator * 2 ^ ratio.numerator.log2
  then estimate - 1
  else estimate

end Ratio

namespace Binary64

/-- The exponent of the least positive number. -/
def leastExponent : Int := -1074

/-- The exponent of the greatest finite numbers. -/
def greatestExponent : Int := 971

/-- Zero, which keeps its sign. -/
def zero (negative : Bool) : Binary64 :=
  .finite negative 0 leastExponent

/-- Whether the value is a number. -/
def isFinite : Binary64 → Bool
  | finite .. => true
  | infinite _ => false
  | notANumber => false

/-- Equality of numbers: the two zeros are equal, and what is not a number equals nothing. -/
def equals : Binary64 → Binary64 → Bool
  | finite m a e, finite n b f => (a = 0 && b = 0) || (m = n && a = b && e = f)
  | infinite m, infinite n => m = n
  | _, _ => false

/-- Rounds a quotient to the nearest value of the format, ties going to the even significand;
quotients beyond the greatest finite number become infinite. -/
def ofRatio (negative : Bool) (ratio : Ratio) : Binary64 :=
  if ratio.numerator = 0 then zero negative
  else
    let exponent := max (ratio.floorLog2 - 52) leastExponent
    let significand := (ratio.scale 2 (-exponent)).roundToEven
    let (significand, exponent) :=
      if significand = 2 ^ (53 : Nat) then (2 ^ (52 : Nat), exponent + 1)
      else (significand, exponent)
    if greatestExponent < exponent then .infinite negative
    else .finite negative significand exponent

/-- The magnitude of a finite number as a quotient. -/
def magnitude (significand : Nat) (exponent : Int) : Ratio :=
  Ratio.scale ⟨significand, 1⟩ 2 exponent

/-- The product, rounded. -/
def mul : Binary64 → Binary64 → Binary64
  | finite m a e, finite n b f => ofRatio (m != n) (magnitude (a * b) (e + f))
  | finite m a _, infinite n => if a = 0 then notANumber else infinite (m != n)
  | infinite m, finite n b _ => if b = 0 then notANumber else infinite (m != n)
  | infinite m, infinite n => infinite (m != n)
  | notANumber, _ => notANumber
  | _, notANumber => notANumber

/-- Whether the value stays finite when it is rounded to the 32-bit format: its magnitude lies
below the midpoint between the greatest 32-bit number and the next power of two. -/
def fitsSingle : Binary64 → Bool
  | finite _ significand exponent =>
    let size := magnitude significand exponent
    size.numerator < (2 ^ (128 : Nat) - 2 ^ (103 : Nat)) * size.denominator
  | infinite _ => false
  | notANumber => false

end Binary64

end GameSheets.Number

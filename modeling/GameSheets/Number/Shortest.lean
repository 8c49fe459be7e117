/-
  The shortest decimal that reads back as a given double.

  The reals that round to a double form an interval around it, reaching half-way to each neighbour,
  its ends included exactly when the significand is even.  On the grid of decimals with `n` digits
  only the two neighbours of the double can be the nearest ones inside; the first grid, for
  `n = 1, 2, …`, with a neighbour in the interval gives the shortest decimal, and of two such
  neighbours the nearer is taken.  What remains open is an exact tie, which the caller settles.
-/
import GameSheets.Number.Decimal

namespace GameSheets.Number

-- Powers of naturals are the core ones wherever this module is read.
attribute [local instance (high)] instPowNat

/-- Which of two equally near decimals is taken. -/
inductive Tie
  | upward
  | toEven
  deriving DecidableEq, Repr

/-- A positive double with the interval of reals that round to it, as four numerators over one
denominator. -/
structure RoundingInterval where
  low : Nat
  value : Nat
  high : Nat
  denominator : Nat
  closed : Bool
  deriving Repr

namespace RoundingInterval

/-- The interval of `significand * 2 ^ exponent`.  The gap below a power of two is half the gap
above it. -/
def ofParts (significand : Nat) (exponent : Int) : RoundingInterval :=
  let below := if significand = 2 ^ (52 : Nat) ∧ Binary64.leastExponent < exponent then 1 else 2
  let unit := Ratio.scale ⟨1, 4⟩ 2 exponent
  { low := (4 * significand - below) * unit.numerator
    value := 4 * significand * unit.numerator
    high := (4 * significand + 2) * unit.numerator
    denominator := unit.denominator
    closed := significand % 2 = 0 }

/-- The interval with every number multiplied by `10 ^ exponent`. -/
def scale (interval : RoundingInterval) (exponent : Int) : RoundingInterval :=
  let up := 10 ^ exponent.toNat
  { interval with
    low := interval.low * up
    value := interval.value * up
    high := interval.high * up
    denominator := interval.denominator * 10 ^ (-exponent).toNat }

/-- Whether a whole number reads back as the double. -/
def holds (interval : RoundingInterval) (n : Nat) : Bool :=
  let scaled := n * interval.denominator
  if interval.closed then interval.low ≤ scaled && scaled ≤ interval.high
  else interval.low < scaled && scaled < interval.high

/-- The whole number in the interval that is nearest to the double, among its two neighbours. -/
def nearest? (tie : Tie) (interval : RoundingInterval) : Option Nat :=
  let below := interval.value / interval.denominator
  match interval.holds below, interval.holds (below + 1) with
  | true, true =>
    let middle := (2 * below + 1) * interval.denominator
    if 2 * interval.value < middle then some below
    else if middle < 2 * interval.value then some (below + 1)
    else
      match tie with
      | .upward => some (below + 1)
      | .toEven => some (if below % 2 = 0 then below else below + 1)
  | true, false => some below
  | false, true => some (below + 1)
  | false, false => none

/-- Counts the zeros that follow the point of a number below one. -/
def leadingZeros (value denominator : Nat) : Nat → Nat → Nat
  | 0, count => count
  | steps + 1, count =>
    if value * 10 < denominator then leadingZeros (value * 10) denominator steps (count + 1)
    else count

/-- The least `k` with the double below `10 ^ k`. -/
def point (interval : RoundingInterval) : Int :=
  let whole := interval.value / interval.denominator
  if whole = 0 then -(leadingZeros interval.value interval.denominator 330 0 : Int)
  else Decimal.width whole

/-- Tries the grids of `digits`, `digits + 1`, … digits. -/
def search (tie : Tie) (interval : RoundingInterval) (point : Int) : Nat → Nat → Option Decimal
  | 0, _ => none
  | steps + 1, digits =>
    let exponent := point - digits
    match (interval.scale (-exponent)).nearest? tie with
    | some coefficient => some ⟨coefficient, exponent⟩
    | none => search tie interval point steps (digits + 1)

end RoundingInterval

namespace Decimal

/-- Moves the zeros at the end of the coefficient into the exponent. -/
def strip : Nat → Decimal → Decimal
  | 0, decimal => decimal
  | steps + 1, decimal =>
    if decimal.coefficient % 10 = 0 then
      strip steps ⟨decimal.coefficient / 10, decimal.exponent + 1⟩
    else decimal

/-- The double itself, written out exactly. -/
def exact (significand : Nat) (exponent : Int) : Decimal :=
  if 0 ≤ exponent then ⟨significand * 2 ^ exponent.toNat, 0⟩
  else ⟨significand * 5 ^ (-exponent).toNat, exponent⟩

/-- The shortest decimal that reads back as `significand * 2 ^ exponent`, for a positive
significand.  Seventeen digits always suffice. -/
def shortest (tie : Tie) (significand : Nat) (exponent : Int) : Decimal :=
  let interval := RoundingInterval.ofParts significand exponent
  let found := (interval.search tie interval.point 17 1).getD (exact significand exponent)
  strip (width found.coefficient) found

end Decimal

end GameSheets.Number

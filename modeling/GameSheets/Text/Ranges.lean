/-
  Sets of code points given by their boundaries.

  A set is an ascending array of boundaries: the first opens a range, the second closes it (and
  is itself outside), the third opens the next, and so on.  A code point is in the set exactly
  when an odd number of boundaries lie at or below it.
-/

namespace GameSheets.Text

/-- An ascending list of code points at which membership changes. -/
structure Ranges where
  bounds : Array Nat

namespace Ranges

/-- Halves the interval `[low, high)` of candidate positions until it is empty. -/
def search (bounds : Array Nat) (n : Nat) : Nat → Nat → Nat → Nat
  | 0, low, _ => low
  | steps + 1, low, high =>
    if low < high then
      let middle := (low + high) / 2
      if bounds.getD middle 0 ≤ n then search bounds n steps (middle + 1) high
      else search bounds n steps low middle
    else low

/-- The number of boundaries at or below `n`. -/
def countUpTo (ranges : Ranges) (n : Nat) : Nat :=
  search ranges.bounds n ranges.bounds.size 0 ranges.bounds.size

/-- Membership: an odd number of boundaries lie at or below the character. -/
def contains (ranges : Ranges) (c : Char) : Bool :=
  ranges.countUpTo c.toNat % 2 == 1

end Ranges

end GameSheets.Text

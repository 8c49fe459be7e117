/-
  Reading decimal integers.

  A literal is an optional sign and at least one ASCII digit; leading zeros are allowed, and
  nothing else is: no blanks, no grouping, no digits of other scripts.
-/

namespace GameSheets.Number

/-- The value of a run of decimal digits. -/
def digitsValue (digits : List Char) : Nat :=
  digits.foldl (fun value c => 10 * value + (c.toNat - '0'.toNat)) 0

/-- Reads a non-empty run of digits. -/
def natural? (digits : List Char) : Option Nat :=
  if digits ≠ [] ∧ digits.all Char.isDigit = true then some (digitsValue digits) else none

/-- Reads a sign and digits. -/
def integer? : List Char → Option Int
  | '-' :: digits => (natural? digits).map fun n => -(n : Int)
  | '+' :: digits => (natural? digits).map fun n => (n : Int)
  | digits => (natural? digits).map fun n => (n : Int)

/-- The digits of a number are read back. -/
theorem natural?_toDigits (n : Nat) : natural? (Nat.toDigits 10 n) = some n := by
  have hdigits : (Nat.toDigits 10 n).all Char.isDigit = true := by
    rw [List.all_eq_true]
    intro c hc
    exact Nat.isDigit_of_mem_toDigits (by omega) (by omega) hc
  have hvalue : digitsValue (Nat.toDigits 10 n) = n :=
    Nat.ofDigitChars_toDigits (by omega) (by omega)
  rw [natural?, if_pos ⟨Nat.toDigits_ne_nil, hdigits⟩, hvalue]

/-- An integer is read back as it is shown: a sign only where it is negative. -/
theorem integer?_toString (n : Int) : integer? (toString n).toList = some n := by
  cases n with
  | ofNat m =>
    show integer? (String.ofList (Nat.toDigits 10 m)).toList = _
    rw [String.toList_ofList]
    cases hdigits : Nat.toDigits 10 m with
    | nil => exact absurd hdigits Nat.toDigits_ne_nil
    | cons c rest =>
      have hc : c.isDigit = true :=
        Nat.isDigit_of_mem_toDigits (by omega) (by omega) (hdigits ▸ List.mem_cons_self)
      have hread := natural?_toDigits m
      rw [hdigits] at hread
      unfold integer?
      split
      · rename_i heq
        rw [(List.cons.inj heq).1] at hc
        exact absurd hc (by decide)
      · rename_i heq
        rw [(List.cons.inj heq).1] at hc
        exact absurd hc (by decide)
      · rw [hread]
        rfl
  | negSucc m =>
    have hshown : (toString (Int.negSucc m)).toList = '-' :: Nat.toDigits 10 (m + 1) := by
      show ("-" ++ String.ofList (Nat.toDigits 10 (m + 1))).toList = _
      simp
    rw [hshown, integer?, natural?_toDigits]
    rfl

/-- A range of integers, ends included. -/
structure Bounds where
  low : Int
  high : Int
  deriving DecidableEq, Repr

namespace Bounds

/-- The integers of 32 bits. -/
def int32 : Bounds := ⟨-2147483648, 2147483647⟩

/-- The integers of 64 bits. -/
def int64 : Bounds := ⟨-9223372036854775808, 9223372036854775807⟩

/-- Whether the integer lies in the range. -/
def contains (bounds : Bounds) (n : Int) : Bool :=
  bounds.low ≤ n && n ≤ bounds.high

/-- Reads an integer literal whose value lies in the range. -/
def read? (bounds : Bounds) (text : String) : Option Int :=
  (integer? text.toList).filter bounds.contains

end Bounds

end GameSheets.Number

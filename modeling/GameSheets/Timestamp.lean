/-
  Export timestamps.

  A timestamp is a date of the Gregorian calendar and a time of day to the second, in universal
  time.  It is read from a date and a time with an offset, and written back with the offset `Z`:

    2024-01-01T00:30:00+09:00   is written   2023-12-31T15:30:00Z

  Reading allows blanks before every number and a blank in place of the `T`; it drops fractions of
  a second.  The second 60, a leap second, is kept as it is.
-/
import GameSheets.Number.Integer
import GameSheets.Text.Blank

namespace GameSheets

/-! ## The calendar -/

/-- A day of the calendar. -/
structure Date where
  year : Int
  month : Nat
  day : Nat
  deriving DecidableEq, Repr

namespace Date

/-- Every fourth year, but of the full centuries only every fourth. -/
def isLeapYear (year : Int) : Bool :=
  year % 4 = 0 && (year % 100 != 0 || year % 400 = 0)

/-- The length of a month, zero when there is no such month. -/
def daysIn (year : Int) (month : Nat) : Nat :=
  match month with
  | 2 => if isLeapYear year then 29 else 28
  | 4 | 6 | 9 | 11 => 30
  | 1 | 3 | 5 | 7 | 8 | 10 | 12 => 31
  | _ => 0

/-- The years that dates may have. -/
def years : Number.Bounds := ⟨-262143, 262142⟩

/-- A date that exists. -/
def isValid (date : Date) : Bool :=
  years.contains date.year && 1 ≤ date.day && date.day ≤ daysIn date.year date.month

/-- The day after. -/
def next (date : Date) : Date :=
  if date.day < daysIn date.year date.month then { date with day := date.day + 1 }
  else if date.month < 12 then ⟨date.year, date.month + 1, 1⟩
  else ⟨date.year + 1, 1, 1⟩

/-- The day before. -/
def previous (date : Date) : Date :=
  if 1 < date.day then { date with day := date.day - 1 }
  else if 1 < date.month then ⟨date.year, date.month - 1, daysIn date.year (date.month - 1)⟩
  else ⟨date.year - 1, 12, 31⟩

/-- The day so many days after the first of January 1970.  Years are counted from March, in
cycles of 400 years. -/
def ofEpochDay (days : Int) : Date :=
  let shifted := days + 719468
  let cycle := shifted.fdiv 146097
  let dayOfCycle := (shifted.fmod 146097).toNat
  let yearOfCycle :=
    (dayOfCycle - dayOfCycle / 1460 + dayOfCycle / 36524 - dayOfCycle / 146096) / 365
  let dayOfYear := dayOfCycle - (365 * yearOfCycle + yearOfCycle / 4 - yearOfCycle / 100)
  let marchMonth := (5 * dayOfYear + 2) / 153
  let day := dayOfYear - (153 * marchMonth + 2) / 5 + 1
  let month := if marchMonth < 10 then marchMonth + 3 else marchMonth - 9
  let year : Int := yearOfCycle + cycle * 400
  ⟨if month ≤ 2 then year + 1 else year, month, day⟩

end Date

/-- A second in universal time. -/
structure Timestamp where
  date : Date
  hour : Nat
  minute : Nat
  second : Nat
  deriving DecidableEq, Repr

namespace Timestamp

/-- The second so many seconds after the start of 1970. -/
def ofUnixSeconds (seconds : Int) : Timestamp :=
  let ofDay := (seconds.fmod 86400).toNat
  ⟨Date.ofEpochDay (seconds.fdiv 86400), ofDay / 3600, ofDay / 60 % 60, ofDay % 60⟩

/-- The timestamp whose clock shows this time at an offset of so many minutes east; `none` when
that day lies outside the calendar. -/
def ofLocal? (shown : Timestamp) (offset : Int) : Option Timestamp :=
  let minutes : Int := shown.hour * 60 + shown.minute - offset
  let date :=
    if minutes < 0 then shown.date.previous
    else if 1440 ≤ minutes then shown.date.next
    else shown.date
  let ofDay := (minutes.emod 1440).toNat
  if date.isValid then some ⟨date, ofDay / 60, ofDay % 60, shown.second⟩ else none

/-! ## Writing -/

/-- At least `width` digits, filled up with zeros. -/
def padded (width n : Nat) : String :=
  let digits := Nat.toDigits 10 n
  String.ofList (List.replicate (width - digits.length) '0' ++ digits)

/-- Four digits; years outside these carry a sign. -/
def yearText (year : Int) : String :=
  let digits := padded 4 year.natAbs
  if year < 0 then "-" ++ digits else if 9999 < year then "+" ++ digits else digits

/-- The date, `T`, the time and `Z`. -/
def text (stamp : Timestamp) : String :=
  yearText stamp.date.year ++ "-" ++ padded 2 stamp.date.month ++ "-" ++ padded 2 stamp.date.day
    ++ "T" ++ padded 2 stamp.hour ++ ":" ++ padded 2 stamp.minute ++ ":" ++ padded 2 stamp.second
    ++ "Z"

/-! ## Reading

  Each reader takes its part off the front of the text and returns the rest. -/

/-- Drops blanks. -/
def skipBlanks (text : List Char) : List Char :=
  text.dropWhile Text.isBlank

/-- Takes at least one and at most `most` digits. -/
def digits? (most : Nat) (text : List Char) : Option (Nat × List Char) :=
  let digits := (text.take most).takeWhile Char.isDigit
  (Number.natural? digits).map fun n => (n, text.drop digits.length)

/-- Takes a character. -/
def symbol? (expected : Char) : List Char → Option (List Char)
  | c :: rest => if c = expected then some rest else none
  | [] => none

/-- Takes a number of at most two digits behind blanks. -/
def part? (text : List Char) : Option (Nat × List Char) :=
  digits? 2 (skipBlanks text)

/-- Takes a year behind blanks: at most four digits, or a sign and any number of digits. -/
def year? (text : List Char) : Option (Int × List Char) :=
  match skipBlanks text with
  | '-' :: rest => (digits? rest.length rest).map fun (n, rest) => (-(n : Int), rest)
  | '+' :: rest => (digits? rest.length rest).map fun (n, rest) => ((n : Int), rest)
  | rest => (digits? 4 rest).map fun (n, rest) => ((n : Int), rest)

/-- Takes a year, a month and a day between dashes. -/
def date? (text : List Char) : Option (Date × List Char) := do
  let (year, text) ← year? text
  let text ← symbol? '-' (skipBlanks text)
  let (month, text) ← part? text
  let text ← symbol? '-' (skipBlanks text)
  let (day, text) ← part? text
  let date : Date := ⟨year, month, day⟩
  if date.isValid then some (date, text) else none

/-- Drops a fraction of a second, which has at least one digit. -/
def skipFraction? : List Char → Option (List Char)
  | '.' :: rest =>
    if (rest.takeWhile Char.isDigit).isEmpty then none else some (rest.dropWhile Char.isDigit)
  | text => some text

/-- Takes the hour, minute and second between colons, and a fraction. -/
def time? (date : Date) (text : List Char) : Option (Timestamp × List Char) := do
  let (hour, text) ← part? text
  let text ← symbol? ':' (skipBlanks text)
  let (minute, text) ← part? text
  let text ← symbol? ':' (skipBlanks text)
  let (second, text) ← part? text
  let text ← skipFraction? text
  if hour < 24 ∧ minute < 60 ∧ second ≤ 60 then some (⟨date, hour, minute, second⟩, text) else none

/-- Takes the two hours and two minutes of an offset, with colons or blanks between them. -/
def offsetMinutes? (text : List Char) : Option (Nat × List Char) := do
  let (hours, text) ← pair? text
  let (minutes, text) ← pair? (text.dropWhile fun c => c = ':' || Text.isBlank c)
  if hours < 24 ∧ minutes < 60 then some (hours * 60 + minutes, text) else none
where
  /-- Takes exactly two digits. -/
  pair? : List Char → Option (Nat × List Char)
    | a :: b :: rest => (Number.natural? [a, b]).map fun n => (n, rest)
    | _ => none

/-- Takes `Z`, `UTC` or a signed offset, in minutes east. -/
def offset? (text : List Char) : Option (Int × List Char) :=
  if (text.take 3).map Char.toUpper = ['U', 'T', 'C'] then some (0, text.drop 3)
  else
    match text with
    | c :: rest =>
      if c = 'Z' ∨ c = 'z' then some (0, rest)
      else if c = '+' then (offsetMinutes? rest).map fun (n, rest) => ((n : Int), rest)
      else if c = '-' ∨ c = '\u2212' then
        (offsetMinutes? rest).map fun (n, rest) => (-(n : Int), rest)
      else none
    | [] => none

/-- Reads a date, a separator, a time and an offset, with nothing but blanks behind. -/
def ofText? (text : String) : Option Timestamp := do
  let (date, rest) ← date? text.toList
  let rest ←
    match rest with
    | c :: rest => if c = 'T' ∨ c = 't' ∨ c = ' ' then some rest else none
    | [] => none
  let (shown, rest) ← time? date rest
  let (offset, rest) ← offset? (skipBlanks rest)
  if (skipBlanks rest).isEmpty then shown.ofLocal? offset else none

end Timestamp

end GameSheets

/-
  The tokens of a JSON text.

  A reader of tokens meets faults from left to right, those of form and those of meaning alike, and
  the first one decides.  So a faulty token does not end the scan by itself: it carries its fault to
  the place where it is read.  A value that is only passed over is checked less than one that is
  read: its texts may hold half a surrogate pair, and its numbers may be of any size.
-/
import GameSheets.Document.Magnitude

namespace GameSheets.Document

/-- How a JSON text fails to be a document. -/
inductive Fault
  /-- It is not JSON. -/
  | malformed
  /-- It ends too early. -/
  | early
  /-- It is JSON so far, but of other values than those expected. -/
  | mismatch
  deriving DecidableEq, Repr

namespace Fault

/-- The class of a fault in a report. -/
def name : Fault → String
  | malformed => "syntax"
  | early => "eof"
  | mismatch => "data"

end Fault

/-- A token. -/
inductive Token
  | openArray
  | closeArray
  | openObject
  | closeObject
  | comma
  | colon
  /-- A text: what it reads as, and its fault when it is passed over. -/
  | text (value : Except Fault String) (passed : Option Fault)
  /-- A number: its fault when it is read, and when it is passed over. -/
  | number (read passed : Option Fault)
  /-- `null`, `true` or `false`. -/
  | word (fault : Option Fault)
  /-- A character that starts no token. -/
  | stray

/-! ## Texts -/

/-- The value of a hexadecimal digit. -/
def hexDigit? (c : Char) : Option Nat :=
  if '0' ≤ c ∧ c ≤ '9' then some (c.toNat - '0'.toNat)
  else if 'a' ≤ c ∧ c ≤ 'f' then some (c.toNat - 'a'.toNat + 10)
  else if 'A' ≤ c ∧ c ≤ 'F' then some (c.toNat - 'A'.toNat + 10)
  else none

/-- The value of hexadecimal digits. -/
def hexValue? (digits : List Char) : Option Nat :=
  digits.foldl (fun value c => do return 16 * (← value) + (← hexDigit? c)) (some 0)

/-- The character of a short escape. -/
def shortEscape? (c : Char) : Option Char :=
  match c with
  | '"' => some '"'
  | '\\' => some '\\'
  | '/' => some '/'
  | 'b' => some '\x08'
  | 'f' => some '\x0c'
  | 'n' => some '\n'
  | 'r' => some '\r'
  | 't' => some '\t'
  | _ => none

/-- The first half of a surrogate pair. -/
def isHigh (unit : Nat) : Bool := 0xD800 ≤ unit && unit ≤ 0xDBFF

/-- The second half of a surrogate pair. -/
def isLow (unit : Nat) : Bool := 0xDC00 ≤ unit && unit ≤ 0xDFFF

/-- The character of a surrogate pair. -/
def pairChar (high low : Nat) : Char :=
  Char.ofNat (0x10000 + (high - 0xD800) * 0x400 + (low - 0xDC00))

/-- The fault of an escape that lacks some of its four digits: it is early when less than four
bytes are left. -/
def shortUnit (rest : List Char) : Fault :=
  if (String.ofList rest).utf8ByteSize < 4 then .early else .malformed

/-- The fault of a text in which the first half of a pair is followed by something else. -/
def halfPair : List Char → Fault
  | [] => .early
  | ['\\'] => .early
  | '\\' :: 'u' :: rest => if (hexValue? (rest.take 4)).isSome ∧ 4 ≤ rest.length then .malformed
    else shortUnit rest
  | _ => .malformed

/-- A scanned text: its characters, and what is left behind it. -/
structure ScannedText where
  value : Except Fault (List Char)
  rest : Except Fault (List Char)

namespace ScannedText

/-- A text that cannot be scanned to its end. -/
def broken (fault : Fault) : ScannedText :=
  ⟨.error fault, .error fault⟩

/-- A character in front. -/
def push (c : Char) (scanned : ScannedText) : ScannedText :=
  { scanned with value := scanned.value.map (c :: ·) }

/-- The same text, which cannot be read. -/
def unreadable (fault : Fault) (scanned : ScannedText) : ScannedText :=
  { scanned with value := .error fault }

/-- Scans a text behind its opening quote. -/
def scan : List Char → ScannedText
  | [] => broken .early
  | '"' :: rest => ⟨.ok [], .ok rest⟩
  | '\\' :: 'u' :: a :: b :: c :: d :: rest =>
    match hexValue? [a, b, c, d] with
    | none => broken .malformed
    | some unit =>
      if isLow unit then unreadable .malformed (scan rest)
      else if isHigh unit then
        let halved := fun (_ : Unit) => unreadable (halfPair rest) (scan rest)
        match rest with
        | '\\' :: 'u' :: e :: f :: g :: h :: behind =>
          match (hexValue? [e, f, g, h]).filter isLow with
          | some low => push (pairChar unit low) (scan behind)
          | none => halved ()
        | _ => halved ()
      else push (Char.ofNat unit) (scan rest)
  | '\\' :: 'u' :: rest => broken (shortUnit rest)
  | '\\' :: c :: rest =>
    match shortEscape? c with
    | some escaped => push escaped (scan rest)
    | none => broken .malformed
  | ['\\'] => broken .early
  | c :: rest => if c.toNat < 0x20 then broken .malformed else push c (scan rest)

end ScannedText

/-! ## Numbers and words -/

/-- The end of a number that breaks off before `rest`.  A number that is passed over is malformed
also when it breaks off at the end. -/
def brokenNumber (rest : List Char) : Token :=
  .number (some (if rest = [] then .early else .malformed)) (some .malformed)

/-- Drops digits. -/
def skipDigits (text : List Char) : List Char :=
  text.dropWhile Char.isDigit

/-- What is left behind a fraction, or the place where it breaks off. -/
def fraction? : List Char → Except (List Char) (List Char)
  | '.' :: rest =>
    if (rest.takeWhile Char.isDigit).isEmpty then .error rest else .ok (skipDigits rest)
  | rest => .ok rest

/-- What is left behind an exponent, or the place where it breaks off. -/
def power? : List Char → Except (List Char) (List Char)
  | c :: rest =>
    if c = 'e' ∨ c = 'E' then
      let digits :=
        match rest with
        | '+' :: digits => digits
        | '-' :: digits => digits
        | digits => digits
      if (digits.takeWhile Char.isDigit).isEmpty then .error digits else .ok (skipDigits digits)
    else .ok (c :: rest)
  | [] => .ok []

/-- What is left behind a number without a sign, or the place where it breaks off.  A zero leads no
other digit. -/
def unsigned? (text : List Char) : Except (List Char) (List Char) := do
  match text with
  | '0' :: c :: _ => if c.isDigit then throw [c]
  | _ => if (text.takeWhile Char.isDigit).isEmpty then throw text
  let rest ← fraction? (skipDigits text)
  power? rest

/-- A number that is read must be in range. -/
def rangeFault? (text : List Char) : Option Fault :=
  match magnitude? text with
  | some decimal => if isInRange decimal then none else some .malformed
  | none => some .malformed

/-- Scans a number without its sign. -/
def scanNumber (text : List Char) : Token × Option (List Char) :=
  match unsigned? text with
  | .error rest => (brokenNumber rest, none)
  | .ok rest =>
    (.number (rangeFault? (text.take (text.length - rest.length))) none, some rest)

/-- Scans the rest of a word. -/
def scanWord : List Char → List Char → Token × Option (List Char)
  | [], rest => (.word none, some rest)
  | _ :: _, [] => (.word (some .early), none)
  | expected :: more, c :: rest =>
    if c = expected then scanWord more rest else (.word (some .malformed), none)

/-! ## The scan -/

/-- The token at the front of a text, and what is left behind it, if it can be passed. -/
def scanToken (c : Char) (rest : List Char) : Token × Option (List Char) :=
  match c with
  | '[' => (.openArray, some rest)
  | ']' => (.closeArray, some rest)
  | '{' => (.openObject, some rest)
  | '}' => (.closeObject, some rest)
  | ',' => (.comma, some rest)
  | ':' => (.colon, some rest)
  | '"' =>
    let scanned := ScannedText.scan rest
    match scanned.rest with
    | .ok behind => (.text (scanned.value.map String.ofList) none, some behind)
    | .error fault => (.text (scanned.value.map String.ofList) (some fault), none)
  | 'n' => scanWord ['u', 'l', 'l'] rest
  | 't' => scanWord ['r', 'u', 'e'] rest
  | 'f' => scanWord ['a', 'l', 's', 'e'] rest
  | '-' => scanNumber rest
  | c => if c.isDigit then scanNumber (c :: rest) else (.stray, none)

/-- JSON's white space. -/
def isSpace (c : Char) : Bool :=
  c == ' ' || c == '\n' || c == '\t' || c == '\r'

/-- The tokens of a text, up to one that cannot be passed.  Every token takes a character, so that
there are at most as many as the text is long. -/
def tokens (text : String) : List Token :=
  scan text.length text.toList
where
  /-- Scans at most so many tokens. -/
  scan : Nat → List Char → List Token
    | 0, _ => []
    | steps + 1, text =>
      match text.dropWhile isSpace with
      | [] => []
      | c :: rest =>
        match scanToken c rest with
        | (token, some behind) => token :: scan steps behind
        | (token, none) => [token]

end GameSheets.Document

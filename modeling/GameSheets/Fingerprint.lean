/-
  The 64-bit fingerprint of a sequence of texts.

  Two steps make it.  The texts are first written into one byte stream, each behind its length, so
  that no text can be moved across a boundary without changing the stream; the stream is then
  hashed with XXH64 under the seed zero.  A fingerprint detects changes; it identifies nothing.
-/

namespace GameSheets.Fingerprint

-- Powers of naturals are the core ones wherever this module is read.
attribute [local instance (high)] instPowNat

/-! ## The byte stream -/

/-- A number below `2 ^ 64` as eight bytes, the least significant first. -/
def littleEndian (n : Nat) : List UInt8 :=
  (List.range 8).map fun i => UInt8.ofNat (n / 256 ^ i)

/-- A text behind its length in bytes. -/
def frame (text : String) : List UInt8 :=
  let bytes := text.toUTF8.data.toList
  littleEndian bytes.length ++ bytes

/-- The texts one after another, each in its frame. -/
def stream (texts : List String) : List UInt8 :=
  texts.flatMap frame

/-! ## The hash -/

def prime1 : UInt64 := 0x9E3779B185EBCA87
def prime2 : UInt64 := 0xC2B2AE3D27D4EB4F
def prime3 : UInt64 := 0x165667B19E3779F9
def prime4 : UInt64 := 0x85EBCA77C2B2AE63
def prime5 : UInt64 := 0x27D4EB2F165667C5

/-- Rotation to the left by a number of bits between 1 and 63. -/
def rotateLeft (x : UInt64) (bits : UInt64) : UInt64 :=
  (x <<< bits) ||| (x >>> (64 - bits))

/-- A little-endian number read from bytes. -/
def number (bytes : List UInt8) : UInt64 :=
  bytes.foldr (fun byte value => (value <<< 8) ||| byte.toUInt64) 0

/-- The whole words of eight bytes, and the bytes left over. -/
def words : List UInt8 → List UInt64 × List UInt8
  | a :: b :: c :: d :: e :: f :: g :: h :: rest =>
    let (others, tail) := words rest
    (number [a, b, c, d, e, f, g, h] :: others, tail)
  | tail => ([], tail)

/-- Mixes a word into one lane. -/
def round (lane word : UInt64) : UInt64 :=
  rotateLeft (lane + word * prime2) 31 * prime1

/-- The four lanes of the bulk hash. -/
structure Lanes where
  first : UInt64
  second : UInt64
  third : UInt64
  fourth : UInt64

namespace Lanes

/-- The lanes before any word. -/
def start : Lanes := ⟨prime1 + prime2, prime2, 0, 0 - prime1⟩

/-- Mixes words in by groups of four; up to three words are left over. -/
def absorb (lanes : Lanes) : List UInt64 → Lanes × List UInt64
  | a :: b :: c :: d :: rest =>
    absorb ⟨round lanes.first a, round lanes.second b, round lanes.third c, round lanes.fourth d⟩
      rest
  | rest => (lanes, rest)

/-- Mixes one lane into the joined value. -/
def fold (hash lane : UInt64) : UInt64 :=
  (hash ^^^ round 0 lane) * prime1 + prime4

/-- Joins the lanes. -/
def join (lanes : Lanes) : UInt64 :=
  [lanes.first, lanes.second, lanes.third, lanes.fourth].foldl fold
    (rotateLeft lanes.first 1 + rotateLeft lanes.second 7 + rotateLeft lanes.third 12
      + rotateLeft lanes.fourth 18)

end Lanes

/-- Mixes in a word that was left over. -/
def mixWord (hash word : UInt64) : UInt64 :=
  rotateLeft (hash ^^^ round 0 word) 27 * prime1 + prime4

/-- Mixes in one byte. -/
def mixByte (hash : UInt64) (byte : UInt8) : UInt64 :=
  rotateLeft (hash ^^^ (byte.toUInt64 * prime5)) 11 * prime1

/-- Mixes in the last bytes, fewer than eight: a half word first, when there is one. -/
def mixTail (hash : UInt64) : List UInt8 → UInt64
  | a :: b :: c :: d :: rest =>
    rest.foldl mixByte
      (rotateLeft (hash ^^^ (number [a, b, c, d] * prime1)) 23 * prime2 + prime3)
  | rest => rest.foldl mixByte hash

/-- Spreads every bit over the whole value. -/
def avalanche (hash : UInt64) : UInt64 :=
  let hash := (hash ^^^ (hash >>> 33)) * prime2
  let hash := (hash ^^^ (hash >>> 29)) * prime3
  hash ^^^ (hash >>> 32)

/-- XXH64 with seed zero.  The lanes take part from four words on. -/
def hash (bytes : List UInt8) : UInt64 :=
  let (all, tail) := words bytes
  let (lanes, rest) := Lanes.start.absorb all
  let head := if all.length < 4 then prime5 else lanes.join
  avalanche (mixTail (rest.foldl mixWord (head + UInt64.ofNat bytes.length)) tail)

/-- The fingerprint of a sequence of texts. -/
def ofTexts (texts : List String) : UInt64 :=
  hash (stream texts)

/-- Sixteen small hexadecimal digits. -/
def text (fingerprint : UInt64) : String :=
  let digits := Nat.toDigits 16 fingerprint.toNat
  String.ofList (List.replicate (16 - digits.length) '0' ++ digits)

end GameSheets.Fingerprint

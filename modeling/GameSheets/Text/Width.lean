/-
  The width of a text in terminal cells.

  A text is measured from its end, since a character can join the one behind it and never the one
  before.  What has been measured is a run of clusters, of which only the first can still grow: a
  character either joins that cluster, which may change its cells, or stands before it as a cluster
  of its own.  So a lam joins an alef, a carriage return a line feed, and an emoji the joiner of the
  emoji behind it.  Between the two parts of a join there may be selectors, which ask for another
  look of the character before them.

  A space never joins and nothing joins a space, so spaces at the end of a text add one cell each.
-/
import GameSheets.Text.Joining

namespace GameSheets.Text

/-! ## What a character can join -/

/-- What stands at the front of a measured text, as far as it concerns the character before it. -/
inductive Front
  /-- Nothing that can be joined. -/
  | closed
  | lineFeed
  /-- A letter of Arabic that joins with a lam. -/
  | alef
  /-- A Hebrew lamed, and whether a joiner stands before it. -/
  | lamed (joined : Bool)
  /-- A Buginese ya, and whether a joiner stands before it. -/
  | ya (joined : Bool)
  /-- A Buginese vowel sign with a joined ya. -/
  | vowelWithYa
  /-- A Tifinagh consonant, and whether a joiner stands before it. -/
  | consonant (joined : Bool)
  /-- A Tifinagh consonant behind the consonant joiner. -/
  | boundConsonant
  /-- The second half of a Lisu tone. -/
  | secondTone
  /-- An Orkhon i, and whether a joiner stands before it. -/
  | orkhonI (joined : Bool)
  /-- A Khmer letter that can stand below another. -/
  | subscript
  /-- The vowel sign e of Kirat Rai. -/
  | vowelE
  /-- The vowel sign ai of Kirat Rai, which is also written as two signs. -/
  | vowelAi
  | skinTone
  | flagLetter
  /-- Two flag letters or more. -/
  | flagLetters
  /-- An emoji that shows as a picture. -/
  | picture
  /-- A joiner and a picture. -/
  | joinedPicture
  /-- A keycap, a joiner and a picture. -/
  | joinedKeycap
  /-- One flag letter, a joiner and a picture. -/
  | joinedFlagLetter
  /-- An even number of flag letters, a joiner and a picture. -/
  | joinedFlags
  /-- An odd number of flag letters, at least three, a joiner and a picture. -/
  | joinedOddFlags
  /-- So many tag letters before the end of a tag, a joiner and a picture. -/
  | tagLetters (count : Nat)
  /-- So many tag digits before such tag letters. -/
  | tagDigits (count : Nat)
  deriving DecidableEq, Repr

namespace Front

/-- The front that a character makes as a cluster of its own. -/
def ofChar (c : Char) : Front :=
  if c = '\u05dc' then lamed false
  else if c = '\u1a10' then ya false
  else if alefs.contains c then alef
  else if subscripts.contains c then subscript
  else if isConsonant c then consonant false
  else if isSecondTone c then secondTone
  else if c.toNat = 0x10C03 then orkhonI false
  else if c.toNat = 0x16D67 then vowelE
  else if c.toNat = 0x16D68 then vowelAi
  else if isFlagLetter c then flagLetter
  else if isSkinTone c then skinTone
  else if pictures.contains c then picture
  else closed

/-- Whether the front is a letter that is joined across selectors. -/
def isLetter : Front → Bool
  | alef | lamed _ | ya _ | vowelWithYa | consonant _ | boundConsonant | secondTone | orkhonI _
  | subscript => true
  | _ => false

/-- Whether the front keeps the selector for pictures. -/
def keepsPicture (front : Front) : Bool :=
  front.isLetter || front == joinedPicture || front == joinedKeycap

/-- The letter with a joiner before it. -/
def joined : Front → Front
  | lamed _ => lamed true
  | ya _ => ya true
  | consonant _ => consonant true
  | orkhonI _ => orkhonI true
  | front => front

end Front

/-! ## Joins -/

/-- How a character changes the cluster that it joins. -/
structure Join where
  /-- The cells that the cluster gains. -/
  gain : Int
  /-- What stands at the front afterwards. -/
  front : Front
  deriving DecidableEq, Repr

namespace Front

/-- A join that takes no cells. -/
def free (front : Front) : Option Join :=
  some ⟨0, front⟩

/-- A character before a joiner and a picture. -/
def joinPicture? (c : Char) : Option Join :=
  if c = '\u20e3' then free joinedKeycap
  else if isFlagLetter c then some ⟨1, joinedFlagLetter⟩
  else if isSkinTone c then free skinTone
  else if c.toNat = 0xE007F then free (tagLetters 0)
  else if pictures.contains c then free picture
  else none

/-- A character in a sequence of tags.  Behind a black flag there are three to six letters, or
three digits and up to four letters; they name a region and a part of it. -/
def joinTags? (letters digits : Nat) (c : Char) : Option Join :=
  if c.toNat = 0x1F3F4 ∧ ((digits = 0 ∧ 3 ≤ letters) ∨ digits = 3) then free picture
  else if isTagLetter c = true ∧ digits = 0 ∧ letters < 6 then free (tagLetters (letters + 1))
  else if isTagDigit c = true ∧ letters ≤ 4 ∧ digits < 3 then free (tagDigits (digits + 1))
  else none

/-- A character before a letter that shares its cells with others. -/
def joinLetter? (front : Front) (c : Char) : Option Join :=
  match front with
  | .lamed true => if c = '\u05d0' then free closed else none
  | .ya true => if c = '\u1a17' then free vowelWithYa else none
  | .vowelWithYa => if c = '\u1a15' then free closed else none
  | .consonant joined =>
    if c = '\u2d7f' then some ⟨1, boundConsonant⟩
    else if joined = true ∧ isConsonant c = true then free closed
    else none
  | .boundConsonant => if isConsonant c then some ⟨-1, closed⟩ else none
  | .secondTone => if isFirstTone c then free closed else none
  | .orkhonI true => if c.toNat = 0x10C32 then free closed else none
  | .subscript => if c = '\u17d2' then some ⟨-1, closed⟩ else none
  | _ => none

/-- The join of a character with what stands behind it, if there is one. -/
def join? (front : Front) (c : Char) : Option Join :=
  match front with
  | .closed | .lineFeed => none
  | .alef =>
    if lams.contains c then free closed else if skipped.contains c then free alef else none
  | .vowelE =>
    if c.toNat = 0x16D63 ∨ c.toNat = 0x16D69 then free closed
    else if c.toNat = 0x16D67 then free vowelAi
    else if c.toNat = 0x16D68 then some ⟨1, vowelE⟩
    else none
  | .vowelAi => if c.toNat = 0x16D63 then free closed else none
  | .skinTone =>
    if c = '\u200d' then free joinedPicture
    else if toned.contains c then free picture
    else none
  | .picture => if c = '\u200d' then free joinedPicture else none
  | .flagLetter => if isFlagLetter c then some ⟨1, flagLetters⟩ else none
  | .flagLetters =>
    if c = '\u200d' then free joinedPicture
    else if isFlagLetter c then some ⟨1, flagLetters⟩
    else none
  | .joinedPicture => joinPicture? c
  | .joinedKeycap => none
  | .joinedFlagLetter => if isFlagLetter c then some ⟨-1, joinedFlags⟩ else none
  | .joinedFlags =>
    if c = '\u200d' then free joinedPicture
    else if isFlagLetter c then some ⟨3, joinedOddFlags⟩
    else none
  | .joinedOddFlags =>
    if c = '\u200d' then free joinedPicture
    else if isFlagLetter c then some ⟨-1, joinedFlags⟩
    else none
  | .tagLetters count => joinTags? count 0 c
  | .tagDigits count => joinTags? 0 count c
  | .lamed _ | .ya _ | .vowelWithYa | .consonant _ | .boundConsonant | .secondTone | .orkhonI _
  | .subscript =>
    if c = '\u200d' then free front.joined
    else if isUnseenMark c then free front
    else front.joinLetter? c

end Front

/-! ## The measure -/

/-- A text measured from its end to a place before which there is more to come. -/
structure Measure where
  /-- The cells of the clusters behind the first. -/
  behind : Nat
  /-- The cells of the first cluster. -/
  first : Nat
  front : Front
  /-- Whether the selector for pictures stands at the front. -/
  pictured : Bool
  /-- Whether the selector for text stands at the front. -/
  plain : Bool
  /-- Whether the selector for full width stands at the front. -/
  full : Bool
  deriving DecidableEq, Repr

namespace Measure

/-- Nothing measured. -/
def empty : Measure := ⟨0, 0, .closed, false, false, false⟩

/-- All cells. -/
def total (measure : Measure) : Nat :=
  measure.behind + measure.first

/-- A new cluster before the others. -/
def start (measure : Measure) (cells : Nat) (front : Front) : Measure :=
  ⟨measure.total, cells, front, false, false, false⟩

/-- One more character in the first cluster. -/
def join (measure : Measure) (join : Join) : Measure :=
  ⟨measure.behind, (measure.first + join.gain).toNat, join.front, false, false, false⟩

/-! ### Selectors -/

/-- The selector for pictures at the front. -/
def selectPicture (measure : Measure) : Measure :=
  if measure.front.keepsPicture then { measure with pictured := true }
  else { measure.start 0 .closed with pictured := true }

/-- The selector for text at the front. -/
def selectPlain (measure : Measure) : Measure :=
  if measure.front.isLetter then { measure with plain := true }
  else { measure.start 0 .closed with plain := true }

/-- The selector for full width at the front. -/
def selectFull (measure : Measure) : Measure :=
  if measure.front.isLetter then { measure with full := true }
  else { measure.start 0 .closed with full := true }

/-- A selector for pictures that selects nothing leaves only letters to be joined. -/
def dropPicture (measure : Measure) : Measure :=
  if measure.pictured = true ∧ measure.front.isLetter = false then measure.start 0 .closed
  else { measure with pictured := false }

/-- A character that is turned into a picture.  Before a joiner it takes no cells. -/
def startPicture (measure : Measure) : Measure :=
  if measure.front = .joinedPicture ∨ measure.front = .joinedKeycap then
    measure.join ⟨0, .picture⟩
  else measure.start 2 .picture

/-! ### Steps -/

/-- A character before the text, when no selector for pictures is in the way: it is a selector, or
follows one, or joins, or starts a cluster. -/
def place (c : Char) (measure : Measure) : Measure :=
  if c = '\n' then measure.start 1 .lineFeed
  else if c = '\r' ∧ measure.front = .lineFeed then measure.join ⟨0, .closed⟩
  else if c ≤ '\u00a0' then measure.start 1 .closed
  else if c = '\ufe0f' then measure.selectPicture
  else if c = '\ufe0e' then measure.selectPlain
  else if c = '\ufe01' then measure.selectFull
  else if measure.plain = true ∧ selectable.contains c = true ∧ pictures.contains c = true
      ∧ isEnclosedIdeograph c = false then
    measure.start 1 .closed
  else if measure.full = true ∧ isCurlyQuote c = true then measure.start 2 .closed
  else
    match measure.front.join? c with
    | some join => measure.join join
    | none => measure.start (cells c) (.ofChar c)

/-- A character before the text. -/
def step (c : Char) (measure : Measure) : Measure :=
  if measure.pictured = true ∧ selectable.contains c = true then measure.startPicture
  else measure.dropPicture.place c

end Measure

/-- The cells that a text takes. -/
def width (text : String) : Nat :=
  (text.toList.foldr Measure.step .empty).total

end GameSheets.Text

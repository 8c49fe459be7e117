/-
  Reading values from JSON tokens.

  A reader takes its value off the front of the tokens.  Arrays and objects are read item by item,
  so the first fault from the left is the one that is found; a value that nobody asks for is passed
  over.  An object of fixed fields may also be written as the array of its fields in order.
-/
import GameSheets.Document.Token

namespace GameSheets.Document

/-- Takes a value off the front of the tokens. -/
abbrev Reader (α : Type) := List Token → Except Fault (α × List Token)

namespace Token

/-- The fault of a token that starts another value than the expected one. -/
def unexpected : Token → Fault
  | openArray | openObject => .mismatch
  | text (.ok _) _ => .mismatch
  | text (.error fault) _ => fault
  | number read _ => read.getD .mismatch
  | word fault => fault.getD .mismatch
  | closeArray | closeObject | comma | colon | stray => .malformed

end Token

/-! ## Passing over a value -/

/-- What may come next while a value is passed over. -/
inductive Awaited
  | value
  | valueOrEnd
  | separator
  | key
  | keyOrEnd
  | colon
  deriving DecidableEq, Repr

/-- What an open bracket holds. -/
inductive Bracket
  | array
  | object
  deriving DecidableEq, Repr

/-- Passes over the rest of a value inside the open brackets, the innermost first. -/
def skip : Awaited → List Bracket → List Token → Except Fault (List Token)
  | _, _, [] => .error .early
  | awaited, brackets, token :: rest =>
    match awaited, token with
    | .value, .openArray => skip .valueOrEnd (.array :: brackets) rest
    | .valueOrEnd, .openArray => skip .valueOrEnd (.array :: brackets) rest
    | .value, .openObject => skip .keyOrEnd (.object :: brackets) rest
    | .valueOrEnd, .openObject => skip .keyOrEnd (.object :: brackets) rest
    | .value, .text _ passed | .value, .number _ passed | .value, .word passed
    | .valueOrEnd, .text _ passed | .valueOrEnd, .number _ passed | .valueOrEnd, .word passed =>
      match passed, brackets with
      | some fault, _ => .error fault
      | none, [] => .ok rest
      | none, brackets => skip .separator brackets rest
    | .valueOrEnd, .closeArray | .separator, .closeArray =>
      match brackets with
      | [.array] => .ok rest
      | .array :: outer => skip .separator outer rest
      | _ => .error .malformed
    | .keyOrEnd, .closeObject | .separator, .closeObject =>
      match brackets with
      | [.object] => .ok rest
      | .object :: outer => skip .separator outer rest
      | _ => .error .malformed
    | .separator, .comma =>
      match brackets with
      | .object :: _ => skip .key brackets rest
      | _ => skip .value brackets rest
    | .key, .text _ passed | .keyOrEnd, .text _ passed =>
      match passed with
      | some fault => .error fault
      | none => skip .colon brackets rest
    | .colon, .colon => skip .value brackets rest
    | _, _ => .error .malformed

/-- Passes over one value. -/
def skipValue : Reader Unit := fun tokens =>
  (skip .value [] tokens).map fun rest => ((), rest)

/-! ## Texts and arrays -/

/-- Reads a text. -/
def readText : Reader String
  | [] => .error .early
  | .text (.ok value) _ :: rest => .ok (value, rest)
  | token :: _ => .error token.unexpected

/-- Moves to the item that follows one in an array; `false` at the end of the array, which is not
taken. -/
def nextItem : Reader Bool
  | [] => .error .early
  | .closeArray :: rest => .ok (false, .closeArray :: rest)
  | .comma :: [] => .error .early
  | .comma :: .closeArray :: _ => .error .malformed
  | .comma :: rest => .ok (true, rest)
  | _ :: _ => .error .malformed

/-- Takes the end of an array. -/
def endArray : Reader Unit
  | [] => .error .early
  | .closeArray :: rest => .ok ((), rest)
  | _ :: _ => .error .malformed

/-- Reads at most `steps` items behind the first. -/
def readItems {α : Type} (item : Reader α) : Nat → Reader (List α)
  | 0, _ => .error .early
  | steps + 1, tokens => do
    let (more, tokens) ← nextItem tokens
    if more then
      let (value, tokens) ← item tokens
      let (others, tokens) ← readItems item steps tokens
      return (value :: others, tokens)
    else
      let (_, tokens) ← endArray tokens
      return ([], tokens)

/-- Reads an array.  Every item takes a token, which bounds their number. -/
def readArray {α : Type} (item : Reader α) : Reader (List α)
  | [] => .error .early
  | .openArray :: [] => .error .early
  | .openArray :: .closeArray :: rest => .ok ([], rest)
  | .openArray :: rest => do
    let (value, tokens) ← item rest
    let (others, tokens) ← readItems item rest.length tokens
    return (value :: others, tokens)
  | token :: _ => .error token.unexpected

/-! ## Objects -/

/-- What the value under a key is for. -/
inductive FieldUse (σ : Type)
  | unknown
  /-- The field was read before. -/
  | repeated
  | known (read : Reader σ)

/-- Reads a colon and a value, given the key. -/
def readMember {σ : Type} (use : σ → String → FieldUse σ) (fields : σ) (key : String) : Reader σ :=
  fun tokens => do
    let behindColon : Except Fault (List Token) :=
      match tokens with
      | [] => .error .early
      | .colon :: rest => .ok rest
      | _ :: _ => .error .malformed
    match use fields key with
    | .repeated => .error .mismatch
    | .unknown =>
      let (_, tokens) ← skipValue (← behindColon)
      return (fields, tokens)
    | .known read => read (← behindColon)

/-- Takes a key. -/
def readKey : Reader String
  | .text value _ :: rest => value.map fun key => (key, rest)
  | _ => .error .malformed

/-- Reads at most `steps` members behind the first. -/
def readMembers {σ : Type} (use : σ → String → FieldUse σ) : Nat → σ → Reader σ
  | 0, _, _ => .error .early
  | steps + 1, fields, tokens =>
    match tokens with
    | [] => .error .early
    | .closeObject :: rest => .ok (fields, .closeObject :: rest)
    | .comma :: [] => .error .early
    | .comma :: rest => do
      let (key, rest) ← readKey rest
      let (fields, rest) ← readMember use fields key rest
      readMembers use steps fields rest
    | _ :: _ => .error .malformed

/-- Reads the members behind an opening brace, up to the closing one, which is not taken. -/
def readFields {σ : Type} (use : σ → String → FieldUse σ) (start : σ) : Reader σ
  | [] => .error .early
  | .closeObject :: rest => .ok (start, .closeObject :: rest)
  | tokens => do
    let (key, rest) ← readKey tokens
    let (fields, rest) ← readMember use start key rest
    readMembers use tokens.length fields rest

/-- Takes the end of an object. -/
def endObject : Reader Unit
  | [] => .error .early
  | .closeObject :: rest => .ok ((), rest)
  | _ :: _ => .error .malformed

/-- Reads an object by its fields, or an array of them; what was read must be complete. -/
def readRecord {σ α : Type} (use : σ → String → FieldUse σ) (start : σ)
    (complete? : σ → Option α) (inOrder : Reader α) : Reader α
  | [] => .error .early
  | .openObject :: rest => do
    let (fields, rest) ← readFields use start rest
    match complete? fields with
    | none => .error .mismatch
    | some value =>
      let (_, rest) ← endObject rest
      return (value, rest)
  | .openArray :: rest => do
    let (value, rest) ← inOrder rest
    let (_, rest) ← endArray rest
    return (value, rest)
  | token :: _ => .error token.unexpected

/-- Moves to the first item of an array, which must have one. -/
def firstItem : Reader Unit
  | [] => .error .early
  | .closeArray :: _ => .error .mismatch
  | tokens => .ok ((), tokens)

/-- Moves to a further item of an array, which must have one. -/
def furtherItem : Reader Unit := fun tokens => do
  let (more, tokens) ← nextItem tokens
  if more then return ((), tokens) else throw .mismatch

/-- Reads one value and nothing behind it. -/
def readAll {α : Type} (read : Reader α) (text : String) : Except Fault α := do
  let (value, rest) ← read (tokens text)
  if rest.isEmpty then return value else throw .malformed

end GameSheets.Document

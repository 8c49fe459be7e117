/-
  TOML documents that assign texts to keys.

  Such a document has at most one assignment `key = text` on a line, with blank lines and comments
  between.  Keys are bare or quoted; texts are of the four kinds that TOML knows.  Documents with
  tables, dotted keys, or values of other types are not read, since no setting has such a value.
-/
import GameSheets.Document.Token

namespace GameSheets.Toml

/-- Takes a value off the front of a text. -/
abbrev Reader (α : Type) := List Char → Option (α × List Char)

/-! ## Characters -/

/-- A blank within a line. -/
def isSpace (c : Char) : Bool :=
  c == ' ' || c == '\t'

/-- A character that may stand for itself: a tab, or anything but a control. -/
def isPlain (c : Char) : Bool :=
  c == '\t' || (0x20 ≤ c.toNat && c.toNat != 0x7F)

/-- The character of a code point that is given by its digits. -/
def charOf? (digits : List Char) : Option Char := do
  let n ← Document.hexValue? digits
  if n.isValidChar then some (Char.ofNat n) else none

/-- The character of a short escape. -/
def shortEscape? (c : Char) : Option Char :=
  match c with
  | '"' => some '"'
  | '\\' => some '\\'
  | 'b' => some '\x08'
  | 'e' => some '\x1b'
  | 'f' => some '\x0c'
  | 'n' => some '\n'
  | 'r' => some '\r'
  | 't' => some '\t'
  | _ => none

/-- The rest behind a line's end, when one comes next. -/
def lineEnd? : List Char → Option (List Char)
  | '\n' :: rest => some rest
  | '\r' :: '\n' :: rest => some rest
  | _ => none

/-- A character in front of a text. -/
def push (c : Char) (text : Option (List Char × List Char)) : Option (List Char × List Char) :=
  text.map fun (chars, rest) => (c :: chars, rest)

/-! ## Texts on one line -/

/-- Reads a text with escapes behind its opening quote. -/
def basic : Reader (List Char)
  | [] => none
  | '"' :: rest => some ([], rest)
  | '\\' :: 'x' :: a :: b :: rest => do push (← charOf? [a, b]) (basic rest)
  | '\\' :: 'u' :: a :: b :: c :: d :: rest => do push (← charOf? [a, b, c, d]) (basic rest)
  | '\\' :: 'U' :: a :: b :: c :: d :: e :: f :: g :: h :: rest => do
    push (← charOf? [a, b, c, d, e, f, g, h]) (basic rest)
  | '\\' :: c :: rest => do push (← shortEscape? c) (basic rest)
  | c :: rest => if c ≠ '\\' ∧ isPlain c = true then push c (basic rest) else none

/-- Reads a text without escapes behind its opening quote. -/
def literal : Reader (List Char)
  | [] => none
  | '\'' :: rest => some ([], rest)
  | c :: rest => if isPlain c then push c (literal rest) else none

/-! ## Texts on many lines

  Such a text ends at three quotes; one or two more right before them belong to the text. -/

/-- The end of a text, behind three quotes: up to two quotes, and what follows. -/
def closing (quote : Char) (rest : List Char) : Option (List Char × List Char) :=
  let extra := (rest.takeWhile (· = quote)).length
  if extra ≤ 2 then some (List.replicate extra quote, rest.drop extra) else none

/-- Reads a text with escapes; while `folding`, blanks and line ends are dropped, as they are
behind a backslash at the end of a line. -/
def basicLines (folding : Bool) : Reader (List Char)
  | [] => none
  | '\r' :: '\n' :: rest =>
    if folding then basicLines true rest else push '\r' (push '\n' (basicLines false rest))
  | '"' :: '"' :: '"' :: rest => closing '"' rest
  | '\\' :: 'x' :: a :: b :: rest => do push (← charOf? [a, b]) (basicLines false rest)
  | '\\' :: 'u' :: a :: b :: c :: d :: rest => do
    push (← charOf? [a, b, c, d]) (basicLines false rest)
  | '\\' :: 'U' :: a :: b :: c :: d :: e :: f :: g :: h :: rest => do
    push (← charOf? [a, b, c, d, e, f, g, h]) (basicLines false rest)
  | '\\' :: c :: rest =>
    if (lineEnd? ((c :: rest).dropWhile isSpace)).isSome then basicLines true rest
    else do push (← shortEscape? c) (basicLines false rest)
  | c :: rest =>
    if folding = true ∧ (isSpace c = true ∨ c = '\n') then basicLines true rest
    else if c = '\n' ∨ (c ≠ '\\' ∧ isPlain c = true) then push c (basicLines false rest)
    else none

/-- Reads a text without escapes. -/
def literalLines : Reader (List Char)
  | [] => none
  | '\r' :: '\n' :: rest => push '\r' (push '\n' (literalLines rest))
  | '\'' :: '\'' :: '\'' :: rest => closing '\'' rest
  | c :: rest => if c = '\n' ∨ isPlain c = true then push c (literalLines rest) else none

/-- Drops a line's end right behind the opening quotes. -/
def dropLineEnd (text : List Char) : List Char :=
  (lineEnd? text).getD text

/-! ## Assignments -/

/-- Reads a text of any kind. -/
def text? : Reader (List Char)
  | '"' :: '"' :: '"' :: rest => basicLines false (dropLineEnd rest)
  | '"' :: rest => basic rest
  | '\'' :: '\'' :: '\'' :: rest => literalLines (dropLineEnd rest)
  | '\'' :: rest => literal rest
  | _ => none

/-- A character of a bare key. -/
def isBare (c : Char) : Bool :=
  c.isAlphanum || c == '_' || c == '-'

/-- Reads a key. -/
def key? : Reader (List Char)
  | '"' :: rest => basic rest
  | '\'' :: rest => literal rest
  | text =>
    let bare := text.takeWhile isBare
    if bare = [] then none else some (bare, text.dropWhile isBare)

/-- Drops blanks within a line. -/
def skipSpace (text : List Char) : List Char :=
  text.dropWhile isSpace

/-- Takes the end of a line behind blanks and a comment; the last line needs none. -/
def endLine? (text : List Char) : Option (List Char) :=
  let rest :=
    match skipSpace text with
    | '#' :: rest => rest.dropWhile isPlain
    | rest => rest
  if rest = [] then some [] else lineEnd? rest

/-- Reads `key = text`. -/
def assignment? : Reader (String × String) := fun text => do
  let (key, text) ← key? text
  match skipSpace text with
  | '=' :: text => do
    let (value, text) ← text? (skipSpace text)
    some ((String.ofList key, String.ofList value), text)
  | _ => none

/-- Reads at most `steps` lines up to the end. -/
def lines? : Nat → List Char → Option (List (String × String))
  | 0, text => if text = [] then some [] else none
  | steps + 1, text =>
    match skipSpace text with
    | [] => some []
    | '#' :: _ | '\n' :: _ | '\r' :: _ => do lines? steps (← endLine? text)
    | start => do
      let (pair, rest) ← assignment? start
      let others ← lines? steps (← endLine? rest)
      some (pair :: others)

/-- The assignments of a document in order, behind a byte-order mark if there is one. -/
def assignments? (text : String) : Option (List (String × String)) :=
  let chars :=
    match text.toList with
    | '\ufeff' :: rest => rest
    | chars => chars
  lines? (chars.length + 1) chars

end GameSheets.Toml

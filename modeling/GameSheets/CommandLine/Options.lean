/-
  Options of a run, as they are given on a command line.

  Words are read from left to right.  A word is a flag, a setting with its value, or the input;
  `--` ends the flags, and a single dash is an ordinary word:

    -sv   --server   --config FILE   --config=FILE   INPUT   --   INPUT

  The first word that cannot be read, or that asks for the version or for help, ends the reading.
-/
import GameSheets.Platform
import GameSheets.Text.Split
import GameSheets.Timestamp

namespace GameSheets

namespace CommandLine

/-! ## Vocabulary -/

/-- A flag that is either given or not. -/
inductive Flag
  | only (platform : Platform)
  | verbose
  | help
  | version
  deriving DecidableEq, Repr

namespace Flag

/-- The flag with a long name. -/
def ofName? : String → Option Flag
  | "server" => some (only .server)
  | "client" => some (only .client)
  | "verbose" => some verbose
  | "help" => some help
  | "version" => some version
  | _ => none

/-- The flag with a letter. -/
def ofLetter? : Char → Option Flag
  | 's' => some (only .server)
  | 'c' => some (only .client)
  | 'v' => some verbose
  | 'h' => some help
  | 'V' => some version
  | _ => none

end Flag

/-- Something that is given a value. -/
inductive Setting
  | config
  | headerDir (platform : Platform)
  | jsonDir (platform : Platform)
  | pinnedClock
  deriving DecidableEq, Repr

namespace Setting

/-- The setting with a long name. -/
def ofName? : String → Option Setting
  | "config" => some config
  | "server-header-dir" => some (headerDir .server)
  | "client-header-dir" => some (headerDir .client)
  | "server-json-dir" => some (jsonDir .server)
  | "client-json-dir" => some (jsonDir .client)
  | "pin-clock" => some pinnedClock
  | _ => none

/-- The setting can have this value: a timestamp for the clock, else a path. -/
def accepts : Setting → String → Bool
  | pinnedClock, value => (Timestamp.ofText? value).isSome
  | _, value => value != ""

end Setting

/-- The shape of a word, before any name is looked up. -/
inductive Word
  /-- Two dashes alone. -/
  | endOfFlags
  /-- A long name behind two dashes, with the text behind a `=`. -/
  | long (name : String) (attached : Option String)
  /-- Letters behind one dash. -/
  | letters (letters : List Char)
  | plain
  deriving DecidableEq, Repr

namespace Word

/-- The shape of a word. -/
def ofText (text : String) : Word :=
  match text.toList with
  | ['-', '-'] => endOfFlags
  | '-' :: '-' :: rest =>
    match Text.splitFirst? '=' rest with
    | some (name, value) => long (String.ofList name) (some (String.ofList value))
    | none => long (String.ofList rest) none
  | '-' :: letter :: rest => letters (letter :: rest)
  | _ => plain

end Word

/-! ## Reading -/

/-- Why a command line is refused. -/
inductive UsageError
  | unknown (word : String)
  | repeated (word : String)
  | valueMissing (word : String)
  | valueUnneeded (word : String)
  | valueInvalid (word value : String)
  | inputMissing
  deriving DecidableEq, Repr

namespace UsageError

/-- The error in words. -/
def message : UsageError → String
  | unknown word => "unexpected argument '" ++ word ++ "'"
  | repeated word => "the argument '" ++ word ++ "' cannot be used multiple times"
  | valueMissing word => "a value is required for '" ++ word ++ "'"
  | valueUnneeded word => "'" ++ word ++ "' takes no value"
  | valueInvalid word value => "invalid value '" ++ value ++ "' for '" ++ word ++ "'"
  | inputMissing => "the input was not provided"

end UsageError

/-- Why a command line leads to no run. -/
inductive NoRun
  | version
  | help
  | misuse (error : UsageError)
  deriving DecidableEq, Repr

/-- What the words so far have given. -/
structure Given where
  input : Option String
  flags : List Flag
  settings : List (Setting × String)
  deriving DecidableEq, Repr

namespace Given

/-- Nothing given. -/
def nothing : Given :=
  ⟨none, [], []⟩

/-- Gives a flag. -/
def flag (given : Given) (word : String) : Flag → Except NoRun Given
  | .version => .error .version
  | .help => .error .help
  | flag =>
    if flag ∈ given.flags then .error (.misuse (.repeated word))
    else .ok { given with flags := flag :: given.flags }

/-- Gives a setting its value. -/
def setting (given : Given) (word : String) (setting : Setting) (value : String) :
    Except NoRun Given :=
  if given.settings.any (·.1 = setting) then .error (.misuse (.repeated word))
  else if setting.accepts value then
    .ok { given with settings := (setting, value) :: given.settings }
  else .error (.misuse (.valueInvalid word value))

/-- Gives the flags of letters. -/
def letters (given : Given) (word : String) : List Char → Except NoRun Given
  | [] => .ok given
  | letter :: rest =>
    match Flag.ofLetter? letter with
    | none => .error (.misuse (.unknown word))
    | some flag => do
      let given ← given.flag word flag
      letters given word rest

/-- Gives the input. -/
def setInput (given : Given) (word : String) : Except NoRun Given :=
  match given.input with
  | some _ => .error (.misuse (.unknown word))
  | none =>
    if word = "" then .error (.misuse (.valueInvalid "INPUT" word))
    else .ok { given with input := some word }

/-- Reads words behind the end of the flags. -/
def readInputs (given : Given) : List String → Except NoRun Given
  | [] => .ok given
  | word :: rest => do
    let given ← given.setInput word
    readInputs given rest

/-- Reads a long name that has no value attached; `none` when it needs the next word. -/
def longAlone (given : Given) (word name : String) : Except NoRun Given ⊕ Setting :=
  match Flag.ofName? name, Setting.ofName? name with
  | some flag, _ => .inl (given.flag word flag)
  | none, some setting => .inr setting
  | none, none => .inl (.error (.misuse (.unknown word)))

/-- Reads a long name with a value attached. -/
def longAttached (given : Given) (word name value : String) : Except NoRun Given :=
  match Flag.ofName? name, Setting.ofName? name with
  | some _, _ => .error (.misuse (.valueUnneeded word))
  | none, some setting => given.setting word setting value
  | none, none => .error (.misuse (.unknown word))

/-- Reads words from left to right. -/
def read (given : Given) : List String → Except NoRun Given
  | [] => .ok given
  | word :: rest =>
    match Word.ofText word with
    | .endOfFlags => given.readInputs rest
    | .plain => do
      let given ← given.setInput word
      read given rest
    | .letters letters => do
      let given ← given.letters word letters
      read given rest
    | .long name (some value) => do
      let given ← given.longAttached word name value
      read given rest
    | .long name none =>
      match given.longAlone word name with
      | .inl outcome => do
        let given ← outcome
        read given rest
      | .inr setting =>
        match rest with
        | [] => .error (.misuse (.valueMissing word))
        | value :: others =>
          match Word.ofText value with
          | .plain => do
            let given ← given.setting word setting value
            read given others
          | _ => .error (.misuse (.valueMissing word))

end Given

/-! ## Options -/

/-- The options of a run. -/
structure Options where
  /-- A workbook document, or a directory of them. -/
  input : String
  server : Bool
  client : Bool
  verbose : Bool
  settings : List (Setting × String)
  deriving DecidableEq, Repr

namespace Options

/-- The value of a setting. -/
def value? (options : Options) (setting : Setting) : Option String :=
  (options.settings.find? (·.1 = setting)).map (·.2)

/-- Reads a command line. -/
def ofWords (words : List String) : Except NoRun Options := do
  let given ← Given.nothing.read words
  match given.input with
  | none => .error (.misuse .inputMissing)
  | some input =>
    .ok
      { input
        server := given.flags.contains (.only .server)
        client := given.flags.contains (.only .client)
        verbose := given.flags.contains .verbose
        settings := given.settings }

/-- The platforms to compile for: the one that was singled out, else both. -/
def platforms (options : Options) : List Platform :=
  match options.server, options.client with
  | true, false => [.server]
  | false, true => [.client]
  | _, _ => [.server, .client]

/-- The clock that was given. -/
def clock? (options : Options) : Option Timestamp :=
  (options.value? .pinnedClock).bind Timestamp.ofText?

end Options

end CommandLine

end GameSheets

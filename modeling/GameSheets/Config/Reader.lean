/-
  Reading configurations.

  A configuration file gives texts to settings, each at most once, under keys that are all known;
  settings that it does not name keep their standard values.
-/
import GameSheets.Config
import GameSheets.Config.Toml

namespace GameSheets.Config

/-- Makes assignments behind those of the keys `seen`. -/
def assign? (seen : List String) (config : Config) : List (String × String) → Option Config
  | [] => some config
  | (key, value) :: rest =>
    if key ∈ seen then none
    else
      match config.set? key value with
      | none => none
      | some config => assign? (key :: seen) config rest

/-- Reads a configuration file. -/
def read? (text : String) : Option Config :=
  (Toml.assignments? text).bind (assign? [] standard)

end GameSheets.Config

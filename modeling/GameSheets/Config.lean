/-
  Configuration of an export: where artifacts go and what they are called.
-/
import GameSheets.Files.Path
import GameSheets.Platform

namespace GameSheets

/-- The settings of an export. -/
structure Config where
  serverHeaderDir : String
  clientHeaderDir : String
  serverJsonDir : String
  clientJsonDir : String
  serverEnumFile : String
  serverDataFile : String
  clientEnumFile : String
  clientDataFile : String
  serverNamespace : String
  /-- The name of the field that leads every client row. -/
  rowNameField : String
  deriving DecidableEq, Repr

namespace Config

/-- The settings where nothing is said. -/
def standard : Config where
  serverHeaderDir := "../serverHeader"
  clientHeaderDir := "../clientHeader"
  serverJsonDir := "../serverJson"
  clientJsonDir := "../clientJson"
  serverEnumFile := "gamedata_enum.h"
  serverDataFile := "gamedata_data.h"
  clientEnumFile := "GameDataEnum.h"
  clientDataFile := "GameData.h"
  serverNamespace := "rh::gamedata"
  rowNameField := "Name"

/-- Changes the setting that a configuration file knows by this key; `none` for other keys. -/
def set? (key value : String) (config : Config) : Option Config :=
  match key with
  | "server_header_dir" => some { config with serverHeaderDir := value }
  | "client_header_dir" => some { config with clientHeaderDir := value }
  | "server_json_dir" => some { config with serverJsonDir := value }
  | "client_json_dir" => some { config with clientJsonDir := value }
  | "server_enum_file" => some { config with serverEnumFile := value }
  | "server_data_file" => some { config with serverDataFile := value }
  | "client_enum_file" => some { config with clientEnumFile := value }
  | "client_data_file" => some { config with clientDataFile := value }
  | "server_namespace" => some { config with serverNamespace := value }
  | "row_name_field" => some { config with rowNameField := value }
  | _ => none

/-- A directory that is still the standard one, seen from the input's directory. -/
def resolveDir (inputDir standardDir dir : String) : String :=
  if Path.sameSteps dir standardDir then Path.join inputDir standardDir else dir

/-- Takes the output directories that are still the standard ones relative to the input's
directory. -/
def resolve (inputDir : String) (config : Config) : Config :=
  { config with
    serverHeaderDir := resolveDir inputDir standard.serverHeaderDir config.serverHeaderDir
    clientHeaderDir := resolveDir inputDir standard.clientHeaderDir config.clientHeaderDir
    serverJsonDir := resolveDir inputDir standard.serverJsonDir config.serverJsonDir
    clientJsonDir := resolveDir inputDir standard.clientJsonDir config.clientJsonDir }

/-- The directory of a platform's headers. -/
def headerDir (config : Config) : Platform → String
  | .server => config.serverHeaderDir
  | .client => config.clientHeaderDir

/-- The directory of a platform's documents. -/
def jsonDir (config : Config) : Platform → String
  | .server => config.serverJsonDir
  | .client => config.clientJsonDir

/-- The file of a platform's enum header. -/
def enumFile (config : Config) : Platform → String
  | .server => config.serverEnumFile
  | .client => config.clientEnumFile

/-- The file of a platform's data header. -/
def dataFile (config : Config) : Platform → String
  | .server => config.serverDataFile
  | .client => config.clientDataFile

end Config

end GameSheets

/-
  The block of comments at the top of every header.
-/
import GameSheets.Timestamp

namespace GameSheets.Header

/-- The notice, the export time if one is known, and the include guard. -/
def banner (exportedAt : Option Timestamp) : String :=
  "//////////////////////////////////\n"
    ++ "// This file is auto generated. //\n"
    ++ "//////////////////////////////////\n"
    ++ (match exportedAt with
      | some time => "// Exported at " ++ time.text ++ "\n"
      | none => "")
    ++ "#pragma once\n"

end GameSheets.Header

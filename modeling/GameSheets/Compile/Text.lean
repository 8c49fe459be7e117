/-
  The headers of one platform, from the text of a workbook document to one text.
-/
import GameSheets.Compile
import GameSheets.Workbook.Reader

namespace GameSheets

/-- Why a text does not become headers. -/
inductive HeadersError
  | unknownPlatform (platform : String)
  | document (fault : Document.Fault)
  | compile (cause : CompileError)
  deriving DecidableEq, Repr

namespace HeadersError

/-- The error in words. -/
def message : HeadersError → String
  | unknownPlatform platform => "Unknown platform: " ++ platform
  | document fault => fault.name
  | compile cause => cause.message

end HeadersError

namespace Artifacts

/-- The enum header and the data header, a line apart. -/
def headers (artifacts : Artifacts) : String :=
  artifacts.enumHeader ++ "\n" ++ artifacts.dataHeader

end Artifacts

namespace Workbook

/-- The headers of a workbook document for the named platform, in the standard configuration.  The
platform is looked at first, then the document. -/
def headersOfText (text platform : String) : Except HeadersError String := do
  match Platform.ofText? platform with
  | none => throw (.unknownPlatform platform)
  | some platform =>
    let workbook ← (Workbook.read text).mapError HeadersError.document
    let artifacts ← (workbook.compile .standard [platform]).outcome.mapError HeadersError.compile
    return String.join (artifacts.map Artifacts.headers)

end Workbook

end GameSheets

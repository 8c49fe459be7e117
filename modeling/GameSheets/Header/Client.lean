/-
  Headers of the client: enumerations with display names, and row types of data tables.
-/
import GameSheets.Config
import GameSheets.Declaration.Record
import GameSheets.Header.Banner
import GameSheets.Header.Columns
import GameSheets.Header.Docs

namespace GameSheets.Header

/-- What client headers take from the configuration, and their spacing. -/
structure ClientStyle where
  enumFile : String
  dataFile : String
  layout : ColumnLayout
  deriving DecidableEq, Repr

namespace ClientStyle

/-- The style that a configuration asks for. -/
def ofConfig (config : Config) : ClientStyle :=
  ⟨config.clientEnumFile, config.clientDataFile, .standard⟩

/-- The ordinals that the underlying integer type holds. -/
def ordinals : Number.Bounds := ⟨0, 255⟩

end ClientStyle

/-- The include of what the engine generates for a header: the file's ending is replaced. -/
def generatedInclude (file : String) : String :=
  "#include \"" ++ (Path.stem? file).getD file ++ ".generated.h\"\n"

/-! ## Enumerations -/

/-- One enumerator, its display name starting in the same column for all. -/
def clientEnumerator (width : Nat) (entry : Enumerator) : String :=
  "    " ++ pad entry.label width ++ "UMETA(DisplayName = \"" ++ entry.name ++ "\"),\n"

/-- An enumeration with its descriptions. -/
def clientEnum (layout : ColumnLayout) (enumeration : Enumeration) : String :=
  let width := layout.columnWidth (enumeration.entries.map (·.label))
  docComment enumeration.docs
    ++ "UENUM(BlueprintType)\n"
    ++ "enum class " ++ enumeration.name ++ " : uint8\n\x7b\n"
    ++ String.join (enumeration.entries.map (clientEnumerator width))
    ++ "\x7d;\n\n"

/-- The header of the enumerations, whose ordinals must all be in range. -/
def clientEnumHeader (style : ClientStyle) (exportedAt : Option Timestamp)
    (enumerations : List Enumeration) : Except DeclarationError String := do
  let blocks ← enumerations.mapM fun enumeration => do
    enumeration.checkRange ClientStyle.ordinals
    return clientEnum style.layout enumeration
  return banner exportedAt ++ "\n#include \"CoreMinimal.h\"\n" ++ generatedInclude style.enumFile
    ++ "\n" ++ String.join blocks

/-! ## Records -/

/-- What a scalar or a slot starts as, when it is written out.  The composites have constants for
their zeros. -/
def clientInit? (base : BaseType) : FieldInit → Option String
  | .default => none
  | .enumZero => some ("static_cast<" ++ base.nativeName .client ++ ">(0)")
  | .zero =>
    match base with
    | .vector => some "FVector::ZeroVector"
    | .rotator => some "FRotator::ZeroRotator"
    | _ => some (base.nativeName .client ++ "\x7b\x7d")

/-- A property. -/
def clientField (field : Field) : String :=
  let init := clientInit? field.base field.init
  let (size, value) :=
    match field.shape with
    | .scalar => ("", init)
    | .array size =>
      ("[" ++ toString size ++ "]",
        init.map fun text =>
          "\x7b " ++ String.intercalate ", " (List.replicate size text) ++ " \x7d")
  "    UPROPERTY(EditAnywhere, BlueprintReadWrite, Category = RowData)\n"
    ++ "    " ++ field.base.nativeName .client ++ " " ++ field.name ++ size
    ++ (match value with
      | some text => " = " ++ text
      | none => "")
    ++ ";\n"

/-- A row type; blank lines stand between its properties. -/
def clientRecord (record : Record) : String :=
  "\nUSTRUCT(BlueprintType)\n"
    ++ "struct F" ++ record.name ++ " : public FTableRowBase\n\x7b\n"
    ++ "    GENERATED_USTRUCT_BODY()\n\n"
    ++ "public:\n"
    ++ String.intercalate "\n" (record.fields.map clientField)
    ++ "\x7d;\n"

/-- The header of the row types. -/
def clientDataHeader (style : ClientStyle) (exportedAt : Option Timestamp)
    (records : List Record) : String :=
  banner exportedAt
    ++ "\n#include \"CoreMinimal.h\"\n"
    ++ "#include \"Engine/DataTable.h\"\n"
    ++ "#include \"" ++ style.enumFile ++ "\"\n"
    ++ generatedInclude style.dataFile
    ++ String.join (records.map clientRecord)

end GameSheets.Header

/-
  Headers of the server: reflected enumerations, and record types that an archive can read and
  write.
-/
import GameSheets.Config
import GameSheets.Declaration.Record
import GameSheets.Header.Banner
import GameSheets.Header.Docs

namespace GameSheets.Header

/-- What server headers take from the configuration. -/
structure ServerStyle where
  namespaceName : String
  enumFile : String
  deriving DecidableEq, Repr

namespace ServerStyle

/-- The style that a configuration asks for. -/
def ofConfig (config : Config) : ServerStyle :=
  ⟨config.serverNamespace, config.serverEnumFile⟩

/-- The ordinals that the underlying integer type holds. -/
def ordinals : Number.Bounds := ⟨0, 4294967295⟩

/-- The start of the namespace. -/
def opening (style : ServerStyle) : String :=
  "namespace " ++ style.namespaceName ++ "\n\x7b\n\n"

/-- The end of the namespace. -/
def closing (style : ServerStyle) : String :=
  "\x7d // namespace " ++ style.namespaceName ++ "\n"

end ServerStyle

/-! ## Enumerations -/

/-- An enumeration with its descriptions. -/
def serverEnum (enumeration : Enumeration) : String :=
  docComment enumeration.docs
    ++ "BETTER_ENUM(" ++ enumeration.name ++ ", uint32"
    ++ String.join (enumeration.entries.map fun entry => ", " ++ entry.label)
    ++ ");\n"

/-- The header of the enumerations, whose ordinals must all be in range. -/
def serverEnumHeader (style : ServerStyle) (exportedAt : Option Timestamp)
    (enumerations : List Enumeration) : Except DeclarationError String := do
  let blocks ← enumerations.mapM fun enumeration => do
    enumeration.checkRange ServerStyle.ordinals
    return serverEnum enumeration
  return banner exportedAt ++ "\n" ++ style.opening ++ String.join blocks ++ "\n" ++ style.closing

/-! ## Records -/

/-- What a scalar or a slot starts as, when it is written out. -/
def serverInit? (typeName : String) : FieldInit → Option String
  | .default => none
  | .zero => some (typeName ++ "\x7b\x7d")
  | .enumZero => some (typeName ++ "::_from_integral(0)")

/-- A member; every slot of an array is written out, since enumerations cannot be left out. -/
def serverField (field : Field) : String :=
  let typeName := field.base.nativeName .server
  let init := serverInit? typeName field.init
  match field.shape with
  | .scalar =>
    "    " ++ typeName ++ " " ++ field.name
      ++ (match init with
        | some text => " = " ++ text
        | none => "")
      ++ ";\n"
  | .array size =>
    "    std::array<" ++ typeName ++ ", " ++ toString size ++ "> " ++ field.name
      ++ (match init with
        | some text =>
          "\x7b " ++ String.intercalate ", " (List.replicate size text) ++ " \x7d"
        | none => "")
      ++ ";\n"

/-- A place as an expression. -/
def placeText : Place → String
  | .field name => name
  | .element field offset => field ++ "[" ++ toString offset ++ "]"

/-- An assignment as a statement. -/
def transferText : Transfer → String
  | .load temporary place => temporary ++ " = " ++ placeText place ++ ";"
  | .loadName temporary place => temporary ++ " = " ++ placeText place ++ "._to_string();"
  | .loadText temporary place => temporary ++ " = " ++ placeText place ++ ".ToString();"
  | .store place temporary => placeText place ++ " = " ++ temporary ++ ";"
  | .storeName place temporary enumType =>
    placeText place ++ " = " ++ enumType ++ "::_from_string(" ++ temporary ++ ".c_str());"
  | .storeText place temporary => placeText place ++ ".InitFromString(" ++ temporary ++ ");"

/-- Assignments that run for one kind of archive. -/
def transferBlock (archive : String) (transfers : List Transfer) : String :=
  "        if (typeid(archive) == typeid(cereal::" ++ archive ++ "))\n        \x7b\n"
    ++ String.join (transfers.map fun transfer =>
      "            " ++ transferText transfer ++ "\n")
    ++ "        \x7d\n"

/-- The stored pairs behind the first start with a comma. -/
def storedPairs : List Temporary → String
  | [] => ""
  | first :: rest =>
    "        archive(\n" ++ pair "  " first ++ String.join (rest.map (pair ", "))
      ++ "        );\n\n"
where
  /-- One stored pair of a key and a temporary. -/
  pair (lead : String) (temporary : Temporary) : String :=
    "            " ++ lead ++ "::cereal::make_nvp(\"" ++ temporary.key ++ "\", " ++ temporary.name
      ++ ")\n"

/-- The member function that reads and writes a row: the temporaries, their encoding, the pairs
that are stored, and their decoding. -/
def serializeFunction (codec : Codec) : String :=
  "    template <typename Archive>\n"
    ++ "    void serialize(Archive& archive)\n"
    ++ "    \x7b\n"
    ++ String.join (codec.temporaries.map fun temporary =>
      "        " ++ temporary.storedType ++ " " ++ temporary.name ++ ";\n")
    ++ "\n"
    ++ transferBlock "JSONOutputArchive" codec.encode
    ++ "\n"
    ++ storedPairs codec.temporaries
    ++ transferBlock "JSONInputArchive" codec.decode
    ++ "    \x7d\n"

/-- The operator that writes a record to a stream as one line of text. -/
def streamOperator (name : String) : String :=
  "template <typename traits>\n"
    ++ "inline std::basic_ostream<wchar_t, traits>&\n"
    ++ "operator<< (std::basic_ostream<wchar_t, traits>& os, const " ++ name ++ "& rhs)\n"
    ++ "\x7b\n"
    ++ "    std::stringstream strStream;\n\n"
    ++ "    \x7b\n"
    ++ "        cereal::JSONOutputArchive archive(strStream, "
    ++ "cereal::JSONOutputArchive::Options::NoIndent());\n"
    ++ "        auto rowData(rhs);\n"
    ++ "        rowData.serialize(archive);\n"
    ++ "    \x7d\n\n"
    ++ "    return os << FromUTF8(boost::replace_all_copy(strStream.str(), \"\\n\", \"\"));\n"
    ++ "\x7d\n\n"

/-- A record type and its stream operator. -/
def serverRecord (record : Record) : String :=
  "struct " ++ record.name ++ " : public GameDataRow\n\x7b\n"
    ++ String.join (record.fields.map serverField)
    ++ (match record.codec with
      | some codec => "\n" ++ serializeFunction codec
      | none => "")
    ++ "\x7d;\n\n"
    ++ streamOperator record.name

/-- The header of the record types. -/
def serverDataHeader (style : ServerStyle) (exportedAt : Option Timestamp)
    (records : List Record) : String :=
  banner exportedAt
    ++ "#include \"" ++ style.enumFile ++ "\"\n\n"
    ++ style.opening
    ++ "struct GameDataRow\n\x7b\n    virtual ~GameDataRow() = default;\n\x7d;\n\n"
    ++ String.join (records.map serverRecord)
    ++ style.closing

end GameSheets.Header

/-
  What decoding looks up in a document.

  Decoding a row on the server takes the text under the key of each temporary, and looks it up in
  the enumeration that the assignment names.  The text is that of the row's own cell in the sheet,
  from which three facts follow:

  1. every assignment that looks a name up finds a text under the key of its temporary;
  2. the text, unless it is empty, is an enumerator of the enumeration, provided that there is an
     enum sheet for it;
  3. the empty text is no enumerator of any enumeration.  It stands for an empty cell, and only
     columns that are nullable have one.

  So a row is decoded from a document of the compiler except where a nullable column of symbols has
  an empty cell.
-/
import GameSheets.Proofs.Document.Agreement
import GameSheets.Proofs.Table.Symbols
import GameSheets.Proofs.Workbook.Compiling

namespace GameSheets

/-! ## Texts of temporaries -/

namespace Codec

/-- The text that a temporary takes from the members of a row. -/
def textFor? (codec : Codec) (members : List (String × Scalar)) (temporary : String) :
    Option String :=
  match codec.temporaries.find? (·.name = temporary) with
  | none => none
  | some shadow =>
    match members.lookup shadow.key with
    | some (.text text) => some text
    | _ => none

/-- The temporary of a column is the one of its name. -/
theorem find?_temporary {columns : List KeptColumn} (hkeys : (columns.map (·.name)).Nodup)
    {column : KeptColumn} (hcolumn : column ∈ columns) :
    (ofColumns columns).temporaries.find? (·.name = column.temporaryName) =
      some column.temporary := by
  cases hfound : (ofColumns columns).temporaries.find? (·.name = column.temporaryName) with
  | none =>
    have hmem : column.temporary ∈ (ofColumns columns).temporaries := List.mem_map_of_mem hcolumn
    exact absurd (decide_eq_true rfl) (List.find?_eq_none.mp hfound _ hmem)
  | some found =>
    obtain ⟨other, hother, rfl⟩ := List.mem_map.mp (List.mem_of_find?_eq_some hfound)
    have hname := List.find?_some hfound
    rw [decide_eq_true_iff] at hname
    have hkey : other.name = column.name := (String.append_right_inj "temp_").mp hname
    rw [List.inj_on_of_nodup_map hkeys hother hcolumn hkey]

end Codec

/-- The assignments that look a name up are those of columns of symbols. -/
theorem KeptColumn.of_decodeTransfer_eq {column : KeptColumn} {place : Place}
    {temporary name : String}
    (h : column.decodeTransfer = .storeName place temporary (BaseType.referenceTo name)) :
    column.temporaryName = temporary ∧ column.base = .enumeration name := by
  unfold decodeTransfer at h
  split at h
  · obtain ⟨-, htemporary, hnative⟩ := Transfer.storeName.inj h
    exact ⟨htemporary, BaseType.eq_enumeration_of_nativeName hnative⟩
  · split at h
    · cases h
    · cases h

/-! ## One table and its record -/

namespace Codec

variable {workbook : Workbook} {enumerations : List Enumeration}

/-- Every name that decoding looks up, in the enumeration of an enum sheet, is found. -/
def FindsNames (codec : Codec) (workbook : Workbook) (enumerations : List Enumeration)
    (members : List (String × Scalar)) : Prop :=
  ∀ place temporary name, workbook.HasEnumSheet name →
    .storeName place temporary (BaseType.referenceTo name) ∈ codec.decode →
    ∃ text, codec.textFor? members temporary = some text ∧
      Enumeration.Lists enumerations (BaseType.referenceTo name) text

/-- Every name that decoding looks up, in the enumeration of an enum sheet, is the text of the
row's own cell in the column of the temporary.  It is found, unless it is empty; the column is then
nullable. -/
def FindsCells (codec : Codec) (workbook : Workbook) (enumerations : List Enumeration)
    (columns : List Column) (row : List String) (members : List (String × Scalar)) : Prop :=
  ∀ place temporary name, workbook.HasEnumSheet name →
    .storeName place temporary (BaseType.referenceTo name) ∈ codec.decode →
    ∃ column ∈ columns.filterMap (·.keptOn? .server),
      column.temporaryName = temporary ∧ column.base = .enumeration name ∧
      codec.textFor? members temporary = some (Sheet.cellAt row column.position) ∧
      (Enumeration.Lists enumerations (BaseType.referenceTo name)
          (Sheet.cellAt row column.position) ↔ Sheet.cellAt row column.position ≠ "") ∧
      (Sheet.cellAt row column.position = "" → column.nullable = true)

/-- Where no column of symbols has an empty cell, every name is found. -/
theorem FindsCells.findsNames {codec : Codec} {columns : List Column} {row : List String}
    {members : List (String × Scalar)}
    (h : codec.FindsCells workbook enumerations columns row members)
    (hcells : ∀ column ∈ columns.filterMap (·.keptOn? .server), ∀ name,
      column.base = .enumeration name → Sheet.cellAt row column.position ≠ "") :
    codec.FindsNames workbook enumerations members := by
  intro place temporary name hfound htransfer
  obtain ⟨column, hcolumn, -, hbase, htext, hlists, -⟩ := h place temporary name hfound htransfer
  exact ⟨_, htext, hlists.mpr (hcells column hcolumn name hbase)⟩

/-- The codec of a sheet's record finds the cells of the sheet in the document of its table. -/
theorem findsCells_of_gives (hnames : (workbook.sheets.map (·.name)).Nodup)
    (henumerations : workbook.enumerations = .ok enumerations) {sheet : Sheet}
    {columns : List Column} {table : TypedTable} {document : TableDocument} {record : Record}
    {rowName : String} (hgives : sheet.Gives workbook.symbolsOf? .server columns table)
    (hdocument : table.document .server rowName = .ok document)
    (hrecord : Record.ofSheet .server rowName sheet = .ok record) :
    ∃ codec, record.codec = some codec ∧
      List.Forall₂ (codec.FindsCells workbook enumerations columns) sheet.dataRows
        document.rows := by
  obtain ⟨-, hcodec, hkeys⟩ := Record.codec_of_ofSheet hgives.schema_eq hrecord
  refine ⟨_, hcodec, (hgives.lookup_document hkeys hdocument).imp ?_⟩
  intro row members hcells place temporary name hfound htransfer
  obtain ⟨column, hcolumn, hdecode⟩ := List.mem_map.mp htransfer
  obtain ⟨rfl, hbase⟩ := KeptColumn.of_decodeTransfer_eq hdecode
  obtain ⟨value, hreads, hlookup⟩ := hcells column hcolumn
  obtain ⟨rfl, -⟩ := hreads.symbol hbase
  refine ⟨column, hcolumn, rfl, hbase, ?_,
    Workbook.lists_iff_of_reads hnames henumerations hreads hbase hfound,
    hreads.nullable_of_empty⟩
  have hkey : members.lookup column.temporary.key =
      some (.text (Sheet.cellAt row column.position)) := hlookup
  rw [textFor?, find?_temporary hkeys hcolumn]
  simp only [hkey]

end Codec

/-! ## All tables and records -/

namespace Workbook

theorem namedDocument_eq_ok {config : Config} {platform : Platform} {table : TypedTable}
    {named : String × TableDocument} :
    namedDocument config platform table = .ok named ↔
      named.1 = table.name ∧ table.document platform config.rowNameField = .ok named.2 := by
  rw [namedDocument, Outcome.map_eq_ok]
  constructor
  · rintro ⟨document, hdocument, rfl⟩
    exact ⟨rfl, hdocument⟩
  · rintro ⟨hname, hdocument⟩
    exact ⟨named.2, hdocument, Prod.ext hname.symm rfl⟩

/-- Documents have the names of their tables. -/
theorem names_of_documents {config : Config} {platform : Platform} {tables : List TypedTable}
    {documents : List (String × TableDocument)}
    (h : tables.mapM (namedDocument config platform) = .ok documents) :
    documents.map (·.1) = tables.map (·.name) := by
  refine (Outcome.map_eq_map (Outcome.mapM_eq_ok.mp h) ?_).symm
  intro table named hnamed
  exact (namedDocument_eq_ok.mp hnamed).1.symm

/-- In the server artifacts of a compiled workbook there are a document and a record for each data
sheet, in order, and the codec of the record finds the cells of the sheet in the document. -/
theorem server_findsCells {workbook : Workbook} {config : Config} {platforms : List Platform}
    {compiled : List Artifacts} {artifacts : Artifacts}
    (hcompile : (workbook.compile config platforms).outcome = .ok compiled)
    (hartifacts : artifacts ∈ compiled) (hserver : artifacts.platform = .server) :
    ∃ merged tables enumerations records, workbook.merge.outcome = .ok merged ∧
      merged.Makes config artifacts tables enumerations records ∧
      artifacts.documents.map (·.1) = merged.dataSheets.map (·.name) ∧
      records.map (·.name) = merged.dataSheets.map (·.name) ∧
      ∀ (i : Nat) (sheet : Sheet) (named : String × TableDocument) (record : Record),
        merged.dataSheets[i]? = some sheet → artifacts.documents[i]? = some named →
        records[i]? = some record →
        ∃ columns codec, sheet.schema = .ok columns ∧ record.codec = some codec ∧
          List.Forall₂ (codec.FindsCells merged enumerations columns) sheet.dataRows
            named.2.rows := by
  obtain ⟨merged, hmerge, hmade⟩ := makes_of_compile hcompile
  obtain ⟨tables, enumerations, records, hmakes⟩ := hmade artifacts hartifacts
  obtain ⟨hnames, -⟩ := shaped_of_merge hmerge
  obtain ⟨platform, enumHeader, dataHeader, documents⟩ := artifacts
  obtain rfl : platform = .server := hserver
  have hrefined := refine_eq_ok.mp hmakes.refine_eq
  have hexported := Outcome.mapM_eq_ok.mp hmakes.documents_eq
  have hdeclared := Outcome.mapM_eq_ok.mp hmakes.records_eq
  refine ⟨merged, tables, enumerations, records, hmerge, hmakes,
    (names_of_documents hmakes.documents_eq).trans (names_of_refine hmakes.refine_eq),
    names_of_records hmakes.records_eq, ?_⟩
  -- the table and the record at one place come from the data sheet at that place
  intro i sheet named record hsheet hnamed hrecord
  obtain ⟨table, htable, hexport⟩ := Outcome.exists_of_getElem?_right hexported hnamed
  obtain ⟨other, hother, hsheetTable⟩ := Outcome.exists_of_getElem?_right hrefined htable
  obtain rfl := Option.some.inj (hsheet.symm.trans hother)
  obtain ⟨other, hother, hsheetRecord⟩ := Outcome.exists_of_getElem?_right hdeclared hrecord
  obtain rfl := Option.some.inj (hsheet.symm.trans hother)
  obtain ⟨columns, hgives⟩ := Sheet.refine_eq_ok.mp hsheetTable
  obtain ⟨codec, hcodec, hfinds⟩ := Codec.findsCells_of_gives hnames hmakes.enumerations_eq
    hgives (namedDocument_eq_ok.mp hexport).2 hsheetRecord
  exact ⟨columns, codec, hgives.schema_eq, hcodec, hfinds⟩

/-! ### A row with a symbol and a row without one -/

/-- A sheet whose symbols may be left out. -/
def ungradedSheet : Sheet where
  name := "Item"
  columns := ["Id", "Grade"]
  rows := [["int32_s", "Enum_Grade?_s"], ["1", "Rare"], ["2", ""]]

/-- The columns of the sheet. -/
def ungradedColumns : List Column := [
  ⟨0, "Id", "int32_s", .typed .int32 false true false⟩,
  ⟨1, "Grade", "Enum_Grade?_s", .typed (.enumeration "Grade") true true false⟩]

/-- The sheet with its enum sheet. -/
def ungradedItems : Workbook where
  sheets := [⟨"Grade", ["Enum", "Value", "Description"], [["Common", "", ""], ["Rare", "3", ""]]⟩,
    ungradedSheet]
  exportedAt := none

/-- The table of the sheet on the server. -/
def ungradedTable : TypedTable where
  name := "Item"
  platform := .server
  columns := [⟨"Id", .int32⟩, ⟨"Grade", .enumeration "Grade"⟩]
  rows := [[.int 1, .symbol "Rare"], [.int 2, .symbol ""]]
  ids := ["1", "2"]
  fingerprint := 3078763935134555225

/-- The table's document. -/
def ungradedDocument : TableDocument where
  rowCount := 2
  fingerprint := 3078763935134555225
  header := [("Id", "int32"), ("Grade", "Enum_Grade")]
  rows := [[("Id", .int 1), ("Grade", .text "Rare")], [("Id", .int 2), ("Grade", .text "")]]

/-- The enumeration of the enum sheet. -/
def ungradedEnumeration : Enumeration where
  name := "Enum_Grade"
  sheet := "Grade"
  entries := [⟨"Common", none, 0⟩, ⟨"Rare", some 3, 3⟩]
  docs := []

/-- The codec of the sheet. -/
def ungradedCodec : Codec where
  temporaries := [⟨"temp_Id", "Id", "int32"⟩, ⟨"temp_Grade", "Grade", "std::string"⟩]
  encode := [.load "temp_Id" (.field "Id"), .loadName "temp_Grade" (.field "Grade")]
  decode := [.store (.field "Id") "temp_Id", .storeName (.field "Grade") "temp_Grade" "Enum_Grade"]

/-- The record of the sheet. -/
def ungradedRecord : Record where
  name := "Item"
  fields := [⟨"Id", .int32, .scalar, .default, .column⟩,
    ⟨"Grade", .enumeration "Grade", .scalar, .enumZero, .column⟩]
  codec := some ungradedCodec

theorem ungradedItems_merge : ungradedItems.merge.outcome = .ok ungradedItems := by
  decide +kernel

/-- What the sheets compile to for the server; the headers are as they may be. -/
theorem ungradedItems_compile :
    ∃ artifacts, (ungradedItems.compile .standard [.server]).outcome = .ok [artifacts] ∧
      artifacts.platform = .server ∧ artifacts.documents = [("Item", ungradedDocument)] ∧
      ungradedItems.Makes .standard artifacts [ungradedTable] [ungradedEnumeration]
        [ungradedRecord] := by
  have hrefine : (ungradedItems.refine .server).outcome = .ok [ungradedTable] := by
    decide +kernel
  have hdocuments : [ungradedTable].mapM (namedDocument .standard .server) =
      .ok [("Item", ungradedDocument)] := by rfl
  have henumerations : ungradedItems.enumerations = .ok [ungradedEnumeration] := by
    decide +kernel
  have hrecords : ungradedItems.records .server "Name" = .ok [ungradedRecord] := by
    decide +kernel
  cases hheader : Header.enumHeader .standard none .server [ungradedEnumeration] with
  | error cause =>
    have hok : (Header.enumHeader .standard none .server [ungradedEnumeration]).isOk = true := by
      decide +kernel
    rw [hheader] at hok
    cases hok
  | ok header =>
    have hmakes : ungradedItems.Makes .standard
        ⟨.server, header, Header.dataHeader .standard none .server [ungradedRecord],
          [("Item", ungradedDocument)]⟩
        [ungradedTable] [ungradedEnumeration] [ungradedRecord] :=
      ⟨hrefine, hdocuments, henumerations, hheader, hrecords, rfl⟩
    refine ⟨_, compile_eq_ok.mpr ⟨ungradedItems, ungradedItems_merge, .cons ?_ .nil⟩, rfl, rfl,
      hmakes⟩
    exact artifactsFor_eq_ok.mpr ⟨rfl, _, _, _, hmakes⟩

/-- The cells of both rows are found, and so every name of the row with a symbol. -/
theorem ungradedItems_findsCells :
    ∃ artifacts, (ungradedItems.compile .standard [.server]).outcome = .ok [artifacts] ∧
      artifacts.platform = .server ∧ artifacts.documents = [("Item", ungradedDocument)] ∧
      List.Forall₂ (ungradedCodec.FindsCells ungradedItems [ungradedEnumeration] ungradedColumns)
        [["1", "Rare"], ["2", ""]] ungradedDocument.rows ∧
      ungradedCodec.FindsNames ungradedItems [ungradedEnumeration]
        [("Id", .int 1), ("Grade", .text "Rare")] := by
  obtain ⟨artifacts, hcompile, hserver, hdocuments, hmakes⟩ := ungradedItems_compile
  refine ⟨artifacts, hcompile, hserver, hdocuments, ?_⟩
  obtain ⟨merged, tables, enumerations, records, hmerge, hmade, -, -, hfinds⟩ :=
    server_findsCells hcompile List.mem_cons_self hserver
  obtain rfl := Except.ok.inj (ungradedItems_merge.symm.trans hmerge)
  obtain rfl := Except.ok.inj (hmakes.enumerations_eq.symm.trans hmade.enumerations_eq)
  obtain rfl := Except.ok.inj (hmakes.records_eq.symm.trans hmade.records_eq)
  have hnamed : artifacts.documents[0]? = some ("Item", ungradedDocument) := by
    rw [hdocuments]
    rfl
  have hsheet : ungradedItems.dataSheets[0]? = some ungradedSheet := by decide +kernel
  obtain ⟨columns, codec, hschema, hcodec, hrows⟩ :=
    hfinds 0 ungradedSheet ("Item", ungradedDocument) ungradedRecord hsheet hnamed rfl
  obtain rfl : ungradedCodec = codec := Option.some.inj hcodec
  have hcolumns : ungradedSheet.schema = .ok ungradedColumns := by decide +kernel
  obtain rfl := Except.ok.inj (hcolumns.symm.trans hschema)
  refine ⟨hrows, (List.forall₂_cons.mp hrows).1.findsNames ?_⟩
  have hcells : ∀ column ∈ ungradedColumns.filterMap (·.keptOn? .server),
      Sheet.cellAt ["1", "Rare"] column.position ≠ "" := by decide
  exact fun column hcolumn _ _ => hcells column hcolumn

/-- The row without a symbol is not found: what is looked up there is the empty text, and the
enumeration does not list it. -/
theorem ungradedItems_not_findsNames :
    ∃ artifacts, (ungradedItems.compile .standard [.server]).outcome = .ok [artifacts] ∧
      artifacts.platform = .server ∧ artifacts.documents = [("Item", ungradedDocument)] ∧
      ungradedItems.merge.outcome = .ok ungradedItems ∧
      ungradedItems.Makes .standard artifacts [ungradedTable] [ungradedEnumeration]
        [ungradedRecord] ∧
      ∃ codec, ungradedRecord.codec = some codec ∧
        ∃ members ∈ ungradedDocument.rows,
          ¬ codec.FindsNames ungradedItems [ungradedEnumeration] members := by
  obtain ⟨artifacts, hcompile, hserver, hdocuments, hmakes⟩ := ungradedItems_compile
  refine ⟨artifacts, hcompile, hserver, hdocuments, ungradedItems_merge, hmakes, ungradedCodec,
    rfl, [("Id", .int 2), ("Grade", .text "")], by decide, ?_⟩
  intro hfinds
  have hsheet : ungradedItems.HasEnumSheet "Grade" :=
    ⟨ungradedItems.sheets.head (by decide), by decide +kernel, rfl⟩
  have hlookup : .storeName (.field "Grade") "temp_Grade" (BaseType.referenceTo "Grade") ∈
      ungradedCodec.decode := by decide
  obtain ⟨text, htext, enumeration, hmem, -, -, entry, hentry, hname⟩ :=
    hfinds _ _ "Grade" hsheet hlookup
  obtain rfl : "" = text := by
    have hstored : ungradedCodec.textFor? [("Id", .int 2), ("Grade", .text "")] "temp_Grade" =
        some "" := by decide +kernel
    exact Option.some.inj (hstored.symm.trans htext)
  obtain rfl := List.mem_singleton.mp hmem
  have hnonempty : ∀ entry ∈ ungradedEnumeration.entries, entry.name ≠ "" := by decide
  exact hnonempty entry hentry hname

end Workbook

end GameSheets

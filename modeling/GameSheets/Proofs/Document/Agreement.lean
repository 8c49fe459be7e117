/-
  The server's documents and codecs agree.

  A document comes from refining a sheet and exporting the table, a codec from declaring the record
  of the sheet.  Both keep the columns that the type cells include, in order, under their names; and
  a record exists only where these names differ (`Codec.nodup_keys`), so that no member of a
  document takes the place of another.  What a temporary is to load is then there under its key, and
  it is a number where the archive stores a number and a text where it stores a text.
-/
import GameSheets.Proofs.Declaration.RoundTrip
import GameSheets.Proofs.Document.Members
import GameSheets.Proofs.Table.Typing

namespace GameSheets

/-! ## Cells under stored types -/

namespace Scalar

/-- The cell is written as a number. -/
def IsNumber : Scalar → Prop
  | int _ => True
  | float value => value.isFinite = true
  | text _ => False

/-- The cell is written as a text. -/
def IsText : Scalar → Prop
  | text _ => True
  | int _ | float _ => False

/-- The cell can be loaded under a type of the archive. -/
structure StoredAs (storedType : String) (cell : Scalar) : Prop where
  number : storedType ∈ ["int32", "int64", "float", "double"] → cell.IsNumber
  text : storedType = "std::string" → cell.IsText

/-- Numbers that are written as such are stored under number types. -/
theorem storedAs_of_isNumber {storedType : String} {cell : Scalar} (hcell : cell.IsNumber)
    (htype : storedType ≠ "std::string") : cell.StoredAs storedType :=
  ⟨fun _ => hcell, fun h => absurd h htype⟩

theorem storedAs_text {shown : String} : (Scalar.text shown).StoredAs "std::string" :=
  ⟨fun h => absurd h (by decide), fun _ => trivial⟩

/-- A value of a type can be loaded under the type by which the archive stores it. -/
theorem storedAs_of_fits {names : String → String → Prop} {base : BaseType} {value : Value}
    (h : value.Fits names base) : (ofValue value).StoredAs base.storedName := by
  have hfinite : ∀ x : Number.Binary64, x.isFinite = true → (ofValue (.float x)).IsNumber := by
    intro x hx
    rw [ofValue, if_pos hx]
    exact hx
  cases base with
  | int32 | int64 =>
    cases value with
    | int n => exact storedAs_of_isNumber trivial (by decide)
    | float _ | text _ | composite _ | symbol _ => exact h.elim
  | float =>
    cases value with
    | float x => exact storedAs_of_isNumber (hfinite x h.1) (by decide)
    | int _ | text _ | composite _ | symbol _ => exact h.elim
  | double =>
    cases value with
    | float x => exact storedAs_of_isNumber (hfinite x h) (by decide)
    | int _ | text _ | composite _ | symbol _ => exact h.elim
  | vector | rotator =>
    cases value with
    | composite _ => exact storedAs_text
    | int _ | float _ | text _ | symbol _ => exact h.elim
  | string =>
    cases value with
    | text _ => exact storedAs_text
    | int _ | float _ | composite _ | symbol _ => exact h.elim
  | enumeration _ =>
    cases value with
    | symbol _ => exact storedAs_text
    | int _ | float _ | text _ | composite _ => exact h.elim

end Scalar

/-! ## One table and its record -/

namespace Sheet.Gives

variable {symbolsOf? : String → Option (List String)} {sheet : Sheet} {columns : List Column}
  {table : TypedTable} {document : TableDocument} {rowName : String}

/-- The document of the table has its rows, each with a member for every kept column. -/
theorem document_eq (hgives : sheet.Gives symbolsOf? .server columns table)
    (hkeys : ((columns.filterMap (·.keptOn? .server)).map (·.name)).Nodup)
    (hdocument : table.document .server rowName = .ok document) :
    table.columns.map (·.name) = (columns.filterMap (·.keptOn? .server)).map (·.name) ∧
      (∀ cells ∈ table.rows, cells.length = table.columns.length) ∧
      document.header.map (·.1) = (columns.filterMap (·.keptOn? .server)).map (·.name) ∧
      document.rows = table.rows.map (TypedTable.members table.columns) := by
  have hnames : table.columns.map (·.name) =
      (columns.filterMap (·.keptOn? .server)).map (·.name) := by
    rw [hgives.columns_eq, List.map_map]
    rfl
  have hwidth := hgives.row_width
  obtain rfl := Except.ok.inj
    ((TypedTable.document_server (hnames ▸ hkeys) hwidth).symm.trans hdocument)
  refine ⟨hnames, hwidth, ?_, rfl⟩
  rw [← hnames, List.map_map]
  rfl

/-- Every row of the document has under the name of every kept column the value that the column
has in the row of the sheet. -/
theorem lookup_document (hgives : sheet.Gives symbolsOf? .server columns table)
    (hkeys : ((columns.filterMap (·.keptOn? .server)).map (·.name)).Nodup)
    (hdocument : table.document .server rowName = .ok document) :
    List.Forall₂
      (fun row members => ∀ column ∈ columns.filterMap (·.keptOn? .server),
        ∃ value, column.Reads symbolsOf? row value ∧
          members.lookup column.name = some (Scalar.ofValue value))
      sheet.dataRows document.rows := by
  obtain ⟨hnames, hwidth, -, hrows⟩ := hgives.document_eq hkeys hdocument
  rw [hrows, List.forall₂_map_right_iff]
  refine (Outcome.forall₂_mem_right hgives.rows_read).imp ?_
  rintro row cells ⟨hcells, hread⟩ column hcolumn
  obtain ⟨value, hpaired, hvalue⟩ := Outcome.exists_mem_zip hread hcolumn
  refine ⟨value, hvalue, Document.lookup_of_mem ?_ ?_⟩
  · rw [TypedTable.keys_members (hwidth cells hcells), hnames]
    exact hkeys
  · rw [TypedTable.members, hgives.columns_eq, List.zip_map_left, List.map_map]
    exact List.mem_map.mpr ⟨(column, value), hpaired, rfl⟩

end Sheet.Gives

namespace Codec

/-- The codec loads the rows of a table's document: its keys are the names of the table's columns,
in order and all different, and those of the document's header and of each of its rows; its types
are those that store the columns' types; and every row of the table is there, with a cell of the
type under each key. -/
structure Loads (codec : Codec) (table : TypedTable) (document : TableDocument) : Prop where
  keys_nodup : (codec.temporaries.map (·.key)).Nodup
  keys_eq : codec.temporaries.map (·.key) = table.columns.map (·.name)
  types_eq : codec.temporaries.map (·.storedType) = table.columns.map (·.base.storedName)
  header_keys : document.header.map (·.1) = codec.temporaries.map (·.key)
  rows_length : document.rows.length = table.rows.length
  row_keys : ∀ row ∈ document.rows, row.map (·.1) = codec.temporaries.map (·.key)
  cells_stored : ∀ row ∈ document.rows, ∀ temporary ∈ codec.temporaries,
    ∃ cell, row.lookup temporary.key = some cell ∧ cell.StoredAs temporary.storedType

/-- The codec of a sheet's record loads the document of the sheet's table. -/
theorem loads_of_gives {symbolsOf? : String → Option (List String)} {sheet : Sheet}
    {columns : List Column} {table : TypedTable} {document : TableDocument} {record : Record}
    {rowName : String} (hgives : sheet.Gives symbolsOf? .server columns table)
    (hdocument : table.document .server rowName = .ok document)
    (hrecord : Record.ofSheet .server rowName sheet = .ok record) :
    ∃ codec, record.codec = some codec ∧ codec.Loads table document := by
  obtain ⟨-, hcodec, hkeys⟩ := Record.codec_of_ofSheet hgives.schema_eq hrecord
  obtain ⟨hnames, hwidth, hheader, hrows⟩ := hgives.document_eq hkeys hdocument
  have htemporaries : (ofColumns (columns.filterMap (·.keptOn? .server))).temporaries.map (·.key) =
      (columns.filterMap (·.keptOn? .server)).map (·.name) := by
    rw [ofColumns, List.map_map]
    rfl
  refine ⟨_, hcodec, htemporaries ▸ hkeys, htemporaries.trans hnames.symm, ?_,
    hheader.trans htemporaries.symm, ?_, ?_, ?_⟩
  · rw [ofColumns, hgives.columns_eq, List.map_map, List.map_map]
    rfl
  · rw [hrows, List.length_map]
  · intro members hmembers
    rw [hrows] at hmembers
    obtain ⟨cells, hcells, rfl⟩ := List.mem_map.mp hmembers
    rw [TypedTable.keys_members (hwidth cells hcells), htemporaries, hnames]
  · intro members hmembers temporary htemporary
    obtain ⟨column, hcolumn, rfl⟩ := List.mem_map.mp htemporary
    obtain ⟨row, -, hcells⟩ :=
      Outcome.exists_of_mem_right (hgives.lookup_document hkeys hdocument) hmembers
    obtain ⟨value, hvalue, hlookup⟩ := hcells column hcolumn
    have hfits := BaseType.fits_of_readLiteral hvalue.literal_eq
    exact ⟨Scalar.ofValue value, hlookup, Scalar.storedAs_of_fits hfits⟩

end Codec

/-! ## All tables and records -/

namespace Workbook

/-- Where a workbook is refined, exported and declared for the server, tables and records have the
same names in the same order, and the codec of each record loads the document of its table. -/
theorem codec_loads_document {workbook : Workbook} {rowName : String} {tables : List TypedTable}
    {documents : List TableDocument} {records : List Record}
    (hrefine : (workbook.refine .server).outcome = .ok tables)
    (hdocuments : tables.mapM (·.document .server rowName) = .ok documents)
    (hrecords : workbook.records .server rowName = .ok records) :
    tables.map (·.name) = records.map (·.name) ∧ documents.length = tables.length ∧
      ∀ (i : Nat) (table : TypedTable) (document : TableDocument) (record : Record),
        tables[i]? = some table → documents[i]? = some document → records[i]? = some record →
          ∃ codec, record.codec = some codec ∧ codec.Loads table document := by
  have hrefined := refine_eq_ok.mp hrefine
  have hexported := Outcome.mapM_eq_ok.mp hdocuments
  have hdeclared := Outcome.mapM_eq_ok.mp hrecords
  refine ⟨?_, hexported.length_eq.symm, ?_⟩
  · -- both are the names of the data sheets
    have htables : workbook.dataSheets.map (·.name) = tables.map (·.name) := by
      refine Outcome.map_eq_map hrefined ?_
      intro sheet table htable
      obtain ⟨columns, hgives⟩ := Sheet.refine_eq_ok.mp htable
      exact hgives.name_eq.symm
    have hnames : workbook.dataSheets.map (·.name) = records.map (·.name) := by
      refine Outcome.map_eq_map hdeclared ?_
      intro sheet record hrecord
      obtain ⟨_, -, -, -, rfl⟩ := Record.ofSheet_server_eq_ok.mp hrecord
      rfl
    rw [← htables, hnames]
  · -- the three at one place come from the data sheet at that place
    intro i table document record htable hdocument hrecord
    obtain ⟨sheet, hsheet, hsheetTable⟩ := Outcome.exists_of_getElem?_right hrefined htable
    obtain ⟨other, hother, hotherRecord⟩ := Outcome.exists_of_getElem?_right hdeclared hrecord
    obtain rfl := Option.some.inj (hsheet.symm.trans hother)
    obtain ⟨source, hsource, hsourceDocument⟩ :=
      Outcome.exists_of_getElem?_right hexported hdocument
    obtain rfl := Option.some.inj (htable.symm.trans hsource)
    obtain ⟨columns, hgives⟩ := Sheet.refine_eq_ok.mp hsheetTable
    exact Codec.loads_of_gives hgives hsourceDocument hotherRecord

/-! ### The document of a sheet with slots out of order -/

/-- The table of the sheet on the server. -/
def spawnTable : TypedTable where
  name := "Spawn"
  platform := .server
  columns := [⟨"Id", .int32⟩, ⟨"Power_2", .int64⟩, ⟨"Grade", .enumeration "Grade"⟩,
    ⟨"Pos", .vector⟩, ⟨"Power_1", .int64⟩]
  rows := [[.int 7, .int 50, .symbol "Rare", .composite "X=1 Y=2 Z=3", .int 0]]
  ids := ["7"]
  fingerprint := 3267511751040049312

/-- The table's document. -/
def spawnDocument : TableDocument where
  rowCount := 1
  fingerprint := 3267511751040049312
  header := [("Id", "int32"), ("Power_2", "int64"), ("Grade", "Enum_Grade"), ("Pos", "FVector"),
    ("Power_1", "int64")]
  rows := [[("Id", .int 7), ("Power_2", .int 50), ("Grade", .text "Rare"),
    ("Pos", .text "X=1 Y=2 Z=3"), ("Power_1", .int 0)]]

theorem spawnDocument_loaded :
    (spawnWorkbook.refine .server).outcome = .ok [spawnTable] ∧
      [spawnTable].mapM (·.document .server "Name") = .ok [spawnDocument] ∧
      spawnWorkbook.records .server "Name" = .ok [spawnRecord] ∧
      ∃ codec, spawnRecord.codec = some codec ∧ codec.Loads spawnTable spawnDocument := by
  have hrefine : (spawnWorkbook.refine .server).outcome = .ok [spawnTable] := by decide +kernel
  have hdocument : [spawnTable].mapM (·.document .server "Name") = .ok [spawnDocument] := by rfl
  refine ⟨hrefine, hdocument, spawnWorkbook_records, ?_⟩
  obtain ⟨-, -, hloads⟩ := codec_loads_document hrefine hdocument spawnWorkbook_records
  exact hloads 0 spawnTable spawnDocument spawnRecord rfl rfl rfl

end Workbook

end GameSheets

/-
  What two platforms share.

  Both platforms refine the same rows by one schema; they differ in the columns that they keep.  A
  column that both keep is kept as the same column (`Column.kept_eq`), and a column has one value in
  a row, so that its values are the same on both, wherever it stands among the others.  Columns of a
  merged sheet have different names, so that the name alone says which column it is.
-/
import GameSheets.Proofs.Column.TypeCells
import GameSheets.Proofs.Table.Refining
import GameSheets.Proofs.Workbook.Merging

namespace GameSheets

variable {platform other : Platform}

/-! ## Columns -/

namespace Column

/-- A column that is kept on two platforms is the same kept column on both. -/
theorem kept_eq {column : Column} {kept otherKept : KeptColumn}
    (hkept : column.keptOn? platform = some kept)
    (hother : column.keptOn? other = some otherKept) : otherKept = kept := by
  obtain ⟨-, hbase, hposition, hname, hdeclared, hnullable⟩ := keptOn?_eq_some.mp hkept
  obtain ⟨-, hbase', hposition', hname', hdeclared', hnullable'⟩ := keptOn?_eq_some.mp hother
  obtain ⟨position, name, declared, base, nullable⟩ := kept
  obtain ⟨otherPosition, otherName, otherDeclared, otherBase, otherNullable⟩ := otherKept
  rw [KeptColumn.mk.injEq]
  exact ⟨hposition'.trans hposition.symm, hname'.trans hname.symm, hdeclared'.trans hdeclared.symm,
    Option.some.inj (hbase'.symm.trans hbase), hnullable'.trans hnullable.symm⟩

/-- A platform keeps the columns that include it. -/
theorem exists_keptOn?_iff {column : Column} :
    (∃ kept, column.keptOn? platform = some kept) ↔ column.type.includes platform = true := by
  constructor
  · rintro ⟨kept, hkept⟩
    exact (keptOn?_eq_some.mp hkept).1
  · intro hincludes
    obtain ⟨position, name, declared, type⟩ := column
    cases type with
    | comment cell => cases hincludes
    | typed base nullable onServer onClient => exact ⟨_, if_pos hincludes⟩

end Column

/-- A column has one value in a row. -/
theorem KeptColumn.Reads.value_eq {symbolsOf? : String → Option (List String)} {row : List String}
    {column : KeptColumn} {value otherValue : Value} (h : column.Reads symbolsOf? row value)
    (hother : column.Reads symbolsOf? row otherValue) : otherValue = value :=
  Except.ok.inj (hother.literal_eq.symm.trans h.literal_eq)

/-- The sheet has a column of the name whose type cell has the letters of both platforms, and
neither the name nor the cell is a comment. -/
def Sheet.DeclaresForBoth (platform other : Platform) (sheet : Sheet) (name : String) : Prop :=
  ∃ (position : Nat) (cell : String), sheet.columns[position]? = some name ∧
    sheet.typeRow?.bind (·[position]?) = some cell ∧
    isComment name = false ∧ isComment cell = false ∧
    ∃ letters, TypeCell.letters? cell = some letters ∧
      platform.letter ∈ letters ∧ other.letter ∈ letters

/-! ## Tables -/

namespace TypedTable

/-- The value in a row and a column, if the table has both. -/
def cell? (table : TypedTable) (row column : Nat) : Option Value :=
  table.rows[row]?.bind fun values => values[column]?

/-- The tables of two platforms agree on what they share: on the name, the ids and the number of
rows, and on the type and the values of every column that both have.  They share the columns that
the sheet declares for both. -/
structure Agree (platform other : Platform) (sheet : Sheet) (table otherTable : TypedTable) :
    Prop where
  name_eq : otherTable.name = table.name
  ids_eq : otherTable.ids = table.ids
  rowCount_eq : otherTable.rows.length = table.rows.length
  base_eq : ∀ (i j : Nat) (column otherColumn : TableColumn), table.columns[i]? = some column →
    otherTable.columns[j]? = some otherColumn → otherColumn.name = column.name →
      otherColumn.base = column.base
  values_eq : ∀ (i j : Nat) (column otherColumn : TableColumn), table.columns[i]? = some column →
    otherTable.columns[j]? = some otherColumn → otherColumn.name = column.name →
      ∀ row < table.rows.length, ∃ value,
        table.cell? row i = some value ∧ otherTable.cell? row j = some value
  shared_iff : ∀ name,
    name ∈ table.columns.map (·.name) ∧ name ∈ otherTable.columns.map (·.name) ↔
      sheet.DeclaresForBoth platform other name

end TypedTable

namespace Sheet.Gives

variable {symbolsOf? : String → Option (List String)} {sheet : Sheet} {columns : List Column}
  {table otherTable : TypedTable}

theorem rowCount_eq (h : sheet.Gives symbolsOf? platform columns table) :
    table.rows.length = sheet.dataRows.length :=
  h.rows_read.length_eq.symm

/-- A column of the table is one that is kept of the sheet. -/
theorem exists_kept (h : sheet.Gives symbolsOf? platform columns table) {i : Nat}
    {tableColumn : TableColumn} (hcolumn : table.columns[i]? = some tableColumn) :
    ∃ kept, (columns.filterMap (·.keptOn? platform))[i]? = some kept ∧
      kept.name = tableColumn.name ∧ kept.base = tableColumn.base := by
  rw [h.columns_eq, List.getElem?_map, Option.map_eq_some_iff] at hcolumn
  obtain ⟨kept, hkept, rfl⟩ := hcolumn
  exact ⟨kept, hkept, rfl, rfl⟩

/-- Every cell of the table has the value that its column has in the row. -/
theorem exists_cell (h : sheet.Gives symbolsOf? platform columns table) {i r : Nat}
    {kept : KeptColumn} {row : List String}
    (hkept : (columns.filterMap (·.keptOn? platform))[i]? = some kept)
    (hrow : sheet.dataRows[r]? = some row) :
    ∃ value, table.cell? r i = some value ∧ kept.Reads symbolsOf? row value := by
  obtain ⟨values, hvalues, hread⟩ := Outcome.exists_of_getElem?_right h.rows_read.flip hrow
  obtain ⟨value, hvalue, hreads⟩ := Outcome.exists_of_getElem?_right hread.flip hkept
  refine ⟨value, ?_, hreads⟩
  rw [TypedTable.cell?, hvalues, Option.bind_some, hvalue]

/-- The table has the columns of the sheet that include its platform. -/
theorem mem_names_iff (h : sheet.Gives symbolsOf? platform columns table) {name : String} :
    name ∈ table.columns.map (·.name) ↔
      ∃ column ∈ columns, column.name = name ∧ column.type.includes platform = true := by
  rw [h.columns_eq, List.map_map, List.mem_map]
  constructor
  · rintro ⟨kept, hkept, rfl⟩
    obtain ⟨column, hcolumn, hkeptOn⟩ := List.mem_filterMap.mp hkept
    obtain ⟨hincludes, -, -, hname, -⟩ := Column.keptOn?_eq_some.mp hkeptOn
    exact ⟨column, hcolumn, hname.symm, hincludes⟩
  · rintro ⟨column, hcolumn, rfl, hincludes⟩
    obtain ⟨kept, hkeptOn⟩ := Column.exists_keptOn?_iff.mpr hincludes
    obtain ⟨-, -, -, hname, -⟩ := Column.keptOn?_eq_some.mp hkeptOn
    exact ⟨kept, List.mem_filterMap.mpr ⟨column, hcolumn, hkeptOn⟩, hname⟩

/-- Where columns have different names, columns of one name in both tables are one kept column. -/
theorem kept_eq_of_name_eq (hnames : (columns.map (·.name)).Nodup) {kept otherKept : KeptColumn}
    (hkept : kept ∈ columns.filterMap (·.keptOn? platform))
    (hother : otherKept ∈ columns.filterMap (·.keptOn? other))
    (hname : otherKept.name = kept.name) : otherKept = kept := by
  obtain ⟨column, hcolumn, hkeptOn⟩ := List.mem_filterMap.mp hkept
  obtain ⟨otherColumn, hotherColumn, hotherKeptOn⟩ := List.mem_filterMap.mp hother
  have hsame : otherColumn = column := by
    refine List.inj_on_of_nodup_map hnames hotherColumn hcolumn ?_
    obtain ⟨-, -, -, hcolumnName, -⟩ := Column.keptOn?_eq_some.mp hkeptOn
    obtain ⟨-, -, -, hotherName, -⟩ := Column.keptOn?_eq_some.mp hotherKeptOn
    exact (hotherName.symm.trans hname).trans hcolumnName
  rw [hsame] at hotherKeptOn
  exact Column.kept_eq hkeptOn hotherKeptOn

/-- Tables of a shaped sheet on two platforms agree. -/
theorem agree (hshaped : sheet.Shaped) (h : sheet.Gives symbolsOf? platform columns table)
    (hother : sheet.Gives symbolsOf? other columns otherTable) :
    TypedTable.Agree platform other sheet table otherTable := by
  have hnames : (columns.map (·.name)).Nodup := by
    rw [hshaped.names_of_schema h.schema_eq]
    exact hshaped.columns_nodup
  refine ⟨?_, ?_, ?_, ?_, ?_, ?_⟩
  · rw [hother.name_eq, h.name_eq]
  · rw [hother.ids_eq, h.ids_eq]
  · rw [hother.rowCount_eq, h.rowCount_eq]
  · intro i j column otherColumn hi hj hname
    obtain ⟨kept, hkept, hkeptName, hbase⟩ := h.exists_kept hi
    obtain ⟨otherKept, hotherKept, hotherName, hotherBase⟩ := hother.exists_kept hj
    rw [← hbase, ← hotherBase, kept_eq_of_name_eq hnames (List.mem_of_getElem? hkept)
      (List.mem_of_getElem? hotherKept) (by rw [hotherName, hname, hkeptName])]
  · intro i j column otherColumn hi hj hname r hr
    obtain ⟨kept, hkept, hkeptName, -⟩ := h.exists_kept hi
    obtain ⟨otherKept, hotherKept, hotherName, -⟩ := hother.exists_kept hj
    obtain rfl := kept_eq_of_name_eq hnames (List.mem_of_getElem? hkept)
      (List.mem_of_getElem? hotherKept) (by rw [hotherName, hname, hkeptName])
    -- one kept column is read in one row, at its place in either table
    rw [h.rowCount_eq] at hr
    obtain ⟨row, hrow⟩ : ∃ row, sheet.dataRows[r]? = some row := ⟨_, List.getElem?_eq_getElem hr⟩
    obtain ⟨value, hcell, hreads⟩ := h.exists_cell hkept hrow
    obtain ⟨otherValue, hotherCell, hotherReads⟩ := hother.exists_cell hotherKept hrow
    rw [hreads.value_eq hotherReads] at hotherCell
    exact ⟨value, hcell, hotherCell⟩
  · intro name
    rw [h.mem_names_iff, hother.mem_names_iff]
    constructor
    · rintro ⟨⟨column, hcolumn, rfl, hincludes⟩, otherColumn, hotherColumn, hname, hotherIncludes⟩
      obtain rfl := List.inj_on_of_nodup_map hnames hotherColumn hcolumn hname
      obtain ⟨position, hposition⟩ := List.mem_iff_getElem?.mp hcolumn
      obtain ⟨hat, hcell, hread⟩ := declares_of_getElem? h.schema_eq hposition
      obtain ⟨hmark, hcellMark, letters, hletters, hletter⟩ :=
        (TypeCell.includes_iff hread platform).mp hincludes
      obtain ⟨-, -, others, hothers, hotherLetter⟩ :=
        (TypeCell.includes_iff hread other).mp hotherIncludes
      obtain rfl := Option.some.inj (hletters.symm.trans hothers)
      exact ⟨position, _, hat, hcell, hmark, hcellMark, letters, hletters, hletter, hotherLetter⟩
    · rintro ⟨position, cell, hat, hcell, hmark, hcellMark, letters, hletters, hletter,
        hotherLetter⟩
      obtain ⟨column, hcolumn, rfl, rfl⟩ := exists_column_of_cell h.schema_eq hat hcell
      obtain ⟨-, -, hread⟩ := declares_of_getElem? h.schema_eq hcolumn
      have hmem := List.mem_of_getElem? hcolumn
      exact ⟨⟨column, hmem, rfl, (TypeCell.includes_iff hread platform).mpr
          ⟨hmark, hcellMark, letters, hletters, hletter⟩⟩,
        ⟨column, hmem, rfl, (TypeCell.includes_iff hread other).mpr
          ⟨hmark, hcellMark, letters, hletters, hotherLetter⟩⟩⟩

end Sheet.Gives

/-! ## Workbooks -/

namespace Workbook

/-- Where a merged workbook is refined for server and client, both have a table for each data sheet,
in order, and the two tables of a sheet agree. -/
theorem agree_of_refine {workbook merged : Workbook} {serverTables clientTables : List TypedTable}
    (hmerge : workbook.merge.outcome = .ok merged)
    (hserver : (merged.refine .server).outcome = .ok serverTables)
    (hclient : (merged.refine .client).outcome = .ok clientTables) :
    serverTables.map (·.name) = merged.dataSheets.map (·.name) ∧
      clientTables.map (·.name) = merged.dataSheets.map (·.name) ∧
      ∀ (i : Nat) (sheet : Sheet) (table other : TypedTable), merged.dataSheets[i]? = some sheet →
        serverTables[i]? = some table → clientTables[i]? = some other →
          TypedTable.Agree .server .client sheet table other := by
  refine ⟨names_of_refine hserver, names_of_refine hclient, ?_⟩
  intro i sheet table other hsheet htable hother
  obtain ⟨first, hfirst, hrefine⟩ :=
    Outcome.exists_of_getElem?_right (refine_eq_ok.mp hserver) htable
  obtain ⟨second, hsecond, hotherRefine⟩ :=
    Outcome.exists_of_getElem?_right (refine_eq_ok.mp hclient) hother
  obtain rfl := Option.some.inj (hsheet.symm.trans hfirst)
  obtain rfl := Option.some.inj (hsheet.symm.trans hsecond)
  obtain ⟨columns, hgives⟩ := Sheet.refine_eq_ok.mp hrefine
  obtain ⟨otherColumns, hotherGives⟩ := Sheet.refine_eq_ok.mp hotherRefine
  -- both tables are read by the one schema that the sheet has
  obtain rfl := Except.ok.inj (hgives.schema_eq.symm.trans hotherGives.schema_eq)
  have hmem : sheet ∈ merged.sheets := List.mem_of_mem_filter (List.mem_of_getElem? hsheet)
  exact hgives.agree ((shaped_of_merge hmerge).2 sheet hmem) hotherGives

/-! ### Two parts with a column for each platform and one for both -/

/-- A part of a sheet of items, with this row. -/
def sharedPart (name : String) (row : List String) : Sheet where
  name := name
  columns := ["Id", "Title", "#Memo", "Speed", "Price"]
  rows := [["int32_cs", "string_s", "", "float?_cs", "int64_c"], row]

/-- Both parts; the first item has no speed of its own. -/
def sharedParts : Workbook where
  sheets := [
    sharedPart "Item_Weapon" ["1", "Sword", "x", "", "100"],
    sharedPart "Item_Armor" ["2", "Shield", "y", "1.5", "80"]]
  exportedAt := none

/-- The parts merged. -/
def sharedItems : Sheet where
  name := "Item"
  columns := ["Id", "Title", "#Memo", "Speed", "Price"]
  rows := [
    ["int32_cs", "string_s", "", "float?_cs", "int64_c"],
    ["1", "Sword", "x", "", "100"],
    ["2", "Shield", "y", "1.5", "80"]]

/-- The table on the server. -/
def sharedOnServer : TypedTable where
  name := "Item"
  platform := .server
  columns := [⟨"Id", .int32⟩, ⟨"Title", .string⟩, ⟨"Speed", .float⟩]
  rows := [
    [.int 1, .text "Sword", .float (.zero false)],
    [.int 2, .text "Shield", .float (.finite false 6755399441055744 (-52))]]
  ids := ["1", "2"]
  fingerprint := 12815322754187247411

/-- The table on the client. -/
def sharedOnClient : TypedTable where
  name := "Item"
  platform := .client
  columns := [⟨"Id", .int32⟩, ⟨"Speed", .float⟩, ⟨"Price", .int64⟩]
  rows := [
    [.int 1, .float (.zero false), .int 100],
    [.int 2, .float (.finite false 6755399441055744 (-52)), .int 80]]
  ids := ["1", "2"]
  fingerprint := 18304306978686480832

/-- The speeds stand behind the titles on the server and before the prices on the client, and are
the same. -/
theorem sharedParts_agree :
    sharedParts.merge.outcome = .ok ⟨[sharedItems], none⟩ ∧
      ((⟨[sharedItems], none⟩ : Workbook).refine .server).outcome = .ok [sharedOnServer] ∧
      ((⟨[sharedItems], none⟩ : Workbook).refine .client).outcome = .ok [sharedOnClient] ∧
      TypedTable.Agree .server .client sharedItems sharedOnServer sharedOnClient ∧
      sharedItems.DeclaresForBoth .server .client "Speed" := by
  have hmerge : sharedParts.merge.outcome = .ok ⟨[sharedItems], none⟩ := by decide +kernel
  have hserver : ((⟨[sharedItems], none⟩ : Workbook).refine .server).outcome =
      .ok [sharedOnServer] := by decide +kernel
  have hclient : ((⟨[sharedItems], none⟩ : Workbook).refine .client).outcome =
      .ok [sharedOnClient] := by decide +kernel
  obtain ⟨-, -, hagree⟩ := agree_of_refine hmerge hserver hclient
  have hsheet : (⟨[sharedItems], none⟩ : Workbook).dataSheets[0]? = some sharedItems := by
    decide +kernel
  have hshares := hagree 0 sharedItems sharedOnServer sharedOnClient hsheet rfl rfl
  have hspeed : "Speed" ∈ sharedOnServer.columns.map (·.name) ∧
      "Speed" ∈ sharedOnClient.columns.map (·.name) := by decide
  exact ⟨hmerge, hserver, hclient, hshares, (hshares.shared_iff "Speed").mp hspeed⟩

end Workbook

end GameSheets

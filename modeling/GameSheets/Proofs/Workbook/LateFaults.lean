/-
  Faults that are met early, and cells that are never missing.

  Headers are generated behind the refined tables, from the same sheets, and check again what was
  checked before.  What they would find at that point has been found:

  1. a sheet without a schema is refused by refining, so that no header is refused for it;
  2. a kept column is in the group of its own key, so that no group is empty;
  3. the other faults of headers are of their own, and do occur.

  The shape of a merged sheet does the same for look-ups: the type row has a cell for each column,
  every row has a cell wherever one is looked up, every row of a refined table has its id and a
  value for each column.  So the empty text that stands in for a missing cell, or for a missing row
  name, never does.
-/
import GameSheets.Document.Table
import GameSheets.Proofs.Declaration.Fields
import GameSheets.Proofs.Declaration.Numbering
import GameSheets.Proofs.Table.Refining
import GameSheets.Proofs.Workbook.Compiling
import GameSheets.Proofs.Workbook.Merging

namespace GameSheets

/-! ## Faults of headers -/

namespace DeclarationError

/-- The error is one that is met before headers are generated: a sheet has no schema, or there is no
column in the group of a column. -/
def isPreempted : DeclarationError → Bool
  | schema _ => true
  | badArray _ _ _ fault => fault == .noColumns
  | duplicateField .. | invalidOrdinal .. | emptyEnum .. | duplicateSymbol ..
  | ordinalOutOfRange .. => false

end DeclarationError

/-- The outcome has no error that is met before. -/
abbrev IsTimely {α : Type} (outcome : Except DeclarationError α) : Prop :=
  Outcome.FailsOnly (fun cause => cause.isPreempted = false) outcome

/-! ### Enumerations -/

namespace Enumerator

theorem isTimely_explicitOf (sheet symbol value : String) :
    IsTimely (explicitOf sheet symbol value) := by
  unfold explicitOf
  split
  · exact Outcome.failsOnly_ok
  · split
    · exact Outcome.failsOnly_ok
    · exact Outcome.failsOnly_error rfl

theorem isTimely_readAll {sheet : String} {seen : List String} {previous : Option Int}
    {rows : List (List String)} : IsTimely (readAll sheet seen previous rows) := by
  induction rows generalizing seen previous with
  | nil => exact Outcome.failsOnly_ok
  | cons row rest ih =>
    rw [readAll]
    split
    · exact ih
    · split
      · exact Outcome.failsOnly_error rfl
      · split
        · rename_i cause hcause
          exact Outcome.failsOnly_error (isTimely_explicitOf _ _ _ cause hcause)
        · dsimp only
          split
          · rename_i cause hcause
            exact Outcome.failsOnly_error (ih cause hcause)
          · exact Outcome.failsOnly_ok

end Enumerator

namespace Enumeration

theorem isTimely_ofSheet (sheet : Sheet) : IsTimely (ofSheet sheet) := by
  unfold ofSheet
  split
  · rename_i cause hcause
    exact Outcome.failsOnly_error (Enumerator.isTimely_readAll cause hcause)
  · exact Outcome.failsOnly_error rfl
  · exact Outcome.failsOnly_ok

end Enumeration

theorem Header.isTimely_enumHeader (config : Config) (exportedAt : Option Timestamp)
    (platform : Platform) (enumerations : List Enumeration) :
    IsTimely (enumHeader config exportedAt platform enumerations) := by
  intro cause h
  obtain ⟨_, _, -, rfl⟩ := enumHeader_eq_error.mp h
  rfl

/-! ### Records -/

namespace GroupMember

variable {platform : Platform}

theorem firstDifference?_ne_noColumns {model : GroupMember} {members : List GroupMember} :
    firstDifference? platform model members ≠ some .noColumns := by
  induction members with
  | nil => simp [firstDifference?]
  | cons member rest ih =>
    rw [firstDifference?]
    split
    · simp
    · split
      · simp
      · exact ih

/-- Only an empty group has no columns. -/
theorem fault?_ne_noColumns {members : List GroupMember} (h : members ≠ []) :
    fault? platform members ≠ some .noColumns := by
  unfold fault?
  split
  · exact absurd rfl h
  · dsimp only
    split
    · simp
    · split
      · simp
      · exact firstDifference?_ne_noColumns

end GroupMember

/-- Of a sheet with a schema, no error of the record is met before. -/
theorem Record.isTimely_ofSheet {platform : Platform} {rowName : String} {sheet : Sheet}
    {columns : List Column} (hschema : sheet.schema = .ok columns) :
    IsTimely (ofSheet platform rowName sheet) := by
  intro cause h
  obtain ⟨before, column, after, hdeclarers, -, hfault⟩ := exists_stop_of_ofSheet hschema h
  rcases hfault with ⟨slot, fault, hslot, hfault, rfl⟩ | ⟨-, _, -, -, rfl⟩
  · have hmem : column ∈ declarers rowName columns platform := by
      rw [hdeclarers]
      exact List.mem_append_right _ List.mem_cons_self
    have hne := KeptColumn.group_ne_nil (mem_kept_of_mem_declarers hmem) hslot
    refine beq_eq_false_iff_ne.mpr ?_
    rintro rfl
    exact GroupMember.fault?_ne_noColumns hne hfault
  · rfl

namespace Workbook

variable {workbook merged : Workbook} {config : Config} {platform : Platform}

theorem isTimely_enumHeader : IsTimely (workbook.enumHeader config platform) := by
  unfold enumHeader
  split
  · rename_i cause hcause
    have henumerations : IsTimely workbook.enumerations :=
      Outcome.FailsOnly.mapM fun sheet _ => Enumeration.isTimely_ofSheet sheet
    exact Outcome.failsOnly_error (henumerations cause hcause)
  · exact Header.isTimely_enumHeader _ _ _ _

/-- Behind tables that were refined, no error of the data header is met before. -/
theorem isTimely_dataHeader {tables : List TypedTable}
    (hrefine : (workbook.refine platform).outcome = .ok tables) :
    IsTimely (workbook.dataHeader config platform) := by
  have hrecords : IsTimely (workbook.records platform config.rowNameField) := by
    refine Outcome.FailsOnly.mapM ?_
    intro sheet hsheet
    obtain ⟨table, -, htable⟩ := Outcome.exists_of_mem_left (refine_eq_ok.mp hrefine) hsheet
    obtain ⟨columns, hgives⟩ := Sheet.refine_eq_ok.mp htable
    exact Record.isTimely_ofSheet hgives.schema_eq
  unfold dataHeader
  split
  · rename_i cause hcause
    exact Outcome.failsOnly_error (hrecords cause hcause)
  · exact Outcome.failsOnly_ok

/-- The error is none of a declaration that is met before. -/
def TimelyError (error : CompileError) : Prop :=
  ∀ cause, error = .declare cause → cause.isPreempted = false

/-- Compiling meets what it can meet early before it generates headers. -/
theorem compile_failsOnly (workbook : Workbook) (config : Config) (platforms : List Platform) :
    Outcome.FailsOnly TimelyError (workbook.compile config platforms).outcome := by
  have hartifacts : ∀ (merged : Workbook) (platform : Platform),
      Outcome.FailsOnly TimelyError (merged.artifactsFor config platform).outcome := by
    intro merged platform
    unfold artifactsFor
    simp only [Reported.outcome_bind, Reported.outcome_lift, Reported.outcome_mapError,
      Reported.outcome_report, Reported.outcome_pure]
    -- the stages in order: tables, documents, enum header, data header
    refine .bind (.mapError ?_) fun tables htables => .bind (.mapError ?_) fun _ _ =>
      .bind (.mapError ?_) fun _ _ => .bind Outcome.failsOnly_ok fun _ _ =>
        .bind (.mapError ?_) fun _ _ => .bind Outcome.failsOnly_ok fun _ _ => Outcome.failsOnly_ok
    · rintro _ - cause ⟨⟩
    · rintro _ - cause ⟨⟩
    · rintro cause hcause _ ⟨⟩
      exact isTimely_enumHeader cause hcause
    · rintro cause hcause _ ⟨⟩
      exact isTimely_dataHeader (Outcome.mapError_eq_ok.mp htables) cause hcause
  unfold compile
  simp only [Reported.outcome_bind, Reported.outcome_mapError, Reported.outcome_report,
    Reported.outcome_forEach]
  refine .bind (.mapError ?_) fun merged _ => .bind Outcome.failsOnly_ok fun _ _ =>
    .mapM fun platform _ => hartifacts merged platform
  rintro _ - cause ⟨⟩

end Workbook

/-! ## Look-ups -/

namespace Sheet

/-- Nothing that refining looks up in the sheet is missing: columns and type cells are paired
without a rest on either side, so that the schema has every column, and each row has the cell of its
id and those of the kept columns. -/
structure Filled (sheet : Sheet) (typeRow : List String) : Prop where
  columns_paired : (sheet.columns.zip typeRow).map (·.1) = sheet.columns
  cells_paired : (sheet.columns.zip typeRow).map (·.2) = typeRow
  names_eq : ∀ columns, sheet.schema = .ok columns → columns.map (·.name) = sheet.columns
  id_present : ∀ row ∈ sheet.dataRows, row[0]? = some (cellAt row 0)
  cell_present : ∀ columns, sheet.schema = .ok columns →
    ∀ (platform : Platform), ∀ column ∈ columns.filterMap (·.keptOn? platform),
      ∀ row ∈ sheet.dataRows, row[column.position]? = some (cellAt row column.position)

theorem getElem?_eq_cellAt {row : List String} {position : Nat} (h : position < row.length) :
    row[position]? = some (cellAt row position) := by
  rw [cellAt, List.getElem?_eq_getElem h, Option.getD_some]

/-- A data sheet of a good shape is filled. -/
theorem Shaped.filled {sheet : Sheet} {typeRow : List String} (hshaped : sheet.Shaped)
    (hdata : sheet.isData = true) (htypeRow : sheet.typeRow? = some typeRow) :
    sheet.Filled typeRow := by
  have hlength : typeRow.length = sheet.columns.length :=
    hshaped.row_length typeRow (List.mem_of_mem_head? htypeRow)
  have hrows : ∀ row ∈ sheet.dataRows, row.length = sheet.columns.length :=
    fun row hrow => hshaped.row_length row (List.mem_of_mem_tail hrow)
  refine ⟨List.map_fst_zip (Nat.le_of_eq hlength.symm), List.map_snd_zip (Nat.le_of_eq hlength),
    fun columns hschema => hshaped.names_of_schema hschema, ?_, ?_⟩
  · intro row hrow
    obtain ⟨others, hcolumns⟩ := columns_eq_of_isData hdata
    have hwidth := hrows row hrow
    rw [hcolumns, List.length_cons] at hwidth
    exact getElem?_eq_cellAt (by omega)
  · intro columns hschema platform kept hkept row hrow
    obtain ⟨column, hcolumn, hkeptOn⟩ := List.mem_filterMap.mp hkept
    obtain ⟨i, hi⟩ := List.mem_iff_getElem?.mp hcolumn
    have hposition : kept.position = i :=
      (Column.keptOn?_eq_some.mp hkeptOn).2.2.1.trans (position_of_getElem? hschema hi)
    have hcolumns : columns.length = sheet.columns.length := by
      rw [← hshaped.names_of_schema hschema, List.length_map]
    have hi := (List.getElem?_eq_some_iff.mp hi).1
    have hwidth := hrows row hrow
    exact getElem?_eq_cellAt (by omega)

end Sheet

namespace TypedTable

/-- Nothing that the table's document is made of is missing: every row has a value for each column
and none beyond, every row has its id, and where a column supplies the row names, it has a value in
every row. -/
structure Filled (platform : Platform) (field : String) (table : TypedTable) : Prop where
  row_width : ∀ cells ∈ table.rows, cells.length = table.columns.length
  ids_length : table.ids.length = table.rows.length
  name_present : ∀ position, table.rowNames platform field = .ok (.column position) →
    ∀ cells ∈ table.rows, ∃ value, cells[position]? = some value ∧
      ∀ id, (RowNames.column position).nameOf? cells id = some value.shown
  rows_paired : ∀ names,
    documentRows field names table.columns table.rows table.ids =
      List.zipWith (fun cells id => documentRow field names table.columns cells (some id))
        table.rows table.ids

/-- Where there is an id for each row, each is written with its own. -/
theorem documentRows_eq_zipWith {field : String} {names : RowNames} {columns : List TableColumn}
    {rows : List (List Value)} {ids : List String} (h : ids.length = rows.length) :
    documentRows field names columns rows ids =
      List.zipWith (fun cells id => documentRow field names columns cells (some id)) rows ids := by
  induction rows generalizing ids with
  | nil => rfl
  | cons cells rest ih =>
    cases ids with
    | nil => cases h
    | cons id ids => exact congrArg _ (ih (Nat.succ.inj h))

/-- A column that supplies the row names is one of the table. -/
theorem lt_of_rowNames {platform : Platform} {field : String} {table : TypedTable}
    {position : Nat} (h : table.rowNames platform field = .ok (.column position)) :
    position < table.columns.length := by
  unfold rowNames at h
  cases platform with
  | server => cases h
  | client =>
    dsimp only at h
    split at h
    · cases h
    · split at h
      · rename_i hstring
        obtain rfl := RowNames.column.inj (Except.ok.inj h)
        obtain ⟨column, hcolumn, -⟩ := Option.map_eq_some_iff.mp hstring
        exact (List.getElem?_eq_some_iff.mp hcolumn).1
      · cases h

/-- Tables that sheets give are filled. -/
theorem filled_of_gives {symbolsOf? : String → Option (List String)} {platform : Platform}
    {sheet : Sheet} {columns : List Column} {table : TypedTable} {field : String}
    (hgives : sheet.Gives symbolsOf? platform columns table) : table.Filled platform field := by
  have hlength : table.ids.length = table.rows.length := by
    rw [hgives.ids_eq, List.length_map, hgives.rows_read.length_eq]
  refine ⟨hgives.row_width, hlength, ?_, fun names => documentRows_eq_zipWith hlength⟩
  intro position hnames cells hcells
  have hposition : position < cells.length := by
    rw [hgives.row_width cells hcells]
    exact lt_of_rowNames hnames
  have hvalue : cells[position]? = some cells[position] := List.getElem?_eq_getElem hposition
  refine ⟨cells[position], hvalue, fun id => ?_⟩
  rw [RowNames.nameOf?, hvalue]
  rfl

end TypedTable

namespace Workbook

/-- Nothing that is looked up in the data sheets of the workbook or in their tables is missing. -/
structure Filled (workbook : Workbook) (config : Config) : Prop where
  sheets_filled : ∀ sheet ∈ workbook.dataSheets, ∀ typeRow, sheet.typeRow? = some typeRow →
    sheet.Filled typeRow
  tables_filled : ∀ platform tables, (workbook.refine platform).outcome = .ok tables →
    ∀ table ∈ tables, table.Filled platform config.rowNameField

/-- No run of compiling fails with an error of declarations that is met before, and once the sheets
are merged, nothing that is looked up is missing. -/
theorem timely_and_filled (workbook : Workbook) (config : Config) (platforms : List Platform) :
    (∀ cause, (workbook.compile config platforms).outcome = .error (.declare cause) →
      cause.isPreempted = false) ∧
    ∀ merged, workbook.merge.outcome = .ok merged → merged.Filled config := by
  refine ⟨fun cause hcause => compile_failsOnly workbook config platforms _ hcause cause rfl, ?_⟩
  intro merged hmerge
  obtain ⟨-, hshaped⟩ := shaped_of_merge hmerge
  refine ⟨?_, ?_⟩
  · intro sheet hsheet typeRow htypeRow
    obtain ⟨hmem, hdata⟩ := List.mem_filter.mp hsheet
    exact (hshaped sheet hmem).filled hdata htypeRow
  · intro platform tables hrefine table htable
    obtain ⟨sheet, -, hsheetTable⟩ := Outcome.exists_of_mem_right (refine_eq_ok.mp hrefine) htable
    obtain ⟨columns, hgives⟩ := Sheet.refine_eq_ok.mp hsheetTable
    exact TypedTable.filled_of_gives hgives

/-! ### An enum sheet without symbols -/

/-- The sheet, and one of items whose names are in a column for the client alone. -/
def symbolless : Workbook where
  sheets := [
    { name := "Item"
      columns := ["Id", "#Memo", "Name", "Speed"]
      rows := [["int32_s", "", "string_c", "float?_cs"], ["1", "x", "Sword", ""]] },
    { name := "Grade", columns := ["Enum", "Value", "Description"], rows := [["#Old", "", ""]] }]
  exportedAt := none

/-- The table of items on the client. -/
def symbollessTable : TypedTable where
  name := "Item"
  platform := .client
  columns := [⟨"Name", .string⟩, ⟨"Speed", .float⟩]
  rows := [[.text "Sword", .float (.zero false)]]
  ids := ["1"]
  fingerprint := 142411063709208781

/-- The items are refined and written; what fails is the enumeration, which is looked at only by
the headers. -/
theorem symbolless_timely :
    symbolless.merge.outcome = .ok symbolless ∧
      (symbolless.refine .client).outcome = .ok [symbollessTable] ∧
      symbollessTable.rowNames .client "Name" = .ok (.column 0) ∧
      symbolless.Filled .standard ∧ symbollessTable.Filled .client "Name" ∧
      (symbolless.compile .standard [.client]).outcome = .error (.declare (.emptyEnum "Grade")) ∧
      (DeclarationError.emptyEnum "Grade").isPreempted = false := by
  have hmerge : symbolless.merge.outcome = .ok symbolless := by decide +kernel
  have hrefine : (symbolless.refine .client).outcome = .ok [symbollessTable] := by decide +kernel
  have hcompile : (symbolless.compile .standard [.client]).outcome =
      .error (.declare (.emptyEnum "Grade")) := by decide +kernel
  obtain ⟨htimely, hmerged⟩ := timely_and_filled symbolless .standard [.client]
  have hfilled := hmerged symbolless hmerge
  exact ⟨hmerge, hrefine, by decide +kernel, hfilled,
    hfilled.tables_filled .client _ hrefine symbollessTable List.mem_cons_self, hcompile,
    htimely _ hcompile⟩

end Workbook

end GameSheets

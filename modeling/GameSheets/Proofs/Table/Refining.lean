/-
  What refining says of a sheet and its table.

  A column has a value in a row when the cell, or the default in the place of an empty one, reads as
  that value.  A sheet refines to a table exactly where it has a schema, its ids differ, and every
  kept column has a value in every row; the table is then determined by the sheet.  A workbook
  refines to the tables of its data sheets, in order.
-/
import GameSheets.Proofs.Outcome
import GameSheets.Proofs.Sheet.Schema
import GameSheets.Table.Refine

namespace GameSheets

variable {symbolsOf? : String → Option (List String)} {platform : Platform}

/-! ## Cells -/

namespace KeptColumn

/-- The text that the column reads in a row: its cell, or the default of an empty one. -/
def textIn (row : List String) (column : KeptColumn) : String :=
  if Sheet.cellAt row column.position = "" then column.base.emptyText
  else Sheet.cellAt row column.position

/-- The column has the value in a row. -/
structure Reads (symbolsOf? : String → Option (List String)) (row : List String)
    (column : KeptColumn) (value : Value) : Prop where
  nullable_of_empty : Sheet.cellAt row column.position = "" → column.nullable = true
  literal_eq : column.base.readLiteral symbolsOf? (column.textIn row) = .ok value

theorem read_eq_ok {sheet : String} {row : List String} {column : KeptColumn} {value : Value} :
    column.read symbolsOf? sheet row = .ok value ↔ column.Reads symbolsOf? row value := by
  by_cases hempty : Sheet.cellAt row column.position = "" ∧ column.nullable = false
  · simp only [read, if_pos hempty]
    constructor
    · intro h
      cases h
    · rintro ⟨hnullable, -⟩
      rw [hnullable hempty.1] at hempty
      cases hempty.2
  · simp only [read, if_neg hempty]
    have hnullable : Sheet.cellAt row column.position = "" → column.nullable = true := by
      intro hcell
      by_contra hnot
      exact hempty ⟨hcell, Bool.eq_false_iff.mpr hnot⟩
    constructor
    · intro h
      split at h
      · rename_i result hresult
        obtain rfl := Except.ok.inj h
        exact ⟨hnullable, hresult⟩
      · cases h
      · cases h
    · rintro ⟨-, hread⟩
      rw [textIn] at hread
      rw [hread]

/-- A row is read with one value for each column. -/
theorem readAll_eq_ok {sheet : String} {row : List String} {columns : List KeptColumn}
    {values : List Value} :
    readAll symbolsOf? sheet row columns = .ok values ↔
      List.Forall₂ (Reads symbolsOf? row) columns values := by
  induction columns generalizing values with
  | nil =>
    rw [readAll, List.forall₂_nil_left_iff, Except.ok.injEq]
    exact eq_comm
  | cons column rest ih =>
    rw [readAll, List.forall₂_cons_left_iff]
    constructor
    · intro h
      split at h
      · cases h
      · rename_i value hvalue
        split at h
        · cases h
        · rename_i others hothers
          obtain rfl := Except.ok.inj h
          exact ⟨value, others, read_eq_ok.mp hvalue, ih.mp hothers, rfl⟩
    · rintro ⟨value, others, hvalue, hothers, rfl⟩
      simp only [read_eq_ok.mpr hvalue, ih.mpr hothers]

/-- Reading a row is a pass over its columns. -/
theorem readAll_eq_mapM {sheet : String} {row : List String} {columns : List KeptColumn} :
    readAll symbolsOf? sheet row columns = columns.mapM (read symbolsOf? sheet row) := by
  induction columns with
  | nil => rfl
  | cons column rest ih =>
    rw [readAll, List.mapM_cons, ih]
    cases column.read symbolsOf? sheet row with
    | error cause => rfl
    | ok value => cases rest.mapM (read symbolsOf? sheet row) <;> rfl

end KeptColumn

/-! ## Sheets -/

namespace Sheet

/-- The rows behind a row that is read are read with its id among those seen. -/
theorem readRows_cons_of_fresh {sheet : String} {kept : List KeptColumn} {seen row : List String}
    {rest : List (List String)} {here : List Value} (hfresh : cellAt row 0 ∉ seen)
    (hhere : KeptColumn.readAll symbolsOf? sheet row kept = .ok here) :
    readRows symbolsOf? sheet kept seen (row :: rest) =
      (readRows symbolsOf? sheet kept (cellAt row 0 :: seen) rest).map (here :: ·) := by
  rw [readRows]
  simp only [if_neg hfresh, hhere]
  cases readRows symbolsOf? sheet kept (cellAt row 0 :: seen) rest with
  | error cause => rfl
  | ok others => rfl

/-- Rows are read where their ids are new and differ, each with one value for each column. -/
theorem readRows_eq_ok {sheet : String} {kept : List KeptColumn} {seen : List String}
    {rows : List (List String)} {values : List (List Value)} :
    readRows symbolsOf? sheet kept seen rows = .ok values ↔
      ((rows.map (cellAt · 0)).Nodup ∧ ∀ id ∈ rows.map (cellAt · 0), id ∉ seen) ∧
        List.Forall₂ (fun row => List.Forall₂ (KeptColumn.Reads symbolsOf? row) kept)
          rows values := by
  induction rows generalizing seen values with
  | nil =>
    rw [readRows, List.forall₂_nil_left_iff, Except.ok.injEq]
    simp [eq_comm]
  | cons row rest ih =>
    rw [List.forall₂_cons_left_iff, List.map_cons, List.nodup_cons, List.forall_mem_cons]
    constructor
    · intro h
      rw [readRows] at h
      split at h
      · cases h
      · rename_i hfresh
        split at h
        · cases h
        · rename_i here hhere
          split at h
          · cases h
          · rename_i others hothers
            obtain rfl := Except.ok.inj h
            obtain ⟨⟨hnodup, hnew⟩, hvalues⟩ := ih.mp hothers
            -- the ids of the rest are new where this one has been seen, and so differ from it
            have hhead : cellAt row 0 ∉ rest.map (cellAt · 0) := by
              intro hmem
              exact hnew _ hmem List.mem_cons_self
            exact ⟨⟨⟨hhead, hnodup⟩, hfresh,
              fun id hid hseen => hnew id hid (List.mem_cons_of_mem _ hseen)⟩,
              here, others, KeptColumn.readAll_eq_ok.mp hhere, hvalues, rfl⟩
    · rintro ⟨⟨⟨hhead, hnodup⟩, hfresh, hnew⟩, here, others, hhere, hothers, rfl⟩
      have hrest : readRows symbolsOf? sheet kept (cellAt row 0 :: seen) rest = .ok others := by
        refine ih.mpr ⟨⟨hnodup, ?_⟩, hothers⟩
        intro id hid hmem
        rcases List.mem_cons.mp hmem with rfl | hseen
        · exact hhead hid
        · exact hnew id hid hseen
      rw [readRows_cons_of_fresh hfresh (KeptColumn.readAll_eq_ok.mpr hhere), hrest]
      rfl

/-- Where rows are not read, they are read up to one that has an id which was seen, or that is not
read itself. -/
theorem exists_row_of_readRows_eq_error {sheet : String} {kept : List KeptColumn}
    {seen : List String} {rows : List (List String)} {cause : RefineError}
    (h : readRows symbolsOf? sheet kept seen rows = .error cause) :
    ∃ before row after, rows = before ++ row :: after ∧
      (∃ values, readRows symbolsOf? sheet kept seen before = .ok values) ∧
      ((cellAt row 0 ∈ seen ∨ cellAt row 0 ∈ before.map (cellAt · 0)) ∧
          cause = .duplicateId sheet (cellAt row 0) ∨
        (cellAt row 0 ∉ seen ∧ cellAt row 0 ∉ before.map (cellAt · 0)) ∧
          KeptColumn.readAll symbolsOf? sheet row kept = .error cause) := by
  induction rows generalizing seen with
  | nil => cases h
  | cons row rest ih =>
    by_cases hseen : cellAt row 0 ∈ seen
    · rw [readRows] at h
      simp only [if_pos hseen] at h
      exact ⟨[], row, rest, rfl, ⟨[], rfl⟩, .inl ⟨.inl hseen, (Except.error.inj h).symm⟩⟩
    · cases hhere : KeptColumn.readAll symbolsOf? sheet row kept with
      | error found =>
        rw [readRows] at h
        simp only [if_neg hseen, hhere] at h
        rw [Except.error.inj h] at hhere
        exact ⟨[], row, rest, rfl, ⟨[], rfl⟩, .inr ⟨⟨hseen, List.not_mem_nil⟩, hhere⟩⟩
      | ok here =>
        rw [readRows_cons_of_fresh hseen hhere, Outcome.map_eq_error] at h
        obtain ⟨before, stop, after, rfl, ⟨values, hvalues⟩, hstop⟩ := ih h
        have hbefore : readRows symbolsOf? sheet kept seen (row :: before) =
            .ok (here :: values) := by
          rw [readRows_cons_of_fresh hseen hhere, hvalues]
          rfl
        refine ⟨row :: before, stop, after, rfl, ⟨_, hbefore⟩, ?_⟩
        -- the rest has seen what was seen before, and this row
        have hids : cellAt stop 0 ∈ cellAt row 0 :: seen ∨
              cellAt stop 0 ∈ before.map (cellAt · 0) ↔
            cellAt stop 0 ∈ seen ∨ cellAt stop 0 ∈ (row :: before).map (cellAt · 0) := by
          rw [List.map_cons, List.mem_cons, List.mem_cons]
          exact or_assoc.trans or_left_comm
        rcases hstop with ⟨hrepeated, hcause⟩ | ⟨hfresh, hread⟩
        · exact .inl ⟨hids.mp hrepeated, hcause⟩
        · rw [← not_or] at hfresh ⊢
          exact .inr ⟨fun hrepeated => hfresh (hids.mpr hrepeated), hread⟩

/-- The sheet, read with these columns, gives the table. -/
structure Gives (symbolsOf? : String → Option (List String)) (platform : Platform) (sheet : Sheet)
    (columns : List Column) (table : TypedTable) : Prop where
  schema_eq : sheet.schema = .ok columns
  name_eq : table.name = sheet.name
  platform_eq : table.platform = platform
  columns_eq : table.columns =
    (columns.filterMap (·.keptOn? platform)).map fun column => ⟨column.name, column.base⟩
  ids_eq : table.ids = sheet.dataRows.map (cellAt · 0)
  ids_nodup : table.ids.Nodup
  rows_read : List.Forall₂
    (fun row => List.Forall₂ (KeptColumn.Reads symbolsOf? row)
      (columns.filterMap (·.keptOn? platform)))
    sheet.dataRows table.rows
  fingerprint_eq : table.fingerprint = Fingerprint.ofTexts (TypedTable.shownCells table.rows)

/-- Every row of the table has a value for each of its columns. -/
theorem Gives.row_width {sheet : Sheet} {columns : List Column} {table : TypedTable}
    (h : sheet.Gives symbolsOf? platform columns table) :
    ∀ values ∈ table.rows, values.length = table.columns.length := by
  intro values hvalues
  obtain ⟨row, -, hread⟩ := Outcome.exists_of_mem_right h.rows_read hvalues
  rw [← hread.length_eq, h.columns_eq, List.length_map]

/-- The table that a sheet gives where these columns are kept of it and read with these values. -/
def tableOf (platform : Platform) (sheet : Sheet) (kept : List KeptColumn)
    (rows : List (List Value)) : TypedTable where
  name := sheet.name
  platform := platform
  columns := kept.map fun column => ⟨column.name, column.base⟩
  rows := rows
  ids := sheet.dataRows.map (cellAt · 0)
  fingerprint := Fingerprint.ofTexts (TypedTable.shownCells rows)

/-- Refining reads the schema, then the rows at the kept columns. -/
theorem outcome_refine (sheet : Sheet) :
    (sheet.refine symbolsOf? platform).outcome =
      sheet.schema.mapError RefineError.schema >>= fun columns =>
        (readRows symbolsOf? sheet.name (columns.filterMap (·.keptOn? platform)) []
          sheet.dataRows).map
            (sheet.tableOf platform (columns.filterMap (·.keptOn? platform))) := by
  unfold refine
  simp only [Reported.outcome_bind, Reported.outcome_lift, Reported.outcome_report,
    Reported.outcome_pure]
  rfl

/-- A sheet is refined to the table that it gives with its columns. -/
theorem refine_eq_ok {sheet : Sheet} {table : TypedTable} :
    (sheet.refine symbolsOf? platform).outcome = .ok table ↔
      ∃ columns, sheet.Gives symbolsOf? platform columns table := by
  rw [outcome_refine, Outcome.bind_eq_ok]
  constructor
  · rintro ⟨columns, hschema, htable⟩
    obtain ⟨rows, hrows, rfl⟩ := Outcome.map_eq_ok.mp htable
    obtain ⟨⟨hnodup, -⟩, hvalues⟩ := readRows_eq_ok.mp hrows
    exact ⟨columns, Outcome.mapError_eq_ok.mp hschema, rfl, rfl, rfl, rfl, hnodup, hvalues, rfl⟩
  · rintro ⟨columns, hgives⟩
    refine ⟨columns, Outcome.mapError_eq_ok.mpr hgives.schema_eq,
      Outcome.map_eq_ok.mpr ⟨table.rows, readRows_eq_ok.mpr ⟨⟨?_, ?_⟩, ?_⟩, ?_⟩⟩
    · rw [← hgives.ids_eq]
      exact hgives.ids_nodup
    · exact fun _ _ => List.not_mem_nil
    · exact hgives.rows_read
    · obtain ⟨-, hname, rfl, hcolumns, hids, -, -, hfingerprint⟩ := hgives
      rw [tableOf, ← hname, ← hids, ← hfingerprint, ← hcolumns]

end Sheet

/-! ## Workbooks -/

namespace Workbook

/-- Refining passes over the data sheets. -/
theorem outcome_refine (workbook : Workbook) :
    (workbook.refine platform).outcome =
      workbook.dataSheets.mapM fun sheet =>
        (sheet.refine workbook.symbolsOf? platform).outcome := by
  have hsteps : (workbook.refine platform).outcome =
      (workbook.sheets.mapM fun sheet => (workbook.refineSheet platform sheet).outcome).map
        (·.filterMap id) := by
    rw [refine, Reported.outcome_bind, Reported.outcome_forEach]
    cases workbook.sheets.mapM fun sheet => (workbook.refineSheet platform sheet).outcome <;> rfl
  rw [hsteps, dataSheets]
  refine Outcome.mapM_filter ?_ ?_
  · intro sheet _ hdata
    rw [refineSheet, if_pos hdata, Reported.outcome_bind]
    cases (sheet.refine workbook.symbolsOf? platform).outcome <;> rfl
  · intro sheet _ hdata
    rw [refineSheet, if_neg (by rw [hdata]; decide)]
    rfl

/-- A workbook is refined to the tables of its data sheets, in order. -/
theorem refine_eq_ok {workbook : Workbook} {tables : List TypedTable} :
    (workbook.refine platform).outcome = .ok tables ↔
      List.Forall₂
        (fun sheet table => (sheet.refine workbook.symbolsOf? platform).outcome = .ok table)
        workbook.dataSheets tables := by
  rw [outcome_refine, Outcome.mapM_eq_ok]

/-- Tables have the names of their sheets. -/
theorem names_of_refine {workbook : Workbook} {tables : List TypedTable}
    (h : (workbook.refine platform).outcome = .ok tables) :
    tables.map (·.name) = workbook.dataSheets.map (·.name) := by
  refine (Outcome.map_eq_map (refine_eq_ok.mp h) ?_).symm
  intro sheet table htable
  obtain ⟨columns, hgives⟩ := Sheet.refine_eq_ok.mp htable
  exact hgives.name_eq.symm

end Workbook

end GameSheets

/-
  Every symbol of a table is accounted for.

  A cell that refers to an enum sheet is read against the symbols of the sheet, and a header is
  written with its enumerators.  Where sheets have different names, both are the same names
  (`Enumeration.lists_iff`), so that for a symbol in a table there are three cases, of which exactly
  one holds (`Workbook.Accounted`):

  1. the header declares it, in the enumeration that the column's type names;
  2. it is the empty symbol of an empty cell, and the column is nullable;
  3. there is no such enum sheet, and it has been reported that the column is not checked.

  The other way round, whatever a header declares is accepted as a cell.
-/
import GameSheets.Proofs.Declaration.Enumerators
import GameSheets.Proofs.Table.Typing

namespace GameSheets

/-- One of the three holds, and no other. -/
def ExactlyOne (first second third : Prop) : Prop :=
  first ∧ ¬ second ∧ ¬ third ∨ ¬ first ∧ second ∧ ¬ third ∨ ¬ first ∧ ¬ second ∧ third

namespace BaseType

theorem referenceTo_injective : Function.Injective referenceTo :=
  fun _ _ h => (String.append_right_inj "Enum_").mp h

/-- Only references have names of references. -/
theorem eq_enumeration_of_nativeName {platform : Platform} {base : BaseType} {sheet : String}
    (h : base.nativeName platform = referenceTo sheet) : base = .enumeration sheet := by
  have hhead : (base.nativeName platform).toList.head? = some 'E' := by
    rw [h, referenceTo, String.toList_append]
    rfl
  cases base with
  | enumeration other => rw [referenceTo_injective h]
  | int32 | int64 | float | double | string | vector | rotator =>
    cases platform <;> exact absurd hhead (by decide)

end BaseType

/-! ## Sheets and their enumerations -/

namespace Workbook

/-- There is an enum sheet of the name. -/
def HasEnumSheet (workbook : Workbook) (name : String) : Prop :=
  ∃ sheet ∈ workbook.enumSheets, sheet.name = name

theorem symbolsOf?_eq_none_iff {workbook : Workbook} {name : String} :
    workbook.symbolsOf? name = none ↔ ¬ workbook.HasEnumSheet name := by
  unfold symbolsOf? HasEnumSheet
  rw [Option.map_eq_none_iff, List.getLast?_eq_none_iff, List.filter_eq_nil_iff]
  simp

theorem nodup_enumeration_names {workbook : Workbook} {enumerations : List Enumeration}
    (hnames : (workbook.sheets.map (·.name)).Nodup)
    (henumerations : workbook.enumerations = .ok enumerations) :
    (enumerations.map (·.name)).Nodup := by
  have hreferences : (workbook.enumSheets.map (·.name)).map BaseType.referenceTo =
      enumerations.map (·.name) := by
    rw [List.map_map]
    exact Outcome.map_eq_map (declaredBy_of_enumerations henumerations)
      fun _ _ hdeclared => hdeclared.name_eq.symm
  have henumSheets : (workbook.enumSheets.map (·.name)).Nodup :=
    hnames.sublist (List.filter_sublist.map _)
  rw [← hreferences]
  exact henumSheets.map BaseType.referenceTo_injective

end Workbook

namespace Enumeration

/-- Of the enumerations, a single one has the name, and it has an enumerator for the symbol. -/
def Lists (enumerations : List Enumeration) (name symbol : String) : Prop :=
  ∃ enumeration ∈ enumerations, enumeration.name = name ∧
    (∀ other ∈ enumerations, other.name = name → other = enumeration) ∧
    ∃ entry ∈ enumeration.entries, entry.name = symbol

/-- The enumeration of a sheet lists the symbols of the sheet. -/
theorem lists_iff {workbook : Workbook} {enumerations : List Enumeration}
    (hnames : (workbook.sheets.map (·.name)).Nodup)
    (henumerations : workbook.enumerations = .ok enumerations) {sheet : Sheet}
    (hsheet : sheet ∈ workbook.enumSheets) {symbol : String} :
    Lists enumerations (BaseType.referenceTo sheet.name) symbol ↔ symbol ∈ sheet.symbols := by
  obtain ⟨enumeration, hmem, hdeclared⟩ :=
    Outcome.exists_of_mem_left (Workbook.declaredBy_of_enumerations henumerations) hsheet
  have hsingle : ∀ other ∈ enumerations, other.name = BaseType.referenceTo sheet.name →
      other = enumeration := by
    intro other hother hname
    exact List.inj_on_of_nodup_map (Workbook.nodup_enumeration_names hnames henumerations) hother
      hmem (hname.trans hdeclared.name_eq.symm)
  rw [← hdeclared.entries_eq, List.mem_map]
  constructor
  · rintro ⟨other, hother, hname, -, hentry⟩
    obtain rfl := hsingle other hother hname
    exact hentry
  · intro hentry
    exact ⟨enumeration, hmem, hdeclared.name_eq, hsingle, hentry⟩

end Enumeration

/-! ## Cells and reports -/

namespace KeptColumn

variable {symbolsOf? : String → Option (List String)}

/-- A column of symbols reads each cell as it is, and the symbol is one that is looked up, unless
it is empty or there is nothing to look up. -/
theorem Reads.symbol {row : List String} {column : KeptColumn} {value : Value} {name : String}
    (h : column.Reads symbolsOf? row value) (hbase : column.base = .enumeration name) :
    value = .symbol (Sheet.cellAt row column.position) ∧
      ∀ symbols, symbolsOf? name = some symbols →
        Sheet.cellAt row column.position = "" ∨ Sheet.cellAt row column.position ∈ symbols := by
  have htext : column.textIn row = Sheet.cellAt row column.position := by
    rw [textIn, hbase]
    split
    · rename_i hempty
      exact hempty.symm
    · rfl
  have hfits := BaseType.fits_of_readLiteral h.literal_eq
  have hread := h.literal_eq
  rw [htext, hbase, BaseType.readLiteral] at hread
  have hvalue : value = .symbol (Sheet.cellAt row column.position) := by
    split at hread
    · exact (Except.ok.inj hread).symm
    · split at hread
      · exact (Except.ok.inj hread).symm
      · cases hread
  rw [hbase, hvalue] at hfits
  exact ⟨hvalue, hfits⟩

end KeptColumn

namespace Sheet

/-- What there is to report of the columns is reported, whatever comes of the rows. -/
theorem mem_events_refine {symbolsOf? : String → Option (List String)} {platform : Platform}
    {sheet : Sheet} {columns : List Column} (hschema : sheet.schema = .ok columns) {event : Event}
    (hevent : event ∈ columns.filterMap (columnEvent? symbolsOf? platform sheet.name)) :
    event ∈ (sheet.refine symbolsOf? platform).events := by
  have hread :
      (Reported.lift (sheet.schema.mapError RefineError.schema)).outcome = .ok columns := by
    rw [Reported.outcome_lift, Outcome.mapError_eq_ok, hschema]
  rw [refine, Outcome.events_bind_of_ok hread,
    Outcome.events_bind_of_ok (Reported.outcome_report _)]
  exact List.mem_append_right _ (List.mem_append_left _ hevent)

end Sheet

namespace Workbook

variable {workbook : Workbook} {platform : Platform}

/-- What is reported of a data sheet is reported of the workbook. -/
theorem mem_events_refine {tables : List TypedTable}
    (hrefine : (workbook.refine platform).outcome = .ok tables) {sheet : Sheet}
    (hsheet : sheet ∈ workbook.dataSheets) {event : Event}
    (hevent : event ∈ (sheet.refine workbook.symbolsOf? platform).events) :
    event ∈ (workbook.refine platform).events := by
  obtain ⟨hmem, hdata⟩ := List.mem_filter.mp hsheet
  rw [refine, Reported.outcome_bind, Outcome.bind_eq_ok] at hrefine
  obtain ⟨found, hfound, -⟩ := hrefine
  rw [refine, Outcome.events_bind_of_ok hfound]
  refine List.mem_append_left _ (Outcome.mem_events_forEach hfound hmem ?_)
  rw [refineSheet, if_pos hdata, Reported.events_bind]
  exact List.mem_append_left _ hevent

/-! ## Symbols of tables -/

/-- Where there is the enum sheet, a symbol that is read is declared unless it is empty. -/
theorem lists_iff_of_reads {enumerations : List Enumeration}
    (hnames : (workbook.sheets.map (·.name)).Nodup)
    (henumerations : workbook.enumerations = .ok enumerations) {column : KeptColumn}
    {row : List String} {value : Value} (hreads : column.Reads workbook.symbolsOf? row value)
    {name : String} (hbase : column.base = .enumeration name)
    (hfound : workbook.HasEnumSheet name) :
    Enumeration.Lists enumerations (BaseType.referenceTo name)
        (Sheet.cellAt row column.position) ↔
      Sheet.cellAt row column.position ≠ "" := by
  obtain ⟨enumSheet, henumSheet, rfl⟩ := hfound
  rw [Enumeration.lists_iff hnames henumerations henumSheet]
  constructor
  · intro hlisted
    exact (Sheet.mem_symbols.mp hlisted).2.1
  · intro hnonempty
    exact ((hreads.symbol hbase).2 _ (symbolsOf?_name hnames henumSheet)).resolve_left hnonempty

/-- The symbol, in a column that refers to the named sheet, is accounted for. -/
def Accounted (workbook : Workbook) (platform : Platform) (enumerations : List Enumeration)
    (sheet : Sheet) (column : KeptColumn) (name symbol : String) : Prop :=
  ExactlyOne
    (symbol ≠ "" ∧ workbook.HasEnumSheet name ∧
      Enumeration.Lists enumerations (column.base.nativeName platform) symbol)
    (symbol = "" ∧ column.nullable = true)
    (symbol ≠ "" ∧ ¬ workbook.HasEnumSheet name ∧
      .unchecked sheet.name column.name name ∈ (workbook.refine platform).events)

/-- A symbol that is read is accounted for. -/
theorem accounted_of_reads {tables : List TypedTable} {enumerations : List Enumeration}
    (hnames : (workbook.sheets.map (·.name)).Nodup)
    (hrefine : (workbook.refine platform).outcome = .ok tables)
    (henumerations : workbook.enumerations = .ok enumerations) {sheet : Sheet}
    (hsheet : sheet ∈ workbook.dataSheets) {columns : List Column}
    (hschema : sheet.schema = .ok columns) {column : KeptColumn}
    (hcolumn : column ∈ columns.filterMap (·.keptOn? platform)) {row : List String} {value : Value}
    (hreads : column.Reads workbook.symbolsOf? row value) {name : String}
    (hbase : column.base = .enumeration name) :
    ∃ symbol, value = .symbol symbol ∧
      workbook.Accounted platform enumerations sheet column name symbol := by
  refine ⟨_, (hreads.symbol hbase).1, ?_⟩
  by_cases hempty : Sheet.cellAt row column.position = ""
  · -- the other two cases are about symbols that are not empty
    exact .inr (.inl ⟨fun h => h.1 hempty, ⟨hempty, hreads.nullable_of_empty hempty⟩,
      fun h => h.1 hempty⟩)
  · by_cases hfound : workbook.HasEnumSheet name
    · have hlists : Enumeration.Lists enumerations (column.base.nativeName platform)
          (Sheet.cellAt row column.position) := by
        rw [hbase]
        exact (lists_iff_of_reads hnames henumerations hreads hbase hfound).mpr hempty
      exact .inl ⟨⟨hempty, hfound, hlists⟩, fun h => hempty h.1, fun h => h.2.1 hfound⟩
    · obtain ⟨source, hsource, hkept⟩ := List.mem_filterMap.mp hcolumn
      have hname : column.name = source.name := (Column.keptOn?_eq_some.mp hkept).2.2.2.1
      have hreport : Sheet.columnEvent? workbook.symbolsOf? platform sheet.name source =
          some (.unchecked sheet.name column.name name) := by
        simp [Sheet.columnEvent?, hkept, hbase, symbolsOf?_eq_none_iff.mpr hfound, hname]
      have hevent : .unchecked sheet.name column.name name ∈ (workbook.refine platform).events :=
        mem_events_refine hrefine hsheet
          (Sheet.mem_events_refine hschema (List.mem_filterMap.mpr ⟨source, hsource, hreport⟩))
      exact .inr (.inr ⟨fun h => hfound h.2.1, fun h => hempty h.1, hempty, hfound, hevent⟩)

/-- Every symbol of the table of a sheet is accounted for, in its row and column. -/
def SymbolsAccounted (workbook : Workbook) (platform : Platform) (enumerations : List Enumeration)
    (sheet : Sheet) (table : TypedTable) : Prop :=
  ∃ columns, sheet.schema = .ok columns ∧
    table.columns =
      (columns.filterMap (·.keptOn? platform)).map (fun column => ⟨column.name, column.base⟩) ∧
    ∀ values ∈ table.rows,
      List.Forall₂ (fun column value => ∀ name, column.base = .enumeration name →
          ∃ symbol, value = .symbol symbol ∧
            workbook.Accounted platform enumerations sheet column name symbol)
        (columns.filterMap (·.keptOn? platform)) values

/-- What the enumeration lists is read, in any row of any sheet, by any column of its type. -/
def Accepts (workbook : Workbook) (platform : Platform) (enumeration : Enumeration) : Prop :=
  ∀ entry ∈ enumeration.entries, ∀ column : KeptColumn,
    column.base.nativeName platform = enumeration.name →
    ∀ sheet row, Sheet.cellAt row column.position = entry.name →
      column.read workbook.symbolsOf? sheet row = .ok (.symbol entry.name)

/-- What a header declares is accepted as a cell. -/
theorem accepts_of_enumerations {enumerations : List Enumeration}
    (hnames : (workbook.sheets.map (·.name)).Nodup)
    (henumerations : workbook.enumerations = .ok enumerations) {enumeration : Enumeration}
    (hmem : enumeration ∈ enumerations) : workbook.Accepts platform enumeration := by
  intro entry hentry column hnative sheet row hcell
  obtain ⟨enumSheet, henumSheet, hdeclared⟩ :=
    Outcome.exists_of_mem_right (declaredBy_of_enumerations henumerations) hmem
  have hbase : column.base = .enumeration enumSheet.name :=
    BaseType.eq_enumeration_of_nativeName (hnative.trans hdeclared.name_eq)
  have hlisted : entry.name ∈ enumSheet.symbols := by
    rw [← hdeclared.entries_eq]
    exact List.mem_map_of_mem hentry
  have hnonempty : entry.name ≠ "" := (Sheet.mem_symbols.mp hlisted).2.1
  rw [KeptColumn.read_eq_ok]
  refine ⟨fun hempty => absurd (hcell.symm.trans hempty) hnonempty, ?_⟩
  rw [KeptColumn.textIn, hcell, if_neg hnonempty, hbase, BaseType.readLiteral,
    symbolsOf?_name hnames henumSheet]
  exact if_pos (.inr hlisted)

/-- Where sheets have different names, every symbol of the refined tables is accounted for, and the
symbols that headers declare are accepted. -/
theorem symbols_accounted {tables : List TypedTable} {enumerations : List Enumeration}
    (hnames : (workbook.sheets.map (·.name)).Nodup)
    (hrefine : (workbook.refine platform).outcome = .ok tables)
    (henumerations : workbook.enumerations = .ok enumerations) :
    List.Forall₂ (workbook.SymbolsAccounted platform enumerations) workbook.dataSheets tables ∧
      ∀ enumeration ∈ enumerations, workbook.Accepts platform enumeration := by
  refine ⟨?_, fun _ => accepts_of_enumerations hnames henumerations⟩
  refine (Outcome.forall₂_mem_left (refine_eq_ok.mp hrefine)).imp ?_
  rintro sheet table ⟨hsheet, htable⟩
  obtain ⟨columns, hgives⟩ := Sheet.refine_eq_ok.mp htable
  refine ⟨columns, hgives.schema_eq, hgives.columns_eq, ?_⟩
  intro values hvalues
  obtain ⟨row, -, hrow⟩ := Outcome.exists_of_mem_right hgives.rows_read hvalues
  refine (Outcome.forall₂_mem_left hrow).imp ?_
  rintro column value ⟨hcolumn, hreads⟩ name hbase
  exact accounted_of_reads hnames hrefine henumerations hsheet hgives.schema_eq hcolumn hreads hbase

/-! ### A symbol of each kind -/

/-- A column with an enum sheet and an empty cell, and a column without one. -/
def gradedItems : Workbook where
  sheets := [
    { name := "Grade"
      columns := ["Enum", "Value", "Description"]
      rows := [["Common", "", ""], ["#Old", "", ""], ["", "", ""], ["Rare", "3", ""]] },
    { name := "Item"
      columns := ["Id", "Grade", "Slot"]
      rows := [
        ["int32_cs", "Enum_Grade?_cs", "Enum_Slot_s"],
        ["1", "Rare", "Hand"],
        ["2", "", "Head"]] }]
  exportedAt := none

/-- The one enumeration. -/
def gradedEnumerations : List Enumeration := [
  { name := "Enum_Grade"
    sheet := "Grade"
    entries := [⟨"Common", none, 0⟩, ⟨"Rare", some 3, 3⟩]
    docs := [] }]

/-- The table on the server. -/
def gradedTables : List TypedTable := [
  { name := "Item"
    platform := .server
    columns := [⟨"Id", .int32⟩, ⟨"Grade", .enumeration "Grade"⟩, ⟨"Slot", .enumeration "Slot"⟩]
    rows := [
      [.int 1, .symbol "Rare", .symbol "Hand"],
      [.int 2, .symbol "", .symbol "Head"]]
    ids := ["1", "2"]
    fingerprint := 15593414967865096497 }]

theorem gradedItems_accounted :
    (gradedItems.sheets.map (·.name)).Nodup ∧
      (gradedItems.refine .server).outcome = .ok gradedTables ∧
      gradedItems.enumerations = .ok gradedEnumerations ∧
      List.Forall₂ (gradedItems.SymbolsAccounted .server gradedEnumerations)
        gradedItems.dataSheets gradedTables ∧
      ∀ enumeration ∈ gradedEnumerations, gradedItems.Accepts .server enumeration := by
  have hnames : (gradedItems.sheets.map (·.name)).Nodup := by decide
  have hrefine : (gradedItems.refine .server).outcome = .ok gradedTables := by decide +kernel
  have henumerations : gradedItems.enumerations = .ok gradedEnumerations := by decide +kernel
  exact ⟨hnames, hrefine, henumerations, symbols_accounted hnames hrefine henumerations⟩

end Workbook

end GameSheets

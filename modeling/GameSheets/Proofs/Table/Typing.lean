/-
  Refined tables are well typed.

  1. What a literal reads as fits its type (`Value.fits_of_readLiteral`): integers lie in the range
     of their width, floats are finite, composites have their keys, and symbols are those of the
     enum sheet that is looked up.
  2. A merged workbook has one sheet of each name, so that the sheet that is looked up is the only
     one that could be meant (`Workbook.symbolsOf?_name`).
  3. In a merged workbook rows are as long as the columns, so that no column and no cell of a data
     sheet is left out when they are paired (`TypedTable.wellTyped_of_gives`).
-/
import Mathlib
import GameSheets.Proofs.Table.Refining
import GameSheets.Proofs.Workbook.Merging

namespace GameSheets

/-! ## Values -/

namespace Value

/-- The value is one of the type's; which symbols an enumeration has is told by `names`. -/
def Fits (names : String → String → Prop) : BaseType → Value → Prop
  | .int32, .int n => -2 ^ 31 ≤ n ∧ n < 2 ^ 31
  | .int64, .int n => -2 ^ 63 ≤ n ∧ n < 2 ^ 63
  | .float, .float x => x.isFinite = true ∧ x.fitsSingle = true
  | .double, .float x => x.isFinite = true
  | .vector, .composite shown => Composite.lists Composite.vectorKeys shown = true
  | .rotator, .composite shown => Composite.lists Composite.rotatorKeys shown = true
  | .string, .text _ => True
  | .enumeration sheet, .symbol name => names sheet name
  | _, _ => False

theorem Fits.imp {names others : String → String → Prop}
    (himp : ∀ sheet name, names sheet name → others sheet name) {base : BaseType} {value : Value}
    (h : value.Fits names base) : value.Fits others base := by
  cases base with
  | enumeration sheet =>
    cases value with
    | symbol name => exact himp sheet name h
    | int _ | float _ | text _ | composite _ => exact h
  | int32 | int64 | float | double | vector | rotator | string =>
    cases value with
    | int _ | float _ | text _ | composite _ | symbol _ => exact h

end Value

theorem LiteralFault.orInvalid_eq_ok {value? : Option Value} {value : Value} :
    LiteralFault.orInvalid value? = .ok value ↔ value? = some value := by
  cases value? with
  | none => simp [LiteralFault.orInvalid]
  | some other => simp [LiteralFault.orInvalid]

/-- The integers that are read for a range are the literals whose value lies in it. -/
theorem Number.Bounds.read?_eq_some {bounds : Number.Bounds} {text : String} {n : Int} :
    bounds.read? text = some n ↔
      Number.integer? text.toList = some n ∧ bounds.low ≤ n ∧ n ≤ bounds.high := by
  rw [read?, Option.filter_eq_some_iff]
  simp [contains]

namespace BaseType

theorem readFloat?_eq_some {single : Bool} {text : String} {value : Value}
    (h : readFloat? single text = some value) :
    ∃ x, value = .float x ∧ x.isFinite = true ∧ (single = true → x.fitsSingle = true) := by
  obtain ⟨x, hx, rfl⟩ := Option.map_eq_some_iff.mp h
  obtain ⟨-, hfinite⟩ := Option.filter_eq_some_iff.mp hx
  refine ⟨x, rfl, ?_, ?_⟩
  · exact (Bool.and_eq_true_iff.mp hfinite).1
  · rintro rfl
    simpa using (Bool.and_eq_true_iff.mp hfinite).2

theorem readComposite?_eq_some {keys : List Char} {text : String} {value : Value}
    (h : readComposite? keys text = some value) :
    value = .composite text ∧ Composite.lists keys text = true := by
  unfold readComposite? at h
  split at h
  · rename_i hlists
    exact ⟨(Option.some.inj h).symm, hlists⟩
  · cases h

/-- What a literal reads as fits the type, its symbols being those that are looked up. -/
theorem fits_of_readLiteral {symbolsOf? : String → Option (List String)} {text : String}
    {base : BaseType} {value : Value} (h : base.readLiteral symbolsOf? text = .ok value) :
    value.Fits (fun sheet name => ∀ symbols, symbolsOf? sheet = some symbols →
      name = "" ∨ name ∈ symbols) base := by
  cases base with
  | int32 =>
    obtain ⟨n, hn, rfl⟩ := Option.map_eq_some_iff.mp (LiteralFault.orInvalid_eq_ok.mp h)
    obtain ⟨-, hlow, hhigh⟩ := Number.Bounds.read?_eq_some.mp hn
    simp only [Number.Bounds.int32] at hlow hhigh
    show -2 ^ 31 ≤ n ∧ n < 2 ^ 31
    omega
  | int64 =>
    obtain ⟨n, hn, rfl⟩ := Option.map_eq_some_iff.mp (LiteralFault.orInvalid_eq_ok.mp h)
    obtain ⟨-, hlow, hhigh⟩ := Number.Bounds.read?_eq_some.mp hn
    simp only [Number.Bounds.int64] at hlow hhigh
    show -2 ^ 63 ≤ n ∧ n < 2 ^ 63
    omega
  | float =>
    obtain ⟨x, rfl, hfinite, hsingle⟩ := readFloat?_eq_some (LiteralFault.orInvalid_eq_ok.mp h)
    exact ⟨hfinite, hsingle rfl⟩
  | double =>
    obtain ⟨x, rfl, hfinite, -⟩ := readFloat?_eq_some (LiteralFault.orInvalid_eq_ok.mp h)
    exact hfinite
  | vector =>
    obtain ⟨rfl, hlists⟩ := readComposite?_eq_some (LiteralFault.orInvalid_eq_ok.mp h)
    exact hlists
  | rotator =>
    obtain ⟨rfl, hlists⟩ := readComposite?_eq_some (LiteralFault.orInvalid_eq_ok.mp h)
    exact hlists
  | string =>
    obtain rfl := Except.ok.inj h
    exact trivial
  | enumeration sheet =>
    rw [readLiteral] at h
    split at h
    · -- without an enum sheet any symbol is read, and nothing is said of it
      rename_i hunknown
      obtain rfl := Except.ok.inj h
      intro symbols hsymbols
      rw [hunknown] at hsymbols
      cases hsymbols
    · rename_i symbols hknown
      split at h
      · rename_i hlisted
        obtain rfl := Except.ok.inj h
        intro others hothers
        obtain rfl := Option.some.inj (hknown.symm.trans hothers)
        exact hlisted
      · cases h

end BaseType

/-! ## Symbols -/

namespace Sheet

/-- Symbols are the first cells that are neither empty nor comments. -/
theorem mem_symbols {sheet : Sheet} {name : String} :
    name ∈ sheet.symbols ↔
      (∃ row ∈ sheet.rows, row.head? = some name) ∧ name ≠ "" ∧ isComment name = false := by
  simp [symbols]

end Sheet

namespace Workbook

/-- The symbol, unless empty, is a first cell of every enum sheet of the name, and no comment. -/
def Names (workbook : Workbook) (sheet name : String) : Prop :=
  name ≠ "" → ∀ found ∈ workbook.enumSheets, found.name = sheet →
    (∃ row ∈ found.rows, row.head? = some name) ∧ isComment name = false

/-- Where names differ, the symbols of a name are those of the enum sheet that has it. -/
theorem symbolsOf?_name {workbook : Workbook} (hnames : (workbook.sheets.map (·.name)).Nodup)
    {sheet : Sheet} (hsheet : sheet ∈ workbook.enumSheets) :
    workbook.symbolsOf? sheet.name = some sheet.symbols := by
  have hmem : sheet ∈ workbook.enumSheets.filter (·.name = sheet.name) :=
    List.mem_filter.mpr ⟨hsheet, decide_eq_true rfl⟩
  unfold symbolsOf?
  cases hlast : (workbook.enumSheets.filter (·.name = sheet.name)).getLast? with
  | none =>
    rw [List.getLast?_eq_none_iff.mp hlast] at hmem
    cases hmem
  | some last =>
    obtain ⟨hlastMem, hname⟩ := List.mem_filter.mp (List.mem_of_getLast? hlast)
    have hsame : last = sheet :=
      List.inj_on_of_nodup_map hnames (List.mem_of_mem_filter hlastMem)
        (List.mem_of_mem_filter hsheet) (of_decide_eq_true hname)
    rw [hsame, Option.map_some]

/-- Symbols that pass the look-up are symbols of the workbook. -/
theorem names_of_symbolsOf? {workbook : Workbook}
    (hnames : (workbook.sheets.map (·.name)).Nodup) {sheet name : String}
    (h : ∀ symbols, workbook.symbolsOf? sheet = some symbols → name = "" ∨ name ∈ symbols) :
    workbook.Names sheet name := by
  intro hname found hfound hsheet
  obtain rfl := hsheet
  rcases h _ (symbolsOf?_name hnames hfound) with hempty | hlisted
  · exact absurd hempty hname
  · obtain ⟨hrow, -, hcomment⟩ := Sheet.mem_symbols.mp hlisted
    exact ⟨hrow, hcomment⟩

end Workbook

/-! ## Tables -/

/-- The column that a name and a type cell declare for a platform: none for a comment, and none for
a type cell that leaves the platform out. -/
def TableColumn.declared? (platform : Platform) (cell : String × String) : Option TableColumn :=
  match TypeCell.read cell.1 cell.2 with
  | .ok type => if type.includes platform then type.base?.map (⟨cell.1, ·⟩) else none
  | .error _ => none

/-- The columns that a platform keeps are those that the type cells declare for it. -/
theorem Column.map_kept_eq_declared {platform : Platform} {cells : List (String × String)}
    {columns : List Column} (h : List.Forall₂ Column.Declares cells columns) :
    (columns.filterMap (·.keptOn? platform)).map
        (fun column => (⟨column.name, column.base⟩ : TableColumn)) =
      cells.filterMap (TableColumn.declared? platform) := by
  induction h with
  | nil => rfl
  | @cons cell column cells columns hcolumn _ ih =>
    have hhead : (column.keptOn? platform).map
        (fun column => (⟨column.name, column.base⟩ : TableColumn)) =
          TableColumn.declared? platform cell := by
      obtain ⟨position, name, declared, type⟩ := column
      obtain ⟨rfl, rfl, hread⟩ := hcolumn
      rw [TableColumn.declared?, hread]
      cases type with
      | comment _ => simp [keptOn?, TypeCell.includes]
      | typed base nullable onServer onClient =>
        simp only [keptOn?, TypeCell.base?]
        split
        · rfl
        · rfl
    rw [List.filterMap_cons, List.filterMap_cons, ← hhead]
    cases column.keptOn? platform with
    | none => exact ih
    | some kept => exact congrArg _ ih

namespace TypedTable

/-- The table is the typed form of a sheet of the workbook: every column of the sheet has a type
cell, the columns are those that are declared for the platform, every row has its id and a value
of each column's type, and the values are those of the row's own cells. -/
structure WellTyped (workbook : Workbook) (platform : Platform) (sheet : Sheet)
    (table : TypedTable) : Prop where
  name_eq : table.name = sheet.name
  platform_eq : table.platform = platform
  columns_declared : ∃ typeRow, sheet.typeRow? = some typeRow ∧
    typeRow.length = sheet.columns.length ∧
    (∀ cell ∈ sheet.columns.zip typeRow, ∃ type, TypeCell.read cell.1 cell.2 = .ok type) ∧
    table.columns = (sheet.columns.zip typeRow).filterMap (TableColumn.declared? platform)
  ids_first : List.Forall₂ (fun row id => row.head? = some id) sheet.dataRows table.ids
  rows_fit : List.Forall₂
    (fun _ values => List.Forall₂ (fun column value => value.Fits workbook.Names column.base)
      table.columns values)
    sheet.dataRows table.rows
  rows_read : ∃ columns, sheet.schema = .ok columns ∧
    List.Forall₂
      (fun row => List.Forall₂ (KeptColumn.Reads workbook.symbolsOf? row)
        (columns.filterMap (·.keptOn? platform)))
      sheet.dataRows table.rows

theorem wellTyped_of_gives {workbook : Workbook} {platform : Platform} {sheet : Sheet}
    {columns : List Column} {table : TypedTable}
    (hnames : (workbook.sheets.map (·.name)).Nodup) (hshaped : sheet.Shaped)
    (hdata : sheet.isData = true)
    (hgives : sheet.Gives workbook.symbolsOf? platform columns table) :
    table.WellTyped workbook platform sheet := by
  obtain ⟨typeRow, htypeRow, hdeclares, -⟩ := Sheet.schema_eq_ok.mp hgives.schema_eq
  have htypeLength : typeRow.length = sheet.columns.length :=
    hshaped.row_length typeRow (List.mem_of_mem_head? htypeRow)
  have hparsed : ∀ cell ∈ sheet.columns.zip typeRow,
      ∃ type, TypeCell.read cell.1 cell.2 = .ok type := by
    intro cell hcell
    obtain ⟨column, -, hcolumn⟩ := Outcome.exists_of_mem_left hdeclares hcell
    exact ⟨column.type, hcolumn.read_eq⟩
  refine ⟨hgives.name_eq, hgives.platform_eq,
    ⟨typeRow, htypeRow, htypeLength, hparsed, ?_⟩, ?_, ?_, ?_⟩
  · rw [hgives.columns_eq, Column.map_kept_eq_declared hdeclares]
  · rw [hgives.ids_eq, List.forall₂_map_right_iff, List.forall₂_same]
    intro row hrow
    -- a row of a data sheet is as long as its columns, and so not empty
    have hlength := hshaped.row_length row (List.mem_of_mem_tail hrow)
    obtain ⟨others, hcolumns⟩ := Sheet.columns_eq_of_isData hdata
    rw [hcolumns] at hlength
    cases row with
    | nil => cases hlength
    | cons cell rest => rfl
  · refine hgives.rows_read.imp ?_
    intro row values hvalues
    rw [hgives.columns_eq, List.forall₂_map_left_iff]
    refine hvalues.imp ?_
    intro column value hreads
    exact (BaseType.fits_of_readLiteral hreads.literal_eq).imp
      fun _ _ => Workbook.names_of_symbolsOf? hnames
  · exact ⟨columns, hgives.schema_eq, hgives.rows_read⟩

end TypedTable

namespace Workbook

/-- Refining a merged workbook gives the well-typed form of each data sheet, in order. -/
theorem wellTyped_of_refine {workbook merged : Workbook} {platform : Platform}
    {tables : List TypedTable} (hmerge : workbook.merge.outcome = .ok merged)
    (hrefine : (merged.refine platform).outcome = .ok tables) :
    List.Forall₂ (TypedTable.WellTyped merged platform) merged.dataSheets tables := by
  obtain ⟨hnames, hshaped⟩ := shaped_of_merge hmerge
  refine (Outcome.forall₂_mem_left (refine_eq_ok.mp hrefine)).imp ?_
  rintro sheet table ⟨hsheet, htable⟩
  obtain ⟨hmem, hdata⟩ := List.mem_filter.mp hsheet
  obtain ⟨columns, hgives⟩ := Sheet.refine_eq_ok.mp htable
  exact TypedTable.wellTyped_of_gives hnames (hshaped sheet hmem) hdata hgives

/-! ### Two parts of one sheet, with an enum sheet between them -/

/-- The parts have a comment, a column for the client alone with a cell that is no number, and
empty cells in nullable columns. -/
def splitItems : Workbook where
  sheets := [
    { name := "Item_Weapon"
      columns := ["Id", "Grade", "Speed", "#Memo", "Price", "Pos"]
      rows := [
        ["int32_cs", "Enum_Grade?_s", "float?_s", "", "int64_c", "vector?_s"],
        ["1", "Rare", "1.5", "x", "unpriced", ""]] },
    { name := "Grade"
      columns := ["Enum", "Value", "Description"]
      rows := [["Common", "", ""], ["#Old", "", ""], ["Rare", "3", ""]] },
    { name := "Item_Armor"
      columns := ["Id", "Grade", "Speed", "#Memo", "Price", "Pos"]
      rows := [
        ["int32_cs", "Enum_Grade?_s", "float?_s", "", "int64_c", "vector?_s"],
        ["2", "", "", "y", "", "X=1 Y=2 Z=3"]] }]
  exportedAt := none

/-- The parts merged. -/
def mergedItems : Workbook where
  sheets := [
    { name := "Item"
      columns := ["Id", "Grade", "Speed", "#Memo", "Price", "Pos"]
      rows := [
        ["int32_cs", "Enum_Grade?_s", "float?_s", "", "int64_c", "vector?_s"],
        ["1", "Rare", "1.5", "x", "unpriced", ""],
        ["2", "", "", "y", "", "X=1 Y=2 Z=3"]] },
    { name := "Grade"
      columns := ["Enum", "Value", "Description"]
      rows := [["Common", "", ""], ["#Old", "", ""], ["Rare", "3", ""]] }]
  exportedAt := none

/-- The table of the merged sheet on the server. -/
def itemTables : List TypedTable := [
  { name := "Item"
    platform := .server
    columns := [⟨"Id", .int32⟩, ⟨"Grade", .enumeration "Grade"⟩, ⟨"Speed", .float⟩,
      ⟨"Pos", .vector⟩]
    rows := [
      [.int 1, .symbol "Rare", .float (.finite false 6755399441055744 (-52)),
        .composite "(X=0,Y=0,Z=0)"],
      [.int 2, .symbol "", .float (.zero false), .composite "X=1 Y=2 Z=3"]]
    ids := ["1", "2"]
    fingerprint := 3692517812602694924 }]

theorem itemTables_wellTyped :
    splitItems.merge.outcome = .ok mergedItems ∧
      (mergedItems.refine .server).outcome = .ok itemTables ∧
      List.Forall₂ (TypedTable.WellTyped mergedItems .server) mergedItems.dataSheets
        itemTables := by
  have hmerge : splitItems.merge.outcome = .ok mergedItems := by decide +kernel
  have hrefine : (mergedItems.refine .server).outcome = .ok itemTables := by decide +kernel
  exact ⟨hmerge, hrefine, wellTyped_of_refine hmerge hrefine⟩

end Workbook

end GameSheets

/-
  Ids as texts and as values.

  A sheet is refined only where the ids of its rows differ as texts.  A table that keeps the id
  column has their values, and texts that differ may have one value: `1` and `01` are one integer,
  `0` and `-0` are one number, and an empty cell of a nullable column has the value of its default.
  So the values differ exactly where no two texts of the table have one value, which is so

  1. in a column that keeps its texts: one of strings, of symbols, or of composites that are never
     left out (`KeptColumn.Reads.shown_eq`);
  2. in a column whose cells are written as their values are shown, unless it is one of floating
     point that has both zeros: values that are equal are shown alike, but for the two zeros
     (`Value.shown_eq_or_zeros`).
-/
import GameSheets.Proofs.Table.Symbols

namespace GameSheets

/-! ## Equal values -/

namespace Number.Binary64

theorem equals_comm (x y : Binary64) : x.equals y = y.equals x := by
  cases x <;> cases y <;> simp only [equals, Bool.and_comm, eq_comm]

/-- Equal numbers are the same, or both are zero. -/
theorem eq_or_zeros_of_equals {x y : Binary64} (h : x.equals y = true) :
    x = y ∨ ∃ m e n f, x = .finite m 0 e ∧ y = .finite n 0 f := by
  cases x with
  | finite m a e =>
    cases y with
    | finite n b f =>
      simp only [equals, Bool.or_eq_true, Bool.and_eq_true, decide_eq_true_eq] at h
      rcases h with ⟨rfl, rfl⟩ | ⟨⟨rfl, rfl⟩, rfl⟩
      · exact .inr ⟨m, e, n, f, rfl, rfl⟩
      · exact .inl rfl
    | infinite n => cases h
    | notANumber => cases h
  | infinite m =>
    cases y with
    | finite n b f => cases h
    | infinite n => exact .inl (congrArg infinite (of_decide_eq_true h))
    | notANumber => cases h
  | notANumber => cases h

end Number.Binary64

namespace Value

theorem equals_comm (value other : Value) : value.equals other = other.equals value := by
  cases value <;> cases other <;> simp only [equals, Number.Binary64.equals_comm, eq_comm]

/-- One is shown as zero, and the other as zero with a sign. -/
def ShownAsZeros (value other : Value) : Prop :=
  (value.shown = "0" ∧ other.shown = "-0") ∨ (value.shown = "-0" ∧ other.shown = "0")

/-- Equal values are shown alike, but for zeros of different signs. -/
theorem shown_eq_or_zeros {value other : Value} (h : value.equals other = true) :
    value.shown = other.shown ∨ (∃ x, value = .float x) ∧ value.ShownAsZeros other := by
  cases value with
  | float x =>
    cases other with
    | float y =>
      rcases Number.Binary64.eq_or_zeros_of_equals h with rfl | ⟨m, e, n, f, rfl, rfl⟩
      · exact .inl rfl
      · -- a zero is shown by its sign alone
        cases m <;> cases n
        · exact .inl rfl
        · exact .inr ⟨⟨_, rfl⟩, .inl ⟨rfl, rfl⟩⟩
        · exact .inr ⟨⟨_, rfl⟩, .inr ⟨rfl, rfl⟩⟩
        · exact .inl rfl
    | int _ | text _ | composite _ | symbol _ => cases h
  | int n =>
    cases other with
    | int _ => exact .inl (congrArg (fun k : Int => toString k) (of_decide_eq_true h))
    | float _ | text _ | composite _ | symbol _ => cases h
  | text shown =>
    cases other with
    | text _ => exact .inl (of_decide_eq_true h)
    | int _ | float _ | composite _ | symbol _ => cases h
  | composite shown =>
    cases other with
    | composite _ => exact .inl (of_decide_eq_true h)
    | int _ | float _ | text _ | symbol _ => cases h
  | symbol name =>
    cases other with
    | symbol _ => exact .inl (of_decide_eq_true h)
    | int _ | float _ | text _ | composite _ => cases h

end Value

/-! ## The id column -/

/-- The id column is the first that is kept, if it is. -/
theorem Sheet.kept_eq_cons {platform : Platform} {sheet : Sheet} {columns : List Column}
    (hschema : sheet.schema = .ok columns) {column : KeptColumn}
    (hcolumn : column ∈ columns.filterMap (·.keptOn? platform)) (hfirst : column.position = 0) :
    ∃ rest, columns.filterMap (·.keptOn? platform) = column :: rest := by
  obtain ⟨source, hsource, hkept⟩ := List.mem_filterMap.mp hcolumn
  obtain ⟨i, hi⟩ := List.mem_iff_getElem?.mp hsource
  obtain ⟨-, -, hposition, -⟩ := Column.keptOn?_eq_some.mp hkept
  -- a column stands at the place that its position tells
  obtain rfl : i = 0 := by
    rw [← position_of_getElem? hschema hi, ← hposition, hfirst]
  cases columns with
  | nil => cases hi
  | cons first others =>
    obtain rfl := Option.some.inj hi
    exact ⟨_, List.filterMap_cons_some hkept⟩

namespace KeptColumn

variable {symbolsOf? : String → Option (List String)}

/-- Values of the column are shown as the texts that were read. -/
def KeepsText (column : KeptColumn) : Prop :=
  column.base = .string ∨ (∃ sheet, column.base = .enumeration sheet) ∨
    column.base.isComposite = true ∧ column.nullable = false

theorem Reads.shown_eq {row : List String} {column : KeptColumn} {value : Value}
    (h : column.Reads symbolsOf? row value) (hkeeps : column.KeepsText) :
    value.shown = Sheet.cellAt row column.position := by
  have hread := h.literal_eq
  rcases hkeeps with hbase | ⟨sheet, hbase⟩ | ⟨hcomposite, hnullable⟩
  · -- the default of strings is the empty text, as the cell is
    have htext : column.textIn row = Sheet.cellAt row column.position := by
      rw [textIn, hbase]
      split
      · rename_i hempty
        exact hempty.symm
      · rfl
    rw [htext, hbase] at hread
    obtain rfl := Except.ok.inj hread
    rfl
  · rw [(h.symbol hbase).1]
    rfl
  · have htext : column.textIn row = Sheet.cellAt row column.position := by
      refine if_neg ?_
      intro hempty
      rw [h.nullable_of_empty hempty] at hnullable
      cases hnullable
    rw [htext] at hread
    cases hbase : column.base with
    | vector | rotator =>
      rw [hbase] at hread
      obtain ⟨rfl, -⟩ := BaseType.readComposite?_eq_some (LiteralFault.orInvalid_eq_ok.mp hread)
      rfl
    | int32 | int64 | float | double | string | enumeration _ =>
      rw [hbase] at hcomposite
      cases hcomposite

theorem Reads.unique {row : List String} {column : KeptColumn} {value other : Value}
    (h : column.Reads symbolsOf? row value) (hother : column.Reads symbolsOf? row other) :
    value = other :=
  Except.ok.inj (h.literal_eq.symm.trans hother.literal_eq)

/-- The column is one of floating point, and zero is among the texts with a sign and without. -/
def HasBothZeros (column : KeptColumn) (texts : List String) : Prop :=
  (column.base = .float ∨ column.base = .double) ∧ "0" ∈ texts ∧ "-0" ∈ texts

theorem KeepsText.not_hasBothZeros {column : KeptColumn} (h : column.KeepsText)
    (texts : List String) : ¬ column.HasBothZeros texts := by
  rintro ⟨hbase | hbase, -⟩
  all_goals
    rw [KeepsText, hbase] at h
    rcases h with h | ⟨sheet, h⟩ | ⟨h, -⟩ <;> cases h

/-- A column of floating point has the value of a text that is not empty, where it is a number. -/
theorem Reads.eq_float {row : List String} {column : KeptColumn} {value : Value}
    (h : column.Reads symbolsOf? row value) (hbase : column.base = .float ∨ column.base = .double)
    {text : String} (hcell : Sheet.cellAt row column.position = text) (htext : text ≠ "") :
    ∃ x, value = .float x ∧ Number.Binary64.ofText? text.toList = some x := by
  have hread : ∃ single, BaseType.readFloat? single text = some value := by
    have hliteral := h.literal_eq
    rw [textIn, hcell, if_neg htext] at hliteral
    rcases hbase with hbase | hbase
    · rw [hbase] at hliteral
      exact ⟨true, LiteralFault.orInvalid_eq_ok.mp hliteral⟩
    · rw [hbase] at hliteral
      exact ⟨false, LiteralFault.orInvalid_eq_ok.mp hliteral⟩
  obtain ⟨single, hread⟩ := hread
  obtain ⟨x, hx, rfl⟩ := Option.map_eq_some_iff.mp hread
  exact ⟨x, rfl, (Option.filter_eq_some_iff.mp hx).1⟩

theorem Reads.base_of_float {row : List String} {column : KeptColumn} {x : Number.Binary64}
    (h : column.Reads symbolsOf? row (.float x)) :
    column.base = .float ∨ column.base = .double := by
  have hfits := BaseType.fits_of_readLiteral h.literal_eq
  cases hbase : column.base with
  | float => exact .inl rfl
  | double => exact .inr rfl
  | int32 | int64 | vector | rotator | string | enumeration _ =>
    rw [hbase] at hfits
    exact hfits.elim

/-- The texts of both zeros are read as equal values. -/
theorem Reads.equals_of_zeros {row other : List String} {column : KeptColumn}
    {value another : Value} (h : column.Reads symbolsOf? row value)
    (hother : column.Reads symbolsOf? other another)
    (hbase : column.base = .float ∨ column.base = .double)
    (hcell : Sheet.cellAt row column.position = "0")
    (hcellOther : Sheet.cellAt other column.position = "-0") : value.equals another = true := by
  obtain ⟨x, rfl, hx⟩ := h.eq_float hbase hcell (by decide)
  obtain ⟨y, rfl, hy⟩ := hother.eq_float hbase hcellOther (by decide)
  obtain rfl : Number.Binary64.zero false = x := Option.some.inj hx
  obtain rfl : Number.Binary64.zero true = y := Option.some.inj hy
  rfl

end KeptColumn

/-! ## Ids of a table -/

namespace TypedTable

/-- The first value of each row. -/
def firstValues (table : TypedTable) : List Value :=
  table.rows.filterMap List.head?

/-- The first values of different rows are different. -/
def ValuesDiffer (table : TypedTable) : Prop :=
  table.firstValues.Pairwise fun value other => value.equals other = false

/-- The table has its ids in the given column, which comes first: the texts differ, the values are
those of the texts, and the values differ exactly where no two texts have one value. -/
structure Identifies (symbolsOf? : String → Option (List String)) (sheet : Sheet)
    (table : TypedTable) (column : KeptColumn) : Prop where
  column_first : table.columns.head? = some ⟨column.name, column.base⟩
  ids_eq : table.ids = sheet.dataRows.map (Sheet.cellAt · column.position)
  ids_nodup : table.ids.Nodup
  values_read : List.Forall₂ (fun row value => column.Reads symbolsOf? row value) sheet.dataRows
    table.firstValues
  values_differ_iff : table.ValuesDiffer ↔
    ∀ row ∈ sheet.dataRows, ∀ other ∈ sheet.dataRows, ∀ value another,
      column.Reads symbolsOf? row value → column.Reads symbolsOf? other another →
        value.equals another = true →
        Sheet.cellAt row column.position = Sheet.cellAt other column.position
  values_differ_of_keepsText : column.KeepsText → table.ValuesDiffer
  values_differ_iff_of_shown : table.firstValues.map (·.shown) = table.ids →
    (table.ValuesDiffer ↔ ¬ column.HasBothZeros table.ids)

/-- The first values of rows that are read are those of the first column. -/
theorem forall₂_head? {symbolsOf? : String → Option (List String)} {column : KeptColumn}
    {rest : List KeptColumn} {rows : List (List String)} {values : List (List Value)}
    (h : List.Forall₂ (fun row => List.Forall₂ (KeptColumn.Reads symbolsOf? row) (column :: rest))
      rows values) :
    List.Forall₂ (fun row value => column.Reads symbolsOf? row value) rows
      (values.filterMap List.head?) := by
  induction h with
  | nil => exact .nil
  | cons hrow _ ih =>
    obtain ⟨value, others, hvalue, -, rfl⟩ := List.forall₂_cons_left_iff.mp hrow
    rw [List.filterMap_cons_some List.head?_cons]
    exact .cons hvalue ih

section

variable {symbolsOf? : String → Option (List String)} {rows : List (List String)}
  {table : TypedTable} {column : KeptColumn}
  (hread : List.Forall₂ (fun row value => column.Reads symbolsOf? row value) rows table.firstValues)

include hread

/-- Where the texts of all rows differ, the values do where texts of one value are one text. -/
theorem valuesDiffer_iff (hnodup : (rows.map (Sheet.cellAt · column.position)).Nodup) :
    table.ValuesDiffer ↔
      ∀ row ∈ rows, ∀ other ∈ rows, ∀ value another,
        column.Reads symbolsOf? row value → column.Reads symbolsOf? other another →
          value.equals another = true →
          Sheet.cellAt row column.position = Sheet.cellAt other column.position := by
  rw [ValuesDiffer, Outcome.pairwise_iff_of_forall₂ (fun _ _ _ h hother => h.unique hother) hread]
  constructor
  · intro hdiffer row hrow other hother value another hvalue hanother hequal
    by_contra hcells
    -- rows with different texts are different, and one of them comes first
    have hne : row ≠ other := fun h => hcells (congrArg (Sheet.cellAt · column.position) h)
    have hsymm : Std.Symm fun row other => ∀ value another, column.Reads symbolsOf? row value →
        column.Reads symbolsOf? other another → value.equals another = false :=
      ⟨fun _ _ h value another hvalue hanother => by
        rw [Value.equals_comm]
        exact h another value hanother hvalue⟩
    rw [hdiffer.forall hrow hother hne value another hvalue hanother] at hequal
    cases hequal
  · intro hcells
    refine (List.Pairwise.and_mem.mp (List.pairwise_map.mp hnodup)).imp ?_
    rintro row other ⟨hrow, hother, hne⟩ value another hvalue hanother
    exact Bool.eq_false_iff.mpr fun hequal =>
      hne (hcells row hrow other hother value another hvalue hanother hequal)

/-- The value of a row is shown as its text, where all values are shown as the texts. -/
theorem shown_eq_of_map
    (hshown : table.firstValues.map (·.shown) = rows.map (Sheet.cellAt · column.position))
    {row : List String} (hrow : row ∈ rows) {value : Value}
    (hvalue : column.Reads symbolsOf? row value) :
    value.shown = Sheet.cellAt row column.position := by
  obtain ⟨result, hpair, hresult⟩ := Outcome.exists_mem_zip hread hrow
  obtain rfl := hvalue.unique hresult
  rw [← List.forall₂_eq_eq_eq, List.forall₂_map_left_iff, List.forall₂_map_right_iff] at hshown
  exact (List.forall₂_iff_zip.mp hshown.flip).2 hpair

/-- Where values are shown as the texts, they differ unless both zeros are among them. -/
theorem valuesDiffer_iff_of_shown
    (hnodup : (rows.map (Sheet.cellAt · column.position)).Nodup)
    (hshown : table.firstValues.map (·.shown) = rows.map (Sheet.cellAt · column.position)) :
    table.ValuesDiffer ↔ ¬ column.HasBothZeros (rows.map (Sheet.cellAt · column.position)) := by
  have htexts : ∀ row ∈ rows, ∀ value, column.Reads symbolsOf? row value →
      value.shown = Sheet.cellAt row column.position :=
    fun _ hrow _ hvalue => shown_eq_of_map hread hshown hrow hvalue
  rw [valuesDiffer_iff hread hnodup]
  constructor
  · rintro hcells ⟨hbase, hplain, hsigned⟩
    obtain ⟨row, hrow, hcell⟩ := List.mem_map.mp hplain
    obtain ⟨other, hother, hcellOther⟩ := List.mem_map.mp hsigned
    obtain ⟨value, -, hvalue⟩ := Outcome.exists_of_mem_left hread hrow
    obtain ⟨another, -, hanother⟩ := Outcome.exists_of_mem_left hread hother
    have hequal := hvalue.equals_of_zeros hanother hbase hcell hcellOther
    have hsame := hcells row hrow other hother value another hvalue hanother hequal
    rw [hcell, hcellOther] at hsame
    exact absurd hsame (by decide)
  · intro hzeros row hrow other hother value another hvalue hanother hequal
    have hcell := htexts row hrow value hvalue
    have hcellOther := htexts other hother another hanother
    rcases Value.shown_eq_or_zeros hequal with hsame | ⟨⟨x, rfl⟩, hshownZeros⟩
    · rw [← hcell, ← hcellOther, hsame]
    · -- values of floating point alone are equal and shown differently
      refine absurd ⟨hvalue.base_of_float, ?_⟩ hzeros
      rw [Value.ShownAsZeros, hcell, hcellOther] at hshownZeros
      rcases hshownZeros with ⟨hplain, hsigned⟩ | ⟨hsigned, hplain⟩
      · exact ⟨hplain ▸ List.mem_map_of_mem hrow, hsigned ▸ List.mem_map_of_mem hother⟩
      · exact ⟨hplain ▸ List.mem_map_of_mem hother, hsigned ▸ List.mem_map_of_mem hrow⟩

end

theorem identifies_of_gives {symbolsOf? : String → Option (List String)} {platform : Platform}
    {sheet : Sheet} {columns : List Column} {table : TypedTable}
    (hgives : sheet.Gives symbolsOf? platform columns table) {column : KeptColumn}
    (hcolumn : column ∈ columns.filterMap (·.keptOn? platform)) (hfirst : column.position = 0) :
    table.Identifies symbolsOf? sheet column := by
  obtain ⟨rest, hkept⟩ := Sheet.kept_eq_cons hgives.schema_eq hcolumn hfirst
  have hread : List.Forall₂ (fun row value => column.Reads symbolsOf? row value) sheet.dataRows
      table.firstValues :=
    forall₂_head? (hkept ▸ hgives.rows_read)
  have hids : table.ids = sheet.dataRows.map (Sheet.cellAt · column.position) := by
    rw [hgives.ids_eq, hfirst]
  have hnodup : (sheet.dataRows.map (Sheet.cellAt · column.position)).Nodup :=
    hids ▸ hgives.ids_nodup
  have hshown : table.firstValues.map (·.shown) = table.ids →
      (table.ValuesDiffer ↔ ¬ column.HasBothZeros table.ids) := by
    rw [hids]
    exact valuesDiffer_iff_of_shown hread hnodup
  refine ⟨?_, hids, hgives.ids_nodup, hread, valuesDiffer_iff hread hnodup, ?_, hshown⟩
  · rw [hgives.columns_eq, hkept]
    rfl
  · intro hkeeps
    refine (hshown ?_).mpr (hkeeps.not_hasBothZeros _)
    rw [hids]
    exact (Outcome.map_eq_map hread fun _ _ hreads => (hreads.shown_eq hkeeps).symm).symm

end TypedTable

namespace Workbook

/-- Where a workbook is refined, each table that keeps the id column of its sheet has the ids of all
rows there, whatever parts of the sheet they come from. -/
theorem identifies_of_refine {workbook : Workbook} {platform : Platform}
    {tables : List TypedTable} (hrefine : (workbook.refine platform).outcome = .ok tables) :
    List.Forall₂
      (fun sheet table => ∀ columns column, sheet.schema = .ok columns →
        column ∈ columns.filterMap (·.keptOn? platform) → column.position = 0 →
        table.Identifies workbook.symbolsOf? sheet column)
      workbook.dataSheets tables := by
  refine (refine_eq_ok.mp hrefine).imp ?_
  intro sheet table htable columns column hschema hcolumn hfirst
  obtain ⟨others, hgives⟩ := Sheet.refine_eq_ok.mp htable
  obtain rfl := Except.ok.inj (hgives.schema_eq.symm.trans hschema)
  exact TypedTable.identifies_of_gives hgives hcolumn hfirst

/-! ### Two parts of a sheet with the ids of their rows -/

/-- A part with one row. -/
def powerPart (name id power : String) : Sheet where
  name := name
  columns := ["Id", "Power"]
  rows := [["int32_cs", "int32_cs"], [id, power]]

/-- Two parts, with the given ids. -/
def powerParts (first second : String) : Workbook where
  sheets := [powerPart "Item_Weapon" first "10", powerPart "Item_Armor" second "20"]
  exportedAt := none

/-- The sheet of both parts. -/
def powerSheet (first second : String) : Sheet where
  name := "Item"
  columns := ["Id", "Power"]
  rows := [["int32_cs", "int32_cs"], [first, "10"], [second, "20"]]

/-- The parts merged. -/
def powers (first second : String) : Workbook where
  sheets := [powerSheet first second]
  exportedAt := none

/-- The columns of the sheet. -/
def powerColumns : List Column := [
  ⟨0, "Id", "int32_cs", .typed .int32 false true true⟩,
  ⟨1, "Power", "int32_cs", .typed .int32 false true true⟩]

/-- The column of the ids on the server. -/
def powerIds : KeptColumn :=
  ⟨0, "Id", "int32_cs", .int32, false⟩

/-- The table of two rows with different ids. -/
def powerTable : TypedTable where
  name := "Item"
  platform := .server
  columns := [⟨"Id", .int32⟩, ⟨"Power", .int32⟩]
  rows := [[.int 1, .int 10], [.int 2, .int 20]]
  ids := ["1", "2"]
  fingerprint := 5170385772283826967

theorem powers_identified :
    (powerParts "1" "2").merge.outcome = .ok (powers "1" "2") ∧
      ((powers "1" "2").refine .server).outcome = .ok [powerTable] ∧
      powerTable.Identifies (powers "1" "2").symbolsOf? (powerSheet "1" "2") powerIds ∧
      powerTable.ValuesDiffer := by
  have hmerge : (powerParts "1" "2").merge.outcome = .ok (powers "1" "2") := by decide +kernel
  have hrefine : ((powers "1" "2").refine .server).outcome = .ok [powerTable] := by
    decide +kernel
  have hsheets : (powers "1" "2").dataSheets = [powerSheet "1" "2"] := by decide +kernel
  have hschema : (powerSheet "1" "2").schema = .ok powerColumns := by decide +kernel
  have htables := identifies_of_refine hrefine
  rw [hsheets] at htables
  have hidentifies := (List.forall₂_cons.mp htables).1 powerColumns powerIds hschema
    (by decide) rfl
  have hzeros : ¬ powerIds.HasBothZeros powerTable.ids := fun h => absurd h.2.1 (by decide)
  have hdiffer := (hidentifies.values_differ_iff_of_shown (by decide +kernel)).mpr hzeros
  exact ⟨hmerge, hrefine, hidentifies, hdiffer⟩

/-- The table of two rows whose ids have one value. -/
def respelledTable : TypedTable where
  name := "Item"
  platform := .server
  columns := [⟨"Id", .int32⟩, ⟨"Power", .int32⟩]
  rows := [[.int 1, .int 10], [.int 1, .int 20]]
  ids := ["1", "01"]
  fingerprint := 15216420469188278150

/-- Ids that differ in leading zeros have one value. -/
theorem powers_respelled :
    (powerParts "1" "01").merge.outcome = .ok (powers "1" "01") ∧
      ((powers "1" "01").refine .server).outcome = .ok [respelledTable] ∧
      respelledTable.columns.head? = some ⟨"Id", .int32⟩ ∧
      respelledTable.firstValues = [.int 1, .int 1] ∧ ¬ respelledTable.ValuesDiffer := by
  refine ⟨by decide +kernel, by decide +kernel, rfl, rfl, ?_⟩
  intro hdiffer
  cases (List.pairwise_cons.mp hdiffer).1 (.int 1) List.mem_cons_self

end Workbook

end GameSheets

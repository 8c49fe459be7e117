/-
  Cells that are hidden from a platform.

  A type cell hides its column from a platform when it is a comment or its letters leave the
  platform out.  Two sheets are twins when they differ at most in hidden cells behind the type row
  and behind the first cell of a row.  Refining does not tell twins apart: the schema does not look
  at those rows, a row is read at kept columns only, none of which is hidden, and its id is its
  first cell.
-/
import GameSheets.Proofs.Table.Refining
import GameSheets.Proofs.TwoRuns

namespace GameSheets

namespace Sheet

/-- The type cell at the position hides its column from the platform. -/
def Hides (platform : Platform) (sheet : Sheet) (position : Nat) : Prop :=
  ∃ typeRow name cell type, sheet.typeRow? = some typeRow ∧
    sheet.columns[position]? = some name ∧ typeRow[position]? = some cell ∧
    TypeCell.read name cell = .ok type ∧ type.includes platform = false

/-- Rows of one length that differ at most in hidden cells behind the first. -/
structure TwinRows (hidden : Nat → Prop) (row twin : List String) : Prop where
  length_eq : twin.length = row.length
  hidden_of_ne : ∀ position, twin[position]? ≠ row[position]? → position ≠ 0 ∧ hidden position

/-- Sheets that differ at most in hidden cells of the rows behind the type row, and not at all
where they hold no data. -/
structure Twins (hidden : Nat → Prop) (sheet twin : Sheet) : Prop where
  name_eq : twin.name = sheet.name
  columns_eq : twin.columns = sheet.columns
  typeRow_eq : twin.typeRow? = sheet.typeRow?
  rows_twin : List.Forall₂ (TwinRows hidden) sheet.dataRows twin.dataRows
  eq_of_not_data : sheet.isData = false → twin = sheet

/-! ## Rows -/

namespace TwinRows

variable {hidden : Nat → Prop} {row twin : List String}

theorem refl (hidden : Nat → Prop) (row : List String) : TwinRows hidden row row :=
  ⟨rfl, fun _ hne => absurd rfl hne⟩

theorem imp {others : Nat → Prop} (himp : ∀ position, hidden position → others position)
    (h : TwinRows hidden row twin) : TwinRows others row twin := by
  refine ⟨h.length_eq, ?_⟩
  intro position hne
  obtain ⟨hbehind, hhidden⟩ := h.hidden_of_ne position hne
  exact ⟨hbehind, himp position hhidden⟩

/-- Cells that are not hidden are the same, and so are first cells. -/
theorem cellAt_eq (h : TwinRows hidden row twin) {position : Nat}
    (hvisible : position ≠ 0 → ¬ hidden position) :
    cellAt twin position = cellAt row position := by
  have hcell : twin[position]? = row[position]? := by
    by_contra hne
    obtain ⟨hbehind, hhidden⟩ := h.hidden_of_ne position hne
    exact hvisible hbehind hhidden
  rw [cellAt, cellAt, hcell]

/-- The first cell is never hidden. -/
theorem cellAt_zero (h : TwinRows hidden row twin) : cellAt twin 0 = cellAt row 0 :=
  h.cellAt_eq fun hbehind => absurd rfl hbehind

/-- Where nothing is hidden, twin rows are the same. -/
theorem eq_of_visible (h : TwinRows hidden row twin) (hvisible : ∀ position, ¬ hidden position) :
    twin = row := by
  refine List.ext_getElem? ?_
  intro position
  by_contra hne
  exact hvisible position (h.hidden_of_ne position hne).2

end TwinRows

/-- Where nothing is hidden, lists of twin rows are the same. -/
theorem eq_of_forall₂_twinRows {hidden : Nat → Prop} {rows twins : List (List String)}
    (h : List.Forall₂ (TwinRows hidden) rows twins) (hvisible : ∀ position, ¬ hidden position) :
    twins = rows := by
  induction h with
  | nil => rfl
  | cons hrow _ ih => rw [hrow.eq_of_visible hvisible, ih]

/-! ## Sheets -/

namespace Twins

variable {hidden : Nat → Prop} {sheet twin : Sheet}

theorem refl (hidden : Nat → Prop) (sheet : Sheet) : Twins hidden sheet sheet :=
  ⟨rfl, rfl, rfl, List.forall₂_same.mpr fun row _ => .refl hidden row, fun _ => rfl⟩

theorem imp {others : Nat → Prop} (himp : ∀ position, hidden position → others position)
    (h : Twins hidden sheet twin) : Twins others sheet twin :=
  ⟨h.name_eq, h.columns_eq, h.typeRow_eq, h.rows_twin.imp fun _ _ => .imp himp,
    h.eq_of_not_data⟩

theorem kind_eq (h : Twins hidden sheet twin) : twin.kind = sheet.kind :=
  kind_congr (congrArg isComment h.name_eq) h.columns_eq

theorem isEnumeration_eq (h : Twins hidden sheet twin) :
    twin.isEnumeration = sheet.isEnumeration := by
  rw [isEnumeration, isEnumeration, h.kind_eq]

theorem isData_eq (h : Twins hidden sheet twin) : twin.isData = sheet.isData := by
  rw [isData, isData, h.kind_eq]

/-- Enum sheets hold no data, and so twins among them are the same. -/
theorem eq_of_isEnumeration (h : Twins hidden sheet twin) (henum : sheet.isEnumeration = true) :
    twin = sheet := by
  refine h.eq_of_not_data ?_
  rw [isEnumeration, beq_iff_eq] at henum
  rw [isData, henum]
  rfl

/-- Rows of twins have the same lengths. -/
theorem map_length_rows (h : Twins hidden sheet twin) :
    twin.rows.map List.length = sheet.rows.map List.length := by
  have hbehind : sheet.dataRows.map List.length = twin.dataRows.map List.length :=
    Outcome.map_eq_map h.rows_twin fun _ _ hrow => hrow.length_eq.symm
  rw [sheet.rows_eq_append, twin.rows_eq_append, h.typeRow_eq, List.map_append, List.map_append,
    hbehind]

/-- Twins have as many rows. -/
theorem rows_length (h : Twins hidden sheet twin) : twin.rows.length = sheet.rows.length := by
  simpa using congrArg List.length h.map_length_rows

/-- The schema depends on the name, the columns and the type row alone. -/
theorem schema_eq (h : Twins hidden sheet twin) : twin.schema = sheet.schema := by
  unfold schema
  rw [h.name_eq, h.columns_eq, h.typeRow_eq]

end Twins

/-- A column that a platform keeps is not hidden from it. -/
theorem not_hides_of_kept {platform : Platform} {sheet : Sheet} {columns : List Column}
    (hschema : sheet.schema = .ok columns) {kept : KeptColumn}
    (hkept : kept ∈ columns.filterMap (·.keptOn? platform)) :
    ¬ sheet.Hides platform kept.position := by
  obtain ⟨column, hcolumn, hkeptOn⟩ := List.mem_filterMap.mp hkept
  obtain ⟨hincludes, -, hposition, -⟩ := Column.keptOn?_eq_some.mp hkeptOn
  obtain ⟨typeRow, htypeRow, hdeclares, -⟩ := schema_eq_ok.mp hschema
  obtain ⟨i, hi⟩ := List.mem_iff_getElem?.mp hcolumn
  obtain ⟨cell, hcell, hdeclared⟩ := Outcome.exists_of_getElem?_right hdeclares hi
  obtain ⟨hname, htypeCell⟩ := List.getElem?_zip_eq_some.mp hcell
  rintro ⟨otherRow, name, written, type, hotherRow, hnameAt, hcellAt, hread, hexcludes⟩
  obtain rfl := Option.some.inj (htypeRow.symm.trans hotherRow)
  rw [hposition, position_of_getElem? hschema hi] at hnameAt hcellAt
  obtain rfl := Option.some.inj (hname.symm.trans hnameAt)
  obtain rfl := Option.some.inj (htypeCell.symm.trans hcellAt)
  obtain rfl := Except.ok.inj (hdeclared.read_eq.symm.trans hread)
  rw [hincludes] at hexcludes
  cases hexcludes

end Sheet

/-! ## Refining -/

variable {symbolsOf? : String → Option (List String)}

/-- A row is read at the columns that are read, and at its first cell. -/
theorem KeptColumn.readAll_congr {hidden : Nat → Prop} {row twin : List String}
    (h : Sheet.TwinRows hidden row twin) {sheet : String} {columns : List KeptColumn}
    (hvisible : ∀ column ∈ columns, ¬ hidden column.position) :
    readAll symbolsOf? sheet twin columns = readAll symbolsOf? sheet row columns := by
  induction columns with
  | nil => rfl
  | cons column rest ih =>
    obtain ⟨hhead, hrest⟩ := List.forall_mem_cons.mp hvisible
    have hread : column.read symbolsOf? sheet twin = column.read symbolsOf? sheet row := by
      unfold read
      rw [h.cellAt_zero, h.cellAt_eq fun _ => hhead]
    rw [readAll, readAll, hread, ih hrest]

namespace Sheet

/-- Twin rows are read alike where no column that is read is hidden. -/
theorem readRows_congr {hidden : Nat → Prop} {sheet : String} {kept : List KeptColumn}
    {seen : List String} {rows twins : List (List String)}
    (h : List.Forall₂ (TwinRows hidden) rows twins)
    (hvisible : ∀ column ∈ kept, ¬ hidden column.position) :
    readRows symbolsOf? sheet kept seen twins = readRows symbolsOf? sheet kept seen rows := by
  induction h generalizing seen with
  | nil => rfl
  | cons hrow _ ih =>
    rw [readRows, readRows, hrow.cellAt_zero, KeptColumn.readAll_congr hrow hvisible, ih]

theorem map_id_congr {hidden : Nat → Prop} {rows twins : List (List String)}
    (h : List.Forall₂ (TwinRows hidden) rows twins) :
    twins.map (cellAt · 0) = rows.map (cellAt · 0) := by
  induction h with
  | nil => rfl
  | cons hrow _ ih => rw [List.map_cons, List.map_cons, ih, hrow.cellAt_zero]

/-- Refining does not tell a sheet from one that differs in cells hidden from the platform. -/
theorem refine_congr {platform : Platform} {sheet twin : Sheet}
    (h : Twins (sheet.Hides platform) sheet twin) :
    twin.refine symbolsOf? platform = sheet.refine symbolsOf? platform := by
  unfold refine
  rw [h.schema_eq, h.name_eq, map_id_congr h.rows_twin]
  refine Reported.bind_congr fun columns hcolumns => ?_
  have hschema : sheet.schema = .ok columns := Outcome.mapError_eq_ok.mp hcolumns
  refine Reported.bind_congr fun _ _ => ?_
  dsimp only
  rw [readRows_congr h.rows_twin fun _ => not_hides_of_kept hschema]

end Sheet

end GameSheets

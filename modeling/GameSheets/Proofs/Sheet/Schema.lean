/-
  What a schema says of its sheet.

  The columns of a schema are the named columns of the sheet that have a type cell, in order: each
  carries its name, its type cell as written and as read, and the position of its cells in a row.
  Positions are counted up from zero, so no two columns share one, and no two kept columns do.
-/
import Mathlib.Data.List.Forall2
import Mathlib.Data.List.Nodup
import GameSheets.Proofs.Outcome
import GameSheets.Sheet.Schema

namespace GameSheets

namespace Column

/-- The column is the one that a name and a type cell declare. -/
structure Declares (cell : String × String) (column : Column) : Prop where
  name_eq : column.name = cell.1
  declared_eq : column.declared = cell.2
  read_eq : TypeCell.read cell.1 cell.2 = .ok column.type

/-- Reading succeeds with one column for each cell, at positions counted up from the first. -/
theorem readAll_eq_ok {position : Nat} {cells : List (String × String)} {columns : List Column} :
    readAll position cells = .ok columns ↔
      List.Forall₂ Declares cells columns ∧
        columns.map (·.position) = List.range' position cells.length := by
  induction cells generalizing position columns with
  | nil =>
    rw [readAll, List.forall₂_nil_left_iff]
    constructor
    · intro h
      obtain rfl := Except.ok.inj h
      exact ⟨rfl, rfl⟩
    · rintro ⟨rfl, -⟩
      rfl
  | cons cell rest ih =>
    obtain ⟨name, declared⟩ := cell
    rw [readAll, List.forall₂_cons_left_iff]
    constructor
    · intro h
      cases htype : TypeCell.read name declared with
      | error cause => rw [htype] at h; cases h
      | ok type =>
        rw [htype] at h
        cases hrest : readAll (position + 1) rest with
        | error cause => simp only [hrest] at h; cases h
        | ok others =>
          simp only [hrest] at h
          obtain rfl := Except.ok.inj h
          obtain ⟨hdeclares, hpositions⟩ := ih.mp hrest
          refine ⟨⟨_, others, ⟨rfl, rfl, htype⟩, hdeclares, rfl⟩, ?_⟩
          rw [List.map_cons, hpositions, List.length_cons, List.range'_succ]
    · rintro ⟨⟨column, others, hcolumn, hothers, rfl⟩, hpositions⟩
      rw [List.map_cons, List.length_cons, List.range'_succ, List.cons.injEq] at hpositions
      have hrest := ih.mpr ⟨hothers, hpositions.2⟩
      obtain ⟨columnPosition, columnName, columnDeclared, type⟩ := column
      obtain ⟨rfl, rfl, hread⟩ := hcolumn
      obtain ⟨rfl, -⟩ := hpositions
      simp only [hread, hrest]

/-- Reading fails with the error of the first type cell that cannot be read. -/
theorem readAll_eq_error {position : Nat} {cells : List (String × String)} {cause : TypeCellError} :
    readAll position cells = .error cause ↔
      (cells.mapM fun cell => TypeCell.read cell.1 cell.2) = .error cause := by
  induction cells generalizing position with
  | nil =>
    constructor
    · rintro ⟨⟩
    · rintro ⟨⟩
  | cons cell rest ih =>
    obtain ⟨name, declared⟩ := cell
    rw [readAll, List.mapM_cons]
    cases hread : TypeCell.read name declared with
    | error fault =>
      show Except.error fault = .error cause ↔ Except.error fault = .error cause
      rw [Except.error.injEq, Except.error.injEq]
    | ok type =>
      have hrest : readAll (position + 1) rest = .error cause ↔
          (rest.mapM fun cell => TypeCell.read cell.1 cell.2) = .error cause := ih
      have hpass : (rest.mapM fun cell => TypeCell.read cell.1 cell.2) = .error cause ↔
          ((rest.mapM fun cell => TypeCell.read cell.1 cell.2) >>=
            fun types => pure (type :: types)) = .error cause :=
        Outcome.bind_pure_eq_error.symm
      refine Iff.trans ?_ (hrest.trans hpass)
      cases readAll (position + 1) rest with
      | error fault => exact Iff.rfl
      | ok columns =>
        constructor
        · rintro ⟨⟩
        · rintro ⟨⟩

/-- What a platform keeps of a column: a typed one that includes the platform. -/
theorem keptOn?_eq_some {platform : Platform} {column : Column} {kept : KeptColumn} :
    column.keptOn? platform = some kept ↔
      column.type.includes platform = true ∧ column.type.base? = some kept.base ∧
        kept.position = column.position ∧ kept.name = column.name ∧
        kept.declared = column.declared ∧ kept.nullable = column.type.isNullable := by
  obtain ⟨position, name, declared, type⟩ := column
  cases type with
  | comment cell => simp [keptOn?, TypeCell.includes]
  | typed base nullable onServer onClient =>
    obtain ⟨keptPosition, keptName, keptDeclared, keptBase, keptNullable⟩ := kept
    by_cases h : (TypeCell.typed base nullable onServer onClient).includes platform = true
    · simp only [keptOn?, h, if_true, TypeCell.base?, TypeCell.isNullable, Option.some.injEq,
        KeptColumn.mk.injEq, true_and]
      grind
    · simp [keptOn?, h]

/-- Kept columns stand in the order of the columns, at the same positions. -/
theorem kept_positions_sublist (platform : Platform) (columns : List Column) :
    ((columns.filterMap (·.keptOn? platform)).map (·.position)).Sublist
      (columns.map (·.position)) := by
  induction columns with
  | nil => exact .slnil
  | cons column rest ih =>
    cases hkept : column.keptOn? platform with
    | none =>
      rw [List.filterMap_cons_none hkept, List.map_cons]
      exact ih.cons _
    | some kept =>
      rw [List.filterMap_cons_some hkept, List.map_cons, List.map_cons,
        (keptOn?_eq_some.mp hkept).2.2.1]
      exact ih.cons_cons _

/-- Columns at different positions are kept as different columns. -/
theorem nodup_kept {platform : Platform} {columns : List Column}
    (h : (columns.map (·.position)).Nodup) :
    ((columns.filterMap (·.keptOn? platform)).map (·.position)).Nodup :=
  h.sublist (kept_positions_sublist platform columns)

end Column

namespace Sheet

/-- A schema is the reading of the type row, cell by cell. -/
theorem schema_eq_ok {sheet : Sheet} {columns : List Column} :
    sheet.schema = .ok columns ↔
      ∃ typeRow, sheet.typeRow? = some typeRow ∧
        List.Forall₂ Column.Declares (sheet.columns.zip typeRow) columns ∧
        columns.map (·.position) = List.range columns.length := by
  unfold schema
  cases htypes : sheet.typeRow? with
  | none => simp
  | some typeRow =>
    have hread : Column.readAll 0 (sheet.columns.zip typeRow) = .ok columns ↔
        List.Forall₂ Column.Declares (sheet.columns.zip typeRow) columns ∧
          columns.map (·.position) = List.range columns.length := by
      rw [Column.readAll_eq_ok, List.range_eq_range']
      constructor
      · rintro ⟨hdeclares, hpositions⟩
        exact ⟨hdeclares, hdeclares.length_eq ▸ hpositions⟩
      · rintro ⟨hdeclares, hpositions⟩
        exact ⟨hdeclares, hdeclares.length_eq ▸ hpositions⟩
    simp only [Option.some.injEq, exists_eq_left']
    rw [← hread]
    cases Column.readAll 0 (sheet.columns.zip typeRow) with
    | error cause => simp
    | ok others => simp

/-- A sheet has no schema where it has no type row, or else where a type cell cannot be read: the
first from the left is the error. -/
theorem schema_eq_error {sheet : Sheet} {cause : SchemaError} :
    sheet.schema = .error cause ↔
      sheet.typeRow? = none ∧ cause = .noTypeRow sheet.name ∨
        ∃ typeRow fault, sheet.typeRow? = some typeRow ∧
          ((sheet.columns.zip typeRow).mapM fun cell => TypeCell.read cell.1 cell.2) =
            .error fault ∧
          cause = .typeCell sheet.name fault := by
  unfold schema
  cases htypes : sheet.typeRow? with
  | none => simp [eq_comm]
  | some typeRow =>
    have hread : ∀ fault,
        ((sheet.columns.zip typeRow).mapM fun cell => TypeCell.read cell.1 cell.2) = .error fault ↔
          Column.readAll 0 (sheet.columns.zip typeRow) = .error fault :=
      fun _ => Column.readAll_eq_error.symm
    cases hcells : Column.readAll 0 (sheet.columns.zip typeRow) with
    | error fault =>
      have hfirst := (hread fault).mpr hcells
      simp [hcells, hfirst, eq_comm]
    | ok columns =>
      have hnone : ∀ fault, ((sheet.columns.zip typeRow).mapM fun cell =>
          TypeCell.read cell.1 cell.2) ≠ .error fault := by
        intro fault h
        rw [hread, hcells] at h
        cases h
      simp [hcells, hnone]

/-- A column of the schema is one of the sheet's columns, with the type cell that stands under
it. -/
theorem declares_of_getElem? {sheet : Sheet} {columns : List Column} {position : Nat}
    {column : Column} (hschema : sheet.schema = .ok columns)
    (hcolumn : columns[position]? = some column) :
    sheet.columns[position]? = some column.name ∧
      sheet.typeRow?.bind (·[position]?) = some column.declared ∧
      TypeCell.read column.name column.declared = .ok column.type := by
  obtain ⟨typeRow, htypeRow, hdeclares, -⟩ := schema_eq_ok.mp hschema
  obtain ⟨cell, hcell, hdeclared⟩ := Outcome.exists_of_getElem?_right hdeclares hcolumn
  obtain ⟨hname, htype⟩ := List.getElem?_zip_eq_some.mp hcell
  rw [hdeclared.name_eq, hdeclared.declared_eq, htypeRow]
  exact ⟨hname, htype, hdeclared.read_eq⟩

/-- A column of the sheet with a type cell under it is one of the schema. -/
theorem exists_column_of_cell {sheet : Sheet} {columns : List Column} {position : Nat}
    {name cell : String} (hschema : sheet.schema = .ok columns)
    (hname : sheet.columns[position]? = some name)
    (hcell : sheet.typeRow?.bind (·[position]?) = some cell) :
    ∃ column, columns[position]? = some column ∧ column.name = name ∧ column.declared = cell := by
  obtain ⟨typeRow, htypeRow, hdeclares, -⟩ := schema_eq_ok.mp hschema
  rw [htypeRow, Option.bind_some] at hcell
  have hzip : (sheet.columns.zip typeRow)[position]? = some (name, cell) :=
    List.getElem?_zip_eq_some.mpr ⟨hname, hcell⟩
  obtain ⟨column, hcolumn, hdeclared⟩ := Outcome.exists_of_getElem?_right hdeclares.flip hzip
  exact ⟨column, hcolumn, hdeclared.name_eq, hdeclared.declared_eq⟩

/-- Where the type row has a cell for each column, the schema has all columns of the sheet. -/
theorem names_of_schema {sheet : Sheet} {columns : List Column} {typeRow : List String}
    (hschema : sheet.schema = .ok columns) (htypeRow : sheet.typeRow? = some typeRow)
    (hlength : sheet.columns.length ≤ typeRow.length) :
    columns.map (·.name) = sheet.columns := by
  obtain ⟨other, hother, hdeclares, -⟩ := schema_eq_ok.mp hschema
  obtain rfl := Option.some.inj (htypeRow.symm.trans hother)
  have hnames : (sheet.columns.zip typeRow).map (·.1) = columns.map (·.name) :=
    Outcome.map_eq_map hdeclares fun _ _ hdeclared => hdeclared.name_eq.symm
  rw [← hnames]
  exact List.map_fst_zip hlength

/-- No two columns of a schema have one position. -/
theorem nodup_positions {sheet : Sheet} {columns : List Column}
    (hschema : sheet.schema = .ok columns) : (columns.map (·.position)).Nodup := by
  obtain ⟨_, -, -, hpositions⟩ := schema_eq_ok.mp hschema
  rw [hpositions]
  exact List.nodup_range

/-- Columns of a schema stand in the order of their positions. -/
theorem position_of_getElem? {sheet : Sheet} {columns : List Column} {column : Column} {i : Nat}
    (hschema : sheet.schema = .ok columns) (hcolumn : columns[i]? = some column) :
    column.position = i := by
  obtain ⟨_, -, -, hpositions⟩ := schema_eq_ok.mp hschema
  have hat : (columns.map (·.position))[i]? = some column.position := by
    rw [List.getElem?_map, hcolumn]
    rfl
  rw [hpositions, List.getElem?_range (List.getElem?_eq_some_iff.mp hcolumn).1] at hat
  exact (Option.some.inj hat).symm

end Sheet

end GameSheets

/-
  The first fault of a workbook.

  A sheet is valid where it has a type row, its type cells can be read, the ids of its rows differ,
  and every cell of an included column is accepted.  What is wrong with a sheet that is not valid is
  said of its places, which are read in the order of `Sheet.Place.Before`: the type row, the type
  cells from the left, and then, row by row, the id and the included cells from the left.

  1. A valid sheet is one without a faulty place (`Sheet.valid_iff`).
  2. What is read is not faulty (`Sheet.not_faultyAt_of_schema`, `Sheet.not_faultyAt_of_readRows`),
     so that refining stops at a faulty place with none before it (`Sheet.firstFault_of_refine`).
  3. Places are in one order and each has a single error (`Sheet.FaultyAt.cause_eq`), so that the
     error of the first fault is the only one that refining can fail with (`Sheet.refine_eq_error`).
-/
import GameSheets.Proofs.Table.Faults

namespace GameSheets

variable {workbook : Workbook} {platform : Platform} {sheet : Sheet}

/-- What is made of items differs where it differs from what is made of the items before. -/
theorem nodup_map_iff_not_mem_take {α β : Type} {f : α → β} {items : List α} :
    (items.map f).Nodup ↔
      ∀ (i : Nat) (item : α), items[i]? = some item → f item ∉ (items.take i).map f := by
  rw [List.nodup_iff_getElem?_ne_getElem?]
  constructor
  · intro hdiffer i item hitem hmem
    obtain ⟨other, hother, hsame⟩ := List.mem_map.mp hmem
    obtain ⟨j, hj⟩ := List.mem_iff_getElem?.mp hother
    have hlt : j < i := by
      have hlength := (List.getElem?_eq_some_iff.mp hj).1
      rw [List.length_take] at hlength
      omega
    rw [List.getElem?_take_of_lt hlt] at hj
    have hbound : i < (items.map f).length := by
      rw [List.length_map]
      exact (List.getElem?_eq_some_iff.mp hitem).1
    apply hdiffer j i hlt hbound
    rw [List.getElem?_map, List.getElem?_map, hj, hitem, Option.map_some, Option.map_some, hsame]
  · intro hnew i j hij hj hsame
    rw [List.length_map] at hj
    have hi : i < items.length := by omega
    rw [List.getElem?_map, List.getElem?_map, List.getElem?_eq_getElem hj,
      List.getElem?_eq_getElem hi] at hsame
    have hmem : items[i] ∈ items.take j :=
      List.mem_of_getElem? ((List.getElem?_take_of_lt hij).trans (List.getElem?_eq_getElem hi))
    have himage : f items[i] = f items[j] := Option.some.inj hsame
    apply hnew j items[j] (List.getElem?_eq_getElem hj)
    rw [← himage]
    exact List.mem_map_of_mem hmem

/-! ## Included columns -/

namespace Sheet

/-- The column stands in the sheet with its type cell, and the type cell includes it on the
platform. -/
structure Includes (platform : Platform) (sheet : Sheet) (column : KeptColumn) : Prop where
  name_eq : sheet.columns[column.position]? = some column.name
  declared_eq : sheet.typeRow?.bind (·[column.position]?) = some column.declared
  type_eq : ∃ type, TypeCell.read column.name column.declared = .ok type ∧
    type.includes platform = true ∧ type.base? = some column.base ∧
    type.isNullable = column.nullable

/-- Included columns are those that are kept of the schema. -/
theorem mem_kept_iff {columns : List Column} (hschema : sheet.schema = .ok columns)
    {kept : KeptColumn} :
    kept ∈ columns.filterMap (·.keptOn? platform) ↔ sheet.Includes platform kept := by
  rw [List.mem_filterMap]
  constructor
  · rintro ⟨column, hcolumn, hkept⟩
    obtain ⟨hincludes, hbase, hposition, hname, hdeclared, hnullable⟩ :=
      Column.keptOn?_eq_some.mp hkept
    obtain ⟨i, hi⟩ := List.mem_iff_getElem?.mp hcolumn
    have hplace : kept.position = i := hposition.trans (position_of_getElem? hschema hi)
    obtain ⟨hnameAt, hdeclaredAt, hread⟩ := declares_of_getElem? hschema hi
    rw [← hplace, ← hname] at hnameAt
    rw [← hplace, ← hdeclared] at hdeclaredAt
    rw [← hname, ← hdeclared] at hread
    exact ⟨hnameAt, hdeclaredAt, column.type, hread, hincludes, hbase, hnullable.symm⟩
  · rintro ⟨hname, hdeclared, type, hread, hincludes, hbase, hnullable⟩
    obtain ⟨column, hcolumn, hcolumnName, hcolumnDeclared⟩ :=
      exists_column_of_cell hschema hname hdeclared
    have hposition : column.position = kept.position := position_of_getElem? hschema hcolumn
    obtain ⟨-, -, hcolumnRead⟩ := declares_of_getElem? hschema hcolumn
    rw [hcolumnName, hcolumnDeclared, hread] at hcolumnRead
    obtain rfl := Except.ok.inj hcolumnRead
    exact ⟨column, List.mem_of_getElem? hcolumn, Column.keptOn?_eq_some.mpr
      ⟨hincludes, hbase, hposition.symm, hcolumnName.symm, hcolumnDeclared.symm, hnullable.symm⟩⟩

/-- Kept columns that stand to the left of another one are kept before it. -/
theorem mem_left_of_position_lt {columns : List Column} (hschema : sheet.schema = .ok columns)
    {left right : List KeptColumn} {column other : KeptColumn}
    (hkept : columns.filterMap (·.keptOn? platform) = left ++ column :: right)
    (hother : other ∈ columns.filterMap (·.keptOn? platform))
    (hposition : other.position < column.position) : other ∈ left := by
  obtain ⟨_, -, -, hpositions⟩ := schema_eq_ok.mp hschema
  have hincreasing :
      ((columns.filterMap (·.keptOn? platform)).map (·.position)).Pairwise (· < ·) := by
    have hall : (columns.map (·.position)).Pairwise (· < ·) := by
      rw [hpositions]
      exact List.pairwise_lt_range
    exact hall.sublist (Column.kept_positions_sublist platform columns)
  rw [hkept, List.map_append, List.map_cons, List.pairwise_append, List.pairwise_cons]
    at hincreasing
  obtain ⟨-, ⟨hright, -⟩, -⟩ := hincreasing
  rw [hkept] at hother
  rcases List.mem_append.mp hother with hleft | hrest
  · exact hleft
  · rcases List.mem_cons.mp hrest with rfl | hlater
    · omega
    · have hgreater := hright other.position (List.mem_map_of_mem hlater)
      omega

/-- There is one included column at a position. -/
theorem Includes.eq_of_position_eq {column other : KeptColumn}
    (h : sheet.Includes platform column) (hother : sheet.Includes platform other)
    (hposition : other.position = column.position) : other = column := by
  obtain ⟨hname, hdeclared, type, hread, -, hbase, hnullable⟩ := h
  obtain ⟨hname', hdeclared', type', hread', -, hbase', hnullable'⟩ := hother
  obtain ⟨position, name, declared, base, nullable⟩ := column
  obtain ⟨position', name', declared', base', nullable'⟩ := other
  obtain rfl : position' = position := hposition
  obtain rfl : name' = name := Option.some.inj (hname'.symm.trans hname)
  obtain rfl : declared' = declared := Option.some.inj (hdeclared'.symm.trans hdeclared)
  obtain rfl : type' = type := Except.ok.inj (hread'.symm.trans hread)
  obtain rfl : base' = base := Option.some.inj (hbase'.symm.trans hbase)
  obtain rfl : nullable' = nullable := hnullable'.symm.trans hnullable
  rfl

/-! ## Valid sheets -/

/-- The sheet can be refined for the platform. -/
structure Valid (workbook : Workbook) (platform : Platform) (sheet : Sheet) : Prop where
  typed : ∃ typeRow, sheet.typeRow? = some typeRow
  types_read : ∀ (position : Nat) (name cell : String), sheet.columns[position]? = some name →
    sheet.typeRow?.bind (·[position]?) = some cell → ∃ type, TypeCell.read name cell = .ok type
  ids_nodup : (sheet.dataRows.map (cellAt · 0)).Nodup
  cells_accepted : ∀ row ∈ sheet.dataRows, ∀ column, sheet.Includes platform column →
    column.Accepts workbook row

/-! ## Places -/

/-- A place of a data sheet that is read; rows are counted behind the type row. -/
inductive Place
  | typeRow
  | typeCell (position : Nat)
  | id (row : Nat)
  | cell (row position : Nat)
  deriving DecidableEq, Repr

namespace Place

/-- The order in which places are read. -/
def Before : Place → Place → Prop
  | typeRow, typeRow => False
  | typeRow, _ => True
  | typeCell _, typeRow => False
  | typeCell position, typeCell other => position < other
  | typeCell _, _ => True
  | id row, id other => row < other
  | id row, cell other _ => row ≤ other
  | id _, _ => False
  | cell row _, id other => row < other
  | cell row position, cell other otherPosition =>
    row < other ∨ row = other ∧ position < otherPosition
  | cell _ _, _ => False

/-- Places are in one order. -/
theorem before_or_eq_or_before (place other : Place) :
    place.Before other ∨ place = other ∨ other.Before place := by
  cases place with
  | typeRow => cases other <;> simp [Before]
  | typeCell position =>
    cases other with
    | typeCell otherPosition => simp only [Before, typeCell.injEq]; omega
    | typeRow | id _ | cell _ _ => simp [Before]
  | id row =>
    cases other with
    | id otherRow => simp only [Before, id.injEq]; omega
    | cell otherRow _ => simp only [Before, reduceCtorEq, false_or]; omega
    | typeRow | typeCell _ => simp [Before]
  | cell row position =>
    cases other with
    | id otherRow => simp only [Before, reduceCtorEq, false_or]; omega
    | cell otherRow otherPosition => simp only [Before, cell.injEq]; omega
    | typeRow | typeCell _ => simp [Before]

/-- There are rows behind every place, from any row on. -/
theorem exists_before_id (place : Place) (least : Nat) :
    ∃ row, least ≤ row ∧ place.Before (.id row) := by
  cases place with
  | typeRow => exact ⟨least, Nat.le_refl least, trivial⟩
  | typeCell position => exact ⟨least, Nat.le_refl least, trivial⟩
  | id row | cell row _ =>
    have hrow : row < max least (row + 1) := by omega
    exact ⟨max least (row + 1), Nat.le_max_left least (row + 1), hrow⟩

/-- What comes before a cell comes before the id of its row, or is this id, or stands to the left of
the cell. -/
theorem before_cell_iff {place : Place} {row position : Nat} :
    place.Before (.cell row position) ↔
      place.Before (.id row) ∨ place = .id row ∨ ∃ other < position, place = .cell row other := by
  cases place with
  | typeRow | typeCell _ => simp [Before]
  | id r =>
    simp only [Before, id.injEq, reduceCtorEq, and_false, exists_false, or_false]
    exact Nat.le_iff_lt_or_eq
  | cell r other =>
    simp only [Before, reduceCtorEq, false_or, cell.injEq]
    constructor
    · rintro (hrow | ⟨rfl, hposition⟩)
      · exact .inl hrow
      · exact .inr ⟨other, hposition, rfl, rfl⟩
    · rintro (hrow | ⟨_, hposition, rfl, rfl⟩)
      · exact .inl hrow
      · exact .inr ⟨rfl, hposition⟩

end Place

/-! ## Faulty places -/

/-- The place of the sheet has the error. -/
def FaultyAt (workbook : Workbook) (platform : Platform) (sheet : Sheet) (cause : RefineError) :
    Place → Prop
  | .typeRow => sheet.typeRow? = none ∧ cause = .schema (.noTypeRow sheet.name)
  | .typeCell position => ∃ name cell fault, sheet.columns[position]? = some name ∧
      sheet.typeRow?.bind (·[position]?) = some cell ∧ TypeCell.read name cell = .error fault ∧
      cause = .schema (.typeCell sheet.name fault)
  | .id r => ∃ row, sheet.dataRows[r]? = some row ∧
      cellAt row 0 ∈ (sheet.dataRows.take r).map (cellAt · 0) ∧
      cause = .duplicateId sheet.name (cellAt row 0)
  | .cell r position => ∃ row column, sheet.dataRows[r]? = some row ∧
      sheet.Includes platform column ∧ column.position = position ∧
      ¬ column.Accepts workbook row ∧ cause = column.fault sheet.name row

/-- The error is that of a place of the sheet before which no place is faulty. -/
def FirstFault (workbook : Workbook) (platform : Platform) (sheet : Sheet) (cause : RefineError) :
    Prop :=
  ∃ place, sheet.FaultyAt workbook platform cause place ∧
    ∀ other, other.Before place → ∀ otherCause,
      ¬ sheet.FaultyAt workbook platform otherCause other

/-- A place has a single error. -/
theorem FaultyAt.cause_eq {cause other : RefineError} {place : Place}
    (h : sheet.FaultyAt workbook platform cause place)
    (hother : sheet.FaultyAt workbook platform other place) : other = cause := by
  cases place with
  | typeRow => rw [h.2, hother.2]
  | typeCell position =>
    obtain ⟨name, cell, fault, hname, hcell, hread, rfl⟩ := h
    obtain ⟨name', cell', fault', hname', hcell', hread', rfl⟩ := hother
    obtain rfl := Option.some.inj (hname'.symm.trans hname)
    obtain rfl := Option.some.inj (hcell'.symm.trans hcell)
    obtain rfl := Except.error.inj (hread'.symm.trans hread)
    rfl
  | id r =>
    obtain ⟨row, hrow, -, rfl⟩ := h
    obtain ⟨row', hrow', -, rfl⟩ := hother
    obtain rfl := Option.some.inj (hrow'.symm.trans hrow)
    rfl
  | cell r position =>
    obtain ⟨row, column, hrow, hcolumn, hposition, -, rfl⟩ := h
    obtain ⟨row', column', hrow', hcolumn', hposition', -, rfl⟩ := hother
    obtain rfl := Option.some.inj (hrow'.symm.trans hrow)
    obtain rfl := hcolumn.eq_of_position_eq hcolumn' (hposition'.trans hposition.symm)
    rfl

/-- The first fault of a sheet is the only one. -/
theorem FirstFault.cause_eq {cause other : RefineError}
    (h : sheet.FirstFault workbook platform cause)
    (hother : sheet.FirstFault workbook platform other) : other = cause := by
  obtain ⟨place, hfaulty, hfirst⟩ := h
  obtain ⟨otherPlace, hotherFaulty, hotherFirst⟩ := hother
  rcases place.before_or_eq_or_before otherPlace with hbefore | rfl | hafter
  · exact absurd hfaulty (hotherFirst place hbefore cause)
  · exact hfaulty.cause_eq hotherFaulty
  · exact absurd hotherFaulty (hfirst otherPlace hafter other)

/-- A sheet is valid where no place is faulty. -/
theorem valid_iff :
    sheet.Valid workbook platform ↔
      ∀ place cause, ¬ sheet.FaultyAt workbook platform cause place := by
  constructor
  · intro hvalid place cause hfaulty
    cases place with
    | typeRow =>
      obtain ⟨typeRow, htypeRow⟩ := hvalid.typed
      rw [hfaulty.1] at htypeRow
      cases htypeRow
    | typeCell position =>
      obtain ⟨name, cell, fault, hname, hcell, hread, -⟩ := hfaulty
      obtain ⟨type, htype⟩ := hvalid.types_read position name cell hname hcell
      rw [hread] at htype
      cases htype
    | id r =>
      obtain ⟨row, hrow, hrepeated, -⟩ := hfaulty
      exact nodup_map_iff_not_mem_take.mp hvalid.ids_nodup r row hrow hrepeated
    | cell r position =>
      obtain ⟨row, column, hrow, hcolumn, -, hnot, -⟩ := hfaulty
      exact hnot (hvalid.cells_accepted row (List.mem_of_getElem? hrow) column hcolumn)
  · intro hnone
    refine ⟨?_, ?_, ?_, ?_⟩
    · cases htypeRow : sheet.typeRow? with
      | none => exact absurd ⟨htypeRow, rfl⟩ (hnone .typeRow (.schema (.noTypeRow sheet.name)))
      | some typeRow => exact ⟨typeRow, rfl⟩
    · intro position name cell hname hcell
      rw [Outcome.exists_ok_iff]
      intro fault hread
      exact hnone (.typeCell position) _ ⟨name, cell, fault, hname, hcell, hread, rfl⟩
    · rw [nodup_map_iff_not_mem_take]
      intro r row hrow hrepeated
      exact hnone (.id r) _ ⟨row, hrow, hrepeated, rfl⟩
    · intro row hrow column hcolumn
      by_contra hnot
      obtain ⟨r, hr⟩ := List.mem_iff_getElem?.mp hrow
      exact hnone (.cell r column.position) _ ⟨row, column, hr, hcolumn, rfl, hnot, rfl⟩

/-! ## What is read is not faulty -/

/-- A sheet with a schema has its type row, and no type cell is faulty. -/
theorem not_faultyAt_of_schema {columns : List Column} (hschema : sheet.schema = .ok columns)
    {place : Place} (hplace : place.Before (.id 0)) (cause : RefineError) :
    ¬ sheet.FaultyAt workbook platform cause place := by
  intro hfaulty
  cases place with
  | typeRow =>
    obtain ⟨typeRow, htypeRow, -⟩ := schema_eq_ok.mp hschema
    rw [hfaulty.1] at htypeRow
    cases htypeRow
  | typeCell position =>
    obtain ⟨name, cell, fault, hname, hcell, hread, -⟩ := hfaulty
    obtain ⟨column, hcolumn, rfl, rfl⟩ := exists_column_of_cell hschema hname hcell
    obtain ⟨-, -, htype⟩ := declares_of_getElem? hschema hcolumn
    rw [hread] at htype
    cases htype
  | id r => exact absurd hplace (Nat.not_lt_zero r)
  | cell r position => exact absurd hplace (Nat.not_lt_zero r)

/-- Cells of columns that have values in a row are not faulty. -/
theorem not_faultyAt_of_reads (hnames : (workbook.sheets.map (·.name)).Nodup) {r position : Nat}
    {row : List String} (hrow : sheet.dataRows[r]? = some row)
    (hreads : ∀ column, sheet.Includes platform column → column.position = position →
      ∃ value, column.read workbook.symbolsOf? sheet.name row = .ok value) (cause : RefineError) :
    ¬ sheet.FaultyAt workbook platform cause (.cell r position) := by
  rintro ⟨other, column, hother, hcolumn, hposition, hnot, -⟩
  obtain rfl := Option.some.inj (hother.symm.trans hrow)
  exact hnot ((KeptColumn.exists_read_iff hnames).mp (hreads column hcolumn hposition))

/-- Where the first rows are read, no place before the row behind them is faulty. -/
theorem not_faultyAt_of_readRows (hnames : (workbook.sheets.map (·.name)).Nodup)
    {columns : List Column} (hschema : sheet.schema = .ok columns) {n : Nat}
    {values : List (List Value)}
    (hread : readRows workbook.symbolsOf? sheet.name (columns.filterMap (·.keptOn? platform)) []
      (sheet.dataRows.take n) = .ok values)
    {place : Place} (hplace : place.Before (.id n)) (cause : RefineError) :
    ¬ sheet.FaultyAt workbook platform cause place := by
  obtain ⟨⟨hnodup, -⟩, hvalues⟩ := readRows_eq_ok.mp hread
  cases place with
  | typeRow =>
    have hearly : Place.typeRow.Before (.id 0) := trivial
    exact not_faultyAt_of_schema hschema hearly cause
  | typeCell position =>
    have hearly : (Place.typeCell position).Before (.id 0) := trivial
    exact not_faultyAt_of_schema hschema hearly cause
  | id r =>
    have hr : r < n := hplace
    rintro ⟨row, hrow, hrepeated, -⟩
    have hrowTaken : (sheet.dataRows.take n)[r]? = some row :=
      (List.getElem?_take_of_lt hr).trans hrow
    apply nodup_map_iff_not_mem_take.mp hnodup r row hrowTaken
    rw [List.take_take, Nat.min_eq_left (Nat.le_of_lt hr)]
    exact hrepeated
  | cell r position =>
    have hr : r < n := hplace
    intro hfaulty
    obtain ⟨row, column, hrow, -⟩ := id hfaulty
    have hrowTaken : (sheet.dataRows.take n)[r]? = some row :=
      (List.getElem?_take_of_lt hr).trans hrow
    obtain ⟨rowValues, -, hrowReads⟩ :=
      Outcome.exists_of_mem_left hvalues (List.mem_of_getElem? hrowTaken)
    refine not_faultyAt_of_reads hnames hrow ?_ cause hfaulty
    intro other hother _
    obtain ⟨value, -, hreads⟩ :=
      Outcome.exists_of_mem_left hrowReads ((mem_kept_iff hschema).mpr hother)
    exact ⟨value, KeptColumn.read_eq_ok.mpr hreads⟩

/-! ## Refining stops at the first fault -/

/-- A sheet without a schema has its first fault before its rows. -/
theorem firstFault_of_schema {cause : SchemaError} (h : sheet.schema = .error cause) :
    sheet.FirstFault workbook platform (.schema cause) := by
  rcases schema_eq_error.mp h with ⟨hnone, rfl⟩ | ⟨typeRow, fault, htypeRow, hcells, rfl⟩
  · refine ⟨.typeRow, ⟨hnone, rfl⟩, ?_⟩
    intro other hother
    cases other <;> exact absurd hother (by simp [Place.Before])
  · obtain ⟨position, ⟨name, cell⟩, hat, hread, hbefore⟩ :=
      Outcome.exists_getElem?_of_mapM_eq_error hcells
    obtain ⟨hname, hcell⟩ := List.getElem?_zip_eq_some.mp hat
    refine ⟨.typeCell position, ⟨name, cell, fault, hname, ?_, hread, rfl⟩, ?_⟩
    · rw [htypeRow]
      exact hcell
    · rintro other hother otherCause hfaulty
      cases other with
      | typeRow =>
        rw [hfaulty.1] at htypeRow
        cases htypeRow
      | typeCell otherPosition =>
        obtain ⟨otherName, otherCell, otherFault, hotherName, hotherCell, hotherRead, -⟩ := hfaulty
        rw [htypeRow] at hotherCell
        obtain ⟨type, htype⟩ := hbefore otherPosition hother (otherName, otherCell)
          (List.getElem?_zip_eq_some.mpr ⟨hotherName, hotherCell⟩)
        rw [hotherRead] at htype
        cases htype
      | id r => exact hother
      | cell r otherPosition => exact hother

/-- A row that is not read, behind rows that are, has the first fault of its sheet. -/
theorem firstFault_of_readRows (hnames : (workbook.sheets.map (·.name)).Nodup)
    {columns : List Column} (hschema : sheet.schema = .ok columns) {cause : RefineError}
    (h : readRows workbook.symbolsOf? sheet.name (columns.filterMap (·.keptOn? platform)) []
      sheet.dataRows = .error cause) :
    sheet.FirstFault workbook platform cause := by
  obtain ⟨before, row, after, hrows, ⟨values, hvalues⟩, hstop⟩ :=
    exists_row_of_readRows_eq_error h
  have hrow : sheet.dataRows[before.length]? = some row := by
    rw [hrows]
    simp
  have hbefore : sheet.dataRows.take before.length = before := by
    rw [hrows]
    simp
  rw [← hbefore] at hvalues hstop
  rcases hstop with ⟨hseen | hrepeated, rfl⟩ | ⟨⟨-, hfresh⟩, hread⟩
  · cases hseen
  · refine ⟨.id before.length, ⟨row, hrow, hrepeated, rfl⟩, ?_⟩
    intro other hother
    exact not_faultyAt_of_readRows hnames hschema hvalues hother
  · rw [KeptColumn.readAll_eq_mapM, Outcome.mapM_eq_error] at hread
    obtain ⟨left, column, right, hkept, hleft, hcolumn⟩ := hread
    obtain ⟨hnot, rfl⟩ := (KeptColumn.read_eq_error hnames).mp hcolumn
    have hmem : column ∈ columns.filterMap (·.keptOn? platform) := by
      rw [hkept]
      exact List.mem_append_right _ List.mem_cons_self
    refine ⟨.cell before.length column.position,
      ⟨row, column, hrow, (mem_kept_iff hschema).mp hmem, rfl, hnot, rfl⟩, ?_⟩
    intro other hother otherCause
    rcases Place.before_cell_iff.mp hother with hearly | rfl | ⟨position, hposition, rfl⟩
    · exact not_faultyAt_of_readRows hnames hschema hvalues hearly otherCause
    · rintro ⟨otherRow, hotherRow, hrepeated, -⟩
      obtain rfl := Option.some.inj (hotherRow.symm.trans hrow)
      exact hfresh hrepeated
    · refine not_faultyAt_of_reads hnames hrow ?_ otherCause
      intro earlier hearlier hat
      have hkeptBefore : earlier ∈ left :=
        mem_left_of_position_lt hschema hkept ((mem_kept_iff hschema).mpr hearlier) (by omega)
      exact hleft earlier hkeptBefore

/-- Where a sheet is refined, no place is faulty. -/
theorem not_faultyAt_of_refine (hnames : (workbook.sheets.map (·.name)).Nodup) {table : TypedTable}
    (h : (sheet.refine workbook.symbolsOf? platform).outcome = .ok table) (place : Place)
    (cause : RefineError) : ¬ sheet.FaultyAt workbook platform cause place := by
  rw [outcome_refine, Outcome.bind_eq_ok] at h
  obtain ⟨columns, hschema, htable⟩ := h
  obtain ⟨rows, hrows, -⟩ := Outcome.map_eq_ok.mp htable
  obtain ⟨n, hn, hplace⟩ := place.exists_before_id sheet.dataRows.length
  have hall : sheet.dataRows.take n = sheet.dataRows := List.take_of_length_le hn
  rw [← hall] at hrows
  exact not_faultyAt_of_readRows hnames (Outcome.mapError_eq_ok.mp hschema) hrows hplace cause

/-- Where a sheet is not refined, the error is its first fault. -/
theorem firstFault_of_refine (hnames : (workbook.sheets.map (·.name)).Nodup) {cause : RefineError}
    (h : (sheet.refine workbook.symbolsOf? platform).outcome = .error cause) :
    sheet.FirstFault workbook platform cause := by
  rw [outcome_refine, Outcome.bind_eq_error] at h
  rcases h with hschema | ⟨columns, hschema, hrows⟩
  · obtain ⟨fault, hfault, rfl⟩ := Outcome.mapError_eq_error.mp hschema
    exact firstFault_of_schema hfault
  · exact firstFault_of_readRows hnames (Outcome.mapError_eq_ok.mp hschema)
      (Outcome.map_eq_error.mp hrows)

/-- The sheets that are refined are the valid ones. -/
theorem exists_refine_iff (hnames : (workbook.sheets.map (·.name)).Nodup) :
    (∃ table, (sheet.refine workbook.symbolsOf? platform).outcome = .ok table) ↔
      sheet.Valid workbook platform := by
  rw [valid_iff]
  constructor
  · rintro ⟨table, htable⟩ place cause
    exact not_faultyAt_of_refine hnames htable place cause
  · intro hnone
    rw [Outcome.exists_ok_iff]
    intro cause herror
    obtain ⟨place, hfaulty, -⟩ := firstFault_of_refine hnames herror
    exact hnone place cause hfaulty

/-- The error of a sheet is its first fault. -/
theorem refine_eq_error (hnames : (workbook.sheets.map (·.name)).Nodup) {cause : RefineError} :
    (sheet.refine workbook.symbolsOf? platform).outcome = .error cause ↔
      sheet.FirstFault workbook platform cause := by
  constructor
  · exact firstFault_of_refine hnames
  · intro hfirst
    cases hrefine : (sheet.refine workbook.symbolsOf? platform).outcome with
    | ok table =>
      obtain ⟨place, hfaulty, -⟩ := hfirst
      exact absurd hfaulty (not_faultyAt_of_refine hnames hrefine place cause)
    | error other => rw [hfirst.cause_eq (firstFault_of_refine hnames hrefine)]

end Sheet

/-! ## Workbooks -/

/-- Where the faulty cell stands, if the error is that of a cell. -/
def RefineError.site? : RefineError → Option CellSite
  | emptyCell site => some site
  | invalidValue site _ => some site
  | unknownSymbol site _ => some site
  | schema _ => none
  | duplicateId _ _ => none

theorem KeptColumn.site?_fault {name : String} {row : List String} {column : KeptColumn} :
    (column.fault name row).site? = some (column.site name row) := by
  rw [fault]
  split
  · rfl
  · cases column.base.literalFault <;> rfl

namespace Workbook

/-- The error is the first fault of a data sheet, and the data sheets before it are valid. -/
def FirstFault (workbook : Workbook) (platform : Platform) (cause : RefineError) : Prop :=
  ∃ before sheet after, workbook.dataSheets = before ++ sheet :: after ∧
    (∀ other ∈ before, other.Valid workbook platform) ∧
    sheet.FirstFault workbook platform cause

/-- At the site stands a cell of an included column that is not accepted; it is an error of
emptiness exactly where the cell is empty and the column not nullable. -/
def Blames (workbook : Workbook) (platform : Platform) (cause : RefineError) (site : CellSite) :
    Prop :=
  ∃ sheet ∈ workbook.dataSheets, ∃ row ∈ sheet.dataRows, ∃ column,
    sheet.Includes platform column ∧ site = column.site sheet.name row ∧
    ¬ column.Accepts workbook row ∧
    (cause = .emptyCell site ↔
      Sheet.cellAt row column.position = "" ∧ column.nullable = false)

/-- An error of a cell is that of a cell of an included column. -/
theorem FirstFault.blames {cause : RefineError} (h : workbook.FirstFault platform cause)
    {site : CellSite} (hsite : cause.site? = some site) : workbook.Blames platform cause site := by
  obtain ⟨before, sheet, after, hsheets, -, place, hfaulty, -⟩ := h
  have hsheet : sheet ∈ workbook.dataSheets := by
    rw [hsheets]
    exact List.mem_append_right _ List.mem_cons_self
  cases place with
  | typeRow =>
    rw [hfaulty.2] at hsite
    cases hsite
  | typeCell position =>
    obtain ⟨name, cell, fault, -, -, -, rfl⟩ := hfaulty
    cases hsite
  | id r =>
    obtain ⟨row, -, -, rfl⟩ := hfaulty
    cases hsite
  | cell r position =>
    obtain ⟨row, column, hrow, hcolumn, -, hnot, rfl⟩ := hfaulty
    rw [KeptColumn.site?_fault] at hsite
    obtain rfl := Option.some.inj hsite
    exact ⟨sheet, hsheet, row, List.mem_of_getElem? hrow, column, hcolumn, rfl, hnot,
      KeptColumn.fault_eq_emptyCell_iff hnot⟩

/-- The workbooks that merging makes are refined where all their data sheets are valid, and fail
with their first fault where not.  An error of a cell is never one of a column that is left out, or
of an empty cell in a nullable column. -/
theorem refine_fails_first {workbook merged : Workbook}
    (hmerge : workbook.merge.outcome = .ok merged) (platform : Platform) :
    ((∃ tables, (merged.refine platform).outcome = .ok tables) ↔
        ∀ sheet ∈ merged.dataSheets, sheet.Valid merged platform) ∧
      (∀ cause, (merged.refine platform).outcome = .error cause ↔
        merged.FirstFault platform cause) ∧
      ∀ cause site, (merged.refine platform).outcome = .error cause → cause.site? = some site →
        merged.Blames platform cause site := by
  obtain ⟨hnames, -⟩ := shaped_of_merge hmerge
  have hok : (∃ tables, (merged.refine platform).outcome = .ok tables) ↔
      ∀ sheet ∈ merged.dataSheets, sheet.Valid merged platform := by
    rw [outcome_refine, Outcome.exists_mapM_eq_ok_iff]
    simp only [Sheet.exists_refine_iff hnames]
  have herror : ∀ cause, (merged.refine platform).outcome = .error cause ↔
      merged.FirstFault platform cause := by
    intro cause
    rw [outcome_refine, Outcome.mapM_eq_error]
    simp only [Sheet.exists_refine_iff hnames, Sheet.refine_eq_error hnames]
    rfl
  refine ⟨hok, herror, ?_⟩
  intro cause site hcause hsite
  exact ((herror cause).mp hcause).blames hsite

/-! ### Parts that fail differently on the two platforms -/

/-- A part of the items with a single row; the speed is nullable, the memo a comment, and the price
is for the client alone. -/
def stockPart (name : String) (row : List String) : Sheet where
  name := name
  columns := ["Id", "Grade", "Speed", "#Memo", "Price"]
  rows := [["int32_cs", "Enum_Grade_s", "float?_s", "", "int64_c"], row]

/-- The symbols of the grades. -/
def stockGrades : Sheet where
  name := "Grade"
  columns := ["Enum", "Value", "Description"]
  rows := [["Common", "", ""], ["#Old", "", ""], ["Rare", "", ""]]

/-- Two parts with a price that is no number; the second row has the given grade. -/
def stockParts (grade : String) : Workbook where
  sheets := [
    stockPart "Item_Weapon" ["1", "Rare", "", "x", "unpriced"],
    stockGrades,
    stockPart "Item_Armor" ["2", grade, "2.5", "y", ""]]
  exportedAt := none

/-- The parts merged. -/
def stock (grade : String) : Workbook where
  sheets := [
    { name := "Item"
      columns := ["Id", "Grade", "Speed", "#Memo", "Price"]
      rows := [
        ["int32_cs", "Enum_Grade_s", "float?_s", "", "int64_c"],
        ["1", "Rare", "", "x", "unpriced"],
        ["2", grade, "2.5", "y", ""]] },
    stockGrades]
  exportedAt := none

/-- The server, which has no prices, finds no fault unless a grade is none of the symbols; for the
client the price of the first row comes before the empty one. -/
theorem stock_fails_first :
    (stockParts "Common").merge.outcome = .ok (stock "Common") ∧
      (∀ sheet ∈ (stock "Common").dataSheets, sheet.Valid (stock "Common") .server) ∧
      (stock "Common").FirstFault .client
        (.invalidValue ⟨"Item", "1", "Price", "int64_c"⟩ "unpriced") ∧
      (stockParts "Epic").merge.outcome = .ok (stock "Epic") ∧
      (stock "Epic").FirstFault .server
        (.unknownSymbol ⟨"Item", "2", "Grade", "Enum_Grade_s"⟩ "Epic") := by
  have hcommon : (stockParts "Common").merge.outcome = .ok (stock "Common") := by decide +kernel
  have hepic : (stockParts "Epic").merge.outcome = .ok (stock "Epic") := by decide +kernel
  have hserver : ∃ tables, ((stock "Common").refine .server).outcome = .ok tables := by
    rw [Outcome.exists_ok_iff]
    intro cause herror
    have hok : ((stock "Common").refine .server).outcome.isOk = true := by decide +kernel
    rw [herror] at hok
    cases hok
  have hclient : ((stock "Common").refine .client).outcome =
      .error (.invalidValue ⟨"Item", "1", "Price", "int64_c"⟩ "unpriced") := by decide +kernel
  have hunknown : ((stock "Epic").refine .server).outcome =
      .error (.unknownSymbol ⟨"Item", "2", "Grade", "Enum_Grade_s"⟩ "Epic") := by decide +kernel
  exact ⟨hcommon, (refine_fails_first hcommon .server).1.mp hserver,
    ((refine_fails_first hcommon .client).2.1 _).mp hclient, hepic,
    ((refine_fails_first hepic .server).2.1 _).mp hunknown⟩

end Workbook

end GameSheets

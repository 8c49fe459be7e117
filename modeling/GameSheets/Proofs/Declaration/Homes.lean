/-
  Where a client record keeps the columns of its table.

  The table and the record of a sheet are made apart from each other, of the same kept columns.  The
  string column that has the row's name is the one exception: the record starts with the row's name
  already, and skips it.  Two things follow.

  1. What the record declares behind the row's name is backed by the table, place by place
     (`DeclaredOnClient.exists_backing`).
  2. The table's columns have their places in the record, unless the column that was skipped is the
     first slot of an array: no other column declares the array, and the slots behind the first are
     left without a place (`DeclaredOnClient.declares_iff`).

    row name Power_1        table: Id, Power_1, Power_2        record: Power_1, Id
-/
import Mathlib
import GameSheets.Proofs.Declaration.Fields
import GameSheets.Proofs.Table.Refining

namespace GameSheets

/-! ## Columns of a table -/

namespace TableColumn

/-- The place of the column's values. -/
def place (column : TableColumn) : Place :=
  Place.ofColumn column.name

/-- The string column that supplies the row's name. -/
def rowName (name : String) : TableColumn :=
  ⟨name, .string⟩

end TableColumn

namespace TypedTable

/-- The table has the row's name in the first slot of the column's array. -/
def Orphans (table : TypedTable) (rowName : String) (column : TableColumn) : Prop :=
  TableColumn.rowName rowName ∈ table.columns ∧
    ∃ slot, Slot.ofName? column.name = some slot ∧ Slot.ofName? rowName = some ⟨slot.key, 1⟩

end TypedTable

/-- The record and the table of one sheet on the client. -/
structure Record.Houses (record : Record) (rowName : String) (table : TypedTable) : Prop where
  name_eq : record.name = table.name
  /-- The row's name leads; all other fields come from columns. -/
  leads : ∃ declared, record.fields = Field.rowName rowName :: declared ∧
    ∀ field ∈ declared, field.origin = .column
  /-- A column that does not supply the row's name has its place, of its type, or it is orphaned. -/
  housed_iff : ∀ column ∈ table.columns, column ≠ TableColumn.rowName rowName →
    (record.Declares column.base column.place ↔ ¬ table.Orphans rowName column)
  /-- Every place that a column declared has one column, of the place's type. -/
  backed : ∀ field ∈ record.fields, field.origin = .column → ∀ place, field.Offers place →
    ∃ column, table.columns.filter (·.place = place) = [column] ∧ column.base = field.base

/-! ## Records of the client -/

namespace KeptColumn

variable {platform : Platform} {columns : List Column} {rowName : String}

theorem suppliesRowName_iff {column : KeptColumn} :
    column.suppliesRowName rowName = true ↔ column.name = rowName ∧ column.base = .string := by
  rw [suppliesRowName, Bool.and_eq_true, beq_iff_eq, beq_iff_eq]

/-- The kept columns that declare fields of a client record. -/
def declaring (rowName : String) (kept : List KeptColumn) : List KeptColumn :=
  kept.filter (!·.suppliesRowName rowName)

theorem mem_declaring {kept : List KeptColumn} {column : KeptColumn} :
    column ∈ declaring rowName kept ↔
      column ∈ kept ∧ ¬ (column.name = rowName ∧ column.base = .string) := by
  rw [declaring, List.mem_filter, Bool.not_eq_true', ← suppliesRowName_iff, Bool.not_eq_true]

theorem place_eq_field {column : KeptColumn} {name : String} :
    column.place = .field name ↔ Slot.ofName? column.name = none ∧ column.name = name := by
  unfold place
  cases Slot.ofName? column.name with
  | none => simp
  | some slot => simp

theorem place_eq_element {column : KeptColumn} {name : String} {offset : Nat} :
    column.place = .element name offset ↔
      ∃ slot, Slot.ofName? column.name = some slot ∧ slot.fieldName = name ∧
        slot.offset = offset := by
  unfold place
  cases Slot.ofName? column.name with
  | none => simp
  | some slot => simp

/-- Columns of one key have one group. -/
theorem grouped_of_key_eq {column other : KeptColumn} {slot otherSlot : Slot}
    (hslot : Slot.ofName? column.name = some slot)
    (hother : Slot.ofName? other.name = some otherSlot) (hkey : otherSlot.key = slot.key)
    (hgrouped : column.Grouped platform columns) : other.Grouped platform columns := by
  intro third hthird
  obtain rfl := Option.some.inj (hother.symm.trans hthird)
  have hgroup : group columns otherSlot = group columns slot := by
    rw [group, group, hkey]
  rw [hgroup]
  exact hgrouped slot hslot

/-- A field with slots is declared by the first slot of its array. -/
theorem exists_slot_of_offers_element {column : KeptColumn} {field : Field} {name : String}
    {offset : Nat} (hfield : column.fieldIn columns = some field)
    (hoffers : field.Offers (.element name offset)) :
    ∃ slot, Slot.ofName? column.name = some slot ∧ slot.index = 1 ∧ slot.fieldName = name := by
  rcases fieldIn_eq_some.mp hfield with ⟨-, rfl⟩ | ⟨slot, hslot, hindex, rfl⟩
  · obtain ⟨-, size, hshape, -⟩ := hoffers
    cases hshape
  · exact ⟨slot, hslot, hindex, hoffers.1⟩

/-- Kept columns that share a slot of a declared array are one column. -/
theorem eq_of_offers_element {column first second : KeptColumn} {field : Field} {name : String}
    {offset : Nat} (hgrouped : column.Grouped platform columns)
    (hfield : column.fieldIn columns = some field) (hoffers : field.Offers (.element name offset))
    (hfirst : first ∈ columns.filterMap (·.keptOn? platform))
    (hsecond : second ∈ columns.filterMap (·.keptOn? platform))
    (hfirstPlace : first.place = .element name offset)
    (hsecondPlace : second.place = .element name offset) : first = second := by
  obtain ⟨slot, hslot, -, hslotName⟩ := exists_slot_of_offers_element hfield hoffers
  obtain ⟨firstSlot, hfirstSlot, hfirstName, hfirstOffset⟩ := place_eq_element.mp hfirstPlace
  obtain ⟨secondSlot, hsecondSlot, hsecondName, hsecondOffset⟩ := place_eq_element.mp hsecondPlace
  have hsame : firstSlot = secondSlot :=
    Slot.eq_of_fieldName_of_offset hfirstSlot hsecondSlot (hfirstName.trans hsecondName.symm)
      (hfirstOffset.trans hsecondOffset.symm)
  have hkey : firstSlot.key = slot.key :=
    Slot.key_eq_of_fieldName (hfirstName.trans hslotName.symm)
  have hfirstGrouped : first.Grouped platform columns :=
    grouped_of_key_eq hslot hfirstSlot hkey hgrouped
  exact eq_of_slot_eq hfirst hsecond hfirstSlot (hsame ▸ hsecondSlot) hfirstGrouped

end KeptColumn

namespace Record

variable {columns : List Column} {rowName : String} {record : Record}

/-- A client record is declared by the kept columns of its sheet that do not supply the row's name,
behind the row's name. -/
theorem ofSheet_client_eq_ok {sheet : Sheet} :
    ofSheet .client rowName sheet = .ok record ↔
      ∃ columns, sheet.schema = .ok columns ∧
        (∀ column ∈ KeptColumn.declaring rowName (columns.filterMap (·.keptOn? .client)),
          column.Grouped .client columns) ∧
        (record.fields.map (·.name)).Nodup ∧
        record = ⟨sheet.name, Field.rowName rowName ::
          (KeptColumn.declaring rowName (columns.filterMap (·.keptOn? .client))).filterMap
            (·.fieldIn columns), none⟩ :=
  ofSheet_eq_ok

/-- The record has the row's name and, behind it, what the kept columns declare that do not supply
it. -/
structure DeclaredOnClient (record : Record) (rowName : String) (columns : List Column) :
    Prop where
  grouped : ∀ column ∈ KeptColumn.declaring rowName (columns.filterMap (·.keptOn? .client)),
    column.Grouped .client columns
  names_nodup : (record.fields.map (·.name)).Nodup
  fields_eq : record.fields = Field.rowName rowName ::
    (KeptColumn.declaring rowName (columns.filterMap (·.keptOn? .client))).filterMap
      (·.fieldIn columns)

namespace DeclaredOnClient

/-- A field that comes from a column is declared by one that does not supply the row's name. -/
theorem exists_declarer (h : record.DeclaredOnClient rowName columns) {field : Field}
    (hfield : field ∈ record.fields) (horigin : field.origin = .column) :
    ∃ column ∈ KeptColumn.declaring rowName (columns.filterMap (·.keptOn? .client)),
      column.fieldIn columns = some field := by
  rw [h.fields_eq] at hfield
  rcases List.mem_cons.mp hfield with rfl | hdeclared
  · cases horigin
  · exact List.mem_filterMap.mp hdeclared

/-- No column declares a field with the row's name. -/
theorem name_ne_rowName (h : record.DeclaredOnClient rowName columns) {column : KeptColumn}
    (hcolumn : column ∈ KeptColumn.declaring rowName (columns.filterMap (·.keptOn? .client)))
    {field : Field} (hfield : column.fieldIn columns = some field) : field.name ≠ rowName := by
  intro hname
  have hnames := h.names_nodup
  rw [h.fields_eq, List.map_cons, List.nodup_cons] at hnames
  have hmem := List.mem_map_of_mem (f := fun field : Field => field.name)
    (List.mem_filterMap.mpr ⟨column, hcolumn, hfield⟩)
  exact hnames.1 (hname ▸ hmem)

/-- A column that does not supply the row's name has its place in the record, but for one case: it
is a slot of the array whose first slot supplies the row's name. -/
theorem declares_iff (h : record.DeclaredOnClient rowName columns) {column : KeptColumn}
    (hcolumn : column ∈ KeptColumn.declaring rowName (columns.filterMap (·.keptOn? .client))) :
    record.Declares column.base column.place ↔
      ¬ ((∃ supplier ∈ columns.filterMap (·.keptOn? .client),
          supplier.name = rowName ∧ supplier.base = .string) ∧
        ∃ slot, Slot.ofName? column.name = some slot ∧
          Slot.ofName? rowName = some ⟨slot.key, 1⟩) := by
  rw [declares_iff_offers]
  constructor
  · rintro ⟨field, hfield, -, hoffers⟩ ⟨⟨supplier, hsupplier, hname, hstring⟩, slot, hslot, hone⟩
    rw [KeptColumn.place, hslot] at hoffers
    rw [h.fields_eq] at hfield
    rcases List.mem_cons.mp hfield with rfl | hdeclared
    · obtain ⟨-, size, hshape, -⟩ := hoffers
      cases hshape
    · -- the column that declares the array would be the one that was skipped
      obtain ⟨first, hfirst, hfirstField⟩ := List.mem_filterMap.mp hdeclared
      obtain ⟨hfirstKept, hnot⟩ := KeptColumn.mem_declaring.mp hfirst
      obtain ⟨⟨key, index⟩, hfirstSlot, rfl, hfieldName⟩ :=
        KeptColumn.exists_slot_of_offers_element hfirstField hoffers
      obtain rfl : key = slot.key := Slot.key_eq_of_fieldName hfieldName
      obtain rfl := KeptColumn.eq_of_slot_eq hfirstKept hsupplier hfirstSlot (hname ▸ hone)
        (h.grouped first hfirst)
      exact hnot ⟨hname, hstring⟩
  · intro hkept
    obtain ⟨hcolumnKept, hnot⟩ := KeptColumn.mem_declaring.mp hcolumn
    obtain ⟨first, hfirst, field, hfield, hbase, hoffers, hwhich⟩ :=
      KeptColumn.exists_offers_of_kept hcolumnKept (h.grouped column hcolumn)
    have hdeclaring : first ∈
        KeptColumn.declaring rowName (columns.filterMap (·.keptOn? .client)) := by
      refine KeptColumn.mem_declaring.mpr ⟨hfirst, ?_⟩
      rintro ⟨hname, hstring⟩
      rcases hwhich with rfl | ⟨slot, hslot, hone⟩
      · exact hnot ⟨hname, hstring⟩
      · exact hkept ⟨⟨first, hfirst, hname, hstring⟩, slot, hslot, hname ▸ hone⟩
    refine ⟨field, ?_, hbase, hoffers⟩
    rw [h.fields_eq]
    exact List.mem_cons_of_mem _ (List.mem_filterMap.mpr ⟨first, hdeclaring, hfield⟩)

/-- Every place of a field that comes from a column has one kept column, of the field's type. -/
theorem exists_backing (h : record.DeclaredOnClient rowName columns) {field : Field}
    (hfield : field ∈ record.fields) (horigin : field.origin = .column) {place : Place}
    (hoffers : field.Offers place) :
    ∃ column ∈ columns.filterMap (·.keptOn? .client),
      column.place = place ∧ column.base = field.base ∧
        ∀ other ∈ columns.filterMap (·.keptOn? .client), other.place = place → other = column := by
  obtain ⟨first, hfirst, hdeclared⟩ := h.exists_declarer hfield horigin
  obtain ⟨hfirstKept, -⟩ := KeptColumn.mem_declaring.mp hfirst
  obtain ⟨column, hcolumn, hplace, hbase⟩ :=
    KeptColumn.exists_kept_of_offers hfirstKept (h.grouped first hfirst) hdeclared hoffers
  refine ⟨column, hcolumn, hplace, hbase, ?_⟩
  intro other hother hotherPlace
  cases place with
  | element name offset =>
    exact KeptColumn.eq_of_offers_element (h.grouped first hfirst) hdeclared hoffers hother hcolumn
      hotherPlace hplace
  | field name =>
    -- no column of that name supplies the row's name, and so each declares the field
    have hfieldName := hoffers.1
    have hsame : ∀ third ∈ columns.filterMap (·.keptOn? .client),
        third.place = .field name → third = first := by
      intro third hthird hthirdPlace
      obtain ⟨hscalar, hthirdName⟩ := KeptColumn.place_eq_field.mp hthirdPlace
      have hdeclaring : third ∈
          KeptColumn.declaring rowName (columns.filterMap (·.keptOn? .client)) := by
        refine KeptColumn.mem_declaring.mpr ⟨hthird, ?_⟩
        rintro ⟨hname, -⟩
        exact h.name_ne_rowName hfirst hdeclared (hfieldName.trans (hthirdName.symm.trans hname))
      have hnames := h.names_nodup
      rw [h.fields_eq, List.map_cons, List.nodup_cons] at hnames
      exact KeptColumn.eq_of_fieldIn_name_eq hnames.2 hdeclaring hfirst
        (KeptColumn.fieldIn_eq_some.mpr (.inl ⟨hscalar, rfl⟩)) hdeclared
        (hthirdName.trans hfieldName.symm)
    rw [hsame other hother hotherPlace, hsame column hcolumn hplace]

end DeclaredOnClient

end Record

/-! ## Tables and records -/

/-- The columns with a property are one where one column alone has it. -/
theorem Column.filter_kept_eq_singleton {columns : List Column} {platform : Platform}
    (hpositions : (columns.map (·.position)).Nodup) {holds : KeptColumn → Bool}
    {column : KeptColumn} (hcolumn : column ∈ columns.filterMap (·.keptOn? platform))
    (hholds : holds column = true)
    (hunique : ∀ other ∈ columns.filterMap (·.keptOn? platform),
      holds other = true → other = column) :
    (columns.filterMap (·.keptOn? platform)).filter holds = [column] := by
  have hnodup : (columns.filterMap (·.keptOn? platform)).Nodup :=
    (Column.nodup_kept hpositions).of_map
  refine List.perm_singleton.mp ((List.perm_ext_iff_of_nodup (hnodup.filter _)
    (List.nodup_singleton _)).mpr ?_)
  intro other
  rw [List.mem_filter, List.mem_singleton]
  constructor
  · rintro ⟨hother, hotherHolds⟩
    exact hunique other hother hotherHolds
  · rintro rfl
    exact ⟨hcolumn, hholds⟩

/-- The record of a sheet houses the table of the sheet. -/
theorem Record.houses_of_gives {symbolsOf? : String → Option (List String)} {sheet : Sheet}
    {columns : List Column} {table : TypedTable} {record : Record} {rowName : String}
    (hgives : sheet.Gives symbolsOf? .client columns table)
    (hrecord : Record.ofSheet .client rowName sheet = .ok record) :
    record.Houses rowName table := by
  obtain ⟨others, hothers, hgrouped, hnames, hfields⟩ := ofSheet_client_eq_ok.mp hrecord
  -- the record is made from the one schema that the sheet has
  obtain rfl := Except.ok.inj (hgives.schema_eq.symm.trans hothers)
  have hdeclared : record.DeclaredOnClient rowName columns :=
    ⟨hgrouped, hnames, congrArg Record.fields hfields⟩
  have hcolumns := hgives.columns_eq
  refine ⟨?_, ?_, ?_, ?_⟩
  · rw [hfields, hgives.name_eq]
  · refine ⟨_, hdeclared.fields_eq, ?_⟩
    intro field hfield
    obtain ⟨column, -, hcolumn⟩ := List.mem_filterMap.mp hfield
    rcases KeptColumn.fieldIn_eq_some.mp hcolumn with ⟨-, rfl⟩ | ⟨slot, -, -, rfl⟩
    · rfl
    · rfl
  · intro column hcolumn hne
    rw [hcolumns] at hcolumn
    obtain ⟨kept, hkept, rfl⟩ := List.mem_map.mp hcolumn
    have hdeclaring : kept ∈
        KeptColumn.declaring rowName (columns.filterMap (·.keptOn? .client)) := by
      refine KeptColumn.mem_declaring.mpr ⟨hkept, ?_⟩
      rintro ⟨hname, hstring⟩
      exact hne (by rw [TableColumn.rowName, hname, hstring])
    have hsupplier : TableColumn.rowName rowName ∈ table.columns ↔
        ∃ supplier ∈ columns.filterMap (·.keptOn? .client),
          supplier.name = rowName ∧ supplier.base = .string := by
      rw [hcolumns, List.mem_map]
      simp only [TableColumn.rowName, TableColumn.mk.injEq]
    unfold TypedTable.Orphans
    rw [hsupplier]
    exact hdeclared.declares_iff hdeclaring
  · intro field hfield horigin place hoffers
    obtain ⟨kept, hkept, hplace, hbase, hunique⟩ := hdeclared.exists_backing hfield horigin hoffers
    have hpositions := Sheet.nodup_positions hgives.schema_eq
    refine ⟨⟨kept.name, kept.base⟩, ?_, hbase⟩
    have hone : (columns.filterMap (·.keptOn? .client)).filter (·.place = place) = [kept] := by
      refine Column.filter_kept_eq_singleton hpositions hkept (decide_eq_true hplace) ?_
      intro other hother hotherPlace
      exact hunique other hother (of_decide_eq_true hotherPlace)
    rw [hcolumns, List.filter_map]
    exact congrArg (List.map _) hone

namespace Workbook

/-- Where a workbook is refined and declared for the client, tables and records have the same names
in the same order, and each record houses its table. -/
theorem client_houses {workbook : Workbook} {rowName : String} {tables : List TypedTable}
    {records : List Record} (hrefine : (workbook.refine .client).outcome = .ok tables)
    (hrecords : workbook.records .client rowName = .ok records) :
    records.length = tables.length ∧
      ∀ (i : Nat) (table : TypedTable) (record : Record),
        tables[i]? = some table → records[i]? = some record → record.Houses rowName table := by
  have hrefined := refine_eq_ok.mp hrefine
  have hdeclared := Outcome.mapM_eq_ok.mp hrecords
  refine ⟨hdeclared.length_eq.symm.trans hrefined.length_eq, ?_⟩
  -- the two at one place come from the data sheet at that place
  intro i table record htable hrecord
  obtain ⟨sheet, hsheet, hsheetTable⟩ := Outcome.exists_of_getElem?_right hrefined htable
  obtain ⟨other, hother, hotherRecord⟩ := Outcome.exists_of_getElem?_right hdeclared hrecord
  obtain rfl := Option.some.inj (hsheet.symm.trans hother)
  obtain ⟨columns, hgives⟩ := Sheet.refine_eq_ok.mp hsheetTable
  exact Record.houses_of_gives hgives hotherRecord

/-! ### Titles in two slots, either of which may be the row's name -/

/-- A sheet with two slots of texts. -/
def titles : Workbook where
  sheets := [⟨"Item", ["Id", "Title_1", "Title_2"], [["int32_cs", "string_c", "string_c"]]⟩]
  exportedAt := none

/-- The columns of the sheet as they are read. -/
def titleColumns : List Column := [
  ⟨0, "Id", "int32_cs", .typed .int32 false true true⟩,
  ⟨1, "Title_1", "string_c", .typed .string false false true⟩,
  ⟨2, "Title_2", "string_c", .typed .string false false true⟩]

/-- The table of the sheet. -/
def titleTable : TypedTable where
  name := "Item"
  platform := .client
  columns := [⟨"Id", .int32⟩, ⟨"Title_1", .string⟩, ⟨"Title_2", .string⟩]
  rows := []
  ids := []
  fingerprint := 17241709254077376921

/-- The record whose row name is the second title. -/
def secondTitleRecord : Record where
  name := "Item"
  fields := [
    Field.rowName "Title_2",
    ⟨"Id", .int32, .scalar, .default, .column⟩,
    ⟨"Titles", .string, .array 2, .zero, .column⟩]
  codec := none

/-- The record whose row name is the first title. -/
def firstTitleRecord : Record where
  name := "Item"
  fields := [Field.rowName "Title_1", ⟨"Id", .int32, .scalar, .default, .column⟩]
  codec := none

theorem titles_records {rowName : String} {record : Record}
    (hnames : (record.fields.map (·.name)).Nodup)
    (hrecord : record = ⟨"Item", Field.rowName rowName ::
      (KeptColumn.declaring rowName (titleColumns.filterMap (·.keptOn? .client))).filterMap
        (·.fieldIn titleColumns), none⟩) :
    titles.records .client rowName = .ok [record] := by
  refine Outcome.mapM_eq_ok.mpr (.cons ?_ .nil)
  refine Record.ofSheet_client_eq_ok.mpr ⟨titleColumns, by rfl, ?_, hnames, hrecord⟩
  have hslots : ∀ column ∈ titleColumns.filterMap (·.keptOn? .client),
      ∀ key ∈ (Slot.ofName? column.name).map Slot.key, key = "Title" := by decide +kernel
  have htitle : GroupMember.fault? .client
      (titleColumns.filterMap (GroupMember.of? "Title")) = none := by cbv
  intro column hcolumn
  exact KeptColumn.grouped_of_key hslots htitle column (KeptColumn.mem_declaring.mp hcolumn).1

theorem titles_housed :
    (titles.refine .client).outcome = .ok [titleTable] ∧
      titles.records .client "Title_2" = .ok [secondTitleRecord] ∧
      secondTitleRecord.Houses "Title_2" titleTable := by
  have hrefine : (titles.refine .client).outcome = .ok [titleTable] := by decide +kernel
  have hrecords : titles.records .client "Title_2" = .ok [secondTitleRecord] :=
    titles_records (by decide) (by rfl)
  obtain ⟨-, hhouses⟩ := client_houses hrefine hrecords
  exact ⟨hrefine, hrecords, hhouses 0 titleTable secondTitleRecord rfl rfl⟩

/-- Where the first title is the row's name, the second is in the table, but there is no field for
it in the record: neither one of its own nor the array. -/
theorem second_title_orphaned :
    (titles.refine .client).outcome = .ok [titleTable] ∧
      titles.records .client "Title_1" = .ok [firstTitleRecord] ∧
      ⟨"Title_2", .string⟩ ∈ titleTable.columns ∧
      ⟨"Title_2", .string⟩ ≠ TableColumn.rowName "Title_1" ∧
      firstTitleRecord.field? "Title_2" = none ∧ firstTitleRecord.field? "Titles" = none := by
  refine ⟨by decide +kernel, titles_records (by decide) (by rfl), ?_⟩
  decide +kernel

end Workbook

end GameSheets

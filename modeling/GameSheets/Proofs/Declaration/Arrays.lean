/-
  Which columns are folded into arrays, and which are refused.

  An array is folded from all columns of its key, wherever they stand in the sheet and whether or
  not a platform keeps them.  They are looked at when the first of them that the platform keeps is
  met, and the field is declared where the column of index 1 is met.  Columns are those of the
  schema, which are all columns of a merged sheet (`Sheet.Shaped.names_of_schema`).

  1. A sheet is refused for an array exactly where a declaring column has a key that makes none,
     unless a name is repeated before that column is met (`badArray_iff`, `repeats_of_ofSheet`).
  2. An array that is declared has the type of every column of its key, and a slot for each of them
     (`folds_of_ofSheet`).  No platform and no order takes part in that, so that two declarations
     from the same columns agree (`Field.Folds.eq_of_perm`).
-/
import Mathlib
import GameSheets.Proofs.Declaration.Homes
import GameSheets.Proofs.Workbook.Merging

namespace GameSheets

/-! ## Keys that make arrays -/

namespace GroupMember

/-- The members make an array: their indices are those from 1 to their number, each of them once and
in any order, and all members have one type and one inclusion. -/
structure MakeArray (platform : Platform) (members : List GroupMember) : Prop where
  indices_perm : (members.map (·.index)).Perm (List.range' 1 members.length)
  same_base : ∀ member ∈ members, ∀ other ∈ members,
    member.column.type.base? = other.column.type.base?
  same_inclusion : ∀ member ∈ members, ∀ other ∈ members,
    member.column.type.includes platform = other.column.type.includes platform

theorem fault?_eq_none_iff_makeArray {platform : Platform} {members : List GroupMember}
    (h : members ≠ []) : fault? platform members = none ↔ MakeArray platform members := by
  rw [fault?_eq_none]
  constructor
  · rintro ⟨-, hindices, huniform⟩
    exact ⟨hindices, fun member hmember other hother => (huniform member hmember other hother).1,
      fun member hmember other hother => (huniform member hmember other hother).2⟩
  · rintro ⟨hindices, hbase, hinclusion⟩
    exact ⟨h, hindices, fun member hmember other hother =>
      ⟨hbase member hmember other hother, hinclusion member hmember other hother⟩⟩

end GroupMember

namespace Column

/-- The name has the key of an array. -/
def hasKey (key : String) (name : String) : Bool :=
  (Slot.ofName? name).map Slot.key == some key

theorem hasKey_iff {key name : String} :
    hasKey key name = true ↔ ∃ index, Slot.ofName? name = some ⟨key, index⟩ := by
  unfold hasKey
  rw [beq_iff_eq, Option.map_eq_some_iff]
  constructor
  · rintro ⟨⟨slotKey, index⟩, hslot, rfl⟩
    exact ⟨index, hslot⟩
  · rintro ⟨index, hslot⟩
    exact ⟨⟨key, index⟩, hslot, rfl⟩

/-- The column has a key, and the columns of that key make no array. -/
def LacksArray (platform : Platform) (columns : List Column) (column : Column) : Prop :=
  ∃ slot, Slot.ofName? column.name = some slot ∧
    ¬ GroupMember.MakeArray platform (KeptColumn.group columns slot)

/-- The platform keeps the column, and it is not the one that supplies the row's name. -/
structure Declaring (platform : Platform) (rowName : String) (column : Column) : Prop where
  included : column.type.includes platform = true
  not_supplying :
    ¬ (platform = .client ∧ column.name = rowName ∧ column.type.base? = some .string)

/-- A column that a platform keeps is of a type. -/
theorem exists_base_of_includes {platform : Platform} {column : Column}
    (h : column.type.includes platform = true) : ∃ base, column.type.base? = some base := by
  cases htype : column.type with
  | comment cell =>
    rw [htype] at h
    cases h
  | typed base _ _ _ => exact ⟨base, rfl⟩

/-- A group has as many members as there are columns of its key. -/
theorem length_group (key : String) (columns : List Column) :
    (columns.filterMap (GroupMember.of? key)).length =
      (columns.map (·.name)).countP (hasKey key) := by
  rw [List.length_filterMap_eq_countP, List.countP_map]
  refine List.countP_congr ?_
  intro column _
  show (GroupMember.of? key column).isSome = true ↔ hasKey key column.name = true
  unfold GroupMember.of? hasKey
  cases Slot.ofName? column.name with
  | none => simp
  | some slot =>
    by_cases hkey : slot.key = key
    · simp [hkey]
    · simp [hkey]

end Column

namespace KeptColumn

variable {platform : Platform} {columns : List Column}

/-- The group of a kept column is sound where its key makes an array. -/
theorem grouped_iff {column : KeptColumn}
    (hcolumn : column ∈ columns.filterMap (·.keptOn? platform)) :
    column.Grouped platform columns ↔
      ∀ slot, Slot.ofName? column.name = some slot →
        GroupMember.MakeArray platform (group columns slot) := by
  unfold Grouped
  constructor
  · intro h slot hslot
    exact (GroupMember.fault?_eq_none_iff_makeArray (group_ne_nil hcolumn hslot)).mp (h slot hslot)
  · intro h slot hslot
    exact (GroupMember.fault?_eq_none_iff_makeArray (group_ne_nil hcolumn hslot)).mpr (h slot hslot)

end KeptColumn

/-! ## Fields that are arrays -/

namespace Field

/-- The field is the array of a key: it has the type of every column of the key, and a slot for each
of them. -/
structure Folds (columns : List Column) (key : String) (field : Field) : Prop where
  name_eq : field.name = key ++ "s"
  shape_eq : field.shape = .array ((columns.map (·.name)).countP (Column.hasKey key))
  exists_column : ∃ column ∈ columns, Column.hasKey key column.name = true
  base_eq : ∀ column ∈ columns, Column.hasKey key column.name = true →
    column.type.base? = some field.base

/-- Arrays of one name are of one type and one size, where they are folded from the same columns in
any order. -/
theorem Folds.eq_of_perm {columns others : List Column} {key otherKey : String}
    {field other : Field} (h : field.Folds columns key) (hother : other.Folds others otherKey)
    (hperm : (columns.map fun column => (column.name, column.type)).Perm
      (others.map fun column => (column.name, column.type)))
    (hname : field.name = other.name) : field.base = other.base ∧ field.shape = other.shape := by
  have hkey : key = otherKey := by
    rw [h.name_eq, hother.name_eq] at hname
    exact (String.append_left_inj "s").mp hname
  subst hkey
  constructor
  · obtain ⟨column, hcolumn, hhas⟩ := h.exists_column
    have hmem := hperm.mem_iff.mp (List.mem_map_of_mem hcolumn)
    obtain ⟨same, hsame, heq⟩ := List.mem_map.mp hmem
    obtain ⟨hsameName, hsameType⟩ := Prod.mk.inj heq
    have hbase := h.base_eq column hcolumn hhas
    have hotherBase := hother.base_eq same hsame (by rw [hsameName]; exact hhas)
    rw [hsameType, hbase] at hotherBase
    exact Option.some.inj hotherBase
  · have hnames : (columns.map (·.name)).Perm (others.map (·.name)) := by
      have hfirst := hperm.map Prod.fst
      rw [List.map_map, List.map_map] at hfirst
      exact hfirst
    rw [h.shape_eq, hother.shape_eq, hnames.countP_eq]

end Field

/-- The array that the first slot of a sound group declares is that of its key. -/
theorem KeptColumn.folds_of_slot {platform : Platform} {columns : List Column}
    {column : KeptColumn} {slot : Slot}
    (hcolumn : column ∈ columns.filterMap (·.keptOn? platform))
    (hgrouped : column.Grouped platform columns) (hslot : Slot.ofName? column.name = some slot) :
    Field.Folds columns slot.key
      ⟨slot.fieldName, column.base, .array (group columns slot).length, column.slotInit,
        .column⟩ := by
  have hmake := (grouped_iff hcolumn).mp hgrouped slot hslot
  obtain ⟨source, hsource, hkept⟩ := List.mem_filterMap.mp hcolumn
  obtain ⟨-, hbase, -, hname, -⟩ := Column.keptOn?_eq_some.mp hkept
  have hself : ⟨slot.index, source⟩ ∈ group columns slot :=
    GroupMember.mem_group.mpr ⟨hsource, hname ▸ hslot⟩
  refine ⟨rfl, congrArg FieldShape.array (Column.length_group slot.key columns),
    ⟨source, hsource, Column.hasKey_iff.mpr ⟨slot.index, hname ▸ hslot⟩⟩, ?_⟩
  intro other hother hhas
  obtain ⟨index, hotherSlot⟩ := Column.hasKey_iff.mp hhas
  have hmember : ⟨index, other⟩ ∈ group columns slot :=
    GroupMember.mem_group.mpr ⟨hother, hotherSlot⟩
  exact (hmake.same_base _ hmember _ hself).trans hbase

/-! ## Records -/

namespace Record

variable {platform : Platform} {rowName : String} {sheet : Sheet} {columns : List Column}

/-- A column declares where it is the kept form of a declaring column of the sheet. -/
theorem mem_declarers {kept : KeptColumn} :
    kept ∈ declarers rowName columns platform ↔
      ∃ column ∈ columns, column.keptOn? platform = some kept ∧
        column.Declaring platform rowName := by
  cases platform with
  | server =>
    rw [declarers, List.mem_filterMap]
    constructor
    · rintro ⟨column, hcolumn, hkept⟩
      exact ⟨column, hcolumn, hkept, (Column.keptOn?_eq_some.mp hkept).1, by rintro ⟨⟨⟩, -⟩⟩
    · rintro ⟨column, hcolumn, hkept, -⟩
      exact ⟨column, hcolumn, hkept⟩
  | client =>
    show kept ∈ KeptColumn.declaring rowName _ ↔ _
    rw [KeptColumn.mem_declaring, List.mem_filterMap]
    constructor
    · rintro ⟨⟨column, hcolumn, hkept⟩, hnot⟩
      obtain ⟨hincluded, hbase, -, hname, -⟩ := Column.keptOn?_eq_some.mp hkept
      refine ⟨column, hcolumn, hkept, hincluded, ?_⟩
      rintro ⟨-, hrowName, hstring⟩
      rw [hbase] at hstring
      exact hnot ⟨hname.trans hrowName, Option.some.inj hstring⟩
    · rintro ⟨column, hcolumn, hkept, -, hnot⟩
      obtain ⟨-, hbase, -, hname, -⟩ := Column.keptOn?_eq_some.mp hkept
      refine ⟨⟨column, hcolumn, hkept⟩, ?_⟩
      rintro ⟨hrowName, hstring⟩
      exact hnot ⟨rfl, hname.symm.trans hrowName, hstring ▸ hbase⟩

/-- A declaring column of the sheet has its kept form among those that declare. -/
theorem exists_declarer_of_declaring {column : Column} (hcolumn : column ∈ columns)
    (hdeclaring : column.Declaring platform rowName) :
    ∃ kept ∈ declarers rowName columns platform, kept.name = column.name := by
  obtain ⟨base, hbase⟩ := Column.exists_base_of_includes hdeclaring.included
  have hkept : column.keptOn? platform =
      some ⟨column.position, column.name, column.declared, base, column.type.isNullable⟩ :=
    Column.keptOn?_eq_some.mpr ⟨hdeclaring.included, hbase, rfl, rfl, rfl, rfl⟩
  exact ⟨_, mem_declarers.mpr ⟨column, hcolumn, hkept, hdeclaring⟩, rfl⟩

/-- A column that is named in an error about an array declares, and its key makes no array. -/
theorem lacksArray_of_ofSheet {name key : String} {fault : GroupFault}
    (hschema : sheet.schema = .ok columns)
    (h : ofSheet platform rowName sheet = .error (.badArray sheet.name name key fault)) :
    ∃ column ∈ columns, column.name = name ∧ column.Declaring platform rowName ∧
      column.LacksArray platform columns := by
  obtain ⟨before, kept, after, hdeclarers, -, hfault⟩ := exists_stop_of_ofSheet hschema h
  have hmem : kept ∈ declarers rowName columns platform := by
    rw [hdeclarers]
    exact List.mem_append_right _ List.mem_cons_self
  rcases hfault with ⟨slot, _, hslot, hfault, hcause⟩ | ⟨-, _, -, -, hcause⟩
  · obtain ⟨-, rfl, -, -⟩ := DeclarationError.badArray.inj hcause
    obtain ⟨column, hcolumn, hkeptOn, hdeclaring⟩ := mem_declarers.mp hmem
    obtain ⟨-, -, -, hname, -⟩ := Column.keptOn?_eq_some.mp hkeptOn
    refine ⟨column, hcolumn, hname.symm, hdeclaring, slot, hname ▸ hslot, ?_⟩
    intro hmake
    have hne := KeptColumn.group_ne_nil (mem_kept_of_mem_declarers hmem) hslot
    rw [(GroupMember.fault?_eq_none_iff_makeArray hne).mpr hmake] at hfault
    cases hfault
  · cases hcause

/-- A name is refused where a column's field would repeat it, behind columns whose keys all make
arrays. -/
theorem repeats_of_ofSheet {name : String} (hschema : sheet.schema = .ok columns)
    (h : ofSheet platform rowName sheet = .error (.duplicateField sheet.name name)) :
    ∃ before column after field,
      declarers rowName columns platform = before ++ column :: after ∧
        (∀ other ∈ before ++ [column], other.Grouped platform columns) ∧
        column.fieldIn columns = some field ∧ field.name = name ∧
        name ∈ (leading rowName platform ++ before.filterMap (·.fieldIn columns)).map
          (·.name) := by
  obtain ⟨before, column, after, hdeclarers, hbefore, hfault⟩ := exists_stop_of_ofSheet hschema h
  rcases hfault with ⟨_, _, -, -, hcause⟩ | ⟨hgrouped, field, hfield, htaken, hcause⟩
  · cases hcause
  · obtain ⟨-, rfl⟩ := DeclarationError.duplicateField.inj hcause
    refine ⟨before, column, after, field, hdeclarers, ?_, hfield, rfl, htaken⟩
    intro other hother
    rcases List.mem_append.mp hother with hother | hother
    · exact hbefore other hother
    · obtain rfl := List.mem_singleton.mp hother
      exact hgrouped

/-- A record has no declaring column whose key makes no array. -/
theorem not_lacksArray_of_ofSheet {record : Record} (hschema : sheet.schema = .ok columns)
    (h : ofSheet platform rowName sheet = .ok record) {column : Column}
    (hcolumn : column ∈ columns) (hdeclaring : column.Declaring platform rowName) :
    ¬ column.LacksArray platform columns := by
  rintro ⟨slot, hslot, hlacks⟩
  obtain ⟨kept, hkept, hname⟩ := exists_declarer_of_declaring hcolumn hdeclaring
  obtain ⟨others, hothers, hgrouped, -, -⟩ := ofSheet_eq_ok.mp h
  obtain rfl := Except.ok.inj (hschema.symm.trans hothers)
  exact hlacks ((KeptColumn.grouped_iff (mem_kept_of_mem_declarers hkept)).mp
    (hgrouped kept hkept) slot (hname ▸ hslot))

/-- When a sheet is refused for an array. -/
theorem badArray_iff (hschema : sheet.schema = .ok columns) :
    (∃ name key fault,
        ofSheet platform rowName sheet = .error (.badArray sheet.name name key fault)) ↔
      (∃ column ∈ columns, column.Declaring platform rowName ∧
        column.LacksArray platform columns) ∧
        ∀ name, ofSheet platform rowName sheet ≠ .error (.duplicateField sheet.name name) := by
  constructor
  · rintro ⟨name, key, fault, h⟩
    obtain ⟨column, hcolumn, -, hdeclaring, hlacks⟩ := lacksArray_of_ofSheet hschema h
    refine ⟨⟨column, hcolumn, hdeclaring, hlacks⟩, ?_⟩
    intro other hother
    rw [h] at hother
    cases hother
  · rintro ⟨⟨column, hcolumn, hdeclaring, hlacks⟩, hunique⟩
    cases h : ofSheet platform rowName sheet with
    | ok record => exact absurd hlacks (not_lacksArray_of_ofSheet hschema h hcolumn hdeclaring)
    | error cause =>
      obtain ⟨_, _, _, -, -, hfault⟩ := exists_stop_of_ofSheet hschema h
      rcases hfault with ⟨_, _, -, -, rfl⟩ | ⟨-, _, -, -, rfl⟩
      · exact ⟨_, _, _, rfl⟩
      · exact absurd h (hunique _)

/-- The arrays of a record are those of keys. -/
theorem folds_of_ofSheet {record : Record} (hschema : sheet.schema = .ok columns)
    (h : ofSheet platform rowName sheet = .ok record) {field : Field}
    (hfield : field ∈ record.fields) {size : Nat} (hshape : field.shape = .array size) :
    ∃ key, field.Folds columns key := by
  obtain ⟨others, hothers, hgrouped, -, rfl⟩ := ofSheet_eq_ok.mp h
  obtain rfl := Except.ok.inj (hschema.symm.trans hothers)
  rcases List.mem_append.mp hfield with hleading | hdeclared
  · -- the row's name is no array
    cases platform with
    | server => exact absurd hleading List.not_mem_nil
    | client =>
      obtain rfl := List.mem_singleton.mp hleading
      cases hshape
  · obtain ⟨kept, hkept, hdeclares⟩ := List.mem_filterMap.mp hdeclared
    rcases KeptColumn.fieldIn_eq_some.mp hdeclares with ⟨-, rfl⟩ | ⟨slot, hslot, -, rfl⟩
    · cases hshape
    · exact ⟨slot.key, KeptColumn.folds_of_slot (mem_kept_of_mem_declarers hkept)
        (hgrouped kept hkept) hslot⟩

/-- A record has the array of a key whose first slot declares. -/
theorem exists_folds_of_ofSheet {record : Record} (hschema : sheet.schema = .ok columns)
    (h : ofSheet platform rowName sheet = .ok record) {column : Column} {key : String}
    (hcolumn : column ∈ columns) (hdeclaring : column.Declaring platform rowName)
    (hslot : Slot.ofName? column.name = some ⟨key, 1⟩) :
    ∃ field ∈ record.fields, field.Folds columns key := by
  obtain ⟨others, hothers, hgrouped, -, rfl⟩ := ofSheet_eq_ok.mp h
  obtain rfl := Except.ok.inj (hschema.symm.trans hothers)
  obtain ⟨kept, hkept, hname⟩ := exists_declarer_of_declaring hcolumn hdeclaring
  rw [← hname] at hslot
  refine ⟨_, List.mem_append_right _ (List.mem_filterMap.mpr ⟨kept, hkept,
    KeptColumn.fieldIn_eq_some.mpr (.inr ⟨_, hslot, rfl, rfl⟩)⟩), ?_⟩
  exact KeptColumn.folds_of_slot (mem_kept_of_mem_declarers hkept) (hgrouped kept hkept) hslot

end Record

/-! ## Sheets and workbooks -/

namespace Sheet

/-- What the arrays of a sheet come to, whose columns with a type cell are given. -/
structure FoldsArrays (rowName : String) (sheet : Sheet) (columns : List Column) : Prop where
  /-- Where each column has a type cell, the given columns are all columns of the sheet. -/
  columns_eq : ∀ typeRow, sheet.typeRow? = some typeRow →
    sheet.columns.length ≤ typeRow.length → columns.map (·.name) = sheet.columns
  /-- The sheet is refused for an array where a key of a declaring column makes none, and no other
  error is met before. -/
  refused_iff : ∀ platform,
    (∃ name key fault,
        Record.ofSheet platform rowName sheet = .error (.badArray sheet.name name key fault)) ↔
      (∃ column ∈ columns, column.Declaring platform rowName ∧
        column.LacksArray platform columns) ∧
        ∀ name,
          Record.ofSheet platform rowName sheet ≠ .error (.duplicateField sheet.name name)
  /-- The error names such a column. -/
  refused_at : ∀ platform name key fault,
    Record.ofSheet platform rowName sheet = .error (.badArray sheet.name name key fault) →
      ∃ column ∈ columns, column.name = name ∧ column.Declaring platform rowName ∧
        column.LacksArray platform columns
  /-- The other error is met before: it is that of a column which repeats a field's name, behind
  columns whose keys make arrays. -/
  repeated_at : ∀ platform name,
    Record.ofSheet platform rowName sheet = .error (.duplicateField sheet.name name) →
      ∃ before column after field,
        Record.declarers rowName columns platform = before ++ column :: after ∧
          (∀ other ∈ before ++ [column], other.Grouped platform columns) ∧
          column.fieldIn columns = some field ∧ field.name = name ∧
          name ∈ (Record.leading rowName platform ++
            before.filterMap (·.fieldIn columns)).map (·.name)
  /-- There is no third error. -/
  refused_or_repeated : ∀ platform cause,
    Record.ofSheet platform rowName sheet = .error cause →
      (∃ name key fault, cause = .badArray sheet.name name key fault) ∨
        ∃ name, cause = .duplicateField sheet.name name
  /-- The arrays of a record are folded from the columns of their keys. -/
  folded : ∀ platform record, Record.ofSheet platform rowName sheet = .ok record →
    ∀ field ∈ record.fields, ∀ size, field.shape = .array size → ∃ key, field.Folds columns key
  /-- The array of a key is there where the column of index 1 declares. -/
  present : ∀ platform record, Record.ofSheet platform rowName sheet = .ok record →
    ∀ column ∈ columns, column.Declaring platform rowName →
      ∀ key, Slot.ofName? column.name = some ⟨key, 1⟩ →
        ∃ field ∈ record.fields, field.Folds columns key
  /-- Arrays of one name agree on all platforms, and in all sheets with the columns in another
  order. -/
  agree : ∀ platform record, Record.ofSheet platform rowName sheet = .ok record →
    ∀ (otherPlatform : Platform) (otherRowName : String) (otherSheet : Sheet)
      (others : List Column) (other : Record), otherSheet.schema = .ok others →
      (columns.map fun column => (column.name, column.type)).Perm
        (others.map fun column => (column.name, column.type)) →
      Record.ofSheet otherPlatform otherRowName otherSheet = .ok other →
      ∀ field ∈ record.fields, ∀ otherField ∈ other.fields, ∀ size otherSize,
        field.shape = .array size → otherField.shape = .array otherSize →
        field.name = otherField.name → field.base = otherField.base ∧ size = otherSize

theorem foldsArrays {rowName : String} {sheet : Sheet} {columns : List Column}
    (hschema : sheet.schema = .ok columns) : sheet.FoldsArrays rowName columns where
  columns_eq := fun _ htypeRow hlength => names_of_schema hschema htypeRow hlength
  refused_iff := fun _ => Record.badArray_iff hschema
  refused_at := fun _ _ _ _ h => Record.lacksArray_of_ofSheet hschema h
  repeated_at := fun _ _ h => Record.repeats_of_ofSheet hschema h
  refused_or_repeated := by
    intro platform cause h
    obtain ⟨_, _, _, -, -, hfault⟩ := Record.exists_stop_of_ofSheet hschema h
    rcases hfault with ⟨_, _, -, -, rfl⟩ | ⟨-, _, -, -, rfl⟩
    · exact .inl ⟨_, _, _, rfl⟩
    · exact .inr ⟨_, rfl⟩
  folded := fun _ _ h _ hfield _ hshape => Record.folds_of_ofSheet hschema h hfield hshape
  present := fun _ _ h _ hcolumn hdeclaring _ hslot =>
    Record.exists_folds_of_ofSheet hschema h hcolumn hdeclaring hslot
  agree := by
    intro platform record h otherPlatform otherRowName otherSheet others other hothers hperm hother
      field hfield otherField hotherField size otherSize hshape hotherShape hname
    obtain ⟨key, hfolds⟩ := Record.folds_of_ofSheet hschema h hfield hshape
    obtain ⟨otherKey, hotherFolds⟩ :=
      Record.folds_of_ofSheet hothers hother hotherField hotherShape
    obtain ⟨hbase, hsame⟩ := hfolds.eq_of_perm hotherFolds hperm hname
    rw [hshape, hotherShape] at hsame
    exact ⟨hbase, FieldShape.array.inj hsame⟩

end Sheet

namespace Workbook

/-- Every data sheet whose type cells can be read folds its arrays, from all its columns where it is
a merged sheet, and a workbook is declared sheet by sheet, up to the first that is refused. -/
theorem arrays_folded (workbook : Workbook) (rowName : String) :
    (∀ sheet ∈ workbook.dataSheets, ∀ columns, sheet.schema = .ok columns →
        sheet.FoldsArrays rowName columns) ∧
      (∀ merged, workbook.merge.outcome = .ok merged →
        ∀ sheet ∈ merged.dataSheets, ∀ columns, sheet.schema = .ok columns →
          columns.map (·.name) = sheet.columns ∧ sheet.FoldsArrays rowName columns) ∧
      ∀ platform,
        (∀ cause, workbook.records platform rowName = .error cause ↔
          ∃ before sheet after, workbook.dataSheets = before ++ sheet :: after ∧
            (∀ other ∈ before, ∃ record, Record.ofSheet platform rowName other = .ok record) ∧
            Record.ofSheet platform rowName sheet = .error cause) ∧
        ∀ records, workbook.records platform rowName = .ok records ↔
          List.Forall₂ (fun sheet record => Record.ofSheet platform rowName sheet = .ok record)
            workbook.dataSheets records := by
  refine ⟨fun _ _ _ hschema => Sheet.foldsArrays hschema, ?_,
    fun _ => ⟨fun _ => Outcome.mapM_eq_error, fun _ => Outcome.mapM_eq_ok⟩⟩
  intro merged hmerge sheet hsheet columns hschema
  have hshaped := (shaped_of_merge hmerge).2 sheet (List.mem_filter.mp hsheet).1
  exact ⟨hshaped.names_of_schema hschema, Sheet.foldsArrays hschema⟩

/-! ### Slots in any order -/

/-- A sheet whose second slot stands before its first, and is written with a zero in front. -/
def shuffledSlots : Sheet :=
  ⟨"Spawn", ["Id", "Slot_02", "Note", "Slot_1"], [["int32_cs", "float_s", "#", "float_s"]]⟩

/-- The columns of the sheet as they are read. -/
def shuffledColumns : List Column := [
  ⟨0, "Id", "int32_cs", .typed .int32 false true true⟩,
  ⟨1, "Slot_02", "float_s", .typed .float false true false⟩,
  ⟨2, "Note", "#", .comment "#"⟩,
  ⟨3, "Slot_1", "float_s", .typed .float false true false⟩]

/-- The record of the sheet. -/
def shuffledRecord : Record where
  name := "Spawn"
  fields := [
    ⟨"Id", .int32, .scalar, .default, .column⟩,
    ⟨"Slots", .float, .array 2, .zero, .column⟩]
  codec := some (Codec.ofColumns (shuffledColumns.filterMap (·.keptOn? .server)))

/-- The sheet alone, which merging leaves as it is. -/
def shuffled : Workbook where
  sheets := [shuffledSlots]
  exportedAt := none

theorem shuffled_folded :
    shuffled.merge.outcome = .ok shuffled ∧
      shuffled.records .server "Name" = .ok [shuffledRecord] ∧
      shuffledColumns.map (·.name) = shuffledSlots.columns ∧
      ∀ field ∈ shuffledRecord.fields, ∀ size, field.shape = .array size →
        ∃ key, field.Folds shuffledColumns key := by
  have hslots : ∀ column ∈ shuffledColumns.filterMap (·.keptOn? .server),
      ∀ key ∈ (Slot.ofName? column.name).map Slot.key, key = "Slot" := by decide +kernel
  have hslot : GroupMember.fault? .server
      (shuffledColumns.filterMap (GroupMember.of? "Slot")) = none := by cbv
  have hrecord : Record.ofSheet .server "Name" shuffledSlots = .ok shuffledRecord :=
    Record.ofSheet_server_eq_ok.mpr ⟨shuffledColumns, by rfl,
      KeptColumn.grouped_of_key hslots hslot, by decide, by rfl⟩
  have hmerge : shuffled.merge.outcome = .ok shuffled := by decide +kernel
  obtain ⟨-, hmerged, hrecords⟩ := arrays_folded shuffled "Name"
  obtain ⟨hnames, hfolds⟩ :=
    hmerged shuffled hmerge shuffledSlots List.mem_cons_self shuffledColumns (by rfl)
  refine ⟨hmerge, ((hrecords .server).2 _).mpr (.cons hrecord .nil), hnames, ?_⟩
  exact hfolds.folded .server shuffledRecord hrecord

end Workbook

end GameSheets

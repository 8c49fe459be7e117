/-
  Names inside the function that reads and writes a row.

  The function has names of its own: its parameter `archive` and the temporaries, each named after
  a column.  Where a statement speaks of a place of the row, it gives the name of the member first,
  and a local variable of that name would be found instead of the member.

    columns A, temp_A        temp_A = A;    temp_temp_A = temp_A;

  The second statement reads the temporary of `A`, not the member `temp_A`.

  1. A statement is written with its place at its start or behind the temporary that it assigns to,
     the name of the place first (`Transfer.writesPlace`).
  2. The local names differ from each other, and a temporary does not have the name of the member
     that it is for: it is longer (`Place.root_ofColumn_ne`).
  3. So a member is hidden in two cases alone: it comes from a column named `archive`, or its name
     is that of the temporary of another column (`Codec.Scoped`).  Both are told from the names of
     the columns, and the second needs a name with the temporaries' mark in front of it.
-/
import GameSheets.Header.Server
import GameSheets.Proofs.Declaration.RoundTrip

namespace GameSheets

/-! ## The name of a place -/

namespace Place

/-- The name with which the place starts, written out. -/
def root : Place → String
  | .field name => name
  | .element array _ => array

/-- What is written behind the name: nothing, or an index where the place is a slot. -/
def IsIndex (index : String) : Prop :=
  index = "" ∨ ∃ offset : Nat, index = "[" ++ toString offset ++ "]"

/-- A place is written with its name first. -/
theorem placeText_eq (place : Place) :
    ∃ index, IsIndex index ∧ Header.placeText place = place.root ++ index := by
  cases place with
  | field name => exact ⟨"", .inl rfl, String.append_empty.symm⟩
  | element array offset =>
    refine ⟨"[" ++ toString offset ++ "]", .inr ⟨offset, rfl⟩, ?_⟩
    simp only [Header.placeText, root, String.append_assoc]

/-- A column's member has the column's name, or that of the array in which the column is a slot. -/
theorem root_ofColumn (name : String) :
    (ofColumn name).root = name ∨
      ∃ slot, Slot.ofName? name = some slot ∧ (ofColumn name).root = slot.fieldName := by
  unfold ofColumn
  cases Slot.ofName? name with
  | none => exact .inl rfl
  | some slot => exact .inr ⟨slot, rfl, rfl⟩

/-- A column's member does not have the name of the column's own temporary, which is longer. -/
theorem root_ofColumn_ne (name : String) : (ofColumn name).root ≠ "temp_" ++ name := by
  intro h
  have hlength : (ofColumn name).root.toList.length = 5 + name.toList.length := by
    rw [h, String.toList_append, List.length_append]
    rfl
  rcases root_ofColumn name with hroot | ⟨slot, hslot, hroot⟩
  · rw [hroot] at hlength
    omega
  · obtain ⟨-, digits, hdigits⟩ := Slot.toList_of_ofName? hslot
    have hmember : (ofColumn name).root.toList.length = slot.key.toList.length + 1 := by
      rw [hroot, Slot.fieldName, String.toList_append, List.length_append]
      rfl
    have hname : name.toList.length = slot.key.toList.length + (digits.length + 1) := by
      rw [hdigits, List.length_append, List.length_cons]
    omega

/-- The member of a column has the parameter's name where the column has it: no array is named
so. -/
theorem root_ofColumn_eq_archive {name : String} :
    (ofColumn name).root = "archive" ↔ name = "archive" := by
  constructor
  · intro h
    rcases root_ofColumn name with hroot | ⟨slot, hslot, hroot⟩
    · rw [← hroot, h]
    · have hlast : (slot.key.toList ++ ['s']).getLast? = "archive".toList.getLast? := by
        rw [← h, hroot, Slot.fieldName, String.toList_append]
        rfl
      rw [List.getLast?_concat] at hlast
      exact absurd hlast (by decide)
  · rintro rfl
    decide +kernel

/-- The member of a column has the mark of the temporaries only where the column has it. -/
theorem mark_of_root_ofColumn {name other : String} (h : (ofColumn name).root = "temp_" ++ other) :
    "temp_".toList <+: name.toList := by
  rcases root_ofColumn name with hroot | ⟨slot, hslot, hroot⟩
  · rw [← hroot, h, String.toList_append]
    exact List.prefix_append _ _
  · obtain ⟨-, digits, hdigits⟩ := Slot.toList_of_ofName? hslot
    have hmark : "temp_".toList <+: slot.key.toList ++ ['s'] := by
      have hfieldName : slot.key.toList ++ ['s'] = slot.fieldName.toList := by
        rw [Slot.fieldName, String.toList_append]
        rfl
      rw [hfieldName, ← hroot, h, String.toList_append]
      exact List.prefix_append _ _
    -- the mark does not end as the name of an array does
    rcases List.prefix_concat_iff.mp hmark with hall | hkey
    · have hlast := congrArg List.getLast? hall
      rw [List.getLast?_concat] at hlast
      exact absurd hlast (by decide)
    · rw [hdigits]
      exact hkey.trans (List.prefix_append _ _)

end Place

/-! ## Statements -/

namespace Transfer

/-- What is written in front of the place: the temporary that the statement assigns to, if it
assigns to one. -/
def lead : Transfer → String
  | load temporary _ | loadName temporary _ | loadText temporary _ => temporary ++ " = "
  | store _ _ | storeName _ _ _ | storeText _ _ => ""

/-- The statement is written with its place behind the lead, the name of the place first. -/
def WritesPlace (transfer : Transfer) : Prop :=
  ∃ index after, Place.IsIndex index ∧
    Header.transferText transfer = transfer.lead ++ (transfer.place.root ++ index) ++ after

theorem writesPlace (transfer : Transfer) : transfer.WritesPlace := by
  obtain ⟨index, hindex, hplace⟩ := transfer.place.placeText_eq
  cases transfer with
  | load => exact ⟨index, ";", hindex, hplace ▸ rfl⟩
  | loadName => exact ⟨index, "._to_string();", hindex, hplace ▸ rfl⟩
  | loadText => exact ⟨index, ".ToString();", hindex, hplace ▸ rfl⟩
  | store _ temporary =>
    refine ⟨index, " = " ++ temporary ++ ";", hindex, ?_⟩
    rw [← hplace]
    simp only [Header.transferText, lead, place, String.empty_append, String.append_assoc]
  | storeName _ temporary enumType =>
    refine ⟨index, " = " ++ enumType ++ "::_from_string(" ++ temporary ++ ".c_str());", hindex, ?_⟩
    rw [← hplace]
    simp only [Header.transferText, lead, place, String.empty_append, String.append_assoc]
  | storeText _ temporary =>
    refine ⟨index, ".InitFromString(" ++ temporary ++ ");", hindex, ?_⟩
    rw [← hplace]
    simp only [Header.transferText, lead, place, String.empty_append, String.append_assoc]

end Transfer

/-! ## Names in the function -/

namespace Codec

/-- The names that the function declares: its parameter, and the temporaries. -/
def localNames (codec : Codec) : List String :=
  "archive" :: codec.temporaries.map (·.name)

/-- The names of the columns that the codec stores. -/
def keys (codec : Codec) : List String :=
  codec.temporaries.map (·.key)

/-- No member is hidden: no field has a local name, and the place in every statement starts with the
name of a field, which is none of the local names. -/
structure DenotesMembers (codec : Codec) (record : Record) : Prop where
  fields_seen : ∀ field ∈ record.fields, field.name ∉ codec.localNames
  places_seen : ∀ transfer ∈ codec.encode ++ codec.decode,
    transfer.place.root ∈ record.fields.map (·.name) ∧ transfer.place.root ∉ codec.localNames

/-- What names in the function stand for.  Local names differ; statements are written with the names
of their places, which are places of the record, and none of them is hidden by the statement's own
temporary; and members are hidden only by the parameter or by temporaries of other columns. -/
structure Scoped (codec : Codec) (record : Record) : Prop where
  locals_nodup : codec.localNames.Nodup
  places_written : ∀ transfer ∈ codec.encode ++ codec.decode, transfer.WritesPlace
  places_declared : ∀ transfer ∈ codec.encode ++ codec.decode,
    transfer.place.root ∈ record.fields.map (·.name)
  own_seen : ∀ transfer ∈ codec.encode ++ codec.decode,
    transfer.place.root ≠ transfer.temporary
  denotes_iff : codec.DenotesMembers record ↔
    ∀ key ∈ codec.keys, key ≠ "archive" ∧
      ∀ other ∈ codec.keys, other ≠ key → (Place.ofColumn key).root ≠ "temp_" ++ other
  denotes_of_unmarked :
    (∀ key ∈ codec.keys, key ≠ "archive" ∧ ¬ "temp_".toList <+: key.toList) →
      codec.DenotesMembers record

end Codec

/-- Assignments in inverse ways speak of the same temporary and place. -/
theorem Transfer.UndoneBy.same {transfer other : Transfer} (h : transfer.UndoneBy other) :
    other.temporary = transfer.temporary ∧ other.place = transfer.place := by
  cases transfer with
  | load _ _ | loadName _ _ | loadText _ _ =>
    cases other with
    | load _ _ | loadName _ _ | loadText _ _ | store _ _ | storeName _ _ _ | storeText _ _ =>
      first
      | exact ⟨h.1.symm, h.2.symm⟩
      | exact h.elim
  | store _ _ | storeName _ _ _ | storeText _ _ => exact h.elim

namespace Codec

variable {platform : Platform} {columns : List Column} {record : Record}

/-- Every statement is one of a column. -/
theorem exists_column_of_transfer {kept : List KeptColumn} {transfer : Transfer}
    (h : transfer ∈ (ofColumns kept).encode ++ (ofColumns kept).decode) :
    ∃ column ∈ kept, transfer.place = column.place ∧
      transfer.temporary = column.temporaryName := by
  rcases List.mem_append.mp h with hencode | hdecode
  · obtain ⟨column, hcolumn, rfl⟩ := List.mem_map.mp hencode
    obtain ⟨htemporary, hplace, -⟩ := column.encodeTransfer_undoneBy
    exact ⟨column, hcolumn, hplace, htemporary⟩
  · obtain ⟨column, hcolumn, rfl⟩ := List.mem_map.mp hdecode
    obtain ⟨htemporary, hplace, hundone⟩ := column.encodeTransfer_undoneBy
    obtain ⟨hsameTemporary, hsamePlace⟩ := hundone.same
    exact ⟨column, hcolumn, hsamePlace.trans hplace, hsameTemporary.trans htemporary⟩

/-- The names of the fields are those with which the places of the columns start. -/
theorem mem_names_iff
    (hgrouped : ∀ column ∈ columns.filterMap (·.keptOn? platform),
      column.Grouped platform columns)
    (hfields : record.fields =
      (columns.filterMap (·.keptOn? platform)).filterMap (·.fieldIn columns)) {name : String} :
    name ∈ record.fields.map (·.name) ↔
      ∃ column ∈ columns.filterMap (·.keptOn? platform), column.place.root = name := by
  rw [hfields]
  constructor
  · intro hname
    obtain ⟨field, hfield, rfl⟩ := List.mem_map.mp hname
    obtain ⟨column, hcolumn, hdeclared⟩ := List.mem_filterMap.mp hfield
    refine ⟨column, hcolumn, ?_⟩
    rcases KeptColumn.fieldIn_eq_some.mp hdeclared with ⟨hslot, rfl⟩ | ⟨slot, hslot, -, rfl⟩
    · rw [KeptColumn.place, hslot]
      rfl
    · rw [KeptColumn.place, hslot]
      rfl
  · rintro ⟨column, hcolumn, rfl⟩
    obtain ⟨first, hfirst, field, hfield, -, hoffers, -⟩ :=
      KeptColumn.exists_offers_of_kept hcolumn (hgrouped column hcolumn)
    refine List.mem_map.mpr ⟨field, List.mem_filterMap.mpr ⟨first, hfirst, hfield⟩, ?_⟩
    cases hplace : column.place with
    | field name => exact (hplace ▸ hoffers : field.Offers (.field name)).1
    | element name offset => exact (hplace ▸ hoffers : field.Offers (.element name offset)).1

/-- A column's member is seen where its column is not named as the parameter, and where its name is
not that of a temporary. -/
theorem root_not_mem_localNames {kept : List KeptColumn} {column : KeptColumn} :
    column.place.root ∉ (ofColumns kept).localNames ↔
      column.name ≠ "archive" ∧ ∀ other ∈ kept, column.place.root ≠ "temp_" ++ other.name := by
  have hnames : (ofColumns kept).temporaries.map (·.name) = kept.map (·.temporaryName) := by
    rw [ofColumns, List.map_map]
    rfl
  rw [localNames, hnames, List.mem_cons, not_or, List.mem_map, not_exists, column.place_eq,
    Place.root_ofColumn_eq_archive]
  constructor
  · rintro ⟨harchive, htemporaries⟩
    refine ⟨harchive, ?_⟩
    intro other hother heq
    exact htemporaries other ⟨hother, heq.symm⟩
  · rintro ⟨harchive, htemporaries⟩
    refine ⟨harchive, ?_⟩
    rintro other ⟨hother, heq⟩
    exact htemporaries other hother heq.symm

/-- No member is hidden where the members of all columns are seen. -/
theorem denotesMembers_iff
    (hgrouped : ∀ column ∈ columns.filterMap (·.keptOn? platform),
      column.Grouped platform columns)
    (hfields : record.fields =
      (columns.filterMap (·.keptOn? platform)).filterMap (·.fieldIn columns)) :
    (ofColumns (columns.filterMap (·.keptOn? platform))).DenotesMembers record ↔
      ∀ column ∈ columns.filterMap (·.keptOn? platform), column.name ≠ "archive" ∧
        ∀ other ∈ columns.filterMap (·.keptOn? platform),
          column.place.root ≠ "temp_" ++ other.name := by
  constructor
  · intro hdenotes column hcolumn
    obtain ⟨field, hfield, hname⟩ :=
      List.mem_map.mp ((mem_names_iff hgrouped hfields).mpr ⟨column, hcolumn, rfl⟩)
    refine root_not_mem_localNames.mp ?_
    rw [← hname]
    exact hdenotes.fields_seen field hfield
  · intro hseen
    constructor
    · intro field hfield
      obtain ⟨column, hcolumn, hname⟩ :=
        (mem_names_iff hgrouped hfields).mp (List.mem_map_of_mem hfield)
      rw [← hname]
      exact root_not_mem_localNames.mpr (hseen column hcolumn)
    · intro transfer htransfer
      obtain ⟨column, hcolumn, hplace, -⟩ := exists_column_of_transfer htransfer
      rw [hplace]
      exact ⟨(mem_names_iff hgrouped hfields).mpr ⟨column, hcolumn, rfl⟩,
        root_not_mem_localNames.mpr (hseen column hcolumn)⟩

/-- The parameter and the temporaries of different columns have different names. -/
theorem nodup_localNames {kept : List KeptColumn} (hkeys : (kept.map (·.name)).Nodup) :
    (ofColumns kept).localNames.Nodup := by
  have hnames : (ofColumns kept).temporaries.map (·.name) =
      (kept.map (·.name)).map ("temp_" ++ ·) := by
    rw [ofColumns, List.map_map, List.map_map]
    rfl
  rw [localNames, hnames, List.nodup_cons]
  constructor
  · intro hmem
    obtain ⟨key, -, hkey⟩ := List.mem_map.mp hmem
    have hhead := congrArg (fun text => text.toList.head?) hkey
    simp only [String.toList_append] at hhead
    exact absurd hhead (by simp)
  · refine hkeys.map ?_
    intro key other hsame
    exact (String.append_right_inj "temp_").mp hsame

/-- The codec of the kept columns and their record. -/
theorem scoped_ofColumns
    (hgrouped : ∀ column ∈ columns.filterMap (·.keptOn? platform),
      column.Grouped platform columns)
    (hfields : record.fields =
      (columns.filterMap (·.keptOn? platform)).filterMap (·.fieldIn columns))
    (hkeys : ((columns.filterMap (·.keptOn? platform)).map (·.name)).Nodup) :
    (ofColumns (columns.filterMap (·.keptOn? platform))).Scoped record := by
  have hkeysEq : (ofColumns (columns.filterMap (·.keptOn? platform))).keys =
      (columns.filterMap (·.keptOn? platform)).map (·.name) := by
    rw [keys, ofColumns, List.map_map]
    rfl
  have hdenotes := denotesMembers_iff hgrouped hfields
  refine ⟨nodup_localNames hkeys, fun transfer _ => transfer.writesPlace, ?_, ?_, ?_, ?_⟩
  · intro transfer htransfer
    obtain ⟨column, hcolumn, hplace, -⟩ := exists_column_of_transfer htransfer
    exact (mem_names_iff hgrouped hfields).mpr ⟨column, hcolumn, by rw [hplace]⟩
  · intro transfer htransfer
    obtain ⟨column, -, hplace, htemporary⟩ := exists_column_of_transfer htransfer
    rw [hplace, htemporary]
    exact Place.root_ofColumn_ne column.name
  · rw [hdenotes, hkeysEq, List.forall_mem_map]
    refine forall₂_congr fun column _ => and_congr_right fun _ => ?_
    rw [List.forall_mem_map]
    refine forall₂_congr fun other _ => ?_
    constructor
    · exact fun hseen _ => hseen
    · -- a column's own temporary hides nothing of it
      intro hseen
      by_cases hsame : other.name = column.name
      · rw [hsame]
        exact Place.root_ofColumn_ne column.name
      · exact hseen hsame
  · rw [hdenotes, hkeysEq, List.forall_mem_map]
    intro hunmarked column hcolumn
    obtain ⟨harchive, hmark⟩ := hunmarked column hcolumn
    refine ⟨harchive, ?_⟩
    intro other _ heq
    exact hmark (Place.mark_of_root_ofColumn heq)

end Codec

namespace Workbook

/-- In every function that reads and writes a row of a server record, members are hidden only by
the parameter or by the temporary of another column, and not where column names have no mark. -/
theorem server_scoped {workbook : Workbook} {rowName : String} {records : List Record}
    (hrecords : workbook.records .server rowName = .ok records) :
    ∀ record ∈ records, ∃ codec, record.codec = some codec ∧ codec.Scoped record := by
  intro record hrecord
  obtain ⟨sheet, -, hsheet⟩ := Outcome.exists_of_mem_right (Outcome.mapM_eq_ok.mp hrecords) hrecord
  obtain ⟨columns, hschema, hgrouped, -, hfields⟩ := Record.ofSheet_server_eq_ok.mp hsheet
  obtain ⟨-, hcodec, hkeys⟩ := Record.codec_of_ofSheet hschema hsheet
  exact ⟨_, hcodec, Codec.scoped_ofColumns hgrouped (congrArg Record.fields hfields) hkeys⟩

theorem spawnRecord_denotes :
    spawnWorkbook.records .server "Name" = .ok [spawnRecord] ∧
      ∃ codec, spawnRecord.codec = some codec ∧ codec.Scoped spawnRecord ∧
        codec.DenotesMembers spawnRecord := by
  obtain ⟨codec, hcodec, hscoped⟩ :=
    server_scoped spawnWorkbook_records spawnRecord List.mem_cons_self
  refine ⟨spawnWorkbook_records, codec, hcodec, hscoped, hscoped.denotes_of_unmarked ?_⟩
  obtain rfl := Option.some.inj hcodec
  decide +kernel

/-! ### A column that is named as the temporary of another one -/

/-- A sheet with such a column. -/
def marked : Workbook where
  sheets := [⟨"Item", ["Id", "Power", "temp_Power"], [["int32_s", "int32_s", "int32_s"]]⟩]
  exportedAt := none

/-- The record of the sheet. -/
def markedRecord : Record where
  name := "Item"
  fields := [
    ⟨"Id", .int32, .scalar, .default, .column⟩,
    ⟨"Power", .int32, .scalar, .default, .column⟩,
    ⟨"temp_Power", .int32, .scalar, .default, .column⟩]
  codec := some (Codec.ofColumns [
    ⟨0, "Id", "int32_s", .int32, false⟩,
    ⟨1, "Power", "int32_s", .int32, false⟩,
    ⟨2, "temp_Power", "int32_s", .int32, false⟩])

/-- There is a member that no statement reaches: the temporary of another column has its name. -/
theorem markedRecord_hidden :
    marked.records .server "Name" = .ok [markedRecord] ∧
      ∃ codec, markedRecord.codec = some codec ∧
        "temp_Power" ∈ markedRecord.fields.map (·.name) ∧ "temp_Power" ∈ codec.localNames ∧
        .load "temp_temp_Power" (.field "temp_Power") ∈ codec.encode ∧
        ¬ codec.DenotesMembers markedRecord := by
  refine ⟨by decide +kernel, _, rfl, by decide, by decide, by decide, ?_⟩
  intro hdenotes
  have hfield : ⟨"temp_Power", .int32, .scalar, .default, .column⟩ ∈ markedRecord.fields := by
    decide
  exact hdenotes.fields_seen _ hfield (by decide)

end Workbook

end GameSheets

/-
  The names of declared types.

  Enumerations and row types are declared in two headers, each in a pass of its own over the sheets
  of its kind.  The headers are compiled together, so that a name must not be declared twice.

  1. A row type has the name of its sheet, and an enumeration the name of a reference to its sheet.
     Merging ends names in front of their first underscore, and a reference has one, so that no row
     type is taken for an enumeration (`BaseType.referenceTo_ne`).
  2. Merged sheets have different names, and references to them differ as their names do.
  3. A field that refers to a sheet has the name of the reference for its type.  So it finds the
     enumeration of that sheet and no other declaration; and it finds none where there is no such
     enum sheet, also where a row type has the name that is referred to.
-/
import GameSheets.Proofs.Declaration.Fields
import GameSheets.Proofs.Table.Symbols
import GameSheets.Proofs.Workbook.NormalForm

namespace GameSheets

namespace BaseType

/-- A reference has an underscore in its name. -/
theorem referenceTo_ne {sheet name : String} (hplain : '_' ∉ name.toList) :
    referenceTo sheet ≠ name := by
  rintro rfl
  have hmark : '_' ∈ (referenceTo sheet).toList := by
    rw [referenceTo, String.toList_append]
    exact List.mem_append_left _ (by decide)
  exact hplain hmark

end BaseType

namespace Workbook

/-! ## Declarations -/

/-- The names that declarations give to types, those of enumerations first. -/
def typeNames (enumerations : List Enumeration) (records : List Record) : List String :=
  enumerations.map (·.name) ++ records.map (·.name)

variable {workbook : Workbook} {platform : Platform} {rowName : String}
  {enumerations : List Enumeration} {records : List Record}

/-- The sheets that declare types are different ones, and their names tell the two kinds apart. -/
theorem typeNames_nodup (hnormal : workbook.IsNormal)
    (henumerations : workbook.enumerations = .ok enumerations)
    (hrecords : workbook.records platform rowName = .ok records) :
    (typeNames enumerations records).Nodup := by
  have hrecordNames := names_of_records hrecords
  have hdataNames : (records.map (·.name)).Nodup := by
    rw [hrecordNames]
    exact hnormal.names_nodup.sublist (List.filter_sublist.map _)
  have hdisjoint : ∀ first ∈ enumerations.map (·.name), ∀ second ∈ records.map (·.name),
      first ≠ second := by
    intro first hfirst second hsecond
    obtain ⟨enumeration, henumeration, rfl⟩ := List.mem_map.mp hfirst
    obtain ⟨enumSheet, -, hdeclared⟩ :=
      Outcome.exists_of_mem_right (declaredBy_of_enumerations henumerations) henumeration
    rw [hrecordNames] at hsecond
    obtain ⟨sheet, hsheet, rfl⟩ := List.mem_map.mp hsecond
    have hplain := hnormal.names_plain sheet (List.mem_of_mem_filter hsheet)
    rw [hdeclared.name_eq]
    exact BaseType.referenceTo_ne hplain
  exact List.nodup_append.mpr
    ⟨nodup_enumeration_names hnormal.names_nodup henumerations, hdataNames, hdisjoint⟩

/-- A reference to an enum sheet is the name of the sheet's enumeration. -/
theorem exists_enumeration_of_hasEnumSheet
    (henumerations : workbook.enumerations = .ok enumerations) {name : String}
    (hfound : workbook.HasEnumSheet name) :
    ∃ enumeration ∈ enumerations, enumeration.sheet = name ∧
      enumeration.name = BaseType.referenceTo name := by
  obtain ⟨sheet, hsheet, rfl⟩ := hfound
  obtain ⟨enumeration, hmem, hdeclared⟩ :=
    Outcome.exists_of_mem_left (declaredBy_of_enumerations henumerations) hsheet
  exact ⟨enumeration, hmem, hdeclared.sheet_eq, hdeclared.name_eq⟩

/-- A reference that is declared refers to an enum sheet. -/
theorem hasEnumSheet_of_mem_typeNames (hnormal : workbook.IsNormal)
    (henumerations : workbook.enumerations = .ok enumerations)
    (hrecords : workbook.records platform rowName = .ok records) {name : String}
    (hmem : BaseType.referenceTo name ∈ typeNames enumerations records) :
    workbook.HasEnumSheet name := by
  rcases List.mem_append.mp hmem with henumeration | hrecord
  · obtain ⟨enumeration, henumeration, hname⟩ := List.mem_map.mp henumeration
    obtain ⟨sheet, hsheet, hdeclared⟩ :=
      Outcome.exists_of_mem_right (declaredBy_of_enumerations henumerations) henumeration
    have hsame : BaseType.referenceTo sheet.name = BaseType.referenceTo name :=
      hdeclared.name_eq.symm.trans hname
    exact ⟨sheet, hsheet, BaseType.referenceTo_injective hsame⟩
  · rw [names_of_records hrecords] at hrecord
    obtain ⟨sheet, hsheet, hname⟩ := List.mem_map.mp hrecord
    have hplain := hnormal.names_plain sheet (List.mem_of_mem_filter hsheet)
    exact absurd hname.symm (BaseType.referenceTo_ne hplain)

/-! ## References of fields -/

/-- Declarations have different names.  The type of a field that refers to an enum sheet is declared
once, by the enumeration of the sheet; where there is no such sheet, nothing declares it. -/
structure DeclaresApart (workbook : Workbook) (platform : Platform)
    (enumerations : List Enumeration) (records : List Record) : Prop where
  nodup : (typeNames enumerations records).Nodup
  declared_once : ∀ record ∈ records, ∀ field ∈ record.fields, ∀ name,
    field.base = .enumeration name → workbook.HasEnumSheet name →
      (∃ enumeration ∈ enumerations, enumeration.sheet = name ∧
        enumeration.name = field.base.nativeName platform) ∧
      (typeNames enumerations records).count (field.base.nativeName platform) = 1
  undeclared : ∀ record ∈ records, ∀ field ∈ record.fields, ∀ name,
    field.base = .enumeration name → ¬ workbook.HasEnumSheet name →
      field.base.nativeName platform ∉ typeNames enumerations records

/-- The types of a merged workbook are declared apart. -/
theorem types_declared_apart {source : Workbook} (hmerge : source.merge.outcome = .ok workbook)
    (henumerations : workbook.enumerations = .ok enumerations)
    (hrecords : workbook.records platform rowName = .ok records) :
    workbook.DeclaresApart platform enumerations records := by
  have hnormal := isNormal_of_merge hmerge
  have hnodup := typeNames_nodup hnormal henumerations hrecords
  refine ⟨hnodup, ?_, ?_⟩
  · intro record _ field _ name hbase hfound
    obtain ⟨enumeration, hmem, hsheet, hname⟩ :=
      exists_enumeration_of_hasEnumSheet henumerations hfound
    have hnative : enumeration.name = field.base.nativeName platform := by
      rw [hbase]
      exact hname
    refine ⟨⟨enumeration, hmem, hsheet, hnative⟩, ?_⟩
    rw [← hnative]
    exact List.count_eq_one_of_mem hnodup (List.mem_append_left _ (List.mem_map_of_mem hmem))
  · intro record _ field _ name hbase hnone hmem
    rw [hbase] at hmem
    exact hnone (hasEnumSheet_of_mem_typeNames hnormal henumerations hrecords hmem)

/-! ### References to an enum sheet, to a data sheet and to no sheet -/

/-- An enum sheet in two parts, and a data sheet that refers to it, to itself and, by a name that no
merged sheet can have, to nothing. -/
def rankedUnits : Workbook where
  sheets := [
    ⟨"Rank_Low", ["Enum", "Value", "Description"], [["Private", "", ""]]⟩,
    ⟨"Unit", ["Id", "Rank_1", "Rank_2", "Leader", "Kind"],
      [["int32_cs", "Enum_Rank_1_cs", "Enum_Rank_2_cs", "Enum_Unit_s", "Enum_Kind_Old_s"]]⟩,
    ⟨"Rank_High", ["Enum", "Value", "Description"], [["General", "9", ""]]⟩]
  exportedAt := none

/-- The sheets in one part each. -/
def mergedUnits : Workbook where
  sheets := [
    ⟨"Rank", ["Enum", "Value", "Description"], [["Private", "", ""], ["General", "9", ""]]⟩,
    ⟨"Unit", ["Id", "Rank_1", "Rank_2", "Leader", "Kind"],
      [["int32_cs", "Enum_Rank_1_cs", "Enum_Rank_2_cs", "Enum_Unit_s", "Enum_Kind_Old_s"]]⟩]
  exportedAt := none

/-- The one enumeration. -/
def rankEnumeration : Enumeration :=
  ⟨"Enum_Rank", "Rank", [⟨"Private", none, 0⟩, ⟨"General", some 9, 9⟩], []⟩

/-- The columns of the data sheet as they are read. -/
def unitColumns : List Column := [
  ⟨0, "Id", "int32_cs", .typed .int32 false true true⟩,
  ⟨1, "Rank_1", "Enum_Rank_1_cs", .typed (.enumeration "Rank") false true true⟩,
  ⟨2, "Rank_2", "Enum_Rank_2_cs", .typed (.enumeration "Rank") false true true⟩,
  ⟨3, "Leader", "Enum_Unit_s", .typed (.enumeration "Unit") false true false⟩,
  ⟨4, "Kind", "Enum_Kind_Old_s", .typed (.enumeration "Kind_Old") false true false⟩]

/-- The one row type. -/
def unitRecord : Record where
  name := "Unit"
  fields := [
    ⟨"Id", .int32, .scalar, .default, .column⟩,
    ⟨"Ranks", .enumeration "Rank", .array 2, .enumZero, .column⟩,
    ⟨"Leader", .enumeration "Unit", .scalar, .enumZero, .column⟩,
    ⟨"Kind", .enumeration "Kind_Old", .scalar, .enumZero, .column⟩]
  codec := some (Codec.ofColumns (unitColumns.filterMap (·.keptOn? .server)))

theorem mergedUnits_declared_apart :
    rankedUnits.merge.outcome = .ok mergedUnits ∧
      mergedUnits.enumerations = .ok [rankEnumeration] ∧
      mergedUnits.records .server "Name" = .ok [unitRecord] ∧
      mergedUnits.DeclaresApart .server [rankEnumeration] [unitRecord] := by
  have hmerge : rankedUnits.merge.outcome = .ok mergedUnits := by decide +kernel
  have henumerations : mergedUnits.enumerations = .ok [rankEnumeration] := by decide +kernel
  have hslots : ∀ column ∈ unitColumns.filterMap (·.keptOn? .server),
      ∀ key ∈ (Slot.ofName? column.name).map Slot.key, key = "Rank" := by decide +kernel
  have hranks : GroupMember.fault? .server
      (unitColumns.filterMap (GroupMember.of? "Rank")) = none := by cbv
  have hrecord : Record.ofSheet .server "Name"
      ⟨"Unit", ["Id", "Rank_1", "Rank_2", "Leader", "Kind"],
        [["int32_cs", "Enum_Rank_1_cs", "Enum_Rank_2_cs", "Enum_Unit_s", "Enum_Kind_Old_s"]]⟩ =
      .ok unitRecord :=
    Record.ofSheet_server_eq_ok.mpr ⟨unitColumns, by rfl,
      KeptColumn.grouped_of_key hslots hranks, by decide, by rfl⟩
  have hrecords : mergedUnits.records .server "Name" = .ok [unitRecord] :=
    Outcome.mapM_eq_ok.mpr (.cons hrecord .nil)
  exact ⟨hmerge, henumerations, hrecords,
    types_declared_apart hmerge henumerations hrecords⟩

end Workbook

end GameSheets

/-
  Where fields of enumerations start.

  A field of an enumeration starts as the enumeration's zero, whichever enumerators there are.  The
  two are declared apart from each other: ordinals come from the enum sheet, where each symbol has
  its value or else one more than the ordinal before, the first starting at zero; fields come from
  the columns of data sheets.  Nothing sees to it that the zero is there.  What holds is this:

  1. headers refuse negative ordinals, so that none is reached by counting up from below zero;
  2. then an enumerator has the ordinal zero exactly where the first symbol of the sheet has no
     value, or some symbol has the value zero (`Sheet.GivesZero`);
  3. the fields that start so are those of enumerations, and they are written with the name of the
     enumeration that the sheet declares.

  A sheet whose symbols start at one compiles, and its fields start as no enumerator.
-/
import GameSheets.Proofs.Declaration.Homes
import GameSheets.Proofs.Declaration.Numbering
import GameSheets.Proofs.Table.Symbols
import GameSheets.Proofs.Workbook.Compiling

namespace GameSheets

/-! ## Ordinals -/

namespace Sheet

/-- The first symbol of the sheet has no value, or some symbol has the value zero. -/
def GivesZero (sheet : Sheet) : Prop :=
  (∃ row, (symbolRows sheet.rows).head? = some row ∧ cellAt row 1 = "") ∨
    ∃ row ∈ symbolRows sheet.rows, Number.Bounds.int64.read? (cellAt row 1) = some 0

end Sheet

namespace Enumerator

/-- Counting up from no negative ordinal, zero is what a value gives or what the first symbol is
given. -/
theorem ordinalAfter_eq_zero_iff {sheet symbol value : String} {previous explicit : Option Int}
    (h : explicitOf sheet symbol value = .ok explicit)
    (hprevious : ∀ ordinal, previous = some ordinal → 0 ≤ ordinal) :
    ordinalAfter previous explicit = 0 ↔
      previous = none ∧ value = "" ∨ Number.Bounds.int64.read? value = some 0 := by
  rcases explicitOf_eq_ok.mp h with ⟨rfl, rfl⟩ | ⟨hvalue, n, hread, rfl⟩
  · have hread : Number.Bounds.int64.read? "" ≠ some 0 := by decide +kernel
    cases previous with
    | none => simp [ordinalAfter]
    | some ordinal =>
      have hnonneg := hprevious ordinal rfl
      have hnext : ordinal + 1 ≠ 0 := by omega
      simp [ordinalAfter, hread, hnext]
  · simp [ordinalAfter, hvalue, hread]

/-- A run reaches the ordinal zero where its first symbol has no value and none was before it, or
where a symbol has the value zero. -/
theorem zero_iff_of_readAll {sheet : String} {seen : List String} {previous : Option Int}
    {rows : List (List String)} {described : List (Enumerator × String)}
    (h : readAll sheet seen previous rows = .ok described)
    (hprevious : ∀ ordinal, previous = some ordinal → 0 ≤ ordinal)
    (hordinals : ∀ item ∈ described, 0 ≤ item.1.ordinal) :
    (∃ item ∈ described, item.1.ordinal = 0) ↔
      (previous = none ∧
          ∃ row, (Sheet.symbolRows rows).head? = some row ∧ Sheet.cellAt row 1 = "") ∨
        ∃ row ∈ Sheet.symbolRows rows,
          Number.Bounds.int64.read? (Sheet.cellAt row 1) = some 0 := by
  induction rows generalizing seen previous described with
  | nil =>
    obtain rfl := Except.ok.inj h
    simp [Sheet.symbolRows]
  | cons row rest ih =>
    rcases cases_of_readAll_cons h with
      ⟨hblank, hrest⟩ | ⟨hsymbol, -, explicit, others, hexplicit, hrest, rfl⟩
    · rw [Sheet.symbolRows_cons_of_isBlank hblank]
      exact ih hrest hprevious hordinals
    · obtain ⟨hnonneg, hothers⟩ := List.forall_mem_cons.mp hordinals
      -- behind this enumerator there is one before, so that only a value gives zero
      have hprevious' : ∀ ordinal, some (ordinalAfter previous explicit) = some ordinal →
          0 ≤ ordinal := by
        rintro ordinal ⟨⟩
        exact hnonneg
      have hhere := ordinalAfter_eq_zero_iff hexplicit hprevious
      have hbehind := ih hrest hprevious' hothers
      rw [Sheet.symbolRows_cons_of_not_isBlank hsymbol, List.exists_mem_cons_iff, hhere, hbehind]
      simp [or_assoc]

end Enumerator

namespace Enumeration

/-- The declaration of a sheet, without negative ordinals, has the zero where the sheet gives it. -/
theorem zero_iff_of_ofSheet {sheet : Sheet} {enumeration : Enumeration}
    (h : ofSheet sheet = .ok enumeration)
    (hordinals : ∀ entry ∈ enumeration.entries, 0 ≤ entry.ordinal) :
    (∃ entry ∈ enumeration.entries, entry.ordinal = 0) ↔ sheet.GivesZero := by
  unfold ofSheet at h
  split at h
  · cases h
  · cases h
  · rename_i described _ hdescribed
    obtain rfl := Except.ok.inj h
    rw [List.forall_mem_map] at hordinals
    have hzero := Enumerator.zero_iff_of_readAll hdescribed (by simp) hordinals
    simp only [List.mem_map, exists_exists_and_eq_and, hzero, true_and]
    rfl

end Enumeration

/-- Headers of either platform declare no negative ordinals. -/
theorem Header.nonneg_of_enumHeader {config : Config} {exportedAt : Option Timestamp}
    {platform : Platform} {enumerations : List Enumeration} {header : String}
    (h : enumHeader config exportedAt platform enumerations = .ok header)
    {enumeration : Enumeration} (hmem : enumeration ∈ enumerations) :
    ∀ entry ∈ enumeration.entries, 0 ≤ entry.ordinal := by
  intro entry hentry
  exact (exists_enumHeader_iff.mp ⟨header, h⟩ enumeration hmem entry hentry).1

/-! ## Fields -/

namespace Field

/-- What the field starts as, as the headers of a platform write it for a scalar and for each slot
of an array. -/
def startText? (platform : Platform) (field : Field) : Option String :=
  match platform with
  | .server => Header.serverInit? (field.base.nativeName .server) field.init
  | .client => Header.clientInit? field.base field.init

end Field

/-- The fields that start as the zero of an enumeration are those whose type is one. -/
theorem KeptColumn.init_eq_enumZero_iff {columns : List Column} {column : KeptColumn}
    {field : Field} (h : column.fieldIn columns = some field) :
    field.init = .enumZero ↔ field.base.isEnumeration = true := by
  rcases fieldIn_eq_some.mp h with ⟨-, rfl⟩ | ⟨slot, -, -, rfl⟩
  · unfold scalarInit
    cases column.base.isEnumeration <;> simp
  · unfold slotInit
    cases column.base.isEnumeration <;> simp

theorem Record.init_eq_enumZero_iff {platform : Platform} {rowName : String} {sheet : Sheet}
    {record : Record} (h : ofSheet platform rowName sheet = .ok record) {field : Field}
    (hfield : field ∈ record.fields) :
    field.init = .enumZero ↔ field.base.isEnumeration = true := by
  obtain ⟨columns, -, -, -, rfl⟩ := ofSheet_eq_ok.mp h
  rcases List.mem_append.mp hfield with hleading | hdeclared
  · -- the row's name is a text
    cases platform with
    | server => exact absurd hleading List.not_mem_nil
    | client =>
      obtain rfl := List.mem_singleton.mp hleading
      simp [Field.rowName, BaseType.isEnumeration]
  · obtain ⟨column, -, hcolumn⟩ := List.mem_filterMap.mp hdeclared
    exact KeptColumn.init_eq_enumZero_iff hcolumn

/-- The zero of an enumeration, as the headers of a platform write it. -/
def Enumeration.zeroText (platform : Platform) (enumeration : Enumeration) : String :=
  match platform with
  | .server => enumeration.name ++ "::_from_integral(0)"
  | .client => "static_cast<" ++ enumeration.name ++ ">(0)"

/-- The field starts as the zero of the one enumeration that has its type's name, which the sheet
declares; and there is such a zero exactly where the sheet gives it. -/
structure Field.StartsAtZero (platform : Platform) (sheet : Sheet) (enumerations : List Enumeration)
    (field : Field) (enumeration : Enumeration) : Prop where
  enumeration_mem : enumeration ∈ enumerations
  name_eq : enumeration.name = field.base.nativeName platform
  only : ∀ other ∈ enumerations, other.name = enumeration.name → other = enumeration
  start_eq : field.startText? platform = some (enumeration.zeroText platform)
  zero_iff : (∃ entry ∈ enumeration.entries, entry.ordinal = 0) ↔ sheet.GivesZero

namespace Workbook

variable {workbook : Workbook} {config : Config}

/-- A field of an enumeration that has an enum sheet starts as the zero of what the sheet
declares. -/
theorem startsAtZero_of_makes {merged : Workbook} {artifacts : Artifacts}
    {tables : List TypedTable} {enumerations : List Enumeration} {records : List Record}
    (hnames : (merged.sheets.map (·.name)).Nodup)
    (hmakes : merged.Makes config artifacts tables enumerations records) {field : Field}
    (hinit : field.init = .enumZero) {sheet : Sheet} (hsheet : sheet ∈ merged.enumSheets)
    (hbase : field.base = .enumeration sheet.name) :
    ∃ enumeration, field.StartsAtZero artifacts.platform sheet enumerations enumeration := by
  obtain ⟨enumeration, hmem, hofSheet⟩ :=
    Outcome.exists_of_mem_left (Outcome.mapM_eq_ok.mp hmakes.enumerations_eq) hsheet
  have hname : enumeration.name = BaseType.referenceTo sheet.name :=
    (Enumeration.declaredBy_of_ofSheet hofSheet).name_eq
  have hnative : field.base.nativeName artifacts.platform = enumeration.name := by
    rw [hbase, hname]
    rfl
  refine ⟨enumeration, hmem, hnative.symm, ?_, ?_, ?_⟩
  · intro other hother hsame
    exact List.inj_on_of_nodup_map (nodup_enumeration_names hnames hmakes.enumerations_eq) hother
      hmem hsame
  · unfold Field.startText? Enumeration.zeroText
    cases hplatform : artifacts.platform with
    | server | client =>
      rw [hplatform] at hnative
      rw [← hnative, hinit]
      rfl
  · exact Enumeration.zero_iff_of_ofSheet hofSheet
      (Header.nonneg_of_enumHeader hmakes.enumHeader_eq hmem)

/-- In a workbook that compiles, the fields that start as a zero are those of enumerations; where
the enumeration has an enum sheet, the zero is declared exactly where the sheet gives it. -/
theorem startsAtZero_of_compile {platforms : List Platform} {compiled : List Artifacts}
    (hcompile : (workbook.compile config platforms).outcome = .ok compiled) :
    ∃ merged, workbook.merge.outcome = .ok merged ∧
      ∀ artifacts ∈ compiled, ∃ tables enumerations records,
        merged.Makes config artifacts tables enumerations records ∧
        ∀ record ∈ records, ∀ field ∈ record.fields, field.init = .enumZero →
          ∃ name, field.base = .enumeration name ∧
            ∀ sheet ∈ merged.enumSheets, sheet.name = name →
              ∃ enumeration,
                field.StartsAtZero artifacts.platform sheet enumerations enumeration := by
  obtain ⟨merged, hmerge, hartifacts⟩ := makes_of_compile hcompile
  refine ⟨merged, hmerge, ?_⟩
  intro artifacts hmem
  obtain ⟨tables, enumerations, records, hmakes⟩ := hartifacts artifacts hmem
  refine ⟨tables, enumerations, records, hmakes, ?_⟩
  intro record hrecord field hfield hinit
  obtain ⟨data, -, hofSheet⟩ :=
    Outcome.exists_of_mem_right (Outcome.mapM_eq_ok.mp hmakes.records_eq) hrecord
  have henum := (Record.init_eq_enumZero_iff hofSheet hfield).mp hinit
  cases hbase : field.base with
  | enumeration name =>
    refine ⟨name, rfl, ?_⟩
    rintro sheet hsheet rfl
    exact startsAtZero_of_makes (shaped_of_merge hmerge).1 hmakes hinit hsheet hbase
  | int32 | int64 | float | double | vector | rotator | string =>
    rw [hbase] at henum
    cases henum

/-! ### Grades that start at a given value -/

/-- An enum sheet whose first symbol has the value, and a sheet with a column of its symbols. -/
def gradedFrom (value : String) : Workbook where
  sheets := [
    { name := "Grade"
      columns := ["Enum", "Value", "Description"]
      rows := [["Common", value, ""], ["Rare", "", ""]] },
    { name := "Item"
      columns := ["Id", "Grade"]
      rows := [["int32_s", "Enum_Grade_s"], ["1", "Common"]] }]
  exportedAt := none

/-- What the enum sheet declares, its symbols counted up from this ordinal. -/
def gradesFrom (ordinal : Int) : Enumeration where
  name := "Enum_Grade"
  sheet := "Grade"
  entries := [⟨"Common", some ordinal, ordinal⟩, ⟨"Rare", none, ordinal + 1⟩]
  docs := []

/-- The field of the column. -/
def gradeField : Field :=
  ⟨"Grade", .enumeration "Grade", .scalar, .enumZero, .column⟩

/-- The record of the sheet. -/
def gradeRecord : Record where
  name := "Item"
  fields := [⟨"Id", .int32, .scalar, .default, .column⟩, gradeField]
  codec := some {
    temporaries := [⟨"temp_Id", "Id", "int32"⟩, ⟨"temp_Grade", "Grade", "std::string"⟩]
    encode := [.load "temp_Id" (.field "Id"), .loadName "temp_Grade" (.field "Grade")]
    decode := [.store (.field "Id") "temp_Id",
      .storeName (.field "Grade") "temp_Grade" "Enum_Grade"] }

theorem gradedFrom_compile {value : String} {ordinal : Int}
    (hmerge : (gradedFrom value).merge.outcome = .ok (gradedFrom value))
    (henumerations : (gradedFrom value).enumerations = .ok [gradesFrom ordinal])
    (hrecords : (gradedFrom value).records .server "Name" = .ok [gradeRecord])
    (hok : ((gradedFrom value).compile .standard [.server]).outcome.isOk = true) :
    ∃ artifacts, ((gradedFrom value).compile .standard [.server]).outcome = .ok [artifacts] ∧
      artifacts.platform = .server ∧ ∃ tables,
        (gradedFrom value).Makes .standard artifacts tables [gradesFrom ordinal] [gradeRecord] := by
  cases hcompile : ((gradedFrom value).compile .standard [.server]).outcome with
  | error cause =>
    rw [hcompile] at hok
    cases hok
  | ok compiled =>
    obtain ⟨merged, hmerged, hartifacts⟩ := compile_eq_ok.mp hcompile
    obtain rfl := Except.ok.inj (hmerge.symm.trans hmerged)
    obtain ⟨artifacts, rest, hfirst, hrest, rfl⟩ := List.forall₂_cons_left_iff.mp hartifacts
    obtain rfl := List.forall₂_nil_left_iff.mp hrest
    obtain ⟨hserver, tables, enumerations, records, hmakes⟩ := artifactsFor_eq_ok.mp hfirst
    obtain rfl := Except.ok.inj (henumerations.symm.trans hmakes.enumerations_eq)
    have hmade := hmakes.records_eq
    rw [hserver] at hmade
    obtain rfl := Except.ok.inj (hrecords.symm.trans hmade)
    exact ⟨artifacts, rfl, hserver, tables, hmakes⟩

/-- From zero on, the grade starts as an enumerator. -/
theorem gradedFrom_zero_startsAtZero :
    ∃ artifacts, ((gradedFrom "0").compile .standard [.server]).outcome = .ok [artifacts] ∧
      gradeField ∈ gradeRecord.fields ∧ ∃ tables,
        (gradedFrom "0").Makes .standard artifacts tables [gradesFrom 0] [gradeRecord] ∧
        ∃ sheet ∈ (gradedFrom "0").enumSheets, sheet.GivesZero ∧
          gradeField.StartsAtZero .server sheet [gradesFrom 0] (gradesFrom 0) := by
  have hmerge : (gradedFrom "0").merge.outcome = .ok (gradedFrom "0") := by decide +kernel
  have henumerations : (gradedFrom "0").enumerations = .ok [gradesFrom 0] := by decide +kernel
  obtain ⟨artifacts, hcompile, hserver, tables, hmakes⟩ :=
    gradedFrom_compile hmerge henumerations (by decide +kernel) (by decide +kernel)
  obtain ⟨merged, hmerged, hall⟩ := startsAtZero_of_compile hcompile
  obtain rfl := Except.ok.inj (hmerge.symm.trans hmerged)
  obtain ⟨_, enumerations, records, hmade, hfields⟩ := hall artifacts List.mem_cons_self
  obtain rfl := Except.ok.inj (hmakes.enumerations_eq.symm.trans hmade.enumerations_eq)
  obtain rfl := Except.ok.inj (hmakes.records_eq.symm.trans hmade.records_eq)
  have hfield : gradeField ∈ gradeRecord.fields := by decide
  obtain ⟨name, hbase, hsheets⟩ := hfields gradeRecord List.mem_cons_self gradeField hfield rfl
  have hsheet : (gradedFrom "0").sheets.head (by decide) ∈ (gradedFrom "0").enumSheets := by
    decide +kernel
  obtain ⟨enumeration, hstarts⟩ := hsheets _ hsheet (BaseType.enumeration.inj hbase)
  obtain rfl := List.mem_singleton.mp hstarts.enumeration_mem
  rw [hserver] at hstarts
  have hgives := hstarts.zero_iff.mp ⟨_, List.mem_cons_self, rfl⟩
  exact ⟨artifacts, hcompile, hfield, tables, hmakes, _, hsheet, hgives, hstarts⟩

/-- From one on, the workbook compiles as well, and the grade starts as no enumerator. -/
theorem gradedFrom_one_without_zero :
    ∃ artifacts, ((gradedFrom "1").compile .standard [.server]).outcome = .ok [artifacts] ∧
      (gradedFrom "1").HasEnumSheet "Grade" ∧ ∃ tables,
        (gradedFrom "1").Makes .standard artifacts tables [gradesFrom 1] [gradeRecord] ∧
        ∃ field ∈ gradeRecord.fields, field.init = .enumZero ∧
          field.base = .enumeration "Grade" ∧
          field.startText? .server = some "Enum_Grade::_from_integral(0)" ∧
          (gradesFrom 1).name = "Enum_Grade" ∧
          ∀ entry ∈ (gradesFrom 1).entries, entry.ordinal ≠ 0 := by
  have hmerge : (gradedFrom "1").merge.outcome = .ok (gradedFrom "1") := by decide +kernel
  have henumerations : (gradedFrom "1").enumerations = .ok [gradesFrom 1] := by decide +kernel
  obtain ⟨artifacts, hcompile, -, tables, hmakes⟩ :=
    gradedFrom_compile hmerge henumerations (by decide +kernel) (by decide +kernel)
  have hsheet : (gradedFrom "1").HasEnumSheet "Grade" :=
    ⟨(gradedFrom "1").sheets.head (by decide), by decide +kernel, rfl⟩
  exact ⟨artifacts, hcompile, hsheet, tables, hmakes, gradeField, by decide, rfl, rfl,
    by decide +kernel, rfl, by decide⟩

end Workbook

end GameSheets

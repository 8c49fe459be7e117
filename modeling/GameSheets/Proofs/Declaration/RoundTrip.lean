/-
  Rows survive the archive.

  A server record comes with a codec whose assignments reach every place of the record once, each
  through a temporary of its own, and whose decoding undoes its encoding assignment by assignment.
  So a row that is encoded and then decoded into any other row of the record is that row again:

    row  --encode-->  temporaries  --decode-->  row

  The facts about places come from the fields (`Record.declares_iff`, `KeptColumn.eq_of_place_eq`),
  those about runs from the archive (`KeptColumn.runAll?_encode`, `KeptColumn.runAll?_decode`).
-/
import Mathlib
import GameSheets.Proofs.Declaration.Archive
import GameSheets.Proofs.Declaration.Fields
import GameSheets.Table.Value

namespace GameSheets

namespace Record

/-- The row has in every place of the record a value of the place's type. -/
def Holds {V : Type} (record : Record) (native : NativeValues V) (row : Place → V) : Prop :=
  ∀ base place, record.Declares base place → native.HasType base (row place)

end Record

namespace Codec

/-- The codec reaches every place of the record exactly once, through temporaries that differ, and
its decoding undoes its encoding, assignment by assignment. -/
structure Covers (codec : Codec) (record : Record) : Prop where
  fields_nodup : (record.fields.map (·.name)).Nodup
  places_nodup : (codec.encode.map (·.place)).Nodup
  mem_places_iff : ∀ place,
    place ∈ codec.encode.map (·.place) ↔ ∃ base, record.Declares base place
  temporaries_nodup : (codec.temporaries.map (·.name)).Nodup
  encode_fills : List.Forall₂ (fun temporary transfer => transfer.temporary = temporary.name)
    codec.temporaries codec.encode
  decode_undoes : List.Forall₂ Transfer.UndoneBy codec.encode codec.decode

/-- Encoding one row and decoding into another gives every place of the record the value that it
has in the first. -/
def Restores {V : Type} (codec : Codec) (record : Record) (native : NativeValues V)
    (row other : Place → V) : Prop :=
  ∀ temporaries, ∃ encoded decoded,
    Transfer.runAll? native ⟨temporaries, row⟩ codec.encode = some encoded ∧
      encoded.places = row ∧
      Transfer.runAll? native ⟨encoded.temporaries, other⟩ codec.decode = some decoded ∧
      ∀ base place, record.Declares base place → decoded.places place = row place

variable {platform : Platform} {columns : List Column} {record : Record}

/-- Kept columns have different places. -/
theorem nodup_places (hpositions : (columns.map (·.position)).Nodup)
    (hgrouped : ∀ column ∈ columns.filterMap (·.keptOn? platform),
      column.Grouped platform columns)
    (hnames : (((columns.filterMap (·.keptOn? platform)).filterMap (·.fieldIn columns)).map
      (·.name)).Nodup) :
    ((columns.filterMap (·.keptOn? platform)).map (·.place)).Nodup := by
  have hkept : (columns.filterMap (·.keptOn? platform)).Nodup :=
    (Column.nodup_kept hpositions).of_map
  refine hkept.map_on ?_
  intro column hcolumn other hother hplace
  exact KeptColumn.eq_of_place_eq hgrouped hnames hcolumn hother hplace

/-- Kept columns have different names, since the name gives the place. -/
theorem nodup_keys (hplaces : ((columns.filterMap (·.keptOn? platform)).map (·.place)).Nodup) :
    ((columns.filterMap (·.keptOn? platform)).map (·.name)).Nodup := by
  refine hplaces.of_map.map_on ?_
  intro column hcolumn other hother hname
  have hplace : column.place = other.place := by
    unfold KeptColumn.place
    rw [hname]
  exact List.inj_on_of_nodup_map hplaces hcolumn hother hplace

/-- The codec of the kept columns covers their record. -/
theorem covers_ofColumns
    (hgrouped : ∀ column ∈ columns.filterMap (·.keptOn? platform),
      column.Grouped platform columns)
    (hfields : record.fields =
      (columns.filterMap (·.keptOn? platform)).filterMap (·.fieldIn columns))
    (hfieldNames : (record.fields.map (·.name)).Nodup)
    (hplaces : ((columns.filterMap (·.keptOn? platform)).map (·.place)).Nodup) :
    (ofColumns (columns.filterMap (·.keptOn? platform))).Covers record := by
  have hencode : (ofColumns (columns.filterMap (·.keptOn? platform))).encode.map (·.place) =
      (columns.filterMap (·.keptOn? platform)).map (·.place) := by
    show (List.map _ _).map _ = _
    rw [List.map_map]
    exact List.map_congr_left fun column _ => column.encodeTransfer_undoneBy.2.1
  refine ⟨hfieldNames, hencode ▸ hplaces, ?_, ?_, ?_, ?_⟩
  · -- the places of the codec are those of the kept columns, and so are those of the record
    intro place
    rw [hencode, List.mem_map]
    constructor
    · rintro ⟨column, hcolumn, rfl⟩
      exact ⟨column.base,
        (Record.declares_iff hgrouped hfields).mpr ⟨column, hcolumn, rfl, rfl⟩⟩
    · rintro ⟨base, hdeclares⟩
      obtain ⟨column, hcolumn, hplace, -⟩ := (Record.declares_iff hgrouped hfields).mp hdeclares
      exact ⟨column, hcolumn, hplace⟩
  · -- temporaries are named after columns
    show ((List.map _ _).map _).Nodup
    rw [List.map_map]
    refine (nodup_keys hplaces).of_map.map_on ?_
    intro column hcolumn other hother hname
    have hkey : column.name = other.name := (String.append_right_inj "temp_").mp hname
    exact List.inj_on_of_nodup_map (nodup_keys hplaces) hcolumn hother hkey
  · show List.Forall₂ _ (List.map _ _) (List.map _ _)
    rw [List.forall₂_map_left_iff, List.forall₂_map_right_iff, List.forall₂_same]
    exact fun column _ => column.encodeTransfer_undoneBy.1
  · show List.Forall₂ _ (List.map _ _) (List.map _ _)
    rw [List.forall₂_map_left_iff, List.forall₂_map_right_iff, List.forall₂_same]
    exact fun column _ => column.encodeTransfer_undoneBy.2.2

/-- A codec of columns with different places and temporaries restores every well-typed row. -/
theorem restores_ofColumns {V : Type} {native : NativeValues V} (hlossless : native.Lossless)
    {row : Place → V} (hrow : record.Holds native row) (other : Place → V)
    (hdeclares : ∀ base place, record.Declares base place ↔
      ∃ column ∈ columns.filterMap (·.keptOn? platform),
        column.place = place ∧ column.base = base)
    (hplaces : ((columns.filterMap (·.keptOn? platform)).map (·.place)).Nodup)
    (htemporaries :
      ((columns.filterMap (·.keptOn? platform)).map (·.temporaryName)).Nodup) :
    (ofColumns (columns.filterMap (·.keptOn? platform))).Restores record native row other := by
  intro temporaries
  obtain ⟨encoded, hencode, hunchanged, hstored, -⟩ :=
    KeptColumn.runAll?_encode native htemporaries ⟨temporaries, row⟩
  have hvalues : ∀ column ∈ columns.filterMap (·.keptOn? platform),
      native.restored? column.base (encoded.temporaries column.temporaryName) =
        some (row column.place) := by
    intro column hcolumn
    have htype := hrow _ _ ((hdeclares _ _).mpr ⟨column, hcolumn, rfl, rfl⟩)
    rw [hstored column hcolumn, NativeValues.restored?_stored hlossless htype]
  obtain ⟨decoded, hdecode, hwritten, -⟩ := KeptColumn.runAll?_decode hplaces
    (fun column => row column.place) ⟨encoded.temporaries, other⟩ hvalues
  refine ⟨encoded, decoded, hencode, hunchanged, hdecode, ?_⟩
  intro base place hplace
  obtain ⟨column, hcolumn, rfl, -⟩ := (hdeclares base place).mp hplace
  exact hwritten column hcolumn

end Codec

/-- A server record has the name of its sheet and the codec of its kept columns, whose names
differ. -/
theorem Record.codec_of_ofSheet {rowName : String} {sheet : Sheet} {columns : List Column}
    {record : Record} (hschema : sheet.schema = .ok columns)
    (hrecord : ofSheet .server rowName sheet = .ok record) :
    record.name = sheet.name ∧
      record.codec = some (Codec.ofColumns (columns.filterMap (·.keptOn? .server))) ∧
      ((columns.filterMap (·.keptOn? .server)).map (·.name)).Nodup := by
  obtain ⟨others, hothers, hgrouped, hfieldNames, rfl⟩ := ofSheet_server_eq_ok.mp hrecord
  -- the record is made from the one schema that the sheet has
  obtain rfl := Except.ok.inj (hschema.symm.trans hothers)
  have hpositions := Sheet.nodup_positions hschema
  exact ⟨rfl, rfl, Codec.nodup_keys (Codec.nodup_places hpositions hgrouped hfieldNames)⟩

namespace Workbook

/-- Every record of a server header has a codec that covers it, and that restores its rows whenever
the native language takes names and texts of values back for the values. -/
theorem codec_covers_and_restores {workbook : Workbook} {rowName : String} {records : List Record}
    (hrecords : workbook.records .server rowName = .ok records) :
    ∀ record ∈ records, ∃ codec, record.codec = some codec ∧ codec.Covers record ∧
      ∀ {V : Type} (native : NativeValues V), native.Lossless →
        ∀ row other : Place → V, record.Holds native row →
          codec.Restores record native row other := by
  intro record hrecord
  obtain ⟨sheet, -, hsheet⟩ :=
    Outcome.exists_of_mem_right (Outcome.mapM_eq_ok.mp hrecords) hrecord
  obtain ⟨columns, hschema, hgrouped, hnames, hrecordEq⟩ :=
    Record.ofSheet_server_eq_ok.mp hsheet
  obtain ⟨_, -, -, hpositions⟩ := Sheet.schema_eq_ok.mp hschema
  have hfields : record.fields =
      (columns.filterMap (·.keptOn? .server)).filterMap (·.fieldIn columns) := by
    rw [hrecordEq]
  have hdistinct : (columns.map (·.position)).Nodup := hpositions ▸ List.nodup_range
  have hplaces := Codec.nodup_places hdistinct hgrouped (hfields ▸ hnames)
  have hcovers := Codec.covers_ofColumns hgrouped hfields hnames hplaces
  refine ⟨Codec.ofColumns (columns.filterMap (·.keptOn? .server)), by rw [hrecordEq], hcovers, ?_⟩
  intro V native hlossless row other hrow
  have htemporaries := hcovers.temporaries_nodup
  rw [Codec.ofColumns, List.map_map] at htemporaries
  exact Codec.restores_ofColumns hlossless hrow other
    (fun base place => Record.declares_iff hgrouped hfields) hplaces htemporaries

/-! ## A record with a scalar, an enumerator, a composite and two slots -/

/-- Slots out of order, a comment, and one column of each kind of assignment, with one row. -/
def spawnWorkbook : Workbook where
  sheets := [{
    name := "Spawn"
    columns := ["Id", "Power_2", "Grade", "#Memo", "Pos", "Power_1"]
    rows := [
      ["int32_s", "int64_s", "Enum_Grade?_cs", "", "vector_s", "int64?_s"],
      ["7", "50", "Rare", "first", "X=1 Y=2 Z=3", ""]] }]
  exportedAt := none

/-- The columns of the sheet as they are read. -/
def spawnColumns : List Column := [
  ⟨0, "Id", "int32_s", .typed .int32 false true false⟩,
  ⟨1, "Power_2", "int64_s", .typed .int64 false true false⟩,
  ⟨2, "Grade", "Enum_Grade?_cs", .typed (.enumeration "Grade") true true true⟩,
  ⟨3, "#Memo", "", .comment ""⟩,
  ⟨4, "Pos", "vector_s", .typed .vector false true false⟩,
  ⟨5, "Power_1", "int64?_s", .typed .int64 true true false⟩]

/-- The record of the sheet. -/
def spawnRecord : Record where
  name := "Spawn"
  fields := [
    ⟨"Id", .int32, .scalar, .default, .column⟩,
    ⟨"Grade", .enumeration "Grade", .scalar, .enumZero, .column⟩,
    ⟨"Pos", .vector, .scalar, .default, .column⟩,
    ⟨"Powers", .int64, .array 2, .zero, .column⟩]
  codec := some (Codec.ofColumns (spawnColumns.filterMap (·.keptOn? .server)))

theorem spawnWorkbook_records : spawnWorkbook.records .server "Name" = .ok [spawnRecord] := by
  refine Outcome.mapM_eq_ok.mpr (.cons ?_ .nil)
  have hslots : ∀ column ∈ spawnColumns.filterMap (·.keptOn? .server),
      ∀ key ∈ (Slot.ofName? column.name).map Slot.key, key = "Power" := by decide +kernel
  have hpower : GroupMember.fault? .server
      (spawnColumns.filterMap (GroupMember.of? "Power")) = none := by cbv
  exact Record.ofSheet_server_eq_ok.mpr ⟨spawnColumns, by rfl,
    KeptColumn.grouped_of_key hslots hpower, by decide, by rfl⟩

/-- Typed cells as native values: a symbol is stored by its name and looked up among the symbols of
its enumeration, and a composite is its text. -/
def cellValues (symbols : String → List String) : NativeValues Value where
  HasType := fun base value =>
    match base, value with
    | .int32, .int _ | .int64, .int _ | .float, .float _ | .double, .float _ => True
    | .string, .text _ | .vector, .composite _ | .rotator, .composite _ => True
    | .enumeration sheet, .symbol name => name ∈ symbols (BaseType.referenceTo sheet)
    | _, _ => False
  nameOf := fun value => .text value.shown
  ofName? := fun enumType value =>
    if value.shown ∈ symbols enumType then some (.symbol value.shown) else none
  textOf := fun value => .text value.shown
  ofText? := fun value => some (.composite value.shown)

theorem cellValues_lossless (symbols : String → List String) :
    (cellValues symbols).Lossless := by
  constructor
  · intro sheet value htype
    cases value with
    | symbol name => exact if_pos htype
    | int _ | float _ | text _ | composite _ => exact htype.elim
  · intro base value hcomposite htype
    cases base with
    | vector | rotator =>
      cases value with
      | composite text => rfl
      | int _ | float _ | text _ | symbol _ => exact htype.elim
    | int32 | int64 | float | double | string | enumeration _ => cases hcomposite

/-- The symbols that the native enumeration of the example has. -/
def spawnSymbols : String → List String
  | "Enum_Grade" => ["Common", "Rare"]
  | _ => []

/-- A row of the record. -/
def spawnRow : Place → Value
  | .field "Grade" => .symbol "Rare"
  | .field "Pos" => .composite "(X=1,Y=2,Z=3)"
  | .element "Powers" 1 => .int 50
  | _ => .int 7

theorem spawnRow_holds : spawnRecord.Holds (cellValues spawnSymbols) spawnRow := by
  intro base place hdeclares
  cases place with
  | field name =>
    obtain ⟨field, hfield, rfl, rfl, hshape⟩ := hdeclares
    simp only [spawnRecord, List.mem_cons, List.not_mem_nil, or_false] at hfield
    rcases hfield with rfl | rfl | rfl | rfl
    · trivial
    · show "Rare" ∈ spawnSymbols "Enum_Grade"
      decide
    · trivial
    · cases hshape
  | element name offset =>
    obtain ⟨field, hfield, rfl, rfl, size, hshape, hoffset⟩ := hdeclares
    simp only [spawnRecord, List.mem_cons, List.not_mem_nil, or_false] at hfield
    rcases hfield with rfl | rfl | rfl | rfl
    · cases hshape
    · cases hshape
    · cases hshape
    · obtain rfl := FieldShape.array.inj hshape
      have : offset = 0 ∨ offset = 1 := by omega
      rcases this with rfl | rfl
      · trivial
      · trivial

/-- The row comes back when it is decoded into an empty one. -/
theorem spawnRow_restored :
    spawnWorkbook.records .server "Name" = .ok [spawnRecord] ∧
      (cellValues spawnSymbols).Lossless ∧
      spawnRecord.Holds (cellValues spawnSymbols) spawnRow ∧
      ∃ codec, spawnRecord.codec = some codec ∧ codec.Covers spawnRecord ∧
        codec.Restores spawnRecord (cellValues spawnSymbols) spawnRow fun _ => .text "" := by
  refine ⟨spawnWorkbook_records, cellValues_lossless spawnSymbols, spawnRow_holds, ?_⟩
  obtain ⟨codec, hcodec, hcovers, hrestores⟩ :=
    codec_covers_and_restores spawnWorkbook_records spawnRecord List.mem_cons_self
  exact ⟨codec, hcodec, hcovers, hrestores (cellValues spawnSymbols)
    (cellValues_lossless spawnSymbols) spawnRow (fun _ => .text "") spawnRow_holds⟩

end Workbook

end GameSheets

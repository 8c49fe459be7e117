/-
  Canonical composites.

  A composite lists a number for each of its keys.  The canonical text of these numbers has them in
  the order of the keys, between commas alone and in parentheses: `(X=1,Y=2,Z=3)`.

  Refining keeps the text of a cell as it is written.  So a value is canonical exactly where its
  cell is, or where the cell is empty, since the defaults are canonical; and two cells that list the
  same numbers have one value exactly where they are written in the same way.

  1. The numbers that a text lists are determined by it (`Numbers.eq`).
  2. The canonical text of some numbers lists these (`numbers_canonical`), so that a text that lists
     them is canonical only if it is their canonical text (`isCanonical_iff`).
  3. The fingerprint covers what values show, and composites show their texts: between tables that
     differ in the layout of composites only, the covered texts are the same exactly where the rows
     are (`shownCells_eq_iff`).
-/
import GameSheets.Proofs.Table.Composites
import GameSheets.Proofs.Table.Refining

namespace GameSheets

namespace Composite

/-! ## Numbers of a text -/

/-- The part that assigns its number to a key. -/
def assignment (number : Char → List Char) (key : Char) : List Char :=
  key :: '=' :: number key

/-- The text lists these numbers for the keys, in some order and each once. -/
structure Numbers (keys : List Char) (number : Char → List Char) (text : List Char) : Prop where
  isLiteral : ∀ key ∈ keys, Number.IsLiteral (number key)
  laidOut : ∃ inner order : List Char, Opens text inner ∧ order.Perm keys ∧
    LaidOut (order.map (assignment number)) inner

/-- Parts that assign numbers to different keys assign those of one function. -/
theorem exists_number {order : List Char} {parts : List (List Char)} (hnodup : order.Nodup)
    (h : List.Forall₂ Assigns order parts) :
    ∃ number : Char → List Char, (∀ key ∈ order, Number.IsLiteral (number key)) ∧
      parts = order.map (assignment number) := by
  induction h with
  | nil => exact ⟨fun _ => [], nofun, rfl⟩
  | @cons key part order parts hpart _ ih =>
    obtain ⟨hkey, hrest⟩ := List.nodup_cons.mp hnodup
    obtain ⟨number, hliteral, hparts⟩ := ih hrest
    obtain ⟨literal, hpartLiteral, rfl⟩ := hpart
    have hne : ∀ other ∈ order, other ≠ key := by
      rintro other hother rfl
      exact hkey hother
    refine ⟨Function.update number key literal, List.forall_mem_cons.mpr ⟨?_, ?_⟩, ?_⟩
    · rwa [Function.update_self]
    · intro other hother
      rw [Function.update_of_ne (hne other hother)]
      exact hliteral other hother
    · rw [List.map_cons, assignment, Function.update_self, hparts]
      congr 1
      refine List.map_congr_left fun other hother => ?_
      rw [assignment, assignment, Function.update_of_ne (hne other hother)]

/-- A text that lists a number for each key lists some numbers. -/
theorem exists_numbers {keys text : List Char} (hkeys : AreKeys keys) (h : Lists keys text) :
    ∃ number, Numbers keys number text := by
  obtain ⟨inner, parts, order, hopens, hlaid, horder, hassigns⟩ := h
  obtain ⟨number, hliteral, rfl⟩ := exists_number (horder.nodup_iff.mpr hkeys.nodup) hassigns
  exact ⟨number, fun key hkey => hliteral key (horder.mem_iff.mpr hkey),
    inner, order, hopens, horder, hlaid⟩

/-- Equal assignments have the same keys in the same order, with the same numbers. -/
theorem eq_of_map_assignment {order other : List Char} {number otherNumber : Char → List Char}
    (h : order.map (assignment number) = other.map (assignment otherNumber)) :
    order = other ∧ ∀ key ∈ order, number key = otherNumber key := by
  induction order generalizing other with
  | nil =>
    cases other with
    | nil => exact ⟨rfl, nofun⟩
    | cons _ _ => cases h
  | cons key rest ih =>
    cases other with
    | nil => cases h
    | cons otherKey otherRest =>
      obtain ⟨hpart, hrest⟩ := List.cons.inj h
      obtain ⟨rfl, htail⟩ := List.cons.inj hpart
      obtain ⟨rfl, hnumbers⟩ := ih hrest
      exact ⟨rfl, List.forall_mem_cons.mpr ⟨(List.cons.inj htail).2, hnumbers⟩⟩

/-- A text lists numbers for the same keys only, and the same numbers for them. -/
theorem Numbers.eq {keys otherKeys text : List Char} {number otherNumber : Char → List Char}
    (h : Numbers keys number text) (hother : Numbers otherKeys otherNumber text) :
    keys.Perm otherKeys ∧ ∀ key ∈ keys, number key = otherNumber key := by
  obtain ⟨inner, order, hopens, horder, hlaid⟩ := h.laidOut
  obtain ⟨otherInner, otherOrder, hotherOpens, hotherOrder, hotherLaid⟩ := hother.laidOut
  obtain rfl := (opens_iff.mp hopens).trans (opens_iff.mp hotherOpens).symm
  obtain ⟨rfl, hnumbers⟩ := eq_of_map_assignment (hlaid.parts_eq.trans hotherLaid.parts_eq.symm)
  exact ⟨horder.symm.trans hotherOrder,
    fun key hkey => hnumbers key (horder.mem_iff.mpr hkey)⟩

/-! ## Canonical texts -/

/-- The canonical text of numbers: in the order of the keys, between commas, in parentheses. -/
def canonical (keys : List Char) (number : Char → List Char) : List Char :=
  enclosed ([','].intercalate (keys.map (assignment number)))

/-- The text is the canonical text of some numbers. -/
def IsCanonical (keys text : List Char) : Prop :=
  ∃ number, (∀ key ∈ keys, Number.IsLiteral (number key)) ∧ text = canonical keys number

example : canonical ['X', 'Y', 'Z'] (fun _ => ['0']) = "(X=0,Y=0,Z=0)".toList := by decide

theorem not_isSeparator_of_toNat {c : Char} (hlow : 45 ≤ c.toNat) (hhigh : c.toNat ≤ 122) :
    isSeparator c = false := by
  have hcomma : c ≠ ',' := by
    rintro rfl
    exact absurd hlow (by decide)
  simp only [isSeparator, Text.isBlank, Bool.or_eq_false_iff, beq_eq_false_iff_ne,
    Bool.and_eq_false_iff, decide_eq_false_iff_not]
  refine ⟨hcomma, ?_⟩
  omega

/-- No literal has a separator in it. -/
theorem not_isSeparator_of_isLiteral {text : List Char} (h : Number.IsLiteral text) :
    ∀ c ∈ text, isSeparator c = false := by
  intro c hc
  rcases h.chars c hc with halpha | rfl | rfl | hdigit | rfl
  · have hupper : 'A'.val.toNat = 65 ∧ 'Z'.val.toNat = 90 := ⟨rfl, rfl⟩
    have hlower : 'a'.val.toNat = 97 ∧ 'z'.val.toNat = 122 := ⟨rfl, rfl⟩
    have hvalue : c.toNat = c.val.toNat := rfl
    simp only [Char.isAlpha, Char.isUpper, Char.isLower, Bool.or_eq_true, Bool.and_eq_true,
      decide_eq_true_eq, ge_iff_le, UInt32.le_iff_toNat_le] at halpha
    exact not_isSeparator_of_toNat (by omega) (by omega)
  · decide
  · decide
  · have hzero : '0'.val.toNat = 48 ∧ '9'.val.toNat = 57 := ⟨rfl, rfl⟩
    have hvalue : c.toNat = c.val.toNat := rfl
    simp only [Char.isDigit, Bool.and_eq_true, decide_eq_true_eq, ge_iff_le,
      UInt32.le_iff_toNat_le] at hdigit
    exact not_isSeparator_of_toNat (by omega) (by omega)
  · decide

/-- Parts between commas are laid out. -/
theorem laidOut_intercalate {parts : List (List Char)} (h : ∀ part ∈ parts, IsPart part) :
    LaidOut parts ([','].intercalate parts) := by
  induction parts with
  | nil => exact .nil
  | cons part rest ih =>
    obtain ⟨hpart, hrest⟩ := List.forall_mem_cons.mp h
    cases rest with
    | nil =>
      have hlaid : LaidOut [part] (part ++ []) := .part hpart nofun .nil
      rw [List.intercalate_singleton]
      rwa [List.append_nil] at hlaid
    | cons next others =>
      have hcomma : isSeparator ',' = true := by decide
      rw [List.intercalate_cons_cons, List.append_assoc, List.singleton_append]
      refine .part hpart ?_ (.gap hcomma (ih hrest))
      rintro c ⟨⟩
      exact hcomma

/-- The canonical text of numbers lists them. -/
theorem numbers_canonical {keys : List Char} {number : Char → List Char}
    (hkeys : ∀ key ∈ keys, isSeparator key = false)
    (hliteral : ∀ key ∈ keys, Number.IsLiteral (number key)) :
    Numbers keys number (canonical keys number) := by
  have hequals : isSeparator '=' = false := by decide
  refine ⟨hliteral, _, keys, .enclosed _, .refl keys, laidOut_intercalate ?_⟩
  intro part hpart
  obtain ⟨key, hkey, rfl⟩ := List.mem_map.mp hpart
  refine ⟨nofun, List.forall_mem_cons.mpr ⟨hkeys key hkey, List.forall_mem_cons.mpr ⟨hequals, ?_⟩⟩⟩
  exact not_isSeparator_of_isLiteral (hliteral key hkey)

/-- A text that lists numbers is canonical where it is their canonical text. -/
theorem isCanonical_iff {keys text : List Char} {number : Char → List Char}
    (hkeys : ∀ key ∈ keys, isSeparator key = false) (h : Numbers keys number text) :
    IsCanonical keys text ↔ text = canonical keys number := by
  constructor
  · rintro ⟨other, hliteral, rfl⟩
    obtain ⟨-, hsame⟩ := (numbers_canonical hkeys hliteral).eq h
    have hparts : keys.map (assignment other) = keys.map (assignment number) := by
      refine List.map_congr_left fun key hkey => ?_
      rw [assignment, assignment, hsame key hkey]
    rw [canonical, canonical, hparts]
  · rintro rfl
    exact ⟨number, h.isLiteral, rfl⟩

end Composite

/-! ## Values -/

namespace BaseType

theorem keys_not_isSeparator (base : BaseType) :
    ∀ key ∈ base.keys, Composite.isSeparator key = false := by
  have hall : base.keys.all (fun key => !Composite.isSeparator key) = true := by
    cases base with
    | vector | rotator => decide
    | int32 | int64 | float | double | string | enumeration _ => rfl
  intro key hkey
  simpa using List.all_eq_true.mp hall key hkey

/-- The default of a composite is canonical. -/
theorem isCanonical_emptyText {base : BaseType} (h : base.isComposite = true) :
    Composite.IsCanonical base.keys base.emptyText.toList := by
  have hzero : Number.IsLiteral ['0'] := Number.Binary64.isSome_ofText?_iff.mp (by decide)
  refine ⟨fun _ => ['0'], fun _ _ => hzero, ?_⟩
  cases base with
  | vector | rotator => decide
  | int32 | int64 | float | double | string | enumeration _ => cases h

/-- The two types of composites have different keys. -/
theorem eq_of_keys_perm {base other : BaseType} (h : base.isComposite = true)
    (hother : other.isComposite = true) (hkeys : base.keys.Perm other.keys) : base = other := by
  cases base with
  | vector =>
    cases other with
    | vector => rfl
    | rotator => exact absurd hkeys (by decide)
    | int32 | int64 | float | double | string | enumeration _ => cases hother
  | rotator =>
    cases other with
    | vector => exact absurd hkeys (by decide)
    | rotator => rfl
    | int32 | int64 | float | double | string | enumeration _ => cases hother
  | int32 | int64 | float | double | string | enumeration _ => cases h

end BaseType

namespace Value

/-- Composites are canonical; nothing is asked of other values. -/
def IsCanonical : Value → Prop
  | composite shown =>
    ∃ base : BaseType, base.isComposite = true ∧ Composite.IsCanonical base.keys shown.toList
  | int _ | float _ | text _ | symbol _ => True

/-- The values are the same, or composites that list the same numbers for the same keys. -/
inductive SameNumbers : Value → Value → Prop
  | refl (value : Value) : SameNumbers value value
  | composite {base : BaseType} (hbase : base.isComposite = true) {number : Char → List Char}
      {shown other : String} (h : Composite.Numbers base.keys number shown.toList)
      (hother : Composite.Numbers base.keys number other.toList) :
      SameNumbers (.composite shown) (.composite other)

/-- A composite that lists numbers is canonical where it shows their canonical text. -/
theorem isCanonical_composite_iff {base : BaseType} (hbase : base.isComposite = true)
    {number : Char → List Char} {shown : String}
    (h : Composite.Numbers base.keys number shown.toList) :
    (composite shown).IsCanonical ↔ shown.toList = Composite.canonical base.keys number := by
  rw [← Composite.isCanonical_iff base.keys_not_isSeparator h]
  constructor
  · rintro ⟨other, hother, hcanonical⟩
    obtain ⟨otherNumber, hliteral, htext⟩ := hcanonical
    have hlisted := Composite.numbers_canonical other.keys_not_isSeparator hliteral
    rw [← htext] at hlisted
    obtain rfl := BaseType.eq_of_keys_perm hbase hother (h.eq hlisted).1
    exact ⟨otherNumber, hliteral, htext⟩
  · intro hcanonical
    exact ⟨base, hbase, hcanonical⟩

/-- Values with the same numbers are the same where both are canonical. -/
theorem SameNumbers.eq_of_isCanonical {value other : Value} (h : SameNumbers value other)
    (hvalue : value.IsCanonical) (hother : other.IsCanonical) : value = other := by
  cases h with
  | refl => rfl
  | composite hbase hnumbers hotherNumbers =>
    rw [isCanonical_composite_iff hbase hnumbers] at hvalue
    rw [isCanonical_composite_iff hbase hotherNumbers] at hother
    rw [String.toList_inj.mp (hvalue.trans hother.symm)]

/-- Values with the same numbers show the same exactly where they are the same. -/
theorem SameNumbers.shown_eq_iff {value other : Value} (h : SameNumbers value other) :
    value.shown = other.shown ↔ value = other := by
  cases h with
  | refl => exact ⟨fun _ => rfl, fun _ => rfl⟩
  | composite => exact ⟨congrArg Value.composite, congrArg Value.shown⟩

/-- Rows with the same numbers show the same only where they are the same. -/
theorem eq_of_map_shown {row other : List Value} (h : List.Forall₂ SameNumbers row other)
    (hshown : row.map shown = other.map shown) : row = other := by
  induction h with
  | nil => rfl
  | cons hvalue _ ih =>
    obtain ⟨hfirst, hrest⟩ := List.cons.inj hshown
    rw [hvalue.shown_eq_iff.mp hfirst, ih hrest]

end Value

/-! ## Tables -/

namespace KeptColumn

/-- The value of a composite column is the text of the cell, or the default in the place of an empty
one.  It lists numbers for the keys, and is canonical exactly where it is written as their canonical
text, as the default is. -/
structure KeepsWritten (row : List String) (column : KeptColumn) (value : Value) : Prop where
  value_eq : value = .composite (column.textIn row)
  exists_numbers : ∃ number,
    Composite.Numbers column.base.keys number (column.textIn row).toList
  isCanonical_iff : ∀ number,
    Composite.Numbers column.base.keys number (column.textIn row).toList →
      (value.IsCanonical ↔
        (column.textIn row).toList = Composite.canonical column.base.keys number)
  isCanonical_of_empty : Sheet.cellAt row column.position = "" → value.IsCanonical

theorem Reads.keepsWritten {symbolsOf? : String → Option (List String)} {row : List String}
    {column : KeptColumn} {value : Value} (h : column.Reads symbolsOf? row value)
    (hbase : column.base.isComposite = true) : column.KeepsWritten row value := by
  have hlists : Composite.Lists column.base.keys (column.textIn row).toList :=
    (BaseType.accepts_composite_iff hbase).mp ⟨value, h.literal_eq⟩
  have hread := h.literal_eq
  rw [BaseType.readLiteral_composite hbase,
    if_pos ((Composite.lists_eq_true_iff (BaseType.areKeys hbase)).mpr hlists)] at hread
  obtain rfl := Except.ok.inj hread
  refine ⟨rfl, Composite.exists_numbers (BaseType.areKeys hbase) hlists, ?_, ?_⟩
  · exact fun number hnumbers => Value.isCanonical_composite_iff hbase hnumbers
  · intro hempty
    have htext : column.textIn row = column.base.emptyText := if_pos hempty
    rw [htext]
    exact ⟨column.base, hbase, BaseType.isCanonical_emptyText hbase⟩

end KeptColumn

namespace TypedTable

/-- The rows of the tables differ in the layout of composites at most. -/
def SameNumbers (table other : TypedTable) : Prop :=
  List.Forall₂ (List.Forall₂ Value.SameNumbers) table.rows other.rows

/-- All composites of the table are canonical. -/
def IsCanonical (table : TypedTable) : Prop :=
  ∀ row ∈ table.rows, ∀ value ∈ row, value.IsCanonical

/-- Rows that differ in the layout of composites show the same exactly where they are the same. -/
theorem shownCells_eq_iff {rows others : List (List Value)}
    (h : List.Forall₂ (List.Forall₂ Value.SameNumbers) rows others) :
    shownCells rows = shownCells others ↔ rows = others := by
  constructor
  · intro hshown
    induction h with
    | nil => rfl
    | @cons row other rows others hrow _ ih =>
      simp only [shownCells, List.flatMap_cons] at hshown
      -- the rows have one width, so that the texts of the first are told from the others
      have hwidth : (row.map Value.shown).length = (other.map Value.shown).length := by
        rw [List.length_map, List.length_map, hrow.length_eq]
      obtain ⟨hfirst, hrest⟩ := List.append_inj hshown hwidth
      rw [Value.eq_of_map_shown hrow hfirst, ih hrest]
  · rintro rfl
    rfl

/-- Tables with the same numbers have the same rows where all composites are canonical. -/
theorem SameNumbers.rows_eq {table other : TypedTable} (h : table.SameNumbers other)
    (htable : table.IsCanonical) (hother : other.IsCanonical) : table.rows = other.rows := by
  rw [← List.forall₂_eq_eq_eq]
  refine (Outcome.forall₂_mem_left (Outcome.forall₂_mem_right h)).imp ?_
  rintro row otherRow ⟨hrow, hotherRow, hvalues⟩
  rw [← List.forall₂_eq_eq_eq]
  refine (Outcome.forall₂_mem_left (Outcome.forall₂_mem_right hvalues)).imp ?_
  rintro value otherValue ⟨hvalue, hotherValue, hsame⟩
  exact hsame.eq_of_isCanonical (htable row hrow value hvalue)
    (hother otherRow hotherRow otherValue hotherValue)

/-- What holds of two tables that differ in the layout of composites at most: the fingerprints cover
the same texts exactly where the rows are the same, and then are the same; and where all composites
are canonical, the rows are the same. -/
structure Compare (table other : TypedTable) : Prop where
  covered_iff : shownCells table.rows = shownCells other.rows ↔ table.rows = other.rows
  fingerprint_eq : table.rows = other.rows → table.fingerprint = other.fingerprint
  rows_eq : table.IsCanonical → other.IsCanonical → table.rows = other.rows

end TypedTable

namespace Workbook

theorem fingerprint_of_refine {workbook : Workbook} {platform : Platform}
    {tables : List TypedTable} (hrefine : (workbook.refine platform).outcome = .ok tables)
    {table : TypedTable} (htable : table ∈ tables) :
    table.fingerprint = Fingerprint.ofTexts (TypedTable.shownCells table.rows) := by
  obtain ⟨sheet, -, hsheet⟩ := Outcome.exists_of_mem_right (refine_eq_ok.mp hrefine) htable
  obtain ⟨columns, hgives⟩ := Sheet.refine_eq_ok.mp hsheet
  exact hgives.fingerprint_eq

/-- Where a workbook is refined, composites are kept as they are written: canonical where the cell
is canonical or empty, and nowhere else.  Tables that differ in the layout of composites at most are
the same, and have one fingerprint, where all of these are canonical; in any case the fingerprints
cover the same texts exactly where the rows are the same. -/
theorem composites_as_written {workbook other : Workbook} {platform otherPlatform : Platform}
    {tables others : List TypedTable} (hrefine : (workbook.refine platform).outcome = .ok tables)
    (hother : (other.refine otherPlatform).outcome = .ok others) :
    List.Forall₂
        (fun sheet table => ∀ columns, sheet.schema = .ok columns →
          List.Forall₂
            (fun row => List.Forall₂
              (fun column value => column.base.isComposite = true → column.KeepsWritten row value)
              (columns.filterMap (·.keptOn? platform)))
            sheet.dataRows table.rows)
        workbook.dataSheets tables ∧
      ∀ table ∈ tables, ∀ otherTable ∈ others,
        table.SameNumbers otherTable → table.Compare otherTable := by
  constructor
  · refine (refine_eq_ok.mp hrefine).imp ?_
    intro sheet table htable columns hschema
    obtain ⟨found, hgives⟩ := Sheet.refine_eq_ok.mp htable
    obtain rfl := Except.ok.inj (hgives.schema_eq.symm.trans hschema)
    refine hgives.rows_read.imp fun row values hvalues => hvalues.imp ?_
    exact fun column value hreads => hreads.keepsWritten
  · intro table htable otherTable hotherTable hsame
    refine ⟨TypedTable.shownCells_eq_iff hsame, ?_, hsame.rows_eq⟩
    intro hrows
    rw [fingerprint_of_refine hrefine htable, fingerprint_of_refine hother hotherTable, hrows]

/-! ### One position in two layouts -/

/-- A sheet with a position that is written in a given way, and one that is left empty. -/
def placed (position : String) : Workbook where
  sheets := [{
    name := "Spawn"
    columns := ["Id", "Pos"]
    rows := [["int32_s", "vector?_s"], ["1", position], ["2", ""]] }]
  exportedAt := none

/-- The table of the sheet. -/
def placedTable (position : String) (fingerprint : UInt64) : TypedTable where
  name := "Spawn"
  platform := .server
  columns := [⟨"Id", .int32⟩, ⟨"Pos", .vector⟩]
  rows := [[.int 1, .composite position], [.int 2, .composite "(X=0,Y=0,Z=0)"]]
  ids := ["1", "2"]
  fingerprint := fingerprint

/-- The position, by its three numbers. -/
def placedNumber : Char → List Char
  | 'X' => ['1']
  | 'Y' => ['2']
  | _ => ['3']

theorem refine_placed_in_parentheses :
    ((placed "(X=1,Y=2,Z=3)").refine .server).outcome =
      .ok [placedTable "(X=1,Y=2,Z=3)" 17288828009340794175] := by
  decide +kernel

theorem refine_placed_with_blanks :
    ((placed "X=1 Y=2 Z=3").refine .server).outcome =
      .ok [placedTable "X=1 Y=2 Z=3" 8252903758067401276] := by
  decide +kernel

theorem refine_placed_in_other_order :
    ((placed "Z=3,\tX=1 Y=2").refine .server).outcome =
      .ok [placedTable "Z=3,\tX=1 Y=2" 9188752523001422150] := by
  decide +kernel

/-- A text lists the three numbers where they are its parts. -/
theorem numbers_placed {shown : String} (inner order : List Char)
    (hopens : inner = Composite.withoutParentheses shown.toList)
    (horder : order.Perm ['X', 'Y', 'Z'])
    (hlaid : order.map (Composite.assignment placedNumber) =
      (Text.pieces Composite.isSeparator inner).filter (· ≠ [])) :
    Composite.Numbers BaseType.vector.keys placedNumber shown.toList := by
  have hliteral : ∀ key, Number.IsLiteral (placedNumber key) := by
    intro key
    rw [← Number.Binary64.isSome_ofText?_iff]
    unfold placedNumber
    split
    · decide
    · decide
    · decide
  exact ⟨fun key _ => hliteral key, inner, order, Composite.opens_iff.mpr hopens, horder,
    Composite.laidOut_iff.mpr hlaid⟩

/-- The tables of two layouts of the position have the same numbers. -/
theorem sameNumbers_placed {shown other : String} (fingerprint otherFingerprint : UInt64)
    (h : Composite.Numbers BaseType.vector.keys placedNumber shown.toList)
    (hother : Composite.Numbers BaseType.vector.keys placedNumber other.toList) :
    (placedTable shown fingerprint).SameNumbers (placedTable other otherFingerprint) :=
  .cons (.cons (.refl _) (.cons (.composite rfl h hother) .nil))
    (.cons (.cons (.refl _) (.cons (.refl _) .nil)) .nil)

/-- The default of the empty cell is canonical, so that the position decides. -/
theorem isCanonical_placed {shown : String} {fingerprint : UInt64}
    (h : (Value.composite shown).IsCanonical) : (placedTable shown fingerprint).IsCanonical := by
  have hdefault : (Value.composite "(X=0,Y=0,Z=0)").IsCanonical :=
    ⟨.vector, rfl, BaseType.isCanonical_emptyText rfl⟩
  intro row hrow value hvalue
  simp only [placedTable, List.mem_cons, List.not_mem_nil, or_false] at hrow
  rcases hrow with rfl | rfl
  · simp only [List.mem_cons, List.not_mem_nil, or_false] at hvalue
    rcases hvalue with rfl | rfl
    · trivial
    · exact h
  · simp only [List.mem_cons, List.not_mem_nil, or_false] at hvalue
    rcases hvalue with rfl | rfl
    · trivial
    · exact hdefault

/-- The position in parentheses, with its parts in order. -/
theorem numbers_in_parentheses :
    Composite.Numbers BaseType.vector.keys placedNumber "(X=1,Y=2,Z=3)".toList :=
  numbers_placed "X=1,Y=2,Z=3".toList ['X', 'Y', 'Z'] (by decide) (by decide) (by decide)

/-- In another order the position has another value, which is not canonical; in parentheses it is,
and so is the default of the empty cell. -/
theorem placed_as_written :
    ((placed "(X=1,Y=2,Z=3)").refine .server).outcome =
        .ok [placedTable "(X=1,Y=2,Z=3)" 17288828009340794175] ∧
      ((placed "Z=3,\tX=1 Y=2").refine .server).outcome =
        .ok [placedTable "Z=3,\tX=1 Y=2" 9188752523001422150] ∧
      (placedTable "(X=1,Y=2,Z=3)" 17288828009340794175).SameNumbers
        (placedTable "Z=3,\tX=1 Y=2" 9188752523001422150) ∧
      (placedTable "(X=1,Y=2,Z=3)" 17288828009340794175).Compare
        (placedTable "Z=3,\tX=1 Y=2" 9188752523001422150) ∧
      (placedTable "(X=1,Y=2,Z=3)" 17288828009340794175).IsCanonical ∧
      ¬ (placedTable "Z=3,\tX=1 Y=2" 9188752523001422150).IsCanonical := by
  have hother : Composite.Numbers BaseType.vector.keys placedNumber "Z=3,\tX=1 Y=2".toList :=
    numbers_placed "Z=3,\tX=1 Y=2".toList ['Z', 'X', 'Y'] (by decide) (by decide) (by decide)
  have hsame :=
    sameNumbers_placed 17288828009340794175 9188752523001422150 numbers_in_parentheses hother
  obtain ⟨-, hcompare⟩ :=
    composites_as_written refine_placed_in_parentheses refine_placed_in_other_order
  have htables := hcompare _ List.mem_cons_self _ List.mem_cons_self hsame
  have hcanonical : (placedTable "(X=1,Y=2,Z=3)" 17288828009340794175).IsCanonical :=
    isCanonical_placed
      ((Value.isCanonical_composite_iff rfl numbers_in_parentheses).mpr (by decide))
  refine ⟨refine_placed_in_parentheses, refine_placed_in_other_order, hsame, htables, hcanonical,
    ?_⟩
  intro hotherCanonical
  exact absurd (htables.rows_eq hcanonical hotherCanonical) (by decide)

/-- With blanks for commas and without parentheses the position lists the same numbers, but it is
not canonical, and the table has another fingerprint. -/
theorem placed_with_blanks_apart :
    ((placed "X=1 Y=2 Z=3").refine .server).outcome =
        .ok [placedTable "X=1 Y=2 Z=3" 8252903758067401276] ∧
      ((placed "(X=1,Y=2,Z=3)").refine .server).outcome =
        .ok [placedTable "(X=1,Y=2,Z=3)" 17288828009340794175] ∧
      (placedTable "X=1 Y=2 Z=3" 8252903758067401276).SameNumbers
        (placedTable "(X=1,Y=2,Z=3)" 17288828009340794175) ∧
      ¬ (Value.composite "X=1 Y=2 Z=3").IsCanonical ∧
      (placedTable "X=1 Y=2 Z=3" 8252903758067401276).rows ≠
        (placedTable "(X=1,Y=2,Z=3)" 17288828009340794175).rows ∧
      (placedTable "X=1 Y=2 Z=3" 8252903758067401276).fingerprint ≠
        (placedTable "(X=1,Y=2,Z=3)" 17288828009340794175).fingerprint := by
  have hblanks : Composite.Numbers BaseType.vector.keys placedNumber "X=1 Y=2 Z=3".toList :=
    numbers_placed "X=1 Y=2 Z=3".toList ['X', 'Y', 'Z'] (by decide) (by decide) (by decide)
  refine ⟨refine_placed_with_blanks, refine_placed_in_parentheses,
    sameNumbers_placed _ _ hblanks numbers_in_parentheses, ?_, by decide, by decide⟩
  rw [Value.isCanonical_composite_iff rfl hblanks]
  decide

end Workbook

end GameSheets

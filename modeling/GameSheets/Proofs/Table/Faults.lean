/-
  Faults of cells.

  A cell of an included column is accepted where it is empty and may be, and where it is not empty
  and is a literal of the column's type.

  1. Texts that are not empty are read where they are literals (`BaseType.exists_readLiteral_iff`),
     and a type has a single fault for those that are not.
  2. The default that stands for an empty cell is read, whatever the type
     (`BaseType.exists_readLiteral_emptyText`), so that an empty cell of a nullable column never
     fails.
  3. So a cell is read exactly where it is accepted (`KeptColumn.exists_read_iff`), and fails with
     its one fault where it is not (`KeptColumn.read_eq_error`).
-/
import GameSheets.Proofs.Table.Composites
import GameSheets.Proofs.Table.Symbols

namespace GameSheets

/-! ## Literals -/

namespace BaseType

/-- The text is a literal of the type: a number in the range of the type, a list of numbers for the
keys of a composite, or a symbol of the enum sheet, if there is that sheet. -/
def IsLiteral (workbook : Workbook) (text : String) : BaseType → Prop
  | int32 => ∃ n, Number.integer? text.toList = some n ∧ -2 ^ 31 ≤ n ∧ n < 2 ^ 31
  | int64 => ∃ n, Number.integer? text.toList = some n ∧ -2 ^ 63 ≤ n ∧ n < 2 ^ 63
  | float => Number.IsLiteral text.toList ∧ ∀ x, Number.Binary64.ofText? text.toList = some x →
      x.isFinite = true ∧ x.fitsSingle = true
  | double => Number.IsLiteral text.toList ∧ ∀ x, Number.Binary64.ofText? text.toList = some x →
      x.isFinite = true
  | vector => Composite.Lists vector.keys text.toList
  | rotator => Composite.Lists rotator.keys text.toList
  | string => True
  | enumeration sheet => workbook.Names sheet text

/-- The fault of texts that are no literals of the type. -/
def literalFault : BaseType → LiteralFault
  | enumeration _ => .unknownSymbol
  | _ => .invalid

/-- A symbol that is not empty is read where the enum sheet, if there is one, has it. -/
theorem readLiteral_enumeration {workbook : Workbook}
    (hnames : (workbook.sheets.map (·.name)).Nodup) {sheet text : String} (htext : text ≠ "") :
    (∃ value, (enumeration sheet).readLiteral workbook.symbolsOf? text = .ok value) ↔
      workbook.Names sheet text := by
  constructor
  · rintro ⟨value, hvalue⟩
    refine Workbook.names_of_symbolsOf? hnames ?_
    intro symbols hsymbols
    simp only [readLiteral, hsymbols] at hvalue
    split at hvalue
    · assumption
    · cases hvalue
  · intro hlisted
    by_cases hfound : workbook.HasEnumSheet sheet
    · obtain ⟨found, hmem, rfl⟩ := hfound
      obtain ⟨hrow, hcomment⟩ := hlisted htext found hmem rfl
      have hsymbol : text ∈ found.symbols := Sheet.mem_symbols.mpr ⟨hrow, htext, hcomment⟩
      refine ⟨.symbol text, ?_⟩
      rw [readLiteral, Workbook.symbolsOf?_name hnames hmem]
      exact if_pos (.inr hsymbol)
    · refine ⟨.symbol text, ?_⟩
      rw [readLiteral, Workbook.symbolsOf?_eq_none_iff.mpr hfound]

/-- A number is read with the property where the text is a literal whose number has it. -/
theorem exists_ofText?_iff {text : List Char} {P : Number.Binary64 → Prop} :
    (∃ x, Number.Binary64.ofText? text = some x ∧ P x) ↔
      Number.IsLiteral text ∧ ∀ x, Number.Binary64.ofText? text = some x → P x := by
  rw [← Number.Binary64.isSome_ofText?_iff]
  cases Number.Binary64.ofText? text with
  | none => simp
  | some x => simp

/-- The texts that are read, apart from the empty one, are the literals of the type. -/
theorem exists_readLiteral_iff {workbook : Workbook}
    (hnames : (workbook.sheets.map (·.name)).Nodup) (base : BaseType) {text : String}
    (htext : text ≠ "") :
    (∃ value, base.readLiteral workbook.symbolsOf? text = .ok value) ↔
      base.IsLiteral workbook text := by
  cases base with
  | int32 | int64 =>
    simp only [readLiteral, LiteralFault.orInvalid_eq_ok, Option.map_eq_some_iff,
      Number.Bounds.read?_eq_some, IsLiteral, Number.Bounds.int32, Number.Bounds.int64]
    constructor
    · rintro ⟨_, n, ⟨hread, hlow, hhigh⟩, -⟩
      exact ⟨n, hread, by omega, by omega⟩
    · rintro ⟨n, hread, hlow, hhigh⟩
      exact ⟨.int n, n, ⟨hread, by omega, by omega⟩, rfl⟩
  | float | double =>
    simp only [readLiteral, LiteralFault.orInvalid_eq_ok, readFloat?, Option.map_eq_some_iff,
      Option.filter_eq_some_iff, IsLiteral, ← exists_ofText?_iff]
    simp
  | vector | rotator => exact accepts_composite_iff rfl
  | string => simp [readLiteral, IsLiteral]
  | enumeration sheet => exact readLiteral_enumeration hnames htext

/-- A type has one fault of literals. -/
theorem literalFault_eq_of_readLiteral {symbolsOf? : String → Option (List String)}
    {base : BaseType} {text : String} {fault : LiteralFault}
    (h : base.readLiteral symbolsOf? text = .error fault) : base.literalFault = fault := by
  have hinvalid : ∀ value? : Option Value, LiteralFault.orInvalid value? = .error fault →
      LiteralFault.invalid = fault := by
    rintro (_ | value) hfault
    · exact Except.error.inj hfault
    · cases hfault
  cases base with
  | int32 | int64 | float | double | vector | rotator => exact hinvalid _ h
  | string => cases h
  | enumeration sheet =>
    rw [readLiteral] at h
    split at h
    · cases h
    · split at h
      · cases h
      · exact Except.error.inj h

/-- The default that stands for an empty cell is read, whatever the symbols are. -/
theorem exists_readLiteral_emptyText (symbolsOf? : String → Option (List String))
    (base : BaseType) : ∃ value, base.readLiteral symbolsOf? base.emptyText = .ok value := by
  cases base with
  | int32 | int64 =>
    refine ⟨.int 0, ?_⟩
    rw [readLiteral, LiteralFault.orInvalid_eq_ok]
    decide +kernel
  | float | double =>
    refine ⟨.float (.zero false), ?_⟩
    rw [readLiteral, LiteralFault.orInvalid_eq_ok]
    decide +kernel
  | vector =>
    refine ⟨.composite vector.emptyText, ?_⟩
    rw [readLiteral, LiteralFault.orInvalid_eq_ok]
    decide +kernel
  | rotator =>
    refine ⟨.composite rotator.emptyText, ?_⟩
    rw [readLiteral, LiteralFault.orInvalid_eq_ok]
    decide +kernel
  | string => exact ⟨.text "", rfl⟩
  | enumeration sheet =>
    refine ⟨.symbol "", ?_⟩
    rw [readLiteral]
    split
    · rfl
    · exact if_pos (.inl rfl)

end BaseType

/-! ## Cells -/

namespace KeptColumn

variable {workbook : Workbook} {sheet : String} {row : List String} {column : KeptColumn}

/-- Where the column's cell of a row stands. -/
def site (sheet : String) (row : List String) (column : KeptColumn) : CellSite :=
  ⟨sheet, Sheet.cellAt row 0, column.name, column.declared⟩

/-- The column's cell of the row is empty and may be, or is a literal of the column's type. -/
def Accepts (workbook : Workbook) (row : List String) (column : KeptColumn) : Prop :=
  Sheet.cellAt row column.position = "" ∧ column.nullable = true ∨
    Sheet.cellAt row column.position ≠ "" ∧
      column.base.IsLiteral workbook (Sheet.cellAt row column.position)

/-- The error of the column's cell of the row where it is not accepted. -/
def fault (sheet : String) (row : List String) (column : KeptColumn) : RefineError :=
  if Sheet.cellAt row column.position = "" then .emptyCell (column.site sheet row)
  else
    match column.base.literalFault with
    | .invalid => .invalidValue (column.site sheet row) (Sheet.cellAt row column.position)
    | .unknownSymbol => .unknownSymbol (column.site sheet row) (Sheet.cellAt row column.position)

/-- A cell that is not accepted is an error of emptiness exactly where it is empty and must not
be. -/
theorem fault_eq_emptyCell_iff (h : ¬ column.Accepts workbook row) :
    column.fault sheet row = .emptyCell (column.site sheet row) ↔
      Sheet.cellAt row column.position = "" ∧ column.nullable = false := by
  by_cases hempty : Sheet.cellAt row column.position = ""
  · have hnullable : column.nullable = false := by
      rw [Bool.eq_false_iff]
      exact fun hnullable => h (.inl ⟨hempty, hnullable⟩)
    rw [fault, if_pos hempty]
    exact ⟨fun _ => ⟨hempty, hnullable⟩, fun _ => rfl⟩
  · rw [fault, if_neg hempty]
    constructor
    · intro hfault
      split at hfault
      · cases hfault
      · cases hfault
    · exact fun hcell => absurd hcell.1 hempty

/-- An empty cell is read where it may be empty. -/
theorem read_of_empty (symbolsOf? : String → Option (List String)) (sheet : String)
    (hempty : Sheet.cellAt row column.position = "") :
    (column.nullable = true ∧ ∃ value, column.read symbolsOf? sheet row = .ok value) ∨
      (column.nullable = false ∧
        column.read symbolsOf? sheet row = .error (.emptyCell (column.site sheet row))) := by
  cases hnullable : column.nullable with
  | true =>
    obtain ⟨value, hvalue⟩ := column.base.exists_readLiteral_emptyText symbolsOf?
    refine .inl ⟨rfl, value, read_eq_ok.mpr ⟨fun _ => hnullable, ?_⟩⟩
    rw [textIn, if_pos hempty, hvalue]
  | false =>
    refine .inr ⟨rfl, ?_⟩
    simp only [read, if_pos (And.intro hempty hnullable)]
    rfl

/-- A cell that is not empty is read as a literal. -/
theorem read_of_written (symbolsOf? : String → Option (List String)) (sheet : String)
    (hcell : Sheet.cellAt row column.position ≠ "") :
    (∃ value, column.base.readLiteral symbolsOf? (Sheet.cellAt row column.position) = .ok value ∧
        column.read symbolsOf? sheet row = .ok value) ∨
      ((∀ value,
          column.base.readLiteral symbolsOf? (Sheet.cellAt row column.position) ≠ .ok value) ∧
        column.read symbolsOf? sheet row = .error (column.fault sheet row)) := by
  cases hread : column.base.readLiteral symbolsOf? (Sheet.cellAt row column.position) with
  | ok value =>
    refine .inl ⟨value, rfl, read_eq_ok.mpr ⟨fun h => absurd h hcell, ?_⟩⟩
    rw [textIn, if_neg hcell, hread]
  | error cause =>
    have hnone : ∀ value : Value, Except.error cause ≠ .ok value := by
      rintro value ⟨⟩
    refine .inr ⟨hnone, ?_⟩
    simp only [read, fault, hcell, false_and, if_false, hread,
      BaseType.literalFault_eq_of_readLiteral hread]
    cases cause with
    | invalid => rfl
    | unknownSymbol => rfl

/-- A cell is read where it is accepted, and has its fault where it is not. -/
theorem read_cases (hnames : (workbook.sheets.map (·.name)).Nodup) (sheet : String)
    (row : List String) (column : KeptColumn) :
    (column.Accepts workbook row ∧
        ∃ value, column.read workbook.symbolsOf? sheet row = .ok value) ∨
      (¬ column.Accepts workbook row ∧
        column.read workbook.symbolsOf? sheet row = .error (column.fault sheet row)) := by
  by_cases hempty : Sheet.cellAt row column.position = ""
  · rcases read_of_empty workbook.symbolsOf? sheet hempty with
      ⟨hnullable, hread⟩ | ⟨hnullable, hread⟩
    · exact .inl ⟨.inl ⟨hempty, hnullable⟩, hread⟩
    · refine .inr ⟨?_, by rw [hread, fault, if_pos hempty]⟩
      rintro (⟨-, htrue⟩ | ⟨hcell, -⟩)
      · rw [hnullable] at htrue
        cases htrue
      · exact hcell hempty
  · have hliteral := BaseType.exists_readLiteral_iff hnames column.base hempty
    rcases read_of_written workbook.symbolsOf? sheet hempty with
      ⟨value, hvalue, hread⟩ | ⟨hnone, hread⟩
    · exact .inl ⟨.inr ⟨hempty, hliteral.mp ⟨value, hvalue⟩⟩, value, hread⟩
    · refine .inr ⟨?_, hread⟩
      rintro (⟨hcell, -⟩ | ⟨-, haccepted⟩)
      · exact hempty hcell
      · obtain ⟨value, hvalue⟩ := hliteral.mpr haccepted
        exact hnone value hvalue

theorem exists_read_iff (hnames : (workbook.sheets.map (·.name)).Nodup) :
    (∃ value, column.read workbook.symbolsOf? sheet row = .ok value) ↔
      column.Accepts workbook row := by
  rcases read_cases hnames sheet row column with ⟨haccepts, hread⟩ | ⟨hnot, hread⟩
  · exact ⟨fun _ => haccepts, fun _ => hread⟩
  · constructor
    · rintro ⟨value, hvalue⟩
      rw [hread] at hvalue
      cases hvalue
    · exact fun haccepts => absurd haccepts hnot

theorem read_eq_error (hnames : (workbook.sheets.map (·.name)).Nodup) {cause : RefineError} :
    column.read workbook.symbolsOf? sheet row = .error cause ↔
      ¬ column.Accepts workbook row ∧ column.fault sheet row = cause := by
  rcases read_cases hnames sheet row column with ⟨haccepts, value, hread⟩ | ⟨hnot, hread⟩
  · rw [hread]
    constructor
    · rintro ⟨⟩
    · exact fun h => absurd haccepts h.1
  · rw [hread, Except.error.injEq]
    exact ⟨fun h => ⟨hnot, h⟩, fun h => h.2⟩

end KeptColumn

end GameSheets

/-
  The enumerators of an enumeration against the symbols of its sheet.

  An enum sheet is read twice: for the symbols that cells may name, and for the enumerators that
  headers declare.  The first reading is a filter, the second a run with ordinals, values and faults
  of its own; where the run succeeds, its enumerators have the symbols for names, in order.
-/
import GameSheets.Declaration.Enumeration
import GameSheets.Proofs.Outcome
import GameSheets.Table.Literal

namespace GameSheets

namespace Sheet

/-- The row has no symbol: its first cell is empty or a comment. -/
def IsBlank (row : List String) : Prop :=
  cellAt row 0 = "" ∨ isComment (cellAt row 0) = true

instance (row : List String) : Decidable (IsBlank row) :=
  inferInstanceAs (Decidable (_ ∨ _))

/-- The rows with a symbol. -/
def symbolRows (rows : List (List String)) : List (List String) :=
  rows.filter fun row => ¬ IsBlank row

theorem symbolRows_cons_of_isBlank {row : List String} {rest : List (List String)}
    (h : IsBlank row) : symbolRows (row :: rest) = symbolRows rest :=
  List.filter_cons_of_neg (by simpa using h)

theorem symbolRows_cons_of_not_isBlank {row : List String} {rest : List (List String)}
    (h : ¬ IsBlank row) : symbolRows (row :: rest) = row :: symbolRows rest :=
  List.filter_cons_of_pos (by simpa using h)

/-- Symbols are the first cells of the rows with a symbol. -/
theorem symbols_eq (sheet : Sheet) : sheet.symbols = (symbolRows sheet.rows).map (cellAt · 0) := by
  unfold symbols
  induction sheet.rows with
  | nil => rfl
  | cons row rest ih =>
    cases row with
    | nil =>
      have hhead : ([] : List String).head? = none := rfl
      rw [List.filterMap_cons_none hhead, symbolRows_cons_of_isBlank (.inl rfl), ih]
    | cons cell cells =>
      have hhead : (cell :: cells).head? = some cell := rfl
      have hsame : (cell != "" && !isComment cell) = decide (¬ IsBlank (cell :: cells)) := by
        rw [Bool.eq_iff_iff]
        simp [IsBlank, cellAt]
      rw [List.filterMap_cons_some hhead, symbolRows, List.filter_cons, List.filter_cons, hsame]
      cases decide (¬ IsBlank (cell :: cells)) with
      | true => exact congrArg (cell :: ·) ih
      | false => exact ih

end Sheet

namespace Enumerator

variable {sheet : String} {seen : List String} {previous : Option Int} {rows : List (List String)}
  {described : List (Enumerator × String)}

theorem explicitOf_eq_ok {sheet symbol value : String} {explicit : Option Int} :
    explicitOf sheet symbol value = .ok explicit ↔
      value = "" ∧ explicit = none ∨
        value ≠ "" ∧ ∃ n, Number.Bounds.int64.read? value = some n ∧ explicit = some n := by
  unfold explicitOf
  by_cases hempty : value = ""
  · simp [hempty, eq_comm]
  · rw [if_neg hempty]
    cases Number.Bounds.int64.read? value with
    | none => simp [hempty]
    | some n => simp [hempty, eq_comm]

/-- A run that reads a row goes past it when it is blank; else the symbol is new, and the row
declares an enumerator in front of those of the rest. -/
theorem cases_of_readAll_cons {row : List String}
    (h : readAll sheet seen previous (row :: rows) = .ok described) :
    Sheet.IsBlank row ∧ readAll sheet seen previous rows = .ok described ∨
      ¬ Sheet.IsBlank row ∧ Sheet.cellAt row 0 ∉ seen ∧ ∃ explicit others,
        explicitOf sheet (Sheet.cellAt row 0) (Sheet.cellAt row 1) = .ok explicit ∧
        readAll sheet (Sheet.cellAt row 0 :: seen) (some (ordinalAfter previous explicit)) rows =
          .ok others ∧
        described = (⟨Sheet.cellAt row 0, explicit, ordinalAfter previous explicit⟩,
          Sheet.cellAt row 2) :: others := by
  rw [readAll] at h
  split at h
  · rename_i hblank
    exact .inl ⟨hblank, h⟩
  · rename_i hsymbol
    split at h
    · cases h
    · rename_i hnew
      split at h
      · cases h
      · rename_i explicit hexplicit
        dsimp only at h
        split at h
        · cases h
        · rename_i others hothers
          obtain rfl := Except.ok.inj h
          exact .inr ⟨hsymbol, hnew, explicit, others, hexplicit, hothers, rfl⟩

/-- A run that succeeds reads one enumerator from each row with a symbol, and no other, each with
the description of its row. -/
theorem described_of_readAll (h : readAll sheet seen previous rows = .ok described) :
    described.map (fun found => (found.1.name, found.2)) =
      (Sheet.symbolRows rows).map fun row => (Sheet.cellAt row 0, Sheet.cellAt row 2) := by
  induction rows generalizing seen previous described with
  | nil =>
    obtain rfl := Except.ok.inj h
    rfl
  | cons row rest ih =>
    rcases cases_of_readAll_cons h with
      ⟨hblank, hrest⟩ | ⟨hsymbol, -, explicit, others, -, hrest, rfl⟩
    · rw [Sheet.symbolRows_cons_of_isBlank hblank]
      exact ih hrest
    · rw [Sheet.symbolRows_cons_of_not_isBlank hsymbol]
      exact congrArg _ (ih hrest)

theorem names_of_readAll (h : readAll sheet seen previous rows = .ok described) :
    described.map (·.1.name) = (Sheet.symbolRows rows).map (Sheet.cellAt · 0) := by
  have hnames := congrArg (List.map Prod.fst) (described_of_readAll h)
  rwa [List.map_map, List.map_map] at hnames

end Enumerator

namespace Enumeration

/-- The enumeration is the one that the sheet declares: it has the name under which columns refer
to the sheet, and an enumerator for each of its symbols, in order. -/
structure DeclaredBy (sheet : Sheet) (enumeration : Enumeration) : Prop where
  name_eq : enumeration.name = BaseType.referenceTo sheet.name
  sheet_eq : enumeration.sheet = sheet.name
  entries_eq : enumeration.entries.map (·.name) = sheet.symbols

theorem declaredBy_of_ofSheet {sheet : Sheet} {enumeration : Enumeration}
    (h : ofSheet sheet = .ok enumeration) : enumeration.DeclaredBy sheet := by
  unfold ofSheet at h
  split at h
  · cases h
  · cases h
  · rename_i described _ hdescribed
    obtain rfl := Except.ok.inj h
    refine ⟨rfl, rfl, ?_⟩
    rw [Sheet.symbols_eq, ← Enumerator.names_of_readAll hdescribed, List.map_map]
    rfl

/-- The described symbols of an enum sheet: the rows with a symbol and a description. -/
def describedSymbols (sheet : Sheet) : List SymbolDoc :=
  ((Sheet.symbolRows sheet.rows).filter (Sheet.cellAt · 2 ≠ "")).map fun row =>
    ⟨Sheet.cellAt row 0, Sheet.cellAt row 2⟩

/-- The descriptions of an enumeration are those of its sheet, in order. -/
theorem docs_of_ofSheet {sheet : Sheet} {enumeration : Enumeration}
    (h : ofSheet sheet = .ok enumeration) : enumeration.docs = describedSymbols sheet := by
  unfold ofSheet at h
  split at h
  · cases h
  · cases h
  · rename_i described _ hdescribed
    obtain rfl := Except.ok.inj h
    have hfound := congrArg (fun found => (found.filter (·.2 ≠ "")).map fun pair =>
      (⟨pair.1, pair.2⟩ : SymbolDoc)) (Enumerator.described_of_readAll hdescribed)
    simp only [List.filter_map, List.map_map] at hfound
    exact hfound

theorem checkRange_eq_ok {range : Number.Bounds} {enumeration : Enumeration} :
    enumeration.checkRange range = .ok () ↔
      ∀ entry ∈ enumeration.entries, range.contains entry.ordinal = true := by
  unfold checkRange
  cases hfound : enumeration.entries.find? fun entry => !range.contains entry.ordinal with
  | none =>
    rw [List.find?_eq_none] at hfound
    simpa using hfound
  | some entry =>
    have hmem := List.mem_of_find?_eq_some hfound
    have hout := List.find?_some hfound
    simp only [reduceCtorEq, false_iff]
    intro hall
    rw [hall entry hmem] at hout
    cases hout

end Enumeration

namespace Workbook

/-- The enumerations of a workbook are those that its enum sheets declare, in order. -/
theorem declaredBy_of_enumerations {workbook : Workbook} {enumerations : List Enumeration}
    (h : workbook.enumerations = .ok enumerations) :
    List.Forall₂ (fun sheet enumeration => enumeration.DeclaredBy sheet) workbook.enumSheets
      enumerations :=
  (Outcome.mapM_eq_ok.mp h).imp fun _ _ => Enumeration.declaredBy_of_ofSheet

end Workbook

end GameSheets

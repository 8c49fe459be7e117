/-
  Ordinals as the headers give them.

  An ordinal is recorded when a row is read, from the row's own value or from the ordinal before it.
  A header writes no ordinals.  It writes the symbols with the values that rows have, and whoever
  compiles it counts anew: a written value is taken, and a symbol without one is one more than the
  symbol before it, the first being zero (`assigned`).

  1. The two countings agree (`ordinals_of_readAll`), because what is skipped in the one is not
     written for the other: rows without a symbol take no part in either.
  2. What is counted is what the headers of both platforms declare (`Header.DeclaresAll`), and where
     no symbol has an equals sign of its own, the values are read back from the labels
     (`writtenValue?_of_isLabel`).
-/
import Mathlib
import GameSheets.Proofs.Header.Enumerations
import GameSheets.Proofs.Workbook.Compiling

namespace GameSheets

/-! ## Counting -/

namespace Enumeration

/-- The values that enumerators have of which these are written: a written value is taken, and where
none is written, the enumerator has the value `next`, which is one more than the value before. -/
def assigned (next : Int) : List (Option Int) → List Int
  | [] => []
  | some value :: rest => value :: assigned (value + 1) rest
  | none :: rest => next :: assigned (next + 1) rest

end Enumeration

namespace Enumerator

variable {sheet : String} {seen : List String} {previous : Option Int} {rows : List (List String)}
  {described : List (Enumerator × String)}

/-- The enumerator is the one of a row: it has the symbol for its name, and the value that the row
gives, if it gives one. -/
structure IsOf (row : List String) (entry : Enumerator) : Prop where
  name_eq : entry.name = Sheet.cellAt row 0
  absent_iff : entry.explicit = none ↔ Sheet.cellAt row 1 = ""
  value_eq : ∀ value, entry.explicit = some value →
    Number.Bounds.int64.read? (Sheet.cellAt row 1) = some value

theorem isOf_of_explicitOf {row : List String} {symbol : String} {explicit : Option Int}
    {ordinal : Int} (h : explicitOf sheet symbol (Sheet.cellAt row 1) = .ok explicit) :
    IsOf row ⟨Sheet.cellAt row 0, explicit, ordinal⟩ := by
  rcases explicitOf_eq_ok.mp h with ⟨hempty, rfl⟩ | ⟨hvalue, value, hread, rfl⟩
  · refine ⟨rfl, ⟨fun _ => hempty, fun _ => rfl⟩, ?_⟩
    rintro value ⟨⟩
  · refine ⟨rfl, ⟨?_, fun hempty => absurd hempty hvalue⟩, ?_⟩
    · rintro ⟨⟩
    · rintro _ ⟨⟩
      exact hread

/-- A run reads an enumerator from each row with a symbol, in order. -/
theorem isOf_of_readAll (h : readAll sheet seen previous rows = .ok described) :
    List.Forall₂ IsOf (Sheet.symbolRows rows) (described.map (·.1)) := by
  induction rows generalizing seen previous described with
  | nil =>
    obtain rfl := Except.ok.inj h
    exact .nil
  | cons row rest ih =>
    rcases cases_of_readAll_cons h with
      ⟨hblank, hrest⟩ | ⟨hsymbol, -, explicit, others, hexplicit, hrest, rfl⟩
    · rw [Sheet.symbolRows_cons_of_isBlank hblank]
      exact ih hrest
    · rw [Sheet.symbolRows_cons_of_not_isBlank hsymbol]
      exact .cons (isOf_of_explicitOf hexplicit) (ih hrest)

/-- Symbols of a run are new, and no two are the same. -/
theorem nodup_of_readAll (h : readAll sheet seen previous rows = .ok described) :
    (described.map (·.1.name)).Nodup ∧ ∀ name ∈ described.map (·.1.name), name ∉ seen := by
  induction rows generalizing seen previous described with
  | nil =>
    obtain rfl := Except.ok.inj h
    exact ⟨List.nodup_nil, fun _ h => absurd h List.not_mem_nil⟩
  | cons row rest ih =>
    rcases cases_of_readAll_cons h with
      ⟨-, hrest⟩ | ⟨-, hnew, explicit, others, -, hrest, rfl⟩
    · exact ih hrest
    · obtain ⟨hnodup, hothers⟩ := ih hrest
      rw [List.map_cons, List.nodup_cons, List.forall_mem_cons]
      refine ⟨⟨?_, hnodup⟩, hnew, ?_⟩
      · intro hmem
        exact hothers _ hmem List.mem_cons_self
      · intro name hname hseen
        exact hothers name hname (List.mem_cons_of_mem _ hseen)

/-- The recorded ordinals are those that the values make, from one more than the ordinal before. -/
theorem ordinals_of_readAll (h : readAll sheet seen previous rows = .ok described) :
    described.map (·.1.ordinal) =
      Enumeration.assigned (ordinalAfter previous none) (described.map (·.1.explicit)) := by
  induction rows generalizing seen previous described with
  | nil =>
    obtain rfl := Except.ok.inj h
    rfl
  | cons row rest ih =>
    rcases cases_of_readAll_cons h with
      ⟨-, hrest⟩ | ⟨-, -, explicit, others, -, hrest, rfl⟩
    · -- a row without a symbol leaves the ordinal before it as it was
      exact ih hrest
    · have hothers := ih hrest
      rw [List.map_cons, List.map_cons, hothers]
      cases explicit with
      | none => rfl
      | some value => rfl

/-! ## Labels -/

/-- The value that stands behind the equals sign of a label. -/
def writtenValue? (label : String) : Option Int :=
  (Text.splitFirst? '=' label.toList).bind fun cut => Number.integer? (cut.2.drop 1)

/-- The value that a label writes is read back from it. -/
theorem writtenValue?_of_isLabel {symbol label : String} {value : Option Int}
    (h : Header.IsLabel symbol value label) (hsymbol : '=' ∉ symbol.toList) :
    writtenValue? label = value := by
  unfold writtenValue?
  cases h with
  | plain =>
    rw [Text.splitFirst?_eq_none_iff.mpr hsymbol]
    rfl
  | valued value =>
    have hcut : Text.splitFirst? '=' (symbol ++ " = " ++ toString value).toList =
        some (symbol.toList ++ [' '], ' ' :: (toString value).toList) := by
      rw [Text.splitFirst?_eq_some_iff]
      refine ⟨by simp, ?_⟩
      simpa using hsymbol
    rw [hcut]
    exact Number.integer?_toString value

end Enumerator

namespace Enumeration

/-- The enumeration numbers the symbols of the sheet: it has an enumerator for each row with a
symbol, in order and under different names, and the ordinal of each is the value that it has where
the symbols are declared with what is written for them, and that its label has in a header. -/
structure Numbers (sheet : Sheet) (enumeration : Enumeration) : Prop where
  entries_of_rows : List.Forall₂ Enumerator.IsOf (Sheet.symbolRows sheet.rows) enumeration.entries
  names_nodup : (enumeration.entries.map (·.name)).Nodup
  ordinals_eq : enumeration.entries.map (·.ordinal) = assigned 0 (enumeration.written.map (·.2))
  labels_eq : (∀ entry ∈ enumeration.entries, '=' ∉ entry.name.toList) →
    ∀ labels,
      List.Forall₂ (fun item label => Header.IsLabel item.1 item.2 label) enumeration.written
        labels →
      enumeration.entries.map (·.ordinal) = assigned 0 (labels.map Enumerator.writtenValue?)

theorem numbers_of_ofSheet {sheet : Sheet} {enumeration : Enumeration}
    (h : ofSheet sheet = .ok enumeration) : enumeration.Numbers sheet := by
  unfold ofSheet at h
  split at h
  · cases h
  · cases h
  · rename_i described _ hdescribed
    obtain rfl := Except.ok.inj h
    have hnames : (described.map (·.1)).map (·.name) = described.map (·.1.name) := List.map_map
    have hordinals : (described.map (·.1)).map (·.ordinal) =
        assigned 0 (((described.map (·.1)).map fun entry => (entry.name, entry.explicit)).map
          (·.2)) := by
      rw [List.map_map, List.map_map, List.map_map]
      exact Enumerator.ordinals_of_readAll hdescribed
    refine ⟨Enumerator.isOf_of_readAll hdescribed, ?_, hordinals, ?_⟩
    · rw [hnames]
      exact (Enumerator.nodup_of_readAll hdescribed).1
    · intro hplain labels hlabels
      rw [hordinals]
      refine congrArg (assigned 0) (Outcome.map_eq_map (Outcome.forall₂_mem_left hlabels) ?_)
      rintro item label ⟨hitem, hlabel⟩
      obtain ⟨entry, hentry, rfl⟩ := List.mem_map.mp hitem
      exact (Enumerator.writtenValue?_of_isLabel hlabel (hplain entry hentry)).symm

end Enumeration

/-! ## Workbooks -/

namespace Workbook

open Enumeration (FirstOutside)

/-- Where the enum sheets of a workbook are declared, each declaration numbers the symbols of its
sheet.  The header of a platform declares all of them with the values that are written for their
symbols, unless its columns are beyond what a machine can hold.  It is there exactly where the
platform holds all ordinals, it is refused for the first one that it does not hold, and behind a
header of the client there is one of the server. -/
theorem symbols_numbered {workbook : Workbook} {enumerations : List Enumeration}
    (h : workbook.enumerations = .ok enumerations) (config : Config) :
    List.Forall₂ (fun sheet enumeration => enumeration.Numbers sheet) workbook.enumSheets
        enumerations ∧
      (∀ platform header, workbook.enumHeader config platform = .ok header →
        Header.Addressable platform enumerations →
        Header.DeclaresAll config workbook.exportedAt platform enumerations header) ∧
      (∀ platform : Platform, (∃ header, workbook.enumHeader config platform = .ok header) ↔
        ∀ enumeration ∈ enumerations, ∀ entry ∈ enumeration.entries,
          platform.Holds entry.ordinal) ∧
      (∀ (platform : Platform) (cause : DeclarationError),
        workbook.enumHeader config platform = .error cause ↔
          ∃ enumeration entry, FirstOutside platform enumerations enumeration entry ∧
            cause = .ordinalOutOfRange enumeration.sheet entry.name entry.ordinal
              platform.ordinals) ∧
      ((∃ header, workbook.enumHeader config .client = .ok header) →
        ∃ header, workbook.enumHeader config .server = .ok header) := by
  have hheader : ∀ platform, workbook.enumHeader config platform =
      Header.enumHeader config workbook.exportedAt platform enumerations := by
    intro platform
    rw [enumHeader, h]
  refine ⟨?_, ?_, ?_, ?_, ?_⟩
  · exact (Outcome.mapM_eq_ok.mp h).imp fun _ _ => Enumeration.numbers_of_ofSheet
  · intro platform header hok hheld
    rw [hheader] at hok
    exact Header.declaresAll_of_enumHeader hok hheld
  · intro platform
    rw [hheader]
    exact Header.exists_enumHeader_iff
  · intro platform cause
    rw [hheader]
    exact Header.enumHeader_eq_error
  · rw [hheader, hheader, Header.exists_enumHeader_iff, Header.exists_enumHeader_iff]
    intro hclient enumeration henumeration entry hentry
    exact (hclient enumeration henumeration entry hentry).server_of_client

/-! ### Ranks with gaps, jumps back and rows without a symbol -/

/-- An enum sheet. -/
def symbolSheet (name : String) (rows : List (List String)) : Sheet where
  name := name
  columns := ["Enum", "Value", "Description"]
  rows := rows

/-- Ranks that both platforms hold. -/
def rankRows : List (List String) :=
  [["Low", "", ""], ["High", "250", "top"], ["#Old", "7", ""], ["", "9", ""], ["Higher", "", ""],
    ["Middle", "005", ""]]

/-- What ranks with more enumerators behind them are declared as: the rows that are skipped count
for nothing. -/
def ranks (others : List Enumerator) : Enumeration where
  name := "Enum_Rank"
  sheet := "Rank"
  entries := [⟨"Low", none, 0⟩, ⟨"High", some 250, 250⟩, ⟨"Higher", none, 251⟩,
    ⟨"Middle", some 5, 5⟩] ++ others
  docs := [⟨"High", "top"⟩]

/-- A rank that only the server holds. -/
def huge : Enumerator :=
  ⟨"Huge", some 256, 256⟩

/-- What a sheet whose only symbol is out of every range is declared as. -/
def debts : Enumeration where
  name := "Enum_Debt"
  sheet := "Debt"
  entries := [⟨"Deep", some (-1), -1⟩]
  docs := []

/-- The ranks. -/
def ranked : Workbook where
  sheets := [symbolSheet "Rank" rankRows]
  exportedAt := none

/-- The ranks with one that only the server holds, and a sheet that no platform holds. -/
def outranked : Workbook where
  sheets := [symbolSheet "Rank" (rankRows ++ [["Huge", "+256", ""]]),
    symbolSheet "Debt" [["Deep", "-1", ""]]]
  exportedAt := none

/-- What the header of a platform has of the ranks. -/
def rankBlock : Platform → String
  | .server =>
    "/*\nHigh : top\n*/\nBETTER_ENUM(Enum_Rank, uint32, Low, High = 250, Higher, Middle = 5);\n"
  | .client =>
    "/*\nHigh : top\n*/\nUENUM(BlueprintType)\nenum class Enum_Rank : uint8\n\x7b\n"
      ++ "    Low                      UMETA(DisplayName = \"Low\"),\n"
      ++ "    High = 250               UMETA(DisplayName = \"High\"),\n"
      ++ "    Higher                   UMETA(DisplayName = \"Higher\"),\n"
      ++ "    Middle = 5               UMETA(DisplayName = \"Middle\"),\n"
      ++ "\x7d;\n\n"

/-- Of the ranks there are both headers, which declare the same symbols and values.  Of the others
there is none: the client stops at the first enumeration, the server at the second. -/
theorem ranked_numbered :
    ranked.enumerations = .ok [ranks []] ∧
      (∀ platform, ∃ header, ranked.enumHeader .standard platform = .ok header ∧
        Header.Addressable platform [ranks []] ∧
        Header.DeclaresAll .standard none platform [ranks []] header ∧
        header = Header.enumsLead .standard none platform ++ rankBlock platform
          ++ Header.enumsEnd .standard platform) ∧
      outranked.enumerations = .ok [ranks [huge], debts] ∧
      (∃ sheet ∈ outranked.enumSheets, (ranks [huge]).Numbers sheet) ∧
      FirstOutside .client [ranks [huge], debts] (ranks [huge]) huge ∧
      outranked.enumHeader .standard .client =
        .error (.ordinalOutOfRange "Rank" "Huge" 256 ⟨0, 255⟩) ∧
      FirstOutside .server [ranks [huge], debts] debts ⟨"Deep", some (-1), -1⟩ ∧
      outranked.enumHeader .standard .server =
        .error (.ordinalOutOfRange "Debt" "Deep" (-1) ⟨0, 4294967295⟩) := by
  have hranked : ranked.enumerations = .ok [ranks []] := by decide +kernel
  obtain ⟨-, hdeclares, hthere, -, -⟩ := symbols_numbered hranked .standard
  have hblock : ∀ platform, Header.enumBlock platform (ranks []) = rankBlock platform := by
    intro platform
    cases platform <;> decide +kernel
  have hheld : ∀ platform, Header.Addressable platform [ranks []] := by
    intro platform _
    rw [List.forall_mem_singleton]
    exact ⟨by decide +kernel, by decide +kernel⟩
  have hheaders : ∀ platform, ∃ header, ranked.enumHeader .standard platform = .ok header ∧
      Header.Addressable platform [ranks []] ∧
      Header.DeclaresAll .standard none platform [ranks []] header ∧
      header = Header.enumsLead .standard none platform ++ rankBlock platform
        ++ Header.enumsEnd .standard platform := by
    intro platform
    obtain ⟨header, hheader⟩ := (hthere platform).mpr (by cases platform <;> decide)
    obtain ⟨enumerations, henumerations, hprinted⟩ := enumHeader_eq_ok.mp hheader
    obtain rfl := Except.ok.inj (hranked.symm.trans henumerations)
    have hdeclared := hdeclares platform header hheader (hheld platform)
    refine ⟨header, hheader, hheld platform, hdeclared, ?_⟩
    rw [(Header.enumHeader_eq_ok_iff.mp hprinted).2, List.map_singleton, hblock, String.join_cons,
      String.join_nil, String.append_empty]
    rfl
  have houtranked : outranked.enumerations = .ok [ranks [huge], debts] := by decide +kernel
  obtain ⟨hnumbers, -, -, herror, -⟩ := symbols_numbered houtranked .standard
  obtain ⟨sheet, hsheet, hranks⟩ := Outcome.exists_of_mem_right hnumbers List.mem_cons_self
  have hhuge : FirstOutside .client [ranks [huge], debts] (ranks [huge]) huge :=
    ⟨by decide, ⟨[], [debts], rfl, by decide⟩, ⟨(ranks []).entries, [], rfl, by decide⟩⟩
  have hdeep : FirstOutside .server [ranks [huge], debts] debts ⟨"Deep", some (-1), -1⟩ :=
    ⟨by decide, ⟨[ranks [huge]], [], rfl, by decide⟩, ⟨[], [], rfl, by decide⟩⟩
  exact ⟨hranked, hheaders, houtranked, ⟨sheet, hsheet, hranks⟩,
    hhuge, (herror .client _).mpr ⟨_, _, hhuge, rfl⟩,
    hdeep, (herror .server _).mpr ⟨_, _, hdeep, rfl⟩⟩

end Workbook

end GameSheets

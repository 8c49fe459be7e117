/-
  What is read of a document is clean.

  A document is read as it is written, and then its sheets are cleaned.  Cleaning looks at texts
  behind their blanks, so that its three rules can be told from the texts as they are written.

  1. A trimmed text is what stands between the blanks at both ends, which is one text
     (`Text.trim_eq_iff`).
  2. A sheet is left out where its name has no character but blanks, or where the first other one is
     the comment mark (`Sheet.isNamed_eq`); a row, where none of its cells has another character
     (`Sheet.hasText_map_trim`).
  3. What stays has no blank at the end of any text and nothing that is left out, and cleaning
     leaves a sheet as it is exactly where it has this form (`Sheet.clean?_eq_self_iff`).
-/
import Mathlib
import GameSheets.Proofs.Outcome
import GameSheets.Workbook.Reader

namespace GameSheets

/-! ## Texts between blanks -/

namespace Text

/-- A text without a blank at either end. -/
structure IsTrimmed (text : String) : Prop where
  front : ∀ c, text.toList.head? = some c → isBlank c = false
  back : ∀ c, text.toList.getLast? = some c → isBlank c = false

/-- The one text is the other, which is trimmed, between blanks. -/
structure TrimsTo (text inner : String) : Prop where
  between : ∃ front back, text.toList = front ++ inner.toList ++ back ∧
    (∀ c ∈ front, isBlank c = true) ∧ ∀ c ∈ back, isBlank c = true
  isTrimmed : IsTrimmed inner

theorem trimEnd_append (text : List Char) :
    trimEnd text ++ (text.reverse.takeWhile isBlank).reverse = text := by
  rw [trimEnd, ← List.reverse_append, List.takeWhile_append_dropWhile, List.reverse_reverse]

/-- Trimming leaves a text without a blank at either end. -/
theorem isTrimmed_trim (text : String) : IsTrimmed (trim text) where
  front c hc := by
    have hfront := not_isBlank_head_dropWhile text.toList
    rw [trim, String.toList_ofList, head?_trimEnd hfront] at hc
    exact hfront c hc
  back c hc := by
    rw [trim, String.toList_ofList, trimEnd, List.getLast?_reverse] at hc
    exact not_isBlank_head_dropWhile _ c hc

theorem trimsTo_trim (text : String) : TrimsTo text (trim text) where
  between := by
    let rest := text.toList.dropWhile isBlank
    refine ⟨text.toList.takeWhile isBlank, (rest.reverse.takeWhile isBlank).reverse, ?_, ?_, ?_⟩
    · rw [trim, String.toList_ofList, List.append_assoc, trimEnd_append,
        List.takeWhile_append_dropWhile]
    · intro c hc
      exact List.mem_takeWhile_imp hc
    · intro c hc
      exact List.mem_takeWhile_imp (List.mem_reverse.mp hc)
  isTrimmed := isTrimmed_trim text

/-- Trimming the end drops blanks behind a text that does not end in one. -/
theorem trimEnd_append_of_blank {text blanks : List Char}
    (hlast : ∀ c, text.getLast? = some c → isBlank c = false)
    (hblanks : ∀ c ∈ blanks, isBlank c = true) : trimEnd (text ++ blanks) = text := by
  have hreversed : ∀ c ∈ blanks.reverse, isBlank c = true :=
    fun c hc => hblanks c (List.mem_reverse.mp hc)
  have hhead : ∀ c, text.reverse.head? = some c → isBlank c = false := by
    intro c hc
    rw [List.head?_reverse] at hc
    exact hlast c hc
  rw [trimEnd, List.reverse_append, List.dropWhile_append_of_pos hreversed,
    dropWhile_eq_self_of_head hhead, List.reverse_reverse]

/-- There is one trimmed text between the blanks of a text, and it is the one that trimming
finds. -/
theorem trim_eq_iff {text inner : String} : trim text = inner ↔ TrimsTo text inner := by
  constructor
  · rintro rfl
    exact trimsTo_trim text
  · rintro ⟨⟨front, back, htext, hfront, hback⟩, hinner⟩
    have hrest : trimEnd ((inner.toList ++ back).dropWhile isBlank) = inner.toList := by
      cases hchars : inner.toList with
      | nil =>
        rw [List.nil_append, List.dropWhile_eq_nil_iff.mpr hback]
        rfl
      | cons c rest =>
        have hc : isBlank c = false := hinner.front c (by rw [hchars]; rfl)
        have hkept : ((c :: rest) ++ back).dropWhile isBlank = (c :: rest) ++ back := by
          rw [List.cons_append, List.dropWhile_cons_of_neg (by rw [hc]; decide)]
        rw [hkept, ← hchars]
        exact trimEnd_append_of_blank hinner.back hback
    rw [trim, htext, List.append_assoc, List.dropWhile_append_of_pos hfront, hrest,
      String.ofList_toList]

/-- Trimming leaves trimmed texts as they are. -/
theorem trim_eq_self_iff {text : String} : trim text = text ↔ IsTrimmed text := by
  constructor
  · intro h
    rw [← h]
    exact isTrimmed_trim text
  · intro h
    refine trim_eq_iff.mpr ⟨⟨[], [], ?_, nofun, nofun⟩, h⟩
    rw [List.nil_append, List.append_nil]

/-- A trimmed text starts with the first character that is no blank. -/
theorem head?_trim (text : String) :
    (trim text).toList.head? = text.toList.find? (!isBlank ·) := by
  rw [trim, String.toList_ofList, head?_trimEnd (not_isBlank_head_dropWhile text.toList),
    List.find?_not_eq_head?_dropWhile]

/-- Nothing is left of a text of blanks. -/
theorem trim_eq_empty_iff {text : String} :
    trim text = "" ↔ ∀ c ∈ text.toList, isBlank c = true := by
  rw [← String.toList_eq_nil_iff, ← List.head?_eq_none_iff, head?_trim, List.find?_eq_none]
  simp

end Text

/-! ## Sheets -/

namespace Sheet

/-- The first character of the sheet's name that is no blank is there and is not the comment
mark. -/
def isNamed (sheet : Sheet) : Bool :=
  (sheet.name.toList.find? (!Text.isBlank ·)).any (· ≠ '#')

/-- A cell of the row has a character that is no blank. -/
def isFilled (row : List String) : Bool :=
  row.any fun cell => cell.toList.any (!Text.isBlank ·)

/-- The sheet's texts are trimmed, and its rows are those that have more than blanks. -/
structure CleansTo (sheet cleaned : Sheet) : Prop where
  name : Text.TrimsTo sheet.name cleaned.name
  columns : List.Forall₂ Text.TrimsTo sheet.columns cleaned.columns
  rows : List.Forall₂ (List.Forall₂ Text.TrimsTo) (sheet.rows.filter isFilled) cleaned.rows

/-- The sheet has a name that is no comment and no row of empty cells, and no blank at the end of
any text. -/
structure IsClean (sheet : Sheet) : Prop where
  name_ne : sheet.name ≠ ""
  not_comment : isComment sheet.name = false
  name : Text.IsTrimmed sheet.name
  columns : ∀ column ∈ sheet.columns, Text.IsTrimmed column
  cells : ∀ row ∈ sheet.rows, ∀ cell ∈ row, Text.IsTrimmed cell
  filled : ∀ row ∈ sheet.rows, ∃ cell ∈ row, cell ≠ ""

/-- The sheets with a name are those whose trimmed name is neither empty nor a comment. -/
theorem isNamed_eq (sheet : Sheet) :
    isNamed sheet = true ↔
      ¬ (Text.trim sheet.name = "" ∨ isComment (Text.trim sheet.name) = true) := by
  have hempty : Text.trim sheet.name = "" ↔ (Text.trim sheet.name).toList.head? = none := by
    rw [List.head?_eq_none_iff, String.toList_eq_nil_iff]
  rw [hempty, isComment, isNamed, Text.head?_trim]
  cases sheet.name.toList.find? (!Text.isBlank ·) with
  | none => simp
  | some c => simp

/-- The rows with more than blanks are those of which more than empty cells is left. -/
theorem hasText_map_trim (row : List String) : hasText (row.map Text.trim) = isFilled row := by
  rw [hasText, isFilled, List.any_map]
  refine List.any_congr rfl fun cell => ?_
  rw [Bool.eq_iff_iff, Function.comp_apply, decide_eq_true_iff, ne_eq, Text.trim_eq_empty_iff,
    List.any_eq_true]
  simp

theorem filter_hasText (rows : List (List String)) :
    (rows.map (·.map Text.trim)).filter hasText =
      (rows.filter isFilled).map (·.map Text.trim) := by
  rw [List.filter_map]
  exact congrArg (List.map _) (List.filter_congr fun row _ => hasText_map_trim row)

theorem clean?_eq_some {sheet cleaned : Sheet} :
    clean? sheet = some cleaned ↔
      isNamed sheet = true ∧
        cleaned = ⟨Text.trim sheet.name, sheet.columns.map Text.trim,
          (sheet.rows.filter isFilled).map (·.map Text.trim)⟩ := by
  rw [isNamed_eq, ← filter_hasText]
  simp only [clean?]
  by_cases hleft : Text.trim sheet.name = "" ∨ isComment (Text.trim sheet.name) = true
  · rw [if_pos hleft]
    constructor
    · intro h
      cases h
    · rintro ⟨hnamed, -⟩
      exact absurd hleft hnamed
  · rw [if_neg hleft]
    constructor
    · intro h
      exact ⟨hleft, (Option.some.inj h).symm⟩
    · rintro ⟨-, rfl⟩
      rfl

theorem forall₂_trimsTo (texts : List String) :
    List.Forall₂ Text.TrimsTo texts (texts.map Text.trim) := by
  rw [List.forall₂_map_right_iff, List.forall₂_same]
  exact fun text _ => Text.trimsTo_trim text

/-- A sheet that stays is cleaned. -/
theorem cleansTo_of_clean? {sheet cleaned : Sheet} (h : clean? sheet = some cleaned) :
    sheet.CleansTo cleaned := by
  obtain ⟨-, rfl⟩ := clean?_eq_some.mp h
  refine ⟨Text.trimsTo_trim _, forall₂_trimsTo _, ?_⟩
  rw [List.forall₂_map_right_iff, List.forall₂_same]
  exact fun row _ => forall₂_trimsTo row

/-- Cleaning makes clean sheets. -/
theorem isClean_of_clean? {sheet cleaned : Sheet} (h : clean? sheet = some cleaned) :
    cleaned.IsClean := by
  obtain ⟨hnamed, rfl⟩ := clean?_eq_some.mp h
  obtain ⟨hname, hcomment⟩ := not_or.mp ((isNamed_eq sheet).mp hnamed)
  refine ⟨hname, Bool.eq_false_iff.mpr hcomment, Text.isTrimmed_trim _, ?_, ?_, ?_⟩
  · intro column hcolumn
    obtain ⟨raw, -, rfl⟩ := List.mem_map.mp hcolumn
    exact Text.isTrimmed_trim raw
  · intro row hrow cell hcell
    obtain ⟨rawRow, -, rfl⟩ := List.mem_map.mp hrow
    obtain ⟨raw, -, rfl⟩ := List.mem_map.mp hcell
    exact Text.isTrimmed_trim raw
  · intro row hrow
    obtain ⟨rawRow, hraw, rfl⟩ := List.mem_map.mp hrow
    have hfilled : hasText (rawRow.map Text.trim) = true := by
      rw [hasText_map_trim]
      exact (List.mem_filter.mp hraw).2
    obtain ⟨cell, hcell, hne⟩ := List.any_eq_true.mp hfilled
    exact ⟨cell, hcell, of_decide_eq_true hne⟩

theorem map_trim_eq_self {texts : List String} (h : ∀ text ∈ texts, Text.IsTrimmed text) :
    texts.map Text.trim = texts := by
  conv_rhs => rw [← List.map_id texts]
  exact List.map_congr_left fun text htext => Text.trim_eq_self_iff.mpr (h text htext)

/-- The sheets that cleaning leaves as they are are the clean ones. -/
theorem clean?_eq_self_iff {sheet : Sheet} : clean? sheet = some sheet ↔ sheet.IsClean := by
  constructor
  · exact isClean_of_clean?
  · intro hclean
    have hname : Text.trim sheet.name = sheet.name := Text.trim_eq_self_iff.mpr hclean.name
    have hrows : sheet.rows.map (·.map Text.trim) = sheet.rows := by
      conv_rhs => rw [← List.map_id sheet.rows]
      exact List.map_congr_left fun row hrow => map_trim_eq_self (hclean.cells row hrow)
    have hfilled : sheet.rows.filter isFilled = sheet.rows := by
      refine List.filter_eq_self.mpr fun row hrow => ?_
      obtain ⟨cell, hcell, hne⟩ := hclean.filled row hrow
      rw [← hasText_map_trim, map_trim_eq_self (hclean.cells row hrow)]
      exact List.any_eq_true.mpr ⟨cell, hcell, decide_eq_true hne⟩
    have hnamed : isNamed sheet = true := by
      rw [isNamed_eq, hname, hclean.not_comment]
      exact not_or.mpr ⟨hclean.name_ne, by decide⟩
    rw [clean?_eq_some, hname, map_trim_eq_self hclean.columns, hfilled, hrows]
    exact ⟨hnamed, rfl⟩

/-- Of sheets, those with a name stay, and they are cleaned in order. -/
theorem filterMap_clean? (sheets : List Sheet) :
    List.Forall₂ CleansTo (sheets.filter isNamed) (sheets.filterMap clean?) := by
  induction sheets with
  | nil => exact .nil
  | cons sheet rest ih =>
    cases hclean : clean? sheet with
    | none =>
      have hleft : ¬ isNamed sheet = true := by
        intro hnamed
        have hsome := clean?_eq_some.mpr ⟨hnamed, rfl⟩
        rw [hclean] at hsome
        cases hsome
      rw [List.filter_cons_of_neg hleft, List.filterMap_cons_none hclean]
      exact ih
    | some cleaned =>
      rw [List.filter_cons_of_pos (clean?_eq_some.mp hclean).1, List.filterMap_cons_some hclean]
      exact .cons (cleansTo_of_clean? hclean) ih

end Sheet

/-! ## Documents -/

namespace Workbook

/-- The workbook of a document has the document's sheets that have a name, cleaned, in order; it has
no export time.  All of its sheets are clean, and cleaning them again changes nothing. -/
theorem read_cleaned {text : String} {sheets : List Sheet}
    (h : Document.readAll Sheet.documentReader text = .ok sheets) :
    ∃ cleaned, read text = .ok ⟨cleaned, none⟩ ∧
      List.Forall₂ Sheet.CleansTo (sheets.filter Sheet.isNamed) cleaned ∧
      (∀ sheet ∈ cleaned, sheet.IsClean) ∧ cleaned.filterMap Sheet.clean? = cleaned := by
  have hread : read text = .ok ⟨sheets.filterMap Sheet.clean?, none⟩ := by
    rw [read, readSheets, h]
    rfl
  have hclean : ∀ sheet ∈ sheets.filterMap Sheet.clean?, sheet.IsClean := by
    intro sheet hsheet
    obtain ⟨raw, -, hraw⟩ := List.mem_filterMap.mp hsheet
    exact Sheet.isClean_of_clean? hraw
  refine ⟨sheets.filterMap Sheet.clean?, hread, Sheet.filterMap_clean? sheets, hclean, ?_⟩
  calc (sheets.filterMap Sheet.clean?).filterMap Sheet.clean?
      = (sheets.filterMap Sheet.clean?).filterMap some :=
        List.filterMap_congr fun sheet hsheet => Sheet.clean?_eq_self_iff.mpr (hclean sheet hsheet)
    _ = sheets.filterMap Sheet.clean? := List.filterMap_some

/-! ### A sheet among blank and commented ones -/

/-- A document with wide and unbreakable spaces, and with a zero-width one, which is none. -/
def roughDocument : String :=
  "\x7b\"tables\":[\x7b\"name\":\"\\u3000\",\"columns\":[]\x7d,"
    ++ "\x7b\"name\":\" #Item\",\"columns\":[]\x7d,"
    ++ "\x7b\"name\":\" Item\",\"columns\":[\"\\u200bId \"],"
    ++ "\"rows\":[[\"int32_s\"],[\"\\u00a0\"],[\" 1 0\\n\"]]\x7d]\x7d"

/-- The sheets as the document has them. -/
def roughSheets : List Sheet := [
  ⟨"\u3000", [], []⟩,
  ⟨" #Item", [], []⟩,
  ⟨" Item", ["\u200bId "], [["int32_s"], ["\u00a0"], [" 1 0\n"]]⟩]

/-- The sheet that stays. -/
def cleanSheet : Sheet :=
  ⟨"Item", ["\u200bId"], [["int32_s"], ["1 0"]]⟩

theorem roughDocument_cleaned :
    Document.readAll Sheet.documentReader roughDocument = .ok roughSheets ∧
      read roughDocument = .ok ⟨[cleanSheet], none⟩ ∧
      List.Forall₂ Sheet.CleansTo (roughSheets.filter Sheet.isNamed) [cleanSheet] ∧
      cleanSheet.IsClean ∧ [cleanSheet].filterMap Sheet.clean? = [cleanSheet] := by
  have hsheets : Document.readAll Sheet.documentReader roughDocument = .ok roughSheets := by
    decide +kernel
  have hcleaned : read roughDocument = .ok ⟨[cleanSheet], none⟩ := by
    rw [read, readSheets, hsheets]
    decide +kernel
  obtain ⟨cleaned, hread, hcleans, hclean, hagain⟩ := read_cleaned hsheets
  obtain rfl : cleaned = [cleanSheet] :=
    congrArg Workbook.sheets (Except.ok.inj (hread.symm.trans hcleaned))
  exact ⟨hsheets, hcleaned, hcleans, hclean cleanSheet List.mem_cons_self, hagain⟩

end Workbook

end GameSheets

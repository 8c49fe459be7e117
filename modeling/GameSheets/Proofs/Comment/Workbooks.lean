/-
  Comments are inert.

  A workbook loses its comments when columns that are comments are left out of its data sheets, rows
  without a symbol out of its enum sheets, and sheets of neither kind altogether, as many of them as
  one likes (`Workbook.Loses`).  Whatever is generated of it stays the same, and so does every
  error:

  1. a sheet keeps its name and kind, so that data sheets and enum sheets are matched one by one;
  2. rows without a symbol take no ordinal and are no symbols, so that enum sheets declare the same
     enumerations and accept the same cells;
  3. data sheets are refined to the same tables and declare the same records, for the columns that
     stay are read at their new places (`Sheet.outcome_refine_withoutColumns`).
-/
import GameSheets.Compile
import GameSheets.Proofs.Comment.Columns
import GameSheets.Proofs.Declaration.Enumerators

namespace GameSheets

open Omission

/-! ## Rows without a symbol -/

namespace Sheet

/-- The sheet without the rows at the dropped positions. -/
def withoutRows (dropped : Nat → Bool) (sheet : Sheet) : Sheet :=
  { sheet with rows := leaveOut dropped sheet.rows }

@[simp]
theorem name_withoutRows {dropped : Nat → Bool} {sheet : Sheet} :
    (sheet.withoutRows dropped).name = sheet.name := rfl

/-- Blank rows hold no symbols. -/
theorem symbols_withoutRows {dropped : Nat → Bool} {sheet : Sheet}
    (h : Drops dropped IsBlank sheet.rows) :
    (sheet.withoutRows dropped).symbols = sheet.symbols := by
  have hrows : symbolRows (leaveOut dropped sheet.rows) = symbolRows sheet.rows :=
    filter_leaveOut (h.imp fun _ hblank => decide_eq_false (not_not.mpr hblank))
  rw [symbols_eq, symbols_eq, ← hrows]
  rfl

end Sheet

/-- Blank rows declare no enumerators and take no ordinals. -/
theorem Enumerator.readAll_leaveOut {dropped : Nat → Bool} {sheet : String}
    {rows : List (List String)} (h : Drops dropped Sheet.IsBlank rows) {seen : List String}
    {previous : Option Int} :
    readAll sheet seen previous (leaveOut dropped rows) = readAll sheet seen previous rows := by
  induction rows generalizing dropped seen previous with
  | nil => rfl
  | cons row rest ih =>
    rw [leaveOut]
    cases hfirst : dropped 0 with
    | true =>
      rw [if_pos rfl, ih h.tail, readAll]
      exact (if_pos (h.head hfirst)).symm
    | false =>
      rw [if_neg (by decide), readAll, readAll]
      simp only [ih h.tail]

/-- An enum sheet without blank rows makes the same declaration, or fails with the same error. -/
theorem Enumeration.ofSheet_withoutRows {dropped : Nat → Bool} {sheet : Sheet}
    (h : Drops dropped Sheet.IsBlank sheet.rows) :
    ofSheet (sheet.withoutRows dropped) = ofSheet sheet := by
  have hread : Enumerator.readAll sheet.name [] none (sheet.withoutRows dropped).rows =
      Enumerator.readAll sheet.name [] none sheet.rows := Enumerator.readAll_leaveOut h
  rw [ofSheet, ofSheet, Sheet.name_withoutRows, hread]

/-! ## Sheets -/

namespace Sheet

/-- The second sheet is the first without some of its comments. -/
inductive Loses (sheet : Sheet) : Sheet → Prop
  | nothing : sheet.Loses sheet
  | columns {dropped : Nat → Bool} (hdata : sheet.isData = true) (h : sheet.CommentsAt dropped) :
    sheet.Loses (sheet.withoutColumns dropped)
  | rows {dropped : Nat → Bool} (henum : sheet.isEnumeration = true)
    (h : Drops dropped IsBlank sheet.rows) : sheet.Loses (sheet.withoutRows dropped)

variable {sheet shorter : Sheet}

/-- A data sheet does not also hold symbols. -/
theorem isEnumeration_of_isData (hdata : sheet.isData = true) : sheet.isEnumeration = false := by
  rw [isEnumeration, eq_of_beq hdata]
  rfl

theorem kind_withoutColumns {dropped : Nat → Bool} (hdata : sheet.isData = true)
    (h : sheet.CommentsAt dropped) : (sheet.withoutColumns dropped).kind = sheet.kind := by
  obtain ⟨others, hcolumns⟩ := columns_eq_of_isData hdata
  have hshorter : (sheet.withoutColumns dropped).columns =
      "Id" :: leaveOut (fun position => dropped (position + 1)) others := by
    rw [columns_withoutColumns, hcolumns, leaveOut, h.first_stays hdata]
    rfl
  rw [kind, kind, name_withoutColumns, hshorter, hcolumns]
  rfl

namespace Loses

theorem kind_eq (h : sheet.Loses shorter) : shorter.kind = sheet.kind := by
  cases h with
  | nothing => rfl
  | columns hdata hcomments => exact kind_withoutColumns hdata hcomments
  | rows henum hblank => exact kind_congr rfl rfl

theorem name_eq (h : sheet.Loses shorter) : shorter.name = sheet.name := by
  cases h with
  | nothing | columns | rows => rfl

/-- A data sheet loses nothing but columns. -/
theorem of_isData (h : sheet.Loses shorter) (hdata : sheet.isData = true) :
    shorter = sheet ∨
      ∃ dropped, sheet.CommentsAt dropped ∧ shorter = sheet.withoutColumns dropped := by
  cases h with
  | nothing => exact .inl rfl
  | columns _ hcomments => exact .inr ⟨_, hcomments, rfl⟩
  | rows henum _ =>
    rw [isEnumeration_of_isData hdata] at henum
    cases henum

/-- An enum sheet loses nothing but blank rows. -/
theorem of_isEnumeration (h : sheet.Loses shorter) (henum : sheet.isEnumeration = true) :
    shorter = sheet ∨
      ∃ dropped, Drops dropped IsBlank sheet.rows ∧ shorter = sheet.withoutRows dropped := by
  cases h with
  | nothing => exact .inl rfl
  | columns hdata _ =>
    rw [isEnumeration_of_isData hdata] at henum
    cases henum
  | rows _ hblank => exact .inr ⟨_, hblank, rfl⟩

/-- Enum sheets keep their symbols. -/
theorem symbols_eq (h : sheet.Loses shorter) (henum : sheet.isEnumeration = true) :
    shorter.symbols = sheet.symbols := by
  rcases h.of_isEnumeration henum with rfl | ⟨dropped, hblank, rfl⟩
  · rfl
  · exact symbols_withoutRows hblank

/-- Enum sheets make the same declarations. -/
theorem enumeration_eq (h : sheet.Loses shorter) (henum : sheet.isEnumeration = true) :
    Enumeration.ofSheet shorter = Enumeration.ofSheet sheet := by
  rcases h.of_isEnumeration henum with rfl | ⟨dropped, hblank, rfl⟩
  · rfl
  · exact Enumeration.ofSheet_withoutRows hblank

/-- Data sheets are refined alike. -/
theorem refine_eq (h : sheet.Loses shorter) (hdata : sheet.isData = true)
    (symbolsOf? : String → Option (List String)) (platform : Platform) :
    (shorter.refine symbolsOf? platform).outcome = (sheet.refine symbolsOf? platform).outcome := by
  rcases h.of_isData hdata with rfl | ⟨dropped, hcomments, rfl⟩
  · rfl
  · exact outcome_refine_withoutColumns hcomments hdata

/-- Data sheets declare the same records. -/
theorem record_eq (h : sheet.Loses shorter) (hdata : sheet.isData = true) (platform : Platform)
    (rowName : String) :
    Record.ofSheet platform rowName shorter = Record.ofSheet platform rowName sheet := by
  rcases h.of_isData hdata with rfl | ⟨dropped, hcomments, rfl⟩
  · rfl
  · exact ofSheet_withoutColumns hcomments

end Loses

end Sheet

/-! ## Workbooks -/

namespace Workbook

/-- The second workbook is the first without some of its comments: without some sheets of neither
kind, and each of the others without some comments of its own. -/
structure Loses (workbook shorter : Workbook) : Prop where
  exportedAt_eq : shorter.exportedAt = workbook.exportedAt
  sheets_lose : ∃ dropped, Drops dropped (·.kind = .other) workbook.sheets ∧
    List.Forall₂ Sheet.Loses (leaveOut dropped workbook.sheets) shorter.sheets

namespace Loses

variable {workbook shorter : Workbook}

/-- The sheets of a kind that is not left out are matched one by one. -/
theorem filter_loses (h : workbook.Loses shorter) (kind : SheetKind) (hkind : kind ≠ .other) :
    List.Forall₂ Sheet.Loses (workbook.sheets.filter (·.kind == kind))
      (shorter.sheets.filter (·.kind == kind)) := by
  obtain ⟨dropped, hdropped, hsheets⟩ := h.sheets_lose
  have hkeeps : (leaveOut dropped workbook.sheets).filter (·.kind == kind) =
      workbook.sheets.filter (·.kind == kind) := by
    refine filter_leaveOut (hdropped.imp ?_)
    intro sheet hother
    rw [hother, beq_eq_false_iff_ne]
    exact hkind.symm
  rw [← hkeeps]
  refine List.rel_filter ?_ hsheets
  intro sheet shorterSheet hloses
  show (sheet.kind == kind) = true ↔ (shorterSheet.kind == kind) = true
  rw [hloses.kind_eq]

theorem dataSheets_lose (h : workbook.Loses shorter) :
    List.Forall₂ (fun sheet shorterSheet => sheet.isData = true ∧ sheet.Loses shorterSheet)
      workbook.dataSheets shorter.dataSheets :=
  (Outcome.forall₂_mem_left (h.filter_loses .data (by decide))).imp
    fun _ _ hsheet => ⟨List.of_mem_filter hsheet.1, hsheet.2⟩

theorem enumSheets_lose (h : workbook.Loses shorter) :
    List.Forall₂ (fun sheet shorterSheet => sheet.isEnumeration = true ∧ sheet.Loses shorterSheet)
      workbook.enumSheets shorter.enumSheets :=
  (Outcome.forall₂_mem_left (h.filter_loses .enumeration (by decide))).imp
    fun _ _ hsheet => ⟨List.of_mem_filter hsheet.1, hsheet.2⟩

theorem symbolsOf?_eq (h : workbook.Loses shorter) : shorter.symbolsOf? = workbook.symbolsOf? := by
  funext name
  have hnamed : List.Forall₂
      (fun sheet shorterSheet : Sheet => sheet.symbols = shorterSheet.symbols)
      (workbook.enumSheets.filter (·.name = name)) (shorter.enumSheets.filter (·.name = name)) := by
    refine (List.rel_filter ?_ h.enumSheets_lose).imp ?_
    · rintro sheet shorterSheet ⟨-, hloses⟩
      show decide (sheet.name = name) = true ↔ decide (shorterSheet.name = name) = true
      rw [hloses.name_eq]
    · rintro sheet shorterSheet ⟨henum, hloses⟩
      exact (hloses.symbols_eq henum).symm
  have hsymbols := Outcome.map_eq_map hnamed fun _ _ hsame => hsame
  rw [symbolsOf?, symbolsOf?, ← List.getLast?_map, ← List.getLast?_map, hsymbols]

theorem refine_eq (h : workbook.Loses shorter) (platform : Platform) :
    (shorter.refine platform).outcome = (workbook.refine platform).outcome := by
  rw [outcome_refine, outcome_refine, h.symbolsOf?_eq]
  exact Outcome.mapM_congr (h.dataSheets_lose.imp fun _ _ hsheet =>
    hsheet.2.refine_eq hsheet.1 _ platform)

theorem enumerations_eq (h : workbook.Loses shorter) :
    shorter.enumerations = workbook.enumerations :=
  Outcome.mapM_congr (h.enumSheets_lose.imp fun _ _ hsheet => hsheet.2.enumeration_eq hsheet.1)

theorem records_eq (h : workbook.Loses shorter) (platform : Platform) (rowName : String) :
    shorter.records platform rowName = workbook.records platform rowName :=
  Outcome.mapM_congr (h.dataSheets_lose.imp fun _ _ hsheet =>
    hsheet.2.record_eq hsheet.1 platform rowName)

/-- A time put on both stays on both. -/
theorem exportedAt (h : workbook.Loses shorter) (time : Option Timestamp) :
    ({ workbook with exportedAt := time } : Workbook).Loses { shorter with exportedAt := time } :=
  ⟨rfl, h.sheets_lose⟩

theorem enumHeader_eq (h : workbook.Loses shorter) (config : Config) (platform : Platform) :
    shorter.enumHeader config platform = workbook.enumHeader config platform := by
  unfold enumHeader
  rw [h.enumerations_eq, h.exportedAt_eq]

theorem dataHeader_eq (h : workbook.Loses shorter) (config : Config) (platform : Platform) :
    shorter.dataHeader config platform = workbook.dataHeader config platform := by
  unfold dataHeader
  rw [h.records_eq, h.exportedAt_eq]

end Loses

/-- The documents of the refined tables, each of them made or with its error. -/
def documents (workbook : Workbook) (config : Config) (platform : Platform) :
    Except RefineError (List (Except ExportError TableDocument)) :=
  (workbook.refine platform).outcome.map
    (·.map (TypedTable.document platform config.rowNameField))

/-- The same is generated of both workbooks for a platform, whatever time is put on them: the
tables, their documents and the headers, or the same error in the place of any of them. -/
structure GeneratedAlike (workbook other : Workbook) (config : Config) (platform : Platform) :
    Prop where
  refine_eq : (other.refine platform).outcome = (workbook.refine platform).outcome
  documents_eq : other.documents config platform = workbook.documents config platform
  enumHeader_eq : ∀ time : Option Timestamp,
    ({ other with exportedAt := time } : Workbook).enumHeader config platform =
      ({ workbook with exportedAt := time } : Workbook).enumHeader config platform
  dataHeader_eq : ∀ time : Option Timestamp,
    ({ other with exportedAt := time } : Workbook).dataHeader config platform =
      ({ workbook with exportedAt := time } : Workbook).dataHeader config platform

/-- Comments are inert. -/
theorem generatedAlike_of_loses {workbook shorter : Workbook} (h : workbook.Loses shorter)
    (config : Config) (platform : Platform) : workbook.GeneratedAlike shorter config platform where
  refine_eq := h.refine_eq platform
  documents_eq := by rw [documents, documents, h.refine_eq]
  enumHeader_eq := fun time => (h.exportedAt time).enumHeader_eq config platform
  dataHeader_eq := fun time => (h.exportedAt time).dataHeader_eq config platform

/-! ### Comments between the columns of an array, the symbols and the sheets -/

/-- A data sheet with two commented columns. -/
def annotatedItem : Sheet where
  name := "Item"
  columns := ["Id", "#Memo", "Power_1", "#Power_2", "Power_2", "Grade"]
  rows := [
    ["int32_cs", "by hand", "int32_s", "", "int32_s", "Enum_Grade?_cs"],
    ["1", "first", "10", "15", "20", "Rare"]]

/-- An enum sheet with a commented symbol and a row without a symbol. -/
def annotatedGrade : Sheet where
  name := "Grade"
  columns := ["Enum", "Value", "Description"]
  rows := [["#Old", "7", ""], ["Common", "", ""], ["", "none", "later"], ["Rare", "", "shiny"]]

/-- Both, with a commented sheet and one of notes. -/
def annotated : Workbook where
  sheets := [
    annotatedItem,
    { name := "#Draft", columns := ["Id"], rows := [["text"]] },
    annotatedGrade,
    { name := "Notes", columns := ["Text"], rows := [["todo"]] }]
  exportedAt := none

/-- The same without any of the comments. -/
def unannotated : Workbook where
  sheets := [
    { name := "Item"
      columns := ["Id", "Power_1", "Power_2", "Grade"]
      rows := [["int32_cs", "int32_s", "int32_s", "Enum_Grade?_cs"], ["1", "10", "20", "Rare"]] },
    { name := "Grade"
      columns := ["Enum", "Value", "Description"]
      rows := [["Common", "", ""], ["Rare", "", "shiny"]] }]
  exportedAt := none

/-- The positions of the comments among the columns and among the sheets. -/
def annotations (position : Nat) : Bool :=
  position == 1 || position == 3

theorem annotated_loses : annotated.Loses unannotated := by
  have hcases : ∀ position, annotations position = true → position = 1 ∨ position = 3 := by
    intro position h
    rwa [annotations, Bool.or_eq_true, beq_iff_eq, beq_iff_eq] at h
  have hcomments : annotatedItem.CommentsAt annotations := by
    intro position name hdropped hname
    rcases hcases position hdropped with rfl | rfl
    · obtain rfl := Option.some.inj hname
      decide +kernel
    · obtain rfl := Option.some.inj hname
      decide +kernel
  have hblank : Drops (fun position => position == 0 || position == 2) Sheet.IsBlank
      annotatedGrade.rows := by
    intro position row hdropped hrow
    rw [Bool.or_eq_true, beq_iff_eq, beq_iff_eq] at hdropped
    rcases hdropped with rfl | rfl
    · obtain rfl := Option.some.inj hrow
      exact .inr (by decide +kernel)
    · obtain rfl := Option.some.inj hrow
      exact .inl rfl
  have hother : Drops annotations (·.kind = .other) annotated.sheets := by
    intro position sheet hdropped hsheet
    rcases hcases position hdropped with rfl | rfl
    · obtain rfl := Option.some.inj hsheet
      decide +kernel
    · obtain rfl := Option.some.inj hsheet
      decide +kernel
  have hitem : annotatedItem.isData = true := by decide +kernel
  have hgrade : annotatedGrade.isEnumeration = true := by decide +kernel
  exact ⟨rfl, annotations, hother, .cons (.columns hitem hcomments)
    (.cons (.rows hgrade hblank) .nil)⟩

/-- A merged workbook with comments of every kind, and the same without them. -/
theorem annotated_generatedAlike :
    annotated.merge.outcome = .ok annotated ∧ annotated.Loses unannotated ∧
      annotated ≠ unannotated ∧
      annotated.GeneratedAlike unannotated .standard .server ∧
      annotated.GeneratedAlike unannotated .standard .client := by
  have hmerge : annotated.merge.outcome = .ok annotated := by decide +kernel
  exact ⟨hmerge, annotated_loses, by decide,
    generatedAlike_of_loses annotated_loses .standard .server,
    generatedAlike_of_loses annotated_loses .standard .client⟩

end Workbook

end GameSheets

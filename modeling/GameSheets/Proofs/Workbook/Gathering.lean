/-
  Merging loses, doubles and moves no row.

  A merged sheet is made of the parts that have its name as their logical name: it has the columns
  of the first one, and behind the rows of the first one stand those of the later ones, in order
  (`MadeOf`).  That holds of all sheets at every moment of the run, for the parts that have been
  added by then (`Gathered`), however the parts of different sheets are mixed:

    Item_Weapon   Grade_Low   Item_Armor   Grade_High      is gathered into      Item   Grade

  The events tell the same story: there is one for each part, in order, and the numbers of rows that
  they report for a name add up to the rows of the sheet of that name.
-/
import Mathlib
import GameSheets.Proofs.Workbook.Merging

namespace GameSheets

/-- The number of rows that the event reports for a logical sheet. -/
def Event.rowsMergedInto (logical : String) : Event → Nat
  | .merged other _ rows => if other = logical then rows else 0
  | _ => 0

namespace Sheet

/-! ## Parts of one sheet -/

/-- The parts that have the logical name, in order. -/
def partsOf (logical : String) (parts : List Sheet) : List Sheet :=
  parts.filter fun part => logicalName? part.name = some logical

/-- The rows that a later part has for the sheet: all of them where rows are symbols, and all but
the row of type cells elsewhere. -/
def addedRows (sheet part : Sheet) : List (List String) :=
  if sheet.isEnumeration then part.rows else part.dataRows

/-- The sheet has the columns of the first part, its rows and then those of the later parts, and
all parts are of its kind. -/
structure MadeOf (sheet first : Sheet) (later : List Sheet) : Prop where
  columns_eq : sheet.columns = first.columns
  rows_eq : sheet.rows = first.rows ++ later.flatMap sheet.addedRows
  kind_eq : ∀ part ∈ first :: later, part.kind = sheet.kind

/-- The event reports that the part was merged into its logical sheet. -/
def ReportedBy (part : Sheet) (event : Event) : Prop :=
  ∃ logical rows, logicalName? part.name = some logical ∧ event = .merged logical part.name rows

theorem partsOf_concat (logical : String) (parts : List Sheet) (part : Sheet) :
    partsOf logical (parts ++ [part]) =
      if logicalName? part.name = some logical then partsOf logical parts ++ [part]
      else partsOf logical parts := by
  rw [partsOf, List.filter_append, ← partsOf]
  by_cases h : logicalName? part.name = some logical
  · rw [if_pos h, List.filter_cons_of_pos (by simpa using h), List.filter_nil]
  · rw [if_neg h, List.filter_cons_of_neg (by simpa using h), List.filter_nil, List.append_nil]

theorem rowsToAppend_eq_addedRows {merged part : Sheet} {rows : List (List String)}
    (h : rowsToAppend merged part = .ok rows) : rows = merged.addedRows part := by
  obtain ⟨-, ⟨hkind, rfl⟩ | ⟨hkind, -, rfl⟩⟩ := rowsToAppend_eq_ok.mp h
  · rw [addedRows, if_pos hkind]
  · rw [addedRows, if_neg (Bool.eq_false_iff.mp hkind)]

/-- A part under its logical name is made of that part alone. -/
theorem madeOf_first {part : Sheet} {logical : String}
    (hlogical : logicalName? part.name = some logical) :
    MadeOf { part with name := logical } part [] := by
  refine ⟨rfl, (List.append_nil _).symm, ?_⟩
  intro other hother
  obtain rfl := List.mem_singleton.mp hother
  have hnamed : logicalName? other.name = some ({ other with name := logical } : Sheet).name :=
    hlogical
  exact (kind_of_logical hnamed rfl).symm

/-- A sheet with the rows of one more part is made of one more part. -/
theorem MadeOf.append {base first part : Sheet} {later : List Sheet} (h : base.MadeOf first later)
    (hlogical : logicalName? part.name = some base.name) {rows : List (List String)}
    (hrows : rowsToAppend base part = .ok rows) :
    MadeOf { base with rows := base.rows ++ rows } first (later ++ [part]) := by
  refine ⟨h.columns_eq, ?_, ?_⟩
  · -- the kind, and with it what a part adds, does not depend on the rows
    show base.rows ++ rows = first.rows ++ (later ++ [part]).flatMap base.addedRows
    rw [List.flatMap_append, List.flatMap_singleton, ← List.append_assoc, ← h.rows_eq,
      rowsToAppend_eq_addedRows hrows]
  · intro other hother
    rw [← List.cons_append, List.mem_append, List.mem_singleton] at hother
    rcases hother with hold | rfl
    · exact h.kind_eq other hold
    · exact (kind_of_logical hlogical (rowsToAppend_eq_ok.mp hrows).1).symm

/-! ## All sheets -/

/-- What has come of the parts so far: the names of the sheets are the logical names of the parts,
each once, by first occurrence; every sheet is made of the parts of its name; and the events report
each part, with as many rows for a name as its sheet has. -/
structure Gathered (parts : List Sheet) (events : List Event) (merged : List Sheet) : Prop where
  names_nodup : (merged.map (·.name)).Nodup
  names_eq : ∃ names,
    List.Forall₂ (fun part name => logicalName? part.name = some name) parts names ∧
    merged.map (·.name) = names.eraseDups
  made : ∀ sheet ∈ merged, ∃ first later,
    partsOf sheet.name parts = first :: later ∧ sheet.MadeOf first later
  events_report : List.Forall₂ ReportedBy parts events
  rows_reported : ∀ sheet ∈ merged,
    (events.map (·.rowsMergedInto sheet.name)).sum = sheet.rows.length

theorem gathered_nil : Gathered [] [] [] where
  names_nodup := List.nodup_nil
  names_eq := ⟨[], .nil, rfl⟩
  made := fun _ h => absurd h List.not_mem_nil
  events_report := .nil
  rows_reported := fun _ h => absurd h List.not_mem_nil

/-- A name behind others comes last, unless it is one of them. -/
theorem eraseDups_concat (names : List String) (name : String) :
    (names ++ [name]).eraseDups =
      if name ∈ names then names.eraseDups else names.eraseDups ++ [name] := by
  rw [List.eraseDups_append, List.cons_removeAll]
  by_cases h : name ∈ names
  · simp [h, List.removeAll]
  · simp [h, List.removeAll, List.eraseDups_cons]

namespace Gathered

variable {parts merged : List Sheet} {events : List Event}

/-- A name that no sheet has is the logical name of no part. -/
theorem logicalName?_ne (h : Gathered parts events merged) {logical : String}
    (hnew : ∀ sheet ∈ merged, sheet.name ≠ logical) :
    ∀ part ∈ parts, logicalName? part.name ≠ some logical := by
  obtain ⟨names, hnames, hmerged⟩ := h.names_eq
  intro part hpart hlogical
  obtain ⟨name, hname, hpartName⟩ := Outcome.exists_of_mem_left hnames hpart
  obtain rfl := Option.some.inj (hpartName.symm.trans hlogical)
  rw [← List.mem_eraseDups, ← hmerged] at hname
  obtain ⟨sheet, hsheet, hsheetName⟩ := List.mem_map.mp hname
  exact hnew sheet hsheet hsheetName

/-- A name that no sheet has has no parts. -/
theorem partsOf_eq_nil (h : Gathered parts events merged) {logical : String}
    (hnew : ∀ sheet ∈ merged, sheet.name ≠ logical) : partsOf logical parts = [] := by
  refine List.filter_eq_nil_iff.mpr ?_
  intro part hpart
  simpa using h.logicalName?_ne hnew part hpart

/-- Nothing has been reported for a name that no sheet has. -/
theorem sum_eq_zero (h : Gathered parts events merged) {logical : String}
    (hnew : ∀ sheet ∈ merged, sheet.name ≠ logical) :
    (events.map (·.rowsMergedInto logical)).sum = 0 := by
  refine List.sum_eq_zero ?_
  intro count hcount
  obtain ⟨event, hevent, rfl⟩ := List.mem_map.mp hcount
  obtain ⟨part, hpart, other, rows, hlogical, rfl⟩ :=
    Outcome.exists_of_mem_right h.events_report hevent
  refine if_neg ?_
  rintro rfl
  exact h.logicalName?_ne hnew part hpart hlogical

/-- The sum of the reports, with one more. -/
theorem sum_concat (events : List Event) (event : Event) (logical : String) :
    ((events ++ [event]).map (·.rowsMergedInto logical)).sum =
      (events.map (·.rowsMergedInto logical)).sum + event.rowsMergedInto logical := by
  rw [List.map_append, List.sum_append, List.map_singleton, List.sum_singleton]

/-- A part opens a sheet. -/
theorem first (h : Gathered parts events merged) {part : Sheet} {logical : String}
    (hlogical : logicalName? part.name = some logical)
    (hnew : ∀ sheet ∈ merged, sheet.name ≠ logical) :
    Gathered (parts ++ [part]) (events ++ [.merged logical part.name part.rows.length])
      (merged ++ [{ part with name := logical }]) where
  names_nodup := (PartAdded.first hlogical hnew).nodup_names h.names_nodup
  names_eq := by
    obtain ⟨names, hnames, hmerged⟩ := h.names_eq
    have hfresh : logical ∉ names := by
      rw [← List.mem_eraseDups, ← hmerged]
      intro hmem
      obtain ⟨sheet, hsheet, hname⟩ := List.mem_map.mp hmem
      exact hnew sheet hsheet hname
    refine ⟨names ++ [logical], List.rel_append hnames (.cons hlogical .nil), ?_⟩
    rw [eraseDups_concat, if_neg hfresh, List.map_append, hmerged]
    rfl
  made := by
    intro sheet hsheet
    rw [partsOf_concat]
    rcases List.mem_append.mp hsheet with hold | hpart
    · rw [hlogical, if_neg (fun heq => hnew sheet hold (Option.some.inj heq).symm)]
      exact h.made sheet hold
    · obtain rfl := List.mem_singleton.mp hpart
      rw [if_pos hlogical, h.partsOf_eq_nil hnew]
      exact ⟨part, [], rfl, madeOf_first hlogical⟩
  events_report :=
    List.rel_append h.events_report (.cons ⟨logical, part.rows.length, hlogical, rfl⟩ .nil)
  rows_reported := by
    intro sheet hsheet
    rw [sum_concat]
    rcases List.mem_append.mp hsheet with hold | hpart
    · rw [h.rows_reported sheet hold]
      show _ + (if logical = sheet.name then part.rows.length else 0) = _
      rw [if_neg (hnew sheet hold).symm, Nat.add_zero]
    · obtain rfl := List.mem_singleton.mp hpart
      show _ + (if logical = logical then part.rows.length else 0) = part.rows.length
      rw [if_pos rfl, h.sum_eq_zero hnew, Nat.zero_add]

/-- A part adds its rows to a sheet. -/
theorem later (h : Gathered parts events merged) {base part : Sheet} {rows : List (List String)}
    (hlogical : logicalName? part.name = some base.name) (hbase : base ∈ merged)
    (hrows : rowsToAppend base part = .ok rows) :
    Gathered (parts ++ [part]) (events ++ [.merged base.name part.name rows.length])
      (appendTo base.name rows merged) where
  names_nodup := (PartAdded.later hlogical hbase hrows).nodup_names h.names_nodup
  names_eq := by
    obtain ⟨names, hnames, hmerged⟩ := h.names_eq
    have hknown : base.name ∈ names := by
      rw [← List.mem_eraseDups, ← hmerged]
      exact List.mem_map_of_mem hbase
    refine ⟨names ++ [base.name], List.rel_append hnames (.cons hlogical .nil), ?_⟩
    rw [eraseDups_concat, if_pos hknown, map_name_appendTo, hmerged]
  made := by
    intro sheet hsheet
    rw [partsOf_concat]
    rcases mem_appendTo h.names_nodup hbase hsheet with rfl | ⟨hold, hname⟩
    · obtain ⟨opening, others, hparts, hmade⟩ := h.made base hbase
      rw [if_pos hlogical, hparts]
      exact ⟨opening, others ++ [part], rfl, hmade.append hlogical hrows⟩
    · rw [hlogical, if_neg (fun heq => hname (Option.some.inj heq).symm)]
      exact h.made sheet hold
  events_report :=
    List.rel_append h.events_report (.cons ⟨base.name, rows.length, hlogical, rfl⟩ .nil)
  rows_reported := by
    intro sheet hsheet
    rw [sum_concat]
    rcases mem_appendTo h.names_nodup hbase hsheet with rfl | ⟨hold, hname⟩
    · show _ + (if base.name = base.name then rows.length else 0) = (base.rows ++ rows).length
      rw [if_pos rfl, h.rows_reported base hbase, List.length_append]
    · rw [h.rows_reported sheet hold]
      show _ + (if base.name = sheet.name then rows.length else 0) = _
      rw [if_neg (Ne.symm hname), Nat.add_zero]

end Gathered

/-- A run gathers its parts. -/
theorem addParts_gathered {parts merged : List Sheet}
    (hrun : (addParts [] parts).outcome = .ok merged) :
    Gathered parts (addParts [] parts).events merged := by
  refine addParts_keeps_reported (P := Gathered) ?_ [] gathered_nil hrun
  intro parts events merged part event result hgathered hreported
  cases hreported with
  | first hlogical hnew => exact hgathered.first hlogical hnew
  | later hlogical hbase hrows => exact hgathered.later hlogical hbase hrows

end Sheet

namespace Workbook

/-- A run that checks the sheets and adds their parts has the events of the parts. -/
theorem events_merge {workbook merged : Workbook} (h : workbook.merge.outcome = .ok merged) :
    workbook.merge.events = (Sheet.addParts [] workbook.sheets).events := by
  obtain ⟨hshaped, hnames, hsheets, -⟩ := merge_eq_ok.mp h
  have hcheck : (Reported.lift (Sheet.checkAll [] workbook.sheets)).outcome = .ok () :=
    Sheet.checkAll_eq_ok.mpr ⟨hshaped, hnames, fun _ _ => List.not_mem_nil⟩
  rw [merge, Outcome.events_bind_of_ok hcheck, Outcome.events_bind_of_ok hsheets]
  show [] ++ (_ ++ []) = _
  rw [List.nil_append, List.append_nil]

/-- Merging gathers all sheets of a workbook, reports each of them, and leaves the time of export
as it is. -/
theorem merge_gathers {workbook merged : Workbook} (h : workbook.merge.outcome = .ok merged) :
    merged.exportedAt = workbook.exportedAt ∧
      Sheet.Gathered workbook.sheets workbook.merge.events merged.sheets := by
  obtain ⟨-, -, hsheets, hexported⟩ := merge_eq_ok.mp h
  rw [events_merge h]
  exact ⟨hexported, Sheet.addParts_gathered hsheets⟩

/-! ### Parts of two sheets, one behind the other in turn -/

/-- A data sheet and an enum sheet in two parts each. -/
def interleaved : Workbook where
  sheets := [
    ⟨"Item_Weapon", ["Id", "Grade"], [["int32_cs", "Enum_Grade_cs"], ["1", "Rare"], ["2", "Epic"]]⟩,
    ⟨"Grade_Low", ["Enum", "Value", "Description"], [["Common", "", "white"]]⟩,
    ⟨"Item_Armor", ["Id", "Grade"], [["int32_cs", "Enum_Grade_cs"], ["3", "Common"]]⟩,
    ⟨"Grade_High", ["Enum", "Value", "Description"], [["Rare", "", ""], ["Epic", "7", ""]]⟩]
  exportedAt := none

/-- The two sheets. -/
def gathered : Workbook where
  sheets := [
    ⟨"Item", ["Id", "Grade"],
      [["int32_cs", "Enum_Grade_cs"], ["1", "Rare"], ["2", "Epic"], ["3", "Common"]]⟩,
    ⟨"Grade", ["Enum", "Value", "Description"],
      [["Common", "", "white"], ["Rare", "", ""], ["Epic", "7", ""]]⟩]
  exportedAt := none

theorem interleaved_gathered :
    interleaved.merge.outcome = .ok gathered ∧
      interleaved.merge.events = [
        .merged "Item" "Item_Weapon" 3, .merged "Grade" "Grade_Low" 1,
        .merged "Item" "Item_Armor" 1, .merged "Grade" "Grade_High" 2] ∧
      Sheet.Gathered interleaved.sheets interleaved.merge.events gathered.sheets := by
  have hmerge : interleaved.merge.outcome = .ok gathered := by decide +kernel
  exact ⟨hmerge, by decide +kernel, (merge_gathers hmerge).2⟩

end Workbook

end GameSheets

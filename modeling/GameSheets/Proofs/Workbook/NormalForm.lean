/-
  The normal form of merging.

  A workbook is normal where every sheet has its shape, the names of the sheets differ, and none of
  them has an underscore.  Merging brings a workbook into this form, and leaves it as it is when it
  has it (`merge_eq_self_iff`):

  1. a logical name ends where the first underscore stands, so that no merged sheet has one in its
     name;
  2. a name without an underscore is its own logical name (`logicalName?_eq_self_iff`), so that each
     sheet of a normal workbook opens a sheet under the name that it has, in the place that it has.
-/
import GameSheets.Proofs.Workbook.Gathering

namespace GameSheets

namespace Sheet

/-! ## Names without an underscore -/

/-- A logical name has no underscore. -/
theorem not_mem_of_logicalName? {name logical : String} (h : logicalName? name = some logical) :
    '_' ∉ logical.toList := by
  rw [toList_of_logicalName? h]
  intro hmem
  have hkept := List.mem_takeWhile_imp hmem
  simp at hkept

/-- The names that are their own logical names are those without an underscore. -/
theorem logicalName?_eq_self_iff {name : String} :
    logicalName? name = some name ↔ '_' ∉ name.toList := by
  constructor
  · exact not_mem_of_logicalName?
  · intro hplain
    have hpieces : Text.pieces (· == '_') name.toList = [name.toList] := by
      apply Text.pieces_of_forall_not
      intro c hc
      rw [beq_eq_false_iff_ne]
      rintro rfl
      exact hplain hc
    simp only [logicalName?, hpieces, String.ofList_toList]

/-! ## Runs over sheets that are merged already -/

/-- A sheet with a new name without an underscore is added as it is. -/
theorem addPart_of_plain {merged : List Sheet} {part : Sheet} (hplain : '_' ∉ part.name.toList)
    (hnew : part.name ∉ merged.map (·.name)) :
    (addPart merged part).outcome = .ok (merged ++ [part]) := by
  have hlogical : logicalName part.name = .ok part.name :=
    logicalName_eq_ok.mpr (logicalName?_eq_self_iff.mpr hplain)
  have hnone : merged.find? (·.name = part.name) = none := by
    rw [List.find?_eq_none]
    intro sheet hsheet hname
    exact hnew (List.mem_map.mpr ⟨sheet, hsheet, of_decide_eq_true hname⟩)
  unfold addPart
  rw [Reported.outcome_bind, Outcome.bind_eq_ok]
  refine ⟨part.name, hlogical, ?_⟩
  rw [hnone]
  rfl

/-- Sheets with different names without underscores are added as they are, in order. -/
theorem addParts_of_plain {merged parts : List Sheet}
    (hplain : ∀ part ∈ parts, '_' ∉ part.name.toList)
    (hnames : ((merged ++ parts).map (·.name)).Nodup) :
    (addParts merged parts).outcome = .ok (merged ++ parts) := by
  induction parts generalizing merged with
  | nil =>
    rw [List.append_nil]
    rfl
  | cons part rest ih =>
    obtain ⟨hpart, hrest⟩ := List.forall_mem_cons.mp hplain
    have hnew : part.name ∉ merged.map (·.name) := by
      rw [List.map_append, List.map_cons] at hnames
      intro hmem
      exact List.disjoint_of_nodup_append hnames hmem List.mem_cons_self
    have hsplit : merged ++ part :: rest = (merged ++ [part]) ++ rest := by
      rw [List.append_assoc, List.singleton_append]
    rw [addParts, Reported.outcome_bind, Outcome.bind_eq_ok]
    refine ⟨merged ++ [part], addPart_of_plain hpart hnew, ?_⟩
    rw [hsplit] at hnames ⊢
    exact ih hrest hnames

end Sheet

namespace Workbook

/-! ## Normal workbooks -/

/-- Every sheet has different columns and a cell for each of them in every row; the names of the
sheets differ and have no underscore. -/
structure IsNormal (workbook : Workbook) : Prop where
  columns_nodup : ∀ sheet ∈ workbook.sheets, sheet.columns.Nodup
  row_length : ∀ sheet ∈ workbook.sheets, ∀ row ∈ sheet.rows, row.length = sheet.columns.length
  names_nodup : (workbook.sheets.map (·.name)).Nodup
  names_plain : ∀ sheet ∈ workbook.sheets, '_' ∉ sheet.name.toList

/-- What merging makes is normal. -/
theorem isNormal_of_merge {workbook merged : Workbook} (h : workbook.merge.outcome = .ok merged) :
    merged.IsNormal := by
  obtain ⟨hnames, hshaped⟩ := shaped_of_merge h
  obtain ⟨-, -, hsheets, -⟩ := merge_eq_ok.mp h
  refine ⟨fun sheet hsheet => (hshaped sheet hsheet).columns_nodup,
    fun sheet hsheet => (hshaped sheet hsheet).row_length, hnames, ?_⟩
  intro sheet hsheet
  -- the sheet has a first part, whose logical name it bears
  obtain ⟨first, later, hparts, -⟩ := (Sheet.addParts_gathered hsheets).made sheet hsheet
  have hfirst : first ∈ Sheet.partsOf sheet.name workbook.sheets := by
    rw [hparts]
    exact List.mem_cons_self
  have hlogical := (List.mem_filter.mp hfirst).2
  exact Sheet.not_mem_of_logicalName? (of_decide_eq_true hlogical)

/-- The workbooks that merging leaves as they are are the normal ones. -/
theorem merge_eq_self_iff {workbook : Workbook} :
    workbook.merge.outcome = .ok workbook ↔ workbook.IsNormal := by
  constructor
  · exact isNormal_of_merge
  · intro hnormal
    have hshaped : ∀ sheet ∈ workbook.sheets, sheet.Shaped := fun sheet hsheet =>
      ⟨hnormal.columns_nodup sheet hsheet, hnormal.row_length sheet hsheet⟩
    have hsheets : (Sheet.addParts [] workbook.sheets).outcome = .ok ([] ++ workbook.sheets) :=
      Sheet.addParts_of_plain hnormal.names_plain hnormal.names_nodup
    exact merge_eq_ok.mpr ⟨hshaped, hnormal.names_nodup, hsheets, rfl⟩

/-- Merging makes a normal workbook, and merging that one again succeeds and changes nothing. -/
theorem merge_normalizes {workbook merged : Workbook} (h : workbook.merge.outcome = .ok merged) :
    merged.IsNormal ∧ merged.merge.outcome = .ok merged := by
  have hnormal := isNormal_of_merge h
  exact ⟨hnormal, merge_eq_self_iff.mpr hnormal⟩

theorem gathered_normal :
    interleaved.merge.outcome = .ok gathered ∧
      gathered.IsNormal ∧ gathered.merge.outcome = .ok gathered := by
  have hmerge : interleaved.merge.outcome = .ok gathered := by decide +kernel
  exact ⟨hmerge, merge_normalizes hmerge⟩

end Workbook

end GameSheets

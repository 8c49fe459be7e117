/-
  Merging parts that differ in hidden cells.

  The type row of a logical sheet is that of its first part, and so it is the first part that says
  which cells of all parts are hidden.  Two workbooks that differ in such cells only are merged
  alike: with the same reports, to the same error or to sheets that are twins under their own type
  rows.  The run over the first workbook keeps that every merged sheet continues its first part
  (`Opened`); this carries what the first part hides over to the merged sheet.
-/
import GameSheets.Proofs.Hidden.Cells
import GameSheets.Proofs.Workbook.Merging

namespace GameSheets

namespace Sheet

variable {platform : Platform}

/-- The first part of the part's logical sheet hides the position. -/
def HiddenIn (platform : Platform) (parts : List Sheet) (part : Sheet) (position : Nat) : Prop :=
  ∃ logical first, logicalName? part.name = some logical ∧
    firstPart? logical parts = some first ∧ first.Hides platform position

/-- Sheets that differ at most in cells that their own type row hides. -/
def MergedTwins (platform : Platform) (sheet twin : Sheet) : Prop :=
  Twins (sheet.Hides platform) sheet twin

/-- A sheet hides what its first part hides. -/
theorem Continues.hides {sheet first : Sheet} (h : sheet.Continues first) {position : Nat}
    (hhides : first.Hides platform position) : sheet.Hides platform position := by
  obtain ⟨typeRow, name, cell, type, htypeRow, hname, hrest⟩ := hhides
  exact ⟨typeRow, name, cell, type, h.typeRow?_eq htypeRow, h.columns_eq ▸ hname, hrest⟩

theorem Twins.typeRowText_eq {hidden : Nat → Prop} {sheet twin : Sheet}
    (h : Twins hidden sheet twin) : twin.typeRowText = sheet.typeRowText := by
  rw [typeRowText, typeRowText, h.typeRow_eq]

/-! ## Shapes -/

theorem firstRagged?_congr {width row : Nat} {rows others : List (List String)}
    (h : others.map List.length = rows.map List.length) :
    firstRagged? width row others = firstRagged? width row rows := by
  induction rows generalizing others row with
  | nil => rw [List.map_eq_nil_iff.mp h]
  | cons cells rest ih =>
    cases others with
    | nil => cases h
    | cons otherCells otherRest =>
      rw [List.map_cons, List.map_cons, List.cons.injEq] at h
      rw [firstRagged?, firstRagged?, h.1, ih h.2]

theorem Twins.checkShape_eq {hidden : Nat → Prop} {sheet twin : Sheet}
    (h : Twins hidden sheet twin) : twin.checkShape = sheet.checkShape := by
  rw [checkShape, checkShape, h.columns_eq, h.name_eq, firstRagged?_congr h.map_length_rows]

theorem checkAll_congr {seen : List String} {sheets twins : List Sheet}
    (h : List.Forall₂ (fun sheet twin => ∃ hidden, Twins hidden sheet twin) sheets twins) :
    checkAll seen twins = checkAll seen sheets := by
  induction h generalizing seen with
  | nil => rfl
  | cons hsheet _ ih =>
    obtain ⟨hidden, htwins⟩ := hsheet
    rw [checkAll, checkAll, htwins.checkShape_eq, htwins.name_eq, ih]

/-! ## One step -/

theorem find?_twins {merged twins : List Sheet} {name : String}
    (h : List.Forall₂ (MergedTwins platform) merged twins) :
    Option.Rel (MergedTwins platform) (merged.find? (·.name = name))
      (twins.find? (·.name = name)) := by
  induction h with
  | nil => exact .none
  | @cons sheet twin _ _ hsheet _ ih =>
    rw [List.find?_cons, List.find?_cons, hsheet.name_eq]
    cases decide (sheet.name = name) with
    | true => exact .some hsheet
    | false => exact ih

/-- Twin parts add twin rows, and the same rows to a sheet that holds no data. -/
theorem rowsToAppend_twins {base baseTwin part partTwin : Sheet} {hidden : Nat → Prop}
    (hbase : MergedTwins platform base baseTwin) (hpart : Twins hidden part partTwin)
    (hlogical : logicalName? part.name = some base.name) :
    Reported.Alike
      (fun rows rowTwins => List.Forall₂ (TwinRows hidden) rows rowTwins ∧
        (base.isData = false → rowTwins = rows))
      (Reported.lift (rowsToAppend base part))
      (Reported.lift (rowsToAppend baseTwin partTwin)) := by
  unfold rowsToAppend
  rw [hbase.columns_eq, hpart.columns_eq, hbase.name_eq, hpart.name_eq, hbase.isEnumeration_eq,
    hbase.typeRowText_eq, hpart.typeRowText_eq]
  by_cases hcolumns : base.columns = part.columns
  · have hkind := kind_of_logical hlogical hcolumns
    rw [if_neg (not_not.mpr hcolumns), if_neg (not_not.mpr hcolumns)]
    by_cases henum : base.isEnumeration = true
    · have hsame := hpart.eq_of_isEnumeration (by rwa [isEnumeration, ← hkind])
      rw [if_pos henum, if_pos henum, hsame]
      exact .ok ⟨List.forall₂_same.mpr fun row _ => .refl hidden row, fun _ => rfl⟩
    · rw [if_neg henum, if_neg henum]
      by_cases htypes : base.typeRowText = part.typeRowText
      · rw [if_neg (not_not.mpr htypes), if_neg (not_not.mpr htypes)]
        refine .ok ⟨hpart.rows_twin, ?_⟩
        intro hdata
        rw [hpart.eq_of_not_data (by rwa [isData, ← hkind])]
      · rw [if_pos htypes, if_pos htypes]
        exact .error
  · rw [if_pos hcolumns, if_pos hcolumns]
    exact .error

/-- Where there is no type row, there is no row. -/
theorem rows_eq_nil_of_typeRow? {sheet : Sheet} (h : sheet.typeRow? = none) : sheet.rows = [] :=
  List.head?_eq_none_iff.mp h

/-- Sheets stay twins when twin rows are added to them: hidden cells of the rows must be hidden by
the sheet's own type row. -/
theorem MergedTwins.append {base baseTwin : Sheet} {hidden : Nat → Prop}
    {rows rowTwins : List (List String)} (h : MergedTwins platform base baseTwin)
    (hrows : List.Forall₂ (TwinRows hidden) rows rowTwins)
    (hsame : base.isData = false → rowTwins = rows)
    (hhidden : ∀ position, hidden position → base.Hides platform position) :
    MergedTwins platform { base with rows := base.rows ++ rows }
      { baseTwin with rows := baseTwin.rows ++ rowTwins } := by
  cases htypeRow : base.typeRow? with
  | none =>
    -- nothing is hidden without a type row, so that the same rows are added to the same sheet
    have hvisible : ∀ position, ¬ hidden position := by
      intro position hposition
      obtain ⟨typeRow, -, -, -, hsome, -⟩ := hhidden position hposition
      rw [htypeRow] at hsome
      cases hsome
    have hbase : baseTwin = base := by
      have hnone : baseTwin.rows = [] := rows_eq_nil_of_typeRow? (h.typeRow_eq.trans htypeRow)
      obtain ⟨name, columns, rows⟩ := base
      obtain ⟨twinName, twinColumns, twinRows⟩ := baseTwin
      obtain rfl : twinName = name := h.name_eq
      obtain rfl : twinColumns = columns := h.columns_eq
      obtain rfl : twinRows = [] := hnone
      obtain rfl : rows = [] := rows_eq_nil_of_typeRow? htypeRow
      rfl
    rw [eq_of_forall₂_twinRows hrows hvisible, hbase]
    exact .refl _ _
  | some typeRow =>
    have hbaseRows : base.rows = typeRow :: base.dataRows := by
      rw [base.rows_eq_append, htypeRow]
      rfl
    have htwinRows : baseTwin.rows = typeRow :: baseTwin.dataRows := by
      rw [baseTwin.rows_eq_append, h.typeRow_eq, htypeRow]
      rfl
    have hhides : ∀ position, base.Hides platform position →
        ({ base with rows := base.rows ++ rows } : Sheet).Hides platform position := by
      intro position hposition
      have hcontinues : ({ base with rows := base.rows ++ rows } : Sheet).Continues base :=
        ⟨rfl, List.prefix_append _ _⟩
      exact hcontinues.hides hposition
    have hbehind : List.Forall₂ (TwinRows (base.Hides platform)) (base.rows ++ rows).tail
        (baseTwin.rows ++ rowTwins).tail := by
      rw [hbaseRows, htwinRows]
      exact List.rel_append h.rows_twin (hrows.imp fun _ _ => .imp hhidden)
    refine ⟨h.name_eq, h.columns_eq, ?_, hbehind.imp fun _ _ => .imp hhides, ?_⟩
    · show (baseTwin.rows ++ rowTwins).head? = (base.rows ++ rows).head?
      rw [hbaseRows, htwinRows]
      rfl
    · intro hdata
      have hbaseData : base.isData = false := hdata
      rw [h.eq_of_not_data hbaseData, hsame hbaseData]

/-- Rows are added to twins of one name as to one sheet. -/
theorem appendTo_twins {base : Sheet} {merged twins : List Sheet} {hidden : Nat → Prop}
    {rows rowTwins : List (List String)} (hnames : (merged.map (·.name)).Nodup)
    (hbase : base ∈ merged) (hmerged : List.Forall₂ (MergedTwins platform) merged twins)
    (hrows : List.Forall₂ (TwinRows hidden) rows rowTwins)
    (hsame : base.isData = false → rowTwins = rows)
    (hhidden : ∀ position, hidden position → base.Hides platform position) :
    List.Forall₂ (MergedTwins platform) (appendTo base.name rows merged)
      (appendTo base.name rowTwins twins) := by
  rw [appendTo, appendTo, List.forall₂_map_left_iff, List.forall₂_map_right_iff]
  refine (Outcome.forall₂_mem_left hmerged).imp ?_
  rintro sheet twin ⟨hsheet, htwin⟩
  by_cases hname : sheet.name = base.name
  · -- names differ, so that this is the base itself
    obtain rfl := List.inj_on_of_nodup_map hnames hsheet hbase hname
    rw [if_pos rfl, if_pos htwin.name_eq]
    exact htwin.append hrows hsame hhidden
  · rw [if_neg hname, if_neg fun h => hname (htwin.name_eq.symm.trans h)]
    exact htwin

/-- Twins are twins under their logical name. -/
theorem Twins.rename {hidden : Nat → Prop} {part partTwin : Sheet} {logical : String}
    (h : Twins hidden part partTwin) (hlogical : logicalName? part.name = some logical) :
    Twins hidden { part with name := logical } { partTwin with name := logical } := by
  refine ⟨rfl, h.columns_eq, h.typeRow_eq, h.rows_twin, ?_⟩
  intro hdata
  have hkind : ({ part with name := logical } : Sheet).kind = part.kind :=
    kind_congr (isComment_logical hlogical) rfl
  rw [isData, hkind] at hdata
  rw [h.eq_of_not_data hdata]

/-- What is hidden in a part is hidden by the first part of its sheet. -/
theorem HiddenIn.hides {parts : List Sheet} {part first : Sheet} {logical : String}
    {position : Nat} (h : HiddenIn platform parts part position)
    (hlogical : logicalName? part.name = some logical)
    (hfirst : firstPart? logical parts = some first) : first.Hides platform position := by
  obtain ⟨name, other, hname, hother, hhides⟩ := h
  obtain rfl := Option.some.inj (hlogical.symm.trans hname)
  obtain rfl := Option.some.inj (hfirst.symm.trans hother)
  exact hhides

/-- A step keeps the merged sheets twins. -/
theorem addPart_twins {parts rest merged twins : List Sheet} {part partTwin : Sheet}
    (hopened : Opened parts merged) (hmerged : List.Forall₂ (MergedTwins platform) merged twins)
    (hpart : Twins (HiddenIn platform (parts ++ part :: rest) part) part partTwin) :
    Reported.Alike (List.Forall₂ (MergedTwins platform)) (addPart merged part)
      (addPart twins partTwin) := by
  unfold addPart
  rw [hpart.name_eq]
  refine (Reported.Alike.refl (fun _ => rfl) _).bind ?_
  rintro logical _ hname rfl
  have hlogical := logicalName_eq_ok.mp hname
  have hfound : Option.Rel (MergedTwins platform) (merged.find? (·.name = logical))
      (twins.find? (·.name = logical)) := find?_twins hmerged
  cases hbase : merged.find? (·.name = logical) with
  | none =>
    -- the part opens its sheet, and so it is itself the first part
    rw [hbase] at hfound
    generalize twins.find? (·.name = logical) = found at hfound ⊢
    cases hfound
    have hnew : ∀ base ∈ merged, base.name ≠ logical := by
      intro base hmem
      simpa using List.find?_eq_none.mp hbase base hmem
    have hfirst := hopened.firstPart?_of_new hlogical hnew rest
    have hhides : ∀ position, HiddenIn platform (parts ++ part :: rest) part position →
        part.Hides platform position :=
      fun _ hposition => hposition.hides hlogical hfirst
    have hopens : MergedTwins platform { part with name := logical }
        { partTwin with name := logical } := (hpart.imp hhides).rename hlogical
    rw [hpart.rows_length]
    refine (Reported.Alike.refl (fun _ => rfl) _).bind ?_
    intro _ _ _ _
    exact .done (List.rel_append hmerged (.cons hopens .nil))
  | some base =>
    rw [hbase] at hfound
    generalize twins.find? (·.name = logical) = found at hfound ⊢
    cases hfound with
    | @some _ baseTwin hbaseTwin =>
      -- the base continues the first part, and so hides what is hidden in the part
      have hmem := List.mem_of_find?_eq_some hbase
      obtain rfl : base.name = logical := by simpa using List.find?_some hbase
      refine (rowsToAppend_twins hbaseTwin hpart hlogical).bind ?_
      rintro rows rowTwins hrowsOk ⟨hrows, hsame⟩
      rw [hrows.length_eq]
      refine (Reported.Alike.refl (fun _ => rfl) _).bind ?_
      intro _ _ _ _
      obtain ⟨first, hfirst, hcontinues⟩ := hopened.continues_first base hmem
      refine .done (appendTo_twins hopened.names_nodup hmem hmerged hrows hsame ?_)
      intro position hposition
      exact hcontinues.hides (hposition.hides hlogical (firstPart?_append hfirst _))

/-! ## The run -/

/-- Runs over twin parts are alike and merge them to twin sheets.  `parts` are those added before
the run. -/
theorem addParts_twins {parts rest restTwins merged twins : List Sheet}
    (hopened : Opened parts merged) (hmerged : List.Forall₂ (MergedTwins platform) merged twins)
    (hrest : List.Forall₂ (fun part partTwin =>
      Twins (HiddenIn platform (parts ++ rest) part) part partTwin) rest restTwins) :
    Reported.Alike (List.Forall₂ (MergedTwins platform)) (addParts merged rest)
      (addParts twins restTwins) := by
  -- the parts as a whole stay the same while the run moves through them
  generalize hsheets : parts ++ rest = sheets at hrest
  induction hrest generalizing parts merged twins with
  | nil => exact .done hmerged
  | @cons part partTwin rest restTwins hpart _ ih =>
    subst hsheets
    refine (addPart_twins hopened hmerged hpart).bind ?_
    intro next nextTwins hnext hnextTwins
    exact ih ((addPart_partAdded hnext).opened hopened) hnextTwins (by simp)

end Sheet

/-! ## Workbooks -/

namespace Workbook

/-- Workbooks exported at one time whose sheets, one by one, differ at most in cells that the first
part of their logical sheet hides from the platform. -/
structure Twins (platform : Platform) (workbook twin : Workbook) : Prop where
  exportedAt_eq : twin.exportedAt = workbook.exportedAt
  sheets_twin : List.Forall₂ (fun sheet sheetTwin =>
    Sheet.Twins (Sheet.HiddenIn platform workbook.sheets sheet) sheet sheetTwin)
    workbook.sheets twin.sheets

/-- Merged workbooks that differ at most in cells that their own type rows hide. -/
structure MergedTwins (platform : Platform) (workbook twin : Workbook) : Prop where
  exportedAt_eq : twin.exportedAt = workbook.exportedAt
  sheets_twin : List.Forall₂ (Sheet.MergedTwins platform) workbook.sheets twin.sheets

/-- Twin workbooks are merged alike. -/
theorem merge_twins {platform : Platform} {workbook twin : Workbook}
    (h : workbook.Twins platform twin) :
    Reported.Alike (MergedTwins platform) workbook.merge twin.merge := by
  have hshapes : Sheet.checkAll [] twin.sheets = Sheet.checkAll [] workbook.sheets :=
    Sheet.checkAll_congr (h.sheets_twin.imp fun _ _ hsheet => ⟨_, hsheet⟩)
  have hopened : Sheet.Opened [] [] :=
    ⟨List.nodup_nil, fun _ hpart => absurd hpart List.not_mem_nil,
      fun _ hsheet => absurd hsheet List.not_mem_nil⟩
  unfold merge
  rw [hshapes]
  refine (Reported.Alike.refl (fun _ => rfl) _).bind ?_
  intro _ _ _ _
  refine (Sheet.addParts_twins hopened .nil h.sheets_twin).bind ?_
  intro sheets twins _ htwins
  exact .done ⟨h.exportedAt_eq, htwins⟩

end Workbook

end GameSheets

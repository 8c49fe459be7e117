/-
  What merging keeps.

  Merging is a run over the parts in order.  One step of it opens a logical sheet with a first part
  or adds the rows of a later part to a sheet that is there (`PartAdded`), and it reports the part
  and the number of its rows (`PartReported`); what every step keeps, the run keeps
  (`addParts_keeps`).  Three things are kept from the start on: the names of the merged sheets
  differ; every merged sheet has its shape, which the rows of its parts have; and every merged
  sheet continues the first of its parts, which every part has (`Opened`).
-/
import Mathlib.Data.List.Nodup
import GameSheets.Proofs.Sheet.Schema
import GameSheets.Workbook.Merge

namespace GameSheets

namespace Sheet

/-! ## Shape -/

/-- Columns have different names and every row has a cell for each. -/
structure Shaped (sheet : Sheet) : Prop where
  columns_nodup : sheet.columns.Nodup
  row_length : ∀ row ∈ sheet.rows, row.length = sheet.columns.length

/-- Every column of a shaped sheet has a type cell, and so the schema has them all. -/
theorem Shaped.names_of_schema {sheet : Sheet} {columns : List Column} (hshaped : sheet.Shaped)
    (hschema : sheet.schema = .ok columns) : columns.map (·.name) = sheet.columns := by
  obtain ⟨typeRow, htypeRow, -, -⟩ := schema_eq_ok.mp hschema
  have hlength := hshaped.row_length typeRow (List.mem_of_mem_head? htypeRow)
  exact Sheet.names_of_schema hschema htypeRow (Nat.le_of_eq hlength.symm)

theorem checkShape_eq_ok {sheet : Sheet} : sheet.checkShape = .ok () ↔ sheet.Shaped := by
  have hshaped : sheet.Shaped ↔
      firstRepeated? [] sheet.columns = none ∧
        firstRagged? sheet.columns.length 0 sheet.rows = none := by
    rw [firstRepeated?_eq_none_iff, firstRagged?_eq_none_iff]
    constructor
    · rintro ⟨hnodup, hlength⟩
      exact ⟨⟨hnodup, fun _ _ => List.not_mem_nil⟩, hlength⟩
    · rintro ⟨⟨hnodup, -⟩, hlength⟩
      exact ⟨hnodup, hlength⟩
  rw [hshaped, checkShape]
  cases firstRepeated? [] sheet.columns with
  | some column => simp
  | none =>
    cases firstRagged? sheet.columns.length 0 sheet.rows with
    | some fault => simp
    | none => simp

/-- All sheets pass where each has its shape and their names are new and differ. -/
theorem checkAll_eq_ok {seen : List String} {sheets : List Sheet} :
    checkAll seen sheets = .ok () ↔
      (∀ sheet ∈ sheets, sheet.Shaped) ∧ (sheets.map (·.name)).Nodup ∧
        ∀ name ∈ sheets.map (·.name), name ∉ seen := by
  induction sheets generalizing seen with
  | nil => simp [checkAll]
  | cons sheet rest ih =>
    rw [checkAll, List.forall_mem_cons, List.map_cons, List.nodup_cons, List.forall_mem_cons,
      ← checkShape_eq_ok]
    cases sheet.checkShape with
    | error cause => simp
    | ok value =>
      by_cases hseen : sheet.name ∈ seen
      · simp [hseen]
      · simp only [if_neg hseen, ih, List.mem_cons, not_or]
        grind

/-! ## Logical names -/

/-- A logical name ends where the first underscore of the sheet's name stands. -/
theorem toList_of_logicalName? {name logical : String} (h : logicalName? name = some logical) :
    logical.toList = name.toList.takeWhile (!· == '_') := by
  have hpieces := Text.head?_pieces (· == '_') name.toList
  unfold logicalName? at h
  split at h
  · rename_i whole hwhole
    rw [hwhole] at hpieces
    obtain rfl := Option.some.inj h
    rw [String.toList_ofList]
    exact Option.some.inj hpieces
  · rename_i head tail hparts
    rw [hparts] at hpieces
    split at h
    · obtain rfl := Option.some.inj h
      rw [String.toList_ofList]
      exact Option.some.inj hpieces
    · cases h
  · cases h

/-- The comment mark stands before any underscore, and so it is in the logical name. -/
theorem isComment_logical {name logical : String} (h : logicalName? name = some logical) :
    isComment logical = isComment name := by
  unfold isComment
  rw [toList_of_logicalName? h]
  cases name.toList with
  | nil => rfl
  | cons c rest =>
    rw [List.takeWhile_cons]
    by_cases hc : c = '_'
    · rw [hc]
      rfl
    · have hkept : (!c == '_') = true := by simpa using hc
      rw [if_pos hkept]
      rfl

/-- A part has the kind of a sheet of its logical name and its columns. -/
theorem kind_of_logical {base part : Sheet} (hlogical : logicalName? part.name = some base.name)
    (hcolumns : base.columns = part.columns) : base.kind = part.kind :=
  kind_congr (isComment_logical hlogical) hcolumns

/-! ## Steps -/

/-- The rows of a part fit a sheet of the same columns, and of the same type cells unless they hold
symbols. -/
theorem rowsToAppend_eq_ok {merged part : Sheet} {rows : List (List String)} :
    rowsToAppend merged part = .ok rows ↔
      merged.columns = part.columns ∧
        (merged.isEnumeration = true ∧ rows = part.rows ∨
          merged.isEnumeration = false ∧ merged.typeRowText = part.typeRowText ∧
            rows = part.dataRows) := by
  unfold rowsToAppend
  by_cases hcolumns : merged.columns = part.columns
  · rw [if_neg (not_not.mpr hcolumns)]
    cases hkind : merged.isEnumeration with
    | true => simp [hcolumns, eq_comm]
    | false =>
      by_cases htypes : merged.typeRowText = part.typeRowText
      · simp [hcolumns, htypes, eq_comm]
      · simp [hcolumns, htypes]
  · rw [if_pos hcolumns]
    simp [hcolumns]

/-- Rows that a part adds are rows of the part. -/
theorem mem_of_mem_rowsToAppend {merged part : Sheet} {rows : List (List String)}
    (hrows : rowsToAppend merged part = .ok rows) {row : List String} (hrow : row ∈ rows) :
    row ∈ part.rows := by
  obtain ⟨-, ⟨-, rfl⟩ | ⟨-, -, rfl⟩⟩ := rowsToAppend_eq_ok.mp hrows
  · exact hrow
  · exact List.mem_of_mem_tail hrow

/-- One step: the part opens its logical sheet, or its rows are added to the sheet that is there. -/
inductive PartAdded (merged : List Sheet) (part : Sheet) : List Sheet → Prop
  | first {logical : String} (hlogical : logicalName? part.name = some logical)
      (hnew : ∀ base ∈ merged, base.name ≠ logical) :
      PartAdded merged part (merged ++ [{ part with name := logical }])
  | later {base : Sheet} {rows : List (List String)}
      (hlogical : logicalName? part.name = some base.name) (hbase : base ∈ merged)
      (hrows : rowsToAppend base part = .ok rows) :
      PartAdded merged part (appendTo base.name rows merged)

theorem logicalName_eq_ok {name logical : String} :
    logicalName name = .ok logical ↔ logicalName? name = some logical := by
  unfold logicalName
  cases logicalName? name with
  | none => simp
  | some other => simp

/-- The same step with the event that it reports: the part, and how many rows came of it. -/
inductive PartReported (merged : List Sheet) (part : Sheet) : Event → List Sheet → Prop
  | first {logical : String} (hlogical : logicalName? part.name = some logical)
      (hnew : ∀ base ∈ merged, base.name ≠ logical) :
      PartReported merged part (.merged logical part.name part.rows.length)
        (merged ++ [{ part with name := logical }])
  | later {base : Sheet} {rows : List (List String)}
      (hlogical : logicalName? part.name = some base.name) (hbase : base ∈ merged)
      (hrows : rowsToAppend base part = .ok rows) :
      PartReported merged part (.merged base.name part.name rows.length)
        (appendTo base.name rows merged)

theorem PartReported.partAdded {merged result : List Sheet} {part : Sheet} {event : Event}
    (h : PartReported merged part event result) : PartAdded merged part result := by
  cases h with
  | first hlogical hnew => exact .first hlogical hnew
  | later hlogical hbase hrows => exact .later hlogical hbase hrows

/-- A step that succeeds reports one event. -/
theorem addPart_reported {merged result : List Sheet} {part : Sheet}
    (h : (addPart merged part).outcome = .ok result) :
    ∃ event, (addPart merged part).events = [event] ∧ PartReported merged part event result := by
  unfold addPart at h ⊢
  rw [Reported.outcome_bind, Outcome.bind_eq_ok] at h
  obtain ⟨logical, hname, h⟩ := h
  have hlogical := logicalName_eq_ok.mp hname
  rw [Outcome.events_bind_of_ok hname]
  split at h
  · -- no sheet has the logical name yet
    rename_i hnone
    rw [Reported.outcome_bind, Outcome.bind_eq_ok] at h
    obtain ⟨-, -, h⟩ := h
    obtain rfl := Except.ok.inj h
    refine ⟨.merged logical part.name part.rows.length, rfl, .first hlogical ?_⟩
    intro base hbase
    simpa using List.find?_eq_none.mp hnone base hbase
  · -- the sheet found has the logical name
    rename_i base hsome
    have hbase := List.mem_of_find?_eq_some hsome
    obtain rfl : base.name = logical := by simpa using List.find?_some hsome
    rw [Reported.outcome_bind, Outcome.bind_eq_ok] at h
    obtain ⟨rows, hrows, h⟩ := h
    rw [Reported.outcome_bind, Outcome.bind_eq_ok] at h
    obtain ⟨-, -, h⟩ := h
    obtain rfl := Except.ok.inj h
    refine ⟨.merged base.name part.name rows.length, ?_, .later hlogical hbase hrows⟩
    show [] ++ (Reported.lift (rowsToAppend base part) >>= fun rows => _).events = _
    rw [Outcome.events_bind_of_ok hrows]
    rfl

theorem addPart_partAdded {merged result : List Sheet} {part : Sheet}
    (h : (addPart merged part).outcome = .ok result) : PartAdded merged part result := by
  obtain ⟨event, -, hreported⟩ := addPart_reported h
  exact hreported.partAdded

/-- What every step keeps, the run keeps.  `parts` and `events` are those before the run. -/
theorem addParts_keeps_reported {P : List Sheet → List Event → List Sheet → Prop}
    (hstep : ∀ parts events merged part event result, P parts events merged →
      PartReported merged part event result → P (parts ++ [part]) (events ++ [event]) result)
    {parts rest merged result : List Sheet} (events : List Event) (hstart : P parts events merged)
    (hrun : (addParts merged rest).outcome = .ok result) :
    P (parts ++ rest) (events ++ (addParts merged rest).events) result := by
  induction rest generalizing parts events merged with
  | nil =>
    obtain rfl := Except.ok.inj hrun
    show P (parts ++ []) (events ++ []) merged
    rwa [List.append_nil, List.append_nil]
  | cons part rest ih =>
    rw [addParts, Reported.outcome_bind, Outcome.bind_eq_ok] at hrun
    obtain ⟨next, hpart, hrest⟩ := hrun
    obtain ⟨event, hevent, hadded⟩ := addPart_reported hpart
    have hnext := ih _ (hstep parts events merged part event next hstart hadded) hrest
    rw [addParts, Outcome.events_bind_of_ok hpart, hevent]
    rwa [List.append_assoc, List.append_assoc, List.singleton_append] at hnext

/-- The same where nothing is said of events. -/
theorem addParts_keeps {P : List Sheet → List Sheet → Prop}
    (hstep : ∀ parts merged part result, P parts merged → PartAdded merged part result →
      P (parts ++ [part]) result)
    {parts rest merged result : List Sheet} (hstart : P parts merged)
    (hrun : (addParts merged rest).outcome = .ok result) : P (parts ++ rest) result :=
  addParts_keeps_reported (P := fun parts _ merged => P parts merged)
    (fun parts _ merged part _ result hmerged hadded =>
      hstep parts merged part result hmerged hadded.partAdded)
    [] hstart hrun

/-! ## What steps keep -/

/-- Rows are added to one sheet, where names differ: after it there are that sheet with its rows
and the other ones as they were. -/
theorem mem_appendTo {merged : List Sheet} (hnames : (merged.map (·.name)).Nodup)
    {base sheet : Sheet} {rows : List (List String)} (hbase : base ∈ merged)
    (hsheet : sheet ∈ appendTo base.name rows merged) :
    sheet = { base with rows := base.rows ++ rows } ∨ sheet ∈ merged ∧ sheet.name ≠ base.name := by
  obtain ⟨other, hother, rfl⟩ := List.mem_map.mp hsheet
  by_cases hname : other.name = base.name
  · obtain rfl := List.inj_on_of_nodup_map hnames hother hbase hname
    rw [if_pos rfl]
    exact .inl rfl
  · rw [if_neg hname]
    exact .inr ⟨hother, hname⟩

namespace PartAdded

variable {merged result : List Sheet} {part : Sheet}

/-- Names stay different: a sheet is opened only under a new name. -/
theorem nodup_names (h : PartAdded merged part result) (hnames : (merged.map (·.name)).Nodup) :
    (result.map (·.name)).Nodup := by
  cases h with
  | first hlogical hnew =>
    rw [List.map_append, List.nodup_append]
    refine ⟨hnames, List.nodup_singleton _, ?_⟩
    intro name hname other hother heq
    obtain ⟨base, hbase, rfl⟩ := List.mem_map.mp hname
    obtain rfl := List.mem_singleton.mp hother
    exact hnew base hbase heq
  | later hlogical hbase hrows =>
    rwa [map_name_appendTo]

/-- A sheet after a step is one from before, one from before with rows of the part behind its own,
or the part under its logical name. -/
theorem mem_result (h : PartAdded merged part result) (hnames : (merged.map (·.name)).Nodup)
    {sheet : Sheet} (hsheet : sheet ∈ result) :
    sheet ∈ merged ∨
      (∃ base ∈ merged, ∃ rows, logicalName? part.name = some base.name ∧
        rowsToAppend base part = .ok rows ∧ sheet = { base with rows := base.rows ++ rows }) ∨
      ∃ logical, logicalName? part.name = some logical ∧ (∀ base ∈ merged, base.name ≠ logical) ∧
        sheet = { part with name := logical } := by
  cases h with
  | @first logical hlogical hnew =>
    rcases List.mem_append.mp hsheet with hold | hpart
    · exact .inl hold
    · exact .inr (.inr ⟨logical, hlogical, hnew, List.mem_singleton.mp hpart⟩)
  | @later base rows hlogical hbase hrows =>
    rcases mem_appendTo hnames hbase hsheet with rfl | ⟨hold, -⟩
    · exact .inr (.inl ⟨base, hbase, rows, hlogical, hrows, rfl⟩)
    · exact .inl hold

/-- Sheets keep their shape: the rows of a part fit the columns that it shares. -/
theorem shaped (h : PartAdded merged part result) (hnames : (merged.map (·.name)).Nodup)
    (hmerged : ∀ sheet ∈ merged, sheet.Shaped) (hpart : part.Shaped) :
    ∀ sheet ∈ result, sheet.Shaped := by
  intro sheet hsheet
  rcases h.mem_result hnames hsheet with
    hold | ⟨base, hbase, rows, -, hrows, rfl⟩ | ⟨logical, -, -, rfl⟩
  · exact hmerged sheet hold
  · obtain ⟨hnodup, hlength⟩ := hmerged base hbase
    refine ⟨hnodup, ?_⟩
    intro row hrow
    rcases List.mem_append.mp hrow with hown | hadded
    · exact hlength row hown
    · show row.length = base.columns.length
      rw [(rowsToAppend_eq_ok.mp hrows).1]
      exact hpart.row_length row (mem_of_mem_rowsToAppend hrows hadded)
  · exact ⟨hpart.columns_nodup, hpart.row_length⟩

end PartAdded

/-! ## First parts -/

/-- The first part of a logical sheet. -/
def firstPart? (logical : String) (parts : List Sheet) : Option Sheet :=
  parts.find? fun part => logicalName? part.name = some logical

/-- The sheet has the columns of its first part, and starts with its rows. -/
structure Continues (sheet first : Sheet) : Prop where
  columns_eq : sheet.columns = first.columns
  rows_prefix : first.rows <+: sheet.rows

/-- A type row of the first part is that of the sheet. -/
theorem Continues.typeRow?_eq {sheet first : Sheet} (h : sheet.Continues first)
    {typeRow : List String} (htypeRow : first.typeRow? = some typeRow) :
    sheet.typeRow? = some typeRow := by
  obtain ⟨rest, hrest⟩ := h.rows_prefix
  rw [typeRow?, ← hrest, List.head?_append, show first.rows.head? = some typeRow from htypeRow]
  rfl

/-- Every part added so far has its merged sheet, and every merged sheet has a first part, which it
continues. -/
structure Opened (parts merged : List Sheet) : Prop where
  names_nodup : (merged.map (·.name)).Nodup
  mem_names : ∀ part ∈ parts, ∃ logical ∈ merged.map (·.name),
    logicalName? part.name = some logical
  continues_first : ∀ sheet ∈ merged, ∃ first,
    firstPart? sheet.name parts = some first ∧ sheet.Continues first

/-- There is no first part under a name that no merged sheet has. -/
theorem Opened.firstPart?_eq_none {parts merged : List Sheet} (h : Opened parts merged)
    {logical : String} (hnew : ∀ sheet ∈ merged, sheet.name ≠ logical) :
    firstPart? logical parts = none := by
  refine List.find?_eq_none.mpr ?_
  intro part hpart hlogical
  obtain ⟨other, hother, hname⟩ := h.mem_names part hpart
  obtain ⟨sheet, hsheet, rfl⟩ := List.mem_map.mp hother
  rw [hname] at hlogical
  exact hnew sheet hsheet (Option.some.inj (of_decide_eq_true hlogical))

/-- A first part stays the first when parts follow. -/
theorem firstPart?_append {logical : String} {parts : List Sheet} {first : Sheet}
    (h : firstPart? logical parts = some first) (rest : List Sheet) :
    firstPart? logical (parts ++ rest) = some first := by
  rw [firstPart?, List.find?_append, ← firstPart?, h]
  rfl

/-- A part that opens a sheet is its first part. -/
theorem Opened.firstPart?_of_new {parts merged : List Sheet} (h : Opened parts merged)
    {part : Sheet} {logical : String} (hlogical : logicalName? part.name = some logical)
    (hnew : ∀ sheet ∈ merged, sheet.name ≠ logical) (rest : List Sheet) :
    firstPart? logical (parts ++ part :: rest) = some part := by
  rw [firstPart?, List.find?_append, ← firstPart?, h.firstPart?_eq_none hnew, Option.none_or]
  exact List.find?_cons_of_pos (decide_eq_true hlogical)

theorem PartAdded.opened {parts merged result : List Sheet} {part : Sheet}
    (hopened : Opened parts merged) (h : PartAdded merged part result) :
    Opened (parts ++ [part]) result := by
  refine ⟨h.nodup_names hopened.names_nodup, ?_, ?_⟩
  · intro other hother
    cases h with
    | @first logical hlogical hnew =>
      rw [List.map_append]
      rcases List.mem_append.mp hother with hold | hpart
      · obtain ⟨name, hname, heq⟩ := hopened.mem_names other hold
        exact ⟨name, List.mem_append_left _ hname, heq⟩
      · obtain rfl := List.mem_singleton.mp hpart
        exact ⟨logical, List.mem_append_right _ List.mem_cons_self, hlogical⟩
    | @later base rows hlogical hbase hrows =>
      rw [map_name_appendTo]
      rcases List.mem_append.mp hother with hold | hpart
      · exact hopened.mem_names other hold
      · obtain rfl := List.mem_singleton.mp hpart
        exact ⟨base.name, List.mem_map_of_mem hbase, hlogical⟩
  · intro sheet hsheet
    rcases h.mem_result hopened.names_nodup hsheet with
      hold | ⟨base, hbase, rows, -, -, rfl⟩ | ⟨logical, hlogical, hnew, rfl⟩
    · obtain ⟨first, hfirst, hcontinues⟩ := hopened.continues_first sheet hold
      exact ⟨first, firstPart?_append hfirst _, hcontinues⟩
    · obtain ⟨first, hfirst, hcolumns, hrows⟩ := hopened.continues_first base hbase
      exact ⟨first, firstPart?_append hfirst _, hcolumns,
        hrows.trans (List.prefix_append _ _)⟩
    · exact ⟨part, hopened.firstPart?_of_new hlogical hnew [], rfl, List.prefix_rfl⟩

/-! ## Runs -/

/-- The sheets of a run have different names, and each has its shape if the parts have. -/
theorem addParts_shaped {parts result : List Sheet}
    (hrun : (addParts [] parts).outcome = .ok result) (hparts : ∀ part ∈ parts, part.Shaped) :
    (result.map (·.name)).Nodup ∧ ∀ sheet ∈ result, sheet.Shaped := by
  have hkept : (result.map (·.name)).Nodup ∧
      ((∀ part ∈ [] ++ parts, part.Shaped) → ∀ sheet ∈ result, sheet.Shaped) := by
    refine addParts_keeps (P := fun parts merged => (merged.map (·.name)).Nodup ∧
      ((∀ part ∈ parts, part.Shaped) → ∀ sheet ∈ merged, sheet.Shaped)) ?_ ?_ hrun
    · rintro parts merged part next ⟨hnames, hshaped⟩ hadded
      refine ⟨hadded.nodup_names hnames, ?_⟩
      intro hall
      rw [List.forall_mem_append] at hall
      exact hadded.shaped hnames (hshaped hall.1) (hall.2 part (List.mem_singleton.mpr rfl))
    · exact ⟨List.nodup_nil, fun _ _ h => absurd h List.not_mem_nil⟩
  exact ⟨hkept.1, hkept.2 hparts⟩

end Sheet

/-! ## Workbooks -/

namespace Workbook

/-- A workbook is merged where its sheets have their shapes and different names, by the run that
adds them in order. -/
theorem merge_eq_ok {workbook merged : Workbook} :
    workbook.merge.outcome = .ok merged ↔
      (∀ sheet ∈ workbook.sheets, sheet.Shaped) ∧ (workbook.sheets.map (·.name)).Nodup ∧
        (Sheet.addParts [] workbook.sheets).outcome = .ok merged.sheets ∧
          merged.exportedAt = workbook.exportedAt := by
  have hcheck : Sheet.checkAll [] workbook.sheets = .ok () ↔ _ := Sheet.checkAll_eq_ok
  unfold merge
  simp only [Reported.outcome_bind, Reported.outcome_lift, Reported.outcome_pure,
    Outcome.bind_eq_ok, Except.ok.injEq]
  constructor
  · rintro ⟨⟨⟩, hshapes, sheets, hsheets, rfl⟩
    obtain ⟨hshaped, hnames, -⟩ := hcheck.mp hshapes
    exact ⟨hshaped, hnames, hsheets, rfl⟩
  · rintro ⟨hshaped, hnames, hsheets, hexported⟩
    refine ⟨(), hcheck.mpr ⟨hshaped, hnames, fun _ _ => List.not_mem_nil⟩, merged.sheets,
      hsheets, ?_⟩
    rw [← hexported]

/-- Merged sheets have different names and their shapes. -/
theorem shaped_of_merge {workbook merged : Workbook} (h : workbook.merge.outcome = .ok merged) :
    (merged.sheets.map (·.name)).Nodup ∧ ∀ sheet ∈ merged.sheets, sheet.Shaped := by
  obtain ⟨hshaped, -, hsheets, -⟩ := merge_eq_ok.mp h
  exact Sheet.addParts_shaped hsheets hshaped

end Workbook

end GameSheets

/-
  Splitting a sheet changes no artifact.

  A sheet may be kept as one or be cut into parts that stand anywhere behind the first of them,
  mixed with other sheets:

    Item  Grade  Shop      or      Item_Weapon  Grade  Item_Armor  Shop  Item_Potion

  The two workbooks are merged side by side.  The run over the parts lags behind: at every moment it
  has the sheets of the other run but for the rows of the parts that are still to come, so that
  adding those rows makes the two equal (`outcome_addParts_woven`).

  1. A part of the sheet adds its own rows, and that many fewer are still to come
     (`addPart_chunk`).
  2. A part of any other sheet is added alike in both runs, or fails alike
     (`addPart_appendTo`).
  3. The checks before the run look at names and shapes, which the parts have where the sheet has
     them (`checkAll_iff`).

  From the merged workbook on nothing is left of the parts.
-/
import GameSheets.Proofs.Workbook.Compiling
import GameSheets.Proofs.Workbook.Gathering

namespace GameSheets

/-- The items of two lists in one, each list in its own order. -/
inductive Woven {α : Type} : List α → List α → List α → Prop
  | nil : Woven [] [] []
  | left {item : α} {items others mixed : List α} (rest : Woven items others mixed) :
      Woven (item :: items) others (item :: mixed)
  | right {item : α} {items others mixed : List α} (rest : Woven items others mixed) :
      Woven items (item :: others) (item :: mixed)

theorem Woven.perm {α : Type} {items others mixed : List α} (h : Woven items others mixed) :
    mixed.Perm (others ++ items) := by
  induction h with
  | nil => exact .refl _
  | left _ ih => exact (ih.cons _).trans List.perm_middle.symm
  | right _ ih => exact ih.cons _

namespace Sheet

/-! ## Parts of a sheet -/

/-- The rows that every part of the sheet starts with: the row of type cells, and none where rows
are symbols. -/
def repeatedRows (sheet : Sheet) : List (List String) :=
  if sheet.isEnumeration then [] else sheet.typeRow?.toList

/-- The parts have the columns of the sheet and different names with its name in front; and its rows
are cut into one chunk for each part, in order, any of which may be empty. -/
structure CutInto (sheet : Sheet) (parts : List Sheet) : Prop where
  columns_eq : ∀ part ∈ parts, part.columns = sheet.columns
  logical_eq : ∀ part ∈ parts, logicalName? part.name = some sheet.name
  names_nodup : (parts.map (·.name)).Nodup
  rows_cut : ∃ chunks : List (List (List String)),
    parts.map (·.rows) = chunks.map (sheet.repeatedRows ++ ·) ∧
      sheet.rows = sheet.repeatedRows ++ chunks.flatten

/-- A name without an underscore is its own logical name. -/
theorem logicalName?_of_not_mem {name : String} (h : '_' ∉ name.toList) :
    logicalName? name = some name := by
  have hpieces : Text.pieces (· == '_') name.toList = [name.toList] := by
    refine Text.pieces_of_forall_not ?_
    rintro c hc
    have hne : c ≠ '_' := fun heq => h (heq ▸ hc)
    simpa using hne
  simp only [logicalName?, hpieces, String.ofList_toList]

/-! ## Adding rows -/

variable {merged : List Sheet} {name : String} {rows : List (List String)}

theorem appendTo_nil (name : String) (merged : List Sheet) : appendTo name [] merged = merged := by
  refine (List.map_congr_left ?_).trans (List.map_id merged)
  intro sheet _
  rw [List.append_nil]
  split
  · rfl
  · rfl

/-- Rows are added at once or one part after the other. -/
theorem appendTo_appendTo (name : String) (rows more : List (List String)) (merged : List Sheet) :
    appendTo name more (appendTo name rows merged) = appendTo name (rows ++ more) merged := by
  unfold appendTo
  rw [List.map_map]
  refine List.map_congr_left ?_
  intro sheet _
  by_cases h : sheet.name = name
  · simp only [Function.comp, if_pos h, List.append_assoc]
  · simp only [Function.comp, if_neg h]

/-- Rows of different sheets are added in either order. -/
theorem appendTo_comm {other : String} (hne : other ≠ name) (rows more : List (List String))
    (merged : List Sheet) :
    appendTo other more (appendTo name rows merged) =
      appendTo name rows (appendTo other more merged) := by
  unfold appendTo
  rw [List.map_map, List.map_map]
  refine List.map_congr_left ?_
  intro sheet _
  by_cases h : sheet.name = name
  · have hother : sheet.name ≠ other := fun heq => hne (heq.symm.trans h)
    simp only [Function.comp, if_pos h, if_neg hother]
  · by_cases hother : sheet.name = other
    · simp only [Function.comp, if_neg h, if_pos hother]
    · simp only [Function.comp, if_neg h, if_neg hother]

/-- Sheets are found where they were; the one of the name has the rows. -/
theorem find?_appendTo (name : String) (rows : List (List String)) (merged : List Sheet)
    (logical : String) :
    (appendTo name rows merged).find? (·.name = logical) =
      (merged.find? (·.name = logical)).map fun sheet =>
        if sheet.name = name then { sheet with rows := sheet.rows ++ rows } else sheet := by
  unfold appendTo
  rw [List.find?_map]
  congr 2
  funext sheet
  by_cases h : sheet.name = name
  · simp only [Function.comp, if_pos h]
  · simp only [Function.comp, if_neg h]

/-- Nothing is added where no sheet has the name, but for the one that is opened under it. -/
theorem appendTo_concat_of_none (hnone : merged.find? (·.name = name) = none) (part : Sheet) :
    appendTo name rows (merged ++ [{ part with name := name }]) =
      merged ++ [{ part with name := name, rows := part.rows ++ rows }] := by
  have hkept : appendTo name rows merged = merged := by
    refine (List.map_congr_left ?_).trans (List.map_id merged)
    intro sheet hsheet
    exact if_neg (by simpa using List.find?_eq_none.mp hnone sheet hsheet)
  unfold appendTo at hkept ⊢
  rw [List.map_append, hkept, List.map_singleton, if_pos rfl]

theorem find?_appendTo_of_ne {logical : String} (hne : logical ≠ name) :
    (appendTo name rows merged).find? (·.name = logical) =
      merged.find? (·.name = logical) := by
  rw [find?_appendTo]
  cases hfound : merged.find? (·.name = logical) with
  | none => rfl
  | some base =>
    have hname : base.name = logical := by simpa using List.find?_some hfound
    rw [Option.map_some, if_neg (hname ▸ hne)]

/-! ## Steps -/

/-- One step: a part without a logical name is refused; it opens a sheet, or its rows are added to
the sheet that is found. -/
theorem outcome_addPart (merged : List Sheet) (part : Sheet) :
    (addPart merged part).outcome =
      match logicalName? part.name with
      | none => .error (.badName part.name)
      | some logical =>
        match merged.find? (·.name = logical) with
        | none => .ok (merged ++ [{ part with name := logical }])
        | some base => (rowsToAppend base part).map (appendTo logical · merged) := by
  unfold addPart logicalName
  cases logicalName? part.name with
  | none => rfl
  | some logical =>
    show (match merged.find? (·.name = logical) with
        | none => _
        | some _ => _ : Reported MergeError (List Sheet)).outcome =
      match merged.find? (·.name = logical) with
      | none => _
      | some _ => _
    cases merged.find? (·.name = logical) with
    | none => rfl
    | some base =>
      dsimp only
      rw [Reported.outcome_bind, Reported.outcome_lift]
      cases rowsToAppend base part with
      | error cause => rfl
      | ok rows => rfl

/-- A part of another sheet is added alike, or fails alike, whichever rows the sheet of the name
has. -/
theorem addPart_appendTo {part : Sheet} (hother : logicalName? part.name ≠ some name) :
    (addPart (appendTo name rows merged) part).outcome =
      (addPart merged part).outcome.map (appendTo name rows) := by
  rw [outcome_addPart, outcome_addPart]
  cases hlogical : logicalName? part.name with
  | none => rfl
  | some logical =>
    have hne : logical ≠ name := by
      rintro rfl
      exact hother hlogical
    simp only [find?_appendTo_of_ne hne]
    cases merged.find? (·.name = logical) with
    | none =>
      -- the sheet that is opened does not have the name
      show Except.ok (appendTo name rows merged ++ [_]) =
        .ok (appendTo name rows (merged ++ [{ part with name := logical }]))
      rw [appendTo, appendTo, List.map_append, List.map_singleton, if_neg hne]
    | some base =>
      dsimp only
      cases rowsToAppend base part with
      | error cause => rfl
      | ok added => exact congrArg Except.ok (appendTo_comm hne rows added merged)

/-- Parts of the sheet find it there, with its columns and the rows that they repeat. -/
structure FoundIn (whole : Sheet) (merged : List Sheet) (base : Sheet) : Prop where
  found : merged.find? (·.name = whole.name) = some base
  columns_eq : base.columns = whole.columns
  repeats : whole.repeatedRows <+: base.rows

namespace FoundIn

variable {whole base part : Sheet} {chunk : List (List String)}

/-- It is still there when a part of another sheet has been added. -/
theorem addPart (h : whole.FoundIn merged base) {next : List Sheet}
    (hother : logicalName? part.name ≠ some whole.name)
    (hnext : (addPart merged part).outcome = .ok next) : whole.FoundIn next base := by
  refine ⟨?_, h.columns_eq, h.repeats⟩
  rw [outcome_addPart] at hnext
  split at hnext
  · cases hnext
  · rename_i logical hlogical
    split at hnext
    · obtain rfl := Except.ok.inj hnext
      rw [List.find?_append, h.found, Option.some_or]
    · have hne : whole.name ≠ logical := fun heq => hother (heq ▸ hlogical)
      obtain ⟨rows, -, rfl⟩ := Outcome.map_eq_ok.mp hnext
      rw [find?_appendTo_of_ne hne, h.found]

/-- It is still there when rows have been added to it. -/
theorem appendTo (h : whole.FoundIn merged base) (rows : List (List String)) :
    whole.FoundIn (appendTo whole.name rows merged) { base with rows := base.rows ++ rows } := by
  have hname : base.name = whole.name := by simpa using List.find?_some h.found
  refine ⟨?_, h.columns_eq, h.repeats.trans (List.prefix_append _ _)⟩
  rw [find?_appendTo, h.found, Option.map_some, if_pos hname]

/-- What a part has besides the rows that all parts repeat is added. -/
theorem rowsToAppend_eq (h : whole.FoundIn merged base)
    (hrows : whole.isEnumeration = true ∨ whole.rows ≠ []) (hcolumns : part.columns = whole.columns)
    (hpart : part.rows = whole.repeatedRows ++ chunk) : rowsToAppend base part = .ok chunk := by
  have hname : base.name = whole.name := by simpa using List.find?_some h.found
  have hkind : base.isEnumeration = whole.isEnumeration := by
    unfold isEnumeration
    rw [kind_congr (by rw [hname]) h.columns_eq]
  refine rowsToAppend_eq_ok.mpr ⟨h.columns_eq.trans hcolumns.symm, ?_⟩
  have hrepeats := h.repeats
  cases henum : whole.isEnumeration with
  | true =>
    rw [repeatedRows, henum] at hpart
    exact .inl ⟨hkind.trans henum, hpart.symm⟩
  | false =>
    -- the sheet has a row of type cells, and so do both the part and what is there of the sheet
    obtain ⟨typeRow, htypeRow⟩ : ∃ typeRow, whole.typeRow? = some typeRow := by
      cases hall : whole.rows with
      | nil => exact absurd hall (hrows.resolve_left (by simp [henum]))
      | cons typeRow rest => exact ⟨typeRow, by rw [typeRow?, hall]; rfl⟩
    have hrepeated : whole.repeatedRows = [typeRow] := by
      rw [repeatedRows, henum, htypeRow]
      rfl
    rw [hrepeated] at hpart hrepeats
    obtain ⟨rest, hbase⟩ := hrepeats
    refine .inr ⟨hkind.trans henum, ?_, ?_⟩
    · rw [typeRowText, typeRowText, typeRow?, typeRow?, ← hbase, hpart]
      rfl
    · rw [dataRows, hpart]
      rfl

/-- So a part of the sheet leaves its own chunk there. -/
theorem addPart_chunk (h : whole.FoundIn merged base)
    (hrows : whole.isEnumeration = true ∨ whole.rows ≠ []) (hcolumns : part.columns = whole.columns)
    (hlogical : logicalName? part.name = some whole.name)
    (hpart : part.rows = whole.repeatedRows ++ chunk) :
    (Sheet.addPart merged part).outcome = .ok (Sheet.appendTo whole.name chunk merged) := by
  rw [outcome_addPart, hlogical]
  simp only [h.found, h.rowsToAppend_eq hrows hcolumns hpart]
  rfl

end FoundIn

/-! ## Runs -/

theorem outcome_addParts_append (merged parts more : List Sheet) :
    (addParts merged (parts ++ more)).outcome =
      (addParts merged parts).outcome >>= fun next => (addParts next more).outcome := by
  induction parts generalizing merged with
  | nil => rfl
  | cons part rest ih =>
    rw [List.cons_append, addParts, addParts, Reported.outcome_bind, Reported.outcome_bind,
      bind_assoc]
    simp only [ih]

/-- Adding the parts of a sheet among those of others is adding all its rows at once and then those
others: the induction is on how parts and others are woven. -/
theorem outcome_addParts_woven {whole base : Sheet} {others parts mixed : List Sheet}
    (hwoven : Woven others parts mixed) (hrows : whole.isEnumeration = true ∨ whole.rows ≠ [])
    (hothers : ∀ other ∈ others, logicalName? other.name ≠ some whole.name)
    (hcolumns : ∀ part ∈ parts, part.columns = whole.columns)
    (hlogical : ∀ part ∈ parts, logicalName? part.name = some whole.name)
    {chunks : List (List (List String))}
    (hchunks : parts.map (·.rows) = chunks.map (whole.repeatedRows ++ ·))
    (hfound : whole.FoundIn merged base) :
    (addParts merged mixed).outcome =
      (addParts (appendTo whole.name chunks.flatten merged) others).outcome := by
  induction hwoven generalizing chunks merged base with
  | nil =>
    obtain rfl := List.map_eq_nil_iff.mp hchunks.symm
    rw [List.flatten_nil, appendTo_nil]
  | @left other others parts mixed _ ih =>
    rw [List.forall_mem_cons] at hothers
    rw [addParts, addParts, Reported.outcome_bind, Reported.outcome_bind,
      addPart_appendTo hothers.1]
    cases hstep : (addPart merged other).outcome with
    | error cause => rfl
    | ok next =>
      exact ih hothers.2 hcolumns hlogical hchunks (hfound.addPart hothers.1 hstep)
  | @right part others parts mixed _ ih =>
    rw [List.forall_mem_cons] at hcolumns hlogical
    rw [List.map_cons] at hchunks
    obtain ⟨chunk, rest, rfl, hpart, hrest⟩ := List.map_eq_cons_iff.mp hchunks.symm
    rw [addParts, Reported.outcome_bind,
      hfound.addPart_chunk hrows hcolumns.1 hlogical.1 hpart.symm, List.flatten_cons,
      ← appendTo_appendTo]
    exact ih hothers hcolumns.2 hlogical.2 hrest.symm (hfound.appendTo chunk)

/-! ## Splitting one sheet of many -/

/-- One sheet, whose name has no underscore and is the logical name of no other, is cut into parts:
the first takes its place, the others follow in order, anywhere behind it. -/
inductive SplitInto : List Sheet → List Sheet → Prop
  | cut {before after later mixed : List Sheet} {sheet first : Sheet}
      (hname : '_' ∉ sheet.name.toList)
      (hothers : ∀ other ∈ before ++ after, logicalName? other.name ≠ some sheet.name)
      (hrows : sheet.isEnumeration = true ∨ sheet.rows ≠ [])
      (hparts : sheet.CutInto (first :: later)) (hmixed : Woven after later mixed) :
      SplitInto (before ++ sheet :: after) (before ++ first :: mixed)

namespace CutInto

variable {sheet first : Sheet} {later : List Sheet}

/-- The rows of the sheet are those of its parts. -/
theorem mem_rows_iff (h : sheet.CutInto (first :: later)) {row : List String} :
    row ∈ sheet.rows ↔ ∃ part ∈ first :: later, row ∈ part.rows := by
  obtain ⟨chunks, hchunks, hrows⟩ := h.rows_cut
  have hpart : ∀ rows, (∃ chunk ∈ chunks, sheet.repeatedRows ++ chunk = rows) ↔
      ∃ part ∈ first :: later, part.rows = rows := by
    intro rows
    rw [← List.mem_map, ← List.mem_map, hchunks]
  rw [hrows, List.mem_append, List.mem_flatten]
  constructor
  · rintro (hrepeated | ⟨chunk, hchunk, hrow⟩)
    · -- the rows that are repeated are in the first part as in all others
      obtain ⟨chunk, -, hfirst⟩ := (hpart first.rows).mpr ⟨first, List.mem_cons_self, rfl⟩
      exact ⟨first, List.mem_cons_self, hfirst ▸ List.mem_append_left chunk hrepeated⟩
    · obtain ⟨part, hmem, heq⟩ := (hpart _).mp ⟨chunk, hchunk, rfl⟩
      exact ⟨part, hmem, heq ▸ List.mem_append_right _ hrow⟩
  · rintro ⟨part, hmem, hrow⟩
    obtain ⟨chunk, hchunk, heq⟩ := (hpart _).mpr ⟨part, hmem, rfl⟩
    rw [← heq, List.mem_append] at hrow
    exact hrow.imp_right fun hrow => ⟨chunk, hchunk, hrow⟩

/-- The parts have their shapes where the sheet has its shape. -/
theorem shaped_iff (h : sheet.CutInto (first :: later)) :
    (∀ part ∈ first :: later, part.Shaped) ↔ sheet.Shaped := by
  constructor
  · intro hshaped
    have hcolumns := h.columns_eq first List.mem_cons_self
    refine ⟨hcolumns ▸ (hshaped first List.mem_cons_self).columns_nodup, ?_⟩
    intro row hrow
    obtain ⟨part, hpart, hmem⟩ := h.mem_rows_iff.mp hrow
    rw [← h.columns_eq part hpart]
    exact (hshaped part hpart).row_length row hmem
  · rintro ⟨hnodup, hlength⟩ part hpart
    refine ⟨(h.columns_eq part hpart).symm ▸ hnodup, ?_⟩
    intro row hrow
    rw [h.columns_eq part hpart]
    exact hlength row (h.mem_rows_iff.mpr ⟨part, hpart, hrow⟩)

end CutInto

/-- Names of one logical name are different from all others. -/
theorem nodup_names_append_iff {parts others : List Sheet} {logical : String}
    (hparts : (parts.map (·.name)).Nodup)
    (hlogical : ∀ part ∈ parts, logicalName? part.name = some logical)
    (hothers : ∀ other ∈ others, logicalName? other.name ≠ some logical) :
    ((parts ++ others).map (·.name)).Nodup ↔ (others.map (·.name)).Nodup := by
  rw [List.map_append, List.nodup_append]
  constructor
  · exact fun h => h.2.1
  · intro h
    refine ⟨hparts, h, ?_⟩
    intro name hname otherName hother heq
    obtain ⟨part, hpart, rfl⟩ := List.mem_map.mp hname
    obtain ⟨other, hmem, rfl⟩ := List.mem_map.mp hother
    exact hothers other hmem (heq ▸ hlogical part hpart)

namespace SplitInto

variable {sheets split : List Sheet}

/-- Sheets pass the checks where their parts pass them. -/
theorem checkAll_iff (h : SplitInto sheets split) :
    checkAll [] split = .ok () ↔ checkAll [] sheets = .ok () := by
  cases h with
  | @cut before after later mixed sheet first hname hothers hrows hparts hmixed =>
    -- parts and others stand in some order, and the checks do not depend on it
    have hsplit : (before ++ first :: mixed).Perm ((first :: later) ++ (before ++ after)) :=
      ((hmixed.perm.cons first).append_left before).trans
        (List.perm_append_comm_assoc before (first :: later) after)
    have hwhole : (before ++ sheet :: after).Perm (sheet :: (before ++ after)) :=
      List.perm_middle
    have hshaped : (∀ part ∈ before ++ first :: mixed, part.Shaped) ↔
        ∀ part ∈ before ++ sheet :: after, part.Shaped := by
      simp only [hsplit.mem_iff, hwhole.mem_iff]
      rw [List.forall_mem_append, hparts.shaped_iff, List.forall_mem_cons]
    have hnames : ((before ++ first :: mixed).map (·.name)).Nodup ↔
        ((before ++ sheet :: after).map (·.name)).Nodup := by
      have hsheet : ∀ part ∈ [sheet], logicalName? part.name = some sheet.name := by
        intro part hpart
        rw [List.mem_singleton.mp hpart]
        exact logicalName?_of_not_mem hname
      rw [(hsplit.map _).nodup_iff, (hwhole.map _).nodup_iff,
        nodup_names_append_iff hparts.names_nodup hparts.logical_eq hothers]
      have hone : ([sheet].map (·.name)).Nodup := List.nodup_singleton _
      exact (nodup_names_append_iff hone hsheet hothers).symm
    rw [checkAll_eq_ok, checkAll_eq_ok, hshaped, hnames]
    simp only [List.not_mem_nil, not_false_eq_true, implies_true, and_true]

/-- Parts that are added come to the same sheets, or to the same fault. -/
theorem outcome_addParts (h : SplitInto sheets split) :
    (addParts [] split).outcome = (addParts [] sheets).outcome := by
  cases h with
  | @cut before after later mixed sheet first hname hothers hrows hparts hmixed =>
    rw [outcome_addParts_append, outcome_addParts_append]
    cases hbefore : (addParts [] before).outcome with
    | error cause => rfl
    | ok merged =>
      have hlogical := logicalName?_of_not_mem hname
      have hfirst := hparts.logical_eq first List.mem_cons_self
      -- no sheet of the name is there before the first part
      have hnone : merged.find? (·.name = sheet.name) = none := by
        refine List.find?_eq_none.mpr ?_
        intro base hbase hsame
        obtain ⟨opening, others, hparts, -⟩ := (addParts_gathered hbefore).made base hbase
        have hmem : opening ∈ partsOf base.name before := hparts ▸ List.mem_cons_self
        obtain ⟨hopening, hname⟩ := List.mem_filter.mp hmem
        refine hothers opening (List.mem_append_left _ hopening) ?_
        rw [← of_decide_eq_true hsame]
        exact of_decide_eq_true hname
      obtain ⟨chunks, hchunks, hsheet⟩ := hparts.rows_cut
      rw [List.map_cons] at hchunks
      obtain ⟨chunk, rest, rfl, hchunk, hrest⟩ := List.map_eq_cons_iff.mp hchunks.symm
      -- the first part lacks the rows of the later ones
      have hopened : appendTo sheet.name rest.flatten
          (merged ++ [{ first with name := sheet.name }]) = merged ++ [sheet] := by
        have hrows : first.rows ++ rest.flatten = sheet.rows := by
          rw [← hchunk, List.append_assoc, hsheet, List.flatten_cons]
        rw [appendTo_concat_of_none hnone, hrows, hparts.columns_eq first List.mem_cons_self]
      have hfound : sheet.FoundIn (merged ++ [{ first with name := sheet.name }])
          { first with name := sheet.name } := by
        refine ⟨?_, hparts.columns_eq first List.mem_cons_self, chunk, hchunk⟩
        rw [List.find?_append, hnone, Option.none_or]
        exact List.find?_cons_of_pos (decide_eq_true rfl)
      show (addParts merged (first :: mixed)).outcome = (addParts merged (sheet :: after)).outcome
      rw [addParts, addParts, Reported.outcome_bind, Reported.outcome_bind, outcome_addPart,
        outcome_addPart, hfirst, hlogical]
      simp only [hnone]
      show (addParts (merged ++ [{ first with name := sheet.name }]) mixed).outcome =
        (addParts (merged ++ [sheet]) after).outcome
      rw [← hopened]
      exact outcome_addParts_woven hmixed hrows
        (fun other hother => hothers other (List.mem_append_right _ hother))
        (fun part hpart => hparts.columns_eq part (List.mem_cons_of_mem _ hpart))
        (fun part hpart => hparts.logical_eq part (List.mem_cons_of_mem _ hpart))
        hrest.symm hfound

end SplitInto

end Sheet

namespace Workbook

variable {workbook split : Workbook}

/-! ## Splitting a sheet of a workbook -/

/-- One sheet of the workbook is split; the time of export stays. -/
structure SplitInto (workbook split : Workbook) : Prop where
  sheets_split : Sheet.SplitInto workbook.sheets split.sheets
  exportedAt_eq : split.exportedAt = workbook.exportedAt

/-- A split workbook is merged to what the workbook is merged to. -/
theorem SplitInto.merge_iff (h : workbook.SplitInto split) (merged : Workbook) :
    split.merge.outcome = .ok merged ↔ workbook.merge.outcome = .ok merged := by
  have hadded := h.sheets_split.outcome_addParts
  have hchecked := h.sheets_split.checkAll_iff
  rw [Sheet.checkAll_eq_ok, Sheet.checkAll_eq_ok] at hchecked
  simp only [List.not_mem_nil, not_false_eq_true, implies_true, and_true] at hchecked
  rw [merge_eq_ok, merge_eq_ok, hadded, h.exportedAt_eq, ← and_assoc, hchecked, and_assoc]

/-- Compiling sees of a workbook only what it is merged to. -/
theorem outcome_compile (workbook : Workbook) (config : Config) (platforms : List Platform) :
    (workbook.compile config platforms).outcome =
      workbook.merge.outcome.mapError CompileError.merge >>= fun merged =>
        (Reported.forEach (merged.artifactsFor config) platforms).outcome := by
  unfold compile
  rw [Reported.outcome_bind, Reported.outcome_mapError]
  simp only [Reported.outcome_bind, Reported.outcome_report]
  rfl

/-- Splitting a sheet changes no artifact: the split workbook compiles where the workbook does, to
the same artifacts; and where the sheets can be merged, a fault that comes later is the same too. -/
theorem compile_of_splitInto (h : workbook.SplitInto split) (config : Config)
    (platforms : List Platform) :
    (∀ compiled, (split.compile config platforms).outcome = .ok compiled ↔
      (workbook.compile config platforms).outcome = .ok compiled) ∧
      ((∃ merged, workbook.merge.outcome = .ok merged) →
        (split.compile config platforms).outcome =
          (workbook.compile config platforms).outcome) := by
  constructor
  · intro compiled
    rw [compile_eq_ok, compile_eq_ok]
    simp only [h.merge_iff]
  · rintro ⟨merged, hmerge⟩
    rw [outcome_compile, outcome_compile, (h.merge_iff merged).mpr hmerge, hmerge]

/-! ### A sheet in three parts -/

/-- A data sheet of items with the given rows behind the type cells. -/
def itemSheet (name : String) (items : List (List String)) : Sheet where
  name := name
  columns := ["Id", "Grade"]
  rows := ["int32_cs", "Enum_Grade_cs"] :: items

/-- The grades of items. -/
def gradeSheet : Sheet :=
  ⟨"Grade", ["Enum", "Value", "Description"], [["Common", "", ""], ["Rare", "", ""]]⟩

/-- The items in one sheet. -/
def whole : Workbook where
  sheets := [itemSheet "Item" [["1", "Rare"], ["2", "Common"], ["3", "Rare"]], gradeSheet]
  exportedAt := none

/-- The items in three sheets, one of them without items, on both sides of the grades. -/
def inThreeParts : Workbook where
  sheets := [
    itemSheet "Item_Weapon" [["1", "Rare"]],
    itemSheet "Item_Armor" [],
    gradeSheet,
    itemSheet "Item_Potion" [["2", "Common"], ["3", "Rare"]]]
  exportedAt := none

theorem whole_splitInto : whole.SplitInto inThreeParts := by
  have hname : '_' ∉ "Item".toList := by decide
  have hothers : ∀ other ∈ [] ++ [gradeSheet], Sheet.logicalName? other.name ≠ some "Item" := by
    decide
  have hparts : (itemSheet "Item" [["1", "Rare"], ["2", "Common"], ["3", "Rare"]]).CutInto
      [itemSheet "Item_Weapon" [["1", "Rare"]], itemSheet "Item_Armor" [],
        itemSheet "Item_Potion" [["2", "Common"], ["3", "Rare"]]] := by
    refine ⟨by decide, by decide, by decide, ?_⟩
    exact ⟨[[["1", "Rare"]], [], [["2", "Common"], ["3", "Rare"]]], by decide, by decide⟩
  have hcut := Sheet.SplitInto.cut hname hothers (.inr (List.cons_ne_nil _ _)) hparts
    (.right (.left (.right .nil)))
  exact ⟨hcut, rfl⟩

/-- The three sheets have the artifacts of the one. -/
theorem whole_compile_inThreeParts :
    whole.SplitInto inThreeParts ∧ (∃ merged, whole.merge.outcome = .ok merged) ∧
      (inThreeParts.compile Config.standard [.server, .client]).outcome =
        (whole.compile Config.standard [.server, .client]).outcome := by
  have hmerge : whole.merge.outcome = .ok whole := by decide +kernel
  have hsame := compile_of_splitInto whole_splitInto Config.standard [.server, .client]
  exact ⟨whole_splitInto, ⟨whole, hmerge⟩, hsame.2 ⟨whole, hmerge⟩⟩

end Workbook

end GameSheets

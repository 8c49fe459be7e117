/-
  What merging knows of the type rows that it drops.

  A later part of a data sheet gives up its row 0: the merged sheet has one already.  Before that the
  two rows are compared, each written as one line with ", " between its cells, and the row on the
  other side is that of the sheet as it has been merged so far.  Three facts say what this is worth.

  1. Two rows of equally many cells that make one line are the same cells exactly where their cells
     hold the separator equally often (`eq_iff_of_rowText_eq`).  So a row whose cells are free of the
     separator is known from its line, and one with a comma in a comment is not:

       #old, | int32_s          and          #old | , int32_s

  2. The row 0 of the first part is row 0 of the merged sheet from the start to the end of the run,
     so that every later part is compared with it (`TypesKept`).
  3. A sheet without rows makes the empty line, which only one empty cell makes as well.  From two
     columns on, then, either all parts have a row 0 or none has (`row_of_line`).

  In a sheet of one column whose first part has no row, rows that were added take the place of the
  row 0 that is missing, and later parts are compared with them.
-/
import Mathlib
import GameSheets.Column.TypeCell
import GameSheets.Proofs.Workbook.Gathering

namespace GameSheets

namespace Sheet

/-! ## Lines of cells -/

/-- What stands between two cells of a line. -/
def separator : List Char := [',', ' ']

/-- How often the separator stands in a text. -/
def separators : List Char → Nat
  | [] => 0
  | c :: rest =>
    if separator.isPrefixOf (c :: rest) then separators rest + 1 else separators rest

theorem separators_eq_zero_iff {text : List Char} :
    separators text = 0 ↔ Text.occurs separator text = false := by
  induction text with
  | nil => simp [separators, Text.occurs, separator]
  | cons c rest ih =>
    rw [separators, Text.occurs]
    cases hstart : separator.isPrefixOf (c :: rest) with
    | true => simp
    | false => simpa using ih

/-- A text has the separators of the two texts around a separator, and that one. -/
theorem separators_append (text other : List Char) :
    separators (text ++ separator ++ other) = separators text + 1 + separators other := by
  induction text with
  | nil => simp [separators, separator]; omega
  | cons c rest ih =>
    -- the separator's own start is no comma and a blank, whatever stands before it
    have hstart : separator.isPrefixOf (c :: (rest ++ separator ++ other)) =
        separator.isPrefixOf (c :: rest) := by
      cases rest with
      | nil => simp [separator, List.isPrefixOf]
      | cons d rest => simp [separator, List.isPrefixOf]
    show separators (c :: (rest ++ separator ++ other)) = _
    rw [separators, separators, hstart, ih]
    split
    · omega
    · rfl

theorem toList_rowText_cons_cons (cell next : String) (rest : List String) :
    (rowText (cell :: next :: rest)).toList =
      cell.toList ++ separator ++ (rowText (next :: rest)).toList := by
  rw [rowText, String.intercalate_cons_cons, String.toList_append, String.toList_append]
  rfl

/-- A line has the separators of its cells, and one between any two. -/
theorem separators_rowText {row : List String} (h : row ≠ []) :
    separators (rowText row).toList + 1 =
      (row.map fun cell => separators cell.toList).sum + row.length := by
  induction row with
  | nil => exact absurd rfl h
  | cons cell rest ih =>
    cases rest with
    | nil =>
      rw [rowText, String.intercalate_singleton]
      simp
    | cons next rest =>
      have hrest := ih (List.cons_ne_nil next rest)
      rw [toList_rowText_cons_cons, separators_append, List.map_cons, List.sum_cons,
        List.length_cons]
      omega

/-- Of two texts with equally many separators, neither goes on behind the other's end with a
separator. -/
theorem eq_of_append_separator_eq {text other rest otherRest : List Char}
    (hline : text ++ separator ++ rest = other ++ separator ++ otherRest)
    (hcount : separators text = separators other) : text = other := by
  -- one of the two starts with the other
  have hlonger : ∀ {short long behind longBehind : List Char},
      short ++ separator ++ behind = long ++ separator ++ longBehind →
      separators short = separators long → short.length ≤ long.length → short = long := by
    intro short long behind longBehind heq hsame hlength
    rw [List.append_assoc, List.append_assoc] at heq
    obtain ⟨more, rfl⟩ : short <+: long :=
      List.prefix_of_prefix_length_le (List.prefix_append _ _)
        (heq ▸ List.prefix_append long _) hlength
    rw [List.append_assoc, List.append_cancel_left_eq] at heq
    rcases more with _ | ⟨c, _ | ⟨d, more⟩⟩
    · rw [List.append_nil]
    · -- a comma alone would be followed by a comma, not by a blank
      simp [separator] at heq
    · -- a separator in the longer text is one more than the shorter has
      simp only [separator, List.cons_append, List.nil_append, List.cons.injEq] at heq
      obtain ⟨rfl, rfl, -⟩ := heq
      have hmore : separators (short ++ separator ++ more) = separators short := by
        rw [hsame, List.append_assoc]
        rfl
      rw [separators_append] at hmore
      omega
  rcases Nat.le_total text.length other.length with hle | hle
  · exact hlonger hline hcount hle
  · exact (hlonger hline.symm hcount.symm hle).symm

/-- Rows that make one line are the same where their cells hold the separator equally often. -/
theorem eq_of_separators_eq {row other : List String} (hline : rowText row = rowText other)
    (hcount : (row.map fun cell => separators cell.toList) =
      other.map fun cell => separators cell.toList) : row = other := by
  induction row generalizing other with
  | nil =>
    rw [List.map_nil, eq_comm, List.map_eq_nil_iff] at hcount
    exact hcount.symm
  | cons cell rest ih =>
    cases other with
    | nil => cases hcount
    | cons otherCell otherRest =>
      rw [List.map_cons, List.map_cons, List.cons.injEq] at hcount
      obtain ⟨hhead, htail⟩ := hcount
      have hlength : rest.length = otherRest.length := by
        have hmapped := congrArg List.length htail
        rwa [List.length_map, List.length_map] at hmapped
      cases rest with
      | nil =>
        obtain rfl := List.length_eq_zero_iff.mp hlength.symm
        rw [rowText, rowText, String.intercalate_singleton, String.intercalate_singleton] at hline
        rw [hline]
      | cons next rest =>
        cases otherRest with
        | nil => cases hlength
        | cons otherNext otherRest =>
          have hchars := congrArg String.toList hline
          rw [toList_rowText_cons_cons, toList_rowText_cons_cons] at hchars
          have hcell := eq_of_append_separator_eq hchars hhead
          rw [hcell, List.append_cancel_left_eq] at hchars
          have hbehind := ih (String.toList_inj.mp hchars) htail
          rw [String.toList_inj.mp hcell, hbehind]

/-- What the line of a row tells of its cells. -/
theorem eq_iff_of_rowText_eq {row other : List String} (hline : rowText row = rowText other) :
    other = row ↔
      (other.map fun cell => separators cell.toList) =
        row.map fun cell => separators cell.toList := by
  constructor
  · rintro rfl
    rfl
  · intro hcount
    exact eq_of_separators_eq hline.symm hcount

/-- A row whose cells are free of the separator is known from its line and the number of cells. -/
theorem eq_of_rowText_eq {row other : List String} (hlength : other.length = row.length)
    (hline : rowText row = rowText other)
    (hfree : ∀ cell ∈ row, Text.occurs separator cell.toList = false) : other = row := by
  have hzero : ∀ cell ∈ row, separators cell.toList = 0 :=
    fun cell hcell => separators_eq_zero_iff.mpr (hfree cell hcell)
  by_cases hempty : row = []
  · rw [hempty] at hlength ⊢
    exact List.length_eq_zero_iff.mp hlength
  · have hother : other ≠ [] := by
      rintro rfl
      exact hempty (List.length_eq_zero_iff.mp hlength.symm)
    -- both lines have the separators between cells, and so there is none in a cell of the other
    have hsum : (row.map fun cell => separators cell.toList).sum = 0 := by
      rw [List.sum_eq_zero_iff]
      intro count hcount
      obtain ⟨cell, hcell, rfl⟩ := List.mem_map.mp hcount
      exact hzero cell hcell
    have hrow := separators_rowText hempty
    have hotherRow := separators_rowText hother
    rw [← hline] at hotherRow
    have hotherSum : (other.map fun cell => separators cell.toList).sum = 0 := by omega
    have hotherZero : ∀ cell ∈ other, separators cell.toList = 0 := by
      intro cell hcell
      exact List.sum_eq_zero_iff.mp hotherSum _ (List.mem_map.mpr ⟨cell, hcell, rfl⟩)
    refine (eq_iff_of_rowText_eq hline).mpr ?_
    rw [List.map_eq_replicate_iff.mpr hzero, List.map_eq_replicate_iff.mpr hotherZero, hlength]

/-- The empty line is made by no cell or by one empty cell. -/
theorem rowText_eq_empty_iff {row : List String} : rowText row = "" ↔ row = [] ∨ row = [""] := by
  cases row with
  | nil => simp [rowText]
  | cons cell rest =>
    cases rest with
    | nil => simp [rowText]
    | cons next rest =>
      have hne : rowText (cell :: next :: rest) ≠ "" := by
        intro hempty
        have hchars := congrArg String.toList hempty
        rw [toList_rowText_cons_cons] at hchars
        simp [separator] at hchars
      simp [hne]

/-! ## Type rows of the parts -/

/-- What the type cells of the first part tell of those of a later one. -/
structure SharesTypes (first part : Sheet) : Prop where
  /-- The row 0 of the first part makes the line of the later one. -/
  line_eq : ∀ row, first.typeRow? = some row → part.typeRowText = rowText row
  /-- A later part without rows stands beside a row 0 of one empty cell, or of none. -/
  missing : ∀ row, first.typeRow? = some row → part.typeRow? = none → row = [] ∨ row = [""]
  /-- The cells are the same where they hold the separator equally often. -/
  cells_eq_iff : ∀ row other, first.typeRow? = some row → part.typeRow? = some other →
    (other = row ↔
      (other.map fun cell => separators cell.toList) = row.map fun cell => separators cell.toList)
  /-- So they are where those of the first part are free of it. -/
  cells_eq : ∀ row other, first.typeRow? = some row → part.typeRow? = some other →
    (∀ cell ∈ row, Text.occurs separator cell.toList = false) → other = row
  /-- From two columns on, both parts have a row 0 or neither has. -/
  present_iff : 2 ≤ first.columns.length → (part.typeRow? = none ↔ first.typeRow? = none)

/-- What the run has kept of the type rows of the parts of a sheet. -/
structure TypesKept (sheet first : Sheet) (later : List Sheet) : Prop where
  columns_eq : ∀ part ∈ later, part.columns = first.columns
  /-- The row 0 of the first part is that of the sheet. -/
  kept : ∀ row, first.typeRow? = some row → sheet.typeRow? = some row
  /-- Each part was compared with the sheet, or with the empty line before the sheet had a row. -/
  line : ∀ part ∈ later, part.typeRowText = sheet.typeRowText ∨
    first.typeRow? = none ∧ part.typeRowText = ""
  /-- From two columns on, a row makes a line that is not empty, and none has been added. -/
  absent : first.typeRow? = none → 2 ≤ first.columns.length →
    sheet.rows = [] ∧ ∀ part ∈ later, part.rows = []

theorem typeRow?_eq_none_iff {sheet : Sheet} : sheet.typeRow? = none ↔ sheet.rows = [] :=
  List.head?_eq_none_iff

theorem typeRowText_of_some {sheet : Sheet} {row : List String} (h : sheet.typeRow? = some row) :
    sheet.typeRowText = rowText row := by
  rw [typeRowText, h]
  rfl

theorem typeRowText_of_none {sheet : Sheet} (h : sheet.typeRow? = none) :
    sheet.typeRowText = "" := by
  rw [typeRowText, h]
  rfl

/-- From two columns on, only a sheet without rows has an empty line. -/
theorem Shaped.rows_eq_nil {sheet : Sheet} (hshaped : sheet.Shaped)
    (hcolumns : 2 ≤ sheet.columns.length) (hline : sheet.typeRowText = "") : sheet.rows = [] := by
  cases htypes : sheet.typeRow? with
  | none => exact typeRow?_eq_none_iff.mp htypes
  | some row =>
    have hlength := hshaped.row_length row (List.mem_of_mem_head? htypes)
    rw [typeRowText_of_some htypes] at hline
    rcases rowText_eq_empty_iff.mp hline with rfl | rfl
    · simp at hlength
      omega
    · simp at hlength
      omega

namespace TypesKept

variable {sheet first part : Sheet} {later : List Sheet}

/-- A part that opens a sheet gives it its own row 0. -/
theorem opening (name : String) : TypesKept { part with name := name } part [] where
  columns_eq := fun _ h => absurd h List.not_mem_nil
  kept := fun _ h => h
  line := fun _ h => absurd h List.not_mem_nil
  absent := fun hnone _ => ⟨typeRow?_eq_none_iff.mp hnone, fun _ h => absurd h List.not_mem_nil⟩

/-- A part that passes the check leaves the row 0 of the sheet as it is. -/
theorem append (h : TypesKept sheet first later) (hmade : sheet.MadeOf first later)
    (hpart : part.Shaped) (hkind : sheet.isEnumeration = false) {rows : List (List String)}
    (hrows : rowsToAppend sheet part = .ok rows) :
    TypesKept { sheet with rows := sheet.rows ++ rows } first (later ++ [part]) := by
  obtain ⟨hcolumns, ⟨henum, -⟩ | ⟨-, hline, rfl⟩⟩ := rowsToAppend_eq_ok.mp hrows
  · rw [hkind] at henum
    cases henum
  · have hsame : ∀ row, sheet.typeRow? = some row →
        ({ sheet with rows := sheet.rows ++ part.dataRows } : Sheet).typeRow? = some row := by
      intro row hrow
      show (sheet.rows ++ part.dataRows).head? = some row
      rw [List.head?_append, show sheet.rows.head? = some row from hrow]
      rfl
    have hpartColumns : part.columns = first.columns := by
      rw [← hcolumns, hmade.columns_eq]
    refine ⟨?_, fun row hrow => hsame row (h.kept row hrow), ?_, ?_⟩
    · intro other hother
      rcases List.mem_append.mp hother with hold | hnew
      · exact h.columns_eq other hold
      · obtain rfl := List.mem_singleton.mp hnew
        exact hpartColumns
    · intro other hother
      cases htypes : sheet.typeRow? with
      | some row =>
        rw [typeRowText_of_some (hsame row htypes), ← typeRowText_of_some htypes]
        rcases List.mem_append.mp hother with hold | hnew
        · exact h.line other hold
        · obtain rfl := List.mem_singleton.mp hnew
          exact .inl hline.symm
      | none =>
        -- the sheet has no row yet, and so its first part has none
        have hempty := typeRowText_of_none htypes
        have hfirst : first.typeRow? = none := by
          cases hfirstTypes : first.typeRow? with
          | none => rfl
          | some row =>
            rw [h.kept row hfirstTypes] at htypes
            cases htypes
        refine .inr ⟨hfirst, ?_⟩
        rcases List.mem_append.mp hother with hold | hnew
        · rcases h.line other hold with heq | ⟨-, heq⟩
          · rw [heq, hempty]
          · exact heq
        · obtain rfl := List.mem_singleton.mp hnew
          rw [← hline, hempty]
    · intro hnone hwide
      obtain ⟨hsheetRows, holdRows⟩ := h.absent hnone hwide
      have hpartWide : 2 ≤ part.columns.length := hpartColumns ▸ hwide
      have hpartRows : part.rows = [] := by
        refine hpart.rows_eq_nil hpartWide ?_
        rw [← hline, typeRowText_of_none (typeRow?_eq_none_iff.mpr hsheetRows)]
      refine ⟨?_, ?_⟩
      · show sheet.rows ++ part.rows.tail = []
        rw [hsheetRows, hpartRows]
        rfl
      · intro other hother
        rcases List.mem_append.mp hother with hold | hnew
        · exact holdRows other hold
        · obtain rfl := List.mem_singleton.mp hnew
          exact hpartRows

/-- Each later part shares the type cells of the first as far as its line tells. -/
theorem sharesTypes (h : TypesKept sheet first later) (hfirst : first.Shaped)
    (hpart : part.Shaped) (hmem : part ∈ later) : first.SharesTypes part := by
  have hline : ∀ row, first.typeRow? = some row → part.typeRowText = rowText row := by
    intro row hrow
    rcases h.line part hmem with heq | ⟨hnone, -⟩
    · rw [heq, typeRowText_of_some (h.kept row hrow)]
    · rw [hrow] at hnone
      cases hnone
  have hrows : ∀ row other, first.typeRow? = some row → part.typeRow? = some other →
      rowText row = rowText other := by
    intro row other hrow hother
    rw [← hline row hrow, typeRowText_of_some hother]
  have hmissing : ∀ row, first.typeRow? = some row → part.typeRow? = none →
      row = [] ∨ row = [""] := by
    intro row hrow hnone
    rw [← rowText_eq_empty_iff, ← hline row hrow, typeRowText_of_none hnone]
  refine ⟨hline, hmissing, ?_, ?_, ?_⟩
  · intro row other hrow hother
    exact eq_iff_of_rowText_eq (hrows row other hrow hother)
  · intro row other hrow hother hfree
    refine eq_of_rowText_eq ?_ (hrows row other hrow hother) hfree
    rw [hpart.row_length other (List.mem_of_mem_head? hother),
      hfirst.row_length row (List.mem_of_mem_head? hrow), h.columns_eq part hmem]
  · intro hwide
    constructor
    · intro hnone
      cases hfirstTypes : first.typeRow? with
      | none => rfl
      | some row =>
        have hlength := hfirst.row_length row (List.mem_of_mem_head? hfirstTypes)
        rcases hmissing row hfirstTypes hnone with rfl | rfl
        · simp at hlength
          omega
        · simp at hlength
          omega
    · intro hnone
      exact typeRow?_eq_none_iff.mpr ((h.absent hnone hwide).2 part hmem)

end TypesKept

/-! ## Runs -/

/-- What the run has kept of the type rows of all sheets but those of symbols. -/
def TypeRowsKept (parts merged : List Sheet) : Prop :=
  ∀ sheet ∈ merged, sheet.isEnumeration = false → ∀ first later,
    partsOf sheet.name parts = first :: later → TypesKept sheet first later

namespace TypeRowsKept

variable {parts merged : List Sheet} {events : List Event} {part : Sheet}

/-- A part opens a sheet. -/
theorem first (h : TypeRowsKept parts merged) (hgathered : Gathered parts events merged)
    {logical : String} (hlogical : logicalName? part.name = some logical)
    (hnew : ∀ sheet ∈ merged, sheet.name ≠ logical) :
    TypeRowsKept (parts ++ [part]) (merged ++ [{ part with name := logical }]) := by
  intro sheet hsheet hkind opening others hparts
  rw [partsOf_concat, hlogical] at hparts
  rcases List.mem_append.mp hsheet with hold | hpart
  · rw [if_neg (fun heq => hnew sheet hold (Option.some.inj heq).symm)] at hparts
    exact h sheet hold hkind opening others hparts
  · obtain rfl := List.mem_singleton.mp hpart
    rw [if_pos rfl, hgathered.partsOf_eq_nil hnew, List.nil_append, List.cons.injEq] at hparts
    obtain ⟨rfl, rfl⟩ := hparts
    exact .opening logical

/-- A part adds its rows to a sheet. -/
theorem later (h : TypeRowsKept parts merged) (hgathered : Gathered parts events merged)
    (hshaped : part.Shaped) {base : Sheet} {rows : List (List String)}
    (hlogical : logicalName? part.name = some base.name) (hbase : base ∈ merged)
    (hrows : rowsToAppend base part = .ok rows) :
    TypeRowsKept (parts ++ [part]) (appendTo base.name rows merged) := by
  intro sheet hsheet hkind opening others hparts
  rw [partsOf_concat, hlogical] at hparts
  rcases mem_appendTo hgathered.names_nodup hbase hsheet with rfl | ⟨hold, hname⟩
  · obtain ⟨start, added, hstart, hmade⟩ := hgathered.made base hbase
    rw [if_pos rfl, hstart, List.cons_append, List.cons.injEq] at hparts
    obtain ⟨rfl, rfl⟩ := hparts
    exact (h base hbase hkind start added hstart).append hmade hshaped hkind hrows
  · rw [if_neg (fun heq => hname (Option.some.inj heq).symm)] at hparts
    exact h sheet hold hkind opening others hparts

end TypeRowsKept

/-- What has been gathered, and of sheets of their shapes, what has been kept of the type rows. -/
structure GatheredTypes (parts : List Sheet) (events : List Event) (merged : List Sheet) :
    Prop where
  gathered : Gathered parts events merged
  kept : (∀ part ∈ parts, part.Shaped) → TypeRowsKept parts merged

theorem gatheredTypes_nil : GatheredTypes [] [] [] :=
  ⟨gathered_nil, fun _ _ h => absurd h List.not_mem_nil⟩

/-- A run keeps the type rows of its parts. -/
theorem addParts_gatheredTypes {parts merged : List Sheet}
    (hrun : (addParts [] parts).outcome = .ok merged) :
    GatheredTypes parts (addParts [] parts).events merged := by
  refine addParts_keeps_reported (P := GatheredTypes) ?_ [] gatheredTypes_nil hrun
  rintro parts events merged part event result ⟨hgathered, hkept⟩ hreported
  cases hreported with
  | first hlogical hnew =>
    refine ⟨hgathered.first hlogical hnew, ?_⟩
    intro hshaped
    rw [List.forall_mem_append] at hshaped
    exact (hkept hshaped.1).first hgathered hlogical hnew
  | later hlogical hbase hrows =>
    refine ⟨hgathered.later hlogical hbase hrows, ?_⟩
    intro hshaped
    rw [List.forall_mem_append] at hshaped
    have hpart : part.Shaped := hshaped.2 part (List.mem_singleton.mpr rfl)
    exact (hkept hshaped.1).later hgathered hpart hlogical hbase hrows

end Sheet

namespace Workbook

/-- Where sheets are merged, the parts of a sheet that does not hold symbols share their type rows:
that of the first part is kept, and the later parts' make the same line. -/
theorem typeRows_shared {workbook merged : Workbook} (hmerge : workbook.merge.outcome = .ok merged)
    {logical : String} {first : Sheet} {later : List Sheet}
    (hparts : Sheet.partsOf logical workbook.sheets = first :: later)
    (hkind : first.isEnumeration = false) :
    ∃ sheet ∈ merged.sheets, sheet.name = logical ∧ sheet.TypesKept first later ∧
      ∀ part ∈ later, first.SharesTypes part := by
  obtain ⟨hshaped, -, hsheets, -⟩ := merge_eq_ok.mp hmerge
  obtain ⟨hgathered, htypes⟩ := Sheet.addParts_gatheredTypes hsheets
  have hmem : ∀ part ∈ first :: later, part ∈ workbook.sheets := by
    intro part hpart
    rw [← hparts] at hpart
    exact List.mem_of_mem_filter hpart
  have hlogical : Sheet.logicalName? first.name = some logical := by
    have hfirst : first ∈ Sheet.partsOf logical workbook.sheets := by
      rw [hparts]
      exact List.mem_cons_self
    simpa using (List.mem_filter.mp hfirst).2
  -- the name of the first part has its merged sheet
  obtain ⟨sheet, hsheet, rfl⟩ : ∃ sheet ∈ merged.sheets, sheet.name = logical := by
    by_contra hnone
    push Not at hnone
    exact hgathered.logicalName?_ne hnone first (hmem first List.mem_cons_self) hlogical
  obtain ⟨start, others, hstart, hmade⟩ := hgathered.made sheet hsheet
  rw [hparts, List.cons.injEq] at hstart
  obtain ⟨rfl, rfl⟩ := hstart
  have hsheetKind : sheet.isEnumeration = false := by
    rw [Sheet.isEnumeration, ← hmade.kind_eq first List.mem_cons_self]
    exact hkind
  have hkept : sheet.TypesKept first later :=
    htypes hshaped sheet hsheet hsheetKind first later hparts
  refine ⟨sheet, hsheet, rfl, hkept, ?_⟩
  intro part hpart
  exact hkept.sharesTypes (hshaped first (hmem first List.mem_cons_self))
    (hshaped part (hmem part (List.mem_cons_of_mem _ hpart))) hpart

/-! ### Parts with commas in their type rows -/

/-- A part of a sheet of items, with a power and a note. -/
def notedPart (name : String) (typeRow row : List String) : Sheet where
  name := name
  columns := ["Id", "Memo", "Power", "Note"]
  rows := [typeRow, row]

/-- Two parts of one type row, which has a comma in a comment, and symbols between them. -/
def notedParts : Workbook where
  sheets := [
    notedPart "Item_Weapon" ["int32_cs", "#old, unused", "int32_cs", "string_c"]
      ["1", "x", "10", "sharp"],
    ⟨"Grade", ["Enum", "Value", "Description"], [["Common", "", ""]]⟩,
    notedPart "Item_Armor" ["int32_cs", "#old, unused", "int32_cs", "string_c"]
      ["2", "y", "20", "heavy"]]
  exportedAt := none

/-- The parts merged. -/
def notedItems : Workbook where
  sheets := [
    { name := "Item"
      columns := ["Id", "Memo", "Power", "Note"]
      rows := [["int32_cs", "#old, unused", "int32_cs", "string_c"],
        ["1", "x", "10", "sharp"], ["2", "y", "20", "heavy"]] },
    ⟨"Grade", ["Enum", "Value", "Description"], [["Common", "", ""]]⟩]
  exportedAt := none

theorem notedParts_shared :
    ∃ first part sheet, notedParts.merge.outcome = .ok notedItems ∧
      Sheet.partsOf "Item" notedParts.sheets = [first, part] ∧ first.isEnumeration = false ∧
      sheet ∈ notedItems.sheets ∧ sheet.name = "Item" ∧ sheet.TypesKept first [part] ∧
      first.SharesTypes part := by
  have hmerge : notedParts.merge.outcome = .ok notedItems := by decide +kernel
  have hparts : Sheet.partsOf "Item" notedParts.sheets =
      [notedParts.sheets[0], notedParts.sheets[2]] := by decide +kernel
  have hkind : notedParts.sheets[0].isEnumeration = false := by decide +kernel
  obtain ⟨sheet, hsheet, hname, hkept, hshares⟩ := typeRows_shared hmerge hparts hkind
  exact ⟨_, _, sheet, hmerge, hparts, hkind, hsheet, hname, hkept,
    hshares _ List.mem_cons_self⟩

/-- Two parts whose comments are cut at different places: the second has a note for both platforms
and no power. -/
def shiftedParts : Workbook where
  sheets := [
    notedPart "Item_Weapon" ["int32_cs", "#old", "int32_cs", "#text, string_cs"]
      ["1", "x", "10", "sharp"],
    notedPart "Item_Armor" ["int32_cs", "#old, int32_cs", "#text", "string_cs"]
      ["2", "y", "20", "heavy"]]
  exportedAt := none

/-- The parts merged: all rows have a power and no note. -/
def shiftedItems : Sheet where
  name := "Item"
  columns := ["Id", "Memo", "Power", "Note"]
  rows := [["int32_cs", "#old", "int32_cs", "#text, string_cs"],
    ["1", "x", "10", "sharp"], ["2", "y", "20", "heavy"]]

/-- Three parts of one column.  The first has no row; the second row of the second part becomes the
row of type cells, with which the third is compared. -/
def rowlessParts : Workbook where
  sheets := [
    ⟨"Shop_North", ["Id"], []⟩,
    ⟨"Shop_East", ["Id"], [[""], ["int32_s"]]⟩,
    ⟨"Shop_South", ["Id"], [["int32_s"], ["5"]]⟩]
  exportedAt := none

/-- Parts are merged though one declares a column that the other has for a comment, and though one
has no row 0, the other an empty one and the third that of another line. -/
theorem typeRows_differ :
    (∃ first part, shiftedParts.merge.outcome = .ok ⟨[shiftedItems], none⟩ ∧
      Sheet.partsOf "Item" shiftedParts.sheets = [first, part] ∧ first.isEnumeration = false ∧
      part.typeRow? ≠ first.typeRow? ∧
      TypeCell.read "Note" (Sheet.cellAt (part.typeRow?.getD []) 3) =
        .ok (.typed .string false true true) ∧
      TypeCell.read "Note" (Sheet.cellAt (shiftedItems.typeRow?.getD []) 3) =
        .ok (.comment "#text, string_cs")) ∧
    ∃ first second third,
      rowlessParts.merge.outcome = .ok ⟨[⟨"Shop", ["Id"], [["int32_s"], ["5"]]⟩], none⟩ ∧
      Sheet.partsOf "Shop" rowlessParts.sheets = [first, second, third] ∧
      first.isEnumeration = false ∧ first.typeRow? = none ∧ second.typeRow? = some [""] ∧
      third.typeRow? = some ["int32_s"] := by
  refine ⟨⟨shiftedParts.sheets[0], shiftedParts.sheets[1], ?_⟩,
    ⟨rowlessParts.sheets[0], rowlessParts.sheets[1], rowlessParts.sheets[2], ?_⟩⟩
  · decide +kernel
  · decide +kernel

end Workbook

end GameSheets

/-
  Columns that are comments can be left out.

  When columns are left out of a sheet together with their cells, those behind them move up: the
  column at a position goes to the number of positions before it that stay (`Omission.newPlace`),
  and so does its cell in every row.  Where only comments are left out, nothing that is made of the
  sheet can tell:

  1. the schema has the columns that stay, moved (`Sheet.schema_withoutColumns`), and fails alike,
     since comments have no faults;
  2. the kept columns are the same ones, moved, for no comment is kept; and a key's group has the
     same members, moved, for the columns of a group have the comment mark of its key, or none;
  3. a moved column reads in a shortened row what it read before (`KeptColumn.read_moved`), and
     declares the same field and the same assignments.
-/
import Mathlib.Data.Nat.Count
import GameSheets.Proofs.Column.TypeCells
import GameSheets.Proofs.Declaration.Groups
import GameSheets.Proofs.Table.Refining

namespace GameSheets

/-! ## Leaving out items -/

namespace Omission

variable {α β : Type} {dropped : Nat → Bool}

/-- The items at the positions that are not dropped. -/
def leaveOut (dropped : Nat → Bool) : List α → List α
  | [] => []
  | item :: rest =>
    if dropped 0 then leaveOut (fun position => dropped (position + 1)) rest
    else item :: leaveOut (fun position => dropped (position + 1)) rest

/-- Where the item at a position goes: behind as many items as stay before it. -/
def newPlace (dropped : Nat → Bool) (position : Nat) : Nat :=
  Nat.count (fun other => dropped other = false) position

/-- The first item stays first, unless it is dropped. -/
theorem newPlace_zero : newPlace dropped 0 = 0 :=
  Nat.count_zero _

/-- Behind a first item that is dropped, places are those of the rest. -/
theorem newPlace_succ_of_dropped (hfirst : dropped 0 = true) (position : Nat) :
    newPlace dropped (position + 1) = newPlace (fun other => dropped (other + 1)) position := by
  rw [newPlace, Nat.count_succ', if_neg (by rw [hfirst]; decide)]
  rfl

/-- Behind a first item that stays, places are those of the rest, one further. -/
theorem newPlace_succ_of_stays (hfirst : dropped 0 = false) (position : Nat) :
    newPlace dropped (position + 1) = newPlace (fun other => dropped (other + 1)) position + 1 := by
  rw [newPlace, Nat.count_succ', if_pos hfirst]
  rfl

/-- An item that stays is found at its new place. -/
theorem getElem?_leaveOut {items : List α} {position : Nat} (hstays : dropped position = false) :
    (leaveOut dropped items)[newPlace dropped position]? = items[position]? := by
  induction items generalizing dropped position with
  | nil => rfl
  | cons item rest ih =>
    rw [leaveOut]
    cases position with
    | zero =>
      rw [hstays, newPlace_zero]
      rfl
    | succ position =>
      cases hfirst : dropped 0 with
      | true =>
        rw [newPlace_succ_of_dropped hfirst]
        exact ih hstays
      | false =>
        rw [newPlace_succ_of_stays hfirst]
        exact ih hstays

theorem leaveOut_zip (items : List α) (others : List β) :
    (leaveOut dropped items).zip (leaveOut dropped others) =
      leaveOut dropped (items.zip others) := by
  induction items generalizing dropped others with
  | nil => rfl
  | cons item rest ih =>
    cases others with
    | nil => rw [leaveOut, List.zip_nil_right, List.zip_nil_right, leaveOut]
    | cons other others =>
      rw [List.zip_cons_cons, leaveOut, leaveOut, leaveOut]
      cases dropped 0 with
      | true => exact ih others
      | false => exact congrArg _ (ih others)

/-- What is dropped of the items has the property. -/
def Drops (dropped : Nat → Bool) (P : α → Prop) (items : List α) : Prop :=
  ∀ position item, dropped position = true → items[position]? = some item → P item

theorem Drops.head {P : α → Prop} {item : α} {rest : List α} (h : Drops dropped P (item :: rest))
    (hfirst : dropped 0 = true) : P item :=
  h 0 item hfirst rfl

theorem Drops.tail {P : α → Prop} {item : α} {rest : List α} (h : Drops dropped P (item :: rest)) :
    Drops (fun position => dropped (position + 1)) P rest :=
  fun position other hdropped hother => h (position + 1) other hdropped hother

theorem Drops.imp {P Q : α → Prop} {items : List α} (h : Drops dropped P items)
    (hsub : ∀ item, P item → Q item) : Drops dropped Q items :=
  fun position item hdropped hitem => hsub item (h position item hdropped hitem)

/-- Nothing is lost of a selection that selects none of the items left out. -/
theorem filterMap_leaveOut {select : α → Option β} {items : List α}
    (h : Drops dropped (select · = none) items) :
    (leaveOut dropped items).filterMap select = items.filterMap select := by
  induction items generalizing dropped with
  | nil => rfl
  | cons item rest ih =>
    rw [leaveOut]
    cases hfirst : dropped 0 with
    | true =>
      rw [if_pos rfl, ih h.tail, List.filterMap_cons_none (h.head hfirst)]
    | false =>
      rw [if_neg (by decide), List.filterMap_cons, List.filterMap_cons, ih h.tail]

/-- What is selected of the items that stay moves along with them. -/
theorem filterMap_map_leaveOut {select : α → Option β} {move : α → α} {moved : β → β}
    {items : List α} (h : Drops dropped (select · = none) items)
    (hmove : ∀ item, select (move item) = (select item).map moved) :
    ((leaveOut dropped items).map move).filterMap select = (items.filterMap select).map moved :=
  calc ((leaveOut dropped items).map move).filterMap select
      = (leaveOut dropped items).filterMap fun item => (select item).map moved := by
        rw [List.filterMap_map]
        exact List.filterMap_congr fun item _ => hmove item
    _ = ((leaveOut dropped items).filterMap select).map moved := by rw [List.map_filterMap]
    _ = (items.filterMap select).map moved := by rw [filterMap_leaveOut h]

theorem filter_leaveOut {select : α → Bool} {items : List α}
    (h : Drops dropped (select · = false) items) :
    (leaveOut dropped items).filter select = items.filter select := by
  rw [← List.filterMap_eq_filter]
  refine filterMap_leaveOut (h.imp ?_)
  intro item hitem
  rw [Option.guard, hitem]
  rfl

end Omission

open Omission

/-! ## Moved columns -/

/-- The column at another position. -/
def Column.moved (place : Nat → Nat) (column : Column) : Column :=
  { column with position := place column.position }

/-- The kept column at another position. -/
def KeptColumn.moved (place : Nat → Nat) (column : KeptColumn) : KeptColumn :=
  { column with position := place column.position }

/-- The member of a group with its column at another position. -/
def GroupMember.moved (place : Nat → Nat) (member : GroupMember) : GroupMember :=
  { member with column := member.column.moved place }

@[simp]
theorem Column.name_moved {place : Nat → Nat} {column : Column} :
    (column.moved place).name = column.name := rfl

@[simp]
theorem KeptColumn.name_moved {place : Nat → Nat} {column : KeptColumn} :
    (column.moved place).name = column.name := rfl

theorem Column.keptOn?_moved {platform : Platform} {place : Nat → Nat} (column : Column) :
    (column.moved place).keptOn? platform =
      (column.keptOn? platform).map (KeptColumn.moved place) := by
  obtain ⟨position, name, declared, type⟩ := column
  cases type with
  | comment cell => rfl
  | typed base nullable onServer onClient =>
    unfold keptOn? moved
    cases (TypeCell.typed base nullable onServer onClient).includes platform with
    | true => rfl
    | false => rfl

/-! ### Groups of moved columns -/

namespace GroupMember

variable {platform : Platform} {place : Nat → Nat}

theorem of?_moved (key : String) (column : Column) :
    of? key (column.moved place) = (of? key column).map (GroupMember.moved place) := by
  unfold of?
  rw [Column.name_moved]
  cases Slot.ofName? column.name with
  | none => rfl
  | some slot =>
    dsimp only
    split
    · rfl
    · rfl

theorem firstDifference?_moved (model : GroupMember) (members : List GroupMember) :
    firstDifference? platform (model.moved place) (members.map (GroupMember.moved place)) =
      firstDifference? platform model members := by
  induction members with
  | nil => rfl
  | cons member rest ih =>
    rw [List.map_cons, firstDifference?, firstDifference?, ih]
    rfl

/-- The check of a group does not look at positions. -/
theorem fault?_moved (members : List GroupMember) :
    fault? platform (members.map (GroupMember.moved place)) = fault? platform members := by
  cases members with
  | nil => rfl
  | cons first rest =>
    have hindices : ((first :: rest).map (GroupMember.moved place)).map (·.index) =
        (first :: rest).map (·.index) := by
      rw [List.map_map]
      rfl
    have hdifference : firstDifference? platform (first.moved place)
          (rest.map (GroupMember.moved place)) = firstDifference? platform first rest :=
      firstDifference?_moved first rest
    rw [List.map_cons] at hindices ⊢
    rw [fault?, fault?, hindices, hdifference, List.length_cons, List.length_map,
      List.length_cons]

end GroupMember

/-! ## Sheets without comments -/

namespace Sheet

/-- The sheet without the columns at the dropped positions and without their cells. -/
def withoutColumns (dropped : Nat → Bool) (sheet : Sheet) : Sheet :=
  { sheet with
    columns := leaveOut dropped sheet.columns
    rows := sheet.rows.map (leaveOut dropped) }

@[simp]
theorem name_withoutColumns {dropped : Nat → Bool} {sheet : Sheet} :
    (sheet.withoutColumns dropped).name = sheet.name := rfl

@[simp]
theorem columns_withoutColumns {dropped : Nat → Bool} {sheet : Sheet} :
    (sheet.withoutColumns dropped).columns = leaveOut dropped sheet.columns := rfl

/-- The columns at the dropped positions have names that are comments. -/
def CommentsAt (dropped : Nat → Bool) (sheet : Sheet) : Prop :=
  Drops dropped (isComment · = true) sheet.columns

variable {dropped : Nat → Bool} {sheet : Sheet}

theorem typeRow?_withoutColumns :
    (sheet.withoutColumns dropped).typeRow? = sheet.typeRow?.map (leaveOut dropped) :=
  List.head?_map

theorem dataRows_withoutColumns :
    (sheet.withoutColumns dropped).dataRows = sheet.dataRows.map (leaveOut dropped) :=
  List.map_tail.symm

/-- The first column of a data sheet is no comment. -/
theorem CommentsAt.first_stays (h : sheet.CommentsAt dropped) (hdata : sheet.isData = true) :
    dropped 0 = false := by
  obtain ⟨others, hcolumns⟩ := columns_eq_of_isData hdata
  by_contra hdropped
  rw [Bool.not_eq_false] at hdropped
  have hcomment : isComment "Id" = true := h 0 "Id" hdropped (by rw [hcolumns]; rfl)
  exact absurd hcomment (by decide +kernel)

/-- A cell that stays is found in the shortened row where its column went. -/
theorem cellAt_leaveOut {row : List String} {position : Nat} (hstays : dropped position = false) :
    cellAt (leaveOut dropped row) (newPlace dropped position) = cellAt row position := by
  rw [cellAt, cellAt, getElem?_leaveOut hstays]

/-- The first cell stays first, where its column stays. -/
theorem cellAt_zero_leaveOut {row : List String} (hfirst : dropped 0 = false) :
    cellAt (leaveOut dropped row) 0 = cellAt row 0 := by
  have hmoved : cellAt (leaveOut dropped row) (newPlace dropped 0) = cellAt row 0 :=
    cellAt_leaveOut hfirst
  rwa [newPlace_zero] at hmoved

/-- Reading without comments gives the columns that stay, each at its new place. -/
theorem readAll_leaveOut {cells : List (String × String)} {position next : Nat}
    {place : Nat → Nat} (hplace : ∀ i, place (position + i) = next + newPlace dropped i)
    (hcomments : Drops dropped (isComment ·.1 = true) cells) :
    Column.readAll next (leaveOut dropped cells) =
      (Column.readAll position cells).map fun columns =>
        (leaveOut dropped columns).map (Column.moved place) := by
  induction cells generalizing dropped position next with
  | nil => rfl
  | cons cell rest ih =>
    obtain ⟨name, declared⟩ := cell
    have hhere : place position = next := by
      have := hplace 0
      rwa [newPlace_zero] at this
    rw [leaveOut]
    cases hfirst : dropped 0 with
    | true =>
      have hcomment : isComment name = true := hcomments.head hfirst
      have hrestPlace : ∀ i, place (position + 1 + i) =
          next + newPlace (fun other => dropped (other + 1)) i := by
        intro i
        rw [← newPlace_succ_of_dropped hfirst, ← hplace, Nat.add_assoc, Nat.add_comm 1]
      rw [if_pos rfl, ih hrestPlace hcomments.tail, Column.readAll,
        TypeCell.read_of_isComment (.inl hcomment)]
      dsimp only
      cases Column.readAll (position + 1) rest with
      | error cause => rfl
      | ok columns =>
        simp only [Except.map, leaveOut, hfirst, if_true]
    | false =>
      have hrestPlace : ∀ i, place (position + 1 + i) =
          next + 1 + newPlace (fun other => dropped (other + 1)) i := by
        intro i
        rw [Nat.add_assoc next, Nat.add_comm 1 (newPlace _ _), ← newPlace_succ_of_stays hfirst,
          ← hplace, Nat.add_assoc, Nat.add_comm 1]
      rw [if_neg (by decide), Column.readAll, Column.readAll]
      cases TypeCell.read name declared with
      | error cause => rfl
      | ok type =>
        dsimp only
        rw [ih hrestPlace hcomments.tail]
        cases Column.readAll (position + 1) rest with
        | error cause => rfl
        | ok columns =>
          simp only [Except.map, leaveOut, hfirst, Bool.false_eq_true, if_false, List.map_cons,
            Column.moved, hhere]

/-- The schema has the columns that stay, each at its new place, or the same fault. -/
theorem schema_withoutColumns (h : sheet.CommentsAt dropped) :
    (sheet.withoutColumns dropped).schema =
      sheet.schema.map fun columns =>
        (leaveOut dropped columns).map (Column.moved (newPlace dropped)) := by
  unfold schema
  rw [typeRow?_withoutColumns]
  cases sheet.typeRow? with
  | none => rfl
  | some typeRow =>
    have hcomments : Drops dropped (isComment ·.1 = true) (sheet.columns.zip typeRow) := by
      intro position cell hdropped hcell
      exact h position cell.1 hdropped (List.getElem?_zip_eq_some.mp hcell).1
    have hplace : ∀ i, newPlace dropped (0 + i) = 0 + newPlace dropped i := by
      intro i
      rw [Nat.zero_add, Nat.zero_add]
    have hread := readAll_leaveOut hplace hcomments
    rw [← leaveOut_zip] at hread
    dsimp only [Option.map, withoutColumns]
    rw [hread]
    cases Column.readAll 0 (sheet.columns.zip typeRow) with
    | error cause => rfl
    | ok columns => rfl

variable {columns : List Column} {platform : Platform}

/-- Columns of the schema that are dropped have names that are comments. -/
theorem CommentsAt.drops (h : sheet.CommentsAt dropped) (hschema : sheet.schema = .ok columns) :
    Drops dropped (isComment ·.name = true) columns :=
  fun position column hdropped hcolumn =>
    h position column.name hdropped (declares_of_getElem? hschema hcolumn).1

/-- No comment is kept. -/
theorem isComment_name_of_kept (hschema : sheet.schema = .ok columns) {column : Column}
    (hcolumn : column ∈ columns) {kept : KeptColumn}
    (hkept : column.keptOn? platform = some kept) : isComment column.name = false := by
  obtain ⟨position, hposition⟩ := List.mem_iff_getElem?.mp hcolumn
  obtain ⟨-, -, hread⟩ := declares_of_getElem? hschema hposition
  have hincludes := (Column.keptOn?_eq_some.mp hkept).1
  exact ((TypeCell.includes_iff hread platform).mp hincludes).1

/-- The kept columns are the same ones, each at its new place. -/
theorem kept_withoutColumns (h : sheet.CommentsAt dropped) (hschema : sheet.schema = .ok columns) :
    ((leaveOut dropped columns).map (Column.moved (newPlace dropped))).filterMap
        (·.keptOn? platform) =
      (columns.filterMap (·.keptOn? platform)).map (KeptColumn.moved (newPlace dropped)) := by
  have hdropped : Drops dropped (Column.keptOn? platform · = none) columns := by
    intro position column hdropped hcolumn
    have hcomment : isComment column.name = true := h.drops hschema position column hdropped hcolumn
    by_contra hsome
    obtain ⟨kept, hkept⟩ := Option.ne_none_iff_exists'.mp hsome
    rw [isComment_name_of_kept hschema (List.mem_of_getElem? hcolumn) hkept] at hcomment
    cases hcomment
  exact filterMap_map_leaveOut hdropped Column.keptOn?_moved

/-- The group of a key that is no comment has the same members, each at its new place. -/
theorem group_withoutColumns (h : sheet.CommentsAt dropped) (hschema : sheet.schema = .ok columns)
    {key : String} (hkey : isComment key = false) :
    ((leaveOut dropped columns).map (Column.moved (newPlace dropped))).filterMap
        (GroupMember.of? key) =
      (columns.filterMap (GroupMember.of? key)).map (GroupMember.moved (newPlace dropped)) := by
  have hdropped : Drops dropped (GroupMember.of? key · = none) columns := by
    intro position column hdropped hcolumn
    have hcomment : isComment column.name = true := h.drops hschema position column hdropped hcolumn
    unfold GroupMember.of?
    split
    · rename_i slot hslot
      refine if_neg ?_
      rintro rfl
      rw [← Slot.isComment_key hslot, hkey] at hcomment
      cases hcomment
    · rfl
  exact filterMap_map_leaveOut hdropped (GroupMember.of?_moved key)

end Sheet

/-! ## Tables without comments -/

section Tables

variable {symbolsOf? : String → Option (List String)} {platform : Platform} {dropped : Nat → Bool}

namespace KeptColumn

/-- A moved column reads in a shortened row what it read before. -/
theorem read_moved {sheet : String} {row : List String} {column : KeptColumn}
    (hfirst : dropped 0 = false) (hstays : dropped column.position = false) :
    (column.moved (newPlace dropped)).read symbolsOf? sheet (leaveOut dropped row) =
      column.read symbolsOf? sheet row := by
  have hid : Sheet.cellAt (leaveOut dropped row) 0 = Sheet.cellAt row 0 :=
    Sheet.cellAt_zero_leaveOut hfirst
  have hcell : Sheet.cellAt (leaveOut dropped row) (column.moved (newPlace dropped)).position =
      Sheet.cellAt row column.position := Sheet.cellAt_leaveOut hstays
  unfold read
  rw [hid, hcell]
  rfl

/-- Moved columns read in a shortened row what they read before. -/
theorem readAll_moved {sheet : String} {row : List String} {columns : List KeptColumn}
    (hfirst : dropped 0 = false) (hstay : ∀ column ∈ columns, dropped column.position = false) :
    readAll symbolsOf? sheet (leaveOut dropped row) (columns.map (moved (newPlace dropped))) =
      readAll symbolsOf? sheet row columns := by
  induction columns with
  | nil => rfl
  | cons column rest ih =>
    obtain ⟨hhead, hrest⟩ := List.forall_mem_cons.mp hstay
    rw [List.map_cons, readAll, readAll, read_moved hfirst hhead, ih hrest]

/-- A moved column declares the same field. -/
theorem field?_moved {sheet : Sheet} {columns : List Column} {column : KeptColumn}
    (h : sheet.CommentsAt dropped) (hschema : sheet.schema = .ok columns)
    (hcomment : isComment column.name = false) :
    (column.moved (newPlace dropped)).field? sheet.name platform
        ((leaveOut dropped columns).map (Column.moved (newPlace dropped))) =
      column.field? sheet.name platform columns := by
  unfold field?
  rw [name_moved]
  cases hslot : Slot.ofName? column.name with
  | none => rfl
  | some slot =>
    have hkey : isComment slot.key = false := (Slot.isComment_key hslot).trans hcomment
    dsimp only
    rw [Sheet.group_withoutColumns h hschema hkey, GroupMember.fault?_moved, List.length_map]
    rfl

/-- Moved columns declare the same fields. -/
theorem addFields_moved {sheet : Sheet} {columns : List Column} {kept : List KeptColumn}
    (h : sheet.CommentsAt dropped) (hschema : sheet.schema = .ok columns) {fields : List Field}
    (hcomments : ∀ column ∈ kept, isComment column.name = false) :
    addFields sheet.name platform
        ((leaveOut dropped columns).map (Column.moved (newPlace dropped))) fields
        (kept.map (moved (newPlace dropped))) =
      addFields sheet.name platform columns fields kept := by
  induction kept generalizing fields with
  | nil => rfl
  | cons column rest ih =>
    obtain ⟨hhead, hrest⟩ := List.forall_mem_cons.mp hcomments
    rw [List.map_cons, addFields, addFields, field?_moved h hschema hhead]
    simp only [ih hrest]

end KeptColumn

namespace Sheet

variable {sheet : Sheet}

/-- Shortened rows have the same ids, and moved columns the same values in them. -/
theorem readRows_leaveOut {name : String} {kept : List KeptColumn} {seen : List String}
    {rows : List (List String)} (hfirst : dropped 0 = false)
    (hstay : ∀ column ∈ kept, dropped column.position = false) :
    readRows symbolsOf? name (kept.map (KeptColumn.moved (newPlace dropped))) seen
        (rows.map (leaveOut dropped)) =
      readRows symbolsOf? name kept seen rows := by
  induction rows generalizing seen with
  | nil => rfl
  | cons row rest ih =>
    have hid : cellAt (leaveOut dropped row) 0 = cellAt row 0 := cellAt_zero_leaveOut hfirst
    rw [List.map_cons, readRows, readRows, hid, KeptColumn.readAll_moved hfirst hstay]
    simp only [ih]

/-- Kept columns stand at positions that stay. -/
theorem CommentsAt.kept_stays (h : sheet.CommentsAt dropped) {columns : List Column}
    (hschema : sheet.schema = .ok columns) :
    ∀ column ∈ columns.filterMap (·.keptOn? platform), dropped column.position = false := by
  intro kept hkept
  obtain ⟨column, hcolumn, hkeptOn⟩ := List.mem_filterMap.mp hkept
  obtain ⟨i, hi⟩ := List.mem_iff_getElem?.mp hcolumn
  rw [(Column.keptOn?_eq_some.mp hkeptOn).2.2.1, position_of_getElem? hschema hi]
  by_contra hdropped
  rw [Bool.not_eq_false] at hdropped
  have hcomment : isComment column.name = true := h.drops hschema _ column hdropped hi
  rw [isComment_name_of_kept hschema hcolumn hkeptOn] at hcomment
  cases hcomment

/-- A data sheet without comments is refined to the same table, or fails with the same error. -/
theorem outcome_refine_withoutColumns (h : sheet.CommentsAt dropped)
    (hdata : sheet.isData = true) :
    ((sheet.withoutColumns dropped).refine symbolsOf? platform).outcome =
      (sheet.refine symbolsOf? platform).outcome := by
  have hfirst := h.first_stays hdata
  rw [outcome_refine, outcome_refine, schema_withoutColumns h]
  cases hschema : sheet.schema with
  | error cause => rfl
  | ok columns =>
    have htable : (sheet.withoutColumns dropped).tableOf platform
          ((columns.filterMap (·.keptOn? platform)).map (KeptColumn.moved (newPlace dropped))) =
        sheet.tableOf platform (columns.filterMap (·.keptOn? platform)) := by
      funext rows
      have hids : ((sheet.dataRows.map (leaveOut dropped)).map (cellAt · 0)) =
          sheet.dataRows.map (cellAt · 0) := by
        rw [List.map_map]
        exact List.map_congr_left fun row _ => cellAt_zero_leaveOut hfirst
      rw [tableOf, tableOf, dataRows_withoutColumns, hids, List.map_map]
      rfl
    show (readRows symbolsOf? sheet.name _ [] _).map _ =
      (readRows symbolsOf? sheet.name _ [] _).map _
    rw [kept_withoutColumns h hschema, htable, dataRows_withoutColumns,
      readRows_leaveOut hfirst (h.kept_stays hschema)]

/-- A data sheet without comments declares the same record, or fails with the same error. -/
theorem ofSheet_withoutColumns (h : sheet.CommentsAt dropped) {rowName : String} :
    Record.ofSheet platform rowName (sheet.withoutColumns dropped) =
      Record.ofSheet platform rowName sheet := by
  unfold Record.ofSheet
  rw [schema_withoutColumns h]
  cases hschema : sheet.schema with
  | error cause => rfl
  | ok columns =>
    have hcomments : ∀ column ∈ columns.filterMap (·.keptOn? platform),
        isComment column.name = false := by
      intro kept hkept
      obtain ⟨column, hcolumn, hkeptOn⟩ := List.mem_filterMap.mp hkept
      rw [(Column.keptOn?_eq_some.mp hkeptOn).2.2.2.1]
      exact isComment_name_of_kept hschema hcolumn hkeptOn
    simp only [Except.map, kept_withoutColumns h hschema]
    cases platform with
    | server =>
      have hcodec : Codec.ofColumns ((columns.filterMap (·.keptOn? .server)).map
            (KeptColumn.moved (newPlace dropped))) =
          Codec.ofColumns (columns.filterMap (·.keptOn? .server)) := by
        simp only [Codec.ofColumns, List.map_map]
        rfl
      rw [hcodec]
      show (KeptColumn.addFields sheet.name _ _ _ _).map _ = _
      rw [KeptColumn.addFields_moved h hschema hcomments]
      rfl
    | client =>
      -- the column that supplies the row's name is left out wherever it stands
      have hfilter : ((columns.filterMap (·.keptOn? .client)).map
            (KeptColumn.moved (newPlace dropped))).filter (!·.suppliesRowName rowName) =
          ((columns.filterMap (·.keptOn? .client)).filter (!·.suppliesRowName rowName)).map
            (KeptColumn.moved (newPlace dropped)) :=
        List.filter_map
      rw [hfilter]
      show (KeptColumn.addFields sheet.name _ _ _ _).map _ = _
      rw [KeptColumn.addFields_moved h hschema
        fun column hcolumn => hcomments column (List.mem_of_mem_filter hcolumn)]
      rfl

end Sheet

end Tables

end GameSheets

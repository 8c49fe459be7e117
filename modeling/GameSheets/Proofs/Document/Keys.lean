/-
  The keys of a document, on either platform.

  A document is written key by key, and a key that is written again keeps its place and loses its
  value.  Nothing is written again where the columns have different names: the one column that may
  have the name of the row's name is the string column that supplies it, and that is left out in its
  own place.

  1. The position of the row names says which columns are left out, and it is the same to say so of
     the columns themselves (`namedBy_of_rowNames`, `RowNames.others_eq_filter`).
  2. So the header and each row are written as they are, with one member for each key, in the order
     of the columns behind the row's name (`documentHeader_eq`, `documentRow_eq`).
-/
import GameSheets.Proofs.Document.Members
import GameSheets.Proofs.Workbook.LateFaults

namespace GameSheets

namespace TableColumn

/-- The column supplies the row names of a platform. -/
def suppliesRowName (platform : Platform) (field : String) (column : TableColumn) : Bool :=
  platform == .client && column.name == field && column.base == .string

theorem suppliesRowName_iff {platform : Platform} {field : String} {column : TableColumn} :
    column.suppliesRowName platform field = true ↔
      platform = .client ∧ column.name = field ∧ column.base = .string := by
  unfold suppliesRowName
  rw [Bool.and_eq_true, Bool.and_eq_true, beq_iff_eq, beq_iff_eq, beq_iff_eq, and_assoc]

end TableColumn

/-! ## Items that are left out -/

/-- Items without that of the row names are those that are not told to be dropped, where the two
mean the same of every position. -/
theorem RowNames.others_eq_filter {α : Type} {names : RowNames} {items : List α}
    {drops : α → Bool} (h : ∀ i item, items[i]? = some item → names.consumes i = drops item) :
    names.others items = items.filter fun item => !drops item := by
  -- the first position is generalized: the rest starts one further on
  have hfrom : ∀ start, (∀ i item, items[i]? = some item →
      names.consumes (start + i) = drops item) →
      ((items.zipIdx start).filter fun item => !names.consumes item.2).map (·.1) =
        items.filter fun item => !drops item := by
    clear h
    induction items with
    | nil =>
      intro start _
      rfl
    | cons item rest ih =>
      intro start h
      have hhead : names.consumes start = drops item := h 0 item rfl
      have hrest : ∀ i other, rest[i]? = some other →
          names.consumes (start + 1 + i) = drops other := by
        intro i other hother
        rw [Nat.add_assoc, Nat.add_comm 1 i]
        exact h (i + 1) other hother
      rw [List.zipIdx_cons, List.filter_cons, List.filter_cons, hhead]
      split
      · rw [List.map_cons, ih (start + 1) hrest]
      · exact ih (start + 1) hrest
  refine hfrom 0 ?_
  intro i item hitem
  rw [Nat.zero_add]
  exact h i item hitem

namespace TypedTable

variable {platform : Platform} {field : String} {table : TypedTable} {names : RowNames}

/-! ## Where row names come from -/

/-- Where column names differ, a name has the position of its column. -/
theorem position?_eq_some (hnames : (table.columns.map (·.name)).Nodup) {i : Nat} :
    table.position? field = some i ↔
      ∃ column, table.columns[i]? = some column ∧ column.name = field := by
  unfold position?
  rw [List.findIdx?_eq_some_iff_getElem]
  constructor
  · rintro ⟨hi, hname, -⟩
    exact ⟨table.columns[i], List.getElem?_eq_getElem hi, of_decide_eq_true hname⟩
  · rintro ⟨column, hcolumn, hname⟩
    obtain ⟨hi, rfl⟩ := List.getElem?_eq_some_iff.mp hcolumn
    refine ⟨hi, decide_eq_true hname, ?_⟩
    intro j hj hother
    -- the column before would have the same name
    have hlength : j < (table.columns.map (·.name)).length := by
      rw [List.length_map]
      omega
    have hsame : (table.columns.map (·.name))[j]? = (table.columns.map (·.name))[i]? := by
      rw [List.getElem?_map, List.getElem?_map, List.getElem?_eq_getElem hi,
        List.getElem?_eq_getElem (by omega : j < table.columns.length), Option.map_some,
        Option.map_some, of_decide_eq_true hother, hname]
    have hji := (List.getElem?_inj hlength hnames).mp hsame
    omega

theorem position?_eq_none :
    table.position? field = none ↔ ∀ column ∈ table.columns, column.name ≠ field := by
  unfold position?
  rw [List.findIdx?_eq_none_iff]
  constructor
  · intro h column hcolumn
    exact of_decide_eq_false (h column hcolumn)
  · intro h column hcolumn
    exact decide_eq_false (h column hcolumn)

/-- The source of row names, told by the columns of the table. -/
structure NamedBy (platform : Platform) (field : String) (table : TypedTable)
    (names : RowNames) : Prop where
  absent_iff : names = .absent ↔ platform = .server
  consumes_eq : ∀ i column, table.columns[i]? = some column →
    names.consumes i = column.suppliesRowName platform field
  eq_ids : platform = .client →
    (∀ column ∈ table.columns, column.suppliesRowName platform field = false) → names = .ids
  name_ne : platform = .client → ∀ column ∈ table.columns,
    column.suppliesRowName platform field = false → column.name ≠ field

/-- The cases of the client: no column has the name, or one has it, whose type decides. -/
theorem rowNames_client (hnames : (table.columns.map (·.name)).Nodup) :
    (∀ column ∈ table.columns, column.name ≠ field) ∧ table.rowNames .client field = .ok .ids ∨
      ∃ i column, table.columns[i]? = some column ∧ column.name = field ∧
        (column.base = .string ∧ table.rowNames .client field = .ok (.column i) ∨
          column.base ≠ .string ∧
            table.rowNames .client field = .error (.nameTaken table.name field)) := by
  unfold rowNames
  cases hposition : table.position? field with
  | none => exact .inl ⟨position?_eq_none.mp hposition, rfl⟩
  | some i =>
    right
    obtain ⟨column, hcolumn, hname⟩ := (position?_eq_some hnames).mp hposition
    refine ⟨i, column, hcolumn, hname, ?_⟩
    by_cases hbase : column.base = .string
    · exact .inl ⟨hbase, if_pos (by rw [hcolumn, Option.map_some, hbase])⟩
    · refine .inr ⟨hbase, if_neg ?_⟩
      rw [hcolumn, Option.map_some]
      exact fun h => hbase (Option.some.inj h)

/-- A table has no row names exactly where a column that holds no texts has their name. -/
theorem rowNames_eq_error (hnames : (table.columns.map (·.name)).Nodup) {cause : ExportError} :
    table.rowNames platform field = .error cause ↔
      cause = .nameTaken table.name field ∧ platform = .client ∧
        ∃ column ∈ table.columns, column.name = field ∧ column.base ≠ .string := by
  cases platform with
  | server => simp [rowNames]
  | client =>
    rcases rowNames_client hnames with ⟨hfree, hids⟩ |
      ⟨i, column, hcolumn, hname, hcases⟩
    · rw [hids]
      constructor
      · intro h
        cases h
      · rintro ⟨-, -, column, hcolumn, hname, -⟩
        exact absurd hname (hfree column hcolumn)
    · have hmem := List.mem_of_getElem? hcolumn
      -- the column is the only one of the name
      have hsame : ∀ other ∈ table.columns, other.name = field → other = column :=
        fun other hother hotherName =>
          List.inj_on_of_nodup_map hnames hother hmem (hotherName.trans hname.symm)
      rcases hcases with ⟨hbase, hcolumnNames⟩ | ⟨hbase, htaken⟩
      · rw [hcolumnNames]
        constructor
        · intro h
          cases h
        · rintro ⟨-, -, other, hother, hotherName, hotherBase⟩
          rw [hsame other hother hotherName] at hotherBase
          exact absurd hbase hotherBase
      · rw [htaken]
        constructor
        · intro h
          exact ⟨(Except.error.inj h).symm, rfl, column, hmem, hname, hbase⟩
        · rintro ⟨rfl, -⟩
          rfl

/-- Where row names come from, told by the columns. -/
theorem namedBy_of_rowNames (hnames : (table.columns.map (·.name)).Nodup)
    (h : table.rowNames platform field = .ok names) : table.NamedBy platform field names := by
  cases platform with
  | server =>
    obtain rfl := Except.ok.inj h
    exact ⟨by simp, fun _ _ _ => rfl, nofun, nofun⟩
  | client =>
    rcases rowNames_client hnames with ⟨hfree, hids⟩ |
      ⟨i, supplier, hsupplier, hname, hcases⟩
    · rw [hids] at h
      obtain rfl := Except.ok.inj h
      refine ⟨by simp, ?_, fun _ _ => rfl, fun _ column hcolumn _ => hfree column hcolumn⟩
      intro i column hcolumn
      cases hsupplies : column.suppliesRowName .client field with
      | false => rfl
      | true =>
        have hname := (TableColumn.suppliesRowName_iff.mp hsupplies).2.1
        exact absurd hname (hfree column (List.mem_of_getElem? hcolumn))
    · rcases hcases with ⟨hbase, hcolumnNames⟩ | ⟨-, htaken⟩
      · rw [hcolumnNames] at h
        obtain rfl := Except.ok.inj h
        have hmem := List.mem_of_getElem? hsupplier
        have hsupplies : supplier.suppliesRowName .client field = true :=
          TableColumn.suppliesRowName_iff.mpr ⟨rfl, hname, hbase⟩
        refine ⟨by simp, ?_, ?_, ?_⟩
        · intro j column hcolumn
          rw [Bool.eq_iff_iff, TableColumn.suppliesRowName_iff]
          show (RowNames.column i == .column j) = true ↔ _
          rw [beq_iff_eq, RowNames.column.injEq]
          constructor
          · rintro rfl
            obtain rfl := Option.some.inj (hsupplier.symm.trans hcolumn)
            exact ⟨rfl, hname, hbase⟩
          · rintro ⟨-, hother, -⟩
            have hfirst := (position?_eq_some hnames).mpr ⟨supplier, hsupplier, hname⟩
            have hsecond := (position?_eq_some hnames).mpr ⟨column, hcolumn, hother⟩
            exact Option.some.inj (hfirst.symm.trans hsecond)
        · intro _ hnone
          rw [hnone supplier hmem] at hsupplies
          cases hsupplies
        · intro _ column hcolumn hnot hcolumnName
          have hsame : column = supplier :=
            List.inj_on_of_nodup_map hnames hcolumn hmem (hcolumnName.trans hname.symm)
          rw [hsame, hsupplies] at hnot
          cases hnot
      · rw [htaken] at h
        cases h

/-! ## Keys -/

/-- The key of the row's name, where rows have names. -/
def leadKeys (field : String) : Platform → List String
  | .server => []
  | .client => [field]

/-- The keys of a header or a row: that of the row's name, and the names of the columns but for the
one that supplies it. -/
def keys (platform : Platform) (field : String) (columns : List TableColumn) : List String :=
  leadKeys field platform ++
    (columns.filter fun column => !column.suppliesRowName platform field).map (·.name)

namespace NamedBy

/-- Keys differ. -/
theorem nodup_keys (h : table.NamedBy platform field names)
    (hnames : (table.columns.map (·.name)).Nodup) : (keys platform field table.columns).Nodup := by
  have hothers : ((table.columns.filter fun column =>
      !column.suppliesRowName platform field).map (·.name)).Nodup :=
    hnames.sublist (List.filter_sublist.map _)
  cases platform with
  | server => exact hothers
  | client =>
    refine List.nodup_cons.mpr ⟨?_, hothers⟩
    intro hmem
    obtain ⟨column, hcolumn, hname⟩ := List.mem_map.mp hmem
    obtain ⟨hcolumn, hnot⟩ := List.mem_filter.mp hcolumn
    exact h.name_ne rfl column hcolumn (by simpa using hnot) hname

end NamedBy

/-- What is written under the keys of a header: the native types. -/
def headerMembers (platform : Platform) (field : String) (columns : List TableColumn) :
    List (String × String) :=
  (leadKeys field platform).map (fun key => (key, BaseType.string.nativeName platform)) ++
    (columns.filter fun column => !column.suppliesRowName platform field).map
      fun column => (column.name, column.base.nativeName platform)

/-- What is written under the keys of a row: its name and its other cells. -/
def rowMembers (platform : Platform) (field : String) (columns : List TableColumn)
    (cells : List Value) (name : String) : List (String × Scalar) :=
  (leadKeys field platform).map (fun key => (key, Scalar.text name)) ++
    ((columns.zip cells).filter fun pair => !pair.1.suppliesRowName platform field).map
      fun pair => (pair.1.name, Scalar.ofValue pair.2)

theorem keys_headerMembers {columns : List TableColumn} :
    (headerMembers platform field columns).map (·.1) = keys platform field columns := by
  rw [headerMembers, keys, List.map_append, List.map_map, List.map_map]
  exact congrArg (· ++ _) (List.map_id _)

theorem keys_rowMembers {columns : List TableColumn} {cells : List Value} {name : String}
    (hwidth : cells.length = columns.length) :
    (rowMembers platform field columns cells name).map (·.1) = keys platform field columns := by
  have hcolumns : (columns.zip cells).map Prod.fst = columns :=
    List.map_fst_zip (Nat.le_of_eq hwidth.symm)
  have hothers : ((columns.zip cells).filter fun pair =>
      !pair.1.suppliesRowName platform field).map Prod.fst =
        columns.filter fun column => !column.suppliesRowName platform field := by
    rw [← hcolumns, List.filter_map, hcolumns]
    rfl
  rw [rowMembers, keys, List.map_append, List.map_map, List.map_map, ← hothers, List.map_map]
  exact congrArg (· ++ _) (List.map_id _)

/-! ## What is written -/

/-- The name of a row: the cell of the column that supplies it, or else the row's id. -/
structure RowNamed (field : String) (columns : List TableColumn) (cells : List Value)
    (id name : String) : Prop where
  of_column : ∀ (i : Nat) (column : TableColumn), columns[i]? = some column →
    column.suppliesRowName .client field = true →
      ∃ value : Value, cells[i]? = some value ∧ name = value.shown
  of_id : (∀ column ∈ columns, column.suppliesRowName .client field = false) → name = id

namespace NamedBy

theorem exists_name (h : table.NamedBy .client field names) {cells : List Value} {id : String}
    (hwidth : cells.length = table.columns.length) :
    ∃ name, names.nameOf? cells (some id) = some name ∧
      RowNamed field table.columns cells id name := by
  cases names with
  | absent => exact absurd (h.absent_iff.mp rfl) (by decide)
  | ids =>
    refine ⟨id, rfl, ?_, fun _ => rfl⟩
    intro i column hcolumn hsupplies
    have hconsumes := h.consumes_eq i column hcolumn
    rw [hsupplies] at hconsumes
    cases hconsumes
  | column position =>
    refine ⟨_, rfl, ?_, fun hnone => absurd (h.eq_ids rfl hnone) (by simp)⟩
    intro i column hcolumn hsupplies
    have hconsumes := h.consumes_eq i column hcolumn
    rw [hsupplies] at hconsumes
    obtain rfl := RowNames.column.inj (beq_iff_eq.mp hconsumes)
    have hi : position < cells.length := by
      rw [hwidth]
      exact (List.getElem?_eq_some_iff.mp hcolumn).1
    have hvalue : cells[position]? = some cells[position] := List.getElem?_eq_getElem hi
    exact ⟨cells[position], hvalue, by rw [hvalue]; rfl⟩

theorem others_columns (h : table.NamedBy platform field names) :
    names.others table.columns =
      table.columns.filter fun column => !column.suppliesRowName platform field :=
  RowNames.others_eq_filter h.consumes_eq

theorem others_cells (h : table.NamedBy platform field names) (cells : List Value) :
    names.others (table.columns.zip cells) =
      (table.columns.zip cells).filter fun pair => !pair.1.suppliesRowName platform field := by
  refine RowNames.others_eq_filter ?_
  intro i pair hpair
  exact h.consumes_eq i pair.1 (List.getElem?_zip_eq_some.mp hpair).1

/-- The header is written as it is. -/
theorem documentHeader_eq (h : table.NamedBy platform field names)
    (hnames : (table.columns.map (·.name)).Nodup) :
    table.documentHeader platform field names = headerMembers platform field table.columns := by
  have hlead : (if names = .absent then []
      else [(field, BaseType.string.nativeName platform)]) =
        (leadKeys field platform).map fun key => (key, BaseType.string.nativeName platform) := by
    cases platform with
    | server => rw [if_pos (h.absent_iff.mpr rfl)]; rfl
    | client => rw [if_neg (fun habsent => absurd (h.absent_iff.mp habsent) (by decide))]; rfl
  unfold documentHeader
  rw [hlead, h.others_columns]
  refine Document.ofPairs_of_nodup ?_
  show ((headerMembers platform field table.columns).map (·.1)).Nodup
  rw [keys_headerMembers]
  exact h.nodup_keys hnames

/-- A row is written as it is, behind its name if it has one. -/
theorem documentRow_eq (h : table.NamedBy platform field names)
    (hnames : (table.columns.map (·.name)).Nodup) {cells : List Value} {id : String}
    (hwidth : cells.length = table.columns.length) :
    ∃ name, documentRow field names table.columns cells (some id) =
        rowMembers platform field table.columns cells name ∧
      (platform = .client → RowNamed field table.columns cells id name) := by
  have hwritten : ∀ name, Document.ofPairs (rowMembers platform field table.columns cells name) =
      rowMembers platform field table.columns cells name := by
    intro name
    refine Document.ofPairs_of_nodup ?_
    rw [keys_rowMembers hwidth]
    exact h.nodup_keys hnames
  cases platform with
  | server =>
    obtain rfl := h.absent_iff.mpr rfl
    refine ⟨"", ?_, fun hclient => by cases hclient⟩
    rw [← hwritten, rowMembers, ← h.others_cells cells]
    rfl
  | client =>
    have hnamed : ∃ name, names.nameOf? cells (some id) = some name ∧
        RowNamed field table.columns cells id name := h.exists_name hwidth
    obtain ⟨name, hname, hsource⟩ := hnamed
    refine ⟨name, ?_, fun _ => hsource⟩
    rw [← hwritten, rowMembers, ← h.others_cells cells]
    unfold documentRow
    rw [hname]
    rfl

end NamedBy

/-! ## Documents -/

/-- A row of a document carries the cells of a row of the table, each once under its own key. -/
structure CarriesRow (platform : Platform) (field : String) (columns : List TableColumn)
    (cells : List Value) (id : String) (members : List (String × Scalar)) : Prop where
  keys_eq : members.map (·.1) = keys platform field columns
  cell_eq : ∀ (i : Nat) (column : TableColumn), columns[i]? = some column →
    column.suppliesRowName platform field = false →
      ∃ value, cells[i]? = some value ∧
        members.lookup column.name = some (Scalar.ofValue value)
  name_eq : platform = .client →
    ∃ name, members.lookup field = some (.text name) ∧ RowNamed field columns cells id name

/-- A document carries a table: the number of its rows, its fingerprint, a header with each key
once, and its rows in order, with the same keys; and its text has them all. -/
structure Carries (platform : Platform) (field : String) (table : TypedTable)
    (document : TableDocument) : Prop where
  rowCount_eq : document.rowCount = table.rows.length
  fingerprint_eq : document.fingerprint = table.fingerprint
  keys_nodup : (keys platform field table.columns).Nodup
  header_keys : document.header.map (·.1) = keys platform field table.columns
  header_types : ∀ column ∈ table.columns, column.suppliesRowName platform field = false →
    document.header.lookup column.name = some (column.base.nativeName platform)
  length_rows : document.rows.length = table.rows.length
  rows_carried : List.Forall₂
    (fun row members => CarriesRow platform field table.columns row.1 row.2 members)
    (table.rows.zip table.ids) document.rows
  text_eq : document.text = Document.objectText 0 [
    ("infos", Document.objectText 1 [
      ("rowcount", toString table.rows.length),
      ("dataHashCode", toString table.fingerprint.toNat)]),
    ("header", Document.objectText 1
      (document.header.map fun member => (member.1, Document.textLiteral member.2))),
    ("rows", Document.arrayText 1 (document.rows.map fun members =>
      Document.objectText 2 (members.map fun member => (member.1, member.2.written))))]

/-- Members that are written for a row carry it. -/
theorem carriesRow_rowMembers {columns : List TableColumn} {cells : List Value} {id name : String}
    (hwidth : cells.length = columns.length) (hkeys : (keys platform field columns).Nodup)
    (hname : platform = .client → RowNamed field columns cells id name) :
    CarriesRow platform field columns cells id
      (rowMembers platform field columns cells name) := by
  have hnodup : ((rowMembers platform field columns cells name).map (·.1)).Nodup := by
    rw [keys_rowMembers hwidth]
    exact hkeys
  refine ⟨keys_rowMembers hwidth, ?_, ?_⟩
  · intro i column hcolumn hnot
    have hi : i < cells.length := by
      rw [hwidth]
      exact (List.getElem?_eq_some_iff.mp hcolumn).1
    have hvalue : cells[i]? = some cells[i] := List.getElem?_eq_getElem hi
    have hpair : (column, cells[i]) ∈ columns.zip cells :=
      List.mem_of_getElem? (List.getElem?_zip_eq_some.mpr ⟨hcolumn, hvalue⟩)
    refine ⟨cells[i], hvalue, Document.lookup_of_mem hnodup (List.mem_append_right _ ?_)⟩
    refine List.mem_map.mpr ⟨(column, cells[i]), List.mem_filter.mpr ⟨hpair, ?_⟩, rfl⟩
    show (!column.suppliesRowName platform field) = true
    rw [hnot]
    rfl
  · rintro rfl
    exact ⟨name, List.lookup_cons_self, hname rfl⟩

/-- What a document is made of carries its table. -/
theorem carries_of_document (hnames : (table.columns.map (·.name)).Nodup)
    (hwidth : ∀ cells ∈ table.rows, cells.length = table.columns.length)
    (hids : table.ids.length = table.rows.length) {document : TableDocument}
    (h : table.document platform field = .ok document) :
    table.Carries platform field document := by
  obtain ⟨names, hrowNames, rfl⟩ := Outcome.map_eq_ok.mp h
  have hnamed := namedBy_of_rowNames hnames hrowNames
  have hkeys := hnamed.nodup_keys hnames
  have hheader := hnamed.documentHeader_eq hnames
  have hheaderKeys : (table.documentHeader platform field names).map (·.1) =
      keys platform field table.columns := by
    rw [hheader, keys_headerMembers]
  have hrows : List.Forall₂
      (fun row members => CarriesRow platform field table.columns row.1 row.2 members)
      (table.rows.zip table.ids)
      (documentRows field names table.columns table.rows table.ids) := by
    rw [documentRows_eq_zipWith hids, ← List.map_uncurry_zip_eq_zipWith,
      List.forall₂_map_right_iff, List.forall₂_same]
    rintro ⟨cells, id⟩ hrow
    have hcells := hwidth cells (List.of_mem_zip hrow).1
    obtain ⟨name, hwritten, hname⟩ := hnamed.documentRow_eq hnames hcells
    show CarriesRow platform field table.columns cells id
      (documentRow field names table.columns cells (some id))
    rw [hwritten]
    exact carriesRow_rowMembers hcells hkeys hname
  refine ⟨rfl, rfl, hkeys, hheaderKeys, ?_, ?_, hrows, rfl⟩
  · intro column hcolumn hnot
    refine Document.lookup_of_mem (hheaderKeys ▸ hkeys) ?_
    show (column.name, column.base.nativeName platform) ∈
      table.documentHeader platform field names
    rw [hheader]
    refine List.mem_append_right _ (List.mem_map.mpr ⟨column, List.mem_filter.mpr
      ⟨hcolumn, ?_⟩, rfl⟩)
    rw [hnot]
    rfl
  · show (documentRows field names table.columns table.rows table.ids).length = table.rows.length
    rw [← hrows.length_eq, List.length_zip, hids, Nat.min_self]

/-- A table of different column names and full rows, with an id for each, is refused where a column
that holds no texts has the name of the row's name, and its document carries it otherwise. -/
theorem document_carries (hnames : (table.columns.map (·.name)).Nodup)
    (hwidth : ∀ cells ∈ table.rows, cells.length = table.columns.length)
    (hids : table.ids.length = table.rows.length) :
    (∀ cause, table.document platform field = .error cause ↔
      cause = .nameTaken table.name field ∧ platform = .client ∧
        ∃ column ∈ table.columns, column.name = field ∧ column.base ≠ .string) ∧
      ∀ document, table.document platform field = .ok document →
        table.Carries platform field document := by
  refine ⟨?_, fun _ h => carries_of_document hnames hwidth hids h⟩
  intro cause
  unfold document
  rw [Outcome.map_eq_error]
  exact rowNames_eq_error hnames

/-! ### A name in the middle -/

/-- A table whose second column supplies the row names. -/
def namedItems : TypedTable where
  name := "Item"
  platform := .client
  columns := [⟨"Power", .int32⟩, ⟨"Name", .string⟩, ⟨"Speed", .float⟩]
  rows := [[.int 10, .text "Sword", .float (.zero false)], [.int 7, .text "Bow", .float (.zero true)]]
  ids := ["1", "2"]
  fingerprint := 5

/-- The document of the table. -/
def namedItemsDocument : TableDocument where
  rowCount := 2
  fingerprint := 5
  header := [("Name", "FString"), ("Power", "int32"), ("Speed", "float")]
  rows := [
    [("Name", .text "Sword"), ("Power", .int 10), ("Speed", .float (.zero false))],
    [("Name", .text "Bow"), ("Power", .int 7), ("Speed", .float (.zero true))]]

theorem namedItems_carried :
    namedItems.document .client "Name" = .ok namedItemsDocument ∧
      namedItems.Carries .client "Name" namedItemsDocument ∧
      namedItems.document .client "Power" = .error (.nameTaken "Item" "Power") := by
  have hnames : (namedItems.columns.map (·.name)).Nodup := by decide
  have hwidth : ∀ cells ∈ namedItems.rows, cells.length = namedItems.columns.length := by decide
  have hdocument : namedItems.document .client "Name" = .ok namedItemsDocument := by
    decide +kernel
  obtain ⟨-, hcarries⟩ := document_carries hnames hwidth rfl
  obtain ⟨hfails, -⟩ := document_carries hnames hwidth rfl
  refine ⟨hdocument, hcarries _ hdocument, (hfails _).mpr ⟨rfl, rfl, ?_⟩⟩
  exact ⟨⟨"Power", .int32⟩, List.mem_cons_self, rfl, by decide⟩

end TypedTable

end GameSheets

/-
  The members of a server document.

  Writing pairs one after another keeps them as they are where their keys differ
  (`Document.ofPairs_of_nodup`).  A server document has no row names, so that nothing else is
  written: a table whose columns have different names is exported with one member for each column
  in its header and in each row (`TypedTable.document_server`).
-/
import Mathlib.Data.List.Nodup
import GameSheets.Document.Table

namespace GameSheets

/-! ## Keys -/

namespace Document

variable {α : Type}

theorem put_of_not_mem {key : String} {value : α} {members : List (String × α)}
    (h : key ∉ members.map (·.1)) : put key value members = members ++ [(key, value)] := by
  induction members with
  | nil => rfl
  | cons member rest ih =>
    obtain ⟨other, old⟩ := member
    rw [List.map_cons, List.mem_cons, not_or] at h
    obtain ⟨hne, hrest⟩ := h
    rw [put, if_neg (Ne.symm hne), ih hrest, List.cons_append]

/-- Pairs of different keys are written as they are. -/
theorem ofPairs_of_nodup {pairs : List (String × α)} (h : (pairs.map (·.1)).Nodup) :
    ofPairs pairs = pairs := by
  -- the members written before are generalized: the pairs come behind them
  have hwritten : ∀ members : List (String × α), ((members ++ pairs).map (·.1)).Nodup →
      pairs.foldl (fun members pair => put pair.1 pair.2 members) members = members ++ pairs := by
    clear h
    induction pairs with
    | nil =>
      intro members _
      rw [List.foldl_nil, List.append_nil]
    | cons pair rest ih =>
      intro members hnodup
      have hfresh : pair.1 ∉ members.map (·.1) := by
        intro hmem
        rw [List.map_append, List.map_cons] at hnodup
        exact (List.disjoint_of_nodup_append hnodup) hmem List.mem_cons_self
      have hnext : (((members ++ [pair]) ++ rest).map (·.1)).Nodup := by
        rwa [List.append_assoc, List.singleton_append]
      rw [List.foldl_cons, put_of_not_mem hfresh]
      show rest.foldl _ (members ++ [pair]) = _
      rw [ih _ hnext, List.append_assoc, List.singleton_append]
  exact hwritten [] h

/-- The value under a key is the one that is written there, where keys differ. -/
theorem lookup_of_mem {members : List (String × α)} (hnodup : (members.map (·.1)).Nodup)
    {key : String} {value : α} (hmem : (key, value) ∈ members) :
    members.lookup key = some value := by
  induction members with
  | nil => cases hmem
  | cons member rest ih =>
    obtain ⟨other, old⟩ := member
    rw [List.map_cons, List.nodup_cons] at hnodup
    rcases List.mem_cons.mp hmem with heq | hrest
    · obtain ⟨rfl, rfl⟩ := Prod.mk.inj heq
      exact List.lookup_cons_self
    · have hne : key ≠ other := by
        rintro rfl
        exact hnodup.1 (List.mem_map.mpr ⟨(key, value), hrest, rfl⟩)
      rw [List.lookup_cons, beq_eq_false_iff_ne.mpr hne]
      exact ih hnodup.2 hrest

end Document

/-! ## Server documents -/

theorem RowNames.others_absent {α : Type} (items : List α) :
    RowNames.absent.others items = items := by
  have hall : (items.zipIdx.filter fun item => !RowNames.absent.consumes item.2) =
      items.zipIdx := by
    rw [List.filter_eq_self]
    intro item _
    rfl
  rw [others, hall, List.zipIdx_map_fst]

namespace TypedTable

/-- The members of one row. -/
def members (columns : List TableColumn) (cells : List Value) : List (String × Scalar) :=
  (columns.zip cells).map fun (column, cell) => (column.name, Scalar.ofValue cell)

theorem keys_members {columns : List TableColumn} {cells : List Value}
    (hwidth : cells.length = columns.length) :
    (members columns cells).map (·.1) = columns.map (·.name) := by
  have hcolumns : (columns.zip cells).map Prod.fst = columns :=
    List.map_fst_zip (Nat.le_of_eq hwidth.symm)
  calc (members columns cells).map (·.1)
      = ((columns.zip cells).map Prod.fst).map (·.name) := by
        rw [members, List.map_map, List.map_map]
        rfl
    _ = columns.map (·.name) := by rw [hcolumns]

theorem documentRow_absent {field : String} {columns : List TableColumn} {cells : List Value}
    {id : Option String} (hnames : (columns.map (·.name)).Nodup)
    (hwidth : cells.length = columns.length) :
    documentRow field .absent columns cells id = members columns cells := by
  show Document.ofPairs ([] ++ (RowNames.absent.others (columns.zip cells)).map _) = _
  rw [List.nil_append, RowNames.others_absent]
  refine Document.ofPairs_of_nodup ?_
  show ((members columns cells).map (·.1)).Nodup
  rw [keys_members hwidth]
  exact hnames

theorem documentRows_absent {field : String} {columns : List TableColumn}
    {rows : List (List Value)} {ids : List String} (hnames : (columns.map (·.name)).Nodup)
    (hwidth : ∀ cells ∈ rows, cells.length = columns.length) :
    documentRows field .absent columns rows ids = rows.map (members columns) := by
  induction rows generalizing ids with
  | nil => rfl
  | cons cells rest ih =>
    obtain ⟨hhead, hrest⟩ := List.forall_mem_cons.mp hwidth
    rw [documentRows, documentRow_absent hnames hhead, ih hrest, List.map_cons]

/-- A table of different column names and full rows is exported for the server with the members
of its columns and of its rows. -/
theorem document_server {field : String} {table : TypedTable}
    (hnames : (table.columns.map (·.name)).Nodup)
    (hwidth : ∀ cells ∈ table.rows, cells.length = table.columns.length) :
    table.document .server field = .ok {
      rowCount := table.rows.length
      fingerprint := table.fingerprint
      header := table.columns.map fun column => (column.name, column.base.nativeName .server)
      rows := table.rows.map (members table.columns) } := by
  have hheader : documentHeader .server field .absent table =
      table.columns.map fun column => (column.name, column.base.nativeName .server) := by
    show Document.ofPairs ([] ++ (RowNames.absent.others table.columns).map _) = _
    rw [List.nil_append, RowNames.others_absent]
    refine Document.ofPairs_of_nodup ?_
    rw [List.map_map]
    exact hnames
  have hrows : documentRows field .absent table.columns table.rows table.ids =
      table.rows.map (members table.columns) := documentRows_absent hnames hwidth
  show Except.ok (TableDocument.mk _ _ (documentHeader .server field .absent table)
    (documentRows field .absent table.columns table.rows table.ids)) = _
  rw [hheader, hrows]

end TypedTable

end GameSheets

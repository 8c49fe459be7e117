/-
  Table documents: what is exported of a typed table.

  A document holds the number of rows and the fingerprint, the native types under the names of the
  columns, and the rows.  Keys keep the order of the columns; a key that is written again keeps its
  place and takes the new value.  On the client, the row's name leads: it is the value of the string
  column of that name, or else the row's id.
-/
import GameSheets.Document.Layout
import GameSheets.Table.Refine

namespace GameSheets

/-- A cell of a document. -/
inductive Scalar
  | int (value : Int)
  | float (value : Number.Binary64)
  | text (text : String)
  deriving DecidableEq, Repr

/-- The export of a typed table. -/
structure TableDocument where
  rowCount : Nat
  fingerprint : UInt64
  header : List (String × String)
  rows : List (List (String × Scalar))
  deriving DecidableEq, Repr

/-- Why a table cannot be exported. -/
inductive ExportError
  /-- A column that holds no texts has the name of the row's name. -/
  | nameTaken (sheet field : String)
  deriving DecidableEq, Repr

namespace ExportError

/-- The error in words. -/
def message : ExportError → String
  | nameTaken sheet field =>
    "Table '" ++ sheet ++ "' already has a column named '" ++ field ++ "'"

end ExportError

/-! ## Keys in order -/

namespace Document

variable {α : Type}

/-- Writes a value under a key: in the key's place if it has one, else at the end. -/
def put (key : String) (value : α) : List (String × α) → List (String × α)
  | [] => [(key, value)]
  | (other, old) :: rest =>
    if other = key then (key, value) :: rest else (other, old) :: put key value rest

/-- Writes values under keys, one after another. -/
def ofPairs (pairs : List (String × α)) : List (String × α) :=
  pairs.foldl (fun members pair => put pair.1 pair.2 members) []

/-- A key that is written again keeps its place; a new one comes last. -/
theorem keys_put (key : String) (value : α) (members : List (String × α)) :
    (put key value members).map (·.1) =
      if key ∈ members.map (·.1) then members.map (·.1) else members.map (·.1) ++ [key] := by
  induction members with
  | nil => simp [put]
  | cons member rest ih =>
    obtain ⟨other, old⟩ := member
    by_cases h : other = key
    · simp [put, h]
    · simp only [put, if_neg h, List.map_cons, ih, List.mem_cons, Ne.symm h, false_or]
      split <;> simp

/-- The value under a key is the one that was written last. -/
theorem lookup_put (key sought : String) (value : α) (members : List (String × α)) :
    (put key value members).lookup sought =
      if sought = key then some value else members.lookup sought := by
  induction members with
  | nil => by_cases h : sought = key <;> simp [put, List.lookup_cons, h, beq_eq_false_iff_ne.2]
  | cons member rest ih =>
    obtain ⟨other, old⟩ := member
    by_cases h : other = key
    · subst h
      by_cases hs : sought = other <;> simp [put, List.lookup_cons, hs, beq_eq_false_iff_ne.2]
    · by_cases hs : sought = other
      · subst hs
        simp [put, h]
      · simp [put, List.lookup_cons, h, ih, beq_eq_false_iff_ne.2 hs]

end Document

/-! ## Cells -/

namespace Scalar

/-- A value as a cell; what is no number becomes a text. -/
def ofValue : Value → Scalar
  | .int value => int value
  | .float value => if value.isFinite then float value else text value.text
  | .text shown => text shown
  | .composite shown => text shown
  | .symbol name => text name

/-- The cell as a document writes it. -/
def written : Scalar → String
  | int value => toString value
  | float value => (value.documentText?).getD "null"
  | text shown => Document.textLiteral shown

end Scalar

/-! ## Row names -/

/-- Where a table's row names come from. -/
inductive RowNames
  | absent
  /-- The string column at this position, which is left out in its own place. -/
  | column (position : Nat)
  | ids
  deriving DecidableEq, Repr

namespace TypedTable

/-- Where row names come from on a platform. -/
def rowNames (platform : Platform) (field : String) (table : TypedTable) :
    Except ExportError RowNames :=
  match platform with
  | .server => .ok .absent
  | .client =>
    match table.position? field with
    | none => .ok .ids
    | some position =>
      if table.columns[position]?.map (·.base) = some .string then .ok (.column position)
      else .error (.nameTaken table.name field)

end TypedTable

namespace RowNames

/-- Whether the column at a position supplies the row names. -/
def consumes (names : RowNames) (position : Nat) : Bool :=
  names == .column position

/-- The name of a row, if rows have names; rows without an id have the empty name. -/
def nameOf? (names : RowNames) (cells : List Value) (id : Option String) : Option String :=
  match names with
  | .absent => none
  | .column position => some ((cells[position]?.map Value.shown).getD "")
  | .ids => some (id.getD "")

/-- Items with their positions, without that of the row names. -/
def others {α : Type} (names : RowNames) (items : List α) : List α :=
  (items.zipIdx.filter fun item => !names.consumes item.2).map (·.1)

end RowNames

/-! ## Documents -/

namespace TypedTable

/-- The native types under the columns' names. -/
def documentHeader (platform : Platform) (field : String) (names : RowNames)
    (table : TypedTable) : List (String × String) :=
  let lead :=
    if names = .absent then [] else [(field, BaseType.string.nativeName platform)]
  Document.ofPairs
    (lead ++ (names.others table.columns).map fun column =>
      (column.name, column.base.nativeName platform))

/-- One row under the columns' names. -/
def documentRow (field : String) (names : RowNames) (columns : List TableColumn)
    (cells : List Value) (id : Option String) : List (String × Scalar) :=
  let lead :=
    match names.nameOf? cells id with
    | some name => [(field, Scalar.text name)]
    | none => []
  Document.ofPairs
    (lead ++ (names.others (columns.zip cells)).map fun (column, cell) =>
      (column.name, Scalar.ofValue cell))

/-- The rows, each with its id. -/
def documentRows (field : String) (names : RowNames) (columns : List TableColumn) :
    List (List Value) → List String → List (List (String × Scalar))
  | [], _ => []
  | cells :: rest, ids =>
    documentRow field names columns cells ids.head? ::
      documentRows field names columns rest ids.tail

/-- The document of a table on a platform. -/
def document (platform : Platform) (field : String) (table : TypedTable) :
    Except ExportError TableDocument :=
  (table.rowNames platform field).map fun names => {
    rowCount := table.rows.length
    fingerprint := table.fingerprint
    header := table.documentHeader platform field names
    rows := documentRows field names table.columns table.rows table.ids }

end TypedTable

namespace TableDocument

/-- The document on many lines. -/
def text (document : TableDocument) : String :=
  Document.objectText 0 [
    ("infos", Document.objectText 1 [
      ("rowcount", toString document.rowCount),
      ("dataHashCode", toString document.fingerprint.toNat)]),
    ("header", Document.objectText 1
      (document.header.map fun (key, type) => (key, Document.textLiteral type))),
    ("rows", Document.arrayText 1
      (document.rows.map fun row =>
        Document.objectText 2 (row.map fun (key, cell) => (key, cell.written))))]

end TableDocument

end GameSheets

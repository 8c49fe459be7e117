/-
  Codecs: how the server's archive reads and writes a row.

  The archive knows plain types only, so a row passes through temporaries of plain types, one for
  each kept column.  Encoding fills the temporaries from the row; decoding fills the row from the
  temporaries.  Enumerations pass by name and composites by text.
-/
import GameSheets.Column.Slot
import GameSheets.Sheet.Schema

namespace GameSheets

/-- Where a row keeps a value. -/
inductive Place
  | field (name : String)
  | element (field : String) (offset : Nat)
  deriving DecidableEq, Repr

/-- A variable of a plain type, stored under the name of its column. -/
structure Temporary where
  name : String
  key : String
  storedType : String
  deriving DecidableEq, Repr

/-- One assignment between a temporary and a place. -/
inductive Transfer
  /-- The temporary takes the value of the place. -/
  | load (temporary : String) (place : Place)
  /-- The temporary takes the name of the enumerator in the place. -/
  | loadName (temporary : String) (place : Place)
  /-- The temporary takes the text of the composite in the place. -/
  | loadText (temporary : String) (place : Place)
  /-- The place takes the value of the temporary. -/
  | store (place : Place) (temporary : String)
  /-- The place takes the enumerator that the temporary names. -/
  | storeName (place : Place) (temporary enumType : String)
  /-- The place takes the composite that the temporary writes out. -/
  | storeText (place : Place) (temporary : String)
  deriving DecidableEq, Repr

/-- The temporaries of a row with the assignments of both directions. -/
structure Codec where
  temporaries : List Temporary
  encode : List Transfer
  decode : List Transfer
  deriving DecidableEq, Repr

namespace KeptColumn

/-- The place of the column's values. -/
def place (column : KeptColumn) : Place :=
  match Slot.ofName? column.name with
  | some slot => .element slot.fieldName slot.offset
  | none => .field column.name

/-- The name of the column's temporary. -/
def temporaryName (column : KeptColumn) : String :=
  "temp_" ++ column.name

/-- The column's temporary. -/
def temporary (column : KeptColumn) : Temporary :=
  ⟨column.temporaryName, column.name, column.base.storedName⟩

/-- The assignment that fills the temporary. -/
def encodeTransfer (column : KeptColumn) : Transfer :=
  if column.base.isEnumeration then .loadName column.temporaryName column.place
  else if column.base.isComposite then .loadText column.temporaryName column.place
  else .load column.temporaryName column.place

/-- The assignment that fills the place. -/
def decodeTransfer (column : KeptColumn) : Transfer :=
  if column.base.isEnumeration then
    .storeName column.place column.temporaryName (column.base.nativeName .server)
  else if column.base.isComposite then .storeText column.place column.temporaryName
  else .store column.place column.temporaryName

end KeptColumn

namespace Codec

/-- The codec of a row with these columns, in their order. -/
def ofColumns (columns : List KeptColumn) : Codec :=
  ⟨columns.map (·.temporary), columns.map (·.encodeTransfer), columns.map (·.decodeTransfer)⟩

end Codec

end GameSheets

/-
  Records: the row types that data sheets declare.

  A kept column declares a field, or a slot of an array that is declared by its slot of index 1.
  The slots of one key must have the indices from 1 to their number, one type, and one inclusion,
  over all columns of the sheet.  A client record starts with the row's name, which a string column
  of that name supplies when there is one.
-/
import GameSheets.Declaration.Codec
import GameSheets.Declaration.Error

namespace GameSheets

/-- How many values a field has. -/
inductive FieldShape
  | scalar
  | array (size : Nat)
  deriving DecidableEq, Repr

/-- What a scalar, or every slot of an array, starts as. -/
inductive FieldInit
  /-- Whatever the type's default is. -/
  | default
  /-- Zero, the empty text, or the composite of zeros. -/
  | zero
  /-- The enumerator of ordinal zero. -/
  | enumZero
  deriving DecidableEq, Repr

/-- Where a field comes from. -/
inductive FieldOrigin
  | column
  | rowName
  deriving DecidableEq, Repr

/-- A field of a record. -/
structure Field where
  name : String
  base : BaseType
  shape : FieldShape
  init : FieldInit
  origin : FieldOrigin
  deriving DecidableEq, Repr

/-- A row type; server records have a codec. -/
structure Record where
  name : String
  fields : List Field
  codec : Option Codec
  deriving DecidableEq, Repr

namespace Record

/-- The first field of the given name. -/
def field? (record : Record) (name : String) : Option Field :=
  record.fields.find? (·.name = name)

end Record

/-! ## Arrays -/

/-- A column of a key, with its index. -/
structure GroupMember where
  index : Nat
  column : Column
  deriving DecidableEq, Repr

namespace GroupMember

/-- The member that a column is of the given key. -/
def of? (key : String) (column : Column) : Option GroupMember :=
  match Slot.ofName? column.name with
  | some slot => if slot.key = key then some ⟨slot.index, column⟩ else none
  | none => none

/-- The first member that differs from another one in type or inclusion. -/
def firstDifference? (platform : Platform) (model : GroupMember) :
    List GroupMember → Option GroupFault
  | [] => none
  | member :: rest =>
    if member.column.type.base? ≠ model.column.type.base? then
      some (.typeDiffers member.column.name)
    else if member.column.type.includes platform ≠ model.column.type.includes platform then
      some (.inclusionDiffers member.column.name platform)
    else firstDifference? platform model rest

/-- What keeps the members from being an array, if anything does. -/
def fault? (platform : Platform) (members : List GroupMember) : Option GroupFault :=
  match members with
  | [] => some .noColumns
  | first :: rest =>
    let indices := members.map (·.index)
    let ascending := indices.mergeSort
    if ¬ indices.Nodup then some .repeatedIndex
    else if ascending ≠ List.range' 1 members.length then
      some (.gaps members.length ascending)
    else firstDifference? platform first rest

end GroupMember

/-! ## Fields -/

namespace KeptColumn

/-- The initial value of a scalar of the column's type. -/
def scalarInit (column : KeptColumn) : FieldInit :=
  if column.base.isEnumeration then .enumZero else .default

/-- The initial value of each slot; slots are never left as they come. -/
def slotInit (column : KeptColumn) : FieldInit :=
  if column.base.isEnumeration then .enumZero else .zero

/-- The field that a column declares among all columns of its sheet: a scalar, an array for the
slot of index 1, or nothing for the other slots. -/
def field? (sheet : String) (platform : Platform) (columns : List Column) (column : KeptColumn) :
    Except DeclarationError (Option Field) :=
  match Slot.ofName? column.name with
  | none => .ok (some ⟨column.name, column.base, .scalar, column.scalarInit, .column⟩)
  | some slot =>
    let members := columns.filterMap (GroupMember.of? slot.key)
    match GroupMember.fault? platform members with
    | some fault => .error (.badArray sheet column.name slot.key fault)
    | none =>
      if slot.index = 1 then
        .ok (some ⟨slot.fieldName, column.base, .array members.length, column.slotInit, .column⟩)
      else .ok none

/-- The fields of columns behind those already declared; names must differ. -/
def addFields (sheet : String) (platform : Platform) (columns : List Column) :
    List Field → List KeptColumn → Except DeclarationError (List Field)
  | fields, [] => .ok fields
  | fields, column :: rest =>
    match column.field? sheet platform columns with
    | .error cause => .error cause
    | .ok none => addFields sheet platform columns fields rest
    | .ok (some field) =>
      if field.name ∈ fields.map (·.name) then .error (.duplicateField sheet field.name)
      else addFields sheet platform columns (fields ++ [field]) rest

/-- The column supplies the row's name. -/
def suppliesRowName (rowName : String) (column : KeptColumn) : Bool :=
  column.name == rowName && column.base == .string

end KeptColumn

namespace Field

/-- The row's name, which leads a client record. -/
def rowName (name : String) : Field :=
  ⟨name, .string, .scalar, .default, .rowName⟩

end Field

namespace Record

/-- The row type that a data sheet declares on a platform. -/
def ofSheet (platform : Platform) (rowName : String) (sheet : Sheet) :
    Except DeclarationError Record :=
  match sheet.schema with
  | .error cause => .error (.schema cause)
  | .ok columns =>
    let kept := columns.filterMap (·.keptOn? platform)
    match platform with
    | .server =>
      (KeptColumn.addFields sheet.name platform columns [] kept).map fun fields =>
        ⟨sheet.name, fields, some (Codec.ofColumns kept)⟩
    | .client =>
      (KeptColumn.addFields sheet.name platform columns [Field.rowName rowName]
        (kept.filter (!·.suppliesRowName rowName))).map fun fields => ⟨sheet.name, fields, none⟩

end Record

namespace Workbook

/-- The row types of the data sheets, in order. -/
def records (workbook : Workbook) (platform : Platform) (rowName : String) :
    Except DeclarationError (List Record) :=
  workbook.dataSheets.mapM (Record.ofSheet platform rowName)

end Workbook

end GameSheets

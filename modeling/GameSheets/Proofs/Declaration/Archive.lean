/-
  Running the assignments of a codec.

  A memory holds the temporaries and the places of a row, in namespaces of their own.  Assignments
  run in order on a memory; one that looks a name up, or reads a composite, may fail.  What names
  and texts of values are is left to the native language: all that is asked of it is that values of
  a type come back from their names and texts.

  Structure of the argument:

  1. one step: an assignment of a column writes one temporary, or one place, and nothing else
     (`run?_encodeTransfer`, `run?_decodeTransfer`);
  2. one run: by induction on the columns, what a step wrote stays, because no later column has the
     same temporary (`runAll?_encode`) or the same place (`runAll?_decode`).
-/
import GameSheets.Declaration.Codec

namespace GameSheets

/-! ## Memories -/

/-- The values of the temporaries and of the places of a row. -/
structure Memory (V : Type) where
  temporaries : String → V
  places : Place → V

/-- What the native language knows of values: their types, and the names and texts under which
they are stored. -/
structure NativeValues (V : Type) where
  HasType : BaseType → V → Prop
  nameOf : V → V
  /-- The enumerator of a name, given the enumeration's native name. -/
  ofName? : String → V → Option V
  textOf : V → V
  ofText? : V → Option V

namespace NativeValues

variable {V : Type}

/-- Enumerators come back from their names, and composites from their texts. -/
structure Lossless (native : NativeValues V) : Prop where
  ofName?_nameOf : ∀ sheet value, native.HasType (.enumeration sheet) value →
    native.ofName? (BaseType.referenceTo sheet) (native.nameOf value) = some value
  ofText?_textOf : ∀ base value, base.isComposite = true → native.HasType base value →
    native.ofText? (native.textOf value) = some value

/-- The value that stands for one of the type in a temporary. -/
def stored (native : NativeValues V) (base : BaseType) (value : V) : V :=
  if base.isEnumeration then native.nameOf value
  else if base.isComposite then native.textOf value
  else value

/-- The value of the type for which one stands in a temporary. -/
def restored? (native : NativeValues V) (base : BaseType) (value : V) : Option V :=
  if base.isEnumeration then native.ofName? (base.nativeName .server) value
  else if base.isComposite then native.ofText? value
  else some value

/-- Storing loses nothing. -/
theorem restored?_stored {native : NativeValues V} (hlossless : native.Lossless)
    {base : BaseType} {value : V} (htype : native.HasType base value) :
    native.restored? base (native.stored base value) = some value := by
  unfold restored? stored
  cases base with
  | enumeration sheet => exact hlossless.ofName?_nameOf sheet value htype
  | vector => exact hlossless.ofText?_textOf .vector value rfl htype
  | rotator => exact hlossless.ofText?_textOf .rotator value rfl htype
  | int32 | int64 | float | double | string => rfl

end NativeValues

namespace Memory

variable {V : Type}

/-- The memory with another value in a temporary. -/
def setTemporary (memory : Memory V) (name : String) (value : V) : Memory V :=
  { memory with
    temporaries := fun other => if other = name then value else memory.temporaries other }

/-- The memory with another value in a place. -/
def setPlace (memory : Memory V) (place : Place) (value : V) : Memory V :=
  { memory with places := fun other => if other = place then value else memory.places other }

@[simp] theorem setTemporary_places (memory : Memory V) (name : String) (value : V) :
    (memory.setTemporary name value).places = memory.places := rfl

@[simp] theorem setPlace_temporaries (memory : Memory V) (place : Place) (value : V) :
    (memory.setPlace place value).temporaries = memory.temporaries := rfl

theorem setTemporary_self (memory : Memory V) (name : String) (value : V) :
    (memory.setTemporary name value).temporaries name = value :=
  if_pos rfl

theorem setTemporary_of_ne (memory : Memory V) {name other : String} (value : V)
    (h : other ≠ name) :
    (memory.setTemporary name value).temporaries other = memory.temporaries other :=
  if_neg h

theorem setPlace_self (memory : Memory V) (place : Place) (value : V) :
    (memory.setPlace place value).places place = value :=
  if_pos rfl

theorem setPlace_of_ne (memory : Memory V) {place other : Place} (value : V) (h : other ≠ place) :
    (memory.setPlace place value).places other = memory.places other :=
  if_neg h

end Memory

/-! ## Assignments -/

namespace Transfer

variable {V : Type}

/-- The temporary on one side of the assignment. -/
def temporary : Transfer → String
  | load temporary _ | loadName temporary _ | loadText temporary _ => temporary
  | store _ temporary | storeName _ temporary _ | storeText _ temporary => temporary

/-- The place on the other side. -/
def place : Transfer → Place
  | load _ place | loadName _ place | loadText _ place => place
  | store place _ | storeName place _ _ | storeText place _ => place

/-- The second assignment undoes the first: the same temporary and place, in the inverse way. -/
def UndoneBy : Transfer → Transfer → Prop
  | load temporary place, store place' temporary' => temporary = temporary' ∧ place = place'
  | loadName temporary place, storeName place' temporary' _ =>
    temporary = temporary' ∧ place = place'
  | loadText temporary place, storeText place' temporary' =>
    temporary = temporary' ∧ place = place'
  | _, _ => False

/-- Runs one assignment. -/
def run? (native : NativeValues V) (memory : Memory V) : Transfer → Option (Memory V)
  | load temporary place => some (memory.setTemporary temporary (memory.places place))
  | loadName temporary place =>
    some (memory.setTemporary temporary (native.nameOf (memory.places place)))
  | loadText temporary place =>
    some (memory.setTemporary temporary (native.textOf (memory.places place)))
  | store place temporary => some (memory.setPlace place (memory.temporaries temporary))
  | storeName place temporary enumType =>
    (native.ofName? enumType (memory.temporaries temporary)).map (memory.setPlace place)
  | storeText place temporary =>
    (native.ofText? (memory.temporaries temporary)).map (memory.setPlace place)

/-- Runs assignments in order, up to the first that fails. -/
def runAll? (native : NativeValues V) : Memory V → List Transfer → Option (Memory V)
  | memory, [] => some memory
  | memory, transfer :: rest =>
    match transfer.run? native memory with
    | none => none
    | some memory => runAll? native memory rest

end Transfer

namespace KeptColumn

variable {V : Type} {native : NativeValues V}

/-! ## One step -/

theorem run?_encodeTransfer (column : KeptColumn) (memory : Memory V) :
    column.encodeTransfer.run? native memory =
      some (memory.setTemporary column.temporaryName
        (native.stored column.base (memory.places column.place))) := by
  unfold encodeTransfer NativeValues.stored
  split
  · rfl
  · split
    · rfl
    · rfl

theorem run?_decodeTransfer (column : KeptColumn) (memory : Memory V) :
    column.decodeTransfer.run? native memory =
      (native.restored? column.base (memory.temporaries column.temporaryName)).map
        (memory.setPlace column.place) := by
  unfold decodeTransfer NativeValues.restored?
  split
  · rfl
  · split
    · rfl
    · rfl

/-- The two assignments of a column speak of its temporary and its place, in inverse ways. -/
theorem encodeTransfer_undoneBy (column : KeptColumn) :
    column.encodeTransfer.temporary = column.temporaryName ∧
      column.encodeTransfer.place = column.place ∧
      column.encodeTransfer.UndoneBy column.decodeTransfer := by
  unfold encodeTransfer decodeTransfer
  split
  · exact ⟨rfl, rfl, rfl, rfl⟩
  · split
    · exact ⟨rfl, rfl, rfl, rfl⟩
    · exact ⟨rfl, rfl, rfl, rfl⟩

/-! ## One run -/

variable (native) in
/-- Encoding changes no place and leaves in the temporary of every column what stands for the value
of its place. -/
theorem runAll?_encode {columns : List KeptColumn} (hnodup : (columns.map (·.temporaryName)).Nodup)
    (memory : Memory V) :
    ∃ encoded, Transfer.runAll? native memory (columns.map (·.encodeTransfer)) = some encoded ∧
      encoded.places = memory.places ∧
      (∀ column ∈ columns, encoded.temporaries column.temporaryName =
        native.stored column.base (memory.places column.place)) ∧
      ∀ name ∉ columns.map (·.temporaryName),
        encoded.temporaries name = memory.temporaries name := by
  induction columns generalizing memory with
  | nil => exact ⟨memory, rfl, rfl, fun _ h => absurd h List.not_mem_nil, fun _ _ => rfl⟩
  | cons column rest ih =>
    rw [List.map_cons, List.nodup_cons] at hnodup
    obtain ⟨hfresh, hrest⟩ := hnodup
    obtain ⟨encoded, hrun, hplaces, hwritten, hkept⟩ := ih hrest (memory.setTemporary
      column.temporaryName (native.stored column.base (memory.places column.place)))
    refine ⟨encoded, ?_, hplaces, ?_, ?_⟩
    · rw [List.map_cons, Transfer.runAll?, run?_encodeTransfer]
      exact hrun
    · -- the rest of the run leaves the temporary of the first column alone
      intro other hother
      rcases List.mem_cons.mp hother with rfl | hother
      · rw [hkept _ hfresh, Memory.setTemporary_self]
      · exact hwritten other hother
    · intro name hname
      rw [List.map_cons, List.mem_cons, not_or] at hname
      rw [hkept name hname.2, Memory.setTemporary_of_ne memory _ hname.1]

/-- Decoding changes no temporary and leaves in the place of every column the value for which its
temporary stands. -/
theorem runAll?_decode {columns : List KeptColumn} (hnodup : (columns.map (·.place)).Nodup)
    (value : KeptColumn → V) (memory : Memory V)
    (hvalues : ∀ column ∈ columns,
      native.restored? column.base (memory.temporaries column.temporaryName) =
        some (value column)) :
    ∃ decoded, Transfer.runAll? native memory (columns.map (·.decodeTransfer)) = some decoded ∧
      (∀ column ∈ columns, decoded.places column.place = value column) ∧
      ∀ place ∉ columns.map (·.place), decoded.places place = memory.places place := by
  induction columns generalizing memory with
  | nil => exact ⟨memory, rfl, fun _ h => absurd h List.not_mem_nil, fun _ _ => rfl⟩
  | cons column rest ih =>
    rw [List.map_cons, List.nodup_cons] at hnodup
    obtain ⟨hfresh, hrest⟩ := hnodup
    obtain ⟨decoded, hrun, hwritten, hkept⟩ := ih hrest
      (memory.setPlace column.place (value column))
      (fun other hother => hvalues other (List.mem_cons_of_mem _ hother))
    refine ⟨decoded, ?_, ?_, ?_⟩
    · rw [List.map_cons, Transfer.runAll?, run?_decodeTransfer,
        hvalues column List.mem_cons_self]
      exact hrun
    · -- the rest of the run leaves the place of the first column alone
      intro other hother
      rcases List.mem_cons.mp hother with rfl | hother
      · rw [hkept _ hfresh, Memory.setPlace_self]
      · exact hwritten other hother
    · intro place hplace
      rw [List.map_cons, List.mem_cons, not_or] at hplace
      rw [hkept place hplace.2, Memory.setPlace_of_ne memory _ hplace.1]

end KeptColumn

end GameSheets

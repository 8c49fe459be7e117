/-
  The fields of a record against the columns that declare them.

  Fields are added column by column, and the run that adds them can be said in one line: every
  column's group is sound, the fields are those of the columns in order, and their names differ
  (`addFields_eq_ok`, `Record.ofSheet_eq_ok`).  A run that fails stops at the first column that is at
  fault: its group is not sound, or its field has the name of one before it (`StopsAt`).
  From this the places of a record and the kept columns of its sheet determine each other:

  1. two kept columns with one place are one column (`eq_of_place_eq`): scalars by the names of
     their fields, slots by the indices of their group;
  2. the places that a record declares are those of its kept columns, with their types
     (`declares_iff`): an array of size `n` has a column for each of its `n` slots, and the column
     of index 1, which declares it, is kept where any column of the group is.
-/
import Mathlib.Data.List.Pairwise
import GameSheets.Proofs.Declaration.Groups
import GameSheets.Proofs.Sheet.Schema

namespace GameSheets

/-! ## Places -/

/-- The place of the values of a column that has the name. -/
def Place.ofColumn (name : String) : Place :=
  match Slot.ofName? name with
  | some slot => .element slot.fieldName slot.offset
  | none => .field name

theorem KeptColumn.place_eq (column : KeptColumn) : column.place = Place.ofColumn column.name :=
  rfl

/-- The place is the field, or one of the slots of an array. -/
def Field.Offers (field : Field) : Place → Prop
  | .field name => field.name = name ∧ field.shape = .scalar
  | .element name offset =>
    field.name = name ∧ ∃ size, field.shape = .array size ∧ offset < size

/-! ## What one column declares -/

namespace KeptColumn

variable {platform : Platform} {columns : List Column}

/-- The columns of a key's group. -/
def group (columns : List Column) (slot : Slot) : List GroupMember :=
  columns.filterMap (GroupMember.of? slot.key)

/-- The field that the column declares, its group being sound. -/
def fieldIn (columns : List Column) (column : KeptColumn) : Option Field :=
  match Slot.ofName? column.name with
  | none => some ⟨column.name, column.base, .scalar, column.scalarInit, .column⟩
  | some slot =>
    if slot.index = 1 then
      some ⟨slot.fieldName, column.base, .array (group columns slot).length, column.slotInit,
        .column⟩
    else none

/-- The column's group is sound, if it has one. -/
def Grouped (platform : Platform) (columns : List Column) (column : KeptColumn) : Prop :=
  ∀ slot, Slot.ofName? column.name = some slot →
    GroupMember.fault? platform (group columns slot) = none

/-- Where one array is all there is, its group is all that has to be sound. -/
theorem grouped_of_key {key : String} {kept : List KeptColumn}
    (hkeys : ∀ column ∈ kept, ∀ other ∈ (Slot.ofName? column.name).map Slot.key, other = key)
    (hsound : GroupMember.fault? platform (columns.filterMap (GroupMember.of? key)) = none) :
    ∀ column ∈ kept, column.Grouped platform columns := by
  intro column hcolumn slot hslot
  have hkey : slot.key = key := hkeys column hcolumn slot.key (by rw [hslot]; rfl)
  rw [group, hkey, hsound]

theorem fieldIn_eq_some {column : KeptColumn} {field : Field} :
    column.fieldIn columns = some field ↔
      Slot.ofName? column.name = none ∧
          field = ⟨column.name, column.base, .scalar, column.scalarInit, .column⟩ ∨
        ∃ slot, Slot.ofName? column.name = some slot ∧ slot.index = 1 ∧
          field = ⟨slot.fieldName, column.base, .array (group columns slot).length,
            column.slotInit, .column⟩ := by
  unfold fieldIn
  cases Slot.ofName? column.name with
  | none => simp [eq_comm]
  | some slot =>
    by_cases hfirst : slot.index = 1
    · simp [hfirst, eq_comm]
    · simp [hfirst]

theorem field?_eq_ok {sheet : String} {column : KeptColumn} {field : Option Field} :
    column.field? sheet platform columns = .ok field ↔
      column.Grouped platform columns ∧ column.fieldIn columns = field := by
  unfold field? Grouped fieldIn group
  cases Slot.ofName? column.name with
  | none => simp
  | some slot =>
    simp only [Option.some.injEq, forall_eq']
    split
    · rename_i hfault
      simp [hfault]
    · rename_i hsound
      split
      · simp [hsound]
      · simp [hsound]

/-- The run that adds fields, in one line. -/
theorem addFields_eq_ok {sheet : String} {fields result : List Field} {kept : List KeptColumn}
    (hfields : (fields.map (·.name)).Nodup) :
    addFields sheet platform columns fields kept = .ok result ↔
      (∀ column ∈ kept, column.Grouped platform columns) ∧
        result = fields ++ kept.filterMap (·.fieldIn columns) ∧ (result.map (·.name)).Nodup := by
  induction kept generalizing fields with
  | nil =>
    rw [addFields, Except.ok.injEq]
    constructor
    · rintro rfl
      exact ⟨fun _ h => absurd h List.not_mem_nil, by simp, hfields⟩
    · rintro ⟨-, rfl, -⟩
      simp
  | cons column rest ih =>
    rw [List.forall_mem_cons]
    cases hfield : column.field? sheet platform columns with
    | error cause =>
      have hnot : ¬ column.Grouped platform columns := by
        intro hgrouped
        have hok : column.field? sheet platform columns = .ok (column.fieldIn columns) :=
          field?_eq_ok.mpr ⟨hgrouped, rfl⟩
        rw [hfield] at hok
        cases hok
      simp [addFields, hfield, hnot]
    | ok declared =>
      obtain ⟨hgrouped, hdeclared⟩ := field?_eq_ok.mp hfield
      cases declared with
      | none =>
        simp only [addFields, hfield, List.filterMap_cons_none hdeclared, hgrouped, true_and]
        exact ih hfields
      | some field =>
        simp only [addFields, hfield, List.filterMap_cons_some hdeclared, hgrouped, true_and]
        split
        · -- the name is taken: the fields together would have it twice
          rename_i htaken
          constructor
          · intro h
            cases h
          · rintro ⟨-, rfl, hnodup⟩
            rw [List.map_append, List.map_cons, List.nodup_append] at hnodup
            exact absurd rfl (hnodup.2.2 _ htaken _ List.mem_cons_self)
        · rename_i hfresh
          have hnodup : ((fields ++ [field]).map (·.name)).Nodup := by
            rw [List.map_append, List.nodup_append]
            refine ⟨hfields, List.nodup_singleton _, ?_⟩
            intro name hname other hother heq
            obtain rfl := List.mem_singleton.mp hother
            rw [show name = field.name from heq] at hname
            exact hfresh hname
          rw [ih hnodup, List.append_assoc, List.singleton_append]

/-! ## Where a run stops -/

/-- The column's key makes no array, and the error says so of it. -/
def Unsound (sheet : String) (platform : Platform) (columns : List Column) (column : KeptColumn)
    (cause : DeclarationError) : Prop :=
  ∃ slot fault, Slot.ofName? column.name = some slot ∧
    GroupMember.fault? platform (group columns slot) = some fault ∧
    cause = .badArray sheet column.name slot.key fault

/-- The column's field has the name of one of the fields, and the error says so. -/
def Repeats (sheet : String) (columns : List Column) (fields : List Field) (column : KeptColumn)
    (cause : DeclarationError) : Prop :=
  ∃ field, column.fieldIn columns = some field ∧ field.name ∈ fields.map (·.name) ∧
    cause = .duplicateField sheet field.name

theorem field?_eq_error {sheet : String} {column : KeptColumn} {cause : DeclarationError} :
    column.field? sheet platform columns = .error cause ↔
      column.Unsound sheet platform columns cause := by
  unfold field? Unsound group
  cases Slot.ofName? column.name with
  | none => simp
  | some slot =>
    dsimp only
    cases hfault : GroupMember.fault? platform (columns.filterMap (GroupMember.of? slot.key)) with
    | some fault =>
      constructor
      · intro h
        exact ⟨slot, fault, rfl, hfault, (Except.error.inj h).symm⟩
      · rintro ⟨_, other, ⟨⟩, hother, rfl⟩
        obtain rfl := Option.some.inj (hfault.symm.trans hother)
        rfl
    | none =>
      constructor
      · intro h
        by_cases hfirst : slot.index = 1
        · rw [if_pos hfirst] at h
          cases h
        · rw [if_neg hfirst] at h
          cases h
      · rintro ⟨_, other, ⟨⟩, hother, -⟩
        rw [hfault] at hother
        cases hother

/-- A run behind fields stops at a column: the groups of those before it are sound, and its own is
not, or its field has a name that is taken. -/
structure StopsAt (sheet : String) (platform : Platform) (columns : List Column)
    (fields : List Field) (before : List KeptColumn) (column : KeptColumn)
    (cause : DeclarationError) : Prop where
  before_grouped : ∀ other ∈ before, other.Grouped platform columns
  at_fault : column.Unsound sheet platform columns cause ∨
    column.Grouped platform columns ∧
      column.Repeats sheet columns (fields ++ before.filterMap (·.fieldIn columns)) cause

/-- What stops a run behind a sound column stops the run with that column. -/
theorem StopsAt.cons {sheet : String} {fields more : List Field} {before : List KeptColumn}
    {column next : KeptColumn} {cause : DeclarationError}
    (h : StopsAt sheet platform columns more before next cause)
    (hgrouped : column.Grouped platform columns)
    (hmore : more = fields ++ (column.fieldIn columns).toList) :
    StopsAt sheet platform columns fields (column :: before) next cause := by
  refine ⟨?_, ?_⟩
  · intro other hother
    rcases List.mem_cons.mp hother with rfl | hother
    · exact hgrouped
    · exact h.before_grouped other hother
  · have hfields : fields ++ (column :: before).filterMap (·.fieldIn columns) =
        more ++ before.filterMap (·.fieldIn columns) := by
      rw [hmore, List.append_assoc]
      cases hfield : column.fieldIn columns with
      | none => rw [List.filterMap_cons_none hfield]; rfl
      | some field => rw [List.filterMap_cons_some hfield]; rfl
    rw [hfields]
    exact h.at_fault

/-- A run that fails stops at a column. -/
theorem exists_stop_of_addFields {sheet : String} {fields : List Field}
    {kept : List KeptColumn} {cause : DeclarationError}
    (h : addFields sheet platform columns fields kept = .error cause) :
    ∃ before column after, kept = before ++ column :: after ∧
      StopsAt sheet platform columns fields before column cause := by
  induction kept generalizing fields with
  | nil => cases h
  | cons column rest ih =>
    rw [addFields] at h
    cases hfield : column.field? sheet platform columns with
    | error other =>
      rw [hfield] at h
      obtain rfl := Except.error.inj h
      exact ⟨[], column, rest, rfl, fun _ hmem => absurd hmem List.not_mem_nil,
        .inl (field?_eq_error.mp hfield)⟩
    | ok declared =>
      obtain ⟨hgrouped, hdeclared⟩ := field?_eq_ok.mp hfield
      rw [hfield] at h
      cases declared with
      | none =>
        obtain ⟨before, next, after, hrest, hstops⟩ := ih h
        refine ⟨column :: before, next, after, by rw [hrest]; rfl, hstops.cons hgrouped ?_⟩
        rw [hdeclared, Option.toList_none, List.append_nil]
      | some field =>
        dsimp only at h
        split at h
        · rename_i htaken
          obtain rfl := Except.error.inj h
          refine ⟨[], column, rest, rfl, fun _ hmem => absurd hmem List.not_mem_nil,
            .inr ⟨hgrouped, field, hdeclared, ?_, rfl⟩⟩
          rw [List.filterMap_nil, List.append_nil]
          exact htaken
        · obtain ⟨before, next, after, hrest, hstops⟩ := ih h
          refine ⟨column :: before, next, after, by rw [hrest]; rfl, hstops.cons hgrouped ?_⟩
          rw [hdeclared, Option.toList_some]

/-! ## Kept columns of one sheet -/

/-- Every index of a sound group has a kept column, once one of its columns is kept. -/
theorem exists_kept_of_index {column : KeptColumn} {slot : Slot} {index : Nat}
    (hcolumn : column ∈ columns.filterMap (·.keptOn? platform))
    (hslot : Slot.ofName? column.name = some slot) (hgrouped : column.Grouped platform columns)
    (hindex : index ∈ List.range' 1 (group columns slot).length) :
    ∃ other ∈ columns.filterMap (·.keptOn? platform),
      Slot.ofName? other.name = some ⟨slot.key, index⟩ ∧ other.base = column.base := by
  obtain ⟨source, hsource, hkept⟩ := List.mem_filterMap.mp hcolumn
  obtain ⟨hincluded, hbase, -, hname, -⟩ := Column.keptOn?_eq_some.mp hkept
  obtain ⟨-, hrange, huniform⟩ := GroupMember.fault?_eq_none.mp (hgrouped slot hslot)
  have hself : ⟨slot.index, source⟩ ∈ group columns slot :=
    GroupMember.mem_group.mpr ⟨hsource, hname ▸ hslot⟩
  obtain ⟨member, hmember, rfl⟩ := List.mem_map.mp (hrange.mem_iff.mpr hindex)
  obtain ⟨hmemberColumn, hmemberSlot⟩ := GroupMember.mem_group.mp hmember
  obtain ⟨hsameBase, hsameInclusion⟩ := huniform _ hmember _ hself
  refine ⟨⟨member.column.position, member.column.name, member.column.declared, column.base,
    member.column.type.isNullable⟩, List.mem_filterMap.mpr ⟨member.column, hmemberColumn, ?_⟩,
    hmemberSlot, rfl⟩
  exact Column.keptOn?_eq_some.mpr
    ⟨hsameInclusion.trans hincluded, hsameBase.trans hbase, rfl, rfl, rfl, rfl⟩

/-- A kept column is a member of its own group. -/
theorem group_ne_nil {column : KeptColumn} {slot : Slot}
    (hcolumn : column ∈ columns.filterMap (·.keptOn? platform))
    (hslot : Slot.ofName? column.name = some slot) : group columns slot ≠ [] := by
  obtain ⟨source, hsource, hkept⟩ := List.mem_filterMap.mp hcolumn
  have hname := (Column.keptOn?_eq_some.mp hkept).2.2.2.1
  have hself : ⟨slot.index, source⟩ ∈ group columns slot :=
    GroupMember.mem_group.mpr ⟨hsource, hname ▸ hslot⟩
  exact List.ne_nil_of_mem hself

/-- The index of a slot lies in the range of its group. -/
theorem index_mem_range' {column : KeptColumn} {slot : Slot}
    (hcolumn : column ∈ columns.filterMap (·.keptOn? platform))
    (hslot : Slot.ofName? column.name = some slot) (hgrouped : column.Grouped platform columns) :
    slot.index ∈ List.range' 1 (group columns slot).length := by
  obtain ⟨source, hsource, hkept⟩ := List.mem_filterMap.mp hcolumn
  obtain ⟨-, -, -, hname, -⟩ := Column.keptOn?_eq_some.mp hkept
  obtain ⟨-, hrange, -⟩ := GroupMember.fault?_eq_none.mp (hgrouped slot hslot)
  have hself : ⟨slot.index, source⟩ ∈ group columns slot :=
    GroupMember.mem_group.mpr ⟨hsource, hname ▸ hslot⟩
  exact hrange.mem_iff.mp (List.mem_map_of_mem hself)

/-- Every place of a field has a kept column of the field's type, once the field is declared. -/
theorem exists_kept_of_offers {column : KeptColumn} {field : Field} {place : Place}
    (hcolumn : column ∈ columns.filterMap (·.keptOn? platform))
    (hgrouped : column.Grouped platform columns) (hfield : column.fieldIn columns = some field)
    (hoffers : field.Offers place) :
    ∃ other ∈ columns.filterMap (·.keptOn? platform),
      other.place = place ∧ other.base = field.base := by
  rcases fieldIn_eq_some.mp hfield with ⟨hscalar, rfl⟩ | ⟨slot, hslot, -, rfl⟩
  · cases place with
    | field name =>
      obtain ⟨rfl, -⟩ := hoffers
      exact ⟨column, hcolumn, by rw [place, hscalar], rfl⟩
    | element name offset =>
      obtain ⟨-, size, hshape, -⟩ := hoffers
      cases hshape
  · cases place with
    | field name => cases hoffers.2
    | element name offset =>
      obtain ⟨rfl, size, hshape, hoffset⟩ := hoffers
      obtain rfl := FieldShape.array.inj hshape
      have hindex : offset + 1 ∈ List.range' 1 (group columns slot).length := by
        rw [List.mem_range'_1]
        omega
      obtain ⟨other, hother, hotherSlot, hbase⟩ :=
        exists_kept_of_index hcolumn hslot hgrouped hindex
      refine ⟨other, hother, ?_, hbase⟩
      rw [place, hotherSlot]
      rfl

/-- The place of a kept column is one of a field of its type: of its own field, or of the array that
the first slot of its group declares. -/
theorem exists_offers_of_kept {column : KeptColumn}
    (hcolumn : column ∈ columns.filterMap (·.keptOn? platform))
    (hgrouped : column.Grouped platform columns) :
    ∃ first ∈ columns.filterMap (·.keptOn? platform), ∃ field,
      first.fieldIn columns = some field ∧ field.base = column.base ∧
        field.Offers column.place ∧
          (first = column ∨ ∃ slot, Slot.ofName? column.name = some slot ∧
            Slot.ofName? first.name = some ⟨slot.key, 1⟩) := by
  cases hslot : Slot.ofName? column.name with
  | none =>
    refine ⟨column, hcolumn, _, fieldIn_eq_some.mpr (.inl ⟨hslot, rfl⟩), rfl, ?_, .inl rfl⟩
    rw [place, hslot]
    exact ⟨rfl, rfl⟩
  | some slot =>
    have hindex := index_mem_range' hcolumn hslot hgrouped
    rw [List.mem_range'_1] at hindex
    -- the column of index 1 declares the array
    have hone : 1 ∈ List.range' 1 (group columns slot).length := by
      rw [List.mem_range'_1]
      omega
    obtain ⟨first, hfirst, hfirstSlot, hbase⟩ :=
      exists_kept_of_index hcolumn hslot hgrouped hone
    refine ⟨first, hfirst, _, fieldIn_eq_some.mpr (.inr ⟨_, hfirstSlot, rfl, rfl⟩), hbase, ?_,
      .inr ⟨slot, rfl, hfirstSlot⟩⟩
    rw [place, hslot]
    refine ⟨rfl, _, rfl, ?_⟩
    show slot.index - 1 < (group columns slot).length
    omega

/-- Columns of one slot of a sound group are one column. -/
theorem eq_of_slot_eq {column other : KeptColumn} {slot : Slot}
    (hcolumn : column ∈ columns.filterMap (·.keptOn? platform))
    (hother : other ∈ columns.filterMap (·.keptOn? platform))
    (hslot : Slot.ofName? column.name = some slot)
    (hotherSlot : Slot.ofName? other.name = some slot)
    (hgrouped : column.Grouped platform columns) : column = other := by
  obtain ⟨source, hsource, hkept⟩ := List.mem_filterMap.mp hcolumn
  obtain ⟨otherSource, hotherSource, hotherKept⟩ := List.mem_filterMap.mp hother
  have hname := (Column.keptOn?_eq_some.mp hkept).2.2.2.1
  have hotherName := (Column.keptOn?_eq_some.mp hotherKept).2.2.2.1
  obtain ⟨-, hrange, -⟩ := GroupMember.fault?_eq_none.mp (hgrouped slot hslot)
  have hindices : ((group columns slot).map (·.index)).Nodup :=
    hrange.nodup_iff.mpr List.nodup_range'
  have hmember : ⟨slot.index, source⟩ ∈ group columns slot :=
    GroupMember.mem_group.mpr ⟨hsource, hname ▸ hslot⟩
  have hotherMember : ⟨slot.index, otherSource⟩ ∈ group columns slot :=
    GroupMember.mem_group.mpr ⟨hotherSource, hotherName ▸ hotherSlot⟩
  obtain ⟨-, rfl⟩ := GroupMember.mk.inj
    (List.inj_on_of_nodup_map hindices hmember hotherMember rfl)
  exact Option.some.inj (hkept.symm.trans hotherKept)

/-- Columns whose fields have one name are one column. -/
theorem eq_of_fieldIn_name_eq {kept : List KeptColumn} {column other : KeptColumn}
    {field otherField : Field}
    (hnames : ((kept.filterMap (·.fieldIn columns)).map (·.name)).Nodup)
    (hcolumn : column ∈ kept) (hother : other ∈ kept)
    (hfield : column.fieldIn columns = some field)
    (hotherField : other.fieldIn columns = some otherField)
    (hname : field.name = otherField.name) : column = other := by
  rw [List.Nodup, List.pairwise_map, List.pairwise_filterMap] at hnames
  by_contra hne
  have hsymmetric : Std.Symm fun first second : KeptColumn =>
      ∀ a, first.fieldIn columns = some a → ∀ b, second.fieldIn columns = some b →
        a.name ≠ b.name :=
    ⟨fun first second h a ha b hb heq => h b hb a ha heq.symm⟩
  exact hnames.forall hcolumn hother hne field hfield otherField hotherField hname

/-- Kept columns of one place are one column. -/
theorem eq_of_place_eq {column other : KeptColumn}
    (hgrouped : ∀ column ∈ columns.filterMap (·.keptOn? platform),
      column.Grouped platform columns)
    (hnames : (((columns.filterMap (·.keptOn? platform)).filterMap (·.fieldIn columns)).map
      (·.name)).Nodup)
    (hcolumn : column ∈ columns.filterMap (·.keptOn? platform))
    (hother : other ∈ columns.filterMap (·.keptOn? platform))
    (hplace : column.place = other.place) : column = other := by
  unfold place at hplace
  cases hslot : Slot.ofName? column.name with
  | none =>
    cases hotherSlot : Slot.ofName? other.name with
    | none =>
      rw [hslot, hotherSlot] at hplace
      exact eq_of_fieldIn_name_eq hnames hcolumn hother (by rw [fieldIn, hslot])
        (by rw [fieldIn, hotherSlot]) (Place.field.inj hplace)
    | some otherSlot =>
      rw [hslot, hotherSlot] at hplace
      cases hplace
  | some slot =>
    cases hotherSlot : Slot.ofName? other.name with
    | none =>
      rw [hslot, hotherSlot] at hplace
      cases hplace
    | some otherSlot =>
      rw [hslot, hotherSlot] at hplace
      obtain ⟨hfieldName, hoffset⟩ := Place.element.inj hplace
      have hsame := Slot.eq_of_fieldName_of_offset hslot hotherSlot hfieldName hoffset
      exact eq_of_slot_eq hcolumn hother hslot (hsame ▸ hotherSlot) (hgrouped column hcolumn)

end KeptColumn

/-! ## The places of a record -/

namespace Record

/-- The record declares the place, with values of the type: a scalar of that name, or an array of
that name that is long enough. -/
def Declares (record : Record) (base : BaseType) : Place → Prop
  | .field name =>
    ∃ field ∈ record.fields, field.name = name ∧ field.base = base ∧ field.shape = .scalar
  | .element name offset =>
    ∃ field ∈ record.fields, field.name = name ∧ field.base = base ∧
      ∃ size, field.shape = .array size ∧ offset < size

/-- The fields that a record starts with. -/
def leading (rowName : String) : Platform → List Field
  | .server => []
  | .client => [Field.rowName rowName]

/-- The kept columns that declare the other fields. -/
def declarers (rowName : String) (columns : List Column) : Platform → List KeptColumn
  | .server => columns.filterMap (·.keptOn? .server)
  | .client => (columns.filterMap (·.keptOn? .client)).filter (!·.suppliesRowName rowName)

/-- The codec of a record, where records have one. -/
def codecOf? (columns : List Column) : Platform → Option Codec
  | .server => some (Codec.ofColumns (columns.filterMap (·.keptOn? .server)))
  | .client => none

section Runs

variable {platform : Platform} {rowName : String} {sheet : Sheet} {columns : List Column}

theorem mem_kept_of_mem_declarers {kept : KeptColumn}
    (h : kept ∈ declarers rowName columns platform) :
    kept ∈ columns.filterMap (·.keptOn? platform) := by
  cases platform with
  | server => exact h
  | client => exact List.mem_of_mem_filter h

theorem nodup_leading : ((leading rowName platform).map (·.name)).Nodup := by
  cases platform with
  | server => exact List.nodup_nil
  | client => exact List.nodup_singleton _

/-- A record is what one run over the declaring columns makes of the leading fields. -/
theorem ofSheet_eq_map (hschema : sheet.schema = .ok columns) :
    ofSheet platform rowName sheet =
      (KeptColumn.addFields sheet.name platform columns (leading rowName platform)
        (declarers rowName columns platform)).map fun fields =>
          ⟨sheet.name, fields, codecOf? columns platform⟩ := by
  unfold ofSheet
  rw [hschema]
  cases platform with
  | server | client => rfl

/-- A record is declared by the declaring columns of its sheet, each of them once, behind the fields
that lead. -/
theorem ofSheet_eq_ok {record : Record} :
    ofSheet platform rowName sheet = .ok record ↔
      ∃ columns, sheet.schema = .ok columns ∧
        (∀ column ∈ declarers rowName columns platform, column.Grouped platform columns) ∧
        (record.fields.map (·.name)).Nodup ∧
        record = ⟨sheet.name,
          leading rowName platform ++
            (declarers rowName columns platform).filterMap (·.fieldIn columns),
          codecOf? columns platform⟩ := by
  cases hschema : sheet.schema with
  | error cause =>
    unfold ofSheet
    simp [hschema]
  | ok columns =>
    simp only [Except.ok.injEq, exists_eq_left']
    rw [ofSheet_eq_map hschema, Outcome.map_eq_ok]
    constructor
    · rintro ⟨fields, hfields, rfl⟩
      obtain ⟨hgrouped, rfl, hnames⟩ := (KeptColumn.addFields_eq_ok nodup_leading).mp hfields
      exact ⟨hgrouped, hnames, rfl⟩
    · rintro ⟨hgrouped, hnames, hrecord⟩
      refine ⟨record.fields, (KeptColumn.addFields_eq_ok nodup_leading).mpr
        ⟨hgrouped, ?_, hnames⟩, ?_⟩
      · rw [hrecord]
      · rw [hrecord]

/-- A sheet with a schema that is refused stops at a declaring column. -/
theorem exists_stop_of_ofSheet {cause : DeclarationError} (hschema : sheet.schema = .ok columns)
    (h : ofSheet platform rowName sheet = .error cause) :
    ∃ before column after, declarers rowName columns platform = before ++ column :: after ∧
      KeptColumn.StopsAt sheet.name platform columns (leading rowName platform) before column
        cause := by
  rw [ofSheet_eq_map hschema] at h
  exact KeptColumn.exists_stop_of_addFields (Outcome.map_eq_error.mp h)

end Runs

/-- A server record is declared by the kept columns of its sheet, each of them once. -/
theorem ofSheet_server_eq_ok {rowName : String} {sheet : Sheet} {record : Record} :
    ofSheet .server rowName sheet = .ok record ↔
      ∃ columns, sheet.schema = .ok columns ∧
        (∀ column ∈ columns.filterMap (·.keptOn? .server), column.Grouped .server columns) ∧
        (record.fields.map (·.name)).Nodup ∧
        record = ⟨sheet.name,
          (columns.filterMap (·.keptOn? .server)).filterMap (·.fieldIn columns),
          some (Codec.ofColumns (columns.filterMap (·.keptOn? .server)))⟩ :=
  ofSheet_eq_ok

/-- The places of a record are those of its fields. -/
theorem declares_iff_offers {record : Record} {base : BaseType} {place : Place} :
    record.Declares base place ↔
      ∃ field ∈ record.fields, field.base = base ∧ field.Offers place := by
  cases place with
  | field name =>
    constructor
    · rintro ⟨field, hfield, hname, hbase, hshape⟩
      exact ⟨field, hfield, hbase, hname, hshape⟩
    · rintro ⟨field, hfield, hbase, hname, hshape⟩
      exact ⟨field, hfield, hname, hbase, hshape⟩
  | element name offset =>
    constructor
    · rintro ⟨field, hfield, hname, hbase, hsize⟩
      exact ⟨field, hfield, hbase, hname, hsize⟩
    · rintro ⟨field, hfield, hbase, hname, hsize⟩
      exact ⟨field, hfield, hname, hbase, hsize⟩

/-- The places of a record are those of the kept columns. -/
theorem declares_iff {platform : Platform} {columns : List Column} {record : Record}
    {base : BaseType} {place : Place}
    (hgrouped : ∀ column ∈ columns.filterMap (·.keptOn? platform),
      column.Grouped platform columns)
    (hfields : record.fields =
      (columns.filterMap (·.keptOn? platform)).filterMap (·.fieldIn columns)) :
    record.Declares base place ↔
      ∃ column ∈ columns.filterMap (·.keptOn? platform),
        column.place = place ∧ column.base = base := by
  rw [declares_iff_offers, hfields]
  constructor
  · rintro ⟨field, hfield, rfl, hoffers⟩
    obtain ⟨column, hcolumn, hdeclared⟩ := List.mem_filterMap.mp hfield
    exact KeptColumn.exists_kept_of_offers hcolumn (hgrouped column hcolumn) hdeclared hoffers
  · rintro ⟨column, hcolumn, rfl, rfl⟩
    obtain ⟨first, hfirst, field, hfield, hbase, hoffers, -⟩ :=
      KeptColumn.exists_offers_of_kept hcolumn (hgrouped column hcolumn)
    exact ⟨field, List.mem_filterMap.mpr ⟨first, hfirst, hfield⟩, hbase, hoffers⟩

end Record

namespace Workbook

/-- Records have the names of their sheets. -/
theorem names_of_records {workbook : Workbook} {platform : Platform} {rowName : String}
    {records : List Record} (h : workbook.records platform rowName = .ok records) :
    records.map (·.name) = workbook.dataSheets.map (·.name) := by
  refine (Outcome.map_eq_map (Outcome.mapM_eq_ok.mp h) ?_).symm
  intro sheet record hrecord
  obtain ⟨_, -, -, -, hmade⟩ := Record.ofSheet_eq_ok.mp hrecord
  exact (congrArg Record.name hmade).symm

end Workbook

end GameSheets

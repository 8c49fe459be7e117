/-
  When the columns of one key make an array.

  The check of a group looks at its members one by one; what it decides is a property of the group
  as a whole.  A group is sound exactly where the indices of its members are those from 1 to their
  number, in any order, and where all members have one type and one inclusion.  So every index
  from 1 on has one column, and every column of the group is kept where one of them is.
-/
import Mathlib.Data.List.Sort
import GameSheets.Declaration.Record
import GameSheets.Proofs.Column.Slots

namespace GameSheets

namespace GroupMember

variable {platform : Platform}

/-- The members of a key's group are the columns with a slot of that key. -/
theorem mem_group {key : String} {columns : List Column} {member : GroupMember} :
    member ∈ columns.filterMap (of? key) ↔
      member.column ∈ columns ∧ Slot.ofName? member.column.name = some ⟨key, member.index⟩ := by
  rw [List.mem_filterMap]
  constructor
  · rintro ⟨column, hcolumn, hmember⟩
    unfold of? at hmember
    split at hmember
    · rename_i slot hslot
      split at hmember
      · rename_i hkey
        obtain rfl := Option.some.inj hmember
        obtain ⟨slotKey, index⟩ := slot
        obtain rfl : slotKey = key := hkey
        exact ⟨hcolumn, hslot⟩
      · cases hmember
    · cases hmember
  · rintro ⟨hcolumn, hslot⟩
    refine ⟨member.column, hcolumn, ?_⟩
    simp only [of?, hslot, if_true]

/-- The members agree in type and inclusion. -/
def Uniform (platform : Platform) (members : List GroupMember) : Prop :=
  ∀ member ∈ members, ∀ other ∈ members,
    member.column.type.base? = other.column.type.base? ∧
      member.column.type.includes platform = other.column.type.includes platform

/-- No member differs from a model exactly where all agree with it. -/
theorem firstDifference?_eq_none {model : GroupMember} {members : List GroupMember} :
    firstDifference? platform model members = none ↔
      ∀ member ∈ members, member.column.type.base? = model.column.type.base? ∧
        member.column.type.includes platform = model.column.type.includes platform := by
  induction members with
  | nil => simp [firstDifference?]
  | cons member rest ih =>
    rw [firstDifference?, List.forall_mem_cons]
    split
    · rename_i htype
      simp [htype]
    · rename_i htype
      split
      · rename_i hincluded
        simp [hincluded]
      · rename_i hincluded
        rw [ih]
        simp [not_not.mp htype, not_not.mp hincluded]

/-- All members agree where all agree with the first. -/
theorem uniform_cons {model : GroupMember} {members : List GroupMember} :
    Uniform platform (model :: members) ↔
      ∀ member ∈ members, member.column.type.base? = model.column.type.base? ∧
        member.column.type.includes platform = model.column.type.includes platform := by
  constructor
  · intro h member hmember
    exact h member (List.mem_cons_of_mem _ hmember) model List.mem_cons_self
  · intro h
    have hmodel : ∀ member ∈ model :: members,
        member.column.type.base? = model.column.type.base? ∧
          member.column.type.includes platform = model.column.type.includes platform := by
      intro member hmember
      rcases List.mem_cons.mp hmember with rfl | hmember
      · exact ⟨rfl, rfl⟩
      · exact h member hmember
    intro member hmember other hother
    have hleft := hmodel member hmember
    have hright := hmodel other hother
    exact ⟨hleft.1.trans hright.1.symm, hleft.2.trans hright.2.symm⟩

/-- Numbers run from 1 to their number once sorted where they do so in any order. -/
theorem mergeSort_eq_range'_iff {indices : List Nat} {size : Nat} :
    indices.mergeSort = List.range' 1 size ↔ indices.Perm (List.range' 1 size) := by
  constructor
  · intro h
    rw [← h]
    exact (List.mergeSort_perm indices _).symm
  · intro h
    exact ((List.mergeSort_perm indices _).trans h).eq_of_pairwise'
      (List.pairwise_mergeSort' (· ≤ ·) indices) (List.pairwise_le_range' 1)

/-- What the check of a group decides. -/
theorem fault?_eq_none {members : List GroupMember} :
    fault? platform members = none ↔
      members ≠ [] ∧ (members.map (·.index)).Perm (List.range' 1 members.length) ∧
        Uniform platform members := by
  cases members with
  | nil => simp [fault?]
  | cons model rest =>
    rw [fault?, ← mergeSort_eq_range'_iff, uniform_cons, ← firstDifference?_eq_none]
    simp only [ne_eq, reduceCtorEq, not_false_eq_true, true_and]
    split
    · -- an index is repeated, which no permutation of a range has
      rename_i hrepeated
      constructor
      · intro h
        cases h
      · rintro ⟨hrange, -⟩
        have hperm := mergeSort_eq_range'_iff.mp hrange
        exact absurd (hperm.nodup_iff.mpr List.nodup_range') hrepeated
    · split
      · -- the sorted indices are not the range
        rename_i hgaps
        constructor
        · intro h
          cases h
        · rintro ⟨hrange, -⟩
          exact absurd hrange hgaps
      · rename_i hrange
        exact ⟨fun h => ⟨not_not.mp hrange, h⟩, fun h => h.2⟩

end GroupMember

end GameSheets

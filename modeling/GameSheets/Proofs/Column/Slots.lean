/-
  Names of slots.

  A column is a slot of an array where its name is a key, an underscore and a numeral.  The key may
  have underscores and digits of its own, and still there is one way only to take the name apart:
  numerals have no underscores, so that the last one of the name stands in front of the index.

    Drop_Item_2_007        slot 7 of the key Drop_Item_2

  1. A name is read as a slot exactly where the slot is written so, its key is not empty, and its
     index is counted from 1 and fits in 64 bits (`ofName?_eq_some_iff`).  A name with a greater
     index, like any other name, is that of a scalar.
  2. A printed slot is read back.  The names of a slot differ from its print in nothing but zeros in
     front of the index (`writtenAs_iff_zeros`).
  3. A slot is known from its array and its place in it, since the name of an array gives its key
     (`key_eq_of_fieldName`) and a place gives its index (`offset_add_one`).
-/
import Mathlib.Data.List.Basic
import GameSheets.Column.Slot
import GameSheets.Comment
import GameSheets.Proofs.Number.Numerals

namespace GameSheets.Slot

/-! ## Written slots -/

/-- A slot that sheets can write: its key is not empty, and its index is counted from 1 and fits in
64 bits. -/
structure WellFormed (slot : Slot) : Prop where
  key_ne : slot.key ≠ ""
  one_le : 1 ≤ slot.index
  lt_size : slot.index < UInt64.size

theorem WellFormed.toList_key_ne {slot : Slot} (h : slot.WellFormed) : slot.key.toList ≠ [] := by
  intro hnil
  exact h.key_ne (String.toList_eq_nil_iff.mp hnil)

/-- The name is the slot's key, an underscore, and a run of digits that denotes the slot's index. -/
def WrittenAs (slot : Slot) (name : String) : Prop :=
  ∃ digits, Number.Denotes digits slot.index ∧ name = slot.key ++ "_" ++ String.ofList digits

/-- The slot's name with its index as numbers are printed. -/
def printed (slot : Slot) : String :=
  slot.key ++ "_" ++ toString slot.index

theorem toList_written (key : String) (digits : List Char) :
    (key ++ "_" ++ String.ofList digits).toList = key.toList ++ '_' :: digits := by
  simp

/-- A written name is cut at the underscore in front of the digits, as these have none. -/
theorem splitLast?_written (key : String) {digits : List Char} {index : Nat}
    (hdigits : Number.Denotes digits index) :
    Text.splitLast? '_' (key ++ "_" ++ String.ofList digits).toList =
      some (key.toList, digits) := by
  apply Text.splitLast?_eq_some_iff.mpr
  rw [toList_written]
  exact ⟨rfl, hdigits.not_mem⟩

/-- A well-formed slot is read from every name that it is written as. -/
theorem ofName?_of_writtenAs {name : String} {slot : Slot} (hformed : slot.WellFormed)
    (hwritten : slot.WrittenAs name) : ofName? name = some slot := by
  obtain ⟨digits, hdigits, rfl⟩ := hwritten
  have hgreatest : slot.index ≤ greatestIndex := Nat.le_of_lt_succ hformed.lt_size
  unfold ofName?
  simp only [splitLast?_written slot.key hdigits, hdigits.natural?_eq]
  rw [if_pos ⟨hformed.toList_key_ne, hformed.one_le, hgreatest⟩, String.ofList_toList]

/-- What is read is a well-formed slot, and the name is one that it is written as. -/
theorem written_of_ofName? {name : String} {slot : Slot} (h : ofName? name = some slot) :
    slot.WellFormed ∧ slot.WrittenAs name := by
  unfold ofName? at h
  split at h
  · cases h
  · rename_i key digits hcut
    split at h
    · cases h
    · rename_i index hindex
      split at h
      · rename_i hbounds
        obtain ⟨hkey, hone, hgreatest⟩ := hbounds
        obtain rfl := Option.some.inj h
        obtain ⟨hname, -⟩ := Text.splitLast?_eq_some_iff.mp hcut
        have hsize : index < UInt64.size := Nat.lt_succ_of_le hgreatest
        refine ⟨⟨?_, hone, hsize⟩, digits, Number.denotes_of_natural? hindex, ?_⟩
        · show String.ofList key ≠ ""
          intro hempty
          apply hkey
          exact String.ofList_eq_empty_iff.mp hempty
        · apply String.toList_inj.mp
          rw [toList_written, String.toList_ofList, hname]
      · cases h

/-- A name is read as a slot exactly where the slot is well-formed and written so. -/
theorem ofName?_eq_some_iff {name : String} {slot : Slot} :
    ofName? name = some slot ↔ slot.WellFormed ∧ slot.WrittenAs name := by
  constructor
  · exact written_of_ofName?
  · rintro ⟨hformed, hwritten⟩
    exact ofName?_of_writtenAs hformed hwritten

/-! ## Zeros in front -/

/-- The names of a slot have any number of zeros in front of the printed index. -/
theorem writtenAs_iff_zeros {slot : Slot} {name : String} :
    slot.WrittenAs name ↔
      ∃ zeros, name =
        slot.key ++ "_" ++ String.ofList (List.replicate zeros '0') ++ toString slot.index := by
  have hname : ∀ zeros : Nat,
      slot.key ++ "_" ++ String.ofList (List.replicate zeros '0' ++ Nat.toDigits 10 slot.index) =
        slot.key ++ "_" ++ String.ofList (List.replicate zeros '0') ++ toString slot.index := by
    intro zeros
    rw [String.ofList_append, Nat.toString_eq_ofList_toDigits, String.append_assoc,
      String.append_assoc, String.append_assoc]
  constructor
  · rintro ⟨digits, hdigits, rfl⟩
    obtain ⟨zeros, rfl⟩ := Number.denotes_iff_zeros.mp hdigits
    exact ⟨zeros, hname zeros⟩
  · rintro ⟨zeros, rfl⟩
    exact ⟨_, Number.denotes_iff_zeros.mpr ⟨zeros, rfl⟩, (hname zeros).symm⟩

theorem writtenAs_printed (slot : Slot) : slot.WrittenAs slot.printed :=
  writtenAs_iff_zeros.mpr ⟨0, by simp [printed]⟩

/-! ## Keys, arrays and places -/

/-- A slot's name is its key, which is not empty, an underscore and digits. -/
theorem toList_of_ofName? {name : String} {slot : Slot} (h : ofName? name = some slot) :
    slot.key.toList ≠ [] ∧ ∃ digits, name.toList = slot.key.toList ++ '_' :: digits := by
  obtain ⟨hformed, digits, -, rfl⟩ := written_of_ofName? h
  exact ⟨hformed.toList_key_ne, digits, toList_written slot.key digits⟩

/-- The key has the comment mark where the name has it. -/
theorem isComment_key {name : String} {slot : Slot} (h : ofName? name = some slot) :
    isComment slot.key = isComment name := by
  obtain ⟨hkey, digits, hname⟩ := toList_of_ofName? h
  rw [isComment, isComment, hname, List.head?_append_of_ne_nil _ hkey]

/-- Indices are counted from 1, so that there is a place for each. -/
theorem offset_add_one {name : String} {slot : Slot} (h : ofName? name = some slot) :
    slot.offset + 1 = slot.index := by
  have hone := (written_of_ofName? h).1.one_le
  show slot.index - 1 + 1 = slot.index
  omega

/-- Arrays of different keys have different names. -/
theorem key_eq_of_fieldName {slot other : Slot} (h : slot.fieldName = other.fieldName) :
    slot.key = other.key :=
  (String.append_left_inj "s").mp h

/-- A slot is known from its array and its place in it. -/
theorem eq_of_fieldName_of_offset {name otherName : String} {slot other : Slot}
    (hslot : ofName? name = some slot) (hother : ofName? otherName = some other)
    (hname : slot.fieldName = other.fieldName) (hoffset : slot.offset = other.offset) :
    slot = other := by
  have hkey := key_eq_of_fieldName hname
  have hindex : slot.index = other.index := by
    rw [← offset_add_one hslot, ← offset_add_one hother, hoffset]
  obtain ⟨key, index⟩ := slot
  obtain ⟨otherKey, otherIndex⟩ := other
  obtain rfl : key = otherKey := hkey
  obtain rfl : index = otherIndex := hindex
  rfl

/-! ## Reading names -/

/-- The reader takes a name for a slot exactly where it is one that the slot is written as.  What is
printed is read back, and the names of one slot differ in zeros in front of the index alone.  There
is a place for every index, and arrays of different keys have different names. -/
structure ReadsNames (read : String → Option Slot) : Prop where
  some_iff : ∀ name slot, read name = some slot ↔ slot.WellFormed ∧ slot.WrittenAs name
  printed_read : ∀ slot : Slot, slot.WellFormed → read slot.printed = some slot
  zeros_iff : ∀ slot : Slot, slot.WellFormed → ∀ name, read name = some slot ↔
    ∃ zeros, name =
      slot.key ++ "_" ++ String.ofList (List.replicate zeros '0') ++ toString slot.index
  offset_add_one : ∀ name slot, read name = some slot → slot.offset + 1 = slot.index
  fieldName_ne : ∀ name otherName slot other, read name = some slot →
    read otherName = some other → slot.key ≠ other.key → slot.fieldName ≠ other.fieldName

/-- Names are read exactly. -/
theorem names_read_exactly : ReadsNames ofName? where
  some_iff name slot := ofName?_eq_some_iff
  printed_read slot hformed := ofName?_of_writtenAs hformed slot.writtenAs_printed
  zeros_iff slot hformed name := by
    rw [ofName?_eq_some_iff, writtenAs_iff_zeros]
    exact and_iff_right hformed
  offset_add_one name slot h := offset_add_one h
  fieldName_ne name otherName slot other _ _ hkey := by
    intro hname
    exact hkey (key_eq_of_fieldName hname)

/-- The key of `Drop_Item_2_0_07` ends in a number of its own, which is no part of the index; and
the index of a third name has one bit too many. -/
theorem dropItems_read_exactly :
    ReadsNames ofName? ∧
      (⟨"Drop_Item_2", 7⟩ : Slot).WellFormed ∧
      (⟨"Drop_Item_2", 7⟩ : Slot).WrittenAs "Drop_Item_2_007" ∧
      ofName? "Drop_Item_2_7" = some ⟨"Drop_Item_2", 7⟩ ∧
      (⟨"Drop_Item_2", 7⟩ : Slot).offset + 1 = 7 ∧
      ofName? "Drop_Item_2_0_07" = some ⟨"Drop_Item_2_0", 7⟩ ∧
      (⟨"Drop_Item_2", 7⟩ : Slot).fieldName ≠ (⟨"Drop_Item_2_0", 7⟩ : Slot).fieldName ∧
      ofName? "Drop_Item_2_18446744073709551616" = none := by
  have hreads := names_read_exactly
  have hzeros : ofName? "Drop_Item_2_007" = some ⟨"Drop_Item_2", 7⟩ := by decide +kernel
  have hother : ofName? "Drop_Item_2_0_07" = some ⟨"Drop_Item_2_0", 7⟩ := by decide +kernel
  obtain ⟨hformed, hwritten⟩ := (hreads.some_iff _ _).mp hzeros
  have hprinted : (⟨"Drop_Item_2", 7⟩ : Slot).printed = "Drop_Item_2_7" := by decide +kernel
  refine ⟨hreads, hformed, hwritten, ?_, hreads.offset_add_one _ _ hzeros, hother,
    hreads.fieldName_ne _ _ _ _ hzeros hother (by decide), by decide +kernel⟩
  rw [← hprinted]
  exact hreads.printed_read _ hformed

end GameSheets.Slot

/-
  The order of texts, and the order of their bytes.

  Texts are compared character by character, and bytes of UTF-8 one by one.  Both orders are one:

  1. A value is spelled as a leading byte and further bytes of six bits each.  Of two values spelled
     in the same number of bytes, the smaller one has the smaller byte at the first place where the
     two spellings differ (`Differ.spell`).
  2. UTF-8 spells characters so, and a character that needs more bytes has a larger leading byte;
     hence the same holds of any two characters (`differ_utf8EncodeChar`).
  3. In particular no character's bytes are the front of another's, so that the first characters
     that differ decide between the bytes of two texts as well (`bytes_lt_bytes_iff`).
-/
import Mathlib

namespace GameSheets.Text

/-- The bytes of a text in UTF-8. -/
def bytes (text : String) : List UInt8 :=
  text.toUTF8.data.toList

theorem bytes_eq (text : String) : bytes text = text.toList.flatMap String.utf8EncodeChar := by
  have hencoded : text.toByteArray = text.toList.utf8Encode := by
    rw [← String.toByteArray_ofList, String.ofList_toList]
  rw [bytes, String.toUTF8_eq_toByteArray, hencoded]
  exact List.toList_data_toByteArray

/-! ## The first place of a difference -/

/-- Two lists of bytes differ at some place, and there the first one has the smaller byte. -/
def Differ (first second : List UInt8) : Prop :=
  ∃ front small large rest other, first = front ++ small :: rest ∧
    second = front ++ large :: other ∧ small < large

namespace Differ

variable {first second : List UInt8}

theorem of_head {small large : UInt8} (h : small < large) (rest other : List UInt8) :
    Differ (small :: rest) (large :: other) :=
  ⟨[], small, large, rest, other, rfl, rfl, h⟩

theorem append_left (h : Differ first second) (front : List UInt8) :
    Differ (front ++ first) (front ++ second) := by
  obtain ⟨common, small, large, rest, other, rfl, rfl, hlt⟩ := h
  exact ⟨front ++ common, small, large, rest, other, by simp, by simp, hlt⟩

/-- What follows behind the first difference says nothing. -/
theorem append (h : Differ first second) (rest other : List UInt8) :
    Differ (first ++ rest) (second ++ other) := by
  obtain ⟨common, small, large, tail, end', rfl, rfl, hlt⟩ := h
  exact ⟨common, small, large, tail ++ rest, end' ++ other, by simp, by simp, hlt⟩

theorem lt (h : Differ first second) : first < second := by
  obtain ⟨common, small, large, rest, other, rfl, rfl, hlt⟩ := h
  exact List.Lex.append_left _ (List.Lex.rel hlt) common

end Differ

/-! ## Characters -/

/-- A value as a leading byte and `count` more bytes of six bits each. -/
def spell (lead : Nat) : Nat → Nat → List UInt8
  | 0, value => [UInt8.ofNat (lead + value)]
  | count + 1, value => spell lead count (value / 64) ++ [UInt8.ofNat (128 + value % 64)]

theorem ofNat_lt_ofNat {m n : Nat} (h : m < n) (hn : n < 256) : UInt8.ofNat m < UInt8.ofNat n := by
  rw [UInt8.lt_iff_toNat_lt, UInt8.toNat_ofNat', UInt8.toNat_ofNat']
  omega

/-- Spellings start with what the leading byte carries. -/
theorem spell_eq_cons (lead count value : Nat) :
    ∃ rest, spell lead count value = UInt8.ofNat (lead + value / 64 ^ count) :: rest := by
  induction count generalizing value with
  | zero => exact ⟨[], by rw [spell, pow_zero, Nat.div_one]⟩
  | succ count ih =>
    obtain ⟨rest, hrest⟩ := ih (value / 64)
    refine ⟨rest ++ [UInt8.ofNat (128 + value % 64)], ?_⟩
    rw [spell, hrest, Nat.div_div_eq_div_mul, ← Nat.pow_succ', List.cons_append]

/-- The smaller of two values has the smaller byte where their spellings first differ. -/
theorem Differ.spell {lead count value larger : Nat} (h : value < larger)
    (hlead : lead + larger / 64 ^ count < 256) :
    Differ (spell lead count value) (spell lead count larger) := by
  induction count generalizing value larger with
  | zero =>
    rw [pow_zero, Nat.div_one] at hlead
    exact Differ.of_head (ofNat_lt_ofNat (by omega) hlead) [] []
  | succ count ih =>
    rw [Text.spell, Text.spell]
    rcases Nat.lt_or_ge (value / 64) (larger / 64) with hbits | hbits
    · rw [Nat.pow_succ', ← Nat.div_div_eq_div_mul] at hlead
      exact (ih hbits hlead).append _ _
    · -- all but the last six bits agree
      have hsame : value / 64 = larger / 64 := by omega
      have hlast : 128 + value % 64 < 128 + larger % 64 := by omega
      rw [hsame]
      exact (Differ.of_head (ofNat_lt_ofNat hlast (by omega)) [] []).append_left _

/-- Of two leading bytes the larger one decides, whatever is spelled behind it. -/
theorem Differ.spell_of_lead {lead count value lead' count' value' : Nat}
    (h : lead + value / 64 ^ count < lead' + value' / 64 ^ count')
    (hlead : lead' + value' / 64 ^ count' < 256) :
    Differ (Text.spell lead count value) (Text.spell lead' count' value') := by
  obtain ⟨rest, hrest⟩ := spell_eq_cons lead count value
  obtain ⟨other, hother⟩ := spell_eq_cons lead' count' value'
  rw [hrest, hother]
  exact Differ.of_head (ofNat_lt_ofNat h hlead) rest other

/-- A character is spelled with one to four bytes, by its bounds. -/
theorem utf8EncodeChar_eq_spell (c : Char) :
    (c.toNat < 0x80 ∧ String.utf8EncodeChar c = spell 0 0 c.toNat) ∨
    (0x80 ≤ c.toNat ∧ c.toNat < 0x800 ∧ String.utf8EncodeChar c = spell 0xc0 1 c.toNat) ∨
    (0x800 ≤ c.toNat ∧ c.toNat < 0x10000 ∧ String.utf8EncodeChar c = spell 0xe0 2 c.toNat) ∨
    (0x10000 ≤ c.toNat ∧ c.toNat < 0x110000 ∧ String.utf8EncodeChar c = spell 0xf0 3 c.toNat) := by
  have hbound : c.toNat < 0x110000 := by
    have hvalid := c.valid
    simp only [UInt32.isValidChar, Nat.isValidChar] at hvalid
    show c.val.toNat < 0x110000
    omega
  have hvalue : c.val.toNat = c.toNat := rfl
  unfold String.utf8EncodeChar
  dsimp only
  rw [hvalue]
  generalize c.toNat = value at hbound
  split_ifs with hone htwo hthree
  · exact .inl ⟨by omega, by simp [spell]⟩
  · have hlead : value / 64 % 0x20 + 0xc0 = 0xc0 + value / 64 := by omega
    refine .inr (.inl ⟨by omega, by omega, ?_⟩)
    simp [spell, hlead, Nat.add_comm]
  · have hlead : value / 4096 % 0x10 + 0xe0 = 0xe0 + value / 4096 := by omega
    refine .inr (.inr (.inl ⟨by omega, by omega, ?_⟩))
    simp [spell, hlead, Nat.div_div_eq_div_mul, Nat.add_comm]
  · have hlead : value / 262144 % 0x08 + 0xf0 = 0xf0 + value / 262144 := by omega
    refine .inr (.inr (.inr ⟨by omega, hbound, ?_⟩))
    simp [spell, hlead, Nat.div_div_eq_div_mul, Nat.add_comm]

/-- The smaller of two characters has the smaller byte where their bytes first differ. -/
theorem differ_utf8EncodeChar {c d : Char} (h : c < d) :
    Differ (String.utf8EncodeChar c) (String.utf8EncodeChar d) := by
  have hlt : c.toNat < d.toNat := h
  -- with as many bytes the values decide, with fewer the leading bytes; more are not possible
  rcases utf8EncodeChar_eq_spell c with ⟨hc, hspellC⟩ | ⟨hc, hc', hspellC⟩ | ⟨hc, hc', hspellC⟩ |
      ⟨hc, hc', hspellC⟩ <;>
    rcases utf8EncodeChar_eq_spell d with ⟨hd, hspellD⟩ | ⟨hd, hd', hspellD⟩ | ⟨hd, hd', hspellD⟩ |
      ⟨hd, hd', hspellD⟩ <;>
    rw [hspellC, hspellD] <;>
    first
    | exact Differ.spell hlt (by omega)
    | exact Differ.spell_of_lead (by omega) (by omega)

/-! ## Texts -/

/-- Texts in order have their bytes in order. -/
theorem flatMap_utf8EncodeChar_lt {text other : List Char} (h : text < other) :
    text.flatMap String.utf8EncodeChar < other.flatMap String.utf8EncodeChar := by
  induction h with
  | @nil c rest =>
    obtain ⟨first, others, hbytes⟩ := List.exists_cons_of_ne_nil
      (String.utf8EncodeChar_ne_nil (c := c))
    rw [List.flatMap_nil, List.flatMap_cons, hbytes, List.cons_append]
    exact List.Lex.nil
  | @rel c rest d other hlt =>
    rw [List.flatMap_cons, List.flatMap_cons]
    exact ((differ_utf8EncodeChar hlt).append _ _).lt
  | @cons c rest other _ ih =>
    rw [List.flatMap_cons, List.flatMap_cons]
    exact List.Lex.append_left _ ih _

theorem bytes_lt_bytes {text other : String} (h : text < other) : bytes text < bytes other := by
  rw [bytes_eq, bytes_eq]
  exact flatMap_utf8EncodeChar_lt (String.lt_iff_toList_lt.mp h)

/-- A text is before another one exactly where its bytes are before those of the other one. -/
theorem bytes_lt_bytes_iff {text other : String} : bytes text < bytes other ↔ text < other := by
  constructor
  · intro h
    rcases lt_trichotomy text other with hlt | rfl | hgt
    · exact hlt
    · exact absurd h (List.lt_irrefl _)
    · exact absurd h (List.lt_asymm (bytes_lt_bytes hgt))
  · exact bytes_lt_bytes

theorem bytes_le_bytes_iff {text other : String} : bytes text ≤ bytes other ↔ text ≤ other := by
  rw [← not_lt, ← List.not_lt, bytes_lt_bytes_iff]

end GameSheets.Text

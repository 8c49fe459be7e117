/-
  Enumerators line up.

  In a client header every enumerator has its display name in a mark behind its label, and the marks
  of an enumeration stand below each other.  A label may be in any script, so that this is a matter
  of cells and not of characters.

  1. The widest label is as wide as one of the labels, and none is wider (`isGreatest_widest`).
  2. Spaces add one cell each, wherever they stand.  So a label that is filled up to a column has
     the width of the column, or its own where that is more (`width_pad`); and the column is wider
     than every label by the gutter, so that it is never more.  For this the sum must be one that
     64 bits hold (`ColumnLayout.Addressable`).
  3. The marks start behind the same number of cells then, and as many spaces as the gutter asks for
     stand in front of each (`clientEnum_linesUp`).
-/
import Mathlib
import GameSheets.Header.Client
import GameSheets.Text.Width.Spaces

namespace GameSheets.Header

/-! ## Columns -/

/-- So many spaces. -/
def spaces (count : Nat) : String :=
  String.ofList (List.replicate count ' ')

/-- A filled text has the width that is asked for, unless it is wider. -/
theorem width_pad (text : String) (cells : Nat) :
    Text.width (pad text cells) = max (Text.width text) cells := by
  rw [pad, Text.width_append_spaces]
  omega

namespace ColumnLayout

theorem foldl_width_le_iff {texts : List String} {start bound : Nat} :
    texts.foldl (fun width text => max width (Text.width text)) start ≤ bound ↔
      start ≤ bound ∧ ∀ text ∈ texts, Text.width text ≤ bound := by
  induction texts generalizing start with
  | nil => simp
  | cons text rest ih =>
    rw [List.foldl_cons, ih, List.forall_mem_cons, Nat.max_le, and_assoc]

/-- No text is wider than the widest. -/
theorem widest_le_iff {texts : List String} {bound : Nat} :
    widest texts ≤ bound ↔ ∀ text ∈ texts, Text.width text ≤ bound := by
  rw [widest, foldl_width_le_iff]
  exact and_iff_right (Nat.zero_le bound)

theorem width_le_widest {texts : List String} {text : String} (h : text ∈ texts) :
    Text.width text ≤ widest texts :=
  widest_le_iff.mp (Nat.le_refl _) text h

/-- One of the texts is as wide as the widest, if there is any. -/
theorem isGreatest_widest {texts : List String} (hne : texts ≠ []) :
    IsGreatest {cells | ∃ text ∈ texts, Text.width text = cells} (widest texts) := by
  constructor
  · by_contra hnone
    have hless : ∀ text ∈ texts, Text.width text < widest texts := by
      intro text htext
      have hne : Text.width text ≠ widest texts := fun heq => hnone ⟨text, htext, heq⟩
      have hle := width_le_widest htext
      omega
    -- the texts would have a smaller bound than the least
    have hbound : widest texts ≤ widest texts - 1 := by
      refine widest_le_iff.mpr fun text htext => ?_
      have hlt := hless text htext
      omega
    obtain ⟨first, hfirst⟩ := List.exists_mem_of_ne_nil texts hne
    have hlt := hless first hfirst
    omega
  · rintro cells ⟨text, htext, rfl⟩
    exact width_le_widest htext

/-- A machine with addresses of 64 bits can count the cells of the column and hold the texts that
are filled up to it. -/
structure Addressable (layout : ColumnLayout) (texts : List String) : Prop where
  /-- The sum does not wrap around. -/
  cells_lt : widest texts + layout.gutter < 2 ^ 64
  /-- No text takes more than half of the addresses. -/
  bytes_lt : ∀ text ∈ texts, (pad text (layout.columnWidth texts)).utf8ByteSize < 2 ^ 63

theorem Addressable.columnWidth_eq {layout : ColumnLayout} {texts : List String}
    (h : layout.Addressable texts) :
    layout.columnWidth texts = max layout.minWidth (widest texts + layout.gutter) := by
  have hsum : (widest texts + layout.gutter) % UInt64.size = widest texts + layout.gutter :=
    Nat.mod_eq_of_lt h.cells_lt
  rw [columnWidth, hsum]
  exact Nat.max_comm _ _

/-- The column has room for the gutter behind each text. -/
theorem Addressable.width_add_gutter_le {layout : ColumnLayout} {texts : List String}
    (h : layout.Addressable texts) {text : String} (htext : text ∈ texts) :
    Text.width text + layout.gutter ≤ layout.columnWidth texts := by
  have hcolumn := h.columnWidth_eq
  have hle := width_le_widest htext
  omega

end ColumnLayout

/-! ## Enumerators -/

/-- A label is the symbol, and behind an equals sign the value that is written for it, if one is. -/
inductive IsLabel (symbol : String) : Option Int → String → Prop
  | plain : IsLabel symbol none symbol
  | valued (value : Int) : IsLabel symbol (some value) (symbol ++ " = " ++ toString value)

theorem isLabel_label (entry : Enumerator) :
    IsLabel entry.name entry.explicit entry.label := by
  unfold Enumerator.label
  cases entry.explicit with
  | none => exact .plain
  | some value => exact .valued value

/-- The line of an enumerator has its label, which is the symbol alone or the symbol with the value
that is written for it, as it is, and so many spaces, at least those of the gutter, which fill it up
to the column; the mark starts there, behind the cells of the indent. -/
structure LinesUp (gutter column : Nat) (entry : Enumerator) (line : String) (count : Nat) :
    Prop where
  is_label : IsLabel entry.name entry.explicit entry.label
  line_eq : line = "    " ++ (entry.label ++ spaces count) ++
    ("UMETA(DisplayName = \"" ++ entry.name ++ "\"),\n")
  gutter_le : gutter ≤ count
  width_label : Text.width (entry.label ++ spaces count) = column
  width_before : Text.width ("    " ++ (entry.label ++ spaces count)) = 4 + column

/-- An enumerator lines up with a column that is wide enough for its label and the gutter. -/
theorem linesUp_clientEnumerator {gutter column : Nat} {entry : Enumerator}
    (hfits : Text.width entry.label + gutter ≤ column) :
    LinesUp gutter column entry (clientEnumerator column entry)
      (column - Text.width entry.label) := by
  have hwidth : Text.width (entry.label ++ spaces (column - Text.width entry.label)) = column := by
    show Text.width (pad entry.label column) = column
    rw [width_pad]
    omega
  refine ⟨isLabel_label entry, ?_, by omega, hwidth, ?_⟩
  · rw [clientEnumerator, pad, spaces]
    simp only [String.append_assoc]
  · have hindent : "    " = String.ofList (List.replicate 4 ' ') := by decide +kernel
    rw [hindent, Text.width_spaces_append, hwidth]

/-- Enumerators line up with the column of their labels. -/
theorem linesUp_enumerators {layout : ColumnLayout} {entries : List Enumerator}
    (h : layout.Addressable (entries.map (·.label))) :
    List.Forall₂ (fun entry line => ∃ count,
        LinesUp layout.gutter (layout.columnWidth (entries.map (·.label))) entry line count)
      entries (entries.map (clientEnumerator (layout.columnWidth (entries.map (·.label))))) := by
  rw [List.forall₂_map_right_iff, List.forall₂_same]
  intro entry hentry
  exact ⟨_, linesUp_clientEnumerator (h.width_add_gutter_le (List.mem_map_of_mem hentry))⟩

/-- The enumerators of an enumeration stand in lines of their own between its opening and its end,
and line up with one column: the least width, or that of the widest label with the gutter. -/
theorem clientEnum_linesUp (layout : ColumnLayout) (enumeration : Enumeration)
    (h : layout.Addressable (enumeration.entries.map (·.label))) :
    ∃ column lines,
      clientEnum layout enumeration =
        docComment enumeration.docs
          ++ ("UENUM(BlueprintType)\nenum class " ++ enumeration.name ++ " : uint8\n\x7b\n")
          ++ String.join lines ++ "\x7d;\n\n" ∧
      (enumeration.entries ≠ [] → ∃ widest,
        IsGreatest {cells | ∃ entry ∈ enumeration.entries, Text.width entry.label = cells} widest ∧
          column = max layout.minWidth (widest + layout.gutter)) ∧
      List.Forall₂ (fun entry line => ∃ count, LinesUp layout.gutter column entry line count)
        enumeration.entries lines := by
  let labels := enumeration.entries.map (·.label)
  refine ⟨layout.columnWidth labels,
    enumeration.entries.map (clientEnumerator (layout.columnWidth labels)), ?_, ?_,
    linesUp_enumerators h⟩
  · rw [clientEnum]
    simp only [String.append_assoc]
    rfl
  · intro hne
    have hlabels : labels ≠ [] := fun hnil => hne (List.map_eq_nil_iff.mp hnil)
    have hgreatest := ColumnLayout.isGreatest_widest hlabels
    simp only [labels, List.mem_map, exists_exists_and_eq_and] at hgreatest
    exact ⟨_, hgreatest, h.columnWidth_eq⟩

/-! ### A symbol in a wide script -/

/-- A layout without a least width. -/
def tight : ColumnLayout := ⟨0, 1⟩

/-- A symbol with two characters of two cells, and one with three of one cell and a value. -/
def weapons : Enumeration where
  name := "Enum_Weapon"
  sheet := "Weapon"
  entries := [⟨"大剣", none, 0⟩, ⟨"Axe", some 7, 7⟩]
  docs := []

/-- The label with the value is the widest, and the column is wider by the gutter. -/
theorem weapons_lineUp :
    tight.Addressable (weapons.entries.map (·.label)) ∧
      clientEnum tight weapons =
        "UENUM(BlueprintType)\nenum class Enum_Weapon : uint8\n\x7b\n"
          ++ "    大剣    UMETA(DisplayName = \"大剣\"),\n"
          ++ "    Axe = 7 UMETA(DisplayName = \"Axe\"),\n"
          ++ "\x7d;\n\n" ∧
      ∃ lines,
        clientEnum tight weapons =
          docComment weapons.docs
            ++ ("UENUM(BlueprintType)\nenum class " ++ weapons.name ++ " : uint8\n\x7b\n")
            ++ String.join lines ++ "\x7d;\n\n" ∧
        List.Forall₂ (fun entry line => ∃ count, LinesUp 1 8 entry line count) weapons.entries
          lines := by
  have hheld : tight.Addressable (weapons.entries.map (·.label)) :=
    ⟨by decide +kernel, by decide +kernel⟩
  obtain ⟨column, lines, htext, hcolumn, hlines⟩ := clientEnum_linesUp tight weapons hheld
  obtain ⟨widest, hwidest, rfl⟩ := hcolumn (by decide)
  have hseven : IsGreatest {cells | ∃ entry ∈ weapons.entries, Text.width entry.label = cells} 7 :=
    ⟨⟨⟨"Axe", some 7, 7⟩, by decide, by decide +kernel⟩, by
      rintro cells ⟨entry, hentry, rfl⟩
      revert entry
      decide +kernel⟩
  obtain rfl := hwidest.unique hseven
  exact ⟨hheld, by decide +kernel, lines, htext, hlines⟩

end GameSheets.Header

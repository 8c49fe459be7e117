/-
  How headers declare enumerations.

  A header declares the symbols of an enumeration in the order of their rows, each with the value
  of its row behind an equals sign, if the row has one.  It writes no ordinals.  The platforms
  differ in what stands around the labels, and not in the labels (`Declares`).

  1. The renderer of each platform writes the labels of all enumerators, in order, behind the
     descriptions (`isBlock_serverEnum`, `isBlock_clientEnum`).  On the client a label stands apart
     from its mark, because enumerators line up (`linesUp_enumerators`).
  2. A header has the blocks of its enumerations between its lead and its end, and so declares each
     of them (`declaresAll_of_enumHeader`).
  3. A header is refused for the first ordinal, by enumerations and then by rows, that is out of the
     platform's range, and for nothing else (`enumHeader_eq_error`).  The client's range lies in the
     server's.
-/
import Mathlib
import GameSheets.Compile
import GameSheets.Proofs.Declaration.Enumerators
import GameSheets.Proofs.Header.Columns

namespace GameSheets

/-! ## Declarations -/

namespace Header

/-- A text that declares an enumeration of the name on a platform, with the symbols and values in
order: a list of labels on the server, and a line for each label on the client, where spaces stand
between the label and the mark and the symbol is its own display name. -/
inductive Declares (name : String) (items : List (String × Option Int)) : Platform → String → Prop
  | server (labels : List String)
      (hlabels : List.Forall₂ (fun item label => IsLabel item.1 item.2 label) items labels) :
      Declares name items .server
        ("BETTER_ENUM(" ++ name ++ ", uint32" ++ String.join (labels.map (", " ++ ·)) ++ ");\n")
  | client (lines : List String)
      (hlines : List.Forall₂
        (fun item line => ∃ label count, IsLabel item.1 item.2 label ∧ 0 < count ∧
          line = "    " ++ (label ++ spaces count) ++
            ("UMETA(DisplayName = \"" ++ item.1 ++ "\"),\n"))
        items lines) :
      Declares name items .client
        ("UENUM(BlueprintType)\nenum class " ++ name ++ " : uint8\n\x7b\n" ++ String.join lines
          ++ "\x7d;\n\n")

end Header

/-- The symbols of an enumeration, each with the value that is written for it. -/
def Enumeration.written (enumeration : Enumeration) : List (String × Option Int) :=
  enumeration.entries.map fun entry => (entry.name, entry.explicit)

namespace Header

/-- The block of an enumeration in a header: the comment with its descriptions, and a text that
declares it. -/
def IsBlock (platform : Platform) (enumeration : Enumeration) (block : String) : Prop :=
  ∃ declaration, block = docComment enumeration.docs ++ declaration ∧
    Declares enumeration.name enumeration.written platform declaration

theorem isBlock_serverEnum (enumeration : Enumeration) :
    IsBlock .server enumeration (serverEnum enumeration) := by
  have hlabels : List.Forall₂ (fun item label => IsLabel item.1 item.2 label)
      enumeration.written (enumeration.entries.map (·.label)) := by
    rw [Enumeration.written, List.forall₂_map_left_iff, List.forall₂_map_right_iff,
      List.forall₂_same]
    exact fun entry _ => isLabel_label entry
  refine ⟨_, ?_, .server _ hlabels⟩
  rw [serverEnum, List.map_map]
  simp only [String.append_assoc]
  rfl

theorem isBlock_clientEnum {layout : ColumnLayout} {enumeration : Enumeration}
    (hgutter : 0 < layout.gutter) (h : layout.Addressable (enumeration.entries.map (·.label))) :
    IsBlock .client enumeration (clientEnum layout enumeration) := by
  refine ⟨_, ?_, .client (enumeration.entries.map
    (clientEnumerator (layout.columnWidth (enumeration.entries.map (·.label))))) ?_⟩
  · rw [clientEnum]
    simp only [String.append_assoc]
    rfl
  · rw [Enumeration.written, List.forall₂_map_left_iff]
    refine (linesUp_enumerators h).imp ?_
    rintro entry line ⟨count, hlines⟩
    exact ⟨entry.label, count, hlines.is_label, Nat.lt_of_lt_of_le hgutter hlines.gutter_le,
      hlines.line_eq⟩

end Header

/-! ## Ranges -/

namespace Platform

/-- The greatest ordinal that the platform's headers hold. -/
def greatestOrdinal : Platform → Int
  | server => 4294967295
  | client => 255

/-- The ordinal is one that the platform's headers hold. -/
def Holds (platform : Platform) (ordinal : Int) : Prop :=
  0 ≤ ordinal ∧ ordinal ≤ platform.greatestOrdinal

instance (platform : Platform) (ordinal : Int) : Decidable (platform.Holds ordinal) :=
  inferInstanceAs (Decidable (_ ∧ _))

/-- The range of the platform's ordinals. -/
def ordinals (platform : Platform) : Number.Bounds :=
  ⟨0, platform.greatestOrdinal⟩

theorem contains_ordinals_iff {platform : Platform} {ordinal : Int} :
    platform.ordinals.contains ordinal = true ↔ platform.Holds ordinal := by
  rw [Number.Bounds.contains, Bool.and_eq_true, decide_eq_true_iff, decide_eq_true_iff]
  exact Iff.rfl

theorem Holds.server_of_client {ordinal : Int} (h : client.Holds ordinal) :
    server.Holds ordinal := by
  obtain ⟨hlow, hhigh⟩ := h
  refine ⟨hlow, ?_⟩
  show ordinal ≤ 4294967295
  have hclient : ordinal ≤ 255 := hhigh
  omega

end Platform

namespace Enumeration

/-- The enumerator is the first, by enumerations and then by rows, whose ordinal the platform's
headers do not hold. -/
structure FirstOutside (platform : Platform) (enumerations : List Enumeration)
    (enumeration : Enumeration) (entry : Enumerator) : Prop where
  outside : ¬ platform.Holds entry.ordinal
  enumerations_before : ∃ before after, enumerations = before ++ enumeration :: after ∧
    ∀ other ∈ before, ∀ entry ∈ other.entries, platform.Holds entry.ordinal
  entries_before : ∃ before after, enumeration.entries = before ++ entry :: after ∧
    ∀ other ∈ before, platform.Holds other.ordinal

theorem checkRange_eq_error {range : Number.Bounds} {enumeration : Enumeration}
    {cause : DeclarationError} :
    enumeration.checkRange range = .error cause ↔
      ∃ before entry after, enumeration.entries = before ++ entry :: after ∧
        (∀ other ∈ before, range.contains other.ordinal = true) ∧
        range.contains entry.ordinal = false ∧
        cause = .ordinalOutOfRange enumeration.sheet entry.name entry.ordinal range := by
  unfold checkRange
  constructor
  · intro h
    split at h
    · rename_i entry hfound
      obtain ⟨hout, before, after, hentries, hbefore⟩ := List.find?_eq_some_iff_append.mp hfound
      refine ⟨before, entry, after, hentries, ?_, by simpa using hout, (Except.error.inj h).symm⟩
      intro other hother
      simpa using hbefore other hother
    · cases h
  · rintro ⟨before, entry, after, hentries, hbefore, hout, rfl⟩
    have hfound : enumeration.entries.find? (fun entry => !range.contains entry.ordinal) =
        some entry := by
      refine List.find?_eq_some_iff_append.mpr ⟨by simpa using hout, before, after, hentries, ?_⟩
      intro other hother
      simpa using hbefore other hother
    rw [hfound]

end Enumeration

/-! ## Headers -/

namespace Header

open Enumeration (FirstOutside)

/-- What stands in a header in front of the enumerations. -/
def enumsLead (config : Config) (exportedAt : Option Timestamp) : Platform → String
  | .server => banner exportedAt ++ "\n" ++ (ServerStyle.ofConfig config).opening
  | .client =>
    banner exportedAt ++ "\n#include \"CoreMinimal.h\"\n"
      ++ generatedInclude (ClientStyle.ofConfig config).enumFile ++ "\n"

/-- An enumeration in a header. -/
def enumBlock : Platform → Enumeration → String
  | .server => serverEnum
  | .client => clientEnum .standard

/-- What stands in a header behind the enumerations. -/
def enumsEnd (config : Config) : Platform → String
  | .server => "\n" ++ (ServerStyle.ofConfig config).closing
  | .client => ""

variable {config : Config} {exportedAt : Option Timestamp} {platform : Platform}
  {enumerations : List Enumeration} {header : String}

/-- A header has its enumerations between its lead and its end. -/
theorem enumHeader_eq_ok_iff :
    enumHeader config exportedAt platform enumerations = .ok header ↔
      (∀ enumeration ∈ enumerations, enumeration.checkRange platform.ordinals = .ok ()) ∧
        header = enumsLead config exportedAt platform
          ++ String.join (enumerations.map (enumBlock platform)) ++ enumsEnd config platform := by
  cases platform with
  | server =>
    refine Outcome.checked_eq_ok_iff.trans (and_congr_right fun _ => ?_)
    simp only [enumsLead, enumBlock, enumsEnd, String.append_assoc]
  | client =>
    refine Outcome.checked_eq_ok_iff.trans (and_congr_right fun _ => ?_)
    simp only [enumsLead, enumBlock, enumsEnd, String.append_empty]
    rfl

/-- The header declares the enumerations in order: it has their blocks between its lead and its end,
and nothing else. -/
def DeclaresAll (config : Config) (exportedAt : Option Timestamp) (platform : Platform)
    (enumerations : List Enumeration) (header : String) : Prop :=
  ∃ blocks, List.Forall₂ (IsBlock platform) enumerations blocks ∧
    header = enumsLead config exportedAt platform ++ String.join blocks ++ enumsEnd config platform

/-- A machine can hold the columns of the enumerations, where the platform writes columns. -/
def Addressable (platform : Platform) (enumerations : List Enumeration) : Prop :=
  platform = .client → ∀ enumeration ∈ enumerations,
    ColumnLayout.standard.Addressable (enumeration.entries.map (·.label))

theorem declaresAll_of_enumHeader
    (h : enumHeader config exportedAt platform enumerations = .ok header)
    (hheld : Addressable platform enumerations) :
    DeclaresAll config exportedAt platform enumerations header := by
  refine ⟨enumerations.map (enumBlock platform), ?_, (enumHeader_eq_ok_iff.mp h).2⟩
  rw [List.forall₂_map_right_iff, List.forall₂_same]
  intro enumeration hmem
  cases platform with
  | server => exact isBlock_serverEnum enumeration
  | client => exact isBlock_clientEnum (by decide) (hheld rfl enumeration hmem)

/-- A header is there exactly where the platform holds all ordinals. -/
theorem exists_enumHeader_iff :
    (∃ header, enumHeader config exportedAt platform enumerations = .ok header) ↔
      ∀ enumeration ∈ enumerations, ∀ entry ∈ enumeration.entries,
        platform.Holds entry.ordinal := by
  simp only [enumHeader_eq_ok_iff, exists_and_left, exists_eq, and_true,
    Enumeration.checkRange_eq_ok, Platform.contains_ordinals_iff]

/-- A header is refused exactly for the first ordinal that the platform does not hold. -/
theorem enumHeader_eq_error {cause : DeclarationError} :
    enumHeader config exportedAt platform enumerations = .error cause ↔
      ∃ enumeration entry, FirstOutside platform enumerations enumeration entry ∧
        cause = .ordinalOutOfRange enumeration.sheet entry.name entry.ordinal
          platform.ordinals := by
  have hchecked : enumHeader config exportedAt platform enumerations = .error cause ↔
      ∃ before enumeration after, enumerations = before ++ enumeration :: after ∧
        (∀ other ∈ before, other.checkRange platform.ordinals = .ok ()) ∧
        enumeration.checkRange platform.ordinals = .error cause := by
    cases platform with
    | server | client => exact Outcome.checked_eq_error
  simp only [hchecked, Enumeration.checkRange_eq_ok, Enumeration.checkRange_eq_error,
    Bool.eq_false_iff, ne_eq, Platform.contains_ordinals_iff]
  constructor
  · rintro ⟨before, enumeration, after, hwhole, hbefore, first, entry, rest, hentries, hfirst,
      hout, rfl⟩
    exact ⟨enumeration, entry,
      ⟨hout, ⟨before, after, hwhole, hbefore⟩, ⟨first, rest, hentries, hfirst⟩⟩, rfl⟩
  · rintro ⟨enumeration, entry, ⟨hout, ⟨before, after, hwhole, hbefore⟩, first, rest, hentries,
      hfirst⟩, rfl⟩
    exact ⟨before, enumeration, after, hwhole, hbefore, first, entry, rest, hentries, hfirst,
      hout, rfl⟩

end Header

end GameSheets

/-
  Where the comment of an enumeration ends.

  A header has the descriptions of an enum sheet in a comment in front of the declaration, a line
  for each described symbol, and closes the comment on a line of its own.  Symbols and descriptions
  are free text and are written as they are; who compiles the header ends the comment at the first
  closing mark (`ClosesAt`), wherever that is.

  1. A mark of two characters does not arise around a third one (`pair_infix_append_cons`).  So
     there is one in the lines exactly where there is one in a symbol or in a description
     (`closingMark_infix_docLines_append`, by induction on the lines).
  2. The comment ends at the closing line exactly where no described symbol breaks it
     (`closesAt_docLines_iff`).
  3. Else it ends in the line of the first described symbol that breaks it, and the rest of that
     line is compiled (`closesAt_of_breaks`).
-/
import Mathlib
import GameSheets.Proofs.Header.Enumerations
import GameSheets.Proofs.Workbook.Compiling

namespace GameSheets

/-! ## Marks of two characters -/

/-- A mark of two characters does not lie across a third one. -/
theorem pair_infix_append_cons {α : Type} {first second other : α} {before after : List α}
    (hfirst : first ≠ other) (hsecond : second ≠ other) :
    [first, second] <:+: before ++ other :: after ↔
      [first, second] <:+: before ∨ [first, second] <:+: after := by
  rw [List.infix_append_iff_ne_nil, List.infix_cons_iff]
  constructor
  · rintro (hbefore | (hacross | hafter) | ⟨left, right, hleft, hright, hpair, -, hacross⟩)
    · exact .inl hbefore
    · exact absurd (List.cons_prefix_cons.mp hacross).1 hfirst
    · exact .inr hafter
    · -- the parts are not empty, so that the second character is the first one of `right`
      obtain ⟨head, tail, rfl⟩ := List.exists_cons_of_ne_nil hleft
      obtain ⟨rightHead, rightTail, rfl⟩ := List.exists_cons_of_ne_nil hright
      obtain ⟨rfl, htail⟩ := List.cons.inj hpair
      obtain ⟨rfl, hrest⟩ := (List.append_eq_singleton_iff.mp htail.symm).resolve_right (by simp)
      obtain ⟨rfl, -⟩ := List.cons.inj hrest
      exact absurd (List.cons_prefix_cons.mp hacross).1 hsecond
  · rintro (hbefore | hafter)
    · exact .inl hbefore
    · exact .inr (.inl (.inr hafter))

/-! ## Comments -/

namespace Header

/-- What ends a comment. -/
def closingMark : List Char := ['*', '/']

/-- A comment that is open where the text starts is `inside`, and `rest` stands behind it: it ends
at the first closing mark. -/
structure ClosesAt (text inside rest : List Char) : Prop where
  text_eq : text = inside ++ closingMark ++ rest
  first : ∀ earlier later, text = earlier ++ closingMark ++ later → inside.length ≤ earlier.length

/-- A closing mark is the first one where there is none in front of its second character. -/
theorem closesAt_append_iff {inside rest : List Char} :
    ClosesAt (inside ++ closingMark ++ rest) inside rest ↔ ¬ closingMark <:+: inside ++ ['*'] := by
  constructor
  · rintro ⟨-, hfirst⟩ ⟨earlier, later, h⟩
    have hlengths := congrArg List.length h
    have hearlier := hfirst earlier (later ++ '/' :: rest) (by
      rw [← List.append_assoc, h]
      simp [closingMark])
    simp only [List.length_append, closingMark, List.length_cons, List.length_nil] at hlengths
    omega
  · intro hnone
    refine ⟨rfl, fun earlier later h => ?_⟩
    by_contra hlength
    -- an earlier mark ends in front of the second character of this one
    have htext : inside ++ ['*'] <+: inside ++ closingMark ++ rest :=
      ⟨'/' :: rest, by simp [closingMark]⟩
    have hearlier : earlier ++ closingMark <+: inside ++ ['*'] := by
      refine List.prefix_of_prefix_length_le ⟨later, h.symm⟩ htext ?_
      simp only [List.length_append, closingMark, List.length_cons, List.length_nil]
      omega
    exact hnone ((List.suffix_append earlier closingMark).isInfix.trans hearlier.isInfix)

/-- A comment ends at one place. -/
theorem ClosesAt.unique {text inside rest otherInside otherRest : List Char}
    (h : ClosesAt text inside rest) (hother : ClosesAt text otherInside otherRest) :
    inside = otherInside ∧ rest = otherRest := by
  have hlength : inside.length = otherInside.length :=
    le_antisymm (h.first _ _ hother.text_eq) (hother.first _ _ h.text_eq)
  have htexts := h.text_eq.symm.trans hother.text_eq
  rw [List.append_assoc, List.append_assoc] at htexts
  obtain ⟨hinside, hrest⟩ := List.append_inj htexts hlength
  exact ⟨hinside, List.append_cancel_left hrest⟩

/-- A text with a closing mark ends a comment. -/
theorem exists_closesAt {text : List Char} (h : closingMark <:+: text) :
    ∃ inside rest, ClosesAt text inside rest := by
  induction text with
  | nil => cases List.eq_nil_of_infix_nil h
  | cons head tail ih =>
    by_cases hhere : closingMark <+: head :: tail
    · obtain ⟨rest, hrest⟩ := hhere
      exact ⟨[], rest, hrest.symm, fun _ _ _ => Nat.zero_le _⟩
    · obtain ⟨inside, rest, htail, hfirst⟩ := ih ((List.infix_cons_iff.mp h).resolve_left hhere)
      refine ⟨head :: inside, rest, by rw [htail]; rfl, fun earlier later heq => ?_⟩
      cases earlier with
      | nil => exact absurd ⟨later, heq.symm⟩ hhere
      | cons _ earlier =>
        exact Nat.succ_le_succ (hfirst earlier later (List.cons.inj heq).2)

end Header

/-! ## Lines of described symbols -/

namespace SymbolDoc

open Header (closingMark)

/-- The symbol or its description has a closing mark. -/
def Breaks (doc : SymbolDoc) : Prop :=
  closingMark <:+: doc.name.toList ∨ closingMark <:+: doc.text.toList

instance (doc : SymbolDoc) : Decidable doc.Breaks :=
  inferInstanceAs (Decidable (_ ∨ _))

end SymbolDoc

namespace Header

/-- The lines of described symbols. -/
def docLines (docs : List SymbolDoc) : List Char :=
  docs.flatMap fun doc => (docLine doc).toList

theorem docLines_cons {doc : SymbolDoc} {docs : List SymbolDoc} :
    docLines (doc :: docs) = (docLine doc).toList ++ docLines docs :=
  rfl

theorem docLines_append {docs others : List SymbolDoc} :
    docLines (docs ++ others) = docLines docs ++ docLines others :=
  List.flatMap_append

/-- In front of any text, the line of a symbol has the closing marks of the symbol and of its
description, and no other. -/
theorem closingMark_infix_docLine_append {doc : SymbolDoc} {rest : List Char} :
    closingMark <:+: (docLine doc).toList ++ rest ↔ doc.Breaks ∨ closingMark <:+: rest := by
  have hline : (docLine doc).toList ++ rest =
      doc.name.toList ++ ' ' :: ([] ++ ':' :: ([] ++ ' ' :: (doc.text.toList ++ '\n' :: rest))) :=
    by simp [docLine]
  rw [hline, closingMark, pair_infix_append_cons (by decide) (by decide),
    pair_infix_append_cons (by decide) (by decide), pair_infix_append_cons (by decide) (by decide),
    pair_infix_append_cons (by decide) (by decide)]
  simp [SymbolDoc.Breaks, closingMark, or_assoc]

theorem closingMark_infix_docLines_append {docs : List SymbolDoc} {rest : List Char} :
    closingMark <:+: docLines docs ++ rest ↔
      (∃ doc ∈ docs, doc.Breaks) ∨ closingMark <:+: rest := by
  induction docs with
  | nil => simp [docLines]
  | cons doc docs ih =>
    rw [docLines_cons, List.append_assoc, closingMark_infix_docLine_append, ih]
    simp [or_assoc]

/-- The comment ends at the closing line exactly where no described symbol breaks it. -/
theorem closesAt_docLines_iff {docs : List SymbolDoc} {rest : List Char} :
    ClosesAt (docLines docs ++ closingMark ++ rest) (docLines docs) rest ↔
      ∀ doc ∈ docs, ¬ doc.Breaks := by
  have hstar : ¬ closingMark <:+: ['*'] := by decide
  rw [closesAt_append_iff, closingMark_infix_docLines_append]
  simp [hstar]

/-- Else it ends in the line of the first symbol that breaks it, and what stands there behind the
closing mark is not in the comment. -/
theorem closesAt_of_breaks {earlier later : List SymbolDoc} {doc : SymbolDoc}
    {inside behind rest : List Char} (hearlier : ∀ other ∈ earlier, ¬ other.Breaks)
    (h : ClosesAt (docLine doc).toList inside behind) :
    ClosesAt (docLines (earlier ++ doc :: later) ++ closingMark ++ rest)
      (docLines earlier ++ inside) (behind ++ docLines later ++ closingMark ++ rest) := by
  have htext : docLines (earlier ++ doc :: later) ++ closingMark ++ rest =
      docLines earlier ++ inside ++ closingMark ++
        (behind ++ docLines later ++ closingMark ++ rest) := by
    rw [docLines_append, docLines_cons, h.text_eq]
    simp only [List.append_assoc]
  have hline : ¬ closingMark <:+: inside ++ ['*'] :=
    closesAt_append_iff.mp (h.text_eq ▸ h)
  rw [htext, closesAt_append_iff, List.append_assoc, closingMark_infix_docLines_append]
  rintro (⟨other, hmem, hbreaks⟩ | hinside)
  · exact hearlier other hmem hbreaks
  · exact hline hinside

/-- How a comment with the lines of described symbols ends, where `rest` stands behind it: on the
closing line where no symbol breaks it, and in the line of the first one that does where one
does. -/
structure EndsComment (docs : List SymbolDoc) (rest : List Char) : Prop where
  whole_iff : ClosesAt (docLines docs ++ closingMark ++ rest) (docLines docs) rest ↔
    ∀ doc ∈ docs, ¬ doc.Breaks
  cut : (∃ doc ∈ docs, doc.Breaks) → ∃ earlier doc later inside behind,
    docs = earlier ++ doc :: later ∧ (∀ other ∈ earlier, ¬ other.Breaks) ∧
      ClosesAt (docLine doc).toList inside behind ∧
      ClosesAt (docLines docs ++ closingMark ++ rest) (docLines earlier ++ inside)
        (behind ++ docLines later ++ closingMark ++ rest)

theorem endsComment (docs : List SymbolDoc) (rest : List Char) : EndsComment docs rest where
  whole_iff := closesAt_docLines_iff
  cut := by
    rintro ⟨breaking, hmem, hbreaking⟩
    have hsome : (docs.find? fun doc => decide doc.Breaks).isSome = true :=
      List.find?_isSome.mpr ⟨breaking, hmem, decide_eq_true hbreaking⟩
    obtain ⟨doc, hfound⟩ := Option.isSome_iff_exists.mp hsome
    obtain ⟨hbreaks, earlier, later, rfl, hearlier⟩ := List.find?_eq_some_iff_append.mp hfound
    have hearlier : ∀ other ∈ earlier, ¬ other.Breaks := by
      intro other hother
      simpa using hearlier other hother
    have hline : closingMark <:+: (docLine doc).toList := by
      rw [← List.append_nil (docLine doc).toList, closingMark_infix_docLine_append]
      exact .inl (of_decide_eq_true hbreaks)
    obtain ⟨inside, behind, hcloses⟩ := exists_closesAt hline
    exact ⟨earlier, doc, later, inside, behind, rfl, hearlier, hcloses,
      closesAt_of_breaks hearlier hcloses⟩

/-! ## Headers -/

variable {config : Config} {exportedAt : Option Timestamp} {platform : Platform}
  {enumerations : List Enumeration} {header : String}

/-- The comment of an enumeration stands in front of what the header has of it without
descriptions. -/
theorem enumBlock_eq (enumeration : Enumeration) :
    enumBlock platform enumeration =
      docComment enumeration.docs ++ enumBlock platform { enumeration with docs := [] } := by
  cases platform with
  | server => simp [enumBlock, serverEnum, docComment, String.append_assoc]
  | client => simp [enumBlock, clientEnum, docComment, String.append_assoc]

theorem toList_docComment {docs : List SymbolDoc} (h : docs ≠ []) :
    (docComment docs).toList = "/*\n".toList ++ docLines docs ++ closingMark ++ ['\n'] := by
  rw [docComment, if_neg (by simpa using h)]
  simp [docLines, closingMark, List.flatMap, Function.comp_def]

/-- What stands in front of an enumeration that comes behind others. -/
def leadOf (config : Config) (exportedAt : Option Timestamp) (platform : Platform)
    (earlier : List Enumeration) : String :=
  enumsLead config exportedAt platform ++ String.join (earlier.map (enumBlock platform))

/-- What stands behind the comment of an enumeration that comes in front of others: the rest of the
closing line, the declaration, and what comes then. -/
def restOf (config : Config) (platform : Platform) (enumeration : Enumeration)
    (later : List Enumeration) : List Char :=
  '\n' :: (enumBlock platform { enumeration with docs := [] }
    ++ String.join (later.map (enumBlock platform)) ++ enumsEnd config platform).toList

/-- The comment of an enumeration in a header, between what stands in front of it and behind it. -/
theorem toList_enumHeader {earlier later : List Enumeration} {enumeration : Enumeration}
    (h : enumHeader config exportedAt platform (earlier ++ enumeration :: later) = .ok header)
    (hdocs : enumeration.docs ≠ []) :
    header.toList = (leadOf config exportedAt platform earlier).toList ++ "/*\n".toList ++
      (docLines enumeration.docs ++ closingMark ++ restOf config platform enumeration later) := by
  rw [(enumHeader_eq_ok_iff.mp h).2, List.map_append, List.map_cons, enumBlock_eq enumeration]
  simp only [leadOf, restOf, String.toList_append, String.toList_join, List.flatMap_append,
    List.flatMap_cons, toList_docComment hdocs, List.append_assoc, List.cons_append,
    List.nil_append]

end Header

/-! ## Workbooks -/

namespace Workbook

open Header

/-- Where the enum sheets of a workbook are declared and a platform's header is there, whatever the
time of its export, each comment has the described symbols of its sheet and stands in front of its
declaration; and it ends on its closing line exactly where no symbol and no description has a
closing mark.  Else it ends in the line of the first symbol that breaks it, in front of the rest of
this line. -/
theorem descriptions_commented {workbook : Workbook} {enumerations : List Enumeration}
    {config : Config} {exportedAt : Option Timestamp} {platform : Platform} {header : String}
    (h : workbook.enumerations = .ok enumerations)
    (hheader : Header.enumHeader config exportedAt platform enumerations = .ok header) :
    List.Forall₂ (fun sheet enumeration => enumeration.docs = Enumeration.describedSymbols sheet)
        workbook.enumSheets enumerations ∧
      ∀ earlier enumeration later, enumerations = earlier ++ enumeration :: later →
        enumeration.docs ≠ [] →
          header.toList = (leadOf config exportedAt platform earlier).toList ++ "/*\n".toList ++
              (docLines enumeration.docs ++ closingMark ++
                restOf config platform enumeration later) ∧
            EndsComment enumeration.docs (restOf config platform enumeration later) := by
  refine ⟨(Outcome.mapM_eq_ok.mp h).imp fun _ _ => Enumeration.docs_of_ofSheet, ?_⟩
  rintro earlier enumeration later rfl hdocs
  exact ⟨toList_enumHeader hheader hdocs, endsComment _ _⟩

/-! ### A description that ends its comment -/

/-- An enum sheet with one description. -/
def noted (description : String) : Workbook where
  sheets := [
    { name := "Grade"
      columns := ["Enum", "Value", "Description"]
      rows := [["Common", "", description], ["Rare", "3", ""]] }]
  exportedAt := none

/-- What the sheet declares. -/
def notedEnumeration (description : String) : Enumeration where
  name := "Enum_Grade"
  sheet := "Grade"
  entries := [⟨"Common", none, 0⟩, ⟨"Rare", some 3, 3⟩]
  docs := [⟨"Common", description⟩]

theorem exists_notedHeader (description : String) (platform : Platform) :
    ∃ header, Header.enumHeader .standard none platform [notedEnumeration description] =
      .ok header := by
  refine ⟨_, enumHeader_eq_ok_iff.mpr ⟨?_, rfl⟩⟩
  rw [List.forall_mem_singleton]
  cases platform with
  | server | client => rfl

/-- Stars and slashes that stand apart stay in the comment. -/
theorem noted_commented :
    (noted "*plain* / kept").enumerations = .ok [notedEnumeration "*plain* / kept"] ∧
      ∀ platform, ∃ header,
        Header.enumHeader .standard none platform [notedEnumeration "*plain* / kept"] =
            .ok header ∧
          ∃ rest, header.toList = (leadOf .standard none platform []).toList ++ "/*\n".toList ++
              ("Common : *plain* / kept\n".toList ++ closingMark ++ rest) ∧
            ClosesAt ("Common : *plain* / kept\n".toList ++ closingMark ++ rest)
              "Common : *plain* / kept\n".toList rest := by
  have hdeclared :
      (noted "*plain* / kept").enumerations = .ok [notedEnumeration "*plain* / kept"] := by
    decide +kernel
  refine ⟨hdeclared, fun platform => ?_⟩
  obtain ⟨header, hheader⟩ := exists_notedHeader "*plain* / kept" platform
  obtain ⟨-, hcomments⟩ := descriptions_commented hdeclared hheader
  obtain ⟨htext, hends⟩ := hcomments [] (notedEnumeration "*plain* / kept") [] rfl nofun
  have hlines : docLines (notedEnumeration "*plain* / kept").docs =
      "Common : *plain* / kept\n".toList := by decide +kernel
  rw [hlines] at htext
  refine ⟨header, hheader, _, htext, ?_⟩
  rw [← hlines]
  exact hends.whole_iff.mpr (by decide +kernel)

/-- A line that is cut at a closing mark of its own ends a comment there. -/
theorem closesAt_notedLine (rest : List Char) :
    ClosesAt ("Common : plain */ int stray; /* kept\n".toList ++ closingMark ++ rest)
      "Common : plain ".toList (" int stray; /* kept\n".toList ++ closingMark ++ rest) := by
  have hline : "Common : plain */ int stray; /* kept\n".toList =
      "Common : plain ".toList ++ closingMark ++ " int stray; /* kept\n".toList := by
    decide +kernel
  rw [hline, List.append_assoc, List.append_assoc, ← List.append_assoc _ closingMark rest]
  exact closesAt_append_iff.mpr (by decide +kernel)

/-- A closing mark in a description ends the comment in front of the closing line, and what stands
behind it in the description is compiled. -/
theorem noted_cut_short :
    ∃ header rest,
      (noted "plain */ int stray; /* kept").enumHeader .standard .server = .ok header ∧
        header.toList = (leadOf .standard none .server []).toList ++ "/*\n".toList ++
          ("Common : plain */ int stray; /* kept\n".toList ++ closingMark ++ rest) ∧
        ClosesAt ("Common : plain */ int stray; /* kept\n".toList ++ closingMark ++ rest)
          "Common : plain ".toList (" int stray; /* kept\n".toList ++ closingMark ++ rest) ∧
        ¬ ClosesAt ("Common : plain */ int stray; /* kept\n".toList ++ closingMark ++ rest)
          "Common : plain */ int stray; /* kept\n".toList rest := by
  have hdeclared : (noted "plain */ int stray; /* kept").enumerations =
      .ok [notedEnumeration "plain */ int stray; /* kept"] := by
    decide +kernel
  obtain ⟨header, hheader⟩ := exists_notedHeader "plain */ int stray; /* kept" .server
  have hlines : docLines (notedEnumeration "plain */ int stray; /* kept").docs =
      "Common : plain */ int stray; /* kept\n".toList := by decide +kernel
  have htext : header.toList = (leadOf .standard none .server []).toList ++ "/*\n".toList ++
      (docLines (notedEnumeration "plain */ int stray; /* kept").docs ++ closingMark ++
        restOf .standard .server (notedEnumeration "plain */ int stray; /* kept") []) :=
    toList_enumHeader hheader nofun
  rw [hlines] at htext
  refine ⟨header, _, enumHeader_eq_ok.mpr ⟨_, hdeclared, hheader⟩, htext, closesAt_notedLine _, ?_⟩
  intro hwhole
  exact absurd ((closesAt_notedLine _).unique hwhole).1 (by decide +kernel)

end Workbook

end GameSheets

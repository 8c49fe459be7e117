/-
  The grammar of type cells.

  Question marks aside, a type cell reads

    type  [_ index]  _  letters

  where the letters are any text over `s` and `c`.  The grammar is ambiguous in one place: a
  reference takes any name, so that `Enum_Grade_1` is a reference to `Grade` with an index, or one
  to `Grade_1` without.  The index is dropped wherever that leaves a type (`BaseType.WrittenAs`), and
  only there: what is left of `Enum_1` is no type, so that it refers to the sheet `1`.

  1. The readers of types and of indices are inverted exactly (`BaseType.ofText?_eq_some_iff`,
     `dropIndex?_eq_some_iff`), and with them the reader of both (`baseOf?_eq_some_iff`).
  2. Every cell that is no comment conforms to the grammar or has one of four faults
     (`conforms_or_faulty`); a cell that conforms is read as what it says, and one with a fault is
     refused for it.  Reading is a function, so that the two exclude each other, and a cell is read
     or refused only so.
  3. A printed cell conforms, wherever question marks are put into it (`conforms_of_printed`).
-/
import Mathlib
import GameSheets.Column.TypeCell

namespace GameSheets

namespace BaseType

/-! ## Types -/

/-- References are read as the name behind the prefix. -/
theorem referenced?_eq_some_iff {text : List Char} {sheet : String} :
    referenced? text = some sheet ↔ sheet ≠ "" ∧ text = (referenceTo sheet).toList := by
  have hreference : ∀ name : String, (referenceTo name).toList
      = 'E' :: 'n' :: 'u' :: 'm' :: '_' :: name.toList := by
    intro name
    simp [referenceTo]
  rw [hreference]
  unfold referenced?
  split
  · rename_i name
    constructor
    · intro h
      split at h
      · cases h
      · rename_i hname
        obtain rfl := Option.some.inj h
        exact ⟨by simpa using hname, by rw [String.toList_ofList]⟩
    · rintro ⟨hsheet, htext⟩
      simp only [List.cons.injEq, true_and] at htext
      subst htext
      have hname : sheet.toList ≠ [] := by simpa using hsheet
      rw [if_neg hname, String.ofList_toList]
  · rename_i hother
    constructor
    · intro h
      cases h
    · rintro ⟨-, htext⟩
      exact absurd htext (hother _)

/-- The seven types with fixed names have no underscore in them; all others are references. -/
theorem not_mem_text_or_enumeration (base : BaseType) :
    '_' ∉ base.text.toList ∨ ∃ sheet, base = enumeration sheet := by
  cases base with
  | enumeration sheet => exact .inr ⟨sheet, rfl⟩
  | int32 | int64 | float | double | vector | rotator | string => exact .inl (by decide)

/-- A type is read from its text, and from no other, unless it is a reference without a name. -/
theorem ofText?_eq_some_iff {text : String} {base : BaseType} :
    ofText? text = some base ↔ base ≠ enumeration "" ∧ text = base.text := by
  constructor
  · intro h
    unfold ofText? at h
    split at h
    case h_8 =>
      obtain ⟨sheet, hsheet, rfl⟩ := Option.map_eq_some_iff.mp h
      obtain ⟨hname, htext⟩ := referenced?_eq_some_iff.mp hsheet
      refine ⟨?_, String.toList_inj.mp htext⟩
      rintro ⟨⟩
      exact hname rfl
    all_goals
      obtain rfl := Option.some.inj h
      exact ⟨nofun, rfl⟩
  · rintro ⟨hbase, rfl⟩
    cases base with
    | int32 | int64 | float | double | vector | rotator | string => rfl
    | enumeration sheet =>
      have hname : sheet ≠ "" := by
        rintro rfl
        exact hbase rfl
      have hread : referenced? (referenceTo sheet).toList = some sheet :=
        referenced?_eq_some_iff.mpr ⟨hname, rfl⟩
      show ofText? (referenceTo sheet) = _
      unfold ofText?
      split
      case h_8 =>
        rw [hread]
        rfl
      -- the fixed names do not start as a reference does
      all_goals
        rename_i heq
        rw [heq] at hread
        cases hread

end BaseType

/-! ## Indices -/

/-- An index in a type cell: at least one digit. -/
structure IsIndex (digits : List Char) : Prop where
  ne_nil : digits ≠ []
  isDigit : ∀ c ∈ digits, c.isDigit = true

theorem IsIndex.not_mem {digits : List Char} (h : IsIndex digits) : '_' ∉ digits := by
  intro hmem
  exact absurd (h.isDigit '_' hmem) (by decide)

/-- The text in front of the letters writes the type: with an index behind it, or alone where no
index can be dropped from it so that a type is left. -/
inductive BaseType.WrittenAs (base : BaseType) : List Char → Prop
  | indexed {digits : List Char} (hdigits : IsIndex digits) :
      WrittenAs base (base.text.toList ++ '_' :: digits)
  | bare (hbare : ∀ (other : BaseType) (digits : List Char), other ≠ .enumeration "" →
      IsIndex digits → base.text.toList ≠ other.text.toList ++ '_' :: digits) :
      WrittenAs base base.text.toList

namespace TypeCell

/-- What is left of a text without an index is what stands before the underscore in front of it. -/
theorem dropIndex?_eq_some_iff {body head : List Char} :
    dropIndex? body = some head ↔ ∃ digits, IsIndex digits ∧ body = head ++ '_' :: digits := by
  unfold dropIndex?
  constructor
  · intro h
    split at h
    · rename_i front digits hcut
      split at h
      · rename_i hdigits
        obtain rfl := Option.some.inj h
        exact ⟨digits, ⟨hdigits.1, List.all_eq_true.mp hdigits.2⟩,
          (Text.splitLast?_eq_some_iff.mp hcut).1⟩
      · cases h
    · cases h
  · rintro ⟨digits, hdigits, rfl⟩
    have hcut : Text.splitLast? '_' (head ++ '_' :: digits) = some (head, digits) :=
      Text.splitLast?_eq_some_iff.mpr ⟨rfl, hdigits.not_mem⟩
    rw [hcut]
    exact if_pos ⟨hdigits.ne_nil, List.all_eq_true.mpr hdigits.isDigit⟩

/-- A type is read behind an index where its text stands there. -/
theorem dropIndex?_bind_eq_some_iff {body : List Char} {base : BaseType} :
    (dropIndex? body).bind (fun head => BaseType.ofText? (String.ofList head)) = some base ↔
      base ≠ .enumeration "" ∧
        ∃ digits, IsIndex digits ∧ body = base.text.toList ++ '_' :: digits := by
  rw [Option.bind_eq_some_iff]
  constructor
  · rintro ⟨head, hhead, hbase⟩
    obtain ⟨hnamed, htext⟩ := BaseType.ofText?_eq_some_iff.mp hbase
    obtain ⟨digits, hdigits, rfl⟩ := dropIndex?_eq_some_iff.mp hhead
    rw [← htext, String.toList_ofList]
    exact ⟨hnamed, digits, hdigits, rfl⟩
  · rintro ⟨hnamed, digits, hdigits, rfl⟩
    refine ⟨base.text.toList, dropIndex?_eq_some_iff.mpr ⟨digits, hdigits, rfl⟩, ?_⟩
    rw [String.ofList_toList]
    exact BaseType.ofText?_eq_some_iff.mpr ⟨hnamed, rfl⟩

/-- The type that a text in front of the letters is read as is the one that it writes. -/
theorem baseOf?_eq_some_iff {body : List Char} {base : BaseType} :
    baseOf? body = some base ↔ base ≠ .enumeration "" ∧ base.WrittenAs body := by
  rw [baseOf?, Option.or_eq_some_iff, dropIndex?_bind_eq_some_iff, BaseType.ofText?_eq_some_iff]
  constructor
  · rintro (⟨hnamed, digits, hdigits, rfl⟩ | ⟨hnone, hnamed, htext⟩)
    · exact ⟨hnamed, .indexed hdigits⟩
    · have hbody : body = base.text.toList := by rw [← htext, String.toList_ofList]
      subst hbody
      refine ⟨hnamed, .bare ?_⟩
      intro other digits hother hdigits hbody
      have hsome := dropIndex?_bind_eq_some_iff.mpr ⟨hother, digits, hdigits, hbody⟩
      rw [hnone] at hsome
      cases hsome
  · rintro ⟨hnamed, hwritten⟩
    cases hwritten with
    | indexed hdigits => exact .inl ⟨hnamed, _, hdigits, rfl⟩
    | bare hbare =>
      refine .inr ⟨?_, hnamed, String.ofList_toList⟩
      rw [Option.eq_none_iff_forall_ne_some]
      intro other hsome
      obtain ⟨hother, digits, hdigits, hbody⟩ := dropIndex?_bind_eq_some_iff.mp hsome
      exact hbare other digits hother hdigits hbody

/-! ## Cells -/

/-- The cell without its question marks. -/
def unmarked (cell : String) : List Char :=
  cell.toList.filter (· != '?')

/-- The text names platforms only. -/
def AreLetters (letters : List Char) : Prop :=
  ∀ c ∈ letters, c = Platform.server.letter ∨ c = Platform.client.letter

theorem AreLetters.not_mem {letters : List Char} (h : AreLetters letters) : '_' ∉ letters := by
  intro hmem
  rcases h '_' hmem with heq | heq
  · exact absurd heq (by decide)
  · exact absurd heq (by decide)

theorem all_eq_true_iff_areLetters {letters : List Char} :
    letters.all (fun c => c == 's' || c == 'c') = true ↔ AreLetters letters := by
  simp [AreLetters, Platform.letter]

/-- The cell, question marks aside, writes the type with these letters behind it. -/
structure Conforms (cell : String) (base : BaseType) (letters : List Char) : Prop where
  named : base ≠ .enumeration ""
  areLetters : AreLetters letters
  writes : ∃ body, unmarked cell = body ++ '_' :: letters ∧ base.WrittenAs body

/-- What is wrong with a cell: it has no underscore; another letter stands behind the last one;
nothing stands before it; or what stands before it writes no type. -/
inductive Faulty (column cell : String) : TypeCellError → Prop
  | noInclusion (hcut : '_' ∉ unmarked cell) :
      Faulty column cell (.malformed column cell .noInclusion)
  | strayLetter {body letters : List Char} (hcut : unmarked cell = body ++ '_' :: letters)
      (hlast : '_' ∉ letters) (hstray : ¬ AreLetters letters) :
      Faulty column cell (.malformed column cell .strayLetter)
  | noBase {letters : List Char} (hcut : unmarked cell = '_' :: letters)
      (hletters : AreLetters letters) :
      Faulty column cell (.malformed column cell .noBase)
  | unknownBase {body letters : List Char} (hcut : unmarked cell = body ++ '_' :: letters)
      (hletters : AreLetters letters) (hbody : body ≠ [])
      (hunknown : ∀ base : BaseType, base ≠ .enumeration "" → ¬ base.WrittenAs body) :
      Faulty column cell (.unknownBase column (String.ofList body))

/-- A cell has a fault or conforms to the grammar. -/
theorem conforms_or_faulty (column cell : String) :
    (∃ base letters, Conforms cell base letters) ∨ ∃ cause, Faulty column cell cause := by
  cases hcut : Text.splitLast? '_' (unmarked cell) with
  | none => exact .inr ⟨_, .noInclusion (Text.splitLast?_eq_none_iff.mp hcut)⟩
  | some cut =>
    obtain ⟨body, letters⟩ := cut
    obtain ⟨htext, hlast⟩ := Text.splitLast?_eq_some_iff.mp hcut
    by_cases hletters : AreLetters letters
    · by_cases hbody : body = []
      · subst hbody
        exact .inr ⟨_, .noBase htext hletters⟩
      · cases hbase : baseOf? body with
        | some base =>
          obtain ⟨hnamed, hwritten⟩ := baseOf?_eq_some_iff.mp hbase
          exact .inl ⟨base, letters, hnamed, hletters, body, htext, hwritten⟩
        | none =>
          refine .inr ⟨_, .unknownBase htext hletters hbody ?_⟩
          intro base hnamed hwritten
          rw [baseOf?_eq_some_iff.mpr ⟨hnamed, hwritten⟩] at hbase
          cases hbase
    · exact .inr ⟨_, .strayLetter htext hlast hletters⟩

section Reading

variable {column cell : String} (hcolumn : GameSheets.isComment column = false)
  (hcell : GameSheets.isComment cell = false)

include hcolumn hcell

/-- Reading goes on behind the comments with the last cut of the unmarked cell. -/
theorem read_of_cut {body letters : List Char} (hcut : unmarked cell = body ++ '_' :: letters)
    (hlast : '_' ∉ letters) :
    read column cell =
      if letters.all (fun c => c == 's' || c == 'c') = false then
        .error (.malformed column cell .strayLetter)
      else if body = [] then .error (.malformed column cell .noBase)
      else
        match baseOf? body with
        | none => .error (.unknownBase column (String.ofList body))
        | some base =>
          .ok (.typed base (cell.toList.contains '?')
            (letters.contains Platform.server.letter)
            (letters.contains Platform.client.letter)) := by
  have hsplit : Text.splitLast? '_' (cell.toList.filter (· != '?')) = some (body, letters) :=
    Text.splitLast?_eq_some_iff.mpr ⟨hcut, hlast⟩
  rw [read, hcolumn, hcell, hsplit]
  rfl

/-- A cell with a fault is refused for it. -/
theorem read_of_faulty {cause : TypeCellError} (h : Faulty column cell cause) :
    read column cell = .error cause := by
  cases h with
  | noInclusion hcut =>
    have hsplit : Text.splitLast? '_' (cell.toList.filter (· != '?')) = none :=
      Text.splitLast?_eq_none_iff.mpr hcut
    rw [read, hcolumn, hcell, hsplit]
    rfl
  | strayLetter hcut hlast hstray =>
    rw [← all_eq_true_iff_areLetters, Bool.not_eq_true] at hstray
    rw [read_of_cut hcolumn hcell hcut hlast, if_pos hstray]
  | @noBase letters hcut hletters =>
    have hall := all_eq_true_iff_areLetters.mpr hletters
    have hcut : unmarked cell = [] ++ '_' :: letters := hcut
    rw [read_of_cut hcolumn hcell hcut hletters.not_mem, hall]
    rfl
  | @unknownBase body letters hcut hletters hbody hunknown =>
    have hall := all_eq_true_iff_areLetters.mpr hletters
    have hnone : baseOf? body = none := by
      rw [Option.eq_none_iff_forall_ne_some]
      intro base hbase
      obtain ⟨hnamed, hwritten⟩ := baseOf?_eq_some_iff.mp hbase
      exact hunknown base hnamed hwritten
    rw [read_of_cut hcolumn hcell hcut hletters.not_mem, hall, if_neg nofun, if_neg hbody, hnone]

/-- A cell that conforms is read as what it writes. -/
theorem read_of_conforms {base : BaseType} {letters : List Char}
    (h : Conforms cell base letters) :
    read column cell =
      .ok (.typed base (cell.toList.contains '?') (letters.contains Platform.server.letter)
        (letters.contains Platform.client.letter)) := by
  obtain ⟨body, hcut, hwritten⟩ := h.writes
  have hall := all_eq_true_iff_areLetters.mpr h.areLetters
  have hbase := baseOf?_eq_some_iff.mpr ⟨h.named, hwritten⟩
  have hbody : body ≠ [] := by
    rintro rfl
    cases hbase
  rw [read_of_cut hcolumn hcell hcut h.areLetters.not_mem, hall, if_neg nofun, if_neg hbody, hbase]

end Reading

/-! ## Printed cells -/

/-- The cell is the text with question marks put in at any places. -/
inductive Marked : List Char → List Char → Prop
  | nil : Marked [] []
  | mark {text cell : List Char} (h : Marked text cell) : Marked text ('?' :: cell)
  | keep {text cell : List Char} (c : Char) (h : Marked text cell) : Marked (c :: text) (c :: cell)

/-- The marks are dropped again, and nothing else is. -/
theorem Marked.filter_eq {text cell : List Char} (h : Marked text cell) (hplain : '?' ∉ text) :
    cell.filter (· != '?') = text := by
  induction h with
  | nil => rfl
  | mark _ ih =>
    rw [List.filter_cons_of_neg (by decide)]
    exact ih hplain
  | keep c _ ih =>
    rw [List.mem_cons, not_or] at hplain
    obtain ⟨hc, hrest⟩ := hplain
    rw [List.filter_cons, if_pos (bne_iff_ne.mpr (Ne.symm hc)), ih hrest]

/-- A mark stands first, or what stands first in the text. -/
theorem Marked.head?_eq {text cell : List Char} (h : Marked text cell) :
    cell.head? = some '?' ∨ cell.head? = text.head? := by
  cases h with
  | nil => exact .inr rfl
  | mark _ => exact .inl rfl
  | keep c _ => exact .inr rfl

end TypeCell

namespace BaseType

/-- The type's text, and an index behind it where there is one. -/
def printed (base : BaseType) : Option (List Char) → List Char
  | none => base.text.toList
  | some digits => base.text.toList ++ '_' :: digits

/-- A reference names a sheet, by a name without a question mark. -/
def IsPrintable (base : BaseType) : Prop :=
  ∀ sheet, base = enumeration sheet → sheet ≠ "" ∧ '?' ∉ sheet.toList

/-- Any index may stand behind the type; it may be left out unless the type is a reference whose
name is itself some text with an index. -/
def TakesIndex (base : BaseType) : Option (List Char) → Prop
  | none => ∀ (sheet : String) (name digits : List Char), base = enumeration sheet →
      IsIndex digits → sheet.toList = name ++ '_' :: digits → name = []
  | some digits => IsIndex digits

theorem toList_text_enumeration (sheet : String) :
    (enumeration sheet).text.toList = 'E' :: 'n' :: 'u' :: 'm' :: '_' :: sheet.toList := by
  simp [text, referenceTo]

/-- A printed type without an index has none to drop. -/
theorem writtenAs_text {base : BaseType} (h : base.TakesIndex none) :
    base.WrittenAs base.text.toList := by
  refine .bare ?_
  intro other digits hother hdigits heq
  rcases base.not_mem_text_or_enumeration with hplain | ⟨sheet, rfl⟩
  · rw [heq] at hplain
    simp at hplain
  · rw [toList_text_enumeration] at heq
    cases other with
    | enumeration name =>
      rw [toList_text_enumeration] at heq
      simp only [List.cons_append, List.cons.injEq, true_and] at heq
      have hname := h sheet name.toList digits rfl hdigits heq
      rw [String.toList_eq_nil_iff] at hname
      exact hother (congrArg enumeration hname)
    -- the other types do not start as a reference does
    | int32 | int64 | float | double | vector | rotator | string =>
      exact absurd (congrArg List.head? heq) (by simp [text])

theorem writtenAs_printed {base : BaseType} {index : Option (List Char)}
    (h : base.TakesIndex index) : base.WrittenAs (base.printed index) := by
  cases index with
  | none => exact writtenAs_text h
  | some digits => exact .indexed h

/-- A type is printed without a question mark, and starts with no comment mark. -/
theorem IsPrintable.text_plain {base : BaseType} (h : base.IsPrintable) :
    '?' ∉ base.text.toList ∧ ∃ c rest, base.text.toList = c :: rest ∧ c ≠ '#' := by
  cases base with
  | enumeration sheet =>
    have hmark := (h sheet rfl).2
    rw [toList_text_enumeration]
    refine ⟨by simpa using hmark, 'E', _, rfl, by decide⟩
  | int32 | int64 | float | double | vector | rotator | string =>
    exact ⟨by decide, _, _, rfl, by decide⟩

end BaseType

namespace TypeCell

/-- A printed cell is no comment and conforms, wherever question marks are put into it. -/
theorem conforms_of_printed {base : BaseType} {index : Option (List Char)} {letters : List Char}
    {cell : String} (hbase : base.IsPrintable) (hindex : base.TakesIndex index)
    (hletters : AreLetters letters)
    (hmarked : Marked (base.printed index ++ '_' :: letters) cell.toList) :
    GameSheets.isComment cell = false ∧ Conforms cell base letters := by
  obtain ⟨hplain, c, rest, htext, hc⟩ := hbase.text_plain
  have hnamed : base ≠ .enumeration "" := by
    rintro rfl
    exact (hbase "" rfl).1 rfl
  have hlettersPlain : '?' ∉ letters := by
    intro hmem
    rcases hletters '?' hmem with heq | heq
    · exact absurd heq (by decide)
    · exact absurd heq (by decide)
  have hprinted : '?' ∉ base.printed index ++ '_' :: letters := by
    cases index with
    | none => simp [BaseType.printed, hplain, hlettersPlain]
    | some digits =>
      have hdigits : '?' ∉ digits := fun hmem => absurd (hindex.isDigit '?' hmem) (by decide)
      simp [BaseType.printed, hplain, hdigits, hlettersPlain]
  have hfirst : (base.printed index ++ '_' :: letters).head? = some c := by
    cases index with
    | none => simp [BaseType.printed, htext]
    | some digits => simp [BaseType.printed, htext]
  refine ⟨?_, hnamed, hletters, base.printed index, hmarked.filter_eq hprinted,
    BaseType.writtenAs_printed hindex⟩
  rw [GameSheets.isComment, beq_eq_false_iff_ne]
  rcases hmarked.head?_eq with hhead | hhead
  · rw [hhead]
    decide
  · rw [hhead, hfirst]
    exact fun heq => hc (Option.some.inj heq)

/-! ## Reading by the grammar -/

/-- The cells of the column are read by the grammar.  A cell is read as a type exactly where it
conforms with that type and some letters: it is nullable exactly where it has a question mark, and
included for the platforms whose letters it has.  It is refused exactly for its fault, and it has
one exactly where it does not conform.  What is printed is read back. -/
structure ReadsGrammar (column : String) : Prop where
  typed_iff : ∀ cell, GameSheets.isComment cell = false →
    ∀ base nullable onServer onClient,
      read column cell = .ok (.typed base nullable onServer onClient) ↔
        ∃ letters, Conforms cell base letters ∧ (nullable = true ↔ '?' ∈ cell.toList) ∧
          (onServer = true ↔ Platform.server.letter ∈ letters) ∧
          (onClient = true ↔ Platform.client.letter ∈ letters)
  error_iff : ∀ cell, GameSheets.isComment cell = false →
    ∀ cause, read column cell = .error cause ↔ Faulty column cell cause
  faulty_iff : ∀ cell, GameSheets.isComment cell = false →
    ((∃ cause, Faulty column cell cause) ↔ ∀ base letters, ¬ Conforms cell base letters)
  printed_read : ∀ (base : BaseType) index letters (cell : String), base.IsPrintable →
    base.TakesIndex index → AreLetters letters →
    Marked (base.printed index ++ '_' :: letters) cell.toList →
      ∃ nullable onServer onClient,
        read column cell = .ok (.typed base nullable onServer onClient) ∧
          (nullable = true ↔ '?' ∈ cell.toList) ∧
          (onServer = true ↔ Platform.server.letter ∈ letters) ∧
          (onClient = true ↔ Platform.client.letter ∈ letters)

/-- In a column that is no comment, type cells are read by the grammar. -/
theorem read_by_grammar {column : String} (hcolumn : GameSheets.isComment column = false) :
    ReadsGrammar column where
  typed_iff cell hcell base nullable onServer onClient := by
    constructor
    · intro h
      rcases conforms_or_faulty column cell with ⟨other, letters, hconforms⟩ | ⟨cause, hfaulty⟩
      · rw [read_of_conforms hcolumn hcell hconforms] at h
        cases h
        exact ⟨letters, hconforms, List.contains_iff_mem, List.contains_iff_mem,
          List.contains_iff_mem⟩
      · rw [read_of_faulty hcolumn hcell hfaulty] at h
        cases h
    · rintro ⟨letters, hconforms, hnullable, hserver, hclient⟩
      rw [← List.contains_iff_mem, ← Bool.eq_iff_iff] at hnullable hserver hclient
      rw [read_of_conforms hcolumn hcell hconforms, hnullable, hserver, hclient]
  error_iff cell hcell cause := by
    constructor
    · intro h
      rcases conforms_or_faulty column cell with ⟨other, letters, hconforms⟩ | ⟨fault, hfaulty⟩
      · rw [read_of_conforms hcolumn hcell hconforms] at h
        cases h
      · rw [read_of_faulty hcolumn hcell hfaulty] at h
        cases h
        exact hfaulty
    · exact read_of_faulty hcolumn hcell
  faulty_iff cell hcell := by
    constructor
    · rintro ⟨cause, hfaulty⟩ base letters hconforms
      have hread := read_of_conforms hcolumn hcell hconforms
      rw [read_of_faulty hcolumn hcell hfaulty] at hread
      cases hread
    · intro hnone
      rcases conforms_or_faulty column cell with ⟨base, letters, hconforms⟩ | hfaulty
      · exact absurd hconforms (hnone base letters)
      · exact hfaulty
  printed_read base index letters cell hbase hindex hletters hmarked := by
    obtain ⟨hcell, hconforms⟩ := conforms_of_printed hbase hindex hletters hmarked
    exact ⟨_, _, _, read_of_conforms hcolumn hcell hconforms, List.contains_iff_mem,
      List.contains_iff_mem, List.contains_iff_mem⟩

/-! ### References with numbers in them -/

/-- In `Enum_Grade_2` the number is an index.  In `Enum__1` it is not, since nothing would be left
of the name: this is how a reference to the sheet `_1` is printed.  What stands before the letters
of `_2_c` is an index behind no type. -/
theorem gradeColumn_by_grammar :
    GameSheets.isComment "Grade_2" = false ∧ ReadsGrammar "Grade_2" ∧
      (∃ letters, Conforms "Enum_Grade?_2_cs" (.enumeration "Grade") letters) ∧
      (BaseType.enumeration "_1").IsPrintable ∧ (BaseType.enumeration "_1").TakesIndex none ∧
      Marked ((BaseType.enumeration "_1").printed none ++ '_' :: ['s']) "Enum_?_1_s".toList ∧
      (∃ nullable onServer onClient,
        read "Grade_2" "Enum_?_1_s" =
          .ok (.typed (.enumeration "_1") nullable onServer onClient)) ∧
      Faulty "Grade_2" "_2_c" (.unknownBase "Grade_2" "_2") := by
  have hcolumn : GameSheets.isComment "Grade_2" = false := by decide
  have hreads := read_by_grammar hcolumn
  have hgrade : read "Grade_2" "Enum_Grade?_2_cs" =
      .ok (.typed (.enumeration "Grade") true true true) := by decide +kernel
  have hfault : read "Grade_2" "_2_c" = .error (.unknownBase "Grade_2" "_2") := by decide +kernel
  obtain ⟨letters, hconforms, -⟩ := (hreads.typed_iff _ (by decide) _ _ _ _).mp hgrade
  have hprintable : (BaseType.enumeration "_1").IsPrintable := by
    rintro sheet ⟨⟩
    decide
  have hindex : (BaseType.enumeration "_1").TakesIndex none := by
    rintro sheet name digits ⟨⟩ - hname
    have hsheet : "_1".toList = ['_', '1'] := by decide
    rw [hsheet] at hname
    cases name with
    | nil => rfl
    | cons c rest =>
      -- a second underscore would be needed behind the first
      have hcount := congrArg (List.count '_') (List.cons.inj hname).2
      simp at hcount
  have hletters : AreLetters ['s'] := all_eq_true_iff_areLetters.mp (by decide)
  have hmarked :
      Marked ((BaseType.enumeration "_1").printed none ++ '_' :: ['s']) "Enum_?_1_s".toList :=
    .keep 'E' (.keep 'n' (.keep 'u' (.keep 'm' (.keep '_' (.mark (.keep '_' (.keep '1'
      (.keep '_' (.keep 's' .nil)))))))))
  obtain ⟨nullable, onServer, onClient, hread, -⟩ :=
    hreads.printed_read _ none ['s'] _ hprintable hindex hletters hmarked
  exact ⟨hcolumn, hreads, ⟨letters, hconforms⟩, hprintable, hindex, hmarked,
    ⟨nullable, onServer, onClient, hread⟩, (hreads.error_iff _ (by decide) _).mp hfault⟩

end TypeCell

end GameSheets

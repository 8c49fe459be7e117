/-
  What the fingerprint of a table covers.

  The fingerprint hashes one byte stream.  Every cell stands in it in a frame: eight bytes that say
  how long the cell's text is, and then the text in UTF-8.  Nothing marks where a row ends.

  1. A frame can be cut from the front of a stream in one way only, whatever its text looks like
     (`IsFrame.append_inj`); so frames in a row determine their texts (`Streams.texts_eq`).
  2. The code writes such frames: eight bytes hold every length below `2 ^ 64`
     (`littleEndianValue_littleEndian`), and longer texts fit into no memory.
  3. Rows of one width, unless it is zero, are determined by their cells in order
     (`rows_eq_of_flatten_eq`).

  Hence tables with equally many columns and the same stream show the same in every cell.
-/
import Mathlib
import GameSheets.Proofs.Table.Refining

namespace GameSheets

/-! ## Frames -/

namespace Fingerprint

/-- The number that bytes write, the least significant first. -/
def littleEndianValue : List UInt8 → Nat
  | [] => 0
  | byte :: rest => byte.toNat + 256 * littleEndianValue rest

/-- The bytes are the text in UTF-8 behind its length, which eight bytes write. -/
def IsFrame (text : String) (bytes : List UInt8) : Prop :=
  ∃ head, head.length = 8 ∧ littleEndianValue head = text.utf8ByteSize ∧
    bytes = head ++ text.toUTF8.data.toList

/-- The bytes are the frames of the texts, in order and with nothing between them. -/
def Streams (texts : List String) (bytes : List UInt8) : Prop :=
  ∃ frames, List.Forall₂ IsFrame texts frames ∧ bytes = frames.flatten

/-- The text is one that a machine with addresses of 64 bits can hold. -/
def Addressable (text : String) : Prop :=
  text.utf8ByteSize < 2 ^ 64

/-- The head of a frame says where the text behind it ends, so nothing of what follows can be taken
for a part of the frame. -/
theorem IsFrame.append_inj {text other : String} {frame otherFrame rest otherRest : List UInt8}
    (h : IsFrame text frame) (hother : IsFrame other otherFrame)
    (heq : frame ++ rest = otherFrame ++ otherRest) : text = other ∧ rest = otherRest := by
  obtain ⟨head, hlength, hvalue, rfl⟩ := h
  obtain ⟨otherHead, hotherLength, hotherValue, rfl⟩ := hother
  rw [List.append_assoc, List.append_assoc] at heq
  -- the heads have eight bytes each, so they are the same
  obtain ⟨rfl, htail⟩ := List.append_inj heq (hlength.trans hotherLength.symm)
  -- and with them the lengths of the texts
  have hsize : text.toUTF8.data.toList.length = other.toUTF8.data.toList.length :=
    hvalue.symm.trans hotherValue
  obtain ⟨hbytes, hrest⟩ := List.append_inj htail hsize
  have htext : text.toByteArray = other.toByteArray :=
    ByteArray.ext (Array.toList_inj.mp hbytes)
  exact ⟨String.toByteArray_inj.mp htext, hrest⟩

/-- A frame is never empty. -/
theorem IsFrame.ne_nil {text : String} {frame : List UInt8} (h : IsFrame text frame) :
    frame ≠ [] := by
  obtain ⟨head, hlength, -, rfl⟩ := h
  intro hnil
  rw [(List.append_eq_nil_iff.mp hnil).1] at hlength
  cases hlength

/-- A stream comes from one list of texts only. -/
theorem Streams.texts_eq {texts others : List String} {bytes : List UInt8}
    (h : Streams texts bytes) (hother : Streams others bytes) : texts = others := by
  obtain ⟨frames, hframes, rfl⟩ := h
  obtain ⟨otherFrames, hotherFrames, heq⟩ := hother
  induction hframes generalizing others otherFrames with
  | nil =>
    cases hotherFrames with
    | nil => rfl
    | cons hhead _ =>
      rw [List.flatten_cons, List.flatten_nil] at heq
      exact absurd (List.append_eq_nil_iff.mp heq.symm).1 hhead.ne_nil
  | cons hhead _ ih =>
    cases hotherFrames with
    | nil =>
      rw [List.flatten_cons, List.flatten_nil] at heq
      exact absurd (List.append_eq_nil_iff.mp heq).1 hhead.ne_nil
    | cons hotherHead hotherRest =>
      rw [List.flatten_cons, List.flatten_cons] at heq
      obtain ⟨rfl, hrest⟩ := hhead.append_inj hotherHead heq
      rw [ih _ hotherRest hrest]

/-! ### The frames that are written -/

/-- The low bytes of a number, the least significant first, write what is left of it when it is cut
off above them. -/
theorem littleEndianValue_bytes (count n : Nat) :
    littleEndianValue ((List.range count).map fun i => UInt8.ofNat (n / 256 ^ i)) =
      n % 256 ^ count := by
  induction count generalizing n with
  | zero => exact (Nat.mod_one n).symm
  | succ count ih =>
    have hshift : (fun i => UInt8.ofNat (n / 256 ^ i)) ∘ Nat.succ =
        fun i => UInt8.ofNat (n / 256 / 256 ^ i) := by
      funext i
      show UInt8.ofNat (n / 256 ^ (i + 1)) = _
      rw [Nat.pow_succ', Nat.div_div_eq_div_mul]
    rw [List.range_succ_eq_map, List.map_cons, List.map_map, hshift, littleEndianValue, ih,
      Nat.pow_succ', Nat.mod_mul, UInt8.toNat_ofNat', Nat.pow_zero, Nat.div_one]

/-- Eight bytes hold every number below `2 ^ 64`. -/
theorem littleEndianValue_littleEndian {n : Nat} (h : n < 2 ^ 64) :
    littleEndianValue (littleEndian n) = n := by
  have hvalue := littleEndianValue_bytes 8 n
  rwa [Nat.mod_eq_of_lt (by omega)] at hvalue

theorem isFrame_frame {text : String} (h : Addressable text) : IsFrame text (frame text) :=
  ⟨littleEndian text.utf8ByteSize, rfl, littleEndianValue_littleEndian h, rfl⟩

theorem streams_stream {texts : List String} (h : ∀ text ∈ texts, Addressable text) :
    Streams texts (stream texts) := by
  refine ⟨texts.map frame, ?_, List.flatMap_def⟩
  rw [List.forall₂_map_right_iff, List.forall₂_same]
  exact fun text htext => isFrame_frame (h text htext)

end Fingerprint

/-! ## Rows of one width -/

/-- Rows of one width, which is not zero, are determined by their items in order. -/
theorem rows_eq_of_flatten_eq {α : Type} {width : Nat} (hwidth : 0 < width)
    {rows others : List (List α)} (hrows : ∀ row ∈ rows, row.length = width)
    (hothers : ∀ row ∈ others, row.length = width) (hflatten : rows.flatten = others.flatten) :
    rows = others := by
  have hlengths : rows.map List.length = List.replicate rows.length width :=
    List.map_eq_replicate_iff.mpr hrows
  have hotherLengths : others.map List.length = List.replicate others.length width :=
    List.map_eq_replicate_iff.mpr hothers
  have hcount : rows.length * width = others.length * width := by
    have hsame := congrArg List.length hflatten
    rwa [List.length_flatten, List.length_flatten, hlengths, hotherLengths,
      List.sum_replicate_nat, List.sum_replicate_nat] at hsame
  refine List.eq_iff_flatten_eq.mpr ⟨hflatten, ?_⟩
  rw [hlengths, hotherLengths, Nat.eq_of_mul_eq_mul_right hwidth hcount]

/-! ## Tables -/

namespace TypedTable

/-- The texts that the table shows, row by row. -/
def shownRows (table : TypedTable) : List (List String) :=
  table.rows.map fun row => row.map Value.shown

/-- Every text that the table shows is one that a machine can hold. -/
def Addressable (table : TypedTable) : Prop :=
  ∀ row ∈ table.shownRows, ∀ text ∈ row, Fingerprint.Addressable text

theorem shownCells_eq_flatten (table : TypedTable) :
    shownCells table.rows = table.shownRows.flatten :=
  List.flatMap_def

theorem streams {table : TypedTable} (h : table.Addressable) :
    Fingerprint.Streams (shownCells table.rows) (Fingerprint.stream (shownCells table.rows)) := by
  refine Fingerprint.streams_stream ?_
  intro text htext
  rw [shownCells_eq_flatten] at htext
  obtain ⟨row, hrow, hmem⟩ := List.mem_flatten.mp htext
  exact h row hrow text hmem

end TypedTable

namespace Workbook

/-- Every row of a refined table shows a text for each of its columns. -/
theorem shownRows_width {workbook : Workbook} {platform : Platform} {tables : List TypedTable}
    (h : (workbook.refine platform).outcome = .ok tables) {table : TypedTable}
    (htable : table ∈ tables) : ∀ row ∈ table.shownRows, row.length = table.columns.length := by
  obtain ⟨sheet, -, hsheet⟩ := Outcome.exists_of_mem_right (refine_eq_ok.mp h) htable
  obtain ⟨columns, hgives⟩ := Sheet.refine_eq_ok.mp hsheet
  intro row hrow
  obtain ⟨values, hvalues, rfl⟩ := List.mem_map.mp hrow
  rw [List.length_map, hgives.row_width values hvalues]

/-- The fingerprint of a refined table is the hash of the stream of its texts, each in its frame,
row by row; and whichever two refined tables are compared, if they have equally many columns, one at
least, and the same stream, then they have equally many rows and show the same in every cell.  So
unless two streams have one hash, a row that is added, removed, moved or changed, and a text that is
moved across the end of a cell or a row, changes the fingerprint. -/
theorem rows_shown_of_stream_eq {workbook other : Workbook} {platform otherPlatform : Platform}
    {tables others : List TypedTable} (hrefine : (workbook.refine platform).outcome = .ok tables)
    (hother : (other.refine otherPlatform).outcome = .ok others) :
    (∀ table ∈ tables,
      table.fingerprint = Fingerprint.hash (Fingerprint.stream (TypedTable.shownCells table.rows)) ∧
        (table.Addressable → Fingerprint.Streams (TypedTable.shownCells table.rows)
          (Fingerprint.stream (TypedTable.shownCells table.rows)))) ∧
      ∀ table ∈ tables, ∀ otherTable ∈ others,
        table.columns.length = otherTable.columns.length → 0 < table.columns.length →
        table.Addressable → otherTable.Addressable →
        Fingerprint.stream (TypedTable.shownCells table.rows) =
          Fingerprint.stream (TypedTable.shownCells otherTable.rows) →
        table.rows.length = otherTable.rows.length ∧ table.shownRows = otherTable.shownRows := by
  constructor
  · intro table htable
    obtain ⟨sheet, -, hsheet⟩ := Outcome.exists_of_mem_right (refine_eq_ok.mp hrefine) htable
    obtain ⟨columns, hgives⟩ := Sheet.refine_eq_ok.mp hsheet
    exact ⟨hgives.fingerprint_eq, TypedTable.streams⟩
  · intro table htable otherTable hotherTable hcolumns hpositive hheld hotherHeld hstream
    have hshown : table.shownRows = otherTable.shownRows := by
      have hcells := (TypedTable.streams hheld).texts_eq (hstream ▸ TypedTable.streams hotherHeld)
      rw [TypedTable.shownCells_eq_flatten, TypedTable.shownCells_eq_flatten] at hcells
      exact rows_eq_of_flatten_eq hpositive (shownRows_width hrefine htable)
        (hcolumns ▸ shownRows_width hother hotherTable) hcells
    have hcount := congrArg List.length hshown
    rw [TypedTable.shownRows, TypedTable.shownRows, List.length_map, List.length_map] at hcount
    exact ⟨hcount, hshown⟩

/-- Moving a letter across the end of a cell changes the stream. -/
example : Fingerprint.stream ["ab", "c"] ≠ Fingerprint.stream ["a", "bc"] := by decide

/-! ### Numbers and texts that show the same -/

/-- A sheet with ids of a given type, the first of them written in a given way. -/
def titled (type id : String) : Workbook where
  sheets := [{
    name := "Item"
    columns := ["Id", "Title"]
    rows := [[type, "string?_s"], [id, "ab"], ["8", ""]] }]
  exportedAt := none

/-- The table of the sheet where ids are integers. -/
def numberedTable : TypedTable where
  name := "Item"
  platform := .server
  columns := [⟨"Id", .int32⟩, ⟨"Title", .string⟩]
  rows := [[.int 7, .text "ab"], [.int 8, .text ""]]
  ids := ["007", "8"]
  fingerprint := 12531010621042682366

/-- The table of the sheet where ids are texts. -/
def labelledTable : TypedTable where
  name := "Item"
  platform := .server
  columns := [⟨"Id", .string⟩, ⟨"Title", .string⟩]
  rows := [[.text "7", .text "ab"], [.text "8", .text ""]]
  ids := ["7", "8"]
  fingerprint := 12531010621042682366

/-- The two tables are different, but they have one stream, and so they show the same. -/
theorem titled_rows_shown :
    ((titled "int32_s" "007").refine .server).outcome = .ok [numberedTable] ∧
      ((titled "string_s" "7").refine .server).outcome = .ok [labelledTable] ∧
      numberedTable.Addressable ∧ labelledTable.Addressable ∧
      Fingerprint.Streams (TypedTable.shownCells numberedTable.rows)
        (Fingerprint.stream (TypedTable.shownCells numberedTable.rows)) ∧
      Fingerprint.stream (TypedTable.shownCells numberedTable.rows) =
        Fingerprint.stream (TypedTable.shownCells labelledTable.rows) ∧
      numberedTable.shownRows = labelledTable.shownRows := by
  have hnumbered : ((titled "int32_s" "007").refine .server).outcome = .ok [numberedTable] := by
    decide +kernel
  have hlabelled : ((titled "string_s" "7").refine .server).outcome = .ok [labelledTable] := by
    decide +kernel
  have hheld : numberedTable.Addressable := by
    unfold TypedTable.Addressable Fingerprint.Addressable
    decide +kernel
  have hotherHeld : labelledTable.Addressable := by
    unfold TypedTable.Addressable Fingerprint.Addressable
    decide +kernel
  have hstream : Fingerprint.stream (TypedTable.shownCells numberedTable.rows) =
      Fingerprint.stream (TypedTable.shownCells labelledTable.rows) := by decide +kernel
  obtain ⟨hcovered, hsame⟩ := rows_shown_of_stream_eq hnumbered hlabelled
  obtain ⟨-, hstreams⟩ := hcovered numberedTable List.mem_cons_self
  obtain ⟨-, hshown⟩ := hsame numberedTable List.mem_cons_self labelledTable List.mem_cons_self
    rfl (by decide) hheld hotherHeld hstream
  exact ⟨hnumbered, hlabelled, hheld, hotherHeld, hstreams hheld, hstream, hshown⟩

end Workbook

end GameSheets

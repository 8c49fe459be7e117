/-
  Cutting a text at a separator, over the list of its characters.

  Names in a workbook carry structure at their underscores: `Item_Weapon` is a part of `Item`,
  `Power_2` is the second slot of `Power`, `int32_cs` is a type and its inclusion letters.  The
  three cuts below are all the reading that these names need; each is one recursion on the text.
-/

namespace GameSheets.Text

/-! ## Cuts at one separator -/

/-- The text before and after the first `separator`; `none` when there is none. -/
def splitFirst? (separator : Char) : List Char → Option (List Char × List Char)
  | [] => none
  | c :: rest =>
    if c = separator then some ([], rest)
    else (splitFirst? separator rest).map fun cut => (c :: cut.1, cut.2)

/-- The text before and after the last `separator`; `none` when there is none. -/
def splitLast? (separator : Char) : List Char → Option (List Char × List Char)
  | [] => none
  | c :: rest =>
    match splitLast? separator rest with
    | some cut => some (c :: cut.1, cut.2)
    | none => if c = separator then some ([], rest) else none

/-- The first cut is at a separator with none before it. -/
theorem splitFirst?_eq_some_iff {separator : Char} {text head tail : List Char} :
    splitFirst? separator text = some (head, tail) ↔
      text = head ++ separator :: tail ∧ separator ∉ head := by
  induction text generalizing head with
  | nil => simp [splitFirst?]
  | cons c rest ih =>
    by_cases h : c = separator
    · cases head with
      | nil => simp [splitFirst?, h, eq_comm]
      | cons d head =>
        simp only [splitFirst?, h, if_pos]
        constructor
        · simp
        · rintro ⟨eq, fresh⟩
          simp only [List.cons_append, List.cons.injEq] at eq
          exact absurd (by simp [eq.1]) fresh
    · cases head with
      | nil => simp [splitFirst?, h]
      | cons d head =>
        have := @ih head
        simp only [splitFirst?, if_neg h, Option.map_eq_some_iff, Prod.exists, Prod.mk.injEq,
          List.cons.injEq, List.cons_append, List.mem_cons]
        grind

/-- There is no first cut exactly where there is no separator. -/
theorem splitFirst?_eq_none_iff {separator : Char} {text : List Char} :
    splitFirst? separator text = none ↔ separator ∉ text := by
  induction text with
  | nil => simp [splitFirst?]
  | cons c rest ih =>
    by_cases h : c = separator
    · simp [splitFirst?, h]
    · simp [splitFirst?, h, ih, Ne.symm h]

/-- There is no last cut exactly where there is no separator. -/
theorem splitLast?_eq_none_iff {separator : Char} {text : List Char} :
    splitLast? separator text = none ↔ separator ∉ text := by
  induction text with
  | nil => simp [splitLast?]
  | cons c rest ih =>
    simp only [splitLast?, List.mem_cons, not_or]
    cases h : splitLast? separator rest with
    | some cut => simp [h] at ih; simp [ih]
    | none => simp [h] at ih; by_cases hc : c = separator <;> simp [hc, ih, Ne.symm]

/-- The last cut is at a separator with none behind it. -/
theorem splitLast?_eq_some_iff {separator : Char} {text head tail : List Char} :
    splitLast? separator text = some (head, tail) ↔
      text = head ++ separator :: tail ∧ separator ∉ tail := by
  induction text generalizing head tail with
  | nil => simp [splitLast?]
  | cons c rest ih =>
    cases h : splitLast? separator rest with
    | some cut =>
      obtain ⟨before, behind⟩ := cut
      have inner := (@ih before behind).1 h
      cases head with
      | nil =>
        simp only [splitLast?, h, List.nil_append, List.cons.injEq]
        grind
      | cons d head =>
        have := @ih head tail
        simp only [splitLast?, h, Option.some.injEq, Prod.mk.injEq, List.cons.injEq,
          List.cons_append] at this ⊢
        grind
    | none =>
      have absent := splitLast?_eq_none_iff.1 h
      cases head with
      | nil =>
        simp only [splitLast?, h, List.nil_append, List.cons.injEq]
        grind
      | cons d head =>
        simp only [splitLast?, h, List.cons_append, List.cons.injEq]
        grind

/-! ## Cuts at every separator -/

/-- The pieces between separators, empty ones kept: one more piece than there are separators. -/
def pieces (isSeparator : Char → Bool) : List Char → List (List Char)
  | [] => [[]]
  | c :: rest =>
    if isSeparator c then [] :: pieces isSeparator rest
    else
      match pieces isSeparator rest with
      | [] => [[c]]
      | piece :: others => (c :: piece) :: others

/-- There is always a piece. -/
theorem pieces_ne_nil (isSeparator : Char → Bool) (text : List Char) :
    pieces isSeparator text ≠ [] := by
  cases text with
  | nil => simp [pieces]
  | cons c rest =>
    rw [pieces]
    split
    · simp
    · split <;> simp

/-- There is one more piece than there are separators. -/
theorem length_pieces (isSeparator : Char → Bool) (text : List Char) :
    (pieces isSeparator text).length = text.countP isSeparator + 1 := by
  induction text with
  | nil => rfl
  | cons c rest ih =>
    rw [pieces, List.countP_cons]
    split
    · simp [*]
    · cases h : pieces isSeparator rest with
      | nil => exact absurd h (pieces_ne_nil isSeparator rest)
      | cons piece others => simp_all

/-- No piece holds a separator. -/
theorem not_isSeparator_of_mem_pieces {isSeparator : Char → Bool} {text piece : List Char}
    (h : piece ∈ pieces isSeparator text) : ∀ c ∈ piece, isSeparator c = false := by
  induction text generalizing piece with
  | nil => simp_all [pieces]
  | cons c rest ih =>
    rw [pieces] at h
    split at h
    · rcases List.mem_cons.1 h with rfl | h
      · simp
      · exact ih h
    · split at h
      · simp_all
      · rename_i first others eq
        rcases List.mem_cons.1 h with rfl | h
        · have := @ih first (by simp [eq])
          simp_all
        · exact ih (by simp [eq, h])

/-- A text without separators is its only piece. -/
theorem pieces_of_forall_not {isSeparator : Char → Bool} {text : List Char}
    (h : ∀ c ∈ text, isSeparator c = false) : pieces isSeparator text = [text] := by
  induction text with
  | nil => rfl
  | cons c rest ih => simp_all [pieces]

/-- The first piece ends at the first separator. -/
theorem head?_pieces (isSeparator : Char → Bool) (text : List Char) :
    (pieces isSeparator text).head? = some (text.takeWhile fun c => !isSeparator c) := by
  induction text with
  | nil => rfl
  | cons c rest ih =>
    rw [pieces, List.takeWhile_cons]
    cases hc : isSeparator c with
    | true => rfl
    | false =>
      cases hrest : pieces isSeparator rest with
      | nil => exact absurd hrest (pieces_ne_nil isSeparator rest)
      | cons piece others =>
        rw [hrest] at ih
        obtain rfl := Option.some.inj ih
        rfl

/-- The pieces of two texts around a separator are those of the one and those of the other. -/
theorem pieces_append_cons {isSeparator : Char → Bool} {separator : Char}
    (hs : isSeparator separator = true) (text other : List Char) :
    pieces isSeparator (text ++ separator :: other)
      = pieces isSeparator text ++ pieces isSeparator other := by
  induction text with
  | nil => simp [pieces, hs]
  | cons c rest ih =>
    simp only [List.cons_append, pieces, ih]
    split
    · simp
    · cases h : pieces isSeparator rest with
      | nil => exact absurd h (pieces_ne_nil isSeparator rest)
      | cons piece others => simp

/-! ## Finding -/

/-- The text has `needle` somewhere in it. -/
def occurs (needle : List Char) : List Char → Bool
  | [] => needle.isEmpty
  | c :: rest => needle.isPrefixOf (c :: rest) || occurs needle rest

/-- Finding is the infix relation. -/
theorem occurs_iff_infix {needle text : List Char} :
    occurs needle text = true ↔ needle <:+: text := by
  induction text with
  | nil => simp [occurs]
  | cons c rest ih => simp [occurs, ih, List.infix_cons_iff]

end GameSheets.Text

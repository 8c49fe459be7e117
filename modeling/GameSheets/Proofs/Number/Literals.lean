/-
  The grammar of number literals.

    number    sign ( `inf` | `infinity` | `nan` | decimal )      words in any case
    decimal   digits exponent  |  digits . digits exponent       a digit on one side at least
    exponent  nothing  |  e sign digits                          `e` in either case

  where a sign is `+`, `-` or nothing.  The reader takes the longest run of digits wherever digits
  may stand; this is no restriction, since nothing that may follow digits is itself a digit
  (`span_digits`).  So a text is read exactly where it is a literal (`isSome_ofText?_iff`).
-/
import Mathlib
import GameSheets.Number.Decimal
import GameSheets.Proofs.Number.Numerals

namespace GameSheets.Number

/-! ## Grammar -/

/-- The text has digits only; it may be empty. -/
def AreDigits (text : List Char) : Prop :=
  ∀ c ∈ text, c.isDigit = true

/-- A sign, which may be left out. -/
def IsSign (text : List Char) : Prop :=
  text = [] ∨ text = ['+'] ∨ text = ['-']

/-- An exponent, which may be left out. -/
inductive IsExponent : List Char → Prop
  | absent : IsExponent []
  | marked {mark : Char} {sign digits : List Char} (hmark : mark = 'e' ∨ mark = 'E')
      (hsign : IsSign sign) (hne : digits ≠ []) (hdigits : AreDigits digits) :
      IsExponent (mark :: (sign ++ digits))

/-- A decimal fraction without a sign. -/
inductive IsDecimal : List Char → Prop
  | whole {digits exponent : List Char} (hne : digits ≠ []) (hdigits : AreDigits digits)
      (hexponent : IsExponent exponent) : IsDecimal (digits ++ exponent)
  | pointed {digits fraction exponent : List Char} (hne : digits ≠ [] ∨ fraction ≠ [])
      (hdigits : AreDigits digits) (hfraction : AreDigits fraction)
      (hexponent : IsExponent exponent) : IsDecimal (digits ++ '.' :: (fraction ++ exponent))

/-- A word for what is no finite number. -/
def IsWord (text : List Char) : Prop :=
  text.map Char.toLower ∈ ["inf".toList, "infinity".toList, "nan".toList]

/-- A number literal. -/
def IsLiteral (text : List Char) : Prop :=
  ∃ sign number, IsSign sign ∧ (IsWord number ∨ IsDecimal number) ∧ text = sign ++ number

/-! ## What literals start with -/

theorem IsExponent.head {text : List Char} (h : IsExponent text) :
    ∀ c ∈ text.head?, c.isDigit = false ∧ c ≠ '.' := by
  cases h with
  | absent => exact nofun
  | marked hmark =>
    rintro c ⟨⟩
    rcases hmark with rfl | rfl
    · decide
    · decide

theorem IsDecimal.head {text : List Char} (h : IsDecimal text) :
    ∀ c ∈ text.head?, c.isDigit = true ∨ c = '.' := by
  intro c hc
  cases h with
  | @whole digits exponent hne hdigits =>
    cases digits with
    | nil => exact absurd rfl hne
    | cons d rest =>
      obtain rfl := Option.some.inj hc
      exact .inl (hdigits d List.mem_cons_self)
  | @pointed digits fraction exponent hne hdigits =>
    cases digits with
    | nil => exact .inr (Option.some.inj hc).symm
    | cons d rest =>
      obtain rfl := Option.some.inj hc
      exact .inl (hdigits d List.mem_cons_self)

/-- What stands behind a sign starts with none. -/
theorem head_ne_sign {text : List Char} (h : IsWord text ∨ IsDecimal text) :
    ∀ c ∈ text.head?, c ≠ '+' ∧ c ≠ '-' := by
  intro c hc
  rcases h with hword | hdecimal
  · cases text with
    | nil => cases hc
    | cons d rest =>
      obtain rfl := Option.some.inj hc
      have hmem : d.toLower :: rest.map Char.toLower ∈
          ["inf".toList, "infinity".toList, "nan".toList] := hword
      constructor
      · rintro rfl
        simp at hmem
      · rintro rfl
        simp at hmem
  · rcases hdecimal.head c hc with hdigit | rfl
    · constructor
      · rintro rfl
        exact absurd hdigit (by decide)
      · rintro rfl
        exact absurd hdigit (by decide)
    · decide

/-! ## What literals are made of -/

theorem IsSign.chars {sign : List Char} (h : IsSign sign) : ∀ c ∈ sign, c = '+' ∨ c = '-' := by
  rcases h with rfl | rfl | rfl
  · exact nofun
  · simp
  · simp

theorem IsExponent.chars {text : List Char} (h : IsExponent text) :
    ∀ c ∈ text, c.isAlpha = true ∨ c = '+' ∨ c = '-' ∨ c.isDigit = true := by
  cases h with
  | absent => exact nofun
  | @marked mark sign digits hmark hsign _ hdigits =>
    intro c hc
    rcases List.mem_cons.mp hc with rfl | hc
    · rcases hmark with rfl | rfl
      · exact .inl (by decide)
      · exact .inl (by decide)
    · rcases List.mem_append.mp hc with hc | hc
      · exact .inr ((hsign.chars c hc).imp_right .inl)
      · exact .inr (.inr (.inr (hdigits c hc)))

/-- The letters of a word are letters in whatever case they are written. -/
theorem IsWord.chars {text : List Char} (h : IsWord text) : ∀ c ∈ text, c.isAlpha = true := by
  intro c hc
  have hlower : c.toLower ∈ text.map Char.toLower := List.mem_map_of_mem hc
  have hwords :
      ["inf".toList, "infinity".toList, "nan".toList].all (·.all Char.isAlpha) = true := by
    decide
  have halpha : c.toLower.isAlpha = true :=
    List.all_eq_true.mp (List.all_eq_true.mp hwords _ h) _ hlower
  by_cases hupper : c.isUpper = true
  · simp [Char.isAlpha, hupper]
  · have hsame : c.toLower = c := dif_neg (by simpa [Char.isUpper] using hupper)
    rwa [hsame] at halpha

/-- Literals are made of letters, digits, signs and points. -/
theorem IsLiteral.chars {text : List Char} (h : IsLiteral text) :
    ∀ c ∈ text, c.isAlpha = true ∨ c = '+' ∨ c = '-' ∨ c.isDigit = true ∨ c = '.' := by
  obtain ⟨sign, number, hsign, hnumber, rfl⟩ := h
  intro c hc
  rcases List.mem_append.mp hc with hc | hc
  · exact .inr ((hsign.chars c hc).imp_right .inl)
  · rcases hnumber with hword | hdecimal
    · exact .inl (hword.chars c hc)
    · cases hdecimal with
      | whole _ hdigits hexponent =>
        rcases List.mem_append.mp hc with hc | hc
        · exact .inr (.inr (.inr (.inl (hdigits c hc))))
        · exact (hexponent.chars c hc).imp_right (.imp_right (.imp_right .inl))
      | pointed _ hdigits hfraction hexponent =>
        simp only [List.mem_append, List.mem_cons] at hc
        rcases hc with hc | rfl | hc | hc
        · exact .inr (.inr (.inr (.inl (hdigits c hc))))
        · exact .inr (.inr (.inr (.inr rfl)))
        · exact .inr (.inr (.inr (.inl (hfraction c hc))))
        · exact (hexponent.chars c hc).imp_right (.imp_right (.imp_right .inl))

/-! ## Readers -/

/-- The longest run of digits in front of something else is the digits that stand there. -/
theorem span_digits {digits rest : List Char} (hdigits : AreDigits digits)
    (hrest : ∀ c ∈ rest.head?, c.isDigit = false) :
    (digits ++ rest).takeWhile Char.isDigit = digits ∧
      (digits ++ rest).dropWhile Char.isDigit = rest := by
  have hnone : rest.takeWhile Char.isDigit = [] ∧ rest.dropWhile Char.isDigit = rest := by
    cases rest with
    | nil => exact ⟨rfl, rfl⟩
    | cons c others =>
      have hc := hrest c rfl
      rw [List.takeWhile_cons, List.dropWhile_cons, hc]
      exact ⟨rfl, rfl⟩
  rw [List.takeWhile_append_of_pos hdigits, List.dropWhile_append_of_pos hdigits, hnone.1, hnone.2,
    List.append_nil]
  exact ⟨rfl, rfl⟩

theorem areDigits_takeWhile (text : List Char) : AreDigits (text.takeWhile Char.isDigit) :=
  fun _ hc => List.mem_takeWhile_imp hc

theorem isSome_natural?_iff {text : List Char} :
    (natural? text).isSome = true ↔ text ≠ [] ∧ AreDigits text := by
  rw [Option.isSome_iff_exists]
  constructor
  · rintro ⟨n, hn⟩
    obtain ⟨hne, hdigits, -⟩ := natural?_eq_some_iff.mp hn
    exact ⟨hne, hdigits⟩
  · rintro ⟨hne, hdigits⟩
    exact ⟨_, natural?_eq_some_iff.mpr ⟨hne, hdigits, rfl⟩⟩

theorem isSome_integer?_iff {text : List Char} :
    (integer? text).isSome = true ↔
      ∃ sign digits, IsSign sign ∧ digits ≠ [] ∧ AreDigits digits ∧ text = sign ++ digits := by
  -- the number that digits have is taken for an integer
  have hvalue : ∀ digits : List Char, (do let n ← natural? digits; pure (n : Int)).isSome = true ↔
      digits ≠ [] ∧ AreDigits digits := by
    intro digits
    rw [← isSome_natural?_iff]
    cases natural? digits with
    | none => rfl
    | some n => rfl
  constructor
  · intro h
    unfold integer? at h
    split at h
    · rw [Option.isSome_map, hvalue] at h
      exact ⟨['-'], _, .inr (.inr rfl), h.1, h.2, rfl⟩
    · rw [Option.isSome_map, hvalue] at h
      exact ⟨['+'], _, .inr (.inl rfl), h.1, h.2, rfl⟩
    · rw [Option.isSome_map, hvalue] at h
      exact ⟨[], _, .inl rfl, h.1, h.2, rfl⟩
  · rintro ⟨sign, digits, hsign, hne, hdigits, rfl⟩
    have hread := (hvalue digits).mpr ⟨hne, hdigits⟩
    unfold integer?
    rcases hsign with rfl | rfl | rfl
    · rw [List.nil_append]
      split
      · exact absurd (hdigits '-' List.mem_cons_self) (by decide)
      · exact absurd (hdigits '+' List.mem_cons_self) (by decide)
      · rwa [Option.isSome_map]
    · simp only [List.singleton_append, Option.isSome_map]
      exact hread
    · simp only [List.singleton_append, Option.isSome_map]
      exact hread

theorem Decimal.isSome_exponent?_iff {text : List Char} :
    (exponent? text).isSome = true ↔ IsExponent text := by
  cases text with
  | nil => exact ⟨fun _ => .absent, fun _ => rfl⟩
  | cons mark rest =>
    rw [exponent?]
    constructor
    · intro h
      split at h
      · rename_i hmark
        obtain ⟨sign, digits, hsign, hne, hdigits, rfl⟩ := isSome_integer?_iff.mp h
        exact .marked hmark hsign hne hdigits
      · cases h
    · intro h
      cases h with
      | marked hmark hsign hne hdigits =>
        rw [if_pos hmark]
        exact isSome_integer?_iff.mpr ⟨_, _, hsign, hne, hdigits, rfl⟩

/-- Behind digits and a point, more digits and an exponent are read. -/
theorem Decimal.isSome_ofText?_of_point {text tail : List Char}
    (h : text.dropWhile Char.isDigit = '.' :: tail) :
    (ofText? text).isSome = true ↔
      (text.takeWhile Char.isDigit ≠ [] ∨ tail.takeWhile Char.isDigit ≠ []) ∧
        IsExponent (tail.dropWhile Char.isDigit) := by
  unfold ofText?
  simp only [h]
  rw [← isSome_exponent?_iff, ← not_and_or]
  split
  · rename_i hnone
    exact ⟨nofun, fun hread => absurd hnone hread.1⟩
  · rename_i hsome
    rw [Option.isSome_map]
    exact ⟨fun hread => ⟨hsome, hread⟩, And.right⟩

/-- Behind digits without a point, an exponent is read. -/
theorem Decimal.isSome_ofText?_of_no_point {text : List Char}
    (h : ∀ tail, text.dropWhile Char.isDigit ≠ '.' :: tail) :
    (ofText? text).isSome = true ↔
      text.takeWhile Char.isDigit ≠ [] ∧ IsExponent (text.dropWhile Char.isDigit) := by
  unfold ofText?
  rw [← isSome_exponent?_iff]
  cases hrest : text.dropWhile Char.isDigit with
  | nil =>
    by_cases hwhole : text.takeWhile Char.isDigit = []
    · simp [hwhole]
    · simp [hwhole]
  | cons c rest =>
    have hc : c ≠ '.' := by
      rintro rfl
      exact h rest hrest
    by_cases hwhole : text.takeWhile Char.isDigit = []
    · simp [hwhole, hc]
    · simp [hwhole, hc]

/-- A decimal is read in its parts. -/
theorem Decimal.isSome_ofText?_iff {text : List Char} :
    (ofText? text).isSome = true ↔ IsDecimal text := by
  constructor
  · intro h
    rw [← List.takeWhile_append_dropWhile (p := Char.isDigit) (l := text)]
    by_cases hpoint : ∃ tail, text.dropWhile Char.isDigit = '.' :: tail
    · obtain ⟨tail, htail⟩ := hpoint
      obtain ⟨hne, hexponent⟩ := (isSome_ofText?_of_point htail).mp h
      rw [htail, ← List.takeWhile_append_dropWhile (p := Char.isDigit) (l := tail)]
      exact .pointed hne (areDigits_takeWhile text) (areDigits_takeWhile tail) hexponent
    · obtain ⟨hne, hexponent⟩ := (isSome_ofText?_of_no_point (not_exists.mp hpoint)).mp h
      exact .whole hne (areDigits_takeWhile text) hexponent
  · intro h
    cases h with
    | @whole digits exponent hne hdigits hexponent =>
      obtain ⟨htake, hdrop⟩ := span_digits hdigits fun c hc => (hexponent.head c hc).1
      have hpoint : ∀ tail, (digits ++ exponent).dropWhile Char.isDigit ≠ '.' :: tail := by
        intro tail htail
        rw [hdrop] at htail
        exact (hexponent.head '.' (by rw [htail]; rfl)).2 rfl
      rw [isSome_ofText?_of_no_point hpoint, htake, hdrop]
      exact ⟨hne, hexponent⟩
    | @pointed digits fraction exponent hne hdigits hfraction hexponent =>
      have hpoint : ∀ c ∈ ('.' :: (fraction ++ exponent)).head?, c.isDigit = false := by
        rintro c ⟨⟩
        decide
      obtain ⟨htake, hdrop⟩ := span_digits hdigits hpoint
      obtain ⟨htakeTail, hdropTail⟩ := span_digits hfraction fun c hc => (hexponent.head c hc).1
      rw [isSome_ofText?_of_point hdrop, htake, htakeTail, hdropTail]
      exact ⟨hne, hexponent⟩

theorem Binary64.isSome_unsigned?_iff {negative : Bool} {text : List Char} :
    (unsigned? negative text).isSome = true ↔ IsWord text ∨ IsDecimal text := by
  have hword : IsWord text ↔
      (String.ofList (text.map Char.toLower) = "inf" ∨
        String.ofList (text.map Char.toLower) = "infinity") ∨
        String.ofList (text.map Char.toLower) = "nan" := by
    unfold IsWord
    simp only [List.mem_cons, List.not_mem_nil, or_false, ← String.toList_inj,
      String.toList_ofList, or_assoc]
  rw [hword, unsigned?, ← Decimal.isSome_ofText?_iff]
  split
  · rename_i h
    simp [h]
  · rename_i h
    split
    · rename_i hnan
      simp [hnan]
    · rename_i hnan
      simp [h, hnan]

/-- The texts that are read are the literals. -/
theorem Binary64.isSome_ofText?_iff {text : List Char} :
    (ofText? text).isSome = true ↔ IsLiteral text := by
  constructor
  · intro h
    unfold ofText? at h
    split at h
    · exact ⟨['-'], _, .inr (.inr rfl), isSome_unsigned?_iff.mp h, rfl⟩
    · exact ⟨['+'], _, .inr (.inl rfl), isSome_unsigned?_iff.mp h, rfl⟩
    · exact ⟨[], _, .inl rfl, isSome_unsigned?_iff.mp h, rfl⟩
  · rintro ⟨sign, number, hsign, hnumber, rfl⟩
    rcases hsign with rfl | rfl | rfl
    · have hhead := head_ne_sign hnumber
      rw [List.nil_append]
      unfold ofText?
      split
      · exact absurd rfl (hhead '-' rfl).2
      · exact absurd rfl (hhead '+' rfl).1
      · exact isSome_unsigned?_iff.mpr hnumber
    · exact isSome_unsigned?_iff.mpr hnumber
    · exact isSome_unsigned?_iff.mpr hnumber

end GameSheets.Number

/-
  Numerals: the texts that denote a number.

  A numeral grows at its end: a digit denotes itself, and a digit behind a numeral is added to ten
  times what the numeral denotes.

    0, 7, 07, 072        denote 0, 7, 7, 72

  1. One digit more has the reader do the same to what it has read (`natural?_append`).  So a text
     is read where it is a numeral, as the number that it denotes, and nowhere else: one direction
     is an induction on the numeral (`Denotes.natural?_eq`), the other on the text from its end
     (`denotes_of_natural?`).
  2. A number is denoted by its own print, and by that behind any count of zeros; no other text
     denotes it (`denotes_iff_zeros`).
-/
import Mathlib.Data.List.Induction
import GameSheets.Number.Integer

namespace GameSheets.Number

/-- The text is a run of ASCII digits, of which there is at least one, and denotes the number in
decimal. -/
inductive Denotes : List Char → Nat → Prop
  | digit {d : Nat} (hd : d < 10) : Denotes [Nat.digitChar d] d
  | append {numeral : List Char} {n d : Nat} (h : Denotes numeral n) (hd : d < 10) :
      Denotes (numeral ++ [Nat.digitChar d]) (10 * n + d)

theorem Denotes.ne_nil {numeral : List Char} {n : Nat} (h : Denotes numeral n) :
    numeral ≠ [] := by
  cases h with
  | digit => exact List.cons_ne_nil _ _
  | append => exact List.append_ne_nil_of_right_ne_nil _ (List.cons_ne_nil _ _)

/-! ## Reading -/

/-- The digits are the characters of the numbers below ten. -/
theorem isDigit_iff_exists {c : Char} : c.isDigit = true ↔ ∃ d < 10, c = Nat.digitChar d := by
  constructor
  · intro hdigit
    obtain ⟨hlow, hhigh⟩ := Char.isDigit_iff_toNat.mp hdigit
    have hzero : '0'.toNat = 48 := rfl
    have hnine : '9'.toNat = 57 := rfl
    have hd : c.toNat - 48 < 10 := by omega
    refine ⟨c.toNat - 48, hd, ?_⟩
    apply Char.toNat_inj.mp
    rw [Nat.toNat_digitChar_of_lt_ten hd]
    omega
  · rintro ⟨d, hd, rfl⟩
    rw [Nat.isDigit_digitChar]
    exact decide_eq_true hd

/-- A text is read where it has digits, and nothing else. -/
theorem natural?_eq_some_iff {text : List Char} {n : Nat} :
    natural? text = some n ↔
      text ≠ [] ∧ (∀ c ∈ text, c.isDigit = true) ∧ digitsValue text = n := by
  unfold natural?
  constructor
  · intro h
    split at h
    · rename_i hdigits
      exact ⟨hdigits.1, List.all_eq_true.mp hdigits.2, Option.some.inj h⟩
    · cases h
  · rintro ⟨hne, hdigits, rfl⟩
    exact if_pos ⟨hne, List.all_eq_true.mpr hdigits⟩

theorem natural?_digit {d : Nat} (hd : d < 10) : natural? [Nat.digitChar d] = some d := by
  rw [← Nat.toDigits_of_lt_base hd]
  exact natural?_toDigits d

/-- A digit is added to ten times what is read in front of it. -/
theorem digitsValue_append {d : Nat} (text : List Char) (hd : d < 10) :
    digitsValue (text ++ [Nat.digitChar d]) = 10 * digitsValue text + d := by
  have hvalue : (Nat.digitChar d).toNat - '0'.toNat = d :=
    Nat.toNat_digitChar_sub_48_of_lt_ten hd
  calc
    digitsValue (text ++ [Nat.digitChar d])
        = 10 * digitsValue text + ((Nat.digitChar d).toNat - '0'.toNat) := by
          rw [digitsValue, List.foldl_append]
          rfl
    _ = 10 * digitsValue text + d := by rw [hvalue]

/-- Digits with one more behind them are read as digits are, and the last is added then. -/
theorem natural?_append {text : List Char} {n d : Nat} (hne : text ≠ []) (hd : d < 10) :
    natural? (text ++ [Nat.digitChar d]) = some n ↔
      ∃ m, natural? text = some m ∧ n = 10 * m + d := by
  have hdigit : (Nat.digitChar d).isDigit = true := isDigit_iff_exists.mpr ⟨d, hd, rfl⟩
  rw [natural?_eq_some_iff, digitsValue_append text hd]
  constructor
  · rintro ⟨-, hdigits, rfl⟩
    have htext : ∀ c ∈ text, c.isDigit = true := fun c hc =>
      hdigits c (List.mem_append_left _ hc)
    exact ⟨digitsValue text, natural?_eq_some_iff.mpr ⟨hne, htext, rfl⟩, rfl⟩
  · rintro ⟨m, hm, rfl⟩
    obtain ⟨-, htext, rfl⟩ := natural?_eq_some_iff.mp hm
    refine ⟨List.append_ne_nil_of_left_ne_nil hne _, ?_, rfl⟩
    intro c hc
    rcases List.mem_append.mp hc with hc | hc
    · exact htext c hc
    · rw [List.mem_singleton.mp hc]
      exact hdigit

/-- A numeral is read as what it denotes. -/
theorem Denotes.natural?_eq {numeral : List Char} {n : Nat} (h : Denotes numeral n) :
    natural? numeral = some n := by
  induction h with
  | digit hd => exact natural?_digit hd
  | append h hd ih => exact (natural?_append h.ne_nil hd).mpr ⟨_, ih, rfl⟩

/-- What is read is a numeral. -/
theorem denotes_of_natural? {text : List Char} {n : Nat} (h : natural? text = some n) :
    Denotes text n := by
  induction text using List.reverseRecOn generalizing n with
  | nil => exact absurd rfl (natural?_eq_some_iff.mp h).1
  | append_singleton text c ih =>
    obtain ⟨-, hdigits, -⟩ := natural?_eq_some_iff.mp h
    have hc : c ∈ text ++ [c] := List.mem_append_right _ (List.mem_singleton_self c)
    obtain ⟨d, hd, rfl⟩ := isDigit_iff_exists.mp (hdigits c hc)
    by_cases hne : text = []
    · subst hne
      have hn : some d = some n := (natural?_digit hd).symm.trans h
      rw [← Option.some.inj hn]
      exact .digit hd
    · obtain ⟨m, hm, rfl⟩ := (natural?_append hne hd).mp h
      exact .append (ih hm) hd

/-- No digit is an underscore. -/
theorem Denotes.not_mem {numeral : List Char} {n : Nat} (h : Denotes numeral n) :
    '_' ∉ numeral := by
  intro hmem
  have hdigit := (natural?_eq_some_iff.mp h.natural?_eq).2.1 '_' hmem
  exact absurd hdigit (by decide)

/-! ## Zeros in front -/

theorem denotes_toDigits (n : Nat) : Denotes (Nat.toDigits 10 n) n :=
  denotes_of_natural? (natural?_toDigits n)

/-- A zero in front changes nothing. -/
theorem Denotes.zero_cons {numeral : List Char} {n : Nat} (h : Denotes numeral n) :
    Denotes ('0' :: numeral) n := by
  induction h with
  | digit hd =>
    have hzero : Denotes ['0'] 0 := denotes_toDigits 0
    have hboth := hzero.append hd
    rwa [Nat.mul_zero, Nat.zero_add] at hboth
  | append h hd ih => exact ih.append hd

/-- A numeral is the print of its number behind zeros. -/
theorem Denotes.exists_zeros {numeral : List Char} {n : Nat} (h : Denotes numeral n) :
    ∃ zeros, numeral = List.replicate zeros '0' ++ Nat.toDigits 10 n := by
  induction h with
  | digit hd => exact ⟨0, (Nat.toDigits_of_lt_base hd).symm⟩
  | @append numeral n d h hd ih =>
    obtain ⟨zeros, rfl⟩ := ih
    rcases Nat.eq_zero_or_pos n with rfl | hpos
    · -- all digits so far are zeros, the last of which was printed for the number
      refine ⟨zeros + 1, ?_⟩
      rw [Nat.toDigits_zero, Nat.mul_zero, Nat.zero_add, Nat.toDigits_of_lt_base hd,
        List.replicate_succ']
    · refine ⟨zeros, ?_⟩
      rw [← Nat.toDigits_append_toDigits (by omega) hpos hd, Nat.toDigits_of_lt_base hd,
        List.append_assoc]

/-- The numerals of a number are its print and that behind zeros. -/
theorem denotes_iff_zeros {numeral : List Char} {n : Nat} :
    Denotes numeral n ↔ ∃ zeros, numeral = List.replicate zeros '0' ++ Nat.toDigits 10 n := by
  constructor
  · exact Denotes.exists_zeros
  · rintro ⟨zeros, rfl⟩
    induction zeros with
    | zero => exact denotes_toDigits n
    | succ zeros ih => exact ih.zero_cons

end GameSheets.Number

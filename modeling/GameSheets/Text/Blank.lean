/-
  White space, and trimming it off both ends of a text.

  The class is Unicode's `White_Space` property: 25 code points.  The zero-width space and the
  byte-order mark are not in it, and neither are the information separators U+001C to U+001F.
-/

namespace GameSheets.Text

/-- The characters with the property `White_Space`. -/
def isBlank (c : Char) : Bool :=
  let n := c.toNat
  (9 ≤ n && n ≤ 13) || n == 0x20 || n == 0x85 || n == 0xA0 || n == 0x1680
    || (0x2000 ≤ n && n ≤ 0x200A) || n == 0x2028 || n == 0x2029 || n == 0x202F || n == 0x205F
    || n == 0x3000

/-- Every character that Lean takes for white space is a blank. -/
theorem isBlank_of_isWhitespace {c : Char} (h : c.isWhitespace = true) : isBlank c = true := by
  simp only [Char.isWhitespace, Bool.or_eq_true, decide_eq_true_eq] at h
  rcases h with ((rfl | rfl) | rfl) | rfl <;> decide

/-- Drops the blanks at the end. -/
def trimEnd (text : List Char) : List Char :=
  (text.reverse.dropWhile isBlank).reverse

/-- Drops the blanks at both ends. -/
def trim (text : String) : String :=
  String.ofList (trimEnd (text.toList.dropWhile isBlank))

/-! ## Laws of trimming -/

/-- What is left behind the blanks at the front does not start with one. -/
theorem not_isBlank_head_dropWhile (text : List Char) (c : Char)
    (h : (text.dropWhile isBlank).head? = some c) : isBlank c = false := by
  have := List.head?_dropWhile_not isBlank text
  simpa [h] using this

/-- Trimming the end keeps a front that is not blank. -/
theorem head?_trimEnd {text : List Char} (h : ∀ c, text.head? = some c → isBlank c = false) :
    (trimEnd text).head? = text.head? := by
  cases text with
  | nil => rfl
  | cons c rest =>
    have hc := h c rfl
    simp only [trimEnd, List.reverse_cons, List.dropWhile_append, List.head?_reverse]
    split <;> simp [hc]

/-- A text without a blank at its front is left there as it is. -/
theorem dropWhile_eq_self_of_head {text : List Char}
    (h : ∀ c, text.head? = some c → isBlank c = false) : text.dropWhile isBlank = text := by
  cases text with
  | nil => rfl
  | cons c rest => simp [h c rfl]

/-- Trimming the end of a trimmed end changes nothing. -/
theorem trimEnd_trimEnd (text : List Char) : trimEnd (trimEnd text) = trimEnd text := by
  simp only [trimEnd, List.reverse_reverse]
  rw [dropWhile_eq_self_of_head (not_isBlank_head_dropWhile text.reverse)]

/-- A trimmed text is its own trimmed form. -/
theorem trim_trim (text : String) : trim (trim text) = trim text := by
  have front := not_isBlank_head_dropWhile text.toList
  have kept : ∀ c, (trimEnd (text.toList.dropWhile isBlank)).head? = some c →
      isBlank c = false := by
    intro c h
    rw [head?_trimEnd front] at h
    exact front c h
  simp only [trim, String.toList_ofList]
  rw [dropWhile_eq_self_of_head kept, trimEnd_trimEnd]

end GameSheets.Text

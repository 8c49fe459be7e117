/-
  What a type cell says of its column.

  A cell is read as a comment where it or the name of its column is one, and only there.  Any other
  cell that is read is cut at its last underscore, question marks aside: the letters behind the cut
  say for which platforms the column is kept, and the text before it names the type.
-/
import GameSheets.Column.TypeCell

namespace GameSheets.TypeCell

/-- The letters of a cell: what stands behind its last underscore, question marks aside. -/
def letters? (cell : String) : Option (List Char) :=
  (Text.splitLast? '_' (cell.toList.filter (· != '?'))).map (·.2)

/-- A cell is read as a comment, and has no faults, where it or its column is one. -/
theorem read_of_isComment {column cell : String}
    (h : GameSheets.isComment column = true ∨ GameSheets.isComment cell = true) :
    read column cell = .ok (.comment cell) :=
  if_pos (Bool.or_eq_true_iff.mpr h)

/-- What a cell is read as: a comment where it or its column is one, and a type where neither is,
kept for the platforms whose letters it has. -/
theorem cases_of_read {column cell : String} {type : TypeCell} (h : read column cell = .ok type) :
    ((GameSheets.isComment column = true ∨ GameSheets.isComment cell = true) ∧
        type = .comment cell) ∨
      GameSheets.isComment column = false ∧ GameSheets.isComment cell = false ∧
        ∃ letters base nullable, letters? cell = some letters ∧
          type = .typed base nullable (letters.contains Platform.server.letter)
            (letters.contains Platform.client.letter) := by
  unfold read at h
  split at h
  · rename_i hmark
    exact .inl ⟨Bool.or_eq_true_iff.mp hmark, (Except.ok.inj h).symm⟩
  · rename_i hmark
    rw [Bool.or_eq_true_iff, not_or, Bool.not_eq_true, Bool.not_eq_true] at hmark
    refine .inr ⟨hmark.1, hmark.2, ?_⟩
    split at h
    · cases h
    · rename_i body letters hcut
      -- the letters, the text before them and the type it names are checked in this order
      split at h
      · cases h
      · split at h
        · cases h
        · split at h
          · cases h
          · rename_i base _
            refine ⟨letters, base, _, ?_, (Except.ok.inj h).symm⟩
            rw [letters?, hcut]
            rfl

/-- A cell that is read includes a platform where it is no comment, in a column that is none, and
has the platform's letter. -/
theorem includes_iff {column cell : String} {type : TypeCell} (h : read column cell = .ok type)
    (platform : Platform) :
    type.includes platform = true ↔
      GameSheets.isComment column = false ∧ GameSheets.isComment cell = false ∧
        ∃ letters, letters? cell = some letters ∧ platform.letter ∈ letters := by
  rcases cases_of_read h with
    ⟨hmark, rfl⟩ | ⟨hcolumn, hcell, letters, base, nullable, hletters, rfl⟩
  · constructor
    · intro hincludes
      cases hincludes
    · rintro ⟨hcolumn, hcell, -⟩
      rw [hcolumn, hcell] at hmark
      simp at hmark
  · have hincludes : (typed base nullable (letters.contains Platform.server.letter)
        (letters.contains Platform.client.letter)).includes platform =
          letters.contains platform.letter := by
      cases platform with
      | server | client => rfl
    rw [hincludes, List.contains_iff_mem]
    constructor
    · intro hmem
      exact ⟨hcolumn, hcell, letters, hletters, hmem⟩
    · rintro ⟨-, -, others, hothers, hmem⟩
      obtain rfl := Option.some.inj (hletters.symm.trans hothers)
      exact hmem

end GameSheets.TypeCell

/-
  Spaces at the ends of a text.

  A text is measured from its end, so spaces at the end are measured first.  What they leave is a
  measure that goes on as the empty one does, only with so many cells more: this is the relation
  `Ahead`.  Every step keeps it, because a step looks at the cells of the first cluster only when
  it joins that cluster, and a space joins with nothing.  So spaces at the end of a text add one
  cell each (`width_append_spaces`).  Those at the front are measured last, and each is a cluster of
  its own before whatever has been measured (`width_spaces_append`).
-/
import GameSheets.Text.Width

namespace GameSheets.Text

namespace Measure

/-- Whether two measures go on alike, the second with so many cells more. -/
structure Ahead (cells : Nat) (a b : Measure) : Prop where
  total : b.total = a.total + cells
  front : b.front = a.front
  pictured : b.pictured = a.pictured
  plain : b.plain = a.plain
  full : b.full = a.full
  first : a.front = .closed ∨ b.first = a.first

namespace Ahead

variable {cells : Nat} {a b : Measure}

/-- A new cluster keeps the distance. -/
theorem start (ahead : Ahead cells a b) (own : Nat) (front : Front) :
    Ahead cells (a.start own front) (b.start own front) := by
  have total := ahead.total
  refine ⟨?_, rfl, rfl, rfl, rfl, Or.inr rfl⟩
  simp only [Measure.start, Measure.total] at total ⊢
  omega

/-- A join keeps it, when there is something to join. -/
theorem join (ahead : Ahead cells a b) (opened : a.front ≠ .closed) (join : Join) :
    Ahead cells (a.join join) (b.join join) := by
  have total := ahead.total
  have first := ahead.first.resolve_left opened
  refine ⟨?_, rfl, rfl, rfl, rfl, Or.inr ?_⟩ <;>
    simp only [Measure.join, Measure.total, first] at total ⊢
  omega

/-- The selectors at the front are no cells. -/
theorem select (ahead : Ahead cells a b) (pictured plain full : Bool) :
    Ahead cells { a with pictured, plain, full } { b with pictured, plain, full } :=
  ⟨ahead.total, ahead.front, rfl, rfl, rfl, ahead.first⟩

theorem startPicture (ahead : Ahead cells a b) : Ahead cells a.startPicture b.startPicture := by
  simp only [Measure.startPicture, ahead.front]
  split
  · next joined => exact ahead.join (by rcases joined with e | e <;> simp [e]) _
  · exact ahead.start _ _

theorem dropPicture (ahead : Ahead cells a b) : Ahead cells a.dropPicture b.dropPicture := by
  simp only [Measure.dropPicture, ahead.front, ahead.pictured, ahead.plain, ahead.full]
  split
  · exact ahead.start _ _
  · have := ahead.select false a.plain a.full
    rwa [ahead.front] at this

theorem selectPicture (ahead : Ahead cells a b) : Ahead cells a.selectPicture b.selectPicture := by
  simp only [Measure.selectPicture, ahead.front]
  split
  · simpa only [ahead.front, ahead.plain, ahead.full] using ahead.select true a.plain a.full
  · exact (ahead.start 0 .closed).select true false false

theorem selectPlain (ahead : Ahead cells a b) : Ahead cells a.selectPlain b.selectPlain := by
  simp only [Measure.selectPlain, ahead.front]
  split
  · simpa only [ahead.front, ahead.pictured, ahead.full] using ahead.select a.pictured true a.full
  · exact (ahead.start 0 .closed).select false true false

theorem selectFull (ahead : Ahead cells a b) : Ahead cells a.selectFull b.selectFull := by
  simp only [Measure.selectFull, ahead.front]
  split
  · simpa only [ahead.front, ahead.pictured, ahead.plain]
      using ahead.select a.pictured a.plain true
  · exact (ahead.start 0 .closed).select false false true

theorem place (ahead : Ahead cells a b) (c : Char) : Ahead cells (a.place c) (b.place c) := by
  simp only [Measure.place, ahead.front, ahead.plain, ahead.full]
  repeat' split
  · exact ahead.start _ _
  · next line => exact ahead.join (by simp [line]) _
  · exact ahead.start _ _
  · exact ahead.selectPicture
  · exact ahead.selectPlain
  · exact ahead.selectFull
  · exact ahead.start _ _
  · exact ahead.start _ _
  · next joins => exact ahead.join (by rintro closed; simp [closed, Front.join?] at joins) _
  · exact ahead.start _ _

/-- A character before both texts keeps the distance. -/
theorem step (ahead : Ahead cells a b) (c : Char) : Ahead cells (a.step c) (b.step c) := by
  simp only [Measure.step, ahead.pictured]
  split
  · exact ahead.startPicture
  · exact ahead.dropPicture.place c

/-- A text before both texts keeps the distance. -/
theorem foldr (ahead : Ahead cells a b) (text : List Char) :
    Ahead cells (text.foldr Measure.step a) (text.foldr Measure.step b) := by
  induction text with
  | nil => exact ahead
  | cons c _ ih => exact ih.step c

end Ahead

/-- A space is a cluster of its own. -/
theorem step_space {measure : Measure} (unpictured : measure.pictured = false) :
    measure.step ' ' = measure.start 1 .closed := by
  simp [step, dropPicture, place, unpictured, start, Measure.total]

/-- A space adds one cell to what stands behind it, whatever that is. -/
theorem total_step_space (measure : Measure) : (measure.step ' ').total = measure.total + 1 := by
  have hdropped : measure.dropPicture.total = measure.total := by
    unfold dropPicture
    split
    · rfl
    · rfl
  have hplaced : measure.step ' ' = measure.dropPicture.start 1 .closed := by
    have hplain : selectable.contains ' ' = false := by decide +kernel
    simp [step, place, hplain]
  rw [hplaced, start, total, hdropped]

/-- Measured spaces are as many cells. -/
theorem foldr_spaces (count : Nat) :
    Ahead count empty ((List.replicate count ' ').foldr step empty) := by
  induction count with
  | zero => exact ⟨rfl, rfl, rfl, rfl, rfl, Or.inl rfl⟩
  | succ count ih =>
    rw [List.replicate_succ, List.foldr_cons, step_space ih.pictured]
    refine ⟨?_, rfl, rfl, rfl, rfl, Or.inl rfl⟩
    have total := ih.total
    simp only [start, Measure.total] at total ⊢
    omega

end Measure

/-- Spaces at the end of a text add one cell each. -/
theorem width_append_spaces (text : String) (count : Nat) :
    width (text ++ String.ofList (List.replicate count ' ')) = width text + count := by
  simpa [width] using ((Measure.foldr_spaces count).foldr text.toList).total

/-- Spaces in front of a text add one cell each. -/
theorem width_spaces_append (count : Nat) (text : String) :
    width (String.ofList (List.replicate count ' ') ++ text) = count + width text := by
  induction count with
  | zero => simp [width]
  | succ count ih =>
    simp only [width, String.toList_append, String.toList_ofList] at ih ⊢
    rw [List.replicate_succ, List.cons_append, List.foldr_cons, Measure.total_step_space, ih]
    omega

end GameSheets.Text

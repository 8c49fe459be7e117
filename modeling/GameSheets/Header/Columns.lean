/-
  Aligning text in columns.

  A column is as wide as its widest cell and the gutter behind it, but at least of the least width.
  Widths are counted in terminal cells, so that names in wide scripts line up too.  The cells of a
  column are counted in 64 bits.
-/
import GameSheets.Text.Width

namespace GameSheets.Header

/-- The spacing of a column. -/
structure ColumnLayout where
  minWidth : Nat
  gutter : Nat
  deriving DecidableEq, Repr

namespace ColumnLayout

/-- The spacing of generated headers. -/
def standard : ColumnLayout := ⟨25, 1⟩

/-- The greatest width of some texts. -/
def widest (texts : List String) : Nat :=
  texts.foldl (fun width text => max width (Text.width text)) 0

/-- The width of a column that holds the texts; a sum beyond 64 bits wraps around. -/
def columnWidth (layout : ColumnLayout) (texts : List String) : Nat :=
  max ((widest texts + layout.gutter) % UInt64.size) layout.minWidth

end ColumnLayout

/-- The text, filled up with spaces to a width; longer texts stay as they are. -/
def pad (text : String) (width : Nat) : String :=
  text ++ String.ofList (List.replicate (width - Text.width text) ' ')

end GameSheets.Header

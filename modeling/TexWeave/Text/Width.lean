import TexWeave.Text.WidthTable

/-!
# The width of text on a terminal

Most characters take one cell, ideographs two, combining marks and controls none.
-/

set_option autoImplicit false

namespace TexWeave
namespace Text

/-- The cells a character takes. -/
def cellWidth (c : Char) : Nat :=
  if c.toNat < 32 then 0
  else if c.toNat < 127 then 1
  else if zeroWidthRanges.contains c then 0
  else if wideRanges.contains c then 2
  else 1

/-- The cells a text takes. -/
def textWidth (cs : List Char) : Nat := cs.foldl (fun n c ↦ n + cellWidth c) 0

end Text
end TexWeave

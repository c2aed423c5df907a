import TexWeave.Mode
import TexWeave.Plot

/-!
# Entries of a document

The three kinds of thing an author adds: prose, the source of a definition with a description, and
a figure.  All texts are markup already and stay as they are.
-/

set_option autoImplicit false

namespace TexWeave

/-- Prose, which may open a section and may be followed by the text of a block. -/
structure TextEntry where
  text : String
  heading : Option String := none
  source : Option String := none
  deriving DecidableEq, Repr, Inhabited

/-- A description and the source of the definition it describes. -/
structure CodeEntry where
  description : String
  source : String
  title : String
  name : String
  deriving DecidableEq, Repr, Inhabited

/-- A plot and how it is placed. -/
structure FigureEntry where
  plot : Plot
  /-- The optional argument of the environment. -/
  position : Option String := none
  /-- The environment; without one the mode of the document decides. -/
  figureType : Option FigureType := none
  caption : String := ""
  captionPosition : CaptionPosition := .after
  /-- The label; without one the figure is labelled by its number. -/
  label : Option String := none
  deriving Inhabited

/-- An entry of a document. -/
inductive Entry
  | text (e : TextEntry)
  | code (e : CodeEntry)
  | figure (e : FigureEntry)
  deriving Inhabited

namespace Entry

/-- The name of the kind of an entry. -/
def kind : Entry → String
  | .text _ => "text"
  | .code _ => "code"
  | .figure _ => "figure"

/-- The figure an entry is, if it is one. -/
def figure? : Entry → Option FigureEntry
  | .figure e => some e
  | _ => none

end Entry

end TexWeave

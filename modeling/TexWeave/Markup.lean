import TexWeave.Document
import TexWeave.Section

/-!
# The markup of a document

From a document to its text: the preamble with class, packages and metadata, then the entries in
order, with the headings that the section plan asks for.  Nothing an author supplies is changed on
the way; only line feeds at the very end of preamble and body are dropped.

* `figureTypeIn` — the environment of a figure.
* `Document.neededPackages` — the packages to load.
* `Document.preamble`, `Document.body`, `Document.render` — the text.
-/

set_option autoImplicit false

namespace TexWeave

open Text

/-! ## Figures -/

/-- The environment of a figure: its own or the one of the mode.  There is no margin outside tufte
mode. -/
def figureTypeIn (mode : Mode) (e : FigureEntry) : Except Failure FigureType :=
  let kind := e.figureType.getD mode.policy.defaultFigure
  if kind = .margin ∧ mode ≠ .tufte then .error .marginOutsideTufte else .ok kind

/-- A text that is present and not empty. -/
def nonempty? (s : Option String) : Option String := s.filter fun t ↦ !t.isEmpty

/-- The label of a figure with its number in the document. -/
def figureLabel (e : FigureEntry) (number : Nat) : String :=
  (nonempty? e.label).getD ("fig:" ++ toString number)

/-- The caption and the label of a figure. -/
def captionLines (kind : FigureType) (e : FigureEntry) (number : Nat) : List String :=
  let label := command "label" (figureLabel e number)
  if e.caption.isEmpty then [label]
  else if kind = .inline then ["\\captionof" ++ braced "figure" ++ braced e.caption, label]
  else [command "caption" e.caption, label]

/-- The optional argument of a figure environment. -/
def placementOption (kind : FigureType) (e : FigureEntry) : String :=
  match nonempty? e.position with
  | some p => "[" ++ p ++ "]"
  | none => if kind = .margin then "" else "[htbp]"

/-- The line that opens a figure. -/
def figureBegin (kind : FigureType) (e : FigureEntry) : String :=
  if kind = .inline then beginEnvironment "center"
  else beginEnvironment kind.name ++ placementOption kind e

/-- The line that closes a figure. -/
def figureEnd (kind : FigureType) : String :=
  endEnvironment (if kind = .inline then "center" else kind.name)

/-- The lines of a figure around the markup of its plot. -/
def figureLines (kind : FigureType) (e : FigureEntry) (number : Nat) (plot : String) :
    List String :=
  let caption := captionLines kind e number
  let inner := if e.caption.isEmpty || e.captionPosition == .after then plot :: caption
    else caption ++ [plot]
  let centering := if kind = .float ∨ kind = .wide then ["\\centering"] else []
  figureBegin kind e :: centering ++ inner ++ [figureEnd kind]

/-! ## Preamble -/

/-- The packages a figure asks for. -/
def figurePackages (mode : Mode) (e : FigureEntry) : Except Failure (List String) := do
  let kind ← figureTypeIn mode e
  return e.plot.packages ++ (if kind = .inline ∧ !e.caption.isEmpty then ["caption"] else [])

namespace Document

/-- The packages to load, each at its first place: those declared, the one that links an address,
those of the mode, and those of the figures in order. -/
def neededPackages (d : Document) : Except Failure (List String) := do
  let ofFigures ← d.figures.mapM (figurePackages d.mode)
  return distinct (d.packages ++ (if d.email.isEmpty then [] else ["hyperref"])
    ++ d.mode.policy.packages ++ ofFigures.flatten)

/-- The lines of the author: name, address and a link to the mail address. -/
def authorParts (d : Document) : List String :=
  [d.author, d.address].filter (fun p ↦ !p.isEmpty)
    ++ (if d.email.isEmpty then []
      else ["\\href" ++ braced ("mailto:" ++ d.email) ++ braced (command "texttt" d.email)])

/-- The lines of title, author and date. -/
def metadataLines (d : Document) : List String :=
  (if d.title.isEmpty then [] else [command "title" d.title])
    ++ (if d.authorParts.isEmpty then []
      else [command "author" (joinWith " \\\\ " d.authorParts)])
    ++ (if d.date.isEmpty then [] else [command "date" d.date])

/-- The lines of a preamble that loads the packages given. -/
def preambleLines (d : Document) (packages : List String) : List String :=
  ("\\documentclass" ++ optional d.mode.policy.classOptions ++ braced d.mode.policy.documentClass)
    :: packages.map (command "usepackage")
    ++ (if packages.contains "pgfplots" then [command "pgfplotsset" "compat=newest"] else [])
    ++ (if d.mode.policy.preamble.isEmpty then [] else [d.mode.policy.preamble])
    ++ [""] ++ d.metadataLines

/-- Class, packages and metadata. -/
def preamble (d : Document) : Except Failure String := do
  return dropNewlines (joinLines (d.preambleLines (← d.neededPackages)))

end Document

/-! ## Body -/

/-- Source in the listing environment of the mode. -/
def listing (mode : Mode) (source : String) : List String :=
  [mode.policy.listingBegin, source, mode.policy.listingEnd]

/-- The heading of the section an entry opens, with a label if it is opened by code. -/
def headingLines (s : SectionStep) : List String :=
  match nonempty? s.opens with
  | none => []
  | some t => command "section" t :: match s.entry with
    | .code e => [command "label" ("sec:" ++ e.name)]
    | _ => []

/-- The lines of an entry itself; `number` is its number if it is a figure. -/
def contentLines (mode : Mode) (axes : Axes) (number : Nat) : Entry → Except Failure (List String)
  | .code e =>
    .ok ((if e.description.isEmpty then [] else [e.description]) ++ listing mode e.source)
  | .text e => .ok (e.text :: (e.source.map (listing mode)).getD [])
  | .figure e => do
    let kind ← figureTypeIn mode e
    return figureLines kind e number (← e.plot.markup axes)

/-- The lines of planned entries, each followed by an empty one, when `figures` figures came
before. -/
def stepLines (mode : Mode) (axes : Axes) (figures : Nat) :
    List SectionStep → Except Failure (List String)
  | [] => .ok []
  | s :: r => do
    let number := if s.entry.figure?.isSome then figures + 1 else figures
    let content ← contentLines mode axes number s.entry
    let rest ← stepLines mode axes number r
    return headingLines s ++ content ++ [""] ++ rest

namespace Document

/-- The entries in order, with their headings. -/
def body (axes : Axes) (d : Document) : Except Failure String := do
  let ls ← stepLines d.mode axes 0 (planSections d.entries d.autoSections)
  return dropNewlines (joinLines ls)

/-- The parts of a text, each on lines of its own, with the preamble and the body given. -/
def textParts (d : Document) (preamble body : String) : List String :=
  [preamble, "", beginEnvironment "document"]
    ++ (if d.title.isEmpty then [] else ["\\maketitle"])
    ++ (if d.contents then ["\\tableofcontents"] else [])
    ++ [""]
    ++ (if body.isEmpty then [] else [body, ""])
    ++ [endEnvironment "document"]

/-- The whole text. -/
def render (axes : Axes) (d : Document) : Except Failure String := do
  let preamble ← d.preamble
  let body ← d.body axes
  return joinLines (d.textParts preamble body) ++ "\n"

end Document

end TexWeave

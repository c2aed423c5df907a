/-!
# Document modes and figure placement

A document is in one of two modes, chosen when it is created and open to change.  Everything that
differs between them is gathered in a `Policy`, so that the rest of the library asks the policy and
never the mode.

* `FigureType`, `CaptionPosition`, `Mode` — the closed choices, each with its written names.
* `Mode.policy` — what a mode implies.
-/

set_option autoImplicit false

namespace TexWeave

/-- The environment a figure stands in. -/
inductive FigureType
  | margin
  | float
  | wide
  | inline
  deriving DecidableEq, Repr, Inhabited

/-- Where the caption stands, seen from the plot. -/
inductive CaptionPosition
  | before
  | after
  deriving DecidableEq, Repr, Inhabited

/-- The style of a document. -/
inductive Mode
  | standard
  | tufte
  deriving DecidableEq, Repr, Inhabited

/-- How grave a message in a log is. -/
inductive Severity
  | warning
  | error
  deriving DecidableEq, Repr, Inhabited

/-! ## Written names -/

namespace FigureType

/-- The written name, which is also the name of the environment. -/
def name : FigureType → String
  | .margin => "marginfigure"
  | .float => "figure"
  | .wide => "figure*"
  | .inline => "inline"

/-- All figure types, in the order in which messages list them. -/
def all : List FigureType := [.margin, .float, .wide, .inline]

/-- The figure type of a written name. -/
def ofName? (s : String) : Option FigureType := all.find? (·.name == s)

theorem ofName?_name (t : FigureType) : ofName? t.name = some t := by
  cases t <;> decide

end FigureType

namespace CaptionPosition

/-- The written name. -/
def name : CaptionPosition → String
  | .before => "before"
  | .after => "after"

/-- Both positions, in the order in which messages list them. -/
def all : List CaptionPosition := [.before, .after]

/-- The position of a written name. -/
def ofName? (s : String) : Option CaptionPosition := all.find? (·.name == s)

theorem ofName?_name (p : CaptionPosition) : ofName? p.name = some p := by
  cases p <;> decide

end CaptionPosition

namespace Severity

/-- The written name. -/
def name : Severity → String
  | .warning => "warning"
  | .error => "error"

/-- Both severities, in the order in which messages list them. -/
def all : List Severity := [.warning, .error]

/-- The severity of a written name. -/
def ofName? (s : String) : Option Severity := all.find? (·.name == s)

theorem ofName?_name (s : Severity) : ofName? s.name = some s := by
  cases s <;> decide

end Severity

/-! ## Policies -/

/-- Everything that differs between the modes. -/
structure Policy where
  /-- The document class. -/
  documentClass : String
  /-- The options of the class; none if empty. -/
  classOptions : String
  /-- The engine, unless the settings name another. -/
  engine : String
  /-- The tool that runs between two passes of the engine. -/
  preprocessor : Option String
  /-- The packages the mode implies. -/
  packages : List String
  /-- Lines after the packages; none if empty. -/
  preamble : String
  /-- The line that opens a listing. -/
  listingBegin : String
  /-- The line that closes a listing. -/
  listingEnd : String
  /-- The type of a figure that names none. -/
  defaultFigure : FigureType
  /-- Whether the engine runs twice in any case. -/
  alwaysTwoPasses : Bool
  deriving DecidableEq, Repr, Inhabited

namespace Mode

/-- The written name. -/
def name : Mode → String
  | .standard => "standard"
  | .tufte => "tufte"

/-- Both modes, in the order in which messages list them. -/
def all : List Mode := [.standard, .tufte]

/-- The mode of a written name. -/
def ofName? (s : String) : Option Mode := all.find? (·.name == s)

theorem ofName?_name (m : Mode) : ofName? m.name = some m := by
  cases m <;> decide

/-- The tufte mode if asked for, else the standard one. -/
def ofTufte (tufte : Bool) : Mode := if tufte then .tufte else .standard

/-- What a mode implies. -/
def policy : Mode → Policy
  | .standard => {
      documentClass := "article"
      classOptions := "11pt"
      engine := "pdflatex"
      preprocessor := none
      packages := ["listings", "xcolor", "graphicx"]
      preamble := "\\lstset\x7blanguage=Python, basicstyle=\\ttfamily\\small, "
        ++ "columns=fullflexible, keepspaces=true, frame=single\x7d"
      listingBegin := "\\begin\x7blstlisting\x7d"
      listingEnd := "\\end\x7blstlisting\x7d"
      defaultFigure := .float
      alwaysTwoPasses := false }
  | .tufte => {
      documentClass := "tufte-handout"
      classOptions := ""
      engine := "lualatex"
      preprocessor := some "pythontex"
      packages := ["pythontex", "fancyvrb", "graphicx"]
      preamble := ""
      listingBegin := "\\begin\x7bpygments\x7d\x7bpython\x7d"
      listingEnd := "\\end\x7bpygments\x7d"
      defaultFigure := .margin
      alwaysTwoPasses := true }

end Mode

end TexWeave

import TexWeave.Build
import TexWeave.Compose
import TexWeave.Source.Block
import TexWeave.Source.Module

/-!
# Authoring

An author works on several documents at once.  Documents and axes live in a studio and are known by
their place there; sessions, known by name, each have at most one current document, which is the one
meant when none is given.

Every operation that can fail does so before it changes a document, an axis or a session.

* `Studio` — documents, axes, sessions, and the world of builds.
* `create`, `activate`, `getOrCreate`, `reset`, `resolve` — sessions.
* `append`, `addText`, `addCode`, `addFigure`, `describeFound`, `openBlock`, `enterBlock` —
  entries.
* `newAxis`, `pushPlot` — axes.
-/

set_option autoImplicit false

namespace TexWeave

/-- A document by its place. -/
abbrev DocumentId := Nat

/-- Everything an author works with. -/
structure Studio where
  documents : Array Document := #[]
  axes : Axes := #[]
  /-- The current documents of the sessions that have one. -/
  current : List (String × DocumentId) := []
  /-- The names documents were given; the latest comes first. -/
  documentNames : List (String × DocumentId) := []
  /-- The names axes were given; the latest comes first. -/
  axisNames : List (String × Nat) := []
  world : World := {}
  deriving Inhabited

namespace Studio

/-- The document current in a session. -/
def currentOf (s : Studio) (session : String) : Option DocumentId :=
  (s.current.find? fun c ↦ c.1 == session).map (·.2)

/-- The studio with another document, or none, current in a session. -/
def withCurrent (s : Studio) (session : String) (d : Option DocumentId) : Studio :=
  let others := s.current.filter fun c ↦ c.1 != session
  { s with current := match d with
    | some d => (session, d) :: others
    | none => others }

end Studio

/-- An operation on a studio, which may fail. -/
abbrev Authoring := ExceptT Failure (StateM Studio)

namespace Authoring

/-- A result that is known already. -/
def known {α : Type} (r : Except Failure α) : Authoring α := ExceptT.mk (pure r)

/-- Records a message. -/
def note (level : Level) (source message : String) : Authoring Unit :=
  modify fun s ↦ { s with world := s.world.note level source message }

/-- A build in the studio's world. -/
def building {α : Type} (b : Building α) : Authoring α := fun s ↦
  let (r, w) := b s.world
  (r, { s with world := w })

/-- The part of the program that keeps documents, as it signs its messages. -/
def documentSource : String := "texdocument.document"

/-- The part of the program that makes entries, as it signs its messages. -/
def entrySource : String := "texdocument.extractor"

/-! ## Documents -/

/-- The document at a place. -/
def document (d : DocumentId) : Authoring Document := do
  return (← get).documents[d]?.getD {}

/-- Changes the document at a place. -/
def update (d : DocumentId) (f : Document → Document) : Authoring Unit :=
  modify fun s ↦ { s with documents := s.documents.modify d f }

/-- Lets a document be known by a name. -/
def nameDocument (name : String) (d : DocumentId) : Authoring Unit :=
  modify fun s ↦ { s with documentNames := (name, d) :: s.documentNames }

/-- The document known by a name. -/
def documentNamed? (name : String) : Authoring (Option DocumentId) := do
  return ((← get).documentNames.find? fun n ↦ n.1 == name).map (·.2)

/-- The name a document was given last. -/
def nameOf? (d : DocumentId) : Authoring (Option String) := do
  return ((← get).documentNames.find? fun n ↦ n.2 == d).map (·.1)

/-- A new document made from its fields, which is not current anywhere. -/
def newDocument (plotOf : PlotReader) (fields : Value) : Authoring DocumentId := do
  let d ← known (Document.check plotOf fields).toExcept
  let place := (← get).documents.size
  modify fun s ↦ { s with documents := s.documents.push d }
  return place

/-- Sets a part of a document. -/
def assign (plotOf : PlotReader) (d : DocumentId) (name : String) (v : Value) :
    Authoring Unit := do
  let changed ← known ((← document d).assign plotOf name v)
  update d fun _ ↦ changed

/-- Declares a package. -/
def addPackage (d : DocumentId) (name : String) : Authoring Unit :=
  update d (·.addPackage name)

/-! ## Sessions -/

/-- The current document of a session. -/
def current? (session : String) : Authoring (Option DocumentId) := do
  return (← get).currentOf session

/-- Makes a document current, or leaves the session without one. -/
def setCurrent (session : String) (d : Option DocumentId) : Authoring Unit :=
  modify (·.withCurrent session d)

/-- A new document, which becomes current. -/
def create (plotOf : PlotReader) (session : String) (fields : Value) : Authoring DocumentId := do
  let d ← newDocument plotOf fields
  setCurrent session (some d)
  let jobname := (fields.field? "jobname").getD (.str "document")
  note .debug documentSource ("Current document is now " ++ jobname.plain)
  return d

/-- Makes a document current. -/
def activate (session : String) (d : DocumentId) : Authoring DocumentId := do
  setCurrent session (some d)
  return d

/-- The current document, or a new one if there is none; tells whether it is new. -/
def getOrCreate (plotOf : PlotReader) (session : String) (fields : Value) :
    Authoring (DocumentId × Bool) := do
  match ← current? session with
  | some d => return (d, false)
  | none => return (← create plotOf session fields, true)

/-- The document given, or else the current one. -/
def resolve (session : String) (d : Option DocumentId) : Authoring DocumentId := do
  match d with
  | some d => return d
  | none =>
    match ← current? session with
    | some d => return d
    | none => throw .noDocument

/-- Leaves a session without a current document. -/
def reset (session : String) : Authoring Unit := setCurrent session none

/-! ## Entries -/

/-- Puts an entry at the end of a document. -/
def append (d : DocumentId) (e : Entry) : Authoring Unit := do
  update d (·.append e)
  let changed ← document d
  note .debug documentSource (changed.jobname ++ ": appended " ++ e.kind ++ " entry #"
    ++ toString changed.entries.length)

/-- Adds prose. -/
def addText (d : DocumentId) (text heading source : Value) : Authoring TextEntry := do
  let e ← known (TextEntry.make text heading source)
  append d (.text e)
  return e

/-- Adds a definition with its description. -/
def addCode (d : DocumentId) (description source name : Value) : Authoring CodeEntry := do
  let e ← known (CodeEntry.make description source name)
  append d (.code e)
  note .debug entrySource ("Annotated " ++ e.name ++ " (" ++ e.title ++ ") in "
    ++ (← document d).jobname)
  return e

/-- Adds a figure. -/
def addFigure (d : DocumentId) (plot : Plot) (placement : List (String × Value)) :
    Authoring FigureEntry := do
  let e ← known (FigureEntry.make plot placement)
  append d (.figure e)
  return e

/-- Describes something a module has defined; the description goes to the document given or else to
the current one. -/
def describeFound (session : String) (d : Option DocumentId) (description : Value)
    (found : Source.Module.Found) : Authoring CodeEntry := do
  let target ← resolve session d
  let source ← known found.source
  addCode target description (.str source) .null

/-- The same of something a module defines, found by its name. -/
def describe (session : String) (d : Option DocumentId) (description : Value) (module : String)
    (name : String) : Authoring CodeEntry := do
  describeFound session d description (← known (Source.Module.define module name))

/-- A description of a block whose document is settled and whose text is not yet taken. -/
structure OpenBlock where
  description : Value
  heading : Value
  target : DocumentId

/-- Settles the document a block will be described in. -/
def openBlock (session : String) (d : Option DocumentId) (description heading : Value) :
    Authoring OpenBlock := do
  return ⟨description, heading, ← resolve session d⟩

/-- Adds the description of a block with the text found at a line of a file. -/
def enterBlock (b : OpenBlock) (fileName : String) (file : Option String) (line : Int) :
    Authoring TextEntry := do
  let source ← known (Source.blockSource fileName file line)
  addText b.target b.description b.heading (.str source)

/-! ## Axes -/

/-- A new axis. -/
def newAxis (a : Axis) : Authoring Nat := do
  let place := (← get).axes.size
  modify fun s ↦ { s with axes := s.axes.push a }
  return place

/-- Lets an axis be known by a name. -/
def nameAxis (name : String) (axis : Nat) : Authoring Unit :=
  modify fun s ↦ { s with axisNames := (name, axis) :: s.axisNames }

/-- The axis known by a name. -/
def axisNamed? (name : String) : Authoring (Option Nat) := do
  return ((← get).axisNames.find? fun n ↦ n.1 == name).map (·.2)

/-- Pushes a plot onto an axis and tells how many it has then.  A plot on an axis has no placement
of its own. -/
def pushPlot (axis : Nat) (plot : Plot) (placement : List (String × Value)) :
    Authoring Nat := do
  if !placement.isEmpty then throw .placementOnAxis
  modify fun s ↦ { s with
    axes := s.axes.modify axis fun a ↦ { a with plots := a.plots ++ [plot] } }
  return ((← get).axes[axis]?.getD {}).plots.length

end Authoring

end TexWeave

import TexWeave.Build

/-!
# Records of typed things

What the checks read, written down again as untyped data: every record has all of its fields, the
members of a choice appear by name, and what is absent is null.  A plot appears as the name of its
sort.
-/

set_option autoImplicit false

namespace TexWeave

namespace Value

/-- A text that may be absent. -/
def ofText? : Option String → Value
  | some s => .str s
  | none => .null

/-- A list of texts. -/
def ofTexts (ss : List String) : Value := .list (ss.map .str)

end Value

open Value

/-- The record of a prose entry. -/
def TextEntry.toValue (e : TextEntry) : Value :=
  .map [("kind", .str "text"), ("text", .str e.text), ("section", ofText? e.heading),
    ("source", ofText? e.source)]

/-- The record of a code entry. -/
def CodeEntry.toValue (e : CodeEntry) : Value :=
  .map [("kind", .str "code"), ("description", .str e.description), ("source", .str e.source),
    ("title", .str e.title), ("name", .str e.name)]

/-- The record of a figure entry. -/
def FigureEntry.toValue (e : FigureEntry) : Value :=
  .map [("kind", .str "figure"), ("plot", .str e.plot.sortName),
    ("position", ofText? e.position), ("figtype", ofText? (e.figureType.map FigureType.name)),
    ("caption", .str e.caption), ("caption_pos", .str e.captionPosition.name),
    ("label", ofText? e.label)]

/-- The record of an entry. -/
def Entry.toValue : Entry → Value
  | .text e => e.toValue
  | .code e => e.toValue
  | .figure e => e.toValue

/-- The record of a document. -/
def Document.toValue (d : Document) : Value :=
  .map [("jobname", .str d.jobname), ("title", .str d.title), ("author", .str d.author),
    ("address", .str d.address), ("email", .str d.email), ("date", .str d.date),
    ("packages", ofTexts d.packages), ("mode", .str d.mode.name),
    ("auto_sections", .bool d.autoSections), ("toc", .bool d.contents),
    ("tufte", .bool d.isTufte), ("entries", .list (d.entries.map Entry.toValue))]

/-- One part of a document. -/
def Document.part (d : Document) (name : String) : Except Failure Value :=
  match (if name == "figures" then some (.list (d.figures.map FigureEntry.toValue))
    else d.toValue.field? name) with
  | some v => .ok v
  | none => .error (.noAttribute "TeXDocument" name)

/-- The record of a policy. -/
def Policy.toValue (p : Policy) : Value :=
  .map [("document_class", .str p.documentClass), ("class_options", .str p.classOptions),
    ("engine", .str p.engine), ("preprocessor", ofText? p.preprocessor),
    ("packages", ofTexts p.packages), ("preamble", .str p.preamble),
    ("listing_begin", .str p.listingBegin), ("listing_end", .str p.listingEnd),
    ("default_figtype", .str p.defaultFigure.name),
    ("always_two_passes", .bool p.alwaysTwoPasses)]

/-- The record of the tools to use. -/
def CompilerSettings.toValue (s : CompilerSettings) : Value :=
  .map [("standard_engine", ofText? s.standardEngine), ("tufte_engine", ofText? s.tufteEngine),
    ("preprocessor", ofText? s.preprocessor), ("extra_args", ofTexts s.extraArguments)]

/-- The record of the defaults of new documents. -/
def DocumentDefaults.toValue (s : DocumentDefaults) : Value :=
  .map [("tufte", .bool s.tufte), ("auto_sections", .bool s.autoSections),
    ("toc", .bool s.contents), ("packages", ofTexts s.packages)]

/-- The record of the settings of a project. -/
def ProjectSettings.toValue (s : ProjectSettings) : Value :=
  .map [("output_dir", .str s.outputDirectory), ("compiler", s.compiler.toValue),
    ("document", s.document.toValue)]

/-- The record of a message. -/
def Message.toValue (m : Message) : Value :=
  .map [("line", (m.line.map Value.int).getD .null), ("message", .str m.message),
    ("severity", .str m.severity.name)]

/-- The record of what a log says. -/
def LogReport.toValue (r : LogReport) : Value :=
  .map [("errors", .list (r.errors.map Message.toValue)),
    ("warnings", .list (r.warnings.map Message.toValue)),
    ("unresolved", ofTexts r.unresolved)]

/-- The record of a build. -/
def BuildResult.toValue (r : BuildResult) : Value :=
  .map [("success", .bool r.success), ("tex_path", .str r.markupPath),
    ("pdf_path", ofText? r.outputPath), ("passes", .list (r.passes.map ofTexts)),
    ("errors", .list (r.errors.map Message.toValue)),
    ("warnings", .list (r.warnings.map Message.toValue)),
    ("unresolved_refs", ofTexts r.unresolved)]

end TexWeave

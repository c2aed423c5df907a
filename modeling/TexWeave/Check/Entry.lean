import TexWeave.Check.Basic
import TexWeave.Document

/-!
# Checking entries and documents

The records from which entries and documents are made.  What counts as a plot is not decided here:
a function that reads plots is handed in.

* `TextEntry.check`, `CodeEntry.check`, `FigureEntry.check` — the three kinds of entry.
* `Entry.check` — an entry of any kind, told apart by its field `kind`.
* `Document.check` — a document; without a mode, the field `tufte` picks one.
-/

set_option autoImplicit false

namespace TexWeave

open Check

/-- A reader of plots. -/
abbrev PlotReader := Value → Plot

/-- The fields of a prose entry. -/
def TextEntry.checkFields : Check TextEntry := fun v ↦
  (fun _ text heading source ↦ TextEntry.mk text heading source)
    <$> withDefault "kind" () (literal "text") v
    <*> required "text" string v
    <*> withDefault "section" none (orNull string) v
    <*> withDefault "source" none (orNull string) v

/-- A prose entry. -/
def TextEntry.check : Check TextEntry := record "TextEntry" checkFields

/-- The fields of a code entry. -/
def CodeEntry.checkFields : Check CodeEntry := fun v ↦
  (fun _ description source title name ↦ CodeEntry.mk description source title name)
    <$> withDefault "kind" () (literal "code") v
    <*> required "description" string v
    <*> required "source" string v
    <*> required "title" string v
    <*> required "name" string v

/-- A code entry. -/
def CodeEntry.check : Check CodeEntry := record "CodeEntry" checkFields

/-- A figure type. -/
def FigureType.check : Check FigureType := choice FigureType.all FigureType.name

/-- A caption position. -/
def CaptionPosition.check : Check CaptionPosition :=
  choice CaptionPosition.all CaptionPosition.name

/-- The fields of a figure entry. -/
def FigureEntry.checkFields (plotOf : PlotReader) : Check FigureEntry := fun v ↦
  (fun _ plot position figureType caption captionPosition label ↦
      FigureEntry.mk plot position figureType caption captionPosition label)
    <$> withDefault "kind" () (literal "figure") v
    <*> required "plot" (fun p ↦ .valid (plotOf p)) v
    <*> withDefault "position" none (orNull string) v
    <*> withDefault "figtype" none (orNull FigureType.check) v
    <*> withDefault "caption" "" string v
    <*> withDefault "caption_pos" .after CaptionPosition.check v
    <*> withDefault "label" none (orNull string) v

/-- A figure entry. -/
def FigureEntry.check (plotOf : PlotReader) : Check FigureEntry :=
  record "FigureEntry" (checkFields plotOf)

/-- An entry whose kind is written as given. -/
def Entry.checkTagged (plotOf : PlotReader) (tag : Value) : Check Entry := fun v ↦
  match tag with
  | .str "text" => ((TextEntry.checkFields v).within (.field "text")).map .text
  | .str "code" => ((CodeEntry.checkFields v).within (.field "code")).map .code
  | .str "figure" => ((FigureEntry.checkFields plotOf v).within (.field "figure")).map .figure
  | t => .fault "union_tag_invalid"
      ("Input tag '" ++ t.plain ++ "' found using 'kind' does not match any of the expected "
        ++ "tags: 'text', 'code', 'figure'")

/-- An entry of any kind. -/
def Entry.check (plotOf : PlotReader) : Check Entry := fun v ↦
  match v with
  | .map _ =>
    match v.field? "kind" with
    | some tag => checkTagged plotOf tag v
    | none => .fault "union_tag_not_found" "Unable to extract tag using discriminator 'kind'"
  | _ => .fault "model_attributes_type"
      "Input should be a valid dictionary or object to extract fields from"

/-! ## Documents -/

/-- A mode. -/
def Mode.check : Check Mode := choice Mode.all Mode.name

/-- A list of packages; repetitions are dropped. -/
def checkPackages : Check (List String) := fun v ↦ (list string v).map distinct

/-- The mode of a document that names none, by its field `tufte`. -/
def defaultMode (v : Value) : Mode :=
  match v.field? "tufte" with
  | none => .standard
  | some t => Mode.ofTufte t.holds

/-- The fields of a document. -/
def Document.checkFields (plotOf : PlotReader) : Check Document := fun v ↦
  Document.mk
    <$> withDefault "jobname" "document" string v
    <*> withDefault "title" "" string v
    <*> withDefault "author" "" string v
    <*> withDefault "address" "" string v
    <*> withDefault "email" "" string v
    <*> withDefault "date" "" string v
    <*> withDefault "packages" defaultPackages checkPackages v
    <*> withDefault "mode" (defaultMode v) Mode.check v
    <*> withDefault "auto_sections" true flag v
    <*> withDefault "toc" false flag v
    <*> withDefault "entries" [] (list (Entry.check plotOf)) v

/-- A document. -/
def Document.check (plotOf : PlotReader) : Check Document :=
  record "TeXDocument" (checkFields plotOf)

/-- The document with one field set anew.  What follows from the rest cannot be set, except that
`tufte` chooses the mode. -/
def Document.assign (plotOf : PlotReader) (name : String) (v : Value) (d : Document) :
    Except Failure Document :=
  let put {α : Type} (c : Check α) (f : α → Document) : Except Failure Document :=
    (((c v).map f).within (.field name)).toExcept
  match name with
  | "jobname" => put string fun s ↦ { d with jobname := s }
  | "title" => put string fun s ↦ { d with title := s }
  | "author" => put string fun s ↦ { d with author := s }
  | "address" => put string fun s ↦ { d with address := s }
  | "email" => put string fun s ↦ { d with email := s }
  | "date" => put string fun s ↦ { d with date := s }
  | "packages" => put checkPackages fun ps ↦ { d with packages := ps }
  | "mode" => put Mode.check fun m ↦ { d with mode := m }
  | "auto_sections" => put flag fun b ↦ { d with autoSections := b }
  | "toc" => put flag fun b ↦ { d with contents := b }
  | "entries" => put (list (Entry.check plotOf)) fun es ↦ { d with entries := es }
  | "tufte" => .ok { d with mode := .ofTufte v.holds }
  | "figures" => .error (.noSetter "TeXDocument" "figures")
  | _ => .error (.invalid
      [⟨"no_such_attribute", [.field name], "Object has no attribute '" ++ name ++ "'"⟩])

end TexWeave

import TexWeave.Check.Entry
import TexWeave.Source.Definition
import TexWeave.Title

/-!
# Making entries

Entries are made from what an author hands over, which is untyped until it has been checked.

* `blockText` — the literal text of a block as an entry keeps it.
* `TextEntry.make`, `CodeEntry.make`, `FigureEntry.make` — the three kinds.
-/

set_option autoImplicit false

namespace TexWeave

/-- The literal text of a block: line ends unified, the indentation of its first line removed, and
no line feed at its end. -/
def blockText (source : String) : String :=
  Text.dropNewlines (Text.joinLines (Text.stripIndent (Text.lines source)))

/-- Prose with the section it opens and the text of a block. -/
def TextEntry.make (text heading source : Value) : Except Failure TextEntry :=
  let checked (source : Value) : Except Failure TextEntry :=
    (TextEntry.checkFields
      (.map [("text", text), ("section", heading), ("source", source)])).toExcept
  match source with
  | .null => checked .null
  | .str s => checked (.str (blockText s))
  | v => .error (.noAttribute v.sortName "replace")

/-- A description and the definition a source holds, under the name given or else its own. -/
def CodeEntry.make (description source name : Value) : Except Failure CodeEntry :=
  match source with
  | .str s => do
    let found ← Source.sliceDefinition s
    match (if name.holds then name else .str found.name) with
    | .str n =>
      (CodeEntry.checkFields (.map [("description", description), ("source", .str found.text),
        ("title", .str (deriveTitle n)), ("name", .str n)])).toExcept
    | v => .error (.noAttribute v.sortName "split")
  | v => .error (.noAttribute v.sortName "replace")

/-- The options that place a figure. -/
def placementNames : List String := ["position", "figtype", "caption", "caption_pos", "label"]

/-- One of a choice by its name. -/
def chooseName {α : Type} (ofName? : String → Option α) (choice : String) (v : Value) :
    Except Failure α :=
  match v with
  | .str s =>
    match ofName? s with
    | some a => .ok a
    | none => .error (.invalidChoice v choice)
  | _ => .error (.invalidChoice v choice)

/-- A plot with the options that place it.  The figure type is looked at before the position of the
caption, and both before everything else. -/
def FigureEntry.make (plot : Plot) (placement : List (String × Value)) :
    Except Failure FigureEntry := do
  match placement.find? fun p ↦ !placementNames.contains p.1 with
  | some p => throw (.unknownPlacement p.1)
  | none => pure ()
  match ((Value.map placement).field? "figtype").getD .null with
  | .null => pure ()
  | v => let _ ← chooseName FigureType.ofName? "FigureType" v
  match (Value.map placement).field? "caption_pos" with
  | none => pure ()
  | some v => let _ ← chooseName CaptionPosition.ofName? "CaptionPosition" v
  (FigureEntry.checkFields (fun _ ↦ plot) (.map (("plot", .null) :: placement))).toExcept

end TexWeave

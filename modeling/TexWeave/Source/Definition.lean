import TexWeave.Failure
import TexWeave.Source.Grammar
import TexWeave.Source.Scan
import TexWeave.Text.Blank
import TexWeave.Text.Lines
import TexWeave.Text.NormalForm

/-!
# The definition in a source text

A code entry keeps the text of one definition.  It is cut out of its source by lines: from the line
with the word that opens the definition to the last line of its body, both taken whole.

* `readText` — the tree of a text.
* `headerName?` — the declared name as it is spelled.
* `sliceDefinition` — the name and the text of the only definition in a source.
-/

set_option autoImplicit false

namespace TexWeave
namespace Source

open Text

/-- The tree of a text. -/
def readText (text : List Char) : Except Failure Tree :=
  if text.contains '\x00' then .error .nullCharacter
  else match (scan text).sentence?.bind parse with
    | some t => .ok t
    | none => .error .brokenSource

/-- The statements of a text or block: its children without layout and semicolons. -/
def statementsOf (t : Tree) : List Tree :=
  t.children.filter fun c ↦ match c with
    | .leaf _ => false
    | .node .. => true

/-- A function or class without its decorators. -/
def undecorated? : Tree → Option Tree
  | .node .function cs => some (.node .function cs)
  | .node .className cs => some (.node .className cs)
  | .node .decoratedDefinition cs => cs.getLast?
  | _ => none

/-- The name a definition declares, in normal form. -/
def declaredName (definition : Tree) : String :=
  let names := definition.children.filter (Tree.isLeaf .name)
  compat ((names.head?.map fun n ↦ String.ofList
    (n.tokens.flatMap fun t ↦ t.text.toList)).getD "")

/-- What follows a word and at least one blank. -/
def afterSpacedWord? (w : String) (cs : List Char) : Option (List Char) :=
  if w.toList.isPrefixOf cs then
    match cs.drop w.length with
    | c :: r => if isBlank c then some (r.dropWhile isBlank) else none
    | [] => none
  else none

/-- The declared name as the header spells it: what follows the opening word up to a blank, a
bracket or a colon. -/
def headerName? (line : String) : Option String :=
  let cs := trimStart line.toList
  let cs := (afterSpacedWord? "async" cs).getD cs
  ((afterSpacedWord? "def" cs).or (afterSpacedWord? "class" cs)).bind fun r ↦
    let name := r.takeWhile fun c ↦ !(isBlank c || c == '(' || c == ':' || c == '[')
    if name.isEmpty then none else some (String.ofList name)

/-- The members of a list from place `first` to place `last`, both counted from one. -/
def between {α : Type} (first last : Nat) (xs : List α) : List α :=
  (xs.take last).drop (first - 1)

/-- The text of a definition and the name it declares. -/
structure Definition where
  name : String
  text : String
  deriving DecidableEq, Repr

/-- The definition a tree is, cut out of the lines of its text. -/
def cutDefinition (ls : List String) (definition : Tree) : Definition :=
  let own := between definition.firstLine definition.lastLine ls
  ⟨(headerName? (own.headD "")).getD (declaredName definition), joinLines own⟩

/-- The only definition in a text given by its lines. -/
def sliceLines (ls : List String) : Except Failure Definition :=
  match readText (joinLines ls).toList with
  | .error .brokenSource => .error (.unsourced .unreadable)
  | .error f => .error f
  | .ok t =>
    match (statementsOf t).filterMap undecorated? with
    | [d] => .ok (cutDefinition ls d)
    | ds => .error (.unsourced (.definitionCount ds.length))

/-- The only definition in a source, which may be indented and may start with decorators. -/
def sliceDefinition (source : String) : Except Failure Definition :=
  sliceLines (stripIndent (lines source))

end Source
end TexWeave

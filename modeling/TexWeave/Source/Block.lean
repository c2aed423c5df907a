import TexWeave.Source.Definition

/-!
# The block at a line

A block is the body of a statement that opens a context.  It is found by a line of the statement's
header, and its text is taken by whole lines.

* `contexts` — every such statement of a tree.
* `covers` — whether the header of a statement covers a line.
* `blockSource` — the text of the body.
-/

set_option autoImplicit false

namespace TexWeave
namespace Source

open Text

namespace Tree

mutual

/-- Every node of a sort in a tree, an outer one before those inside it. -/
def nodes (k : NodeKind) : Tree → List Tree
  | .leaf _ => []
  | .node kind cs =>
    if kind == k then .node kind cs :: nodesOf k cs else nodesOf k cs

/-- Every node of a sort in trees, in order. -/
def nodesOf (k : NodeKind) : List Tree → List Tree
  | [] => []
  | c :: cs => c.nodes k ++ nodesOf k cs

end

/-- The line an expression starts on when parentheses around all of it do not count. -/
def expressionLine : Tree → Nat
  | .node .group [_, c, _] => c.expressionLine
  | t => t.firstLine

end Tree

/-- The lines on which the decorators of a statement start. -/
def decoratorLines : Tree → List Nat
  | .node .decoratedDefinition cs =>
    cs.filterMap fun c ↦ match c with
      | .node .decorator (_ :: e :: _) => some e.expressionLine
      | _ => none
  | _ => []

/-- The line a statement starts on, decorators included. -/
def statementLine (t : Tree) : Nat :=
  let own := ((undecorated? t).getD t).firstLine
  (decoratorLines t).foldl min own

/-- The body of a statement. -/
def bodyOf (t : Tree) : List Tree :=
  match t.children.getLast? with
  | some b => statementsOf b
  | none => []

/-- The statements of a tree that open a context. -/
def contexts (t : Tree) : List Tree := t.nodes .withStatement

/-- The line the body of a statement starts on. -/
def bodyStart (t : Tree) : Nat := ((bodyOf t).head?.map statementLine).getD 0

/-- The line the body of a statement ends on. -/
def bodyEnd (t : Tree) : Nat := ((bodyOf t).getLast?.map Tree.lastLine).getD 0

/-- Whether the header of a statement covers a line: from its own first line up to its body. -/
def covers (line : Int) (t : Tree) : Bool :=
  (t.firstLine : Int) ≤ line && line < (bodyStart t : Int)

/-- Of several statements the one that starts last; of those that start together the first. -/
def latest : List Tree → Option Tree
  | [] => none
  | t :: r =>
    match latest r with
    | some u => if t.firstLine < u.firstLine then some u else some t
    | none => some t

/-- A file as it is read: a mark of its encoding is dropped, line ends are unified, and the last
line ends too.  A file that is absent or empty has no text. -/
def fileText? (file : Option String) : Option (List Char) :=
  let cs := match (file.getD "").toList with
    | '\uFEFF' :: r => r
    | cs => cs
  let cs := unifyNewlines cs
  if cs.isEmpty then none
  else some (if cs.getLast? == some '\n' then cs else cs ++ ['\n'])

/-- The text of the block whose header covers a line of a file. -/
def blockSource (fileName : String) (file : Option String) (line : Int) :
    Except Failure String :=
  match fileText? file with
  | none => .error (.unsourced (.absent fileName))
  | some text => do
    let t ← readText text
    match latest ((contexts t).filter (covers line)) with
    | none => throw (.unsourced (.noBlock fileName line))
    | some w =>
      let ls := (splitAt '\n' text).map String.ofList
      return dropNewlines (joinLines (between (bodyStart w) (bodyEnd w) ls))

end Source
end TexWeave

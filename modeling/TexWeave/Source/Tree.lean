import TexWeave.Source.Token

/-!
# Syntax trees

A tree keeps every token of the text it was made from.  A node has a sort where a later step needs
to know what it is; everything else is left flat.

* `Tree.firstLine`, `Tree.lastLine` — the lines a tree covers.
* `Tree.isTarget` and its kin — which expressions can be assigned to.
-/

set_option autoImplicit false

namespace TexWeave
namespace Source

/-- The sorts of node. -/
inductive NodeKind
  | text
  | simple
  | compound
  | function
  | decoratedDefinition
  | decorator
  | className
  | withStatement
  | block
  | list
  | tuple
  | bareTuple
  | group
  | starred
  | named
  | primary
  | member
  | subscript
  | call
  | comprehension
  | lambda
  | operation
  | argument
  | keywordArgument
  | doubleStarred
  | target
  | parameter
  | patternNumber
  deriving DecidableEq, Repr, Inhabited

/-- A syntax tree. -/
inductive Tree
  | leaf (t : Token)
  | node (kind : NodeKind) (children : List Tree)
  deriving Inhabited

namespace Tree

mutual

/-- The tokens of a tree, in order. -/
def tokens : Tree → List Token
  | .leaf t => [t]
  | .node _ cs => tokensOf cs

/-- The tokens of trees, in order. -/
def tokensOf : List Tree → List Token
  | [] => []
  | c :: cs => c.tokens ++ tokensOf cs

end

/-- The line a tree starts on. -/
def firstLine (t : Tree) : Nat := (t.tokens.head?.map Token.line).getD 0

/-- The line on which the last token ends that is more than layout. -/
def lastLine (t : Tree) : Nat :=
  ((t.tokens.reverse.find? fun k ↦ !k.isLayout).map Token.endLine).getD 0

/-- The children of a tree. -/
def children : Tree → List Tree
  | .leaf _ => []
  | .node _ cs => cs

/-- Whether a tree is a node of the sort given. -/
def isNode (k : NodeKind) : Tree → Bool
  | .leaf _ => false
  | .node kind _ => kind == k

/-- Whether a tree is one token of the kind given. -/
def isLeaf (k : TokenKind) : Tree → Bool
  | .leaf t => t.kind == k
  | .node .. => false

/-- Whether a tree is the operator or keyword given. -/
def isWord (s : String) : Tree → Bool
  | .leaf t => t.text == s && (t.kind == .operator || t.kind == .keyword)
  | .node .. => false

/-- Whether a tree is a bracket, a comma or a star, which hold listings together. -/
def isPunctuation : Tree → Bool
  | .leaf t => t.kind == .operator && ["(", ")", "[", "]", ",", "*"].contains t.text
  | .node .. => false

/-- Whether the last step of a primary expression is of the sort given. -/
def lastStepIs (k : NodeKind) (cs : List Tree) : Bool :=
  (cs.getLast?.map (isNode k)).getD false

/-! ## Targets -/

mutual

/-- Whether an expression can be assigned to. -/
def isTarget : Tree → Bool
  | .leaf t => t.kind == .name
  | .node .primary cs => lastStepIs .member cs || lastStepIs .subscript cs
  | .node .group cs => allTargets false cs
  | .node .tuple cs => allTargets true cs
  | .node .list cs => allTargets true cs
  | .node .starred _ => false
  | .node _ _ => false

/-- Whether an expression can stand among several targets, one of which may be starred. -/
def isStarTarget : Tree → Bool
  | .node .starred cs => allTargets false cs
  | t => isTarget t

/-- Whether the members of a listing can be assigned to; with `starred`, starred ones count. -/
def allTargets (starred : Bool) : List Tree → Bool
  | [] => true
  | .leaf t :: r => (isPunctuation (.leaf t) || t.kind == .name) && allTargets starred r
  | c :: r => (if starred then isStarTarget c else isTarget c) && allTargets starred r

end

/-- Whether an expression can stand to the left of an equals sign. -/
def isAssignable : Tree → Bool
  | .node .bareTuple cs => allTargets true cs
  | t => isStarTarget t

/-- Whether an expression is a single target: a name or a part, maybe in parentheses. -/
def isSingleTarget : Tree → Bool
  | .leaf t => t.kind == .name
  | .node .primary cs => lastStepIs .member cs || lastStepIs .subscript cs
  | .node .group [_, c, _] => isSingleTarget c
  | .node _ _ => false

mutual

/-- Whether an expression can be deleted. -/
def isDeletable : Tree → Bool
  | .leaf t => t.kind == .name
  | .node .primary cs => lastStepIs .member cs || lastStepIs .subscript cs
  | .node .group cs => allDeletable cs
  | .node .tuple cs => allDeletable cs
  | .node .list cs => allDeletable cs
  | .node _ _ => false

/-- Whether the members of a listing can be deleted. -/
def allDeletable : List Tree → Bool
  | [] => true
  | .leaf t :: r => (isPunctuation (.leaf t) || t.kind == .name) && allDeletable r
  | c :: r => isDeletable c && allDeletable r

end

end Tree

end Source
end TexWeave

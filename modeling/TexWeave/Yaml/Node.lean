import TexWeave.Text.Lines
import TexWeave.Yaml.Token

/-!
# The tree of a settings file

Tokens form a tree of scalars, sequences and mappings.  A reference stands for the tree that carries
its name, so a tree has no references any more.

* `Node` — a tree.
* `Node.ofTokens?` — the tree of a text with at most one document.
-/

set_option autoImplicit false

namespace TexWeave
namespace Yaml

/-- A tree.  A scalar is plain if its sort is to be told from its text. -/
inductive Node
  | scalar (tag : Option String) (plain : Bool) (text : String)
  | sequence (tag : Option String) (items : List Node)
  | mapping (tag : Option String) (pairs : List (Node × Node))
  deriving Inhabited

/-- What is taken to stand where nothing does. -/
def Node.empty : Node := .scalar none true ""

/-- The tokens that are left, what handles of tags stand for, and the trees that carry names.  A
tree that is not complete yet carries its name already. -/
structure Reading where
  tokens : List Token
  handles : List (String × String) := []
  named : List (String × Option Node) := []

/-- A step of reading. -/
abbrev NodeReader := StateT Reading Option

namespace NodeReader

/-- The handles that are there from the start. -/
def standardHandles : List (String × String) := [("!", "!"), ("!!", "tag:yaml.org,2002:")]

/-- The next token. -/
def peek? : NodeReader (Option Token) := do return (← get).tokens.head?

/-- Whether the next token is one of several. -/
def isAt (ts : List Token) : NodeReader Bool := do
  return ((← peek?).map fun t ↦ ts.contains t).getD false

/-- Passes the next token. -/
def pass : NodeReader Unit := modify fun s ↦ { s with tokens := s.tokens.drop 1 }

/-- Passes a token if it comes next, and tells whether it did. -/
def passIf (t : Token) : NodeReader Bool := do
  if ← isAt [t] then
    pass
    return true
  else return false

/-- Passes a token that has to come next. -/
def expect (t : Token) : NodeReader Unit := do
  if !(← passIf t) then failure

/-! ## Tags and names -/

/-- The name a tree carries, if it carries one. -/
def anchor? : NodeReader (Option String) := do
  match ← peek? with
  | some (.anchor name) => pass; return some name
  | _ => return none

/-- The tag of a tree, if there is one. -/
def tag? : NodeReader (Option String) := do
  match ← peek? with
  | some (.tag t) =>
    pass
    match t.handle with
    | none => return some t.suffix
    | some h =>
      match (← get).handles.find? fun p ↦ p.1 == h with
      | some p => return some (p.2 ++ t.suffix)
      | none => failure
  | _ => return none

/-- The name and the tag of a tree, in any order. -/
def properties : NodeReader (Option String × Option String) := do
  match ← anchor? with
  | some name => return (some name, ← tag?)
  | none =>
    let tag ← tag?
    return (← anchor?, tag)

/-- Lets a tree carry a name. -/
def bind (name : Option String) (n : Option Node) : NodeReader Unit := do
  match name with
  | some a => modify fun s ↦ { s with named := (a, n) :: s.named }
  | none => return ()

/-- Keeps a name for a tree that is not complete yet.  No two trees carry one name. -/
def reserve (name : Option String) : NodeReader Unit := do
  match name with
  | some a =>
    if (← get).named.any fun p ↦ p.1 == a then failure
    bind name none
  | none => return ()

/-- The tree that carries a name. -/
def named (name : String) : NodeReader Node := do
  match (← get).named.find? fun p ↦ p.1 == name with
  | some (_, some n) => return n
  | _ => failure

/-! ## Trees -/

/-- Where a tree stands: in a block, in a block where a sequence need not be deeper than its key, or
inside brackets. -/
inductive Place
  | block
  | loose
  | flow
  deriving DecidableEq

/-- What stands where there are properties and nothing else. -/
def bare (marked : Bool) (tag : Option String) : NodeReader Node :=
  if marked then return .scalar tag tag.isNone "" else failure

mutual

/-- A tree with its properties. -/
def node : Nat → Place → NodeReader Node
  | 0, _ => failure
  | fuel + 1, place => do
    match ← peek? with
    | some (.alias name) => pass; named name
    | _ =>
      let (name, tag) ← properties
      reserve name
      let known := tag.filter (· != "!")
      let n ← content fuel place (name.isSome || tag.isSome) tag known
      bind name (some n)
      return n

/-- A tree after its properties; if it has some there may be nothing else. -/
def content : Nat → Place → Bool → Option String → Option String → NodeReader Node
  | 0, _, _, _, _ => failure
  | fuel + 1, place, marked, tag, known => do
    match ← peek? with
    | some (.scalar text plain) =>
      pass
      return .scalar known ((plain && tag.isNone) || tag == some "!") text
    | some .openSequence => pass; return .sequence known (← flowItems fuel true)
    | some .openMapping => pass; return .mapping known (← flowPairs fuel true)
    | some .entry =>
      if place = .loose then return .sequence known (← looseItems fuel)
      else bare marked known
    | some .blockSequence =>
      if place = .flow then bare marked known
      else do pass; return .sequence known (← blockItems fuel)
    | some .blockMapping =>
      if place = .flow then bare marked known
      else do pass; return .mapping known (← blockPairs fuel)
    | _ => bare marked known

/-- A tree, or nothing before one of the tokens given. -/
def nodeUnless : Nat → Place → List Token → NodeReader Node
  | 0, _, _ => failure
  | fuel + 1, place, stops => do
    if ← isAt stops then return .empty
    else node fuel place

/-- The members of a sequence in a block. -/
def blockItems : Nat → NodeReader (List Node)
  | 0 => failure
  | fuel + 1 => do
    if ← passIf .entry then
      let n ← nodeUnless fuel .block [.entry, .blockEnd]
      return n :: (← blockItems fuel)
    else do
      expect .blockEnd
      return []

/-- The members of a sequence that is not deeper than its key. -/
def looseItems : Nat → NodeReader (List Node)
  | 0 => failure
  | fuel + 1 => do
    if ← passIf .entry then
      let n ← nodeUnless fuel .block [.entry, .key, .value, .blockEnd]
      return n :: (← looseItems fuel)
    else return []

/-- The pairs of a mapping in a block. -/
def blockPairs : Nat → NodeReader (List (Node × Node))
  | 0 => failure
  | fuel + 1 => do
    if ← passIf .key then
      let key ← nodeUnless fuel .loose [.key, .value, .blockEnd]
      let v ← if ← passIf .value then nodeUnless fuel .loose [.key, .value, .blockEnd]
        else pure .empty
      return (key, v) :: (← blockPairs fuel)
    else do
      expect .blockEnd
      return []

/-- The value of a pair inside brackets; nothing if there is none. -/
def flowValue : Nat → Token → NodeReader Node
  | 0, _ => failure
  | fuel + 1, stop => do
    if ← passIf .value then nodeUnless fuel .flow [.comma, stop]
    else return .empty

/-- The members of a sequence in brackets.  A member may be a single pair. -/
def flowItems : Nat → Bool → NodeReader (List Node)
  | 0, _ => failure
  | fuel + 1, first => do
    if ← passIf .closeSequence then return []
    else do
      if !first then expect .comma
      if ← passIf .key then
        let key ← nodeUnless fuel .flow [.value, .comma, .closeSequence]
        let v ← flowValue fuel .closeSequence
        return .mapping none [(key, v)] :: (← flowItems fuel false)
      else if ← passIf .closeSequence then return []
      else
        let n ← node fuel .flow
        return n :: (← flowItems fuel false)

/-- The pairs of a mapping in brackets. -/
def flowPairs : Nat → Bool → NodeReader (List (Node × Node))
  | 0, _ => failure
  | fuel + 1, first => do
    if ← passIf .closeMapping then return []
    else do
      if !first then expect .comma
      if ← passIf .key then
        let key ← nodeUnless fuel .flow [.value, .comma, .closeMapping]
        let v ← flowValue fuel .closeMapping
        return (key, v) :: (← flowPairs fuel false)
      else if ← passIf .closeMapping then return []
      else
        return (← node fuel .flow, .empty) :: (← flowPairs fuel false)

end

/-! ## Documents -/

/-- Whether the arguments of a directive name the first edition of the language. -/
def isFirstEdition : List String → Bool
  | [v] =>
    match Text.splitAt '.' v.toList with
    | [['1'], minor] => !minor.isEmpty && minor.all Char.isDigit
    | _ => false
  | _ => false

/-- The directives before a document: what the handles of tags stand for in it. -/
def directives : Nat → Bool → List (String × String) → NodeReader (List (String × String))
  | 0, _, _ => failure
  | fuel + 1, edition, handles => do
    match ← peek? with
    | some (.directive "YAML" arguments) =>
      if edition || !isFirstEdition arguments then failure
      pass
      directives fuel true handles
    | some (.directive "TAG" [handle, start]) =>
      if handles.any fun p ↦ p.1 == handle then failure
      pass
      directives fuel edition ((handle, start) :: handles)
    | some (.directive "TAG" _) => failure
    | some (.directive _ _) => pass; directives fuel edition handles
    | _ => return handles

/-- Passes marks of a document's end. -/
def passEnds : Nat → NodeReader Unit
  | 0 => return ()
  | fuel + 1 => do if ← passIf .documentEnd then passEnds fuel

/-- The tree of a document that may have a mark at its start. -/
def document (fuel : Nat) : NodeReader (Option Node) := do
  match ← peek? with
  | none => return none
  | some (.directive ..) | some .documentStart =>
    let handles ← directives fuel false []
    expect .documentStart
    modify fun s ↦ { s with handles := handles ++ standardHandles }
    match ← peek? with
    | none | some .documentStart | some .documentEnd | some (.directive ..) => return some .empty
    | _ => return some (← node fuel .block)
  | _ =>
    modify fun s ↦ { s with handles := standardHandles }
    return some (← node fuel .block)

end NodeReader

/-- The tree of a text with at most one document, given its tokens. -/
def Node.ofTokens? (ts : List Token) : Option (Option Node) := do
  let fuel := 4 * ts.length + 8
  let (n, s) ← (do
    let n ← NodeReader.document fuel
    NodeReader.passEnds fuel
    return n : NodeReader (Option Node)).run { tokens := ts }
  if s.tokens.isEmpty then some n else none

end Yaml
end TexWeave

import TexWeave.Text.Lines

/-!
# Paths

A path is a list of names below the working directory or below the root.  Empty names and single
dots are dropped when a path is read, double dots are kept.  Exactly two slashes at the start are a
root that is written differently; more of them are one.

* `Path.ofString`, `Path.toString` — reading and writing.
* `Path.join` — a path below another, unless it starts at the root.
* `Path.parent`, `Path.name`, `Path.stem` — the parts of a path.
-/

set_option autoImplicit false

namespace TexWeave

/-- Where a path starts: at the working directory, or at the root in one of its two spellings. -/
inductive PathRoot
  | none
  | single
  | double
  deriving DecidableEq, Repr, Inhabited

namespace PathRoot

/-- The slashes a root is written with. -/
def text : PathRoot → String
  | .none => ""
  | .single => "/"
  | .double => "//"

/-- The root a text starts with. -/
def ofChars : List Char → PathRoot
  | '/' :: '/' :: '/' :: _ => .single
  | '/' :: '/' :: _ => .double
  | '/' :: _ => .single
  | _ => .none

end PathRoot

/-- A path. -/
structure Path where
  root : PathRoot := .none
  parts : List String
  deriving DecidableEq, Repr, Inhabited

namespace Path

/-- The names between slashes that are kept. -/
def partsOf (s : String) : List String :=
  ((Text.splitAt '/' s.toList).filter fun p ↦ !p.isEmpty && p != ['.']).map String.ofList

/-- Whether a path starts at the root. -/
def absolute (p : Path) : Bool := p.root != .none

/-- Reads a path. -/
def ofString (s : String) : Path := ⟨.ofChars s.toList, partsOf s⟩

/-- Writes a path. -/
def toString (p : Path) : String :=
  if !p.absolute && p.parts.isEmpty then "."
  else p.root.text ++ Text.joinWith "/" p.parts

/-- The path `s` seen from `p`. -/
def join (p : Path) (s : String) : Path :=
  let q := ofString s
  if q.absolute then q else ⟨p.root, p.parts ++ q.parts⟩

/-- The path without its last name. -/
def parent (p : Path) : Path := ⟨p.root, p.parts.dropLast⟩

/-- The last name; empty if there is none. -/
def name (p : Path) : String := p.parts.getLast?.getD ""

/-- The characters before the last dot, unless that dot opens or ends the name. -/
def stemOf (cs : List Char) : List Char :=
  let suffix := cs.reverse.takeWhile (· != '.')
  let before := cs.length - suffix.length - 1
  if suffix.length < cs.length ∧ 0 < before ∧ 0 < suffix.length then cs.take before else cs

/-- The last name without its suffix. -/
def stem (p : Path) : String := String.ofList (stemOf p.name.toList)

end Path

end TexWeave

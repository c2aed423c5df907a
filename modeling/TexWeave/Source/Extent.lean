import TexWeave.Source.Scan

/-!
# How far a definition reaches

The end of a definition in a file, read off its tokens alone.  A definition goes on while its lines
are indented; comments that stand at least as deep as its body belong to it, other comments and
blank lines at its end do not.  An unnamed function ends with its statement.

`extent` gives the number of lines.
-/

set_option autoImplicit false

namespace TexWeave
namespace Source

/-- What is known about a definition whose tokens are being read. -/
structure Extent where
  depth : Int := 0
  /-- Whether it is an unnamed function. -/
  unnamed : Bool := false
  /-- Whether its opening word has come. -/
  started : Bool := false
  /-- Whether the rest of a statement is passed over. -/
  passing : Bool := false
  inDecorator : Bool := false
  /-- The last line known to belong to it. -/
  last : Nat := 1
  /-- The column of its body. -/
  bodyColumn : Option Nat := none

/-- What is known after one more token, and whether the definition has ended. -/
def Extent.step (e : Extent) (t : Token) : Extent × Bool :=
  if !e.started && !e.inDecorator then
    let e :=
      if t.kind == .operator && t.text == "@" then { e with inDecorator := true }
      else if t.kind == .keyword && ["def", "class", "lambda"].contains t.text then
        { e with started := true, unnamed := t.text == "lambda" }
      else e
    ({ e with passing := true }, false)
  else if t.kind == .newline then
    ({ e with passing := false, last := t.line, inDecorator := false }, e.unnamed)
  else if e.passing then (e, false)
  else if t.kind == .indent then
    let column := if e.bodyColumn.isNone && e.started then some t.column else e.bodyColumn
    ({ e with bodyColumn := column, depth := e.depth + 1, passing := true }, false)
  else if t.kind == .dedent then
    ({ e with depth := e.depth - 1 }, e.depth - 1 ≤ 0)
  else if t.kind == .comment then
    match e.bodyColumn with
    | some c => (if c ≤ t.column then { e with last := t.line } else e, false)
    | none => (e, false)
  else if e.depth = 0 && t.kind != .gap then (e, true)
  else (e, false)

/-- Reads tokens until the definition has ended. -/
def Extent.run (e : Extent) : List Token → Extent
  | [] => e
  | t :: r =>
    match e.step t with
    | (e, true) => e
    | (e, false) => e.run r

/-- How many lines a definition takes that a text starts with. -/
def extent (text : List Char) : Nat := (Extent.run {} (scan text).tokens).last

end Source
end TexWeave

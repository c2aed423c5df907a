import TexWeave.Source.Tree

/-!
# Grammars and how they are read

A grammar is a table of forms.  Alternatives are tried in order and the first that fits is taken;
repetition takes as much as it can; `choose` settles for a branch once its test has passed.  The
trees that a form yields can be put together to a node, and looked at by a test of their own.

`Form.read` reads a form at the start of a list of tokens.
-/

set_option autoImplicit false

namespace TexWeave
namespace Source

/-- A form of a grammar whose rules are named by `ρ`. -/
inductive Form (ρ : Type)
  /-- Any token of a kind. -/
  | kind (k : TokenKind)
  /-- The operator or keyword given. -/
  | word (s : String)
  /-- A name that is spelled as given. -/
  | soft (s : String)
  /-- One form after the other. -/
  | seq (fs : List (Form ρ))
  /-- The first of the forms that fits. -/
  | alt (fs : List (Form ρ))
  /-- As often as it fits. -/
  | many (f : Form ρ)
  /-- The first form and then the second; or the third, if the first does not fit. -/
  | choose (test yes no : Form ρ)
  /-- Nothing, if the form would fit here. -/
  | ahead (f : Form ρ)
  /-- Nothing, if the form would not fit here. -/
  | unless (f : Form ρ)
  /-- The form of a rule. -/
  | rule (r : ρ)
  /-- The trees of a form put together. -/
  | build (g : List Tree → Tree) (f : Form ρ)
  /-- A form whose trees pass a test. -/
  | check (p : List Tree → Bool) (f : Form ρ)

namespace Form

/-- A form that takes nothing. -/
def nothing {ρ : Type} : Form ρ := .seq []

/-- A form or nothing. -/
def opt {ρ : Type} (f : Form ρ) : Form ρ := .choose f nothing nothing

/-- At least once. -/
def some1 {ρ : Type} (f : Form ρ) : Form ρ := .seq [f, .many f]

/-- A node of the sort given. -/
def node {ρ : Type} (k : NodeKind) (f : Form ρ) : Form ρ := .build (.node k) f

/-- A single tree as it is, and several as a node. -/
def fold {ρ : Type} (k : NodeKind) (f : Form ρ) : Form ρ :=
  .build (fun cs ↦ match cs with
    | [c] => c
    | _ => .node k cs) f

/-- Forms with separators between them. -/
def sepBy {ρ : Type} (f : Form ρ) (separator : String) : Form ρ :=
  .seq [f, .many (.seq [.word separator, f])]

/-- Forms with commas between them and perhaps one at the end. -/
def listed {ρ : Type} (f : Form ρ) : Form ρ := .seq [sepBy f ",", opt (.word ",")]

/-- The trees a form yields and the tokens it leaves. -/
abbrev Reading := Option (List Tree × List Token)

/-- The next token, if it passes a test. -/
def take (p : Token → Bool) : List Token → Reading
  | [] => none
  | t :: r => if p t then some ([.leaf t], r) else none

/-- Reads a form at the start of the tokens.  The fuel bounds how deep the reading goes. -/
def read {ρ : Type} (grammar : ρ → Form ρ) : Nat → Form ρ → List Token → Reading
  | 0, _, _ => none
  | _ + 1, .kind k, ts => take (fun t ↦ t.kind == k) ts
  | _ + 1, .word s, ts =>
    take (fun t ↦ t.text == s && (t.kind == .operator || t.kind == .keyword)) ts
  | _ + 1, .soft s, ts => take (fun t ↦ t.text == s && t.kind == .name) ts
  | _ + 1, .seq [], ts => some ([], ts)
  | fuel + 1, .seq (f :: fs), ts =>
    match read grammar fuel f ts with
    | none => none
    | some (a, r) =>
      match read grammar fuel (.seq fs) r with
      | none => none
      | some (b, r) => some (a ++ b, r)
  | _ + 1, .alt [], _ => none
  | fuel + 1, .alt (f :: fs), ts =>
    match read grammar fuel f ts with
    | some x => some x
    | none => read grammar fuel (.alt fs) ts
  | fuel + 1, .many f, ts =>
    match read grammar fuel f ts with
    | none => some ([], ts)
    | some (a, r) =>
      match read grammar fuel (.many f) r with
      | none => some (a, r)
      | some (b, r) => some (a ++ b, r)
  | fuel + 1, .choose test yes no, ts =>
    match read grammar fuel test ts with
    | none => read grammar fuel no ts
    | some (a, r) =>
      match read grammar fuel yes r with
      | none => none
      | some (b, r) => some (a ++ b, r)
  | fuel + 1, .ahead f, ts => (read grammar fuel f ts).map fun _ ↦ ([], ts)
  | fuel + 1, .unless f, ts =>
    match read grammar fuel f ts with
    | none => some ([], ts)
    | some _ => none
  | fuel + 1, .rule r, ts => read grammar fuel (grammar r) ts
  | fuel + 1, .build g f, ts => (read grammar fuel f ts).map fun (a, r) ↦ ([g a], r)
  | fuel + 1, .check p f, ts => (read grammar fuel f ts).filter fun (a, _) ↦ p a

end Form

end Source
end TexWeave

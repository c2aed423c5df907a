import TexWeave.Markup
import TexWeave.Text.Word

/-!
# Cross-references

Some commands show what an earlier run of the engine wrote down: labels, references, citations,
footnotes, the table of contents.  Markup that holds one of them needs a second pass.

* `isReferenceCommand` — the names of those commands.
* `hasReference` — whether one of them occurs in a text.
* `Document.needsSecondPass` — whether a document needs the second pass.
-/

set_option autoImplicit false

namespace TexWeave

open Text

/-- The commands with one spelling; citing commands have many. -/
def referenceNames : List String :=
  ["label", "ref", "eqref", "pageref", "autoref", "cref", "Cref", "nameref", "footnote",
    "tableofcontents"]

/-- Whether a word is the name of a command that refers to an earlier run. -/
def isReferenceCommand (word : List Char) : Bool :=
  referenceNames.any (·.toList == word) || "cite".toList.isPrefixOf word

/-- Whether a reference command stands somewhere in a text.  The name of a command is the whole run
of word characters after the backslash. -/
def hasReference : List Char → Bool
  | [] => false
  | c :: r => (c == '\\' && isReferenceCommand (r.takeWhile isWordChar)) || hasReference r

/-- Whether a document needs a second pass when its markup is as given.  A table of contents or a
figure decides without a look at the markup. -/
def Document.needsSecondPassWith (d : Document) (markup : String) : Bool :=
  d.contents || !d.figures.isEmpty || hasReference markup.toList

/-- Whether a document needs a second pass; the markup is rendered if none is given and it
matters. -/
def Document.needsSecondPass (axes : Axes) (d : Document) (markup : Option String) :
    Except Failure Bool :=
  if d.contents || !d.figures.isEmpty then .ok true
  else match markup with
    | some m => .ok (hasReference m.toList)
    | none => do return hasReference (← d.render axes).toList

end TexWeave

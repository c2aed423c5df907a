import TexWeave.Entry

/-!
# Where sections start

Every entry is paired with the section it opens, if any.  A text entry opens a section when it names
one.  With automatic sections, a code entry opens one when its title is not the title of the
section before.

* `opening` — the section one entry opens after a given title.
* `planSections` — the plan of a list of entries.
-/

set_option autoImplicit false

namespace TexWeave

/-- An entry with the section it opens. -/
structure SectionStep where
  entry : Entry
  opens : Option String
  deriving Inhabited

/-- The section an entry opens when `previous` is the title opened last. -/
def opening (auto : Bool) (previous : Option String) : Entry → Option String
  | .text e => e.heading.filter fun h ↦ !h.isEmpty
  | .code e => if auto && previous != some e.title then some e.title else none
  | .figure _ => none

/-- The plan for the entries that come after the title `previous`. -/
def planFrom (auto : Bool) (previous : Option String) : List Entry → List SectionStep
  | [] => []
  | e :: r =>
    let opens := opening auto previous e
    ⟨e, opens⟩ :: planFrom auto (opens.or previous) r

/-- Every entry, in order, with the section it opens. -/
def planSections (entries : List Entry) (auto : Bool) : List SectionStep :=
  planFrom auto none entries

/-- The titles of the sections that are opened, in order; empty titles are left out. -/
def sectionTitles (entries : List Entry) (auto : Bool) : List String :=
  (planSections entries auto).filterMap fun s ↦ s.opens.filter fun t ↦ !t.isEmpty

end TexWeave

import TexWeave.Entry

/-!
# Documents

A document is its metadata, its options and its entries in the order in which they were added; that
is the order in which they are rendered.
-/

set_option autoImplicit false

namespace TexWeave

/-- The members of a list at their first places. -/
def distinct (names : List String) : List String :=
  go [] names
where
  /-- The members that are not among those seen. -/
  go (seen : List String) : List String → List String
    | [] => []
    | n :: r => if seen.contains n then go seen r else n :: go (n :: seen) r

/-- The packages of a document that names none. -/
def defaultPackages : List String := ["amsmath", "amssymb", "hyperref"]

/-- A document. -/
structure Document where
  /-- The stem of the files that are written. -/
  jobname : String := "document"
  title : String := ""
  author : String := ""
  address : String := ""
  email : String := ""
  date : String := ""
  /-- The packages declared, without repetition. -/
  packages : List String := defaultPackages
  mode : Mode := .standard
  /-- Whether code entries open sections. -/
  autoSections : Bool := true
  /-- Whether there is a table of contents. -/
  contents : Bool := false
  entries : List Entry := []
  deriving Inhabited

namespace Document

/-- Whether the document is in tufte mode. -/
def isTufte (d : Document) : Bool := d.mode == .tufte

/-- The figures, in order. -/
def figures (d : Document) : List FigureEntry := d.entries.filterMap Entry.figure?

/-- The document with one more entry at its end. -/
def append (d : Document) (e : Entry) : Document := { d with entries := d.entries ++ [e] }

/-- The document with a package declared; declaring it again changes nothing. -/
def addPackage (d : Document) (name : String) : Document :=
  if d.packages.contains name then d else { d with packages := d.packages ++ [name] }

end Document

end TexWeave

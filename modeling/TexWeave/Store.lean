import TexWeave.Failure
import TexWeave.Path

/-!
# Files

The files a build reads and writes, with the directories they stand in.  A place is a path whose
double dots have been followed; above the working directory they stay.

* `Store.locate` — the place of a path, or why it has none.
* `Store.exists?`, `Store.read`, `Store.write` — the operations on files.
* `Store.makeDirectories` — creates a directory with everything above it.
-/

set_option autoImplicit false

namespace TexWeave

/-- A place: names from the working directory on. -/
abbrev Place := List String

/-- Files with their texts, and the directories beside the working directory. -/
structure Store where
  files : List (Place × String) := []
  directories : List Place := []
  deriving DecidableEq, Repr, Inhabited

namespace Store

/-- The text of the file at a place. -/
def file? (s : Store) (p : Place) : Option String :=
  (s.files.find? fun f ↦ f.1 == p).map (·.2)

/-- Whether a place is a directory.  The working directory, the root and what is above are. -/
def isDirectory (s : Store) (p : Place) : Bool :=
  p.all (fun n ↦ n == ".." || n == "/") || s.directories.contains p

/-- Whether something is at a place. -/
def occupied (s : Store) (p : Place) : Bool := s.isDirectory p || (s.file? p).isSome

/-- The place one name further. -/
def stepTo (p : Place) (name : String) : Place :=
  if name == ".." then
    match p.getLast? with
    | none => [".."]
    | some ".." => p ++ [".."]
    | some "/" => p
    | some _ => p.dropLast
  else p ++ [name]

/-- Follows names from a place; each place on the way has to be a directory. -/
def follow (s : Store) (p : Place) : List String → Except PathFault Place
  | [] => .ok p
  | n :: r =>
    if s.isDirectory p then s.follow (stepTo p n) r
    else if (s.file? p).isSome then .error .notDirectory
    else .error .missing

/-- Where following a path starts. -/
def start (p : Path) : Place := if p.absolute then ["/"] else []

/-- The place of a path, which need not be occupied. -/
def locate (s : Store) (p : Path) : Except PathFault Place := s.follow (start p) p.parts

/-- Whether there is something at a path. -/
def pathExists (s : Store) (p : Path) : Bool :=
  match s.locate p with
  | .ok place => s.occupied place
  | .error _ => false

/-- Whether there is a directory at a path. -/
def pathIsDirectory (s : Store) (p : Path) : Bool :=
  match s.locate p with
  | .ok place => s.isDirectory place
  | .error _ => false

/-- Puts a text into an association, at its old place if it has one. -/
def putFile (place : Place) (text : String) : List (Place × String) → List (Place × String)
  | [] => [(place, text)]
  | f :: r => if f.1 == place then (place, text) :: r else f :: putFile place text r

/-- The text of the file at a path. -/
def read (s : Store) (p : Path) : Except Failure String :=
  match s.locate p with
  | .error fault => .error (.path fault p.toString)
  | .ok place =>
    match s.file? place with
    | some text => .ok text
    | none => .error (.path (if s.isDirectory place then .isDirectory else .missing) p.toString)

/-- The store with a text at a path, in place of what was there. -/
def write (s : Store) (p : Path) (text : String) : Except Failure Store :=
  match s.locate p with
  | .error fault => .error (.path fault p.toString)
  | .ok place =>
    if s.isDirectory place then .error (.path .isDirectory p.toString)
    else if s.isDirectory place.dropLast then
      .ok { s with files := putFile place text s.files }
    else .error (.path .missing p.toString)

/-- Creates one directory, whose parent has to be there. -/
def makeDirectory (s : Store) (p : Path) : Except PathFault Store :=
  match s.locate p with
  | .error fault => .error fault
  | .ok place =>
    if s.occupied place then .error .exists
    else .ok { s with directories := s.directories ++ [place] }

/-- Creates one directory; it may be there already. -/
def ensureDirectory (s : Store) (p : Path) : Except PathFault Store :=
  match s.makeDirectory p with
  | .ok t => .ok t
  | .error fault => if s.pathIsDirectory p then .ok s else .error fault

/-- Creates a directory, given the names of its path in reverse, and every directory above it that
is missing.  The failure names the path at which it arose. -/
def ensureReversed (s : Store) (root : PathRoot) : List String → Except Failure Store
  | [] => .ok s
  | n :: above =>
    let p : Path := ⟨root, (n :: above).reverse⟩
    match s.makeDirectory p with
    | .ok t => .ok t
    | .error .missing => do
      let t ← s.ensureReversed root above
      match t.ensureDirectory p with
      | .ok u => .ok u
      | .error fault => .error (.path fault p.toString)
    | .error fault => if s.pathIsDirectory p then .ok s else .error (.path fault p.toString)

/-- Creates a directory with everything above it. -/
def makeDirectories (s : Store) (p : Path) : Except Failure Store :=
  s.ensureReversed p.root p.parts.reverse

/-- The store with a file that is given from outside, its directories included. -/
def supply (s : Store) (path text : String) : Store :=
  let p := Path.ofString path
  match s.makeDirectories p.parent with
  | .error _ => s
  | .ok t => (t.write p text).toOption.getD s

/-- The files below the working directory with their paths. -/
def listing (s : Store) : List (String × String) :=
  (s.files.filter fun f ↦ !f.1.contains ".." && !f.1.contains "/").map fun f ↦
    (Text.joinWith "/" f.1, f.2)

end Store

end TexWeave

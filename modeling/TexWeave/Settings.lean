import TexWeave.Check.Settings
import TexWeave.Dump
import TexWeave.Yaml.Read

/-!
# Settings of a project

Settings come as untyped data.  Their texts may refer to variables of the environment, written as a
dollar sign with the name in braces; such a reference stands for the value of the variable, and for
nothing when there is no such variable.

* `Environment.fill` — puts values for references.
* `ProjectSettings.load` — the settings in a file.
* `ProjectSettings.documentFields` — the fields a new document takes over.
-/

set_option autoImplicit false

namespace TexWeave

/-- The variables of an environment. -/
abbrev Environment := List (String × String)

namespace Environment

/-- The value of a variable; empty if there is none. -/
def valueOf (env : Environment) (name : String) : String :=
  ((env.find? fun v ↦ v.1 == name).map (·.2)).getD ""

/-- A reference at the front of a text: the name in it and what follows it.  A reference names
something and ends at the first closing brace. -/
def reference? : List Char → Option (List Char × List Char)
  | '$' :: '{' :: r =>
    match r.takeWhile (· != '}'), r.dropWhile (· != '}') with
    | c :: cs, '}' :: rest => some (c :: cs, rest)
    | _, _ => none
  | _ => none

/-- A text with values for its references, within as many steps as given. -/
def fillWithin (env : Environment) : Nat → List Char → List Char
  | 0, _ => []
  | _ + 1, [] => []
  | n + 1, c :: r =>
    match reference? (c :: r) with
    | some (name, rest) =>
      (env.valueOf (String.ofList name)).toList ++ env.fillWithin n rest
    | none => c :: env.fillWithin n r

/-- A text with values for its references.  The values themselves are not looked at again. -/
def fillText (env : Environment) (s : String) : String :=
  String.ofList (env.fillWithin s.length s.toList)

mutual

/-- A value with all of its texts filled.  Names of fields stay as they are. -/
def fill (env : Environment) : Value → Value
  | .str s => .str (env.fillText s)
  | .list items => .list (env.fillItems items)
  | .map fields => .map (env.fillFields fields)
  | v => v

/-- The members of a list, filled. -/
def fillItems (env : Environment) : List Value → List Value
  | [] => []
  | v :: r => env.fill v :: env.fillItems r

/-- The fields of a record, filled. -/
def fillFields (env : Environment) : List (String × Value) → List (String × Value)
  | [] => []
  | f :: r => (f.1, env.fill f.2) :: env.fillFields r

end

end Environment

/-- The settings in a file.  An empty file, or one that holds nothing that counts as true, leaves
every setting as it is by default. -/
def ProjectSettings.load (s : Store) (env : Environment) (path : String) :
    Except Failure ProjectSettings := do
  let p := Path.ofString path
  if !s.pathExists p then throw (.fileNotFound ("Config file not found: " ++ p.toString))
  let v ← Yaml.readSettings (Text.unifyNewlines (← s.read p).toList)
  (ProjectSettings.check (env.fill (if v.holds then v else .map []))).toExcept

/-- The fields a new document takes over from the settings of its project.  Packages are added to
those every document has, and are left out when there are none to add. -/
def ProjectSettings.documentFields (s : ProjectSettings) : List (String × Value) :=
  [("mode", .str (Mode.ofTufte s.document.tufte).name),
    ("auto_sections", .bool s.document.autoSections), ("toc", .bool s.document.contents)]
  ++ (if s.document.packages.isEmpty then []
    else [("packages", Value.ofTexts (defaultPackages ++ s.document.packages))])

end TexWeave

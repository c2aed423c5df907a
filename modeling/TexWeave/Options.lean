import TexWeave.Override
import TexWeave.Settings

/-!
# Options of the command line

The command line starts from default options, which may name tools by variables of the environment,
and changes them by settings.  What may be set, and to what, a schema says; numbers and flags may
stand for texts, and some words for flags.

* `Shape`, `schema` — what may be set.
* `Options.ofOverrides` — the options that settings lead to.
-/

set_option autoImplicit false

namespace TexWeave

/-- What a setting may be: a text, which may have to be there, a flag, a list of texts, or a group
of settings. -/
inductive Shape
  | text (optional : Bool)
  | flag
  | texts
  | group (fields : List (String × Shape))

/-- Everything that may be set. -/
def schema : Shape :=
  .group [
    ("mode", .text false),
    ("verbose", .flag),
    ("quiet", .flag),
    ("script", .text true),
    ("jobname", .text false),
    ("tex_file", .text true),
    ("output", .text true),
    ("output_dir", .text false),
    ("compiler", .group [
      ("standard_engine", .text true),
      ("tufte_engine", .text true),
      ("preprocessor", .text true),
      ("extra_args", .texts)]),
    ("document", .group [
      ("tufte", .flag),
      ("auto_sections", .flag),
      ("toc", .flag),
      ("packages", .texts)])]

/-- The value of a variable, or null if there is none. -/
def Environment.value (env : Environment) (name : String) : Value :=
  Value.ofText? ((env.find? fun v ↦ v.1 == name).map (·.2))

/-- The options before any setting. -/
def defaultOptions (env : Environment) : Value :=
  .map [
    ("mode", .str "build"),
    ("verbose", .bool false),
    ("quiet", .bool false),
    ("script", .null),
    ("jobname", .str "document"),
    ("tex_file", .null),
    ("output", .null),
    ("output_dir", .str "."),
    ("compiler", .map [
      ("standard_engine", env.value "TEXDOC_STANDARD_ENGINE"),
      ("tufte_engine", env.value "TEXDOC_TUFTE_ENGINE"),
      ("preprocessor", env.value "TEXDOC_PREPROCESSOR"),
      ("extra_args", .list [])]),
    ("document", .map [
      ("tufte", .bool false),
      ("auto_sections", .bool true),
      ("toc", .bool false),
      ("packages", .list [])])]

/-! ## Values of settings -/

/-- A scalar as a text; null, lists and records are none. -/
def scalarText? : Value → Option Value
  | .null => none
  | .list _ => none
  | .map _ => none
  | v => some (.str v.plain)

/-- The words for yes and no. -/
def switchWords : List (String × Bool) :=
  [("yes", true), ("y", true), ("on", true), ("true", true),
    ("no", false), ("n", false), ("off", false), ("false", false)]

/-- A value as a flag. -/
def flagValue? : Value → Option Value
  | .bool b => some (.bool b)
  | .int n => some (.bool (n != 0))
  | .str s =>
    match Check.integerOfText? s with
    | some n => if s.contains '.' then none else some (.bool (n != 0))
    | none =>
      (switchWords.find? fun w ↦ w.1.toList == Text.asciiLower s.toList).map fun w ↦ .bool w.2
  | _ => none

/-- A value as a setting of some shape. -/
def Shape.fit? (current : Value) (v : Value) : Shape → Option Value
  | .text optional =>
    match v with
    | .null => if optional then some .null else none
    | v => scalarText? v
  | .flag => flagValue? v
  | .texts =>
    match v with
    | .list vs => (vs.mapM scalarText?).map .list
    | _ => none
  | .group _ =>
    match v with
    | .map [] => some current
    | _ => none

/-! ## Applying settings -/

/-- The value at the end of a path. -/
def Value.at? (v : Value) : List String → Option Value
  | [] => some v
  | k :: r => (v.field? k).bind fun w ↦ w.at? r

/-- The shape of a setting in a group, if it is known. -/
def Shape.field? (name : String) : Shape → Option Shape
  | .group fs => (fs.find? fun f ↦ f.1 == name).map (·.2)
  | _ => none

/-- Sets what is at the end of a path.  Where no shape is known anything may be set, but only if it
is there already or is being added. -/
def assignAt (adding : Bool) (current v : Value) : List String → Option Shape → Option Value
  | [], some shape => shape.fit? current v
  | [], none => some v
  | k :: r, shape =>
    let inner := shape.bind (Shape.field? k)
    let isGroup := match shape with
      | some (.group _) => true
      | some _ => false
      | none => true
    if isGroup && (inner.isSome || adding || (current.field? k).isSome) then
      (assignAt adding ((current.field? k).getD .null) v r inner).map fun w ↦
          .map (Value.setField k w current.fields)
    else none

mutual

/-- The paths in a value with what stands at their ends. -/
def leaves (path : List String) : Value → List (List String × Value)
  | .map (f :: r) => leavesOf path (f :: r)
  | v => [(path, v)]

/-- The paths in fields with what stands at their ends. -/
def leavesOf (path : List String) : List (String × Value) → List (List String × Value)
  | [] => []
  | f :: r => leaves (path ++ [f.1]) f.2 ++ leavesOf path r

end

/-- Whether a value is a list or a record. -/
def Value.isCollection : Value → Bool
  | .list _ => true
  | .map _ => true
  | _ => false

/-- Whether a value is there and not null. -/
def Value.isGiven : Option Value → Bool
  | none => false
  | some .null => false
  | some _ => true

/-- Options with one setting applied.  What is set already cannot be added, but lists and records
may take its place. -/
def applyOverride (options : Value) (o : Override) : Option Value :=
  if o.manner = .add && Value.isGiven (options.at? o.path) && !o.value.isCollection then none
  else (leaves o.path o.value).foldlM (fun v l ↦
    assignAt (o.manner != .replace) v l.2 l.1 (some schema)) options

/-- Everything the command line knows before it starts. -/
structure Options where
  mode : String
  verbose : Bool
  quiet : Bool
  script : Option String
  jobname : String
  markupFile : Option String
  output : Option String
  project : ProjectSettings

/-- The text in a field that is neither null nor empty. -/
def Value.text? (v : Value) (name : String) : Option String :=
  match v.field? name with
  | some (.str s) => if s.isEmpty then none else some s
  | _ => none

/-- Options as they are read out of a record. -/
def Options.ofValue (v : Value) : Except Failure Options := do
  let project ← (ProjectSettings.check v).toExcept
  return {
    mode := ((v.field? "mode").getD .null).plain
    verbose := ((v.field? "verbose").getD .null).holds
    quiet := ((v.field? "quiet").getD .null).holds
    script := v.text? "script"
    jobname := ((v.field? "jobname").getD .null).plain
    markupFile := v.text? "tex_file"
    output := v.text? "output"
    project := project }

/-- The options that settings lead to, one after another. -/
def Options.ofOverrides (env : Environment) (settings : List String) : Except Failure Options :=
  match settings.mapM Override.ofText? with
  | none => .error .brokenOverride
  | some os =>
    match os.foldlM applyOverride (defaultOptions env) with
    | none => .error .brokenOverride
    | some v => Options.ofValue v

end TexWeave

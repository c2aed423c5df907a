import TexWeave.Failure
import TexWeave.Mode

/-!
# Settings and the tools they name

The settings of a project name the tools to use and the defaults of new documents.  Tools are looked
up by name before anything else happens, and the runs of the tools are planned as a list of
commands.

* `CompilerSettings.engineFor`, `CompilerSettings.preprocessorFor` — the tools for a mode.
* `resolveTools` — where they are, or which of them is missing.
* `planPasses` — the commands, in order: engine, preprocessor if there is one, engine again.
-/

set_option autoImplicit false

namespace TexWeave

/-- The tools to use.  A name that is absent or empty leaves the choice to the mode. -/
structure CompilerSettings where
  standardEngine : Option String := none
  tufteEngine : Option String := none
  preprocessor : Option String := none
  /-- Further arguments of the engine. -/
  extraArguments : List String := []
  deriving DecidableEq, Repr, Inhabited

/-- The defaults of new documents. -/
structure DocumentDefaults where
  tufte : Bool := false
  autoSections : Bool := true
  contents : Bool := false
  /-- Packages beside those every document starts with. -/
  packages : List String := []
  deriving DecidableEq, Repr, Inhabited

/-- The settings of a project. -/
structure ProjectSettings where
  /-- The directory of everything that is written. -/
  outputDirectory : String := "."
  compiler : CompilerSettings := {}
  document : DocumentDefaults := {}
  deriving DecidableEq, Repr, Inhabited

/-- A name, or a fallback if it is absent or empty. -/
def chosen (name : Option String) (fallback : String) : String :=
  match name with
  | some n => if n.isEmpty then fallback else n
  | none => fallback

namespace CompilerSettings

/-- The engine for a mode. -/
def engineFor (s : CompilerSettings) (mode : Mode) : String :=
  chosen (match mode with
    | .tufte => s.tufteEngine
    | .standard => s.standardEngine) mode.policy.engine

/-- The preprocessor for a mode; a mode without one takes none from the settings. -/
def preprocessorFor (s : CompilerSettings) (mode : Mode) : Option String :=
  mode.policy.preprocessor.map (chosen s.preprocessor)

end CompilerSettings

/-! ## Looking tools up -/

/-- The programs that are installed: what looking up each name gives. -/
structure ToolTable where
  places : List (String × String) := []
  deriving DecidableEq, Repr, Inhabited

namespace ToolTable

/-- The table of programs that are all in one directory. -/
def ofNames (names : List String) : ToolTable := ⟨names.map fun n ↦ (n, "/usr/bin/" ++ n)⟩

instance : Coe (List String) ToolTable := ⟨ofNames⟩

/-- The path that looking up a name gives; an empty one counts as none. -/
def path? (t : ToolTable) (name : String) : Option String :=
  ((t.places.find? fun p ↦ p.1 == name).map (·.2)).filter fun path ↦ !path.isEmpty

end ToolTable

/-- Where a tool is: under its own name, or with the ending of another system's programs. -/
def findTool? (installed : ToolTable) (name : String) : Option String :=
  (installed.path? name).or (installed.path? (name ++ ".exe"))

/-- The tools of a run. -/
structure Tools where
  engine : String
  preprocessor : Option String
  deriving DecidableEq, Repr

/-- Where a tool is, or that it is missing. -/
def requireTool (installed : ToolTable) (name : String) : Except Failure String :=
  match findTool? installed name with
  | some path => .ok path
  | none => .error (.missingTool name)

/-- The tools for a mode; the engine is looked for first. -/
def resolveTools (installed : ToolTable) (mode : Mode) (settings : CompilerSettings) :
    Except Failure Tools := do
  let engine ← requireTool installed (settings.engineFor mode)
  match settings.preprocessorFor mode with
  | none => return ⟨engine, none⟩
  | some p => return ⟨engine, some (← requireTool installed p)⟩

/-! ## Planning the passes -/

/-- A command: the program and its arguments. -/
abbrev Command := List String

/-- The command that runs the engine on a job. -/
def engineCommand (engine jobname : String) (extra : List String) : Command :=
  [engine, "-interaction=nonstopmode", "-jobname=" ++ jobname] ++ extra ++ [jobname ++ ".tex"]

/-- The commands to run, in order.  A preprocessor stands between two passes of the engine. -/
def planPasses (tools : Tools) (jobname : String) (twoPasses : Bool) (extra : List String) :
    List Command :=
  let engine := engineCommand tools.engine jobname extra
  match tools.preprocessor.filter fun p ↦ !p.isEmpty with
  | some p => [engine, [p, jobname], engine]
  | none => if twoPasses then [engine, engine] else [engine]

end TexWeave

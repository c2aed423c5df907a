import TexWeave.CommandLine

/-!
# The program

Settings come as arguments, and variables from the environment.  The files that the settings name
are read first; what the command line then leaves in its world is written.  Tools are not started
here, every run of one counts as a success: the program shows what a build does and writes the
markup for it.
-/

set_option autoImplicit false

namespace TexWeave
namespace Program

/-- The variables that settings look at. -/
def variableNames : List String :=
  ["TEXDOC_STANDARD_ENGINE", "TEXDOC_TUFTE_ENGINE", "TEXDOC_PREPROCESSOR"]

/-- The variables that are there. -/
def environment : IO Environment := do
  let found ← variableNames.mapM fun name ↦ do return (name, ← IO.getEnv name)
  return found.filterMap fun v ↦ v.2.map fun value ↦ (v.1, value)

/-- The text of a file, if it can be read. -/
def textAt? (path : String) : IO (Option String) :=
  tryCatch (some <$> IO.FS.readFile path) fun _ ↦ return none

/-- The files that options name. -/
def named (o : Options) : List String :=
  o.script.toList ++ (o.markupFile.toList.flatMap fun file ↦
    let path := Path.ofString file
    [file, (path.parent.join (path.stem ++ ".log")).toString])

/-- The store that options start from. -/
def initialStore (o : Options) : IO Store := do
  (named o).foldlM (fun s path ↦ do
    return ((← textAt? path).map (s.supply path)).getD s) {}

/-- Writes the files that were not there before, or held something else. -/
def writeBack (before after : Store) : IO Unit := do
  for f in after.listing do
    if !before.listing.contains f then
      IO.FS.createDirAll (Path.ofString f.1).parent.toString
      IO.FS.writeFile f.1 f.2

/-- Runs a command whose script is given as an operation on a studio. -/
def run (script : Authoring Unit) (arguments : List String) : IO UInt32 := do
  match Options.ofOverrides (← environment) arguments with
  | .error _ =>
    IO.eprintln "These settings cannot be read."
    return 1
  | .ok o =>
    let store ← initialStore o
    let start : Studio := { world := { store := store } }
    let (result, studio) := (CommandLine.run o script).run start
    IO.print studio.world.console
    writeBack store studio.world.store
    match result with
    | .ok status => return status.toNat.toUInt32
    | .error f =>
      IO.eprintln f.message
      return 1

end Program
end TexWeave

/-- The program, with a script that adds nothing. -/
def main (arguments : List String) : IO UInt32 :=
  TexWeave.Program.run (return ()) arguments

import TexWeave.Console.Report
import TexWeave.Options
import TexWeave.Session

/-!
# The command line

The command line builds a document, renders it, or compiles markup that is there already.  To build
or render, a document is made current, the author's script runs, and the document that is current
then is used.

* `CommandLine.run` — runs a command and gives its exit status.
-/

set_option autoImplicit false

namespace TexWeave
namespace CommandLine

/-- Shows a text that may have tags. -/
def say (s : String) : Authoring Unit := Authoring.building (Console.say s)

/-- The session of scripts. -/
def scriptSession : String := ""

/-- The status of a command that failed. -/
def failed : Int := 1

/-- The status of a command that did what it should. -/
def succeeded : Int := 0

/-- Shows why a command cannot go on. -/
def refuse (s : String) : Authoring Int := do
  say ("[red]" ++ s ++ "[/]")
  return failed

/-- The documents of scripts hold no plots before the script runs. -/
def noPlots : PlotReader := .other

/-- Runs the script and goes on with the document it leaves current. -/
def withScript (o : Options) (script : Authoring Unit) (next : Document → Authoring Int) :
    Authoring Int := do
  match o.script with
  | none => refuse "script is required for this mode"
  | some s =>
    let path := Path.ofString s
    if !(← get).world.store.pathExists path then
      refuse ("Script not found: " ++ path.toString)
    else
      let fields := ("jobname", .str o.jobname) :: o.project.documentFields
      let _ ← Authoring.create noPlots scriptSession (.map fields)
      script
      let d ← Authoring.document (← Authoring.resolve scriptSession none)
      say ("[dim]" ++ d.jobname ++ ":[/] " ++ toString d.entries.length ++ " entries")
      next d

/-- Builds the document of a script. -/
def build (o : Options) (script : Authoring Unit) : Authoring Int :=
  withScript o script fun d ↦ do
    say ("[bold]Compiling " ++ d.jobname ++ " (" ++ d.mode.name ++ ")...[/]")
    let axes := (← get).axes
    let r ← Authoring.building (generate axes d o.project.outputDirectory o.project.compiler)
    Authoring.building (Console.report r)
    return succeeded

/-- Writes the markup of the document of a script to a file or, without one, to the console. -/
def render (o : Options) (script : Authoring Unit) : Authoring Int :=
  withScript o script fun d ↦ do
    let markup ← Authoring.known (d.render (← get).axes)
    match o.output with
    | some file =>
      let s ← Authoring.known ((← get).world.store.write (Path.ofString file) markup)
      modify fun t ↦ { t with world := { t.world with store := s } }
      say ("[green]Written to " ++ file ++ "[/]")
    | none => Authoring.building (Console.showVerbatim markup)
    return succeeded

/-- Compiles markup that is there already. -/
def compile (o : Options) : Authoring Int := do
  match o.markupFile with
  | none => refuse "tex_file is required for compile mode"
  | some file =>
    let mode := Mode.ofTufte o.project.document.tufte
    let r ← Authoring.building (compileFile file mode o.project.compiler)
    Authoring.building (Console.report r)
    return succeeded

/-- The names of what the command line can do. -/
def actions : List String := ["build", "render", "compile"]

/-- Does what the options ask for. -/
def perform (o : Options) (script : Authoring Unit) : Authoring Int :=
  match o.mode with
  | "build" => build o script
  | "render" => render o script
  | _ => compile o

/-- Runs a command.  Failures that concern the author are shown; others are passed on. -/
def run (o : Options) (script : Authoring Unit) : Authoring Int := do
  if !actions.contains o.mode then
    refuse ("Unknown mode: " ++ Text.quoted o.mode ++ ". Choose from: "
      ++ Text.joinWith ", " actions)
  else
    tryCatch (perform o script) fun f ↦ do
      match f.reported? with
      | none => throw f
      | some name =>
        say ("[bold red]" ++ name ++ ":[/] " ++ Console.escape f.message)
        return failed

end CommandLine
end TexWeave

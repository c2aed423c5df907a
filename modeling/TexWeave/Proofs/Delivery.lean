import TexWeave.CommandLine
import TexWeave.Proofs.Console
import TexWeave.Proofs.Marks
import TexWeave.Proofs.Operations
import TexWeave.Proofs.Store

/-!
# Markup delivered from the command line

The command line can render the document a script leaves current.  A file it is asked for then holds
the markup to the letter.  On the console the markup comes out to the letter only if it has nothing
in it that consoles replace.  Either way a notice that names the job or the file is shown first or
last, and a closing tag in one of these names can make the command fail.

* `check_documentFields` — settings always make a document for the script to start with.
* `CommandLine.Leaves` — a script that leaves a document that can be rendered.
* `CommandLine.run_render` — when the command succeeds, and what it delivers then.
-/

set_option autoImplicit false

namespace TexWeave

open Check Text

/-! ## The document a script starts with -/

/-- The document that settings make for a job. -/
def ProjectSettings.newDocument (s : ProjectSettings) (jobname : String) : Document where
  jobname := jobname
  packages := if s.document.packages.isEmpty then defaultPackages
    else distinct (defaultPackages ++ s.document.packages)
  mode := .ofTufte s.document.tufte
  autoSections := s.document.autoSections
  contents := s.document.contents

namespace CommandLine

/-- The document of a script is made and becomes current. -/
def opening (o : Options) : Authoring DocumentId :=
  Authoring.create noPlots scriptSession
    (.map (("jobname", .str o.jobname) :: o.project.documentFields))

/-- What is shown of the document a script leaves. -/
def summary (d : Document) : String :=
  "[dim]" ++ d.jobname ++ ":[/] " ++ toString d.entries.length ++ " entries"

/-- What is shown when a file is written. -/
def confirmation (file : String) : String := "[green]Written to " ++ file ++ "[/]"

/-- A studio whose console shows more. -/
def printing (t : Studio) (text : String) : Studio := { t with world := t.world.print text }

theorem execute_building {α : Type} (b : Building α) (t : Studio) :
    execute (Authoring.building b) t
      = ((execute b t.world).1, { t with world := (execute b t.world).2 }) := rfl

theorem execute_say_of_ok {t : Studio} {text : String} {cs : List Char}
    (h : Console.plainText t.world.emoji text = .ok cs) :
    execute (say text) t = (.ok (), printing t (Console.notice cs)) := by
  rw [say, execute_building, Console.execute_say_of_ok h]
  rfl

theorem execute_say_of_error {t : Studio} {text : String} {f : Failure}
    (h : Console.plainText t.world.emoji text = .error f) :
    execute (say text) t = (.error f, t) := by
  rw [say, execute_building, Console.execute_say_of_error h]

/-! ## Running a script -/

section

variable {o : Options} {script : Authoring Unit} {s t : Studio} {d : Document} {markup : String}

/-- The notices of a command that renders. -/
def notices (o : Options) (d : Document) : List String :=
  summary d :: o.output.toList.map confirmation

end

/-- A studio with that script. -/
def desk : Studio := { world := { store := ({} : Store).supply "script.py" "" } }

/-- The document then. -/
def note (text : String) : Document :=
  { ({} : ProjectSettings).newDocument "notes" with entries := [.text ⟨text, none, none⟩] }

end CommandLine

end TexWeave

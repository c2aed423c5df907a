import TexWeave.Log
import TexWeave.Reference
import TexWeave.World

/-!
# Building a document

A build resolves its tools, renders the document, writes the markup, runs the planned commands until
one fails, and reads the log.  Everything that can fail without a trace comes first: a missing tool
or a plot that cannot be rendered leaves the files as they were.

* `writeMarkup` — writes the markup of a job.
* `runPasses` — runs commands until one ends with a status other than zero.
* `generate` — the whole build of a document.
* `compileFile` — the same for a file that is there already.
-/

set_option autoImplicit false

namespace TexWeave

/-- A computation that changes the world and may fail; what it has done by then stays done. -/
abbrev Building := ExceptT Failure (StateM World)

/-- What a build that ran to its end reports. -/
structure BuildResult where
  success : Bool
  markupPath : String
  outputPath : Option String := none
  /-- The commands that were run. -/
  passes : List Command := []
  errors : List Message := []
  warnings : List Message := []
  unresolved : List String := []
  deriving DecidableEq, Repr, Inhabited

/-- The name under which builds keep records. -/
def buildSource : String := "texdocument.compiler"

/-- Records a message of a build. -/
def noteBuild (level : Level) (message : String) : Building Unit :=
  modify fun w ↦ w.note level buildSource message

/-- How much of a tool's output a failure quotes. -/
def tailLength : Nat := 2000

/-- The last `n` characters of a text, or all of them. -/
def lastChars (n : Nat) (s : String) : String :=
  String.ofList (s.toList.drop (s.length - n))

/-- The end of what a tool wrote, on both of its streams. -/
def Outcome.tail (o : Outcome) : String := lastChars tailLength (o.stdout ++ o.stderr)

/-- Writes the markup of a job into a directory, which is created if need be. -/
def writeMarkup (content : String) (directory : Path) (jobname : String) : Building Path := do
  let w ← get
  let s ← liftExcept (w.store.makeDirectories directory)
  set { w with store := s }
  let path := directory.join (jobname ++ ".tex")
  let t ← liftExcept (s.write path content)
  modify fun w ↦ { w with store := t }
  noteBuild .info ("Wrote " ++ path.toString)
  return path
where
  /-- A result that is known already. -/
  liftExcept {α : Type} (r : Except Failure α) : Building α := ExceptT.mk (pure r)

/-- What is recorded before a pass. -/
def passNote (directory : String) (total number : Nat) (c : Command) : String :=
  "Compile pass " ++ toString number ++ "/" ++ toString total ++ ": "
    ++ Text.joinWith " " c ++ " (in " ++ directory ++ ")"

/-- What is recorded of a command that failed. -/
def failureNote (c : Command) (outcome : Outcome) : String :=
  c.headD "" ++ " output (last " ++ toString tailLength ++ " chars):\n" ++ outcome.tail

/-- Runs the commands that are left, `number` being the next and `total` their count. -/
def runFrom (directory : String) (total number : Nat) : List Command → Building Unit
  | [] => return ()
  | c :: r => do
    noteBuild .info (passNote directory total number c)
    let outcome ← modifyGet fun w ↦ w.run c directory
    if outcome.exitCode = 0 then runFrom directory total (number + 1) r
    else
      noteBuild .info (failureNote c outcome)
      throw (.compilation outcome.exitCode outcome.tail c)

/-- Runs commands in a directory and stops at the first that fails. -/
def runPasses (passes : List Command) (directory : String) : Building Unit :=
  runFrom directory passes.length 1 passes

/-- What the log at a path says; nothing if there is none. -/
def readLog (s : Store) (path : Path) : Except Failure LogReport :=
  if s.pathExists path then (s.read path).map LogReport.ofText else .ok {}

/-- What is reported of a job whose passes all ended well and whose log says what is given. -/
def BuildResult.ofLog (directory : Path) (jobname : String) (passes : List Command)
    (log : LogReport) : BuildResult where
  success := true
  markupPath := (directory.join (jobname ++ ".tex")).toString
  outputPath := some (directory.join (jobname ++ ".pdf")).toString
  passes := passes
  errors := log.errors
  warnings := log.warnings
  unresolved := log.unresolved

/-- The report on the runs of a job. -/
def buildResult (directory : Path) (jobname : String) (passes : List Command) :
    Building BuildResult := do
  let log ← ExceptT.mk (pure (readLog (← get).store (directory.join (jobname ++ ".log"))))
  if !log.unresolved.isEmpty then
    noteBuild .warning ("Unresolved references after " ++ toString passes.length ++ " passes: "
      ++ Text.joinWith ", " log.unresolved)
  return .ofLog directory jobname passes log

/-- Whether the engine runs twice on a document with the markup given. -/
def Document.twoPasses (d : Document) (markup : String) : Bool :=
  d.mode.policy.alwaysTwoPasses || d.needsSecondPassWith markup

/-- Builds a document into a directory. -/
def generate (axes : Axes) (d : Document) (directory : String) (settings : CompilerSettings) :
    Building BuildResult := do
  let tools ← ExceptT.mk (pure (resolveTools (← get).installed d.mode settings))
  let markup ← ExceptT.mk (pure (d.render axes))
  let out := Path.ofString directory
  let _ ← writeMarkup markup out d.jobname
  let passes := planPasses tools d.jobname (d.twoPasses markup) settings.extraArguments
  runPasses passes out.toString
  buildResult out d.jobname passes

/-- Runs the passes on a file that is there already.  Its content is not looked at, so the engine
always runs twice. -/
def compileFile (file : String) (mode : Mode) (settings : CompilerSettings) :
    Building BuildResult := do
  let path := Path.ofString file
  if !(← get).store.pathExists path then
    throw (.fileNotFound (path.toString ++ " not found"))
  let tools ← ExceptT.mk (pure (resolveTools (← get).installed mode settings))
  let passes := planPasses tools path.stem true settings.extraArguments
  runPasses passes path.parent.toString
  buildResult path.parent path.stem passes

end TexWeave

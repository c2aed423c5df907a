import TexWeave.Console.Emoji
import TexWeave.Store
import TexWeave.Toolchain

/-!
# The world of a build

A build looks tools up, runs them, reads and writes files, and keeps a record of what it does.  The
outcome of every run of a tool is given beforehand, so that a build is a function of its world.

* `World.run` — runs one command.
* `World.note` — records a message.
* `World.print` — puts text on the console.
-/

set_option autoImplicit false

namespace TexWeave

/-- How one run of a tool ends, and the files it leaves. -/
structure Outcome where
  exitCode : Int := 0
  stdout : String := ""
  stderr : String := ""
  files : List (String × String) := []
  deriving DecidableEq, Repr, Inhabited

/-- How much a message matters. -/
inductive Level
  | debug
  | info
  | warning
  | error
  deriving DecidableEq, Repr, Inhabited

namespace Level

/-- The written name of a level. -/
def name : Level → String
  | .debug => "DEBUG"
  | .info => "INFO"
  | .warning => "WARNING"
  | .error => "ERROR"

/-- The order of the levels. -/
def rank : Level → Nat
  | .debug => 0
  | .info => 1
  | .warning => 2
  | .error => 3

/-- The least level that is shown.  Asking for more outweighs asking for less. -/
def threshold (verbose quiet : Bool) : Level :=
  if verbose then .debug else if quiet then .error else .info

end Level

/-- A recorded message with the part of the program it comes from. -/
structure Record where
  level : Level
  source : String
  message : String
  deriving DecidableEq, Repr, Inhabited

/-- A command that was run, where, and the files it found when it started. -/
structure Call where
  command : Command
  directory : String
  found : Store
  deriving DecidableEq, Repr, Inhabited

/-- Files, installed tools, the outcomes of the runs to come, the runs so far, the record, what the
console shows, and the emoji it knows by name. -/
structure World where
  store : Store := {}
  installed : ToolTable := ["pdflatex", "lualatex", "pythontex"]
  outcomes : List Outcome := []
  calls : List Call := []
  records : List Record := []
  console : String := ""
  emoji : Console.EmojiTable := Console.commonEmoji
  deriving DecidableEq, Repr, Inhabited

namespace World

/-- The world with one more message on record. -/
def note (w : World) (level : Level) (source message : String) : World :=
  { w with records := w.records ++ [⟨level, source, message⟩] }

/-- The world with more on its console. -/
def print (w : World) (text : String) : World := { w with console := w.console ++ text }

/-- Runs a command in a directory.  When no outcome is left the run succeeds in silence. -/
def run (w : World) (command : Command) (directory : String) : Outcome × World :=
  let outcome := w.outcomes.headD {}
  (outcome, { w with
    outcomes := w.outcomes.tail
    calls := w.calls ++ [⟨command, directory, w.store⟩]
    store := outcome.files.foldl (fun s f ↦ s.supply f.1 f.2) w.store })

/-- The messages of at least a level. -/
def recordsFrom (w : World) (threshold : Level) : List Record :=
  w.records.filter fun r ↦ threshold.rank ≤ r.level.rank

end World

end TexWeave

import TexWeave.Build
import TexWeave.Console.Table
import TexWeave.Console.Tag

/-!
# What the console shows

Console text is shown without its tags, in lines that fit.  The report on a build is a table of its
passes, the place of its output, and what the log warned of.

* `say` — shows a text that may have tags.
* `showVerbatim` — shows a text as it is, in lines of any width.
* `report` — the report on a build.
-/

set_option autoImplicit false

namespace TexWeave
namespace Console

/-- Shows lines. -/
def showLines (ls : List (List Char)) : Building Unit :=
  modify fun w ↦ w.print (String.ofList (ls.flatMap fun l ↦ l ++ ['\n']))

/-- A result that is known already. -/
def settled {α : Type} (r : Except Failure α) : Building α := ExceptT.mk (pure r)

/-- Shows a text that may have tags. -/
def say (s : String) : Building Unit := do
  let cs ← settled (plainText (← get).emoji s)
  showLines (wrap .fold consoleWidth cs)

/-- Shows a text as it is. -/
def showVerbatim (s : String) : Building Unit := do
  showLines ((Text.splitAt '\n' (verbatim (← get).emoji s)).map expandTabs)

/-- The rows of the table of passes, which are numbered from one. -/
def passRows (emoji : EmojiTable) (passes : List Command) :
    Except Failure (List (List Char × List Char)) :=
  passes.zipIdx.mapM fun (c, i) ↦ do
    return ((toString (i + 1)).toList, ← plainText emoji (Text.joinWith " " c))

/-- The report on a build. -/
def report (r : BuildResult) : Building Unit := do
  let rows ← settled (passRows (← get).emoji r.passes)
  showLines (tableLines "Compiler passes".toList ("#".toList, "Command".toList) rows)
  match r.outputPath with
  | some p => if !p.isEmpty then say ("[green]PDF:[/] " ++ p)
  | none => pure ()
  for m in r.warnings do
    say ("  [yellow]WARNING:[/] " ++ m.message)
  if !r.unresolved.isEmpty then
    say ("  [yellow]Unresolved references:[/] " ++ Text.joinWith ", " r.unresolved)

end Console
end TexWeave

import TexWeave.Command
import TexWeave.Failure
import TexWeave.Text.Blank
import TexWeave.Text.Lines

/-!
# Plots

A plot offers two things: the markup to embed, and the packages that markup needs.

An axis gathers plots and may be shared: several figures, and other axes, can embed the same one,
and what is pushed onto it later shows in all of them.  So axes live in a table, and a plot that is
an axis holds its place there.

* `Curve.markup`, `Plot.markup` — the markup.
* `Plot.packages` — the packages.
-/

set_option autoImplicit false

namespace TexWeave

/-- One curve, given by an expression or by its points.  Points are untyped until they are
written. -/
structure Curve where
  coordinates : List Value := []
  expression : Option String := none
  options : String := ""
  legend : Option String := none
  deriving Inhabited

/-- What a figure shows.  `axis` holds a place in the table of axes, `picture` the drawing commands
of a finished picture, and `other` is any value that is no plot at all. -/
inductive Plot
  | curve (c : Curve)
  | axis (place : Nat)
  | raw (markup : String) (packages : Option (List String))
  | picture (drawing : String)
  | other (value : Value)
  deriving Inhabited

/-- An axis with the plots pushed onto it so far. -/
structure Axis where
  plots : List Plot := []
  options : String := ""
  environment : String := "axis"
  deriving Inhabited

/-- The table of axes. -/
abbrev Axes := Array Axis

/-! ## Points -/

/-- One coordinate, with six significant digits. -/
def coordinateText : Value → Except Failure String
  | .bool b => .ok (if b then "1" else "0")
  | .int n =>
    match Binary64.ofInt n with
    | .infinite _ => .error (.coordinate .tooLarge)
    | x => .ok x.generalText
  | .float x => .ok x.generalText
  | .str _ => .error (.coordinate .textual)
  | v => .error (.coordinate (.shapeless v.sortName))

/-- The two members of a point. -/
def pairOf : List Value → Except Failure (Value × Value)
  | [x, y] => .ok (x, y)
  | [] => .error (.coordinate (.tooFew 0))
  | [_] => .error (.coordinate (.tooFew 1))
  | _ => .error (.coordinate .tooMany)

/-- The two members of a point as it was given; a text counts as its characters. -/
def pointOf : Value → Except Failure (Value × Value)
  | .list items => pairOf items
  | .str s => pairOf (s.toList.map fun c ↦ .str c.toString)
  | .map fields => pairOf (fields.map fun f ↦ .str f.1)
  | v => .error (.coordinate (.unpaired v.sortName))

/-- One point in parentheses. -/
def pointText (v : Value) : Except Failure String := do
  let (x, y) ← pointOf v
  let x ← coordinateText x
  let y ← coordinateText y
  return "(" ++ x ++ "," ++ y ++ ")"

/-- The points of a curve, separated by spaces. -/
def pointsText (vs : List Value) : Except Failure String := do
  return Text.joinWith " " (← vs.mapM pointText)

/-! ## Markup -/

/-- What a curve plots: its expression if it has one, else its points. -/
def Curve.subject (c : Curve) : Except Failure String :=
  match c.expression with
  | some e => .ok (" " ++ braced e)
  | none => do return " coordinates " ++ braced (← pointsText c.coordinates)

/-- The legend entry on a line of its own, if there is one. -/
def Curve.legendLine (c : Curve) : String :=
  match c.legend with
  | some l => if l.isEmpty then "" else "\n" ++ command "addlegendentry" l
  | none => ""

/-- The markup of a curve. -/
def Curve.markup (c : Curve) : Except Failure String := do
  return "\\addplot" ++ optional c.options ++ (← c.subject) ++ ";" ++ c.legendLine

/-- The lines of an axis around the markup of its plots. -/
def Axis.frame (a : Axis) (plots : List String) : String :=
  Text.joinLines
    ([beginEnvironment "tikzpicture", beginEnvironment a.environment ++ optional a.options]
      ++ plots ++ [endEnvironment a.environment, endEnvironment "tikzpicture"])

namespace Plot

/-- The name of the sort of a plot. -/
def sortName : Plot → String
  | .curve _ => "Plot"
  | .axis _ => "Axis"
  | .raw .. => "RawPlot"
  | .picture _ => "MatplotlibFigure"
  | .other v => v.sortName

/-- The packages a plot needs; nothing if it does not say. -/
def packages? : Plot → Option (List String)
  | .curve _ => some ["pgfplots"]
  | .axis _ => some ["pgfplots"]
  | .raw _ packages => packages
  | .picture _ => some ["pgf"]
  | .other _ => none

/-- The packages a plot needs. -/
def packages (p : Plot) : List String := p.packages?.getD []

/-- The markup of a plot, when axes stand at most `depth` deep in one another. -/
def markupWithin (axes : Axes) : Nat → Plot → Except Failure String
  | _, .curve c => c.markup
  | _, .raw markup _ => .ok markup
  | _, .picture drawing => .ok (Text.dropNewlines drawing)
  | _, .other v => .error (.noAttribute v.sortName "to_tex")
  | 0, .axis _ => .error .endlessPlot
  | depth + 1, .axis place =>
    let a := axes[place]?.getD {}
    do return a.frame (← a.plots.mapM (markupWithin axes depth))

/-- The markup of a plot.  Axes that do not contain themselves stand at most as deep in one another
as there are axes. -/
def markup (axes : Axes) (p : Plot) : Except Failure String := p.markupWithin axes axes.size

end Plot

end TexWeave

import TexWeave.Check.Entry
import TexWeave.Proofs.Contents
import TexWeave.Proofs.Margins

/-!
# One document in both modes

A document in standard mode that can be rendered can be rendered in tufte mode as well.  The two
bodies are the same entry by entry, but for what frames a listing and what frames a figure that
names no type of its own.  What stands inside a frame is settled without the mode.

* `Restyled` — the lines of one entry in both modes.
* `exists_restyled` — an entry with lines in standard mode has such lines in tufte mode.
* `Document.body_inMode` — the two bodies, and the way back.
-/

set_option autoImplicit false

namespace TexWeave

open Text

/-! ## Entries -/

/-- The optional argument of a figure: the position it names, or else the one given. -/
def positionOr (e : FigureEntry) (default : String) : String :=
  (nonempty? e.position).elim default fun p ↦ "[" ++ p ++ "]"

/-- The lines of an entry in standard mode and in tufte mode. -/
inductive Restyled : Entry → List String → List String → Prop
  /-- Prose without a block has one line. -/
  | prose {e : TextEntry} (h : e.source = none) : Restyled (.text e) [e.text] [e.text]
  /-- The block of prose is framed anew. -/
  | block {e : TextEntry} {s : String} (h : e.source = some s) : Restyled (.text e)
      ([e.text] ++ [beginEnvironment "lstlisting", s, endEnvironment "lstlisting"])
      ([e.text] ++ [beginEnvironment "pygments" ++ braced "python", s, endEnvironment "pygments"])
  /-- So is the source of code. -/
  | code (e : CodeEntry) {description : List String}
      (h : description = if e.description.isEmpty then [] else [e.description]) :
      Restyled (.code e)
        (description
          ++ [beginEnvironment "lstlisting", e.source, endEnvironment "lstlisting"])
        (description
          ++ [beginEnvironment "pygments" ++ braced "python", e.source, endEnvironment "pygments"])
  /-- A figure with a type of its own stays as it is. -/
  | placed {e : FigureEntry} {kind : FigureType} (h : e.figureType = some kind)
      (ls : List String) : Restyled (.figure e) ls ls
  /-- Any other moves into the margin, with its caption, its label and its plot. -/
  | unplaced {e : FigureEntry} (h : e.figureType = none) (inner : List String) :
      Restyled (.figure e)
        ((beginEnvironment "figure" ++ positionOr e "[htbp]") :: "\\centering" :: inner
          ++ [endEnvironment "figure"])
        ((beginEnvironment "marginfigure" ++ positionOr e "") :: inner
          ++ [endEnvironment "marginfigure"])

section

variable {axes : Axes} {n : Nat} {e : Entry} {ls ls' : List String}

theorem placementOption_eq (kind : FigureType) (e : FigureEntry) :
    placementOption kind e = positionOr e (if kind = .margin then "" else "[htbp]") := by
  rw [placementOption, positionOr]
  cases nonempty? e.position <;> rfl

/-- A figure that names no type, in the modes' own types for it. -/
theorem restyled_figureLines {e : FigureEntry} (h : e.figureType = none) (n : Nat)
    (plot : String) :
    Restyled (.figure e) (figureLines .float e n plot) (figureLines .margin e n plot) := by
  have hbegin (kind : FigureType) (hkind : kind ≠ .inline) : figureBegin kind e
      = beginEnvironment kind.name ++ positionOr e (if kind = .margin then "" else "[htbp]") := by
    rw [figureBegin, if_neg hkind, placementOption_eq]
  rw [figureLines, figureLines, hbegin _ (by decide), hbegin _ (by decide)]
  exact .unplaced h _

/-- **An entry with lines in standard mode has lines in tufte mode**, the same but for frames. -/
theorem exists_restyled (h : contentLines .standard axes n e = .ok ls) :
    ∃ ls', contentLines .tufte axes n e = .ok ls' ∧ Restyled e ls ls' := by
  cases e with
  | text e =>
    obtain rfl := Except.ok.inj h
    refine ⟨_, rfl, ?_⟩
    cases hsource : e.source with
    | none => exact .prose hsource
    | some s => exact .block hsource
  | code e =>
    obtain rfl := Except.ok.inj h
    exact ⟨_, rfl, .code e rfl⟩
  | figure e =>
    obtain ⟨kind, hkind, plot, hplot, rfl⟩ := contentLines_figure_eq_ok.1 h
    -- tufte mode refuses no type, so only the type itself is left to be found
    have htufte (kind : FigureType) (h : e.figureType.getD .margin = kind) :
        contentLines .tufte axes n (.figure e) = .ok (figureLines kind e n plot) :=
      contentLines_figure_eq_ok.2
        ⟨kind, figureTypeIn_eq_ok.2 ⟨h, nofun⟩, plot, hplot, rfl⟩
    obtain ⟨rfl, _⟩ := figureTypeIn_eq_ok.1 hkind
    cases htype : e.figureType with
    | none => exact ⟨_, htufte .margin (by rw [htype]; rfl), restyled_figureLines htype n plot⟩
    | some kind => exact ⟨_, htufte kind (by rw [htype]; rfl), .placed htype _⟩

/-- Each of these blocks ends alike in both modes, whatever stands in front. -/
theorem Restyled.endsAlike (h : Restyled e ls ls') (heading : List String) :
    EndsAlike (endLines (heading ++ ls ++ [""])) (endLines (heading ++ ls' ++ [""])) := by
  cases h with
  | prose h => exact .same _
  | @block e s h =>
    rw [← List.append_assoc, ← List.append_assoc]
    exact .listing _ _ .standard .tufte s
  | @code e description h =>
    rw [← List.append_assoc, ← List.append_assoc]
    exact .listing _ _ .standard .tufte e.source
  | placed h ls => exact .same _
  | unplaced h inner =>
    rw [← List.append_assoc, ← List.append_assoc]
    exact .closed _ _ "figure" "marginfigure"

end

/-! ## Documents -/

/-- The lines of a planned entry in standard mode and in tufte mode. -/
def LinesInBoth (axes : Axes) (step : Nat × SectionStep) (p : List String × List String) : Prop :=
  contentLines .standard axes step.1 step.2.entry = .ok p.1
    ∧ contentLines .tufte axes step.1 step.2.entry = .ok p.2
    ∧ Restyled step.2.entry p.1 p.2

namespace Document

variable {axes : Axes} {d : Document}

/-- The document in a mode. -/
def inMode (d : Document) (mode : Mode) : Document := { d with mode := mode }

/-- If planned entries have lines in standard mode, they have them in both. -/
theorem exists_linesInBoth {steps : List (Nat × SectionStep)} {cs : List (List String)}
    (h : List.Forall₂ (fun step ls ↦ contentLines .standard axes step.1 step.2.entry = .ok ls)
      steps cs) : ∃ ps, List.Forall₂ (LinesInBoth axes) steps ps := by
  induction h with
  | nil => exact ⟨[], .nil⟩
  | cons hls _ ih =>
    obtain ⟨ls', hls', hrestyled⟩ := exists_restyled hls
    obtain ⟨ps, hps⟩ := ih
    exact ⟨(_, ls') :: ps, .cons ⟨hls, hls', hrestyled⟩ hps⟩

/-- No figure is out of place in tufte mode. -/
theorem exists_preamble_tufte (d : Document) : ∃ text, (d.inMode .tufte).preamble = .ok text := by
  cases h : (d.inMode .tufte).preamble with
  | ok text => exact ⟨text, rfl⟩
  | error f => exact nomatch (preamble_eq_error.1 h).1.1

/-- **One document in both modes.**  Both bodies of a document that can be rendered in standard mode
have the same headings and the same numbers of figures, and between them the lines of the entries,
restyled.  At the end of both the same line feeds are dropped.  The whole document can be rendered
in tufte mode too; and a document switched there and back, by either of the names the mode is set
by, is the one it was, with the text it had. -/
theorem body_inMode {text : String} (h : (d.inMode .standard).render axes = .ok text) :
    let standard := d.inMode .standard
    let tufte := d.inMode .tufte
    ∃ body body' ps k, standard.body axes = .ok body ∧ tufte.body axes = .ok body'
      ∧ standard.plan = d.plan ∧ tufte.plan = d.plan
      ∧ List.Forall₂ (LinesInBoth axes) d.plan ps
      ∧ String.join ((d.plan.zip ps).map fun q ↦ endLines (headingLines q.1.2 ++ q.2.1 ++ [""]))
          = body ++ newlines k
      ∧ String.join ((d.plan.zip ps).map fun q ↦ endLines (headingLines q.1.2 ++ q.2.2 ++ [""]))
          = body' ++ newlines k
      ∧ ¬ ['\n'] <:+ body.toList ∧ ¬ ['\n'] <:+ body'.toList
      ∧ (∃ text', tufte.render axes = .ok text')
      ∧ ∀ plotOf, standard.assign plotOf "mode" (.str "tufte") = .ok tufte
        ∧ standard.assign plotOf "tufte" (.bool true) = .ok tufte
        ∧ tufte.assign plotOf "mode" (.str "standard") = .ok standard
        ∧ tufte.assign plotOf "tufte" (.bool false) = .ok standard := by
  intro standard tufte
  obtain ⟨cs, hcs⟩ := exists_entryLines_of_render h
  obtain ⟨ps, hps⟩ := exists_linesInBoth (entryLines_eq_ok.1 hcs)
  have hstandard := blocks_of_forall₂ (d := standard) (f := Prod.fst) (hps.imp fun _ _ hp ↦ hp.1)
  have htufte := blocks_of_forall₂ (d := tufte) (f := Prod.snd) (hps.imp fun _ _ hp ↦ hp.2.1)
  obtain ⟨body, body', k, hbody, hbody', hk, hk', hlast, hlast'⟩ :=
    exists_bodies hstandard htufte fun q hq ↦ (List.forall₂_zip hps hq).2.2.endsAlike _
  obtain ⟨preamble, hpreamble⟩ := exists_preamble_tufte d
  exact ⟨body, body', ps, k, hbody, hbody', rfl, rfl, hps, hk, hk', hlast, hlast',
    ⟨_, render_eq_ok.2 ⟨preamble, body', hpreamble, hbody', rfl⟩⟩,
    fun plotOf ↦ ⟨rfl, rfl, rfl, rfl⟩⟩

/-- A figure without a type of its own, prose with a block, code, and a figure with a type. -/
def curveNotes : Document where
  entries := [
    .figure { plot := .raw "\\draw (0,0);" none, caption := "Side." },
    .text { text := "Points.", heading := some "Data", source := some "x,y" },
    .code ⟨"A sum.", "s = 1", "Sum", "sum"⟩,
    .figure { plot := .raw "\\draw (1,1);" none, figureType := some .wide }]

/-- The first figure moves into the margin. -/
theorem body_inMode_of_curveNotes :
    ∃ text, (curveNotes.inMode .standard).render #[] = .ok text
      ∧ ∃ (body body' : String) (p : List String × List String) (ps : List _) (k : Nat),
        (curveNotes.inMode .standard).body #[] = .ok body
        ∧ (curveNotes.inMode .tufte).body #[] = .ok body'
        ∧ String.join ((curveNotes.plan.zip (p :: ps)).map fun q ↦
            endLines (headingLines q.1.2 ++ q.2.1 ++ [""])) = body ++ newlines k
        ∧ String.join ((curveNotes.plan.zip (p :: ps)).map fun q ↦
            endLines (headingLines q.1.2 ++ q.2.2 ++ [""])) = body' ++ newlines k
        ∧ p.1 = ["\\begin\x7bfigure\x7d[htbp]", "\\centering", "\\draw (0,0);",
          "\\caption\x7bSide.\x7d", "\\label\x7bfig:1\x7d", "\\end\x7bfigure\x7d"]
        ∧ p.2 = ["\\begin\x7bmarginfigure\x7d", "\\draw (0,0);", "\\caption\x7bSide.\x7d",
          "\\label\x7bfig:1\x7d", "\\end\x7bmarginfigure\x7d"] := by
  obtain ⟨text, h⟩ : ∃ text, (curveNotes.inMode .standard).render #[] = .ok text := ⟨_, rfl⟩
  obtain ⟨body, body', ps, k, hbody, hbody', _, _, hps, hk, hk', _⟩ := body_inMode h
  obtain ⟨first, rest, hplan⟩ : ∃ first rest, curveNotes.plan = first :: rest := ⟨_, _, rfl⟩
  obtain ⟨p, ps, ⟨hstandard, htufte, _⟩, _, rfl⟩ := List.forall₂_cons_left_iff.1 (hplan ▸ hps)
  obtain ⟨rfl, _⟩ := List.cons.inj hplan
  exact ⟨text, h, body, body', p, ps, k, hbody, hbody', hk, hk',
    (Except.ok.inj hstandard).symm, (Except.ok.inj htufte).symm⟩

end Document

end TexWeave

import TexWeave.Proofs.Execute

/-!
# Rendering, taken apart

Rendering a document is one computation made of several that can fail.  The lemmas here say when it
succeeds and what the text then consists of, so that nothing later has to open the definitions.

* `figureTypeIn_eq_ok`, `figureTypeIn_eq_error` — the type of a figure.
* `render_eq_ok`, `body_eq_ok`, `preamble_eq_ok`, `neededPackages_eq_ok` — success.
* `render_failsWith` — the four ways in which rendering can fail.
-/

set_option autoImplicit false

namespace TexWeave

open Text

/-! ## Figures -/

/-- Only in standard mode can a figure be out of place, and only if it names the margin itself. -/
theorem misplaced_iff (mode : Mode) (e : FigureEntry) :
    (e.figureType.getD mode.policy.defaultFigure = .margin ∧ mode ≠ .tufte)
      ↔ mode = .standard ∧ e.figureType = some .margin := by
  cases mode with
  | tufte => simp
  | standard => cases h : e.figureType <;> simp [Mode.policy]

/-- A figure has the type it names, or else that of the mode. -/
theorem figureTypeIn_eq_ok {mode : Mode} {e : FigureEntry} {kind : FigureType} :
    figureTypeIn mode e = .ok kind ↔ e.figureType.getD mode.policy.defaultFigure = kind
      ∧ ¬ (mode = .standard ∧ e.figureType = some .margin) := by
  simp only [figureTypeIn, ← misplaced_iff]
  split
  · next h => exact ⟨(nomatch ·), fun hkind ↦ absurd h hkind.2⟩
  · next h => exact ⟨fun hkind ↦ ⟨Except.ok.inj hkind, h⟩, fun hkind ↦ congrArg _ hkind.1⟩

/-- A margin figure outside tufte mode has none. -/
theorem figureTypeIn_eq_error {mode : Mode} {e : FigureEntry} {f : Failure} :
    figureTypeIn mode e = .error f ↔ (mode = .standard ∧ e.figureType = some .margin)
      ∧ f = .marginOutsideTufte := by
  simp only [figureTypeIn, ← misplaced_iff]
  split
  · next h => exact ⟨fun hf ↦ ⟨h, (Except.error.inj hf).symm⟩, fun hf ↦ congrArg _ hf.2.symm⟩
  · next h => exact ⟨(nomatch ·), fun hf ↦ absurd hf.1 h⟩

/-! ## Success -/

namespace Document

variable {axes : Axes} {d : Document}

theorem neededPackages_eq_ok {names : List String} : d.neededPackages = .ok names ↔
    ∃ ps, d.figures.mapM (figurePackages d.mode) = .ok ps
      ∧ names = distinct (d.packages ++ (if d.email.isEmpty then [] else ["hyperref"])
          ++ d.mode.policy.packages ++ ps.flatten) := by
  rw [neededPackages, bind_eq_ok]
  simp only [pure_eq_ok]

theorem body_eq_ok {body : String} : d.body axes = .ok body ↔
    ∃ ls, stepLines d.mode axes 0 (planSections d.entries d.autoSections) = .ok ls
      ∧ body = dropNewlines (joinLines ls) := by
  rw [Document.body, bind_eq_ok]
  simp only [pure_eq_ok]

theorem preamble_eq_ok {preamble : String} : d.preamble = .ok preamble ↔
    ∃ names, d.neededPackages = .ok names
      ∧ preamble = dropNewlines (joinLines (d.preambleLines names)) := by
  rw [Document.preamble, bind_eq_ok]
  simp only [pure_eq_ok]

theorem render_eq_ok {text : String} : d.render axes = .ok text ↔
    ∃ preamble body, d.preamble = .ok preamble ∧ d.body axes = .ok body
      ∧ text = joinLines (d.textParts preamble body) ++ "\n" := by
  rw [Document.render]
  simp only [bind_eq_ok, pure_eq_ok]
  constructor
  · rintro ⟨preamble, hp, body, hb, rfl⟩
    exact ⟨preamble, body, hp, hb, rfl⟩
  · rintro ⟨preamble, body, hp, hb, rfl⟩
    exact ⟨preamble, hp, body, hb, rfl⟩

end Document

/-! ## Failure -/

/-- The failures of rendering: a margin figure outside tufte mode, a coordinate that cannot be
written, an axis inside itself, and something that is no plot. -/
inductive RenderFault : Failure → Prop
  | margin : RenderFault .marginOutsideTufte
  | coordinate (fault : CoordinateFault) : RenderFault (.coordinate fault)
  | endless : RenderFault .endlessPlot
  | unplottable (sort : String) : RenderFault (.noAttribute sort "to_tex")

theorem figureTypeIn_failsWith (mode : Mode) (e : FigureEntry) :
    FailsWith RenderFault (figureTypeIn mode e) := by
  rw [figureTypeIn]
  split
  · exact .error .margin
  · exact .ok _

theorem coordinateText_failsWith (v : Value) : FailsWith RenderFault (coordinateText v) := by
  rw [coordinateText.eq_def]
  split
  · exact .ok _
  · split
    · exact .error (.coordinate _)
    · exact .ok _
  · exact .ok _
  · exact .error (.coordinate _)
  · exact .error (.coordinate _)

theorem pairOf_failsWith (vs : List Value) : FailsWith RenderFault (pairOf vs) := by
  rw [pairOf.eq_def]
  split
  · exact .ok _
  · exact .error (.coordinate _)
  · exact .error (.coordinate _)
  · exact .error (.coordinate _)

theorem pointOf_failsWith (v : Value) : FailsWith RenderFault (pointOf v) := by
  rw [pointOf.eq_def]
  split
  · exact pairOf_failsWith _
  · exact pairOf_failsWith _
  · exact pairOf_failsWith _
  · exact .error (.coordinate _)

theorem pointText_failsWith (v : Value) : FailsWith RenderFault (pointText v) :=
  (pointOf_failsWith v).bind fun p ↦ (coordinateText_failsWith p.1).bind fun _ ↦
    (coordinateText_failsWith p.2).bind fun _ ↦ .ok _

theorem curveMarkup_failsWith (c : Curve) : FailsWith RenderFault c.markup := by
  have hsubject : FailsWith RenderFault c.subject := by
    rw [Curve.subject]
    split
    · exact .ok _
    · exact ((FailsWith.mapM pointText_failsWith _).bind fun _ ↦ .ok _).bind fun _ ↦ .ok _
  exact hsubject.bind fun _ ↦ .ok _

theorem markupWithin_failsWith (axes : Axes) (depth : Nat) :
    ∀ p : Plot, FailsWith RenderFault (p.markupWithin axes depth) := by
  induction depth with
  | zero =>
    intro p
    cases p with
    | curve c => rw [Plot.markupWithin]; exact curveMarkup_failsWith c
    | axis place => rw [Plot.markupWithin]; exact .error .endless
    | raw markup packages => rw [Plot.markupWithin]; exact .ok _
    | picture drawing => rw [Plot.markupWithin]; exact .ok _
    | other v => rw [Plot.markupWithin]; exact .error (.unplottable _)
  | succ depth ih =>
    intro p
    cases p with
    | curve c => rw [Plot.markupWithin]; exact curveMarkup_failsWith c
    | axis place =>
      rw [Plot.markupWithin]
      exact (FailsWith.mapM ih _).bind fun _ ↦ .ok _
    | raw markup packages => rw [Plot.markupWithin]; exact .ok _
    | picture drawing => rw [Plot.markupWithin]; exact .ok _
    | other v => rw [Plot.markupWithin]; exact .error (.unplottable _)

theorem contentLines_failsWith (mode : Mode) (axes : Axes) (n : Nat) (e : Entry) :
    FailsWith RenderFault (contentLines mode axes n e) := by
  cases e with
  | text e => exact .ok _
  | code e => exact .ok _
  | figure e =>
    exact (figureTypeIn_failsWith mode e).bind fun _ ↦
      (markupWithin_failsWith axes axes.size e.plot).bind fun _ ↦ .ok _

theorem stepLines_failsWith (mode : Mode) (axes : Axes) :
    ∀ (steps : List SectionStep) (n : Nat), FailsWith RenderFault (stepLines mode axes n steps)
  | [], n => .ok _
  | s :: r, n => by
    rw [stepLines]
    exact (contentLines_failsWith mode axes _ s.entry).bind fun _ ↦
      (stepLines_failsWith mode axes r _).bind fun _ ↦ .ok _

theorem neededPackages_failsWith (d : Document) : FailsWith RenderFault d.neededPackages :=
  (FailsWith.mapM (fun e ↦ (figureTypeIn_failsWith d.mode e).bind fun _ ↦ .ok _) _).bind
    fun _ ↦ .ok _

/-- **Rendering fails in four ways only.** -/
theorem render_failsWith (axes : Axes) (d : Document) :
    FailsWith RenderFault (d.render axes) :=
  ((neededPackages_failsWith d).bind fun _ ↦ .ok _).bind fun _ ↦
    ((stepLines_failsWith d.mode axes _ 0).bind fun _ ↦ .ok _).bind fun _ ↦ .ok _

end TexWeave

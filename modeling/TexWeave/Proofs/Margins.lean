import TexWeave.Proofs.Blocks

/-!
# Figures out of place

There is no margin outside tufte mode, so a figure for the margin is out of place in a standard
document.  Whether there is one is looked at while the preamble is made, and once more for each
figure in the body.  The first look finds all there is to find: it needs no markup, and nothing is
left for the second.

To say that no plot has been asked for its markup by then, plots are given a free hand: here the
markup of a plot is had by any computation at all, which may fail in its own way and change a state
of its own.

* `Drawing`, `Document.renderBy` — rendering when the markup of plots is had that way.
* `Document.execute_renderBy_markup` — with the markup that plots have it is rendering.
* `Document.Misplaces` — a document has a figure out of place.
* `Document.preamble_eq_error`, `Document.exists_of_bodyBy_eq_error` — what preamble and body can
  fail for.
* `Document.render_misplaces` — what follows for the whole.
-/

set_option autoImplicit false

namespace TexWeave

open Text

/-! ## Plots with a free hand -/

/-- A way of having the markup of plots, which may fail and may change a state. -/
abbrev Drawing (σ : Type) := Plot → ExceptT Failure (StateM σ) String

namespace Drawing

variable {σ : Type}

/-- A result that does not depend on any plot. -/
def known {α : Type} (r : Except Failure α) : ExceptT Failure (StateM σ) α := ExceptT.mk (pure r)

/-- The markup that plots have. -/
def markup (axes : Axes) : Drawing σ := fun p ↦ known (p.markup axes)

/-- Every plot of the document has some markup, whatever the state. -/
def Returns (draw : Drawing σ) (d : Document) : Prop :=
  ∀ e ∈ d.figures, ∀ s, ∃ m t, execute (draw e.plot) s = (.ok m, t)

end Drawing

section By

variable {σ : Type} (draw : Drawing σ)

/-- The lines of an entry.  Only a figure has anything to draw, and its type is settled first. -/
def contentLinesBy (mode : Mode) (number : Nat) :
    Entry → ExceptT Failure (StateM σ) (List String)
  | .figure e => do
    let kind ← Drawing.known (figureTypeIn mode e)
    return figureLines kind e number (← draw e.plot)
  | e => Drawing.known (contentLines mode #[] number e)

/-- The lines of planned entries, as in `stepLines`. -/
def stepLinesBy (mode : Mode) (figures : Nat) :
    List SectionStep → ExceptT Failure (StateM σ) (List String)
  | [] => return []
  | s :: r => do
    let number := if s.entry.figure?.isSome then figures + 1 else figures
    let content ← contentLinesBy draw mode number s.entry
    let rest ← stepLinesBy mode number r
    return headingLines s ++ content ++ [""] ++ rest

namespace Document

variable (d : Document)

/-- The body of a document. -/
def bodyBy : ExceptT Failure (StateM σ) String := do
  let ls ← stepLinesBy draw d.mode 0 (planSections d.entries d.autoSections)
  return dropNewlines (joinLines ls)

/-- The text of a document. -/
def renderBy : ExceptT Failure (StateM σ) String := do
  let preamble ← Drawing.known d.preamble
  let body ← d.bodyBy draw
  return joinLines (d.textParts preamble body) ++ "\n"

end Document

end By

section Markup

variable {σ : Type} {axes : Axes}

@[simp] theorem Drawing.execute_known {α : Type} (r : Except Failure α) (s : σ) :
    execute (Drawing.known r) s = (r, s) := rfl

theorem execute_contentLinesBy_markup (mode : Mode) (number : Nat) (e : Entry) (s : σ) :
    execute (contentLinesBy (.markup axes) mode number e) s
      = (contentLines mode axes number e, s) := by
  cases e with
  | text e => rfl
  | code e => rfl
  | figure e =>
    exact execute_bind_of_known (Drawing.execute_known _)
      (fun kind ↦ execute_bind_of_known (Drawing.execute_known _) fun _ _ ↦ rfl) s

theorem execute_stepLinesBy_markup (mode : Mode) (steps : List SectionStep) (figures : Nat)
    (s : σ) : execute (stepLinesBy (.markup axes) mode figures steps) s
      = (stepLines mode axes figures steps, s) := by
  induction steps generalizing figures s with
  | nil => rfl
  | cons step r ih =>
    exact execute_bind_of_known (execute_contentLinesBy_markup mode _ step.entry)
      (fun content ↦ execute_bind_of_known (ih _) fun _ _ ↦ rfl) s

/-- **With the markup that plots have this is rendering.** -/
theorem Document.execute_renderBy_markup (d : Document) (s : σ) :
    execute (d.renderBy (.markup axes)) s = (d.render axes, s) :=
  have hbody (s : σ) : execute (d.bodyBy (.markup axes)) s = (d.body axes, s) :=
    execute_bind_of_known (execute_stepLinesBy_markup d.mode _ 0) (fun _ _ ↦ rfl) s
  execute_bind_of_known (Drawing.execute_known d.preamble)
    (fun _ ↦ execute_bind_of_known hbody fun _ _ ↦ rfl) s

end Markup

/-! ## What can fail -/

namespace Document

variable {d : Document} {f : Failure}

/-- The document has a figure out of place. -/
def Misplaces (d : Document) : Prop :=
  d.mode = .standard ∧ ∃ e ∈ d.figures, e.figureType = some .margin

theorem neededPackages_eq_error :
    d.neededPackages = .error f ↔ d.Misplaces ∧ f = .marginOutsideTufte := by
  have hfailure {g : Failure} (h : d.neededPackages = .error g) :
      d.Misplaces ∧ g = .marginOutsideTufte := by
    rcases bind_eq_error.1 h with h | ⟨_, _, h⟩
    · obtain ⟨e, he, h⟩ := exists_of_mapM_eq_error h
      rcases bind_eq_error.1 h with h | ⟨_, _, h⟩
      · obtain ⟨⟨hmode, htype⟩, rfl⟩ := figureTypeIn_eq_error.1 h
        exact ⟨⟨hmode, e, he, htype⟩, rfl⟩
      · exact nomatch h
    · exact nomatch h
  refine ⟨hfailure, ?_⟩
  rintro ⟨⟨hmode, e, he, htype⟩, rfl⟩
  cases hnames : d.neededPackages with
  | error g => rw [(hfailure hnames).2]
  | ok names =>
    obtain ⟨ps, hps, _⟩ := neededPackages_eq_ok.1 hnames
    obtain ⟨_, _, h⟩ := exists_mem_of_mapM hps he
    obtain ⟨kind, hkind, _⟩ := bind_eq_ok.1 h
    exact absurd ⟨hmode, htype⟩ (figureTypeIn_eq_ok.1 hkind).2

/-- The preamble fails for a figure out of place and for nothing else. -/
theorem preamble_eq_error :
    d.preamble = .error f ↔ d.Misplaces ∧ f = .marginOutsideTufte := by
  rw [preamble, bind_eq_error, neededPackages_eq_error]
  refine or_iff_left ?_
  rintro ⟨_, _, h⟩
  cases h

theorem not_misplaces_of_preamble {preamble : String} (h : d.preamble = .ok preamble) :
    ¬ d.Misplaces := by
  intro hm
  rw [preamble_eq_error.2 ⟨hm, rfl⟩] at h
  exact nomatch h

/-- Once no figure is out of place, every figure has a type. -/
theorem exists_figureTypeIn (h : ¬ d.Misplaces) {e : FigureEntry} (he : e ∈ d.figures) :
    ∃ kind, figureTypeIn d.mode e = .ok kind :=
  ⟨_, figureTypeIn_eq_ok.2 ⟨rfl, fun ⟨hmode, htype⟩ ↦ h ⟨hmode, e, he, htype⟩⟩⟩

end Document

section Body

variable {σ : Type} {draw : Drawing σ} {s t : σ} {f : Failure}

/-- An entry fails because it is a figure out of place or because its plot does. -/
theorem exists_of_contentLinesBy_eq_error {mode : Mode} {number : Nat} {entry : Entry}
    (h : execute (contentLinesBy draw mode number entry) s = (.error f, t)) :
    ∃ e, entry = .figure e
      ∧ (figureTypeIn mode e = .error f ∨ ∃ u, execute (draw e.plot) u = (.error f, t)) := by
  cases entry with
  | text e => exact nomatch h
  | code e => exact nomatch h
  | figure e =>
    refine ⟨e, rfl, ?_⟩
    rcases execute_bind_eq_error.1 h with h | ⟨kind, u, _, h⟩
    · exact .inl (congrArg Prod.fst h)
    · rcases execute_bind_eq_error.1 h with h | ⟨m, v, _, h⟩
      · exact .inr ⟨u, h⟩
      · exact nomatch h

theorem exists_of_stepLinesBy_eq_error {mode : Mode} {steps : List SectionStep} {figures : Nat}
    (h : execute (stepLinesBy draw mode figures steps) s = (.error f, t)) :
    ∃ e, .figure e ∈ steps.map (·.entry)
      ∧ (figureTypeIn mode e = .error f ∨ ∃ u, execute (draw e.plot) u = (.error f, t)) := by
  induction steps generalizing figures s with
  | nil => exact nomatch h
  | cons step r ih =>
    rcases execute_bind_eq_error.1 h with h | ⟨content, u, _, h⟩
    · obtain ⟨e, he, hfault⟩ := exists_of_contentLinesBy_eq_error h
      exact ⟨e, he ▸ List.mem_cons_self, hfault⟩
    · rcases execute_bind_eq_error.1 h with h | ⟨rest, v, _, h⟩
      · obtain ⟨e, he, hfault⟩ := ih h
        exact ⟨e, List.mem_cons_of_mem _ he, hfault⟩
      · exact nomatch h

namespace Document

variable {d : Document}

/-- In the body of a document without a figure out of place nothing fails but a plot. -/
theorem exists_of_bodyBy_eq_error (hd : ¬ d.Misplaces)
    (h : execute (d.bodyBy draw) s = (.error f, t)) :
    ∃ e ∈ d.figures, ∃ u, execute (draw e.plot) u = (.error f, t) := by
  rcases execute_bind_eq_error.1 h with h | ⟨ls, u, _, h⟩
  · obtain ⟨e, he, hfault⟩ := exists_of_stepLinesBy_eq_error h
    rw [planSections, map_entry_planFrom] at he
    have hfigure : e ∈ d.figures := List.mem_filterMap.2 ⟨_, he, rfl⟩
    obtain ⟨kind, hkind⟩ := exists_figureTypeIn hd hfigure
    rcases hfault with hfault | hplot
    · rw [hkind] at hfault
      cases hfault
    · exact ⟨e, hfigure, hplot⟩
  · cases h

/-! ## The whole -/

/-- A figure out of place is found before anything is drawn. -/
theorem execute_renderBy_of_misplaces (h : d.Misplaces) (draw : Drawing σ) (s : σ) :
    execute (d.renderBy draw) s = (.error .marginOutsideTufte, s) := by
  refine execute_bind_of_error ?_
  rw [Drawing.execute_known, preamble_eq_error.2 ⟨h, rfl⟩]

/-- Without one nothing fails but a plot. -/
theorem exists_of_renderBy_eq_error (hd : ¬ d.Misplaces)
    (h : execute (d.renderBy draw) s = (.error f, t)) :
    ∃ e ∈ d.figures, ∃ u, execute (draw e.plot) u = (.error f, t) := by
  rcases execute_bind_eq_error.1 h with h | ⟨preamble, u, _, h⟩
  · exact absurd (preamble_eq_error.1 (congrArg Prod.fst h)).1 hd
  · rcases execute_bind_eq_error.1 h with h | ⟨body, v, _, h⟩
    · exact exists_of_bodyBy_eq_error hd h
    · exact nomatch h

theorem renderBy_fails_iff (hdraw : draw.Returns d) (s : σ) :
    (∃ f t, execute (d.renderBy draw) s = (.error f, t)) ↔ d.Misplaces := by
  constructor
  · rintro ⟨f, t, h⟩
    by_contra hd
    obtain ⟨e, he, u, hplot⟩ := exists_of_renderBy_eq_error hd h
    obtain ⟨m, v, hm⟩ := hdraw e he u
    exact nomatch hm.symm.trans hplot
  · intro hd
    exact ⟨_, s, execute_renderBy_of_misplaces hd draw s⟩

theorem render_fails_iff {axes : Axes}
    (h : ∀ e ∈ d.figures, ∃ m, e.plot.markup axes = .ok m) :
    (∃ f, d.render axes = .error f) ↔ d.Misplaces := by
  have hdraw : (Drawing.markup axes : Drawing Unit).Returns d := fun e he s ↦
    have ⟨m, hm⟩ := h e he
    ⟨m, s, congrArg (·, s) hm⟩
  rw [← renderBy_fails_iff hdraw ()]
  simp only [execute_renderBy_markup, Prod.mk.injEq, and_true, exists_const]

end Document

end Body

namespace Document

/-- **Figures out of place.**  A figure for the margin in a standard document makes rendering fail
while the preamble is made, with one message and before any plot is asked for its markup, whatever
its plots would do.  If all plots have markup nothing else makes it fail.  And once there is a
preamble every figure has a type, so that the body fails for a plot or not at all. -/
theorem render_misplaces (d : Document) :
    (d.Misplaces → d.preamble = .error .marginOutsideTufte
        ∧ (∀ axes, d.render axes = .error .marginOutsideTufte)
        ∧ ∀ (σ : Type) (draw : Drawing σ) (s : σ),
          execute (d.renderBy draw) s = (.error .marginOutsideTufte, s))
      ∧ Failure.marginOutsideTufte.message = "marginfigure is only available in tufte mode"
      ∧ (∀ axes, (∀ e ∈ d.figures, ∃ m, e.plot.markup axes = .ok m) →
          ((∃ f, d.render axes = .error f) ↔ d.Misplaces))
      ∧ (∀ (σ : Type) (draw : Drawing σ), draw.Returns d → ∀ s,
          ((∃ f t, execute (d.renderBy draw) s = (.error f, t)) ↔ d.Misplaces))
      ∧ ∀ preamble, d.preamble = .ok preamble →
        (∀ e ∈ d.figures, ∃ kind, figureTypeIn d.mode e = .ok kind)
          ∧ ∀ (σ : Type) (draw : Drawing σ) (s t : σ) (f : Failure),
            execute (d.bodyBy draw) s = (.error f, t) →
              ∃ e ∈ d.figures, ∃ u, execute (draw e.plot) u = (.error f, t) := by
  refine ⟨fun h ↦ ⟨preamble_eq_error.2 ⟨h, rfl⟩, fun axes ↦ ?_, fun σ draw s ↦
    execute_renderBy_of_misplaces h draw s⟩, rfl, fun axes ↦ render_fails_iff,
    fun σ draw ↦ renderBy_fails_iff, fun preamble hpreamble ↦ ?_⟩
  · exact bind_eq_error.2 (.inl (preamble_eq_error.2 ⟨h, rfl⟩))
  · have hd := not_misplaces_of_preamble hpreamble
    exact ⟨fun e ↦ exists_figureTypeIn hd, fun σ draw s t f ↦ exists_of_bodyBy_eq_error hd⟩

/-- A report with something that is no plot, and a figure out of place behind it. -/
def marginReport : Document where
  entries := [
    .figure { plot := .other .null },
    .figure { plot := .raw "\\draw (0,0);" none, figureType := some .margin }]

theorem render_misplaces_of_marginReport : marginReport.Misplaces
    ∧ (∃ f, Plot.markup #[] (.other .null) = .error f ∧ f ≠ .marginOutsideTufte)
    ∧ marginReport.render #[] = .error .marginOutsideTufte := by
  have h : marginReport.Misplaces := ⟨rfl, _, List.mem_cons_of_mem _ List.mem_cons_self, rfl⟩
  exact ⟨h, ⟨_, rfl, nofun⟩, ((render_misplaces marginReport).1 h).2.1 #[]⟩

end Document

end TexWeave

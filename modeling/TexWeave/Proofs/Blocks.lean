import TexWeave.Proofs.Lines
import TexWeave.Proofs.Render

/-!
# A body, entry by entry

A body is rendered from the front with two things in hand, the title of the section before and the
number of figures so far.  Both are settled by the entries in front, so a body is also a list of
blocks, one for each entry, that do not depend on one another any more.

* `numberFrom` — the plan of a list of entries with the figures numbered.
* `blockLines`, `Document.blocks` — what each entry becomes.
* `stepLines_eq_flatten` — the body is its blocks, one after another.
-/

set_option autoImplicit false

namespace TexWeave

open Text

/-! ## Plans -/

/-- The title opened last when `previous` came before the entries. -/
def titleAfter (auto : Bool) (previous : Option String) (es : List Entry) : Option String :=
  es.foldl (fun title e ↦ (opening auto title e).or title) previous

theorem planFrom_append (auto : Bool) (previous : Option String) (a b : List Entry) :
    planFrom auto previous (a ++ b)
      = planFrom auto previous a ++ planFrom auto (titleAfter auto previous a) b := by
  induction a generalizing previous with
  | nil => rfl
  | cons e r ih => exact congrArg (List.cons _) (ih _)

theorem map_entry_planFrom (auto : Bool) (previous : Option String) (es : List Entry) :
    (planFrom auto previous es).map (·.entry) = es := by
  induction es generalizing previous with
  | nil => rfl
  | cons e r ih => exact congrArg (List.cons e) (ih _)

theorem opens_of_mem_planFrom {auto : Bool} {previous : Option String} {es : List Entry}
    {s : SectionStep} (h : s ∈ planFrom auto previous es) :
    ∃ title, s.opens = opening auto title s.entry := by
  induction es generalizing previous with
  | nil => exact absurd h List.not_mem_nil
  | cons e r ih =>
    rcases List.mem_cons.1 h with rfl | h
    · exact ⟨previous, rfl⟩
    · exact ih h

/-- Planned entries with the number of figures up to and with each, when `n` came before. -/
def numberFrom (n : Nat) : List SectionStep → List (Nat × SectionStep)
  | [] => []
  | s :: r =>
    let number := if s.entry.figure?.isSome then n + 1 else n
    (number, s) :: numberFrom number r

theorem numberFrom_append (n : Nat) (a b : List SectionStep) :
    numberFrom n (a ++ b)
      = numberFrom n a ++ numberFrom (n + a.countP (·.entry.figure?.isSome)) b := by
  induction a generalizing n with
  | nil => rfl
  | cons s r ih =>
    rw [List.cons_append, numberFrom, numberFrom, List.cons_append, ih, List.countP_cons]
    split
    · rw [Nat.add_assoc, Nat.add_comm 1]
    · rfl

theorem map_snd_numberFrom (n : Nat) (steps : List SectionStep) :
    (numberFrom n steps).map (·.2) = steps := by
  induction steps generalizing n with
  | nil => rfl
  | cons s r ih => exact congrArg (List.cons s) (ih _)

/-! ## Blocks -/

/-- The lines of one planned entry and the empty one after it. -/
def blockLines (mode : Mode) (axes : Axes) (step : Nat × SectionStep) :
    Except Failure (List String) := do
  let content ← contentLines mode axes step.1 step.2.entry
  return headingLines step.2 ++ content ++ [""]

theorem blockLines_eq_ok {mode : Mode} {axes : Axes} {step : Nat × SectionStep}
    {bl : List String} : blockLines mode axes step = .ok bl ↔
      ∃ content, contentLines mode axes step.1 step.2.entry = .ok content
        ∧ bl = headingLines step.2 ++ content ++ [""] := by
  rw [blockLines, bind_eq_ok]
  simp only [pure_eq_ok]

theorem contentLines_figure_eq_ok {mode : Mode} {axes : Axes} {n : Nat} {e : FigureEntry}
    {content : List String} : contentLines mode axes n (.figure e) = .ok content ↔
      ∃ kind, figureTypeIn mode e = .ok kind ∧ ∃ plot, e.plot.markup axes = .ok plot
        ∧ content = figureLines kind e n plot := by
  rw [contentLines]
  simp only [bind_eq_ok, pure_eq_ok]

/-- Every planned entry has its block. -/
theorem forall₂_blockLines {mode : Mode} {axes : Axes} {steps : List (Nat × SectionStep)}
    {bs : List (List String)} (h : steps.mapM (blockLines mode axes) = .ok bs) :
    List.Forall₂ (fun step bl ↦ blockLines mode axes step = .ok bl) steps bs :=
  mapM_eq_ok.1 h

/-- **The lines of planned entries are their blocks.** -/
theorem stepLines_eq_flatten (mode : Mode) (axes : Axes) (n : Nat) (steps : List SectionStep) :
    stepLines mode axes n steps
      = List.flatten <$> (numberFrom n steps).mapM (blockLines mode axes) := by
  induction steps generalizing n with
  | nil => rfl
  | cons s r ih =>
    rw [stepLines, numberFrom, List.mapM_cons, blockLines]
    simp only [ih, map_eq_pure_bind, bind_assoc, pure_bind, List.flatten_cons]

namespace Document

/-- The entries with their headings and the numbers of the figures. -/
def plan (d : Document) : List (Nat × SectionStep) :=
  numberFrom 0 (planSections d.entries d.autoSections)

/-- What each entry becomes. -/
def blocks (axes : Axes) (d : Document) : Except Failure (List (List String)) :=
  d.plan.mapM (blockLines d.mode axes)

variable {axes : Axes} {d : Document}

theorem body_eq_ok_of_blocks {body : String} : d.body axes = .ok body ↔
    ∃ bs, d.blocks axes = .ok bs ∧ body = dropNewlines (joinLines bs.flatten) := by
  rw [body_eq_ok, stepLines_eq_flatten, ← plan, ← blocks]
  constructor
  · rintro ⟨ls, h, rfl⟩
    obtain ⟨bs, hbs, rfl⟩ := map_eq_ok.1 h
    exact ⟨bs, hbs, rfl⟩
  · rintro ⟨bs, hbs, rfl⟩
    exact ⟨bs.flatten, map_eq_ok.2 ⟨bs, hbs, rfl⟩, rfl⟩

theorem map_entry_plan (d : Document) : d.plan.map (·.2.entry) = d.entries :=
  calc d.plan.map (·.2.entry) = (d.plan.map (·.2)).map (·.entry) := List.map_map.symm
    _ = d.entries := by rw [plan, map_snd_numberFrom, planSections, map_entry_planFrom]

theorem opens_of_mem_plan {step : Nat × SectionStep} (h : step ∈ d.plan) :
    ∃ title, step.2.opens = opening d.autoSections title step.2.entry := by
  have hstep : step.2 ∈ (numberFrom 0 (planSections d.entries d.autoSections)).map (·.2) :=
    List.mem_map_of_mem h
  rw [map_snd_numberFrom] at hstep
  exact opens_of_mem_planFrom hstep

/-- Every entry has one block. -/
theorem length_of_blocks {bs : List (List String)} (h : d.blocks axes = .ok bs) :
    bs.length = d.entries.length := by
  rw [length_of_mapM h, ← map_entry_plan, List.length_map]

end Document

end TexWeave

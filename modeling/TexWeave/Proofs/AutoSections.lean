import TexWeave.Proofs.Contents
import TexWeave.Proofs.Headings

/-!
# With and without automatic sections

Automatic sections put a heading and a label in front of code whose title is not the one before.
Turning them off takes these lines away and nothing else.  The two plans remember different titles
on their way through the entries, the one those of code and prose, the other those of prose alone.
But what a plan remembers is looked at only where code may open a section, and without automatic
sections it opens none.

* `SectionStep.unopened`, `planFrom_false` — the plan without automatic sections, from the one with
  them.
* `generatedHeading`, `chosenHeading` — the two sorts of heading.
* `Document.body_withSections` — the two bodies.
-/

set_option autoImplicit false

namespace TexWeave

open Text

/-! ## The two plans -/

/-- A planned entry without the section that code opens by itself. -/
def SectionStep.unopened (s : SectionStep) : SectionStep :=
  match s.entry with
  | .code _ => { s with opens := none }
  | _ => s

theorem SectionStep.entry_unopened (s : SectionStep) : s.unopened.entry = s.entry := by
  rw [unopened]
  split <;> rfl

theorem opening_false (auto : Bool) (title title' : Option String) (e : Entry) :
    (⟨e, opening false title' e⟩ : SectionStep)
      = SectionStep.unopened ⟨e, opening auto title e⟩ := by
  cases e <;> rfl

/-- **The plan without automatic sections** is the plan with them, but code opens nothing.  It makes
no difference which titles either remembers. -/
theorem planFrom_false (title title' : Option String) (es : List Entry) :
    planFrom false title' es = (planFrom true title es).map SectionStep.unopened := by
  induction es generalizing title title' with
  | nil => rfl
  | cons e r ih => exact congrArg₂ List.cons (opening_false true title title' e) (ih _ _)

theorem numberFrom_map_unopened (n : Nat) (steps : List SectionStep) :
    numberFrom n (steps.map SectionStep.unopened)
      = (numberFrom n steps).map fun step ↦ (step.1, step.2.unopened) := by
  induction steps generalizing n with
  | nil => rfl
  | cons s r ih =>
    rw [List.map_cons, numberFrom, numberFrom, List.map_cons, SectionStep.entry_unopened, ih]

/-! ## The two sorts of heading -/

/-- The section that prose opens: the one it names, unless the name is empty. -/
def chosenTitle? : Entry → Option String
  | .text e => nonempty? e.heading
  | _ => none

/-- The heading that prose asks for. -/
def chosenHeading (e : Entry) : List String := (chosenTitle? e).toList.map (command "section")

/-- The heading and the label in front of code, if the plan lets it open a section. -/
def generatedHeading (s : SectionStep) : List String :=
  match s.entry with
  | .code e =>
    if (nonempty? s.opens).isSome
      then [command "section" e.title, command "label" ("sec:" ++ e.name)] else []
  | _ => []

section

variable {auto : Bool} {title : Option String} {s : SectionStep}
  (h : s.opens = opening auto title s.entry)
include h

theorem headingLines_eq : headingLines s = generatedHeading s ++ chosenHeading s.entry := by
  obtain ⟨entry, opens⟩ := s
  cases entry with
  | text e =>
    have hopens : nonempty? opens = nonempty? e.heading := by
      obtain rfl : opens = nonempty? e.heading := h
      exact nonempty?_nonempty? e.heading
    simp only [headingLines, generatedHeading, chosenHeading, chosenTitle?, hopens]
    cases nonempty? e.heading <;> rfl
  | code e =>
    have hopens : nonempty? opens = none ∨ nonempty? opens = some e.title := by
      obtain rfl : opens = if auto && title != some e.title then some e.title else none := h
      split
      · rw [nonempty?_some]
        exact (ite_eq_or_eq ..)
      · exact .inl rfl
    rcases hopens with hopens | hopens <;>
      simp [headingLines, generatedHeading, chosenHeading, chosenTitle?, hopens]
  | figure e =>
    obtain rfl : opens = none := h
    rfl

/-- When code opens no section, the heading of prose is left. -/
theorem headingLines_unopened : headingLines s.unopened = chosenHeading s.entry := by
  obtain ⟨entry, opens⟩ := s
  cases entry with
  | code e => rfl
  | text e => exact headingLines_eq h
  | figure e => exact headingLines_eq h

end

/-- A heading that is generated has a listing behind it, so a block ends as it does without. -/
theorem endsAlike_heading {mode : Mode} {axes : Axes} {step : Nat × SectionStep} {ls : List String}
    (h : contentLines mode axes step.1 step.2.entry = .ok ls) (a : List String) :
    EndsAlike (endLines (generatedHeading step.2 ++ (a ++ ls ++ [""])))
      (endLines (a ++ ls ++ [""])) := by
  obtain ⟨n, entry, opens⟩ := step
  cases entry with
  | text e => exact .same _
  | figure e => exact .same _
  | code e =>
    have hcode (front : List String) : front ++ ls ++ [""]
        = front ++ (if e.description.isEmpty then [] else [e.description])
          ++ listing mode e.source ++ [""] := by
      rw [← Except.ok.inj h, ← List.append_assoc]
    rw [← List.append_assoc, ← List.append_assoc, hcode, hcode]
    exact .listing _ _ mode mode e.source

namespace Document

variable {axes : Axes} {d : Document}

/-- The document with automatic sections or without them. -/
def withSections (d : Document) (auto : Bool) : Document := { d with autoSections := auto }

theorem plan_withSections_false (d : Document) : (d.withSections false).plan
    = (d.withSections true).plan.map fun step ↦ (step.1, step.2.unopened) := by
  rw [plan, plan, planSections, planSections, withSections, withSections, planFrom_false none,
    numberFrom_map_unopened]

theorem sectionTitles_false (es : List Entry) :
    sectionTitles es false = es.filterMap chosenTitle? := by
  have hopens (title : Option String) (e : Entry) :
      nonempty? (opening false title e) = chosenTitle? e := by
    cases e with
    | text e => exact nonempty?_nonempty? e.heading
    | code e => rfl
    | figure e => rfl
  have hplan (title : Option String) :
      (planFrom false title es).filterMap (nonempty? ·.opens) = es.filterMap chosenTitle? := by
    induction es generalizing title with
    | nil => rfl
    | cons e es ih => rw [planFrom, List.filterMap_cons, List.filterMap_cons, hopens, ih]
  exact hplan none

/-- **With and without automatic sections.**  Both bodies of a document that can be rendered are
made of the same lines, block by block: the section that prose names, the lines of the entry with
the number of its figure, and an empty line.  With automatic sections, code may have its title and
its label in front of them; without, nothing is there.  At the end of both bodies the same line
feeds are dropped.  The sections that are left are those that prose names. -/
theorem body_withSections {text : String} (h : d.render axes = .ok text) :
    let on := d.withSections true
    let off := d.withSections false
    let kept := fun p : (Nat × SectionStep) × List String ↦
      chosenHeading p.1.2.entry ++ p.2 ++ [""]
    ∃ body body' cs k, on.body axes = .ok body ∧ off.body axes = .ok body'
      ∧ List.Forall₂ (fun step ls ↦ contentLines d.mode axes step.1 step.2.entry = .ok ls)
          on.plan cs
      ∧ String.join ((on.plan.zip cs).map fun p ↦ endLines (generatedHeading p.1.2 ++ kept p))
          = body ++ newlines k
      ∧ String.join ((on.plan.zip cs).map fun p ↦ endLines (kept p)) = body' ++ newlines k
      ∧ ¬ ['\n'] <:+ body.toList ∧ ¬ ['\n'] <:+ body'.toList
      ∧ off.plan.map (fun step ↦ (step.1, step.2.entry))
        = on.plan.map (fun step ↦ (step.1, step.2.entry))
      ∧ sectionTitles d.entries false = d.entries.filterMap chosenTitle? := by
  intro on off kept
  obtain ⟨cs, hcs⟩ := exists_entryLines_of_render h
  have hlines : List.Forall₂ (fun step ls ↦ contentLines d.mode axes step.1 step.2.entry = .ok ls)
      on.plan cs := (entryLines_eq_ok (d := on)).1 hcs
  have hopens {p : (Nat × SectionStep) × List String} (hp : p ∈ on.plan.zip cs) :
      ∃ title, p.1.2.opens = opening on.autoSections title p.1.2.entry :=
    opens_of_mem_plan (List.of_mem_zip hp).1
  have hon : on.blocks axes
      = .ok ((on.plan.zip cs).map fun p ↦ generatedHeading p.1.2 ++ kept p) := by
    refine blocks_eq_ok.2 ⟨cs, hcs, List.map_congr_left fun p hp ↦ ?_⟩
    obtain ⟨title, htitle⟩ := hopens hp
    rw [headingLines_eq htitle]
    simp only [kept, List.append_assoc]
  -- without automatic sections the lines of the entries are the same, as their numbers are
  have hoff : off.blocks axes = .ok ((on.plan.zip cs).map kept) := by
    refine blocks_eq_ok.2 ⟨cs, hcs, ?_⟩
    rw [plan_withSections_false, List.zip_map_left, List.map_map]
    refine List.map_congr_left fun p hp ↦ ?_
    obtain ⟨title, htitle⟩ := hopens hp
    show kept p = headingLines p.1.2.unopened ++ p.2 ++ [""]
    rw [headingLines_unopened htitle]
  obtain ⟨body, body', k, hbody, hbody', hk, hk', hlast, hlast'⟩ :=
    exists_bodies hon hoff fun p hp ↦ endsAlike_heading (List.forall₂_zip hlines hp) _
  refine ⟨body, body', cs, k, hbody, hbody', hlines, hk, hk', hlast, hlast', ?_,
    sectionTitles_false d.entries⟩
  rw [numbered_plan, numbered_plan]
  rfl

/-- Two definitions of one title, with prose between them that opens a section, and a figure. -/
def dataNotes : Document where
  entries := [
    .code ⟨"", "a", "Loss", "loss"⟩,
    .text { text := "Points.", heading := some "Data" },
    .figure { plot := .raw "\\draw (0,0);" none },
    .code ⟨"", "b", "Loss", "loss_again"⟩]

/-- The second of them has a heading only because of the prose, which keeps its own. -/
theorem body_withSections_of_dataNotes : ∃ text, dataNotes.render #[] = .ok text
    ∧ ∃ body body' cs k, (dataNotes.withSections true).body #[] = .ok body
      ∧ (dataNotes.withSections false).body #[] = .ok body'
      ∧ String.join (((dataNotes.withSections true).plan.zip cs).map fun p ↦
          endLines (chosenHeading p.1.2.entry ++ p.2 ++ [""])) = body' ++ newlines k
      ∧ sectionTitles dataNotes.entries true = ["Loss", "Data", "Loss"]
      ∧ sectionTitles dataNotes.entries false = ["Data"] := by
  obtain ⟨text, h⟩ : ∃ text, dataNotes.render #[] = .ok text := ⟨_, rfl⟩
  obtain ⟨body, body', cs, k, hbody, hbody', _, _, hk', _, _, _, htitles⟩ := body_withSections h
  exact ⟨text, h, body, body', cs, k, hbody, hbody', hk', by decide, htitles⟩

end Document

end TexWeave

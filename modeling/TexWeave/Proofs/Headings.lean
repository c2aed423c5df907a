import Mathlib.Data.List.Forall2
import Mathlib.Data.List.Induction
import TexWeave.Proofs.Blocks

/-!
# Headings

A heading goes in front of code whose title is not the one the plan has last seen.  The plan counts
every title of code, an empty one too, but no heading is written for an empty title.  So what the
plan has seen last and the heading that was written last part company behind code without a title,
and there only.

* `Entry.title?`, `lastTitle` — the title of an entry, and the one that was given last.
* `headingTitles` — the titles of the headings that are written.
* `getLast?_headingTitles_eq` — the last heading has the last title, unless that is empty.
* `Document.body_headings` — where headings stand in a body.
-/

set_option autoImplicit false

namespace TexWeave

open Text

/-! ## Plans and their beginnings -/

/-- The beginning of a plan is a plan of its own. -/
theorem planFrom_of_append {auto : Bool} {previous : Option String} {es : List Entry}
    {front back : List SectionStep} (h : planFrom auto previous es = front ++ back) :
    front = planFrom auto previous (front.map (·.entry)) := by
  induction front generalizing previous es with
  | nil => rfl
  | cons s front ih =>
    cases es with
    | nil => cases h
    | cons e es =>
      obtain ⟨hs, hrest⟩ := List.cons.inj h
      rw [List.map_cons, ← hs, planFrom, ← ih hrest]

/-- An entry opens a section by the titles of the entries in front of it. -/
theorem opens_of_planFrom_eq {auto : Bool} {previous : Option String} {es : List Entry}
    {front back : List SectionStep} {s : SectionStep}
    (h : planFrom auto previous es = front ++ s :: back) :
    s.opens = opening auto (titleAfter auto previous (front.map (·.entry))) s.entry := by
  have hfront := planFrom_of_append h
  have hwith : front ++ [s] = planFrom auto previous ((front ++ [s]).map (·.entry)) := by
    have hall : planFrom auto previous es = front ++ [s] ++ back := by
      rw [h, List.append_assoc, List.singleton_append]
    exact planFrom_of_append hall
  rw [List.map_append, planFrom_append, ← hfront, List.append_cancel_left_eq] at hwith
  exact congrArg SectionStep.opens (List.cons.inj hwith).1

/-! ## The last title and the last heading -/

/-- The title of an entry: that of code, and that of the section prose opens. -/
def Entry.title? : Entry → Option String
  | .text e => nonempty? e.heading
  | .code e => some e.title
  | .figure _ => none

/-- The title that entries have given last. -/
def lastTitle (es : List Entry) : Option String := (es.filterMap Entry.title?).getLast?

/-- The titles of the headings in front of planned entries, in order. -/
def headingTitles (steps : List SectionStep) : List String := steps.filterMap (nonempty? ·.opens)

theorem nonempty?_some (t : String) : nonempty? (some t) = if t = "" then none else some t := by
  by_cases ht : t = "" <;> simp [nonempty?, ht]

theorem nonempty?_nonempty? (s : Option String) : nonempty? (nonempty? s) = nonempty? s := by
  cases h : nonempty? s with
  | none => rfl
  | some t =>
    obtain ⟨-, ht⟩ := Option.filter_eq_some_iff.1 h
    exact Option.filter_eq_some_iff.2 ⟨rfl, ht⟩

section

variable (es : List Entry) (e : Entry)

theorem lastTitle_concat : lastTitle (es ++ [e]) = e.title?.or (lastTitle es) := by
  rw [lastTitle, List.filterMap_append, List.getLast?_append]
  cases h : e.title? <;> simp [h, lastTitle]

theorem titleAfter_concat (auto : Bool) (previous : Option String) :
    titleAfter auto previous (es ++ [e])
      = (opening auto (titleAfter auto previous es) e).or (titleAfter auto previous es) := by
  rw [titleAfter, List.foldl_append]
  rfl

/-- The plan remembers the title that was given last. -/
theorem titleAfter_eq_lastTitle : titleAfter true none es = lastTitle es := by
  induction es using List.reverseRecOn with
  | nil => rfl
  | append_singleton es e ih =>
    rw [lastTitle_concat, titleAfter_concat, ih]
    cases e with
    | text e => rfl
    | figure e => rfl
    | code e =>
      by_cases h : lastTitle es = some e.title <;> simp [opening, Entry.title?, h]

theorem getLast?_headingTitles_concat : (headingTitles (planSections (es ++ [e]) true)).getLast?
    = (nonempty? (opening true (lastTitle es) e)).or
      (headingTitles (planSections es true)).getLast? := by
  rw [planSections, planFrom_append, titleAfter_eq_lastTitle, headingTitles,
    List.filterMap_append, List.getLast?_append]
  cases h : nonempty? (opening true (lastTitle es) e) <;>
    simp [h, planFrom, headingTitles, planSections]

/-- **The last heading has the last title**, unless that is empty. -/
theorem getLast?_headingTitles_eq (h : lastTitle es ≠ some "") :
    (headingTitles (planSections es true)).getLast? = lastTitle es := by
  induction es using List.reverseRecOn with
  | nil => rfl
  | append_singleton es e ih =>
    rw [lastTitle_concat] at h ⊢
    rw [getLast?_headingTitles_concat]
    cases e with
    | text e =>
      rw [opening, ← nonempty?, Entry.title?] at *
      rw [nonempty?_nonempty?]
      cases ht : nonempty? e.heading with
      | some t => rfl
      | none =>
        rw [ht] at h
        exact ih h
    | figure e => exact ih h
    | code e =>
      have htitle : e.title ≠ "" := fun ht ↦ h (congrArg some ht)
      by_cases hsame : lastTitle es = some e.title
      · have hopening : opening true (lastTitle es) (.code e) = none := by simp [opening, hsame]
        rw [hopening]
        exact (ih fun hempty ↦ htitle (Option.some.inj (hsame.symm.trans hempty))).trans hsame
      · have hopening : nonempty? (opening true (lastTitle es) (.code e)) = some e.title := by
          simp [opening, hsame, nonempty?_some, htitle]
        rw [hopening]
        rfl

/-- Code gets a heading if it has a title that is not the last one. -/
theorem headingLines_code (code : CodeEntry) :
    headingLines ⟨.code code, opening true (lastTitle es) (.code code)⟩
      = if code.title ≠ "" ∧ lastTitle es ≠ some code.title
        then [command "section" code.title, command "label" ("sec:" ++ code.name)] else [] := by
  by_cases hlast : lastTitle es = some code.title
  · have hopens : opening true (lastTitle es) (.code code) = none := by simp [opening, hlast]
    rw [hopens, if_neg (fun h ↦ h.2 hlast)]
    rfl
  · have hopens : opening true (lastTitle es) (.code code) = some code.title := by
      simp [opening, hlast]
    rw [hopens, headingLines, nonempty?_some]
    by_cases htitle : code.title = "" <;> simp [htitle, hlast]

/-- The last title is the title of code exactly if the last heading has it, and nothing without a
title stands between. -/
theorem lastTitle_eq_some_iff {t : String} (ht : t ≠ "") : lastTitle es = some t
    ↔ (headingTitles (planSections es true)).getLast? = some t ∧ lastTitle es ≠ some "" := by
  constructor
  · intro hlast
    have hne : lastTitle es ≠ some "" := fun hempty ↦
      ht (Option.some.inj (hlast.symm.trans hempty))
    exact ⟨(getLast?_headingTitles_eq es hne).trans hlast, hne⟩
  · rintro ⟨hheading, hne⟩
    rwa [getLast?_headingTitles_eq es hne] at hheading

end

/-! ## Headings in a body -/

namespace Document

variable {axes : Axes} {d : Document}

/-- What stands in front of an entry in a plan is the plan of the entries in front. -/
theorem steps_of_plan_eq {front back : List (Nat × SectionStep)} (h : d.plan = front ++ back) :
    front.map (·.2) = planSections (front.map (·.2.entry)) d.autoSections := by
  have hsteps : planFrom d.autoSections none d.entries = front.map (·.2) ++ back.map (·.2) := by
    rw [← List.map_append, ← h, plan, map_snd_numberFrom, planSections]
  have hfront := planFrom_of_append hsteps
  rwa [List.map_map] at hfront

theorem opens_of_plan_eq {front back : List (Nat × SectionStep)} {step : Nat × SectionStep}
    (h : d.plan = front ++ step :: back) : step.2.opens
      = opening d.autoSections (titleAfter d.autoSections none (front.map (·.2.entry)))
        step.2.entry := by
  have hsteps : planFrom d.autoSections none d.entries
      = front.map (·.2) ++ step.2 :: back.map (·.2) := by
    rw [← List.map_cons, ← List.map_append, ← h, plan, map_snd_numberFrom, planSections]
  rw [opens_of_planFrom_eq hsteps, List.map_map]
  rfl

/-- **Where headings stand.**  The blocks of a body begin with their headings.  With automatic
sections, code has one exactly if its title is not empty and either is not that of the heading
before or the last title in front of it is empty. -/
theorem body_headings {body : String} (hauto : d.autoSections = true)
    (h : d.body axes = .ok body) :
    ∃ bs, body = dropNewlines (joinLines bs.flatten)
      ∧ d.plan.map (·.2.entry) = d.entries
      ∧ List.Forall₂ (fun step bl ↦ ∃ content,
          contentLines d.mode axes step.1 step.2.entry = .ok content
            ∧ bl = headingLines step.2 ++ content ++ [""]) d.plan bs
      ∧ ∀ front n e opens back, d.plan = front ++ (n, ⟨.code e, opens⟩) :: back →
        headingLines ⟨.code e, opens⟩
          = if e.title ≠ "" ∧ ((headingTitles (front.map (·.2))).getLast? ≠ some e.title
              ∨ lastTitle (front.map (·.2.entry)) = some "")
            then [command "section" e.title, command "label" ("sec:" ++ e.name)] else [] := by
  obtain ⟨bs, hbs, hbody⟩ := body_eq_ok_of_blocks.1 h
  refine ⟨bs, hbody, d.map_entry_plan, ?_, ?_⟩
  · exact (forall₂_blockLines hbs).imp fun _ _ ↦ blockLines_eq_ok.1
  · intro front n e opens back hplan
    have hopens : opens = opening true (lastTitle (front.map (·.2.entry))) (.code e) := by
      have hplanned := opens_of_plan_eq hplan
      rwa [hauto, titleAfter_eq_lastTitle] at hplanned
    have hsteps : front.map (·.2) = planSections (front.map (·.2.entry)) true :=
      hauto ▸ steps_of_plan_eq hplan
    rw [hopens, headingLines_code, hsteps]
    refine if_congr (and_congr_right fun htitle ↦ ?_) rfl rfl
    rw [Ne, lastTitle_eq_some_iff _ htitle, not_and_or, not_not]

/-- Code without a title between two definitions of one title. -/
def lossNotes : Document where
  entries := [.code ⟨"", "a", "Loss", "loss"⟩, .code ⟨"", "b", "", "helper"⟩,
    .code ⟨"", "c", "Loss", "loss_again"⟩]

/-- The entries of these notes in front of the last one. -/
def lossSteps : List (Nat × SectionStep) :=
  [(0, ⟨.code ⟨"", "a", "Loss", "loss"⟩, some "Loss"⟩),
    (0, ⟨.code ⟨"", "b", "", "helper"⟩, some ""⟩)]

theorem body_headings_of_lossNotes :
    lossNotes.autoSections = true ∧ ∃ body, lossNotes.body #[] = .ok body
      ∧ (∃ bs : List (List String), body = dropNewlines (joinLines bs.flatten) ∧ bs.length = 3)
      ∧ headingLines ⟨.code ⟨"", "c", "Loss", "loss_again"⟩, some "Loss"⟩
        = [command "section" "Loss", command "label" "sec:loss_again"] := by
  obtain ⟨body, h⟩ : ∃ body, lossNotes.body #[] = .ok body := ⟨_, rfl⟩
  obtain ⟨bs, hbody, -, hblocks, hheadings⟩ := body_headings (d := lossNotes) rfl h
  refine ⟨rfl, body, h, ⟨bs, hbody, hblocks.length_eq.symm⟩, ?_⟩
  have hlast := hheadings lossSteps 0 ⟨"", "c", "Loss", "loss_again"⟩ (some "Loss") [] rfl
  rwa [if_pos (by decide)] at hlast

/-- The heading of before stands in front of code that follows code without a title once more. -/
theorem body_repeats_heading :
    lossNotes.autoSections = true
      ∧ (lossNotes.body #[]).toOption = some ("\\section\x7bLoss\x7d\n\\label\x7bsec:loss\x7d\n"
        ++ "\\begin\x7blstlisting\x7d\na\n\\end\x7blstlisting\x7d\n\n"
        ++ "\\begin\x7blstlisting\x7d\nb\n\\end\x7blstlisting\x7d\n\n"
        ++ "\\section\x7bLoss\x7d\n\\label\x7bsec:loss_again\x7d\n"
        ++ "\\begin\x7blstlisting\x7d\nc\n\\end\x7blstlisting\x7d")
      ∧ ¬ ∀ front n e opens back, lossNotes.plan = front ++ (n, ⟨.code e, opens⟩) :: back →
        (headingLines ⟨.code e, opens⟩ ≠ []
          ↔ e.title ≠ "" ∧ (headingTitles (front.map (·.2))).getLast? ≠ some e.title) := by
  refine ⟨rfl, by decide +kernel, fun h ↦ ?_⟩
  have hlast := h lossSteps 0 ⟨"", "c", "Loss", "loss_again"⟩ (some "Loss") [] rfl
  exact (hlast.1 (by decide)).2 (by decide)

end Document

end TexWeave

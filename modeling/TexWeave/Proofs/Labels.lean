import Mathlib.Data.List.Perm.Basic
import TexWeave.Proofs.Marks
import TexWeave.Proofs.Verbatim

/-!
# Labels

The library labels code that has a heading by its name, and a figure by the label its author chose
or else by its number.  Names and numbers cannot collide, for their labels begin in different ways,
but nothing keeps an author from choosing what the library would write itself.

* `Labelled` — lines with the labels the library sets in them.
* `Document.labels` — the labels of a document, and `labelled_flatten` for where they stand.
* `nodup_derivedLabels` — labels that the library makes are distinct if the names of code are.
* `Document.labels_nodup_iff` — all labels are distinct exactly if no chosen label is one of them.
-/

set_option autoImplicit false

namespace TexWeave

open Text

/-! ## Lines with labels -/

/-- Lines that set the labels `ls`, in this order; of the other lines, `other` holds. -/
inductive Labelled (other : String → Prop) : (ls lines : List String) → Prop
  | nil : Labelled other [] []
  | label (l : String) {ls lines : List String} (h : Labelled other ls lines) :
      Labelled other (l :: ls) (command "label" l :: lines)
  | line {m : String} {ls lines : List String} (hm : other m) (h : Labelled other ls lines) :
      Labelled other ls (m :: lines)

namespace Labelled

variable {other : String → Prop} {ls ms lines more : List String}

theorem append (h : Labelled other ls lines) (h' : Labelled other ms more) :
    Labelled other (ls ++ ms) (lines ++ more) := by
  induction h with
  | nil => exact h'
  | label l _ ih => exact .label l ih
  | line hm _ ih => exact .line hm ih

theorem ofLines (h : ∀ m ∈ lines, other m) : Labelled other [] lines := by
  induction lines with
  | nil => exact .nil
  | cons m lines ih =>
    obtain ⟨hm, hlines⟩ := List.forall_mem_cons.1 h
    exact .line hm (ih hlines)

/-- Lines without labels in front change nothing. -/
theorem after (h : ∀ m ∈ more, other m) (h' : Labelled other ls lines) :
    Labelled other ls (more ++ lines) := (ofLines h).append h'

/-- Nor do lines without labels behind. -/
theorem before (h : Labelled other ls lines) (h' : ∀ m ∈ more, other m) :
    Labelled other ls (lines ++ more) := by
  have hall := h.append (ofLines h')
  rwa [List.append_nil] at hall

end Labelled

/-- The words of the library that labels are made of. -/
def labelWords : List String := ["\\label\x7b", "sec:", "fig:"]

/-- The words of the library that are no part of a label. -/
def otherWords (mode : Mode) : List String :=
  [mode.policy.listingBegin, mode.policy.listingEnd] ++ fixedWords.filter (· ∉ labelWords)

/-- A line in which the library sets no label: it is made of other words of the library and of
texts that the author gave. -/
def SetsNoLabel (mode : Mode) (given : List String) (m : String) : Prop :=
  ∃ ts, (∀ t ∈ ts, t ∈ given) ∧ Shows (otherWords mode) ts m

/-! ## The labels of a document -/

/-- The label an author chose for a figure. -/
def chosenLabel? (step : Nat × SectionStep) : Option String :=
  step.2.entry.figure?.bind (nonempty? ·.label)

/-- The label of code that has a heading, made from its name. -/
def headingLabel? (s : SectionStep) : Option String :=
  match s.entry with
  | .code e => (nonempty? s.opens).map fun _ ↦ "sec:" ++ e.name
  | _ => none

/-- The label of a figure for which none was chosen, made from its number. -/
def numberLabel? (step : Nat × SectionStep) : Option String :=
  match step.2.entry with
  | .figure e => if (nonempty? e.label).isSome then none else some ("fig:" ++ toString step.1)
  | _ => none

/-- A label that the library makes. -/
def derivedLabel? (step : Nat × SectionStep) : Option String :=
  (headingLabel? step.2).or (numberLabel? step)

/-- The label of a planned entry. -/
def label? (step : Nat × SectionStep) : Option String :=
  (chosenLabel? step).or (derivedLabel? step)

/-- The labels the library sets in a document, in order. -/
def Document.labels (d : Document) : List String := d.plan.filterMap label?

section

variable {mode : Mode} {given : List String}

theorem mem_otherWords {w : String} (h : w ∈ fixedWords) (h' : w ∉ labelWords) (mode : Mode) :
    w ∈ otherWords mode :=
  List.mem_append_right _ (List.mem_filter.2 ⟨h, by simpa using h'⟩)

namespace SetsNoLabel

theorem ofText {t : String} (ht : t ∈ given) : SetsNoLabel mode given t :=
  ⟨[t], by simpa using ht, .ofText t⟩

theorem ofWord {w : String} (hw : w ∈ otherWords mode) : SetsNoLabel mode given w :=
  ⟨[], by simp, .ofWord hw⟩

theorem empty : SetsNoLabel mode given "" := ⟨[], by simp, .nil⟩

/-- Words of the library around a text. -/
theorem enclosed {l r t : String} (hl : l ∈ otherWords mode) (ht : t ∈ given)
    (hr : r ∈ otherWords mode) : SetsNoLabel mode given (l ++ (t ++ r)) :=
  ⟨[t], by simpa using ht, .word hl (.text t (.ofWord hr))⟩

/-- A word of the library in front of a line. -/
theorem after {w m : String} (hw : w ∈ otherWords mode) (h : SetsNoLabel mode given m) :
    SetsNoLabel mode given (w ++ m) := by
  obtain ⟨ts, hts, hshows⟩ := h
  exact ⟨ts, hts, .word hw hshows⟩

theorem command {name t : String} (h : "\\" ++ name ++ "\x7b" ∈ fixedWords)
    (h' : "\\" ++ name ++ "\x7b" ∉ labelWords) (ht : t ∈ given) :
    SetsNoLabel mode given (command name t) :=
  ⟨[t], by simpa using ht,
    .command (mem_otherWords h h' mode) (mem_otherWords (by decide) (by decide) mode) (.ofText t)⟩

end SetsNoLabel

theorem setsNoLabel_listing {source : String} (h : source ∈ given) :
    ∀ m ∈ listing mode source, SetsNoLabel mode given m := by
  have hbegin : mode.policy.listingBegin ∈ otherWords mode := by simp [otherWords]
  have hend : mode.policy.listingEnd ∈ otherWords mode := by simp [otherWords]
  simp only [listing, List.forall_mem_cons]
  exact ⟨.ofWord hbegin, .ofText h, .ofWord hend, fun m hm ↦ absurd hm List.not_mem_nil⟩

/-- A heading sets the label of the code under it. -/
theorem labelled_headingLines {s : SectionStep} (hopens : ∀ t ∈ s.opens, t ∈ given) :
    Labelled (SetsNoLabel mode given) (headingLabel? s).toList (headingLines s) := by
  obtain ⟨entry, opens⟩ := s
  rw [headingLines]
  cases ht : nonempty? opens with
  | none =>
    have hnone : headingLabel? ⟨entry, opens⟩ = none := by
      cases entry <;> simp [headingLabel?, ht]
    rw [hnone]
    exact .nil
  | some t =>
    have hheading : SetsNoLabel mode given (command "section" t) :=
      .command (by decide) (by decide) (hopens t (eq_of_nonempty? ht))
    cases entry with
    | code e =>
      have hsome : headingLabel? ⟨.code e, opens⟩ = some ("sec:" ++ e.name) := by
        simp [headingLabel?, ht]
      rw [hsome]
      exact .line hheading (.label _ .nil)
    | text e => exact .line hheading .nil
    | figure e => exact .line hheading .nil

/-! ## Figures -/

section Figure

variable {n : Nat} {e : FigureEntry}

theorem chosenLabel?_figure (n : Nat) (e : FigureEntry) (opens : Option String) :
    chosenLabel? (n, ⟨.figure e, opens⟩) = nonempty? e.label := rfl

theorem derivedLabel?_figure (n : Nat) (e : FigureEntry) (opens : Option String) :
    derivedLabel? (n, ⟨.figure e, opens⟩)
      = if (nonempty? e.label).isSome then none else some ("fig:" ++ toString n) := rfl

theorem label?_figure (n : Nat) (e : FigureEntry) (opens : Option String) :
    label? (n, ⟨.figure e, opens⟩) = some (figureLabel e n) := by
  rw [label?, chosenLabel?_figure, derivedLabel?_figure, figureLabel]
  cases nonempty? e.label <;> simp

theorem labelled_captionLines (kind : FigureType) (n : Nat) (hcaption : e.caption ∈ given) :
    Labelled (SetsNoLabel mode given) [figureLabel e n] (captionLines kind e n) := by
  have hlabel : Labelled (SetsNoLabel mode given) [figureLabel e n]
      [command "label" (figureLabel e n)] := .label _ .nil
  rw [captionLines]
  split
  · exact hlabel
  · split
    · have hparts : "\\captionof" ++ braced "figure" ++ braced e.caption
          = "\\captionof\x7bfigure\x7d\x7b" ++ (e.caption ++ "\x7d") := by
        simp only [braced, ← String.append_assoc]
        rfl
      rw [hparts]
      exact .line (.enclosed (mem_otherWords (by decide) (by decide) mode) hcaption
        (mem_otherWords (by decide) (by decide) mode)) hlabel
    · exact .line (.command (by decide) (by decide) hcaption) hlabel

theorem setsNoLabel_placementOption (kind : FigureType)
    (hposition : ∀ p ∈ e.position, p ∈ given) :
    SetsNoLabel mode given (placementOption kind e) := by
  rw [placementOption]
  split
  · rename_i p hp
    rw [String.append_assoc]
    exact .enclosed (mem_otherWords (by decide) (by decide) mode)
      (hposition p (eq_of_nonempty? hp)) (mem_otherWords (by decide) (by decide) mode)
  · split
    · exact .empty
    · exact .ofWord (mem_otherWords (by decide) (by decide) mode)

theorem setsNoLabel_figureBegin (kind : FigureType) (hposition : ∀ p ∈ e.position, p ∈ given) :
    SetsNoLabel mode given (figureBegin kind e) := by
  rw [figureBegin]
  split
  · exact .ofWord (mem_otherWords (by decide) (by decide) mode)
  · rename_i hkind
    have hname : beginEnvironment kind.name ∈ otherWords mode := by
      cases kind with
      | inline => exact absurd rfl hkind
      | margin | float | wide => exact mem_otherWords (by decide) (by decide) mode
    exact .after hname (setsNoLabel_placementOption kind hposition)

theorem setsNoLabel_figureEnd (kind : FigureType) :
    SetsNoLabel mode given (figureEnd kind) := by
  cases kind <;> exact .ofWord (mem_otherWords (by decide) (by decide) mode)

/-- A figure sets one label. -/
theorem labelled_figureLines (kind : FigureType) (n : Nat) {plot : String}
    (hplot : plot ∈ given) (hcaption : e.caption ∈ given)
    (hposition : ∀ p ∈ e.position, p ∈ given) :
    Labelled (SetsNoLabel mode given) [figureLabel e n] (figureLines kind e n plot) := by
  have hcaptions : Labelled (SetsNoLabel mode given) [figureLabel e n] (captionLines kind e n) :=
    labelled_captionLines kind n hcaption
  have hfront : ∀ m ∈ figureBegin kind e :: if kind = .float ∨ kind = .wide then ["\\centering"]
      else [], SetsNoLabel mode given m := by
    refine List.forall_mem_cons.2 ⟨setsNoLabel_figureBegin kind hposition, fun m hm ↦ ?_⟩
    split at hm
    · rw [List.mem_singleton.1 hm]
      exact .ofWord (mem_otherWords (by decide) (by decide) mode)
    · exact absurd hm List.not_mem_nil
  have hinner : Labelled (SetsNoLabel mode given) [figureLabel e n]
      (if e.caption.isEmpty || e.captionPosition == .after then plot :: captionLines kind e n
        else captionLines kind e n ++ [plot]) := by
    split
    · exact .line (.ofText hplot) hcaptions
    · exact hcaptions.before fun m hm ↦ List.mem_singleton.1 hm ▸ .ofText hplot
  exact (hinner.after hfront).before fun m hm ↦
    List.mem_singleton.1 hm ▸ setsNoLabel_figureEnd kind

end Figure

/-! ## Entries -/

/-- The texts an author gave with an entry. -/
def Entry.allTexts (axes : Axes) (e : Entry) : List String := e.texts axes ++ e.source?.toList

/-- **What an entry becomes** sets its label, if it has one, and no other. -/
theorem labelled_blockLines {axes : Axes} {step : Nat × SectionStep} {bl : List String}
    (h : blockLines mode axes step = .ok bl)
    (hgiven : ∀ t ∈ step.2.entry.allTexts axes, t ∈ given)
    (hopens : ∀ t ∈ step.2.opens, t ∈ given) :
    Labelled (SetsNoLabel mode given) (label? step).toList bl := by
  obtain ⟨n, s⟩ := step
  obtain ⟨content, hcontent, rfl⟩ := blockLines_eq_ok.1 h
  have hheading : Labelled (SetsNoLabel mode given) (headingLabel? s).toList (headingLines s) :=
    labelled_headingLines hopens
  suffices hlabels : Labelled (SetsNoLabel mode given) (label? (n, s)).toList
      (headingLines s ++ content) from
    hlabels.before fun m hm ↦ List.mem_singleton.1 hm ▸ .empty
  obtain ⟨entry, opens⟩ := s
  cases entry with
  | text e =>
    rw [← Except.ok.inj hcontent]
    have htext : SetsNoLabel mode given e.text :=
      .ofText (hgiven _ (by simp [Entry.allTexts, Entry.texts]))
    refine hheading.before (List.forall_mem_cons.2 ⟨htext, fun m hm ↦ ?_⟩)
    cases hsource : e.source with
    | none =>
      rw [hsource] at hm
      exact absurd hm List.not_mem_nil
    | some source =>
      rw [hsource] at hm
      refine setsNoLabel_listing (hgiven _ ?_) m hm
      simp [Entry.allTexts, Entry.source?, hsource]
  | code e =>
    have hlabel : label? (n, ⟨.code e, opens⟩) = headingLabel? ⟨.code e, opens⟩ :=
      Option.or_none
    rw [hlabel, ← Except.ok.inj hcontent]
    refine hheading.before fun m hm ↦ ?_
    rcases List.mem_append.1 hm with hm | hm
    · split at hm
      · exact absurd hm List.not_mem_nil
      · rw [List.mem_singleton.1 hm]
        exact .ofText (hgiven _ (by simp [Entry.allTexts, Entry.texts]))
    · exact setsNoLabel_listing (hgiven _ (by simp [Entry.allTexts, Entry.source?])) m hm
  | figure e =>
    obtain ⟨kind, -, plot, hplot, rfl⟩ := contentLines_figure_eq_ok.1 hcontent
    rw [label?_figure]
    refine hheading.append (labelled_figureLines kind n ?_ ?_ ?_)
    · exact hgiven _ (by simp [Entry.allTexts, Entry.texts, hplot, Except.toOption])
    · exact hgiven _ (by simp [Entry.allTexts, Entry.texts])
    · intro p hp
      exact hgiven _ (by simp [Entry.allTexts, Entry.texts, Option.mem_def.1 hp])

theorem toList_append_filterMap {α β : Type} (f : α → Option β) (a : α) (as : List α) :
    (f a).toList ++ as.filterMap f = (a :: as).filterMap f := by
  cases h : f a <;> simp [h]

/-- Entries set their labels one after another. -/
theorem labelled_flatten {axes : Axes} {steps : List (Nat × SectionStep)}
    {bs : List (List String)} (h : steps.mapM (blockLines mode axes) = .ok bs)
    (hgiven : ∀ step ∈ steps, ∀ t ∈ step.2.entry.allTexts axes, t ∈ given)
    (hopens : ∀ step ∈ steps, ∀ t ∈ step.2.opens, t ∈ given) :
    Labelled (SetsNoLabel mode given) (steps.filterMap label?) bs.flatten := by
  induction steps generalizing bs with
  | nil =>
    rw [pure_eq_ok.1 h]
    exact .nil
  | cons step steps ih =>
    obtain ⟨bl, rest, hbl, hrest, rfl⟩ := mapM_cons_eq_ok.1 h
    obtain ⟨hstep, hsteps⟩ := List.forall_mem_cons.1 hgiven
    obtain ⟨hopen, hopens⟩ := List.forall_mem_cons.1 hopens
    rw [← toList_append_filterMap, List.flatten_cons]
    exact (labelled_blockLines hbl hstep hopen).append (ih hrest hsteps hopens)

end

/-! ## Labels that differ -/

/-- The name of an entry that is code. -/
def Entry.name? : Entry → Option String
  | .code e => some e.name
  | _ => none

/-- What two functions find, one of them at each place. -/
theorem perm_filterMap_or {α β : Type} {f g : α → Option β} {as : List α}
    (h : ∀ a ∈ as, f a = none ∨ g a = none) :
    (as.filterMap fun a ↦ (f a).or (g a)).Perm (as.filterMap f ++ as.filterMap g) := by
  induction as with
  | nil => exact .nil
  | cons a as ih =>
    obtain ⟨ha, has⟩ := List.forall_mem_cons.1 h
    have hrest := ih has
    cases hf : f a with
    | none => cases hg : g a with
      | none => simpa [hf, hg] using hrest
      | some b =>
        simp only [List.filterMap_cons, hf, hg, Option.none_or]
        exact (hrest.cons b).trans List.perm_middle.symm
    | some b =>
      have hg : g a = none := ha.resolve_left (by simp [hf])
      simp only [List.filterMap_cons, hf, hg, Option.some_or, List.cons_append]
      exact hrest.cons b

/-- No label is chosen and made by the library. -/
theorem chosenLabel?_or_derivedLabel? (step : Nat × SectionStep) :
    chosenLabel? step = none ∨ derivedLabel? step = none := by
  obtain ⟨n, entry, opens⟩ := step
  cases entry with
  | text e => exact .inl rfl
  | code e => exact .inl rfl
  | figure e =>
    rw [chosenLabel?_figure, derivedLabel?_figure]
    cases nonempty? e.label <;> simp

/-- Figures are numbered in order. -/
theorem pairwise_numberFrom (n : Nat) (steps : List SectionStep) :
    (numberFrom n steps).Pairwise (fun a b ↦ b.2.entry.figure?.isSome → a.1 < b.1)
      ∧ ∀ a ∈ numberFrom n steps, n ≤ a.1 ∧ (a.2.entry.figure?.isSome → n < a.1) := by
  induction steps generalizing n with
  | nil => exact ⟨.nil, fun a ha ↦ absurd ha List.not_mem_nil⟩
  | cons s steps ih =>
    rw [numberFrom]
    obtain ⟨hpairs, hbounds⟩ := ih (if s.entry.figure?.isSome then n + 1 else n)
    refine ⟨List.pairwise_cons.2 ⟨fun b hb ↦ (hbounds b hb).2, hpairs⟩, ?_⟩
    have hle : n ≤ if s.entry.figure?.isSome then n + 1 else n := by
      split <;> omega
    refine List.forall_mem_cons.2 ⟨⟨hle, fun hfigure ↦ ?_⟩, fun a ha ↦ ?_⟩
    · rw [if_pos hfigure]
      exact Nat.lt_succ_self n
    · obtain ⟨hbound, hfigures⟩ := hbounds a ha
      exact ⟨hle.trans hbound, fun hfigure ↦ hle.trans_lt (hfigures hfigure)⟩

/-- What a label of the library is made from. -/
theorem derivedLabel?_eq_some {step : Nat × SectionStep} {l : String}
    (h : derivedLabel? step = some l) :
    (∃ name, step.2.entry.name? = some name ∧ l = "sec:" ++ name)
      ∨ step.2.entry.figure?.isSome ∧ l = "fig:" ++ toString step.1 := by
  obtain ⟨n, entry, opens⟩ := step
  cases entry with
  | text e => cases h
  | code e =>
    rw [derivedLabel?, headingLabel?, numberLabel?, Option.or_none] at h
    obtain ⟨_, _, rfl⟩ := Option.map_eq_some_iff.1 h
    exact .inl ⟨e.name, rfl, rfl⟩
  | figure e =>
    rw [derivedLabel?_figure] at h
    split at h
    · cases h
    · exact .inr ⟨rfl, (Option.some.inj h).symm⟩

/-- Labels made from names and from numbers are of two kinds. -/
theorem heading_ne_number (s t : String) : "sec:" ++ s ≠ "fig:" ++ t := by
  intro h
  have hchars := congrArg String.toList h
  simp [String.toList_append] at hchars

/-- Different numbers make different labels. -/
theorem number_inj {m n : Nat} (h : "fig:" ++ toString m = "fig:" ++ toString n) : m = n := by
  have hdigits : Nat.toDigits 10 m = Nat.toDigits 10 n := by
    have hchars := congrArg String.toList h
    rw [String.toList_append, String.toList_append, List.append_cancel_left_eq] at hchars
    rwa [Nat.toString_eq_repr, Nat.toString_eq_repr, Nat.toList_repr, Nat.toList_repr] at hchars
  rw [← Nat.ofDigitChars_ten_toDigits (n := m), hdigits, Nat.ofDigitChars_ten_toDigits]

/-- **The labels the library makes differ** if the names of code do. -/
theorem nodup_derivedLabels {steps : List (Nat × SectionStep)}
    (hnames : (steps.filterMap (·.2.entry.name?)).Nodup)
    (hnumbers : steps.Pairwise fun a b ↦ b.2.entry.figure?.isSome → a.1 < b.1) :
    (steps.filterMap derivedLabel?).Nodup := by
  rw [List.Nodup, List.pairwise_filterMap] at hnames ⊢
  refine (hnames.and hnumbers).imp ?_
  rintro a b ⟨hname, hnumber⟩ l hl m hm rfl
  rcases derivedLabel?_eq_some hl with ⟨s, hs, rfl⟩ | ⟨-, rfl⟩
  · rcases derivedLabel?_eq_some hm with ⟨t, ht, hst⟩ | ⟨-, hst⟩
    · exact hname s hs t ht (by simpa using hst)
    · exact heading_ne_number _ _ hst
  · rcases derivedLabel?_eq_some hm with ⟨t, -, hst⟩ | ⟨hfigure, hst⟩
    · exact heading_ne_number _ _ hst.symm
    · exact Nat.ne_of_lt (hnumber hfigure) (number_inj hst)

namespace Document

variable {d : Document}

/-- The labels authors chose for figures, in order. -/
def chosenLabels (d : Document) : List String := d.figures.filterMap (nonempty? ·.label)

/-- The labels the library makes, in order. -/
def derivedLabels (d : Document) : List String := d.plan.filterMap derivedLabel?

theorem filterMap_chosenLabel?_plan (d : Document) :
    d.plan.filterMap chosenLabel? = d.chosenLabels := by
  rw [chosenLabels, figures, ← map_entry_plan, List.filterMap_map, List.filterMap_filterMap]
  rfl

/-- The labels of a document are those that were chosen and those that the library makes. -/
theorem perm_labels (d : Document) : d.labels.Perm (d.chosenLabels ++ d.derivedLabels) := by
  rw [← filterMap_chosenLabel?_plan]
  exact perm_filterMap_or fun step _ ↦ chosenLabel?_or_derivedLabel? step

/-- Where the labels of a document stand in its body. -/
theorem exists_labelled_of_body {axes : Axes} {body : String} (h : d.body axes = .ok body) :
    ∃ lines, body = dropNewlines (joinLines lines)
      ∧ Labelled (SetsNoLabel d.mode (d.texts axes ++ d.sources)) d.labels lines := by
  obtain ⟨bs, hbs, hbody⟩ := body_eq_ok_of_blocks.1 h
  have hentry : ∀ step ∈ d.plan, step.2.entry ∈ d.entries := fun step hstep ↦ by
    rw [← map_entry_plan]
    exact List.mem_map_of_mem hstep
  have hgiven : ∀ step ∈ d.plan, ∀ t ∈ step.2.entry.allTexts axes,
      t ∈ d.texts axes ++ d.sources := by
    intro step hstep t ht
    rcases List.mem_append.1 ht with ht | ht
    · refine List.mem_append_left _ (List.mem_append_right _ ?_)
      exact List.mem_flatMap.2 ⟨_, hentry step hstep, ht⟩
    · refine List.mem_append_right _ (List.mem_filterMap.2 ⟨_, hentry step hstep, ?_⟩)
      simpa using ht
  refine ⟨bs.flatten, hbody, labelled_flatten hbs hgiven fun step hstep t ht ↦ ?_⟩
  obtain ⟨title, htitle⟩ := opens_of_mem_plan hstep
  have hopening : opening d.autoSections title step.2.entry = some t := htitle.symm.trans ht
  exact hgiven step hstep t (List.mem_append_left _ (opening_mem_texts hopening))

/-- **Labels that never collide.**  The labels a body sets are those of its document.  If no two
definitions have one name, and no two figures one chosen label, all labels differ exactly if the
library makes none that was chosen for a figure. -/
theorem labels_nodup_iff {axes : Axes} (hnames : (d.entries.filterMap Entry.name?).Nodup)
    (hchosen : d.chosenLabels.Nodup) :
    (∀ body, d.body axes = .ok body → ∃ lines, body = dropNewlines (joinLines lines)
        ∧ Labelled (SetsNoLabel d.mode (d.texts axes ++ d.sources)) d.labels lines)
      ∧ (d.labels.Nodup ↔ ∀ l ∈ d.chosenLabels, l ∉ d.derivedLabels) := by
  refine ⟨fun body h ↦ exists_labelled_of_body h, ?_⟩
  have hderived : d.derivedLabels.Nodup := by
    rw [← map_entry_plan, List.filterMap_map] at hnames
    exact nodup_derivedLabels hnames (pairwise_numberFrom 0 _).1
  rw [d.perm_labels.nodup_iff, List.nodup_append]
  constructor
  · rintro ⟨-, -, hapart⟩ l hl hl'
    exact hapart l hl l hl' rfl
  · intro hapart
    refine ⟨hchosen, hderived, ?_⟩
    rintro l hl _ hl' rfl
    exact hapart l hl hl'

/-- A definition with a figure of its own and one that is left to its number. -/
def plottedLoss : Document where
  entries := [.code ⟨"", "x = 1", "Loss", "loss"⟩,
    .figure { plot := .raw "\\draw (0,0);" none, caption := "Loss", label := some "fig:loss" },
    .figure { plot := .raw "\\draw (1,1);" none }]

theorem labels_nodup_of_plottedLoss :
    (plottedLoss.entries.filterMap Entry.name?).Nodup ∧ plottedLoss.chosenLabels.Nodup
      ∧ plottedLoss.labels = ["sec:loss", "fig:loss", "fig:2"] ∧ plottedLoss.labels.Nodup
      ∧ ∃ body lines, plottedLoss.body #[] = .ok body ∧ body = dropNewlines (joinLines lines)
        ∧ Labelled (SetsNoLabel .standard (plottedLoss.texts #[] ++ plottedLoss.sources))
          ["sec:loss", "fig:loss", "fig:2"] lines := by
  have hnames : (plottedLoss.entries.filterMap Entry.name?).Nodup := by decide
  have hchosen : plottedLoss.chosenLabels.Nodup := by decide
  have hlabels : plottedLoss.labels = ["sec:loss", "fig:loss", "fig:2"] := by decide
  obtain ⟨hbody, hnodup⟩ := @labels_nodup_iff plottedLoss #[] hnames hchosen
  obtain ⟨body, h⟩ : ∃ body, plottedLoss.body #[] = .ok body := ⟨_, rfl⟩
  obtain ⟨lines, hlines, hlabelled⟩ := hbody body h
  rw [hlabels] at hlabelled
  exact ⟨hnames, hchosen, hlabels, hnodup.2 (by decide), body, lines, h, hlines, hlabelled⟩

/-- The same with labels chosen that the library makes as well. -/
def overlabelledLoss : Document where
  entries := [.code ⟨"", "x = 1", "Loss", "loss"⟩,
    .figure { plot := .raw "\\draw (0,0);" none, label := some "sec:loss" },
    .figure { plot := .raw "\\draw (1,1);" none, label := some "fig:3" },
    .figure { plot := .raw "\\draw (2,2);" none }]

/-- A chosen label may be the one of a heading, or of a figure behind. -/
theorem labels_overlabelledLoss :
    (overlabelledLoss.entries.filterMap Entry.name?).Nodup ∧ overlabelledLoss.chosenLabels.Nodup
      ∧ overlabelledLoss.labels = ["sec:loss", "sec:loss", "fig:3", "fig:3"]
      ∧ ¬ overlabelledLoss.labels.Nodup
      ∧ (overlabelledLoss.body #[]).toOption = some ("\\section\x7bLoss\x7d\n"
        ++ "\\label\x7bsec:loss\x7d\n\\begin\x7blstlisting\x7d\nx = 1\n\\end\x7blstlisting\x7d\n\n"
        ++ "\\begin\x7bfigure\x7d[htbp]\n\\centering\n\\draw (0,0);\n"
        ++ "\\label\x7bsec:loss\x7d\n\\end\x7bfigure\x7d\n\n"
        ++ "\\begin\x7bfigure\x7d[htbp]\n\\centering\n\\draw (1,1);\n"
        ++ "\\label\x7bfig:3\x7d\n\\end\x7bfigure\x7d\n\n"
        ++ "\\begin\x7bfigure\x7d[htbp]\n\\centering\n\\draw (2,2);\n"
        ++ "\\label\x7bfig:3\x7d\n\\end\x7bfigure\x7d") := by
  decide +kernel

end Document

end TexWeave

import TexWeave.Proofs.References

/-!
# When one pass is enough

Two things keep a document from being built in one pass: what it is made of, and what its text says.
A table of contents or a figure settles the matter before the text is looked at.  Looking would have
given the same answer, for both put a command into the text that refers to an earlier run, and so
does code that opens a section.

* `IsReferenceName`, `RefersBack` — the commands that refer to an earlier run, and where one stands
  in a text.
* `hasReference_iff` — the search finds one exactly if there is one.
* `hasReference_of_label` — a label in an entry is one.
* `Document.needsSecondPass_eq_false_iff` — one pass is enough exactly if the text has none.
-/

set_option autoImplicit false

namespace TexWeave

open Text

/-! ## Commands in a text -/

/-- The name of a command that shows what an earlier run wrote down.  There are many commands that
cite: any word characters may follow. -/
inductive IsReferenceName : List Char → Prop
  | fixed {name : String} (h : name ∈ ["label", "ref", "eqref", "pageref", "autoref", "cref",
      "Cref", "nameref", "footnote", "tableofcontents"]) : IsReferenceName name.toList
  | citing {more : List Char} (h : ∀ c ∈ more, isWordChar c = true) :
      IsReferenceName ("cite".toList ++ more)

/-- Somewhere in a text stands a backslash with such a name behind it, and no word character goes on
behind the name. -/
def RefersBack (text : List Char) : Prop :=
  ∃ front name rest, text = front ++ '\\' :: (name ++ rest) ∧ IsReferenceName name
    ∧ ∀ c ∈ rest.head?, isWordChar c = false

/-- These names are words. -/
theorem IsReferenceName.isWord {name : List Char} (h : IsReferenceName name) :
    ∀ c ∈ name, isWordChar c = true := by
  cases h with
  | fixed h =>
    have hwords : referenceNames.all (fun name ↦ name.toList.all isWordChar) = true := by decide
    exact List.all_eq_true.1 (List.all_eq_true.1 hwords _ h)
  | citing h =>
    have hcite : "cite".toList.all isWordChar = true := by decide
    exact List.forall_mem_append.2 ⟨List.all_eq_true.1 hcite, h⟩

/-- Of a word, the library knows whether it is such a name. -/
theorem isReferenceCommand_iff {word : List Char} (h : ∀ c ∈ word, isWordChar c = true) :
    isReferenceCommand word = true ↔ IsReferenceName word := by
  rw [isReferenceCommand, Bool.or_eq_true, List.any_eq_true, List.isPrefixOf_iff_prefix]
  constructor
  · rintro (⟨name, hname, hword⟩ | ⟨more, rfl⟩)
    · rw [← beq_iff_eq.1 hword]
      exact .fixed hname
    · exact .citing (List.forall_mem_append.1 h).2
  · rintro (⟨hname⟩ | ⟨_⟩)
    · exact .inl ⟨_, hname, beq_self_eq_true _⟩
    · exact .inr ⟨_, rfl⟩

/-- The word at the front of a text, and what ends it. -/
theorem takeWhile_append_of_ends {p : Char → Bool} {word rest : List Char}
    (hword : ∀ c ∈ word, p c = true) (hrest : ∀ c ∈ rest.head?, p c = false) :
    (word ++ rest).takeWhile p = word := by
  rw [List.takeWhile_append_of_pos hword]
  cases rest with
  | nil => rw [List.takeWhile_nil, List.append_nil]
  | cons c rest =>
    rw [List.takeWhile_cons_of_neg (by simp [hrest c rfl]), List.append_nil]

/-- **The search finds a command exactly if there is one**, wherever it stands. -/
theorem hasReference_iff {text : List Char} : hasReference text = true ↔ RefersBack text := by
  induction text with
  | nil =>
    refine ⟨(nomatch ·), ?_⟩
    rintro ⟨front, name, rest, h, _⟩
    exact absurd h.symm (by simp)
  | cons c text ih =>
    rw [hasReference, Bool.or_eq_true, Bool.and_eq_true, beq_iff_eq, ih]
    constructor
    · rintro (⟨rfl, hword⟩ | ⟨front, name, rest, rfl, h⟩)
      · -- the word at the front is the name, and what was not taken ends it
        rw [isReferenceCommand_iff fun c hc ↦ List.mem_takeWhile_imp hc] at hword
        refine ⟨[], _, text.dropWhile isWordChar, ?_, hword, fun c hc ↦ ?_⟩
        · rw [List.takeWhile_append_dropWhile, List.nil_append]
        · have hend := List.head?_dropWhile_not isWordChar text
          rwa [Option.mem_def.1 hc] at hend
      · exact ⟨c :: front, name, rest, rfl, h⟩
    · rintro ⟨front, name, rest, htext, hname, hrest⟩
      cases front with
      | nil =>
        obtain ⟨rfl, rfl⟩ := List.cons.inj htext
        refine .inl ⟨rfl, ?_⟩
        rw [takeWhile_append_of_ends hname.isWord hrest]
        exact (isReferenceCommand_iff hname.isWord).2 hname
      | cons b front =>
        obtain ⟨rfl, rfl⟩ := List.cons.inj htext
        exact .inr ⟨front, name, rest, rfl, hname, hrest⟩

/-- A label is such a command. -/
theorem hasReference_label (s : String) : hasReference (command "label" s).toList = true := by
  refine hasReference_iff.2 ⟨[], "label".toList, (braced s).toList, ?_, .fixed (by decide), ?_⟩
  · simp [command, String.toList_append]
  · intro c hc
    have hbrace : c = '\x7b' := by simpa [braced, String.toList_append] using hc.symm
    rw [hbrace]
    decide

/-! ## Documents -/

/-- Every figure is labelled. -/
theorem label_mem_figureLines (kind : FigureType) (e : FigureEntry) (n : Nat) (plot : String) :
    command "label" (figureLabel e n) ∈ figureLines kind e n plot := by
  have hcaption : command "label" (figureLabel e n) ∈ captionLines kind e n := by
    rw [captionLines]
    grind
  rw [figureLines]
  grind

namespace Document

variable {axes : Axes} {d : Document} {text : String}

/-- A label in one of its entries makes the text of a document refer to an earlier run. -/
theorem hasReference_of_label (h : d.render axes = .ok text) {step : Nat × SectionStep}
    (hstep : step ∈ d.plan) (hlabel : ∀ bl, blockLines d.mode axes step = .ok bl →
      ∃ s, command "label" s ∈ bl) : hasReference text.toList = true := by
  obtain ⟨names, bs, _, hbs, htext⟩ := hasReference_render h
  obtain ⟨bl, hbl, hblock⟩ := exists_mem_of_mapM hbs hstep
  obtain ⟨s, hs⟩ := hlabel bl hblock
  have hline : command "label" s ∈ d.preambleLines names ++ bs.flatten :=
    List.mem_append_right _ (List.mem_flatten.2 ⟨bl, hbl, hs⟩)
  rw [htext, List.any_eq_true.2 ⟨_, hline, hasReference_label s⟩, Bool.or_true]

theorem hasReference_of_figures (h : d.render axes = .ok text) (hd : d.figures ≠ []) :
    hasReference text.toList = true := by
  obtain ⟨e, he⟩ := List.exists_mem_of_ne_nil _ hd
  obtain ⟨entry, hentry, hfigure⟩ := List.mem_filterMap.1 he
  rw [← map_entry_plan] at hentry
  obtain ⟨step, hstep, rfl⟩ := List.mem_map.1 hentry
  refine hasReference_of_label h hstep fun bl hbl ↦ ?_
  obtain ⟨content, hcontent, rfl⟩ := blockLines_eq_ok.1 hbl
  have hentry : step.2.entry = .figure e := by
    cases hkind : step.2.entry with
    | figure e' =>
      rw [hkind] at hfigure
      rw [Option.some.inj hfigure]
    | text _ | code _ =>
      rw [hkind] at hfigure
      cases hfigure
  rw [hentry] at hcontent
  obtain ⟨kind, _, plot, _, rfl⟩ := contentLines_figure_eq_ok.1 hcontent
  exact ⟨_, List.mem_append_left _ (List.mem_append_right _ (label_mem_figureLines kind e _ plot))⟩

/-- Code that opens a section is labelled. -/
theorem hasReference_of_heading (h : d.render axes = .ok text) {step : Nat × SectionStep}
    (hstep : step ∈ d.plan) {e : CodeEntry} (he : step.2.entry = .code e)
    (hheading : headingLines step.2 ≠ []) : hasReference text.toList = true := by
  refine hasReference_of_label h hstep fun bl hbl ↦ ?_
  obtain ⟨content, _, rfl⟩ := blockLines_eq_ok.1 hbl
  refine ⟨"sec:" ++ e.name, List.mem_append_left _ (List.mem_append_left _ ?_)⟩
  rw [headingLines] at hheading ⊢
  split
  · next hopens =>
    rw [hopens] at hheading
    exact absurd rfl hheading
  · rw [he]
    exact List.mem_cons_of_mem _ List.mem_cons_self

/-- What a document is made of never decides differently from its text. -/
theorem needsSecondPassWith_eq (h : d.render axes = .ok text) :
    d.needsSecondPassWith text = hasReference text.toList := by
  obtain ⟨names, bs, _, _, htext⟩ := hasReference_render h
  rw [needsSecondPassWith]
  by_cases hfigures : d.figures = []
  · rw [hfigures, htext]
    simp
  · rw [hasReference_of_figures h hfigures, Bool.or_true]

/-- **One pass is enough** exactly if no command in the text refers to an earlier run, in whatever
position.  Such a document has no table of contents, no figure, and no code that opens a section.
Whatever the tools, a build that plans a single pass has found that one is enough. -/
theorem needsSecondPass_eq_false_iff (h : d.render axes = .ok text) :
    (d.needsSecondPass axes none = .ok false ↔ ¬ RefersBack text.toList)
      ∧ (d.needsSecondPass axes none = .ok false → d.contents = false ∧ d.figures = []
        ∧ ∀ step ∈ d.plan, ∀ e, step.2.entry = .code e → headingLines step.2 = [])
      ∧ ∀ tools extra, (planPasses tools d.jobname (d.twoPasses text) extra).length = 1 →
        d.needsSecondPass axes none = .ok false := by
  have hneeds : d.needsSecondPass axes none = .ok (hasReference text.toList) := by
    rw [needsSecondPass_of_render h, needsSecondPassWith_eq h]
  have hfalse : d.needsSecondPass axes none = .ok false ↔ hasReference text.toList = false := by
    rw [hneeds, Except.ok.injEq]
  refine ⟨?_, fun hd ↦ ⟨?_, ?_, ?_⟩, fun tools extra hplan ↦ ?_⟩
  · rw [hfalse, ← hasReference_iff, Bool.not_eq_true]
  · obtain ⟨names, bs, _, _, htext⟩ := hasReference_render h
    rw [hfalse, htext, Bool.or_eq_false_iff] at hd
    exact hd.1
  · by_contra hfigures
    rw [hfalse, hasReference_of_figures h hfigures] at hd
    cases hd
  · intro step hstep e he
    by_contra hheading
    rw [hfalse, hasReference_of_heading h hstep he hheading] at hd
    cases hd
  · rw [planPasses] at hplan
    split at hplan
    · cases hplan
    · split at hplan
      · cases hplan
      · next htwo =>
        rw [twoPasses, needsSecondPassWith_eq h, Bool.or_eq_true, not_or, Bool.not_eq_true,
          Bool.not_eq_true] at htwo
        exact hfalse.2 htwo.2

/-- Words that begin like the names of these commands, a source with a lone backslash, and code that
opens no section. -/
def plainNotes : Document where
  title := "Notes on \\textit\x7bloss\x7d"
  autoSections := false
  entries := [
    .text { text := "The \\labelsep and the \\reflectbox\x7bA\x7d are \\\x7bcite\x7d.\\" },
    .code ⟨"\\footnotesize", "sep = '\\\\'\nref = None", "Loss", "loss"⟩]

theorem needsSecondPass_eq_false_of_plainNotes :
    ∃ text, plainNotes.render #[] = .ok text
      ∧ plainNotes.needsSecondPass #[] none = .ok false ∧ ¬ RefersBack text.toList := by
  obtain ⟨text, h⟩ : ∃ text, plainNotes.render #[] = .ok text := ⟨_, rfl⟩
  obtain ⟨names, bs, hnames, hbs, htext⟩ := hasReference_render h
  obtain rfl : ["amsmath", "amssymb", "hyperref", "listings", "xcolor", "graphicx"] = names :=
    Except.ok.inj hnames
  obtain rfl : [["The \\labelsep and the \\reflectbox\x7bA\x7d are \\\x7bcite\x7d.\\", ""],
      ["\\footnotesize", "\\begin\x7blstlisting\x7d", "sep = '\\\\'\nref = None",
        "\\end\x7blstlisting\x7d", ""]] = bs := Except.ok.inj hbs
  have hlines : hasReference text.toList = false := htext.trans (by decide +kernel)
  have hneeds : plainNotes.needsSecondPass #[] none = .ok false := by
    rw [needsSecondPass_of_render h, needsSecondPassWith_eq h, hlines]
  exact ⟨text, h, hneeds, (needsSecondPass_eq_false_iff h).1.1 hneeds⟩

end Document

end TexWeave

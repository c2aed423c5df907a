import TexWeave.Proofs.Growth

/-!
# References to an earlier run

A command that shows what an earlier run wrote down never reaches over the end of its line.  So
markup refers to an earlier run exactly if one of its lines does.  Adding entries to a document adds
lines and takes none away, hence a document that needs a second pass goes on needing it.

* `hasReference_joinLines` — the lines of a text decide, each on its own.
* `Document.needsSecondPassWith_iff` — what makes a document need a second pass.
* `Document.needsSecondPass_append` — entries that are added never save a pass.
-/

set_option autoImplicit false

namespace TexWeave

open Text

/-! ## Line by line -/

/-- A character that belongs to no word ends the word in front of it. -/
theorem takeWhile_append_cons {p : Char → Bool} {c : Char} (hc : p c = false) (a b : List Char) :
    (a ++ c :: b).takeWhile p = a.takeWhile p := by
  induction a with
  | nil => rw [List.nil_append, List.takeWhile_cons_of_neg (by simp [hc]), List.takeWhile_nil]
  | cons x a ih =>
    rw [List.cons_append, List.takeWhile_cons, List.takeWhile_cons, ih]

/-- No command goes on behind a line feed. -/
theorem hasReference_append_newline (a b : List Char) :
    hasReference (a ++ '\n' :: b) = (hasReference a || hasReference b) := by
  induction a with
  | nil => rfl
  | cons c a ih =>
    rw [List.cons_append, hasReference, hasReference, ih, Bool.or_assoc,
      takeWhile_append_cons (by decide)]

/-- **The lines of a text decide**, each on its own, whether it refers to an earlier run. -/
theorem hasReference_joinLines (ls : List String) :
    hasReference (joinLines ls).toList = ls.any (hasReference ·.toList) := by
  induction ls with
  | nil => rfl
  | cons l ls ih =>
    by_cases hls : ls = []
    · simp [hls, joinLines, joinWith]
    · have hchars : (joinLines (l :: ls)).toList = l.toList ++ '\n' :: (joinLines ls).toList := by
        simp [joinLines_cons hls, String.toList_append]
      rw [hchars, hasReference_append_newline, ih, List.any_cons]

/-- Line feeds at the end make no difference. -/
theorem hasReference_dropNewlines (s : String) :
    hasReference (dropNewlines s).toList = hasReference s.toList := by
  have hfeeds (a : List Char) (k : Nat) :
      hasReference (a ++ List.replicate k '\n') = hasReference a := by
    induction k with
    | zero => rw [List.replicate_zero, List.append_nil]
    | succ k ih =>
      rw [List.replicate_succ', ← List.append_assoc, hasReference_append_newline, ih]
      exact Bool.or_false _
  obtain ⟨k, hk⟩ := exists_eq_dropNewlines_append s
  rw [hk, hfeeds]

namespace Document

variable {axes : Axes} {d : Document} {text : String}

/-- Around preamble and body, only the table of contents refers to an earlier run. -/
theorem hasReference_textParts (preamble body : String) :
    hasReference (joinLines (d.textParts preamble body) ++ "\n").toList
      = (d.contents || (hasReference preamble.toList || hasReference body.toList)) := by
  have hend : (joinLines (d.textParts preamble body) ++ "\n").toList
      = (joinLines (d.textParts preamble body)).toList ++ '\n' :: [] := String.toList_append ..
  have hempty : hasReference "".toList = false := rfl
  have hopen : hasReference (beginEnvironment "document").toList = false := by decide
  have hclose : hasReference (endEnvironment "document").toList = false := by decide
  have htitle : (if d.title.isEmpty then [] else ["\\maketitle"]).any (hasReference ·.toList)
      = false := by
    split
    · rfl
    · decide
  have hcontents : (if d.contents then ["\\tableofcontents"] else []).any (hasReference ·.toList)
      = d.contents := by
    cases d.contents
    · rfl
    · decide
  have hbody : (if body.isEmpty then [] else [body, ""]).any (hasReference ·.toList)
      = hasReference body.toList := by
    split
    · next hb => rw [String.isEmpty_iff.1 hb, hempty, List.any_nil]
    · simp [hasReference]
  rw [hend, hasReference_append_newline, hasReference_joinLines, textParts]
  simp only [List.any_append, List.any_cons, List.any_nil, hempty, hopen, hclose, htitle, hcontents,
    hbody, hasReference, Bool.or_false]
  rw [← Bool.or_assoc, Bool.or_comm (hasReference preamble.toList)]

/-- A text that was rendered refers to an earlier run with a line of its preamble or of its body, or
with the table of contents. -/
theorem hasReference_render (h : d.render axes = .ok text) :
    ∃ names bs, d.neededPackages = .ok names ∧ d.blocks axes = .ok bs
      ∧ hasReference text.toList
        = (d.contents || (d.preambleLines names ++ bs.flatten).any (hasReference ·.toList)) := by
  obtain ⟨preamble, body, hpreamble, hbody, rfl⟩ := render_eq_ok.1 h
  obtain ⟨names, hnames, rfl⟩ := preamble_eq_ok.1 hpreamble
  obtain ⟨bs, hbs, rfl⟩ := body_eq_ok_of_blocks.1 hbody
  refine ⟨names, bs, hnames, hbs, ?_⟩
  rw [hasReference_textParts, hasReference_dropNewlines, hasReference_dropNewlines,
    hasReference_joinLines, hasReference_joinLines, List.any_append]

/-- **What makes a document need a second pass**: a table of contents, a figure, or a line of its
preamble or its body that refers to an earlier run. -/
theorem needsSecondPassWith_iff (h : d.render axes = .ok text) :
    ∃ names bs, d.neededPackages = .ok names ∧ d.blocks axes = .ok bs
      ∧ (d.needsSecondPassWith text = true ↔ d.contents = true ∨ d.figures ≠ []
        ∨ ∃ l ∈ d.preambleLines names ++ bs.flatten, hasReference l.toList = true) := by
  obtain ⟨names, bs, hnames, hbs, href⟩ := hasReference_render h
  refine ⟨names, bs, hnames, hbs, ?_⟩
  rw [needsSecondPassWith, href, Bool.or_eq_true, Bool.or_eq_true, Bool.or_eq_true,
    List.any_eq_true, Bool.not_eq_true', List.isEmpty_eq_false_iff]
  tauto

/-- When no markup is given, it is rendered. -/
theorem needsSecondPass_of_render (h : d.render axes = .ok text) :
    d.needsSecondPass axes none = .ok (d.needsSecondPassWith text) := by
  rw [needsSecondPass, needsSecondPassWith]
  split
  · next hknown => rw [hknown, Bool.true_or]
  · next hunknown =>
    rw [Bool.eq_false_iff.2 hunknown, Bool.false_or, h]
    rfl

/-! ## More entries -/

/-- More packages make more lines. -/
theorem preambleLines_subset {names more : List String} (h : names ⊆ more) :
    d.preambleLines names ⊆ d.preambleLines more := by
  have hpackages : names.map (command "usepackage") ⊆ more.map (command "usepackage") :=
    List.map_subset _ h
  have hplots : (if names.contains "pgfplots" then [command "pgfplotsset" "compat=newest"] else [])
      ⊆ if more.contains "pgfplots" then [command "pgfplotsset" "compat=newest"] else [] := by
    split
    · next hnames =>
      rw [if_pos (List.contains_iff_mem.2 (h (List.contains_iff_mem.1 hnames)))]
      exact List.Subset.refl _
    · exact List.nil_subset _
  intro l hl
  simp only [preambleLines, List.cons_append, List.mem_cons, List.mem_append] at hl ⊢
  grind

section

variable {es : List Entry} {text' : String} (h' : (es.foldl append d).render axes = .ok text')
include h'

/-- A document that needs a second pass goes on needing it. -/
theorem needsSecondPassWith_append (h : d.render axes = .ok text)
    (hd : d.needsSecondPassWith text = true) :
    (es.foldl append d).needsSecondPassWith text' = true := by
  obtain ⟨names, bs, hnames, hbs, hbefore⟩ := needsSecondPassWith_iff h
  obtain ⟨names', bs', hnames', hbs', hafter⟩ := needsSecondPassWith_iff h'
  obtain ⟨_, _, ⟨_, moreNames, hn, hn'⟩, _, ⟨_, moreBlocks, hb, _, hb'⟩⟩ := render_append h'
  obtain rfl := Except.ok.inj (hnames.symm.trans hn)
  obtain rfl := Except.ok.inj (hnames'.symm.trans hn')
  obtain rfl := Except.ok.inj (hbs.symm.trans hb)
  obtain rfl := Except.ok.inj (hbs'.symm.trans hb')
  rw [hafter]
  rcases hbefore.1 hd with hcontents | hfigures | ⟨l, hl, hline⟩
  · rw [foldl_append]
    exact .inl hcontents
  · rw [foldl_append, figures, List.filterMap_append]
    exact .inr (.inl (List.append_ne_nil_of_left_ne_nil hfigures _))
  · refine .inr (.inr ⟨l, ?_, hline⟩)
    rw [foldl_append, List.flatten_append]
    rcases List.mem_append.1 hl with hl | hl
    · exact List.mem_append_left _ (preambleLines_subset (List.subset_append_left ..) hl)
    · exact List.mem_append_right _ (List.mem_append_left _ hl)

end

end Document

theorem planPasses_prefix (tools : Tools) (jobname : String) (extra : List String)
    {before after : Bool} (h : before = true → after = true) :
    planPasses tools jobname before extra <+: planPasses tools jobname after extra := by
  rw [planPasses, planPasses]
  cases tools.preprocessor.filter fun p ↦ !p.isEmpty with
  | some p => exact List.prefix_refl _
  | none =>
    cases before with
    | true =>
      obtain rfl := h rfl
      exact List.prefix_refl _
    | false =>
      cases after with
      | true => exact ⟨[engineCommand tools.engine jobname extra], rfl⟩
      | false => exact List.prefix_refl _

namespace Document

/-- **Entries that are added never save a pass.**  If a document with entries added to it can be
rendered, then so could it before, and it needs a second pass if it did before.  What a build runs
for it begins with what a build would have run before, by whatever tools and with whatever
arguments. -/
theorem needsSecondPass_append {axes : Axes} {d : Document} {es : List Entry} {text' : String}
    (h : (es.foldl append d).render axes = .ok text') :
    ∃ text before after, d.render axes = .ok text
      ∧ d.needsSecondPass axes none = .ok before
      ∧ (es.foldl append d).needsSecondPass axes none = .ok after
      ∧ (before = true → after = true)
      ∧ ∀ tools extra, planPasses tools d.jobname (d.twoPasses text) extra
        <+: planPasses tools (es.foldl append d).jobname
          ((es.foldl append d).twoPasses text') extra := by
  obtain ⟨text, hd⟩ := (render_append h).1
  have hneeds := needsSecondPassWith_append h hd
  refine ⟨text, _, _, hd, needsSecondPass_of_render hd, needsSecondPass_of_render h, hneeds,
    fun tools extra ↦ ?_⟩
  have htwo : d.twoPasses text = true → (es.foldl append d).twoPasses text' = true := by
    rw [twoPasses, twoPasses, Bool.or_eq_true, Bool.or_eq_true, foldl_append] at *
    exact Or.imp_right hneeds
  rw [foldl_append] at htwo ⊢
  exact planPasses_prefix tools d.jobname extra htwo

/-- A draft that refers to an equation. -/
def citingDraft : Document where
  entries := [.text { text := "By \\eqref\x7bloss\x7d it is convex." }]

/-- A remark behind it that refers to nothing. -/
def plainRemark : Entry := .text { text := "The margin is one." }

theorem needsSecondPass_append_of_citingDraft :
    (∃ text', ([plainRemark].foldl append citingDraft).render #[] = .ok text')
      ∧ citingDraft.needsSecondPass #[] none = .ok true
      ∧ ([plainRemark].foldl append citingDraft).needsSecondPass #[] none = .ok true := by
  obtain ⟨text', h⟩ : ∃ text', ([plainRemark].foldl append citingDraft).render #[] = .ok text' :=
    ⟨_, rfl⟩
  obtain ⟨_, before, after, _, hbefore, hafter, hneeds, _⟩ := needsSecondPass_append h
  obtain ⟨text, hd⟩ := (render_append h).1
  have hciting : citingDraft.needsSecondPassWith text = true := by
    obtain ⟨_, bs, _, hbs, hiff⟩ := needsSecondPassWith_iff hd
    obtain rfl : [["By \\eqref\x7bloss\x7d it is convex.", ""]] = bs := Except.ok.inj hbs
    exact hiff.2 (.inr (.inr ⟨_, List.mem_append_right _ List.mem_cons_self, by decide⟩))
  obtain rfl : before = true :=
    (Except.ok.inj (hbefore.symm.trans (needsSecondPass_of_render hd))).trans hciting
  rw [hneeds rfl] at hafter
  exact ⟨⟨text', h⟩, hbefore, hafter⟩

end Document

end TexWeave

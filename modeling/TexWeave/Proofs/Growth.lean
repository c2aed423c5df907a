import TexWeave.Proofs.Blocks
import TexWeave.Proofs.Distinct

/-!
# Documents only grow

Entries are added at the end.  What an entry becomes depends on the entries in front of it alone, so
nothing that was rendered once is ever rendered differently.

* `exists_plan_append`, `blocks_append` — an entry keeps its heading, its number and its lines.
* `neededPackages_append` — a package keeps its place.
* `render_append` — what a document keeps when entries are added.
-/

set_option autoImplicit false

namespace TexWeave

open Text

namespace Document

variable {axes : Axes}

theorem foldl_append (d : Document) (es : List Entry) :
    es.foldl append d = { d with entries := d.entries ++ es } := by
  induction es generalizing d with
  | nil => rw [List.foldl_nil, List.append_nil]
  | cons e r ih => rw [List.foldl_cons, ih, append, List.append_assoc, List.singleton_append]

/-! ## Parts -/

theorem exists_plan_append (d : Document) (es : List Entry) :
    ∃ more, (es.foldl append d).plan = d.plan ++ more := by
  rw [foldl_append, plan, planSections, planFrom_append, numberFrom_append]
  exact ⟨_, rfl⟩

theorem blocks_append {d : Document} {es : List Entry} {bs : List (List String)}
    (h : (es.foldl append d).blocks axes = .ok bs) :
    ∃ blocks more, d.blocks axes = .ok blocks ∧ bs = blocks ++ more := by
  obtain ⟨rest, hplan⟩ := exists_plan_append d es
  rw [blocks, hplan] at h
  obtain ⟨blocks, more, hblocks, _, rfl⟩ := mapM_append_eq_ok.1 h
  rw [foldl_append] at hblocks
  exact ⟨blocks, more, hblocks, rfl⟩

theorem neededPackages_append {d : Document} {es : List Entry} {ns : List String}
    (h : (es.foldl append d).neededPackages = .ok ns) :
    ∃ names more, d.neededPackages = .ok names ∧ ns = names ++ more := by
  rw [foldl_append] at h
  obtain ⟨ps, hps, rfl⟩ := neededPackages_eq_ok.1 h
  rw [figures, List.filterMap_append] at hps
  obtain ⟨xs, ys, hxs, _, rfl⟩ := mapM_append_eq_ok.1 hps
  rw [List.flatten_append, ← List.append_assoc]
  obtain ⟨more, hmore⟩ := distinct_prefix_append _ _
  exact ⟨_, more, neededPackages_eq_ok.2 ⟨xs, hxs, rfl⟩, hmore.symm⟩

/-! ## The whole -/

/-- **A document only grows.**  If a document with entries added to it can be rendered, then so
could it before.  Its body then begins with the body of before, its packages begin with those of
before, and every entry of before keeps its heading, the number of its figure and its lines. -/
theorem render_append {d : Document} {es : List Entry} {text : String}
    (h : (es.foldl append d).render axes = .ok text) :
    (∃ before, d.render axes = .ok before)
      ∧ (∃ body more, d.body axes = .ok body
        ∧ (es.foldl append d).body axes = .ok (body ++ more))
      ∧ (∃ names more, d.neededPackages = .ok names
        ∧ (es.foldl append d).neededPackages = .ok (names ++ more))
      ∧ (∃ more, (es.foldl append d).plan = d.plan ++ more)
      ∧ (∃ blocks more, d.blocks axes = .ok blocks ∧ blocks.length = d.entries.length
        ∧ (es.foldl append d).blocks axes = .ok (blocks ++ more)) := by
  obtain ⟨preamble', body', hpreamble', hbody', _⟩ := render_eq_ok.1 h
  obtain ⟨ns, hns, _⟩ := preamble_eq_ok.1 hpreamble'
  obtain ⟨bs, hbs, hbody⟩ := body_eq_ok_of_blocks.1 hbody'
  obtain ⟨names, moreNames, hnames, rfl⟩ := neededPackages_append hns
  obtain ⟨blocks, moreBlocks, hblocks, rfl⟩ := blocks_append hbs
  -- The blocks of before are the first lines of the body, and no line feed of theirs that was kept
  -- before is dropped now.
  obtain ⟨t, ht⟩ := exists_joinLines_append blocks.flatten moreBlocks.flatten
  obtain ⟨more, hmore⟩ := dropNewlines_append (joinLines blocks.flatten) t
  have hbefore : d.body axes = .ok (dropNewlines (joinLines blocks.flatten)) :=
    body_eq_ok_of_blocks.2 ⟨blocks, hblocks, rfl⟩
  rw [List.flatten_append, ht, hmore] at hbody
  exact ⟨⟨_, render_eq_ok.2 ⟨_, _, preamble_eq_ok.2 ⟨names, hnames, rfl⟩, hbefore, rfl⟩⟩,
    ⟨_, more, hbefore, hbody ▸ hbody'⟩, ⟨names, moreNames, hnames, hns⟩, exists_plan_append d es,
    ⟨blocks, moreBlocks, hblocks, length_of_blocks hblocks, hbs⟩⟩

/-- A draft with one definition. -/
def draft : Document where
  entries := [.code ⟨"", "x = 1\n", "Values", "x"⟩]

/-- A figure without a label, and a definition with a title the draft has already. -/
def draftAdditions : List Entry := [
  .figure { plot := .raw "\\draw (0,0);" (some ["tikz"]), caption := "A line" },
  .code ⟨"", "y = 2", "Values", "y"⟩]

theorem render_append_of_draft :
    (∃ text, (draftAdditions.foldl append draft).render #[] = .ok text)
      ∧ (∃ before, draft.render #[] = .ok before)
      ∧ ∃ body more, draft.body #[] = .ok body
        ∧ (draftAdditions.foldl append draft).body #[] = .ok (body ++ more) := by
  obtain ⟨text, h⟩ : ∃ text, (draftAdditions.foldl append draft).render #[] = .ok text := ⟨_, rfl⟩
  exact ⟨⟨text, h⟩, (render_append h).1, (render_append h).2.1⟩

end Document

end TexWeave

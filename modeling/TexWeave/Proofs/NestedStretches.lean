import TexWeave.Proofs.Shapes

/-!
# Where definitions at any depth stand in a text

A definition takes a stretch of its text, from its first word to the line feed that ends its last
line, whatever block it stands in.  Behind this stretch there may be lines that hold nothing but
comments; the next line then closes the blocks of the definition, and opens none.

* `firstWords`, `exists_firstWord` — the words that definitions begin with.
* `NestedStretch`, `exists_nestedStretch` — the stretch a definition takes.
-/

set_option autoImplicit false

namespace TexWeave
namespace Source

open Form Scanner Tree

/-! ## The first word -/

/-- The words a definition can begin with, decorators included. -/
def firstWords : List String := ["@", "def", "class", "async"]

section

variable {f : Syn} {ts r u : List Token} {a : List Tree}

theorem exists_first_of_word {s : String} {fs : List Syn}
    (h : Yields grammar (.seq (.word s :: fs)) u a) :
    ∃ k w, u = k :: w ∧ IsFixed k ∧ k.text = s := by
  obtain ⟨_, w, _, _, rfl, rfl, hword, -⟩ := h.parts
  obtain ⟨k, htext, hk, rfl, rfl⟩ := hword.token_of_word
  exact ⟨k, w, rfl, hk, htext⟩

theorem exists_firstWord (hf : f ∈ definingForms) (h : Yields grammar f u a) :
    ∃ k w, u = k :: w ∧ IsFixed k ∧ k.text ∈ firstWords := by
  have hfirst {s : String} {fs : List Syn} {v : List Token} {b : List Tree} (hs : s ∈ firstWords)
      (h : Yields grammar (.seq (.word s :: fs)) v b) :
      ∃ k w, v = k :: w ∧ IsFixed k ∧ k.text ∈ firstWords := by
    obtain ⟨k, w, hv, hk, rfl⟩ := exists_first_of_word h
    exact ⟨k, w, hv, hk, hs⟩
  simp only [definingForms, definitionForms, List.mem_cons, List.not_mem_nil, or_false] at hf
  rcases hf with rfl | rfl | rfl | rfl
  · obtain ⟨_, rfl, hparts⟩ := h.of_node
    obtain ⟨_, _, _, _, rfl, rfl, hdecorators, -⟩ := hparts.parts
    obtain ⟨_, _, _, _, rfl, rfl, hdecorator, -⟩ := hdecorators.parts
    obtain ⟨_, rfl, hline⟩ := hdecorator.of_node
    obtain ⟨k, w, rfl, hk⟩ := hfirst (by decide) hline
    exact ⟨k, _, rfl, hk⟩
  · obtain ⟨_, rfl, hline⟩ := h.of_node
    exact hfirst (by decide) hline
  · obtain ⟨_, rfl, hline⟩ := h.of_node
    exact hfirst (by decide) hline
  · obtain ⟨_, rfl, hline⟩ := h.of_node
    exact hfirst (by decide) hline

/-- What a definition begins with is no blank. -/
theorem exists_head_of_firstWord {w : String} (h : w ∈ firstWords) :
    ∃ c q, w.toList = c :: q ∧ Text.isBlank c = false := by
  have hwords : ∀ w ∈ firstWords, w.toList.head?.map Text.isBlank = some false := by decide
  obtain ⟨c, hc, hblank⟩ := Option.map_eq_some_iff.1 (hwords w h)
  obtain ⟨q, hq⟩ := List.head?_eq_some_iff.1 hc
  exact ⟨c, q, hq, hblank⟩

end

/-! ## The stretch -/

/-- The stretch of a text that a definition takes at any depth: `s` is the scan in front of it, and
`e` the scan in front of the line feed that ends its last line, behind which `X` is left; `ts` are
the tokens in between, `closing` those that close its blocks, and `behind` those that follow. -/
structure NestedStretch (text : List Char) (d : Tree) (s : Scanner) (ts : List Token)
    (e : Scanner) (X : List Char) (closing behind : List Token) : Prop where
  start : ∃ front u, Reaches { rest := text } front s ∧ AfterLayout front ∧ Tracks text u front s
  opening : ∃ k w r, d.tokens = k :: w ∧ k.text ∈ firstWords ∧ s.rest = k.text.toList ++ r
  inLine : s.atLineStart = false
  brackets : s.brackets = []
  firstLine_eq : d.firstLine = s.line
  reaches : Reaches s ts e
  isDefinition : IsDefinition ts closing.length
  walk_eq : walk blockCost 0 ts = some closing.length
  rest_eq : e.rest = '\n' :: X
  endInLine : e.atLineStart = false
  endBrackets : e.brackets = []
  tokens_eq : d.tokens = ts ++ e.part ['\n'] .newline :: closing
  closes : ∀ k ∈ closing, k.kind = .dedent ∧ k.text = ""
  runs : ∃ out, Runs (e.lineBreak X) out ∧ significant out = closing ++ behind
  level : StaysLevel behind

theorem NestedStretch.exists_head {text X : List Char} {d : Tree} {s e : Scanner}
    {ts closing behind : List Token} (h : NestedStretch text d s ts e X closing behind) :
    ∃ c r, s.rest = c :: r ∧ Text.isBlank c = false := by
  obtain ⟨k, w, r, -, hword, hrest⟩ := h.opening
  obtain ⟨c, q, hc, hblank⟩ := exists_head_of_firstWord hword
  exact ⟨c, q ++ r, by rw [hrest, hc, List.cons_append], hblank⟩

/-- **Every definition takes a stretch of its text**, which its form reads whatever comes behind. -/
theorem exists_nestedStretch {text : List Char} {t d : Tree} (hread : readText text = .ok t)
    (hd : d ∈ t.definitions) : ∃ s ts e X closing f behind,
      NestedStretch (closed text) d s ts e X closing behind ∧ f ∈ definingForms
      ∧ Parses grammar f (d.tokens ++ behind) (some ([d], behind))
      ∧ stringsAgree d.tokens = true := by
  obtain ⟨all, hall, hparse⟩ := exists_sentence_of_readText hread
  obtain ⟨out, hruns, hout⟩ := exists_runs_of_sentence hall
  obtain ⟨front, behind, f, hlocated⟩ := exists_located hparse hd
  have hspelled : ∀ k ∈ d.tokens, Spelled k := by
    intro k hk
    have hmem : k ∈ significant out :=
      hout ▸ hlocated.tokens_eq ▸ List.mem_append_right front (List.mem_append_left behind hk)
    exact hruns.spelled k (List.mem_of_mem_filter hmem)
  obtain ⟨v, hv, hyields⟩ := exists_yields_of_parses terminates_grammar hlocated.parses
    (isGrounded_of_mem_definingForms hlocated.form)
  obtain rfl := List.append_cancel_right hv
  obtain ⟨first, others, hdefinition, hfixed, hfirstWord⟩ :=
    exists_firstWord hlocated.form hyields
  obtain ⟨ts, feed, closing, hends, hfeed, hclosing, hshape⟩ :=
    exists_isDefinition hlocated.form hyields hspelled
  have hfirst := isSolid_of_isFixed hfixed
  have hbalance : excess d.tokens = 0 ∧ walk blockCost 0 d.tokens = some 0 := by
    have hbalance := balance.sound _ balance_grammar hyields 0
    have hnesting := (nesting blockCost).sound _ nesting_grammar hyields 0 0
    have hform := hlocated.form
    simp only [definingForms, definitionForms, List.mem_cons, List.not_mem_nil, or_false] at hform
    rcases hform with hf | hf | hf | hf <;> rw [hf] at hbalance hnesting <;>
      exact ⟨hbalance rfl, hnesting rfl 0⟩
  have hsplit := hlocated.tokens_eq
  obtain ⟨s, e, X, hpassage⟩ := exists_passage hruns (hout.trans (hdefinition ▸ hsplit))
    hlocated.excess_eq hfirst (hdefinition ▸ hbalance.1) (hdefinition ▸ hends) hfeed hclosing
  obtain ⟨s', hreads⟩ := hpassage.reads
  obtain rfl := hpassage.feed_eq
  obtain ⟨u, hu⟩ := (tracks_start (closed text)).reaches hpassage.reached
  obtain ⟨u', hu'⟩ := (stands_start (closed text)).reaches hpassage.reached
  have hwalk : walk blockCost 0 ts = some closing.length := by
    have hall := hbalance.2
    rw [hends, walk_append] at hall
    obtain ⟨m, hm, hmore⟩ := Option.bind_eq_some_iff.1 hall
    have hfeed' := walk_cons_of_cost blockCost (p := 0) (c := 0) (t := e.part ['\n'] .newline) rfl
      m closing
    rw [hm, length_eq_of_walk hclosing (hfeed'.symm.trans hmore), Nat.add_zero]
  refine ⟨s, ts, e, X, closing, f, behind, {
    start := ⟨front, u, hpassage.reached, hlocated.layout, hu⟩
    opening := ⟨first, others, s'.rest, hdefinition, hfirstWord, hreads.rest_eq⟩
    inLine := hpassage.inLine
    brackets := (hu'.layout hlocated.layout).1
    firstLine_eq := by
      rw [firstLine, hdefinition]
      exact hreads.line_eq
    reaches := hpassage.reaches
    isDefinition := hshape
    walk_eq := hwalk
    rest_eq := hpassage.rest_eq
    endInLine := hpassage.endInLine
    endBrackets := hpassage.outside
    tokens_eq := hends
    closes := hpassage.closes
    runs := hpassage.runs
    level := hlocated.level }, hlocated.form, hlocated.parses, ?_⟩
  rw [hsplit] at hall
  exact (stringsAgree_of_append (stringsAgree_of_append (stringsAgree_of_sentence? hall)).2).1

end Source
end TexWeave

import TexWeave.Proofs.CommentLines
import TexWeave.Proofs.Extents
import TexWeave.Proofs.NestedDefinitions
import TexWeave.Proofs.Stretches

/-!
# The shape of definitions among tokens

A definition is made of its first line, with the decorators in front of it, and of a block if its
first line is not all of it.  The tokens of a text show this shape: what a definition begins with is
told from names and numbers by its spelling, and blocks open and close at the beginning of lines.

* `Spelled`, `Runs.spelled` — operators and keywords are spelled as such.
* `IsFlat`, `isFlat_of_yields` — forms that keep to a line.
* `exists_isDefinition` — the tokens of a definition up to the end of its last line.
* `Reaches.arranged` — the tokens a scan finds are arranged.
-/

set_option autoImplicit false

namespace TexWeave
namespace Source

open Form Scanner

/-! ## Spelling -/

/-- An operator is spelled as one, and a keyword as a word. -/
structure Spelled (k : Token) : Prop where
  operator : k.kind = .operator → k.text ∈ operators.flatten
  keyword : k.kind = .keyword → ∀ c ∈ k.text.toList, isWordLike c = true

theorem spelled_of_kind {k : Token} (hoperator : k.kind ≠ .operator)
    (hkeyword : k.kind ≠ .keyword) : Spelled k :=
  ⟨fun h ↦ absurd h hoperator, fun h ↦ absurd h hkeyword⟩

theorem Spelled.keyword_of_text {k : Token} (h : Spelled k) (hfixed : IsFixed k)
    (htext : k.text ∉ operators.flatten) : k.kind = .keyword :=
  hfixed.resolve_left fun hkind ↦ htext (h.operator hkind)

theorem Spelled.operator_of_text {k : Token} (h : Spelled k) (hfixed : IsFixed k) {c : Char}
    (hc : c ∈ k.text.toList) (hlike : isWordLike c = false) : k.kind = .operator :=
  hfixed.resolve_right fun hkind ↦ by
    rw [h.keyword hkind c hc] at hlike
    cases hlike

namespace Scanner

section

variable {s t : Scanner} {new : List Token}

theorem Step.spelled_of_fields {fuel : Nat} (h : Step fuel s new t)
    (hfields : ∀ n < fuel, ∀ line expressions inner,
      fields n line expressions = some inner → ∀ k ∈ inner.reverse, Spelled k) :
    ∀ k ∈ new, Spelled k := by
  have hpart {kind : TokenKind} (used : List Char) (hoperator : kind ≠ .operator)
      (hkeyword : kind ≠ .keyword) : ∀ k ∈ [s.part used kind], Spelled k :=
    List.forall_mem_singleton.2 (spelled_of_kind hoperator hkeyword)
  cases h with
  | blank => exact List.forall_mem_nil _
  | fold => exact List.forall_mem_nil _
  | comment => exact hpart _ (by decide) (by decide)
  | lineBreak =>
    split
    · exact hpart _ (by decide) (by decide)
    · exact hpart _ (by decide) (by decide)
  | @word kind used _ _ _ hkind hlike =>
    refine List.forall_mem_singleton.2 ⟨fun h ↦ ?_, fun _ c hc ↦ hlike c ?_⟩
    · rcases hkind with rfl | rfl <;> cases h
    · rwa [part, String.toList_ofList] at hc
  | literal _ _ hkind =>
    rcases hkind with rfl | rfl | rfl
    · exact hpart _ (by decide) (by decide)
    · exact hpart _ (by decide) (by decide)
    · exact hpart _ (by decide) (by decide)
  | @embedded n used rest expressions inner _ _ hn hinner =>
    refine List.forall_mem_cons.2 ⟨spelled_of_kind (by decide : TokenKind.fieldsOpen ≠ _)
      (by decide : TokenKind.fieldsOpen ≠ _), List.forall_mem_append.2
        ⟨hfields n hn _ _ _ hinner, List.forall_mem_singleton.2 ?_⟩⟩
    exact spelled_of_kind (by decide : TokenKind.fieldsClose ≠ _)
      (by decide : TokenKind.fieldsClose ≠ _)
  | @operator o _ _ ho =>
    refine List.forall_mem_singleton.2 ⟨fun _ ↦ ?_, fun h ↦ by cases h⟩
    rwa [part, String.ofList_toList]
  | stray => exact hpart _ (by decide) (by decide)

theorem spelled_inner (fuel : Nat) :
    (∀ line expressions inner, fields fuel line expressions = some inner →
        ∀ k ∈ inner.reverse, Spelled k)
      ∧ ∀ s found, inside fuel s = some found →
        ∃ new : List Token, found = new.reverse ++ s.found ∧ ∀ k ∈ new, Spelled k :=
  inner_of_step (P := fun _ (new : List Token) ↦ ∀ k ∈ new, Spelled k)
    (fun _ ↦ List.forall_mem_nil _)
    (fun _ _ _ ha hb ↦ List.forall_mem_append.2 ⟨ha, hb⟩) (fun _ _ _ _ h ↦ h)
    (fun _ _ _ _ h hfields ↦ h.spelled_of_fields hfields) fuel

theorem Move.spelled (h : Move s new t) : ∀ k ∈ new, Spelled k := by
  have htrivia {line : Nat} (hnew : AreTrivia line new) : ∀ k ∈ new, Spelled k := by
    intro k hk
    rcases kind_of_isTrivia (hnew k hk).1 with hkind | hkind <;>
      exact spelled_of_kind (by rw [hkind]; decide) (by rw [hkind]; decide)
  cases h with
  | token _ h => exact h.spelled_of_fields fun n _ ↦ (spelled_inner n).1
  | start _ h =>
    cases h with
    | passed _ hnew => exact htrivia hnew
    | last hnew => exact htrivia hnew
    | inside => exact List.forall_mem_nil _
    | arranged _ _ _ hmarks =>
      intro k hk
      rcases (hmarks k hk).1 with hkind | hkind <;>
        exact spelled_of_kind (by rw [hkind]; decide) (by rw [hkind]; decide)

theorem Runs.spelled {out : List Token} (h : Runs s out) : ∀ k ∈ out, Spelled k := by
  induction h with
  | finish =>
    exact List.forall_mem_singleton.2 (spelled_of_kind (by decide : TokenKind.finish ≠ _)
      (by decide : TokenKind.finish ≠ _))
  | move hmove _ _ ih => exact List.forall_mem_append.2 ⟨hmove.spelled, ih⟩

end

end Scanner

/-! ## Forms that keep to a line -/

/-- The form keeps to a line. -/
def IsFlat (f : Syn) : Prop := (nesting lineCost).form inLine f = some (0, 0)

section

variable {f : Syn} {fs : List Syn} {u w : List Token} {a : List Tree} {k : Token}

theorem ne_newline_of_walk {n m : Nat} (h : walk lineCost n u = some m) :
    ∀ j ∈ u, j.kind ≠ .newline := by
  induction u generalizing n with
  | nil => exact List.forall_mem_nil _
  | cons k u ih =>
    rw [walk] at h
    split at h
    · next p c hcost =>
      split at h
      · refine List.forall_mem_cons.2 ⟨fun hkind ↦ ?_, ih h⟩
        rw [hkind] at hcost
        cases hcost
      · cases h
    · cases h

theorem isFlat_of_yields (hf : IsFlat f) (h : Yields grammar f u a) :
    ∀ j ∈ u, j.kind ≠ .newline :=
  ne_newline_of_walk ((nesting lineCost).sound _ nesting_inLine h 0 0 hf 0)

/-- A form behind others. -/
theorem Form.Yields.exists_last (h : Yields grammar (.seq (fs ++ [f])) u a) :
    ∃ v w b c, u = v ++ w ∧ Yields grammar (.seq fs) v b ∧ Yields grammar f w c := by
  induction fs generalizing u a with
  | nil =>
    obtain ⟨v, w, b, c, rfl, rfl, hf, hdone⟩ := h.parts
    obtain ⟨rfl, rfl⟩ := hdone.eq_nil_of_done
    exact ⟨[], v, [], b, (List.append_nil v).symm ▸ rfl, .done, hf⟩
  | cons g fs ih =>
    obtain ⟨v, w, b, c, rfl, rfl, hg, hrest⟩ := h.parts
    obtain ⟨v', w', b', c', rfl, hfs, hf⟩ := ih hrest
    exact ⟨v ++ v', w', b ++ b', c', (List.append_assoc ..).symm, .next hg hfs, hf⟩

/-! ## The tokens of a definition -/

/-- The tokens are those of a definition, up to the blocks it closes at its end. -/
def Ended (u : List Token) : Prop := ∃ ts newline closing, u = ts ++ newline :: closing
  ∧ newline.kind = .newline ∧ (∀ k ∈ closing, k.kind = .dedent)
  ∧ IsDefinition ts closing.length

theorem Ended.cons (h : Ended u) (hbegins : ∀ ts, Begins ts → Begins (w ++ ts)) :
    Ended (w ++ u) := by
  obtain ⟨ts, newline, closing, rfl, hnewline, hclosing, hdefinition⟩ := h
  refine ⟨w ++ ts, newline, closing, (List.append_assoc ..).symm, hnewline, hclosing, ?_⟩
  generalize closing.length = n at hdefinition ⊢
  cases hdefinition with
  | line h => exact .line (hbegins _ h)
  | block h hnewline hopening hv =>
    rw [← List.append_assoc]
    exact .block (hbegins _ h) hnewline hopening hv

/-- The block of a definition ends it. -/
theorem ended_of_block (hw : Begins w) (hadd : ∀ v : List Token, (∀ j ∈ v, j.kind ≠ .newline) →
    Begins (w ++ v)) (h : Yields grammar block u a) : Ended (w ++ u) := by
  obtain ⟨cs, rfl, hblock⟩ := h.of_rule.of_node
  rcases hblock.branch with ⟨_, _, _, _, rfl, rfl, hline, hbody⟩ | hbody
  · obtain ⟨newline, hnewline, rfl, rfl⟩ := hline.token_of_kind
    obtain ⟨_, _, _, _, rfl, rfl, hopen, hinner⟩ := hbody.parts
    obtain ⟨opening, hopening, rfl, rfl⟩ := hopen.token_of_kind
    obtain ⟨v, _, _, _, rfl, rfl, hstatements, hend⟩ := hinner.parts
    obtain ⟨_, _, _, _, rfl, rfl, hclose, hdone⟩ := hend.parts
    obtain ⟨last, hlast, rfl, rfl⟩ := hclose.token_of_kind
    obtain ⟨rfl, rfl⟩ := hdone.eq_nil_of_done
    have hwalk : walk blockCost 0 v = some 0 :=
      (nesting blockCost).sound _ nesting_grammar hstatements 0 0 rfl 0
    obtain ⟨v, newline', closing, rfl, hnewline', hclosing⟩ :=
      (ending.sound _ ending_grammar hstatements).2 rfl
    rw [walk_append] at hwalk
    obtain ⟨m, hv, hwalk⟩ := Option.bind_eq_some_iff.1 hwalk
    rw [← Nat.add_zero m, walk_cons_of_cost blockCost (c := 0) (by rw [hnewline']; rfl),
      Nat.add_zero] at hwalk
    obtain rfl := length_eq_of_walk hclosing hwalk
    refine ⟨w ++ newline :: opening :: v, newline', closing ++ [last], by simp, hnewline',
      List.forall_mem_append.2 ⟨hclosing, List.forall_mem_singleton.2 hlast⟩, ?_⟩
    rw [List.length_append]
    exact .block hw hnewline hopening hv
  · have hbody' : Yields grammar
        (.seq ([sepBy simple ";", opt (.word ";")] ++ [.kind .newline])) u cs := hbody.of_rule
    obtain ⟨v, _, _, _, rfl, hsimple, hline⟩ := hbody'.exists_last
    obtain ⟨newline, hnewline, rfl, rfl⟩ := hline.token_of_kind
    exact ⟨w ++ v, newline, [], (List.append_assoc ..).symm, hnewline, List.forall_mem_nil _,
      .line (hadd v (isFlat_of_yields (f := .seq [sepBy simple ";", opt (.word ";")]) rfl hsimple))⟩

theorem begins_of_word (hk : IsFixed k) (hspelled : Spelled k)
    (htext : k.text = "def" ∨ k.text = "class") (hw : ∀ j ∈ w, j.kind ≠ .newline) :
    Begins (k :: w) := by
  refine .word (hspelled.keyword_of_text hk ?_) htext hw
  rcases htext with htext | htext <;> rw [htext] <;> decide

/-- A definition begins with a word, goes on in a line, and ends with a block. -/
theorem ended_of_word {s : String} (fs : List Syn) (hs : s = "def" ∨ s = "class")
    (hfs : IsFlat (.seq fs)) (h : Yields grammar (.seq (.word s :: (fs ++ [block]))) u a)
    (hu : ∀ k ∈ u, Spelled k) : Ended u := by
  obtain ⟨_, _, _, _, rfl, rfl, hword, hrest⟩ := h.parts
  obtain ⟨k, rfl, hk, rfl, rfl⟩ := hword.token_of_word
  obtain ⟨w, v, _, _, rfl, hline, hblock⟩ := Form.Yields.exists_last hrest
  have hw := isFlat_of_yields hfs hline
  have hadd {x : List Token} (hx : ∀ j ∈ x, j.kind ≠ .newline) : Begins (k :: x) :=
    begins_of_word hk (hu k List.mem_cons_self) hs hx
  exact ended_of_block (w := k :: w) (hadd hw)
    (fun x hx ↦ hadd (List.forall_mem_append.2 ⟨hw, hx⟩)) hblock

theorem ended_of_functionRest (h : Yields grammar functionRest u a) (hu : ∀ k ∈ u, Spelled k) :
    Ended u :=
  ended_of_word [name, .word "(", .choose (.ahead (.word ")")) nothing definitionParameters,
    .word ")", opt (.seq [.word "->", expression]), colon] (.inl rfl) rfl h hu

/-- **A definition without decorators ends with its last line.** -/
theorem ended_of_mem_definitionForms (hf : f ∈ definitionForms) (h : Yields grammar f u a)
    (hu : ∀ k ∈ u, Spelled k) : Ended u := by
  simp only [definitionForms, List.mem_cons, List.not_mem_nil, or_false] at hf
  rcases hf with rfl | rfl | rfl
  · obtain ⟨_, rfl, hrest⟩ := h.of_node
    exact ended_of_functionRest hrest hu
  · obtain ⟨_, rfl, hrest⟩ := h.of_node
    exact ended_of_word [name, opt (arguments plainArgumentsOk), colon] (.inr rfl) rfl hrest hu
  · obtain ⟨_, rfl, hrest⟩ := h.of_node
    obtain ⟨_, _, _, _, rfl, rfl, hasync, hbehind⟩ := hrest.parts
    obtain ⟨k, htext, -, rfl, rfl⟩ := hasync.token_of_word
    obtain ⟨_, _, _, _, rfl, rfl, hfunction, hdone⟩ := hbehind.parts
    obtain ⟨rfl, rfl⟩ := hdone.eq_nil_of_done
    rw [List.append_nil] at hu ⊢
    refine (ended_of_functionRest hfunction fun j hj ↦ hu j (List.mem_cons_of_mem k hj)).cons
      (w := [k]) fun ts hts ↦ .async ?_ hts
    rw [Extent.Opens, htext]
    rintro (hk | hk)
    · exact absurd hk.2 (by decide)
    · exact absurd hk.2 (by decide)

/-- Decorators stand in front of a definition. -/
theorem Ended.decorators {v : List Token} (h : Ended v)
    (hdecorators : Yields grammar (.many decoratorForm) u a) (hu : ∀ k ∈ u, Spelled k) :
    Ended (u ++ v) := by
  generalize hm : Form.many decoratorForm = m at hdecorators
  induction hdecorators with cases hm
  | enough => exact h
  | @again _ x y _ _ hfirst _ _ ih =>
    obtain ⟨hx, hy⟩ := List.forall_mem_append.1 hu
    obtain ⟨_, rfl, hline⟩ := hfirst.of_node
    obtain ⟨_, _, _, _, rfl, rfl, hsign, hbehind⟩ := hline.parts
    obtain ⟨k, htext, hk, rfl, rfl⟩ := hsign.token_of_word
    obtain ⟨w, _, _, _, rfl, rfl, hnamed, hend⟩ := hbehind.parts
    obtain ⟨_, _, _, _, rfl, rfl, hfeed, hdone⟩ := hend.parts
    obtain ⟨newline, hnewline, rfl, rfl⟩ := hfeed.token_of_kind
    obtain ⟨rfl, rfl⟩ := hdone.eq_nil_of_done
    rw [List.append_assoc]
    refine (ih hy rfl).cons fun ts hts ↦ ?_
    have hkind : k.kind = .operator := (hx k List.mem_cons_self).operator_of_text hk (c := '@')
      (by rw [htext]; decide) (by decide)
    simpa using Begins.decorator hkind htext (isFlat_of_yields (f := named) rfl hnamed)
      hnewline hts

/-- **The tokens of a definition** are those up to the end of its last line, and what closes its
blocks. -/
theorem exists_isDefinition (hf : f ∈ definingForms) (h : Yields grammar f u a)
    (hu : ∀ k ∈ u, Spelled k) : Ended u := by
  rcases List.mem_cons.1 hf with rfl | hf
  · obtain ⟨_, rfl, hparts⟩ := h.of_node
    obtain ⟨x, _, _, _, rfl, rfl, hdecorators, hrest⟩ := hparts.parts
    obtain ⟨y, _, _, _, rfl, rfl, hbelow, hdone⟩ := hrest.parts
    obtain ⟨rfl, rfl⟩ := hdone.eq_nil_of_done
    obtain ⟨hx, hy⟩ := List.forall_mem_append.1 hu
    rw [List.append_nil] at hy ⊢
    obtain ⟨_, _, _, _, rfl, rfl, hfirst, hothers⟩ := hdecorators.parts
    obtain ⟨_, _, _, _, rfl, rfl, hmore, hdone⟩ := hothers.parts
    obtain ⟨rfl, rfl⟩ := hdone.eq_nil_of_done
    rw [List.append_nil] at hx ⊢
    refine Ended.decorators ?_ (.again hfirst hmore) hx
    rcases hbelow.branch_ahead with h | h
    · exact ended_of_mem_definitionForms (by simp [definitionForms]) h hy
    rcases h.branch_ahead with h | h
    · exact ended_of_mem_definitionForms (by simp [definitionForms]) h hy
    · exact ended_of_mem_definitionForms (by simp [definitionForms]) h hy
  · exact ended_of_mem_definitionForms hf h hu

end

/-! ## Arranged tokens -/

section

variable {fresh : Bool} {new : List Token} {k : Token}

theorem arranged_append (fresh : Bool) (a b : List Token) :
    arranged fresh (a ++ b) = (arranged fresh a).bind fun f ↦ arranged f b := by
  rw [arranged, List.foldlM_append]
  rfl

theorem arranged_of_forall (h : ∀ k ∈ new, arrangedBehind fresh k = some fresh) :
    arranged fresh new = some fresh := by
  induction new with
  | nil => rfl
  | cons k new ih =>
    obtain ⟨hk, hnew⟩ := List.forall_mem_cons.1 h
    rw [arranged, List.foldlM_cons, hk]
    exact ih hnew

theorem arranged_of_trivia (h : ∀ k ∈ new, k.isTrivia = true) :
    arranged fresh new = some fresh := by
  refine arranged_of_forall fun k hk ↦ ?_
  rcases kind_of_isTrivia (h k hk) with hkind | hkind <;> rw [arrangedBehind, hkind]

/-- Tokens that neither open nor close blocks. -/
theorem arranged_of_flat (h : ∀ k ∈ new, blockCost k.kind = some (0, 0)) (fresh : Bool) :
    ∃ fresh', arranged fresh new = some fresh' := by
  induction new generalizing fresh with
  | nil => exact ⟨fresh, rfl⟩
  | cons k new ih =>
    obtain ⟨hk, hnew⟩ := List.forall_mem_cons.1 h
    obtain ⟨fresh₁, hfresh₁⟩ : ∃ fresh₁, arrangedBehind fresh k = some fresh₁ := by
      rw [arrangedBehind]
      cases hkind : k.kind <;> first
        | exact ⟨_, rfl⟩
        | rw [hkind] at hk; cases hk
    obtain ⟨fresh', h'⟩ := ih hnew fresh₁
    refine ⟨fresh', ?_⟩
    rw [arranged, List.foldlM_cons, hfresh₁]
    exact h'

end

namespace Scanner

section

variable {s t : Scanner} {d : Depth} {fresh : Bool} {new ts : List Token}

theorem exists_dedents_of_closeBlocks (d : Depth) (depths : List Depth) (s : Scanner) :
    ∃ marks : List Token, (closeBlocks d depths s).2.found = marks.reverse ++ s.found
      ∧ ∀ k ∈ marks, k.kind = .dedent := by
  fun_induction closeBlocks d depths s with
  | case1 s => exact ⟨[], rfl, List.forall_mem_nil _⟩
  | case2 top below s hlt ih =>
    obtain ⟨marks, hmarks, hall⟩ := ih
    refine ⟨closingMark s.line s.column :: marks, ?_, List.forall_mem_cons.2 ⟨rfl, hall⟩⟩
    rw [hmarks, List.reverse_cons, List.append_assoc]
    rfl
  | case3 top below s => exact ⟨[], rfl, List.forall_mem_nil _⟩

/-- A line opens one block or closes blocks, if any. -/
theorem exists_found_of_arrange (h : arrange d s = some t) :
    ∃ marks : List Token, t.found = marks.reverse ++ s.found
      ∧ ((∃ k, k.kind = .indent ∧ marks = [k]) ∨ ∀ k ∈ marks, k.kind = .dedent) := by
  rw [arrange] at h
  dsimp only at h
  split at h
  · split at h <;> cases h
    exact ⟨[], rfl, .inr (List.forall_mem_nil _)⟩
  · split at h
    · split at h <;> cases h
      exact ⟨[_], rfl, .inl ⟨_, rfl, rfl⟩⟩
    · obtain ⟨marks, hmarks, hall⟩ := exists_dedents_of_closeBlocks d s.depths s
      split at h <;> cases h
      exact ⟨marks, hmarks, .inr hall⟩

/-- The start of a line adds comments, or opens one block, or closes blocks. -/
theorem exists_found_of_lineStart (h : s.lineStart = some t) :
    ∃ marks : List Token, t.found = marks.reverse ++ s.found
      ∧ ((∃ k, k.kind = .indent ∧ marks = [k]) ∨ (∀ k ∈ marks, k.kind = .dedent)
        ∨ ∀ k ∈ marks, k.isTrivia = true) := by
  obtain ⟨⟨d, held, v⟩, hmeasure, -⟩ := Option.bind_eq_some_iff.1 h
  obtain ⟨used, -, hused, hv⟩ := exists_spacing_of_measure hmeasure
  have hvfound : v.found = s.found := by rw [hv, advance_found]
  rw [lineStart_of_measure hmeasure] at h
  split at h
  · next halone =>
    obtain ⟨w, new, -, -, hcomment, hnew⟩ := comment_of_isAlone halone
    have htrivia : ∀ k ∈ new, k.isTrivia = true := fun k hk ↦ by rw [hnew k hk]; rfl
    have hfound : v.comment.found = new.reverse ++ s.found := by
      rw [hcomment, adding_found, advance_found, hvfound]
    rw [afterComment] at h
    split at h
    · obtain rfl := Option.some.inj h
      refine ⟨new ++ [v.comment.part ['\n'] .gap], ?_, .inr (.inr (List.forall_mem_append.2
        ⟨htrivia, List.forall_mem_singleton.2 rfl⟩))⟩
      rw [emit_eq, adding_found, advance_found, hfound, List.reverse_append, List.append_assoc]
    · obtain rfl := Option.some.inj h
      exact ⟨new, hfound, .inr (.inr htrivia)⟩
  · split at h
    · obtain rfl := Option.some.inj h
      exact ⟨[], hvfound, .inr (.inl (List.forall_mem_nil _))⟩
    · obtain ⟨u, hu, rfl⟩ := Option.map_eq_some_iff.1 h
      obtain ⟨marks, hmarks, hall⟩ := exists_found_of_arrange hu
      exact ⟨marks, hvfound ▸ hmarks, hall.imp id .inl⟩

/-- **What one move adds is arranged**, and at the start of a line a block may open. -/
theorem Move.arranged (h : Move s new t) (hnext : s.next = some t)
    (hs : s.atLineStart = true → s.brackets = [] → fresh = true) :
    ∃ fresh', Source.arranged fresh new = some fresh'
      ∧ (t.atLineStart = true → t.brackets = [] → fresh' = true) := by
  have hfound := h.found
  have hplain (ht : t.atLineStart = false)
      (hnew : ∃ fresh', Source.arranged fresh new = some fresh') :
      ∃ fresh', Source.arranged fresh new = some fresh'
        ∧ (t.atLineStart = true → t.brackets = [] → fresh' = true) := by
    obtain ⟨fresh', hfresh'⟩ := hnew
    exact ⟨fresh', hfresh', fun hstart ↦ by rw [ht] at hstart; cases hstart⟩
  cases h with
  | start hstart hstep =>
    cases hstep with
    | passed _ hnew =>
      exact ⟨fresh, arranged_of_trivia fun k hk ↦ (hnew k hk).1, fun _ ↦ by simpa using hs hstart⟩
    | last hnew => exact hplain rfl ⟨fresh, arranged_of_trivia fun k hk ↦ (hnew k hk).1⟩
    | inside => exact hplain rfl ⟨fresh, rfl⟩
    | arranged _ _ hbrackets hmarks =>
      refine hplain rfl ?_
      obtain rfl := hs hstart hbrackets
      rw [next, if_pos hstart] at hnext
      obtain ⟨marks, hmarks', hcases⟩ := exists_found_of_lineStart hnext
      rw [hmarks'] at hfound
      obtain rfl := List.reverse_injective (List.append_cancel_right hfound)
      rcases hcases with ⟨k, hk, rfl⟩ | hdedents | htrivia
      · exact ⟨false, by simp [Source.arranged, arrangedBehind, hk]⟩
      · exact ⟨true, arranged_of_forall fun k hk ↦ by simp [arrangedBehind, hdedents k hk]⟩
      · exact ⟨true, arranged_of_trivia htrivia⟩
  | token hstart hstep =>
    have hflat := arranged_of_flat hstep.flat fresh
    cases hstep with
    | lineBreak =>
      obtain ⟨fresh', hfresh'⟩ := hflat
      refine ⟨fresh', hfresh', fun _ hbrackets ↦ ?_⟩
      have hnone : s.brackets = [] := by simpa [Scanner.lineBreak, emit_eq] using hbrackets
      simpa [Source.arranged, arrangedBehind, part, hnone, eq_comm] using hfresh'
    | blank => exact hplain (by simp [hstart]) hflat
    | fold => exact hplain (by simp [hstart]) hflat
    | comment => exact hplain (by simp [emit_eq, hstart]) hflat
    | word => exact hplain (by simp [emit_eq, hstart]) hflat
    | literal => exact hplain (by simp [emit_eq, hstart]) hflat
    | embedded => exact hplain (by simp [hstart]) hflat
    | operator => exact hplain (by simp [emit_eq, hstart]) hflat
    | stray => exact hplain (by simp [emit_eq, hstart]) hflat

/-- **The tokens that a scan finds are arranged.** -/
theorem Reaches.arranged (h : Reaches s ts t) (fresh : Bool)
    (hs : s.atLineStart = true → s.brackets = [] → fresh = true) :
    ∃ raw fresh', t.found = raw.reverse ++ s.found ∧ significant raw = ts
      ∧ Source.arranged fresh raw = some fresh' := by
  induction h generalizing fresh with
  | here => exact ⟨[], fresh, rfl, rfl, rfl⟩
  | @move _ _ _ new _ hmove _ hnext ih =>
    obtain ⟨fresh₁, hfresh₁, hstart⟩ := hmove.arranged hnext hs
    obtain ⟨raw, fresh', hfound, hraw, hfresh'⟩ := ih fresh₁ hstart
    refine ⟨new ++ raw, fresh', ?_, ?_, ?_⟩
    · rw [hfound, hmove.found, List.reverse_append, List.append_assoc]
    · rw [significant_append, hraw]
    · rw [arranged_append, hfresh₁]
      exact hfresh'

end

end Scanner

end Source
end TexWeave

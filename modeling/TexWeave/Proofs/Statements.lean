import TexWeave.Proofs.Parses
import TexWeave.Source.Definition

/-!
# Where definitions stand among the tokens

The tree of a text has the tokens of the text in order, so the tokens of a definition on its top
level stand somewhere among them.  What stands in front of them is made of whole statements and
whole lines: no string with fields is left open, and the last token ends a line.  The definition
itself begins with its opening words, its name, and a bracket or a colon.

* `keeps_grammar` — trees have the tokens they were made from.
* `balance_grammar`, `beginning_grammar`, `ending_grammar`, `nesting_grammar` — the four estimates
  for the rules.
* `IsHeader` — the beginning of a definition.
* `exists_header_of_parse` — where the definitions of a text stand.
* `parse_opening` — no text begins with an indentation or with a character that has no meaning.
-/

set_option autoImplicit false

namespace TexWeave
namespace Source

open Form

/-! ## The grammar -/

theorem tokens_fold (k : NodeKind) (cs : List Tree) :
    (match cs with
      | [c] => c
      | _ => Tree.node k cs).tokens = Tree.tokensOf cs := by
  split
  · exact (tokensOf_singleton _).symm
  · exact tokens_node k cs

theorem tokens_parenthesised (cs : List Tree) :
    (parenthesised cs).tokens = Tree.tokensOf cs := by
  rw [parenthesised]
  split_ifs <;> exact tokens_node _ cs

theorem tokens_bracketed (cs : List Tree) : (bracketed cs).tokens = Tree.tokensOf cs := by
  rw [bracketed]
  split_ifs <;> exact tokens_node _ cs

theorem keeps_grammar (r : Rule) : Keeps (grammar r) := by
  -- one goal for each place where trees are put together
  cases r <;> repeat' first
    | apply And.intro
    | exact True.intro
    | exact fun cs ↦ tokens_node _ cs
    | exact fun cs ↦ tokens_fold _ cs
    | exact tokens_parenthesised
    | exact tokens_bracketed

theorem balance_grammar (r : Rule) : balance.form (fun _ ↦ some 0) (grammar r) = some 0 := by
  cases r <;> rfl

theorem beginning_grammar {k : TokenKind} (hk : k = .indent ∨ k = .stray ∨ k = .finish) (r : Rule) :
    (beginning k).form (fun _ ↦ (false, false)) (grammar r) = (false, false) := by
  rcases hk with rfl | rfl | rfl <;> cases r <;> rfl

/-- Statements, blocks and lines come to the end of a line; other rules may or may not. -/
def comesToEnd : Rule → Bool × Bool
  | .statement => (true, true)
  | .simpleLine => (true, true)
  | .block => (true, true)
  | _ => (false, false)

theorem ending_grammar (r : Rule) : ending.form comesToEnd (grammar r) = comesToEnd r := by
  cases r <;> rfl

/-- Statements, blocks and expressions leave as many blocks open as there were. -/
theorem nesting_grammar (r : Rule) :
    (nesting blockCost).form (fun _ ↦ some (0, 0)) (grammar r) = some (0, 0) := by
  cases r <;> rfl

/-- Tokens after which a statement can begin: all strings with fields are closed, the last one, if
there is any, ends a line, and no block is left open. -/
structure IsFront (ts : List Token) : Prop where
  excess_eq : excess ts = 0
  endsLine : ts = [] ∨ EndsLine ts
  walk_eq : walk blockCost 0 ts = some 0

theorem isFront_nil : IsFront [] := ⟨rfl, .inl rfl, rfl⟩

theorem IsFront.append {ts ts' : List Token} (h : IsFront ts) (h' : IsFront ts') :
    IsFront (ts ++ ts') where
  excess_eq := by rw [excess_append, h.excess_eq, h'.excess_eq, add_zero]
  endsLine := by
    rcases h'.endsLine with rfl | hends
    · rw [List.append_nil]
      exact h.endsLine
    · exact .inr (hends.append ts)
  walk_eq := by rw [walk_append, h.walk_eq, Option.bind_some, h'.walk_eq]

theorem isFront_of_yields {f : Syn} {u : List Token} {a : List Tree} (h : Yields grammar f u a)
    (hbalance : balance.form (fun _ ↦ some 0) f = some 0)
    (hending : (ending.form comesToEnd f).1 = true)
    (hnesting : (nesting blockCost).form (fun _ ↦ some (0, 0)) f = some (0, 0)) : IsFront u where
  excess_eq := balance.sound _ balance_grammar h 0 hbalance
  endsLine := by
    rcases (ending.sound _ ending_grammar h).1 hending with hclosing | hends
    · have hwalk := (nesting blockCost).sound _ nesting_grammar h 0 0 hnesting 0
      cases u with
      | nil => exact .inl rfl
      | cons k u =>
        rw [walk, hclosing k List.mem_cons_self] at hwalk
        cases hwalk
    · exact .inr hends
  walk_eq := (nesting blockCost).sound _ nesting_grammar h 0 0 hnesting 0

/-! ## The beginning of a definition -/

/-- The words a definition can open with. -/
def openingWords : List (List String) := [["def"], ["class"], ["async", "def"]]

/-- Whether a token is an operator or a keyword. -/
def IsFixed (t : Token) : Prop := t.kind = .operator ∨ t.kind = .keyword

/-- The opening words of a definition, its name, and what stands behind the name. -/
structure IsHeader (words : List Token) (name stop : Token) : Prop where
  words_text : words.map Token.text ∈ openingWords
  words_fixed : ∀ t ∈ words, IsFixed t
  name_kind : name.kind = .name
  stop_text : stop.text = "(" ∨ stop.text = ":"
  stop_fixed : IsFixed stop

/-- The forms of a definition without decorators. -/
def definitionForms : List Syn :=
  [.node .function functionRest, classDefinition,
    .node .function (.seq [.word "async", functionRest])]

theorem keeps_of_mem_definitionForms {f : Syn} (h : f ∈ definitionForms) : Keeps f := by
  simp only [definitionForms, List.mem_cons, List.not_mem_nil, or_false] at h
  rcases h with rfl | rfl | rfl <;> repeat' first
    | apply And.intro
    | exact True.intro
    | exact fun cs ↦ tokens_node _ cs

theorem functionRest_header {u : List Token} {a : List Tree}
    (h : Yields grammar functionRest u a) : ∃ word name stop rest trees,
      u = word :: name :: stop :: rest ∧ a = .leaf word :: .leaf name :: trees
      ∧ word.text = "def" ∧ IsFixed word ∧ name.kind = .name ∧ stop.text = "(" ∧ IsFixed stop := by
  obtain ⟨_, _, _, _, rfl, rfl, hword, hnamed⟩ := h.parts
  obtain ⟨_, _, _, _, rfl, rfl, hname, hstopped⟩ := hnamed.parts
  obtain ⟨_, _, _, _, rfl, rfl, hstop, -⟩ := hstopped.parts
  obtain ⟨word, hwtext, hwkind, rfl, rfl⟩ := hword.token_of_word
  obtain ⟨name, hnkind, rfl, rfl⟩ := hname.token_of_kind
  obtain ⟨stop, hstext, hskind, rfl, rfl⟩ := hstop.token_of_word
  exact ⟨word, name, stop, _, _, rfl, rfl, hwtext, hwkind, hnkind, hstext, hskind⟩

/-- Behind the name of a class there are arguments or a colon. -/
theorem classRest_stop {u : List Token} {a : List Tree} {fs : List Syn}
    (h : Yields grammar (.seq (opt (arguments plainArgumentsOk) :: colon :: fs)) u a) :
    ∃ stop rest, u = stop :: rest ∧ (stop.text = "(" ∨ stop.text = ":") ∧ IsFixed stop := by
  obtain ⟨_, _, _, _, rfl, rfl, harguments, hrest⟩ := h.parts
  rcases harguments.branch with ⟨_, _, _, _, rfl, rfl, hopen, -⟩ | hnothing
  · obtain ⟨_, _, _, _, rfl, rfl, hstop, -⟩ := hopen.parts
    obtain ⟨stop, htext, hkind, rfl, rfl⟩ := hstop.token_of_word
    exact ⟨stop, _, by simp only [List.append_assoc, List.singleton_append]; rfl, .inl htext,
      hkind⟩
  · obtain ⟨rfl, rfl⟩ := hnothing.eq_nil_of_done
    obtain ⟨_, _, _, _, rfl, rfl, hcolon, -⟩ := hrest.parts
    obtain ⟨stop, htext, hkind, rfl, rfl⟩ := hcolon.token_of_word
    exact ⟨stop, _, rfl, .inr htext, hkind⟩

/-- **A definition begins with a header**, whose parts are children of its node. -/
theorem header_of_yields {f : Syn} (hf : f ∈ definitionForms) {u : List Token} {d : Tree}
    (h : Yields grammar f u [d]) : ∃ words name stop rest k trees, IsHeader words name stop
      ∧ u = words ++ name :: stop :: rest
      ∧ d = .node k (words.map .leaf ++ .leaf name :: trees) := by
  simp only [definitionForms, List.mem_cons, List.not_mem_nil, or_false] at hf
  rcases hf with rfl | rfl | rfl
  · obtain ⟨cs, hd, hrest⟩ := h.of_node
    obtain ⟨word, name, stop, rest, trees, rfl, rfl, htext, hword, hname, hstop, hfixed⟩ :=
      functionRest_header hrest
    cases hd
    refine ⟨[word], name, stop, rest, _, trees, ⟨?_, ?_, hname, .inl hstop, hfixed⟩, rfl, rfl⟩
    · rw [List.map_singleton, htext]
      decide
    · exact fun t ht ↦ List.mem_singleton.1 ht ▸ hword
  · obtain ⟨cs, hd, hclass⟩ := h.of_node
    obtain ⟨_, _, _, _, rfl, rfl, hword, hnamed⟩ := hclass.parts
    obtain ⟨_, _, _, _, rfl, rfl, hname, hrest⟩ := hnamed.parts
    obtain ⟨word, htext, hwkind, rfl, rfl⟩ := hword.token_of_word
    obtain ⟨name, hnkind, rfl, rfl⟩ := hname.token_of_kind
    obtain ⟨stop, rest, rfl, hstop, hfixed⟩ := classRest_stop hrest
    cases hd
    refine ⟨[word], name, stop, rest, _, _, ⟨?_, ?_, hnkind, hstop, hfixed⟩, rfl, rfl⟩
    · rw [List.map_singleton, htext]
      decide
    · exact fun t ht ↦ List.mem_singleton.1 ht ▸ hwkind
  · obtain ⟨cs, hd, hboth⟩ := h.of_node
    obtain ⟨_, _, _, _, rfl, rfl, hasync, htail⟩ := hboth.parts
    obtain ⟨_, _, _, _, rfl, rfl, hrest, hdone⟩ := htail.parts
    obtain ⟨rfl, rfl⟩ := hdone.eq_nil_of_done
    obtain ⟨async, hatext, hakind, rfl, rfl⟩ := hasync.token_of_word
    obtain ⟨word, name, stop, rest, trees, rfl, rfl, htext, hword, hname, hstop, hfixed⟩ :=
      functionRest_header hrest
    cases hd
    refine ⟨[async, word], name, stop, rest, .function, trees,
      ⟨?_, ?_, hname, .inl hstop, hfixed⟩, by simp, by simp⟩
    · rw [List.map_cons, List.map_singleton, htext, hatext]
      decide
    · simp only [List.mem_cons, List.not_mem_nil, or_false, forall_eq_or_imp, forall_eq]
      exact ⟨hakind, hword⟩

/-- The name a definition declares is the one in its header, in normal form. -/
theorem declaredName_of_header {words : List Token} {name stop : Token}
    (h : IsHeader words name stop) (k : NodeKind) (trees : List Tree) :
    declaredName (.node k (words.map .leaf ++ .leaf name :: trees)) = Text.compat name.text := by
  have hwords : (words.map Tree.leaf).filter (Tree.isLeaf .name) = [] := by
    rw [List.filter_eq_nil_iff]
    intro c hc hname
    obtain ⟨t, ht, rfl⟩ := List.mem_map.1 hc
    have hkind : t.kind = .name := by simpa [Tree.isLeaf] using hname
    rcases h.words_fixed t ht with hfixed | hfixed <;> rw [hfixed] at hkind <;> cases hkind
  have hfirst : Tree.isLeaf .name (.leaf name) = true := by
    rw [Tree.isLeaf, h.name_kind]
    rfl
  rw [declaredName, Tree.children, List.filter_append, hwords, List.nil_append,
    List.filter_cons_of_pos hfirst]
  simp [Tree.tokens]

/-! ## Statements -/

theorem undecorated?_eq_none_of_leaf {b : List Tree} {c : Tree}
    (hb : ∃ t, b = [.leaf t]) (hc : c ∈ b) : undecorated? c = none := by
  obtain ⟨t, rfl⟩ := hb
  rw [List.mem_singleton.1 hc]
  rfl

/-- A line of simple statements defines nothing. -/
theorem undecorated?_of_simpleLine {u : List Token} {a : List Tree} {c : Tree}
    (h : Yields grammar (.rule .simpleLine) u a) (hc : c ∈ a) : undecorated? c = none := by
  have hsimple {v : List Token} {b : List Tree} (h : Yields grammar simple v b) (hc : c ∈ b) :
      undecorated? c = none := by
    obtain ⟨cs, rfl, -⟩ := h.of_node
    rw [List.mem_singleton.1 hc]
    rfl
  have hword {s : String} {v : List Token} {b : List Tree} (h : Yields grammar (.word s) v b)
      (hc : c ∈ b) : undecorated? c = none := by
    obtain ⟨t, -, -, -, hb⟩ := h.token_of_word
    exact undecorated?_eq_none_of_leaf ⟨t, hb⟩ hc
  obtain ⟨_, _, _, _, rfl, rfl, hstatements, hend⟩ := h.of_rule.parts
  obtain ⟨_, _, _, _, rfl, rfl, hlast, hline⟩ := hend.parts
  obtain ⟨_, _, _, _, rfl, rfl, hnewline, hdone⟩ := hline.parts
  obtain ⟨rfl, rfl⟩ := hdone.eq_nil_of_done
  rw [List.append_nil] at hc
  rcases List.mem_append.1 hc with hc | hc
  · obtain ⟨_, _, _, _, rfl, rfl, hfirst, hothers⟩ := hstatements.parts
    obtain ⟨_, _, _, _, rfl, rfl, hmore, hdone⟩ := hothers.parts
    obtain ⟨rfl, rfl⟩ := hdone.eq_nil_of_done
    rw [List.append_nil] at hc
    rcases List.mem_append.1 hc with hc | hc
    · exact hsimple hfirst hc
    · obtain ⟨_, _, _, _, _, -, -, hturn, hc⟩ := hmore.exists_turn hc
      obtain ⟨_, _, _, _, rfl, rfl, hsemicolon, hnext⟩ := hturn.parts
      obtain ⟨_, _, _, _, rfl, rfl, hone, hdone⟩ := hnext.parts
      obtain ⟨rfl, rfl⟩ := hdone.eq_nil_of_done
      rw [List.append_nil] at hc
      rcases List.mem_append.1 hc with hc | hc
      · exact hword hsemicolon hc
      · exact hsimple hone hc
  · rcases List.mem_append.1 hc with hc | hc
    · rcases hlast.branch with ⟨_, _, _, _, rfl, rfl, hsemicolon, hdone⟩ | hnothing
      · obtain ⟨rfl, rfl⟩ := hdone.eq_nil_of_done
        rw [List.append_nil] at hc
        exact hword hsemicolon hc
      · obtain ⟨rfl, rfl⟩ := hnothing.eq_nil_of_done
        exact absurd hc List.not_mem_nil
    · obtain ⟨t, -, -, hb⟩ := hnewline.token_of_kind
      exact undecorated?_eq_none_of_leaf ⟨t, hb⟩ hc

/-- The definition in a statement, with what stands in front of it, its decorators if any, and
behind it. -/
def DefinedIn (ts r : List Token) (d : Tree) : Prop :=
  ∃ front w f, ts = front ++ (w ++ r) ∧ IsFront front ∧ f ∈ definitionForms
    ∧ Yields grammar f w [d] ∧ Parses grammar f (w ++ r) (some ([d], r))

section

variable {ts r : List Token} {c d : Tree} {a : List Tree} {f : Syn}

/-- Each form of a definition makes one node. -/
theorem node_of_mem_definitionForms (hf : f ∈ definitionForms) :
    f.isGrounded = true
      ∧ ∃ k f', f = .node k f' ∧ ∀ cs, undecorated? (.node k cs) = some (.node k cs) := by
  simp only [definitionForms, List.mem_cons, List.not_mem_nil, or_false] at hf
  rcases hf with rfl | rfl | rfl <;> exact ⟨rfl, _, _, rfl, fun _ ↦ rfl⟩

theorem definedIn_of_form (hf : f ∈ definitionForms) (h : Parses grammar f ts (some (a, r)))
    (hc : c ∈ a) (hd : undecorated? c = some d) : DefinedIn ts r d := by
  obtain ⟨hgrounded, k, f', rfl, hk⟩ := node_of_mem_definitionForms hf
  obtain ⟨w, rfl, hw⟩ := exists_yields_of_parses terminates_grammar h hgrounded
  obtain ⟨cs, rfl, -⟩ := h.of_build
  rw [List.mem_singleton.1 hc, hk] at hd
  cases hd
  exact ⟨[], w, _, rfl, isFront_nil, hf, hw, h⟩

theorem not_defined_of_node {k : NodeKind} (hk : ∀ cs, undecorated? (.node k cs) = none)
    (h : Parses grammar (.node k f) ts (some (a, r))) (hc : c ∈ a) : undecorated? c = none := by
  obtain ⟨cs, rfl, -⟩ := h.of_build
  rw [List.mem_singleton.1 hc]
  exact hk cs

theorem definedIn_of_decorated (h : Parses grammar decorated ts (some (a, r))) (hc : c ∈ a)
    (hd : undecorated? c = some d) : DefinedIn ts r d := by
  obtain ⟨cs, rfl, hboth⟩ := h.of_build
  rw [List.mem_singleton.1 hc] at hd
  obtain ⟨_, ts', _, rfl, hdecorators, hrest⟩ := hboth.parts
  obtain ⟨b, _, _, rfl, hdefinition, hdone⟩ := hrest.parts
  obtain ⟨rfl, rfl⟩ := hdone.eq_of_done
  obtain ⟨front, rfl, hyields⟩ := exists_yields_of_parses terminates_grammar hdecorators rfl
  have hfront : IsFront front := isFront_of_yields hyields rfl rfl rfl
  have hlast {f : Syn} (hf : f ∈ definitionForms) (h : Parses grammar f ts' (some (b, r))) :
      DefinedIn (front ++ ts') r d := by
    obtain ⟨hgrounded, k, f', rfl, -⟩ := node_of_mem_definitionForms hf
    obtain ⟨w, rfl, hw⟩ := exists_yields_of_parses terminates_grammar h hgrounded
    obtain ⟨cs, rfl, -⟩ := h.of_build
    rw [undecorated?, List.append_nil, List.getLast?_concat] at hd
    cases hd
    exact ⟨front, w, _, rfl, hfront, hf, hw, h⟩
  rcases hdefinition.branch_ahead with h | h
  · exact hlast (by simp [definitionForms]) h
  · rcases h.branch_ahead with h | h
    · exact hlast (by simp [definitionForms]) h
    · exact hlast (by simp [definitionForms]) h

/-- **The definition in a statement** stands at its end, behind its decorators. -/
theorem definedIn_of_statement (h : Parses grammar (.rule .statement) ts (some (a, r)))
    (hc : c ∈ a) (hd : undecorated? c = some d) : DefinedIn ts r d := by
  have hnone {k : NodeKind} {f : Syn} (hk : ∀ cs, undecorated? (.node k cs) = none)
      (h : Parses grammar (.node k f) ts (some (a, r))) : DefinedIn ts r d := by
    rw [not_defined_of_node hk h hc] at hd
    cases hd
  rcases h.of_rule.branch_ahead with h | h
  · exact hnone (fun _ ↦ rfl) h
  rcases h.branch_ahead with h | h
  · exact definedIn_of_form (by simp [definitionForms]) h hc hd
  rcases h.branch_ahead with h | h
  · exact definedIn_of_form (by simp [definitionForms]) h hc hd
  rcases h.branch_ahead with h | h
  · exact hnone (fun _ ↦ rfl) h
  rcases h.branch_ahead with h | h
  · exact hnone (fun _ ↦ rfl) h
  rcases h.branch_ahead with h | h
  · exact hnone (fun _ ↦ rfl) h
  rcases h.branch_ahead with h | h
  · exact hnone (fun _ ↦ rfl) h
  rcases h.branch_ahead with h | h
  · exact definedIn_of_decorated h hc hd
  rcases h.branch_ahead with h | h
  · rcases h.branch_ahead with h | h
    · exact definedIn_of_form (by simp [definitionForms]) h hc hd
    · rcases h.branch_ahead with h | h
      · exact hnone (fun _ ↦ rfl) h
      · exact hnone (fun _ ↦ rfl) h
  rcases h.branch_ahead with h | h
  · exact hnone (fun _ ↦ rfl) h
  · obtain ⟨u, -, hu⟩ := exists_yields_of_parses terminates_grammar h rfl
    rw [undecorated?_of_simpleLine hu hc] at hd
    cases hd

end

/-! ## Texts -/

/-- A text is read as statements and the token for its end. -/
theorem yields_of_parse {ts : List Token} {t : Tree} (h : parse ts = some t) :
    ∃ u a last, ts = u ++ [last] ∧ t = .node .text (a ++ [.leaf last]) ∧ last.kind = .finish
      ∧ Yields grammar (.many (.rule .statement)) u a := by
  rw [parse] at h
  split at h
  · next t' hread =>
    cases h
    obtain ⟨u, hts, h⟩ := exists_yields_of_read hread
    rw [List.append_nil] at hts
    subst hts
    obtain ⟨cs, ht, hboth⟩ := h.of_node
    obtain ⟨_, _, _, _, rfl, rfl, hstatements, hrest⟩ := hboth.parts
    obtain ⟨_, _, _, _, rfl, rfl, hlast, hdone⟩ := hrest.parts
    obtain ⟨rfl, rfl⟩ := hdone.eq_nil_of_done
    obtain ⟨last, hkind, rfl, rfl⟩ := hlast.token_of_kind
    rw [List.append_nil] at ht
    exact ⟨_, _, last, by rw [List.append_nil], (List.singleton_inj.1 ht), hkind, hstatements⟩
  · cases h

/-- **Where a definition stands.**  The tokens of a text are those in front of a definition on its
top level, the tokens of the definition, which begin with its header and are read by a form of its
own, and what comes behind. -/
theorem exists_header_of_parse {ts : List Token} {t d : Tree} (h : parse ts = some t)
    (hd : d ∈ (statementsOf t).filterMap undecorated?) :
    ∃ front words name stop rest behind, IsFront front ∧ IsHeader words name stop
      ∧ ts = front ++ (words ++ name :: stop :: rest) ++ behind
      ∧ d.tokens = words ++ name :: stop :: rest ∧ declaredName d = Text.compat name.text
      ∧ ∃ f ∈ definitionForms, Yields grammar f d.tokens [d]
        ∧ Parses grammar f (d.tokens ++ behind) (some ([d], behind)) := by
  obtain ⟨b, ht, hboth⟩ := (parse_eq_some_iff.1 h).of_build
  cases ht
  obtain ⟨a, r, _, rfl, hstatements, hrest⟩ := hboth.parts
  obtain ⟨_, _, _, rfl, hlast, hdone⟩ := hrest.parts
  obtain ⟨rfl, -⟩ := hdone.eq_of_done
  obtain ⟨last, -, -, rfl⟩ := hlast.token_of_kind
  obtain ⟨c, hc, hcd⟩ := List.mem_filterMap.1 hd
  have hca : c ∈ a := by
    rw [statementsOf, Tree.children, List.append_nil] at hc
    rcases List.mem_append.1 (List.mem_of_mem_filter hc) with hca | hlast
    · exact hca
    · rw [List.mem_singleton.1 hlast] at hcd
      cases hcd
  obtain ⟨u, a₁, ts', b, behind, rfl, hbefore, hturn, hcb⟩ :=
    hstatements.exists_turn terminates_grammar rfl hca
  obtain ⟨front, w, f, rfl, hfront, hf, hw, hparses⟩ := definedIn_of_statement hturn hcb hcd
  have hu : IsFront u := isFront_of_yields hbefore rfl rfl rfl
  have htokens : d.tokens = w := by
    rw [← tokensOf_singleton]
    exact tokensOf_of_yields keeps_grammar hw (keeps_of_mem_definitionForms hf)
  obtain ⟨words, name, stop, rest, k, trees, hheader, hwords, hnode⟩ := header_of_yields hf hw
  refine ⟨u ++ front, words, name, stop, rest, behind, hu.append hfront, hheader, ?_,
    htokens.trans hwords, ?_, f, hf, htokens ▸ hw, htokens ▸ hparses⟩
  · rw [← hwords]
    simp only [List.append_assoc]
  · rw [hnode]
    exact declaredName_of_header hheader k trees

/-- **How a text begins**: never with an indentation or with a character without meaning. -/
theorem parse_opening {ts : List Token} {t : Tree} (h : parse ts = some t) {k : Token}
    {r : List Token} (hts : ts = k :: r) : k.kind ≠ .indent ∧ k.kind ≠ .stray := by
  obtain ⟨u, a, last, rfl, -, hlast, hstatements⟩ := yields_of_parse h
  cases u with
  | nil =>
    obtain ⟨rfl, -⟩ := List.cons.inj hts
    rw [hlast]
    exact ⟨by decide, by decide⟩
  | cons k' v =>
    obtain ⟨rfl, -⟩ := List.cons.inj hts
    have hopens {j : TokenKind} (hj : j = .indent ∨ j = .stray ∨ j = .finish) : k'.kind ≠ j := by
      intro hkind
      have hopening := (beginning j).sound _ (beginning_grammar hj) hstatements
      cases hopening.2 k' v rfl hkind
    exact ⟨hopens (.inl rfl), hopens (.inr (.inl rfl))⟩

end Source
end TexWeave

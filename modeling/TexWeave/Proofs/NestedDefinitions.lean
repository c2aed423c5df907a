import TexWeave.Proofs.Definitions
import TexWeave.Proofs.LoneDefinitions

/-!
# Definitions at any depth

Definitions stand among the statements of a text, and among those of the blocks of other statements,
at any depth.  Wherever one stands, its form reads its tokens whatever comes behind, a line ends in
front of it, and no deeper line follows.

* `Tree.definitions` — the statements of a tree that define something.
* `InBlocks`, `exists_block` — forms whose definitions stand in their blocks.
* `Located` — where a definition stands among the tokens of a text.
* `exists_located` — every definition of a tree stands somewhere.
-/

set_option autoImplicit false

namespace TexWeave
namespace Source

open Form Scanner Tree

/-! ## The definitions of a tree -/

/-- The kinds of node that define something. -/
def definitionKinds : List NodeKind := [.function, .className, .decoratedDefinition]

namespace Tree

/-- The statements of trees that define something, at any depth. -/
def definitionsOf (a : List Tree) : List Tree := definitionKinds.flatMap (nodesOf · a)

/-- The same for one tree. -/
def definitions (t : Tree) : List Tree := definitionsOf [t]

section

variable {a b : List Tree} {c d : Tree} {k : NodeKind}

theorem mem_definitionsOf_append :
    d ∈ definitionsOf (a ++ b) ↔ d ∈ definitionsOf a ∨ d ∈ definitionsOf b := by
  simp only [definitionsOf, List.mem_flatMap, nodesOf_append, List.mem_append]
  constructor
  · rintro ⟨k, hk, h | h⟩
    · exact .inl ⟨k, hk, h⟩
    · exact .inr ⟨k, hk, h⟩
  · rintro (⟨k, hk, h⟩ | ⟨k, hk, h⟩)
    · exact ⟨k, hk, .inl h⟩
    · exact ⟨k, hk, .inr h⟩

theorem definitions_leaf (t : Token) : (Tree.leaf t).definitions = [] := rfl

/-- A node of another kind has the definitions of its members. -/
theorem definitions_node_of_not_mem (hk : k ∉ definitionKinds) (a : List Tree) :
    (Tree.node k a).definitions = definitionsOf a := by
  rw [definitions, definitionsOf, definitionsOf]
  refine List.flatMap_congr fun j hj ↦ ?_
  have hne : k ≠ j := fun h ↦ hk (h ▸ hj)
  rw [nodesOf_singleton, nodes_node_of_ne hne]

/-- A definition is one itself, beside those of its members. -/
theorem eq_or_mem_of_mem_definitions (h : d ∈ (Tree.node k a).definitions) :
    (d = .node k a ∧ k ∈ definitionKinds) ∨ d ∈ definitionsOf a := by
  obtain ⟨j, hj, hd⟩ := List.mem_flatMap.1 h
  rw [nodesOf_singleton] at hd
  by_cases hk : k = j
  · subst hk
    rw [nodes_node_self, List.mem_cons] at hd
    exact hd.imp (⟨·, hj⟩) fun h ↦ List.mem_flatMap.2 ⟨k, hj, h⟩
  · rw [nodes_node_of_ne hk] at hd
    exact .inr (List.mem_flatMap.2 ⟨j, hj, hd⟩)

theorem definitionsOf_eq_nil (h : ∀ c ∈ a, c.definitions = []) : definitionsOf a = [] := by
  induction a with
  | nil => rfl
  | cons c a ih =>
    obtain ⟨hc, ha⟩ := List.forall_mem_cons.1 h
    refine List.eq_nil_iff_forall_not_mem.2 fun d hd ↦ ?_
    rw [← List.singleton_append, mem_definitionsOf_append, ih ha] at hd
    rcases hd with hd | hd
    · rw [show definitionsOf [c] = [] from hc] at hd
      cases hd
    · cases hd

end

end Tree

/-! ## Trees without definitions -/

/-- No statement in the tree defines anything. -/
def IsPlain (t : Tree) : Prop := t.definitions = []

theorem isPlain_node {k : NodeKind} (hk : k ∉ definitionKinds) {a : List Tree}
    (h : ∀ c ∈ a, IsPlain c) : IsPlain (.node k a) := by
  rw [IsPlain, definitions_node_of_not_mem hk]
  exact definitionsOf_eq_nil h

theorem isPlain_fold {k : NodeKind} (hk : k ∉ definitionKinds) (a : List Tree) :
    (∀ c ∈ a, IsPlain c) → IsPlain (match a with
      | [c] => c
      | _ => .node k a) := by
  split
  · exact fun h ↦ h _ List.mem_cons_self
  · exact isPlain_node hk

theorem isPlain_parenthesised {a : List Tree} (h : ∀ c ∈ a, IsPlain c) :
    IsPlain (parenthesised a) := by
  rw [parenthesised]
  split_ifs
  · exact isPlain_node (by decide) h
  · exact isPlain_node (by decide) h
  · exact isPlain_node (by decide) h

theorem isPlain_bracketed {a : List Tree} (h : ∀ c ∈ a, IsPlain c) : IsPlain (bracketed a) := by
  rw [bracketed]
  split_ifs
  · exact isPlain_node (by decide) h
  · exact isPlain_node (by decide) h

/-- Whether a rule is for a line of simple statements or for what stands inside statements. -/
def isWithinLine : Rule → Bool
  | .statement | .block => false
  | _ => true

theorem makes_isPlain (r : Rule) (hr : isWithinLine r = true) :
    Makes grammar IsPlain (fun r ↦ isWithinLine r = true) (grammar r) := by
  -- one goal for each token and for each place where trees are put together
  cases r
  case statement => cases hr
  case block => cases hr
  all_goals
    repeat' first
      | exact fun t _ ↦ definitions_leaf t
      | exact rfl
      | exact True.intro
      | apply And.intro
      | refine Or.inr ⟨fun _ _ _ _ h ↦ isPlain_node (by decide) h, ?_⟩
      | refine Or.inr ⟨fun _ a _ _ h ↦ isPlain_fold (by decide) a h, ?_⟩
      | refine Or.inr ⟨fun _ _ _ _ h ↦ isPlain_parenthesised h, ?_⟩
      | refine Or.inr ⟨fun _ _ _ _ h ↦ isPlain_bracketed h, ?_⟩

/-! ## Forms whose definitions stand in blocks -/

/-- The form closes as many strings with fields as it opens, and it can be read. -/
def IsLevel (f : Syn) : Prop :=
  balance.form (fun _ ↦ some 0) f = some 0 ∧ f.isGrounded = true

mutual

/-- The definitions in the trees of the form stand in its blocks. -/
def InBlocks : Syn → Prop
  | .kind _ => True
  | .word _ => True
  | .soft _ => True
  | .seq fs => AllInBlocks fs
  | .alt fs => AllInBlocks fs
  | .many f => InBlocks f ∧ IsLevel f
  | .choose test yes no => InBlocks test ∧ IsLevel test ∧ InBlocks yes ∧ InBlocks no
  | .ahead _ => True
  | .unless _ => True
  | .rule r => r ≠ .statement
  | .build k f => (∀ a, ∀ d ∈ (k a).definitions, d ∈ definitionsOf a) ∧ InBlocks f
  | .check _ f => InBlocks f

/-- The same for each of several forms. -/
def AllInBlocks : List Syn → Prop
  | [] => True
  | f :: fs => InBlocks f ∧ IsLevel f ∧ AllInBlocks fs

end

section

variable {f : Syn} {ts r : List Token} {a : List Tree} {c d : Tree}

/-- Behind tokens that close their strings with fields, a form for blocks makes a tree that holds
the definition. -/
def BlockHolds (ts : List Token) (d : Tree) : Prop := ∃ u ts' c r', ts = u ++ ts' ∧ excess u = 0
  ∧ Parses grammar block ts' (some (c, r')) ∧ d ∈ definitionsOf c

theorem BlockHolds.behind (h : BlockHolds ts d) {u : List Token} (hu : excess u = 0) :
    BlockHolds (u ++ ts) d := by
  obtain ⟨v, ts', c, r', rfl, hv, hblock, hd⟩ := h
  exact ⟨u ++ v, ts', c, r', (List.append_assoc ..).symm, by rw [excess_append, hu, hv, add_zero],
    hblock, hd⟩

theorem IsLevel.excess_eq (hf : IsLevel f) (h : Parses grammar f ts (some (a, r))) :
    ∃ u, ts = u ++ r ∧ excess u = 0 := by
  obtain ⟨u, hu, hyields⟩ := exists_yields_of_parses terminates_grammar h hf.2
  exact ⟨u, hu, balance.sound _ balance_grammar hyields 0 hf.1⟩

/-- **Definitions stand in the blocks of such a form.** -/
theorem exists_block (h : Parses grammar f ts (some (a, r))) (hf : InBlocks f)
    (hd : d ∈ definitionsOf a) : BlockHolds ts d := by
  have hboth {ts r₁ : List Token} {x y : List Tree} {f' : Syn} (hlevel : IsLevel f')
      (h : Parses grammar f' ts (some (x, r₁))) (hd : d ∈ definitionsOf (x ++ y))
      (hfirst : d ∈ definitionsOf x → BlockHolds ts d)
      (hsecond : d ∈ definitionsOf y → BlockHolds r₁ d) : BlockHolds ts d := by
    rcases mem_definitionsOf_append.1 hd with hd | hd
    · exact hfirst hd
    · obtain ⟨u, rfl, hu⟩ := hlevel.excess_eq h
      exact (hsecond hd).behind hu
  generalize ho : some (a, r) = o at h
  induction h generalizing a r with
  | kind =>
    obtain ⟨t, -, -, rfl⟩ := take_eq_some ho.symm
    cases hd
  | word =>
    obtain ⟨t, -, -, rfl⟩ := take_eq_some ho.symm
    cases hd
  | soft =>
    obtain ⟨t, -, -, rfl⟩ := take_eq_some ho.symm
    cases hd
  | done =>
    cases ho
    cases hd
  | unfit => cases ho
  | stuck => cases ho
  | next h hrest ih ihrest =>
    cases ho
    exact hboth hf.2.1 h hd (fun hd ↦ ih hf.1 hd rfl) fun hd ↦ ihrest hf.2.2 hd rfl
  | exhausted => cases ho
  | here h ih =>
    cases ho
    exact ih hf.1 hd rfl
  | later h hrest ih ihrest => exact ihrest hf.2.2 hd ho
  | enough =>
    cases ho
    cases hd
  | again h hrest ih ihrest =>
    cases ho
    exact hboth hf.2 h hd (fun hd ↦ ih hf.1 hd rfl) fun hd ↦ ihrest hf hd rfl
  | broken => cases ho
  | chosen htest h ihtest ih =>
    cases ho
    exact hboth hf.2.1 htest hd (fun hd ↦ ihtest hf.1 hd rfl) fun hd ↦ ih hf.2.2.1 hd rfl
  | otherwise htest h ihtest ih => exact ih hf.2.2.2 hd ho
  | ahead =>
    obtain ⟨x, -, hx⟩ := Option.map_eq_some_iff.1 ho.symm
    cases hx
    cases hd
  | absent =>
    cases ho
    cases hd
  | present => cases ho
  | @rule j ts o h ih =>
    subst ho
    by_cases hj : j = .block
    · subst hj
      exact ⟨[], ts, a, r, rfl, rfl, .rule h, hd⟩
    · have hline : isWithinLine j = true := by
        cases j <;> first
          | rfl
          | exact absurd rfl hj
          | exact absurd rfl hf
      obtain ⟨u, -, hyields⟩ :=
        exists_yields_of_parses terminates_grammar h (terminates_grammar.isGrounded j)
      rw [definitionsOf_eq_nil
        (good_of_yields keeps_grammar makes_isPlain hyields (makes_isPlain j hline)
          (keeps_grammar j))] at hd
      cases hd
  | @build k f ts o h ih =>
    obtain ⟨⟨x, r'⟩, rfl, hx⟩ := Option.map_eq_some_iff.1 ho.symm
    cases hx
    exact ih hf.2 (hf.1 x d hd) rfl
  | @check p f ts o h ih =>
    obtain ⟨rfl, -⟩ := Option.filter_eq_some_iff.1 ho.symm
    exact ih hf hd rfl

end

/-! ## Where definitions stand -/

/-- The token does not begin a deeper line. -/
def StaysLevel (ts : List Token) : Prop := ∀ k ∈ ts.head?, k.kind ≠ .indent

/-- A definition stands among the tokens of a text behind `front`, where a line ends, and in front
of `behind`. -/
structure Located (ts : List Token) (d : Tree) (front behind : List Token) (f : Syn) : Prop where
  tokens_eq : ts = front ++ (d.tokens ++ behind)
  excess_eq : excess front = 0
  layout : AfterLayout front
  form : f ∈ definingForms
  parses : Parses grammar f (d.tokens ++ behind) (some ([d], behind))
  level : StaysLevel behind

section

variable {f : Syn} {ts r front behind u : List Token} {a b cs : List Tree} {c d : Tree}

theorem isGrounded_of_mem_definingForms (hf : f ∈ definingForms) : f.isGrounded = true := by
  rcases List.mem_cons.1 hf with rfl | hf
  · rfl
  · exact (node_of_mem_definitionForms hf).1

theorem afterLayout_append (h : AfterLayout u) (h' : AfterLayout front) :
    AfterLayout (u ++ front) := by
  rcases h' with rfl | ⟨v, k, rfl, hk⟩
  · rwa [List.append_nil]
  · exact .inr ⟨u ++ v, k, (List.append_assoc ..).symm, hk⟩

theorem Located.after (h : Located ts d front behind f) (hexcess : excess u = 0)
    (hu : AfterLayout u) : Located (u ++ ts) d (u ++ front) behind f where
  tokens_eq := by rw [h.tokens_eq, List.append_assoc]
  excess_eq := by rw [excess_append, hexcess, h.excess_eq, add_zero]
  layout := afterLayout_append hu h.layout
  form := h.form
  parses := h.parses
  level := h.level

/-- A definition that stands at the beginning. -/
theorem located_of_parses (hf : f ∈ definingForms) (h : Parses grammar f ts (some ([d], r)))
    (hr : StaysLevel r) : Located ts d [] r f := by
  obtain ⟨u, rfl, hyields⟩ :=
    exists_yields_of_parses terminates_grammar h (isGrounded_of_mem_definingForms hf)
  have htokens := tokensOf_of_yields keeps_grammar hyields (keeps_of_mem_definingForms hf)
  rw [tokensOf_singleton] at htokens
  exact ⟨by rw [htokens]; rfl, rfl, .inl rfl, hf, htokens ▸ h, hr⟩

/-- The definition stands somewhere in the text. -/
def IsLocated (ts : List Token) (d : Tree) : Prop := ∃ front behind f, Located ts d front behind f

theorem IsLocated.after (h : IsLocated ts d) (hexcess : excess u = 0) (hu : AfterLayout u) :
    IsLocated (u ++ ts) d := by
  obtain ⟨front, behind, f, h⟩ := h
  exact ⟨_, _, _, h.after hexcess hu⟩

theorem staysLevel_of_yields {k : Token} (h : Yields grammar (.many (.rule .statement)) u a)
    (hk : k.kind ≠ .indent) (r : List Token) : StaysLevel (u ++ k :: r) := by
  intro j hj
  cases u with
  | nil => exact Option.some.inj hj ▸ hk
  | cons x v =>
    obtain rfl : x = j := Option.some.inj hj
    have hopening := (beginning .indent).sound _ (beginning_grammar (.inl rfl)) h
    exact fun hx ↦ Bool.false_ne_true (hopening.2 x v rfl hx)

/-- A member of the trees that a repeated form makes comes from one turn, in front of further
turns. -/
theorem Form.Parses.exists_turn_behind (h : Parses grammar (.many f) ts (some (a, r)))
    (hf : (Form.many f).isGrounded = true) (hd : d ∈ definitionsOf a) : ∃ u₁ a₁ ts' b r' a₂,
      ts = u₁ ++ ts' ∧ Yields grammar (.many f) u₁ a₁ ∧ Parses grammar f ts' (some (b, r'))
      ∧ d ∈ definitionsOf b ∧ Parses grammar (.many f) r' (some (a₂, r)) := by
  generalize hm : Form.many f = m at h
  generalize ho : some (a, r) = o at h
  induction h generalizing a r with cases hm
  | enough =>
    cases ho
    cases hd
  | @again _ ts r₁ r₂ b e h hrest ih ihrest =>
    cases ho
    rcases mem_definitionsOf_append.1 hd with hd | hd
    · exact ⟨[], [], ts, b, r₁, e, rfl, .enough, h, hd, hrest⟩
    · obtain ⟨u₁, a₁, ts', b', r', a₂, rfl, hbefore, hturn⟩ := ihrest hd rfl rfl
      obtain ⟨v, rfl, hv⟩ :=
        exists_yields_of_parses terminates_grammar h (Bool.and_eq_true_iff.1 hf).2
      exact ⟨v ++ u₁, b ++ a₁, ts', b', r', a₂, (List.append_assoc ..).symm, .again hv hbefore,
        hturn⟩

theorem isFront_of_statements (h : Yields grammar (.many (.rule .statement)) u a) : IsFront u :=
  isFront_of_yields h rfl rfl rfl

/-- Where definitions stand in one of several statements, if they do so in one. -/
theorem located_of_statements {k : Token} (hk : k.kind ≠ .indent)
    (h : Parses grammar (.many (.rule .statement)) ts (some (a, k :: r)))
    (hd : d ∈ definitionsOf a)
    (hone : ∀ ts' b r', ts'.length ≤ ts.length → StaysLevel r' →
      Parses grammar (.rule .statement) ts' (some (b, r')) → d ∈ definitionsOf b →
        IsLocated ts' d) : IsLocated ts d := by
  obtain ⟨u, a₁, ts', b, r', a₂, rfl, hbefore, hturn, hdb, hafter⟩ :=
    h.exists_turn_behind rfl hd
  obtain ⟨v, rfl, hv⟩ := exists_yields_of_parses terminates_grammar hafter rfl
  have hfront := isFront_of_statements hbefore
  have hlocated := hone ts' b _ (by simp) (staysLevel_of_yields hv hk r) hturn hdb
  exact hlocated.after hfront.excess_eq (afterLayout_of_isFront hfront)

/-- The same for a block. -/
theorem located_of_block (h : Parses grammar block ts (some (a, r))) (hd : d ∈ definitionsOf a)
    (hone : ∀ ts' b r', ts'.length < ts.length → StaysLevel r' →
      Parses grammar (.rule .statement) ts' (some (b, r')) → d ∈ definitionsOf b →
        IsLocated ts' d) : ∃ w ts', ts = w ++ ts' ∧ excess w = 0 ∧ AfterLayout w ∧ w ≠ []
          ∧ IsLocated ts' d := by
  obtain ⟨cs, rfl, hbody⟩ := h.of_rule.of_build
  rw [show definitionsOf [.node .block cs] = definitionsOf cs from
    definitions_node_of_not_mem (by decide) cs] at hd
  cases hbody with
  | chosen hline hbody =>
    obtain ⟨nl, hnl, rfl, rfl⟩ := hline.token_of_kind
    obtain ⟨_, _, _, rfl, hopen, hbody⟩ := hbody.parts
    obtain ⟨x, y, _, rfl, hstatements, hbody⟩ := hbody.parts
    obtain ⟨_, _, _, rfl, hclose, hdone⟩ := hbody.parts
    obtain ⟨rfl, rfl⟩ := hdone.eq_of_done
    obtain ⟨opening, hopening, rfl, rfl⟩ := hopen.token_of_kind
    obtain ⟨closing, hclosing, rfl, rfl⟩ := hclose.token_of_kind
    have hdx : d ∈ definitionsOf x := by
      simp only [mem_definitionsOf_append] at hd
      rcases hd with h | h | h | h | h
      · cases h
      · cases h
      · exact h
      · cases h
      · cases h
    obtain ⟨_, _, _, rfl, hfirst, hmore⟩ := hstatements.parts
    obtain ⟨_, _, _, rfl, hmany, hdone⟩ := hmore.parts
    obtain ⟨rfl, rfl⟩ := hdone.eq_of_done
    rw [List.append_nil] at hdx
    refine ⟨[nl, opening], _, rfl, ?_, .inr ⟨[nl], opening, rfl, ?_⟩, by simp, ?_⟩
    · simp [weight, hnl, hopening]
    · exact isLayout_iff.2 (hopening ▸ by decide)
    · refine located_of_statements (by rw [hclosing]; decide) (.again hfirst hmany) hdx
        fun ts' b r' hlength ↦ hone ts' b r' (by simp; omega)
  | otherwise hline hbody =>
    obtain ⟨u, -, hyields⟩ := exists_yields_of_parses terminates_grammar hbody rfl
    rw [definitionsOf_eq_nil (good_of_yields keeps_grammar makes_isPlain hyields rfl trivial)] at hd
    cases hd

/-- The same for a form whose definitions stand in its blocks, behind what closes its strings. -/
theorem located_of_blocks (h : Parses grammar f ts (some (a, r))) (hf : InBlocks f)
    (hd : d ∈ definitionsOf a)
    (hone : ∀ ts' b r', ts'.length < ts.length → StaysLevel r' →
      Parses grammar (.rule .statement) ts' (some (b, r')) → d ∈ definitionsOf b →
        IsLocated ts' d) : IsLocated ts d := by
  obtain ⟨u, ts', c, r', rfl, hu, hblock, hdc⟩ := exists_block h hf hd
  obtain ⟨w, ts', rfl, hw, hlayout, hne, hlocated⟩ :=
    located_of_block hblock hdc fun ts' b r' hlength ↦ hone ts' b r' (by
      rw [List.length_append]; omega)
  rcases hlayout with hnil | ⟨v, k, rfl, hk⟩
  · exact absurd hnil hne
  · rw [← List.append_assoc]
    exact hlocated.after (by rw [excess_append, hu, hw, add_zero])
      (.inr ⟨u ++ v, k, (List.append_assoc ..).symm, hk⟩)

/-- The same for a form of a node, which may be a definition itself. -/
theorem located_of_node {k : NodeKind} (h : Parses grammar (.node k f) ts (some (a, r)))
    (hf : InBlocks f) (hk : k ∉ definitionKinds ∨ .node k f ∈ definingForms) (hr : StaysLevel r)
    (hd : d ∈ definitionsOf a)
    (hone : ∀ ts' b r', ts'.length < ts.length → StaysLevel r' →
      Parses grammar (.rule .statement) ts' (some (b, r')) → d ∈ definitionsOf b →
        IsLocated ts' d) : IsLocated ts d := by
  obtain ⟨cs, rfl, hinner⟩ := h.of_build
  rcases eq_or_mem_of_mem_definitions hd with ⟨rfl, hmem⟩ | hd
  · rcases hk with hk | hk
    · exact absurd hmem hk
    · exact ⟨_, _, _, located_of_parses hk h hr⟩
  · exact located_of_blocks hinner hf hd hone

theorem definitions_node_subset {k : NodeKind} (hk : k ∉ definitionKinds) (a : List Tree) :
    ∀ d ∈ (Tree.node k a).definitions, d ∈ definitionsOf a :=
  fun _ hd ↦ definitions_node_of_not_mem hk a ▸ hd

theorem definitions_fold_subset {k : NodeKind} (hk : k ∉ definitionKinds) (a : List Tree) :
    ∀ d ∈ (match a with
      | [c] => c
      | _ => Tree.node k a).definitions, d ∈ definitionsOf a := by
  split
  · exact fun _ hd ↦ hd
  · exact definitions_node_subset hk _

/-- The forms of statements with blocks. -/
def blockForms : List Syn :=
  [functionRest, .seq [.word "async", functionRest],
    .seq [.word "class", name, opt (arguments plainArgumentsOk), colon, block],
    ifStatement, withStatement, .seq [.word "async", withStatement], forStatement,
    .seq [.word "async", forStatement], whileStatement, tryStatement,
    .seq [matchHeader, .kind .indent, some1 caseBlock, .kind .dedent]]

theorem inBlocks_of_mem_blockForms (hf : f ∈ blockForms) : InBlocks f := by
  simp only [blockForms, List.mem_cons, List.not_mem_nil, or_false] at hf
  -- one goal for each place where trees are put together
  rcases hf with rfl | rfl | rfl | rfl | rfl | rfl | rfl | rfl | rfl | rfl | rfl <;> repeat' first
    | exact True.intro
    | exact rfl
    | exact Rule.noConfusion
    | exact definitions_node_subset (by decide)
    | exact definitions_fold_subset (by decide)
    | apply And.intro

/-- The same for a definition without decorators. -/
theorem located_of_definition (hf : f ∈ definitionForms) (h : Parses grammar f ts (some (a, r)))
    (hr : StaysLevel r) (hd : d ∈ definitionsOf a)
    (hone : ∀ ts' b r', ts'.length < ts.length → StaysLevel r' →
      Parses grammar (.rule .statement) ts' (some (b, r')) → d ∈ definitionsOf b →
        IsLocated ts' d) : IsLocated ts d := by
  have hmem : f ∈ definingForms := List.mem_cons_of_mem _ hf
  simp only [definitionForms, List.mem_cons, List.not_mem_nil, or_false] at hf
  rcases hf with rfl | rfl | rfl
  all_goals
    exact located_of_node h (inBlocks_of_mem_blockForms (by simp [blockForms])) (.inr hmem) hr hd
      hone

/-- The same for a definition under decorators. -/
theorem located_of_decorated (h : Parses grammar decorated ts (some (a, r))) (hr : StaysLevel r)
    (hd : d ∈ definitionsOf a)
    (hone : ∀ ts' b r', ts'.length < ts.length → StaysLevel r' →
      Parses grammar (.rule .statement) ts' (some (b, r')) → d ∈ definitionsOf b →
        IsLocated ts' d) : IsLocated ts d := by
  obtain ⟨cs, rfl, hinner⟩ := h.of_build
  rcases eq_or_mem_of_mem_definitions hd with ⟨rfl, -⟩ | hd
  · exact ⟨_, _, _, located_of_parses List.mem_cons_self h hr⟩
  obtain ⟨x, ts', y, rfl, hdecorators, hbelow⟩ := hinner.parts
  obtain ⟨y, _, _, rfl, hbelow, hdone⟩ := hbelow.parts
  obtain ⟨rfl, rfl⟩ := hdone.eq_of_done
  obtain ⟨u, rfl, hyields⟩ := exists_yields_of_parses terminates_grammar hdecorators rfl
  have hplain : definitionsOf x = [] := by
    refine definitionsOf_eq_nil (good_of_yields keeps_grammar makes_isPlain hyields ?_ ?_)
    · repeat' first
        | exact fun t _ ↦ definitions_leaf t
        | exact rfl
        | exact True.intro
        | apply And.intro
        | refine Or.inr ⟨fun _ _ _ _ h ↦ isPlain_node (by decide) h, ?_⟩
    · repeat' first
        | exact True.intro
        | exact fun cs ↦ tokens_node _ cs
        | apply And.intro
  rw [List.append_nil, mem_definitionsOf_append, hplain] at hd
  rcases hd with hd | hd
  · cases hd
  · have hfront : IsFront u := isFront_of_yields hyields rfl rfl rfl
    obtain ⟨f, hf, hdefinition⟩ := exists_form_of_undecorated hbelow
    refine IsLocated.after ?_ hfront.excess_eq (afterLayout_of_isFront hfront)
    exact located_of_definition hf hdefinition hr hd fun ts' b r' hlength ↦
      hone ts' b r' (by rw [List.length_append]; omega)

/-- **Definitions in a statement** stand somewhere in it. -/
theorem located_of_statement (n : Nat) : ∀ ts, ts.length ≤ n → ∀ a r, StaysLevel r →
    Parses grammar (.rule .statement) ts (some (a, r)) → d ∈ definitionsOf a → IsLocated ts d := by
  induction n with
  | zero =>
    intro ts hlength a r _ h _
    obtain ⟨u, rfl, hyields⟩ := exists_yields_of_parses terminates_grammar h rfl
    obtain ⟨x, q, rfl, -⟩ := exists_cons_of_yields (by decide) hyields
    cases hlength
  | succ n ih =>
    intro ts hlength a r hr h hd
    have hone : ∀ ts' b r', ts'.length < ts.length → StaysLevel r' →
        Parses grammar (.rule .statement) ts' (some (b, r')) → d ∈ definitionsOf b →
          IsLocated ts' d :=
      fun ts' b r' hlt ↦ ih ts' (Nat.le_of_lt_succ (lt_of_lt_of_le hlt hlength)) b r'
    have hnode {k : NodeKind} {f : Syn} (hk : k ∉ definitionKinds) (hf : f ∈ blockForms)
        (h : Parses grammar (.node k f) ts (some (a, r))) : IsLocated ts d :=
      located_of_node h (inBlocks_of_mem_blockForms hf) (.inl hk) hr hd hone
    have hdefinition {f : Syn} (hf : f ∈ definitionForms)
        (h : Parses grammar f ts (some (a, r))) : IsLocated ts d :=
      located_of_definition hf h hr hd hone
    rcases h.of_rule.branch_ahead with h | h
    · exact hnode (by decide) (by simp [blockForms]) h
    rcases h.branch_ahead with h | h
    · exact hdefinition (by simp [definitionForms]) h
    rcases h.branch_ahead with h | h
    · exact hdefinition (by simp [definitionForms]) h
    rcases h.branch_ahead with h | h
    · exact hnode (by decide) (by simp [blockForms]) h
    rcases h.branch_ahead with h | h
    · exact hnode (by decide) (by simp [blockForms]) h
    rcases h.branch_ahead with h | h
    · exact hnode (by decide) (by simp [blockForms]) h
    rcases h.branch_ahead with h | h
    · exact hnode (by decide) (by simp [blockForms]) h
    rcases h.branch_ahead with h | h
    · exact located_of_decorated h hr hd hone
    rcases h.branch_ahead with h | h
    · rcases h.branch_ahead with h | h
      · exact hdefinition (by simp [definitionForms]) h
      · rcases h.branch_ahead with h | h
        · exact hnode (by decide) (by simp [blockForms]) h
        · exact hnode (by decide) (by simp [blockForms]) h
    rcases h.branch_ahead with h | h
    · exact hnode (by decide) (by simp [blockForms]) h
    · obtain ⟨u, -, hyields⟩ := exists_yields_of_parses terminates_grammar h rfl
      rw [definitionsOf_eq_nil
        (good_of_yields keeps_grammar makes_isPlain hyields rfl trivial)] at hd
      cases hd

/-- **Every definition of a text stands somewhere in it.** -/
theorem exists_located {t : Tree} (h : parse ts = some t) (hd : d ∈ t.definitions) :
    IsLocated ts d := by
  obtain ⟨cs, ht, hinner⟩ := (parse_eq_some_iff.1 h).of_build
  obtain rfl := List.singleton_inj.1 ht
  rw [definitions_node_of_not_mem (by decide)] at hd
  obtain ⟨x, _, _, rfl, hstatements, hrest⟩ := hinner.parts
  obtain ⟨_, _, _, rfl, hlast, hdone⟩ := hrest.parts
  obtain ⟨rfl, -⟩ := hdone.eq_of_done
  obtain ⟨last, hkind, rfl, rfl⟩ := hlast.token_of_kind
  have hdx : d ∈ definitionsOf x := by
    simp only [mem_definitionsOf_append] at hd
    rcases hd with h | h | h
    · exact h
    · cases h
    · cases h
  exact located_of_statements (by rw [hkind]; decide) hstatements hdx fun ts' b r' _ hr hstatement ↦
    located_of_statement ts'.length ts' le_rfl b r' hr hstatement

end

end Source
end TexWeave

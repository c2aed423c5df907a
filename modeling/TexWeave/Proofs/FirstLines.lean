import TexWeave.Proofs.Spans
import TexWeave.Proofs.Statements
import TexWeave.Proofs.Trees

/-!
# The lines that statements show

A statement in a block shows the line it starts on by its first token, and a decorated definition
by the expression of its first decorator, where parentheses around that expression do not count.
Whatever stands in front of that token in the block holds no statement that opens a context.

* `IsFree`, `makes_isFree` — trees without such statements; expressions are of that kind.
* `Starts`, `makes_starts` — where an expression starts on its line.
* `Leads` — the token by which a statement shows its line.
* `exists_pieces_of_block` — a block is made of statements.
* `block_bounds` — the statements of a block stand in order.
-/

set_option autoImplicit false

namespace TexWeave
namespace Source

open Form Scanner Tree

/-! ## Trees without contexts -/

/-- Whether a rule is for what stands inside statements. -/
def isInner : Rule → Bool
  | .statement | .simpleLine | .block => false
  | _ => true

/-- No statement in the tree opens a context. -/
def IsFree (t : Tree) : Prop := contexts t = []

theorem isFree_leaf (t : Token) : IsFree (.leaf t) := nodes_leaf t

theorem isFree_node {k : NodeKind} (hk : k ≠ .withStatement) {a : List Tree}
    (h : ∀ c ∈ a, IsFree c) : IsFree (.node k a) := by
  rw [IsFree, contexts, nodes_node_of_ne hk]
  exact nodesOf_eq_nil h

theorem isFree_fold {k : NodeKind} (hk : k ≠ .withStatement) (a : List Tree) :
    (∀ c ∈ a, IsFree c) → IsFree (match a with
      | [c] => c
      | _ => .node k a) := by
  split
  · exact fun h ↦ h _ List.mem_cons_self
  · exact isFree_node hk

theorem isFree_parenthesised {a : List Tree} (h : ∀ c ∈ a, IsFree c) :
    IsFree (parenthesised a) := by
  rw [parenthesised]
  split_ifs
  · exact isFree_node (by decide) h
  · exact isFree_node (by decide) h
  · exact isFree_node (by decide) h

theorem isFree_bracketed {a : List Tree} (h : ∀ c ∈ a, IsFree c) : IsFree (bracketed a) := by
  rw [bracketed]
  split_ifs
  · exact isFree_node (by decide) h
  · exact isFree_node (by decide) h

theorem makes_isFree (r : Rule) (hr : isInner r = true) :
    Makes grammar IsFree (fun r ↦ isInner r = true) (grammar r) := by
  -- one goal for each token and for each place where trees are put together
  cases r
  case statement => cases hr
  case simpleLine => cases hr
  case block => cases hr
  all_goals
    repeat' first
      | exact fun t _ ↦ isFree_leaf t
      | exact rfl
      | exact True.intro
      | apply And.intro
      | refine Or.inr ⟨fun _ _ _ _ h ↦ isFree_node (by decide) h, ?_⟩
      | refine Or.inr ⟨fun _ a _ _ h ↦ isFree_fold (by decide) a h, ?_⟩
      | refine Or.inr ⟨fun _ _ _ _ h ↦ isFree_parenthesised h, ?_⟩
      | refine Or.inr ⟨fun _ _ _ _ h ↦ isFree_bracketed h, ?_⟩

/-! ## How trees begin -/

/-- The kinds of token that only show how lines are arranged. -/
def layoutKinds : List TokenKind := [.newline, .indent, .dedent, .finish]

theorem isLayout_iff {x : Token} : x.isLayout = true ↔ x.kind ∈ layoutKinds := by
  rw [Token.isLayout]
  cases x.kind <;> decide

/-- Of all rules only that for blocks can begin with such a token. -/
def opensWith (k : TokenKind) (r : Rule) : Bool × Bool := (false, r == .block && k == .newline)

theorem beginning_layout {k : TokenKind} (hk : k ∈ layoutKinds) (r : Rule) :
    (beginning k).form (opensWith k) (grammar r) = opensWith k r := by
  simp only [layoutKinds, List.mem_cons, List.not_mem_nil, or_false] at hk
  rcases hk with rfl | rfl | rfl | rfl <;> cases r <;> rfl

/-- The form takes at least one token and does not begin with layout. -/
def BeginsPlain (f : Syn) : Prop :=
  ∀ k ∈ layoutKinds, (beginning k).form (opensWith k) f = (false, false)

instance : DecidablePred BeginsPlain := fun _ ↦ inferInstanceAs (Decidable (∀ _ ∈ _, _))

section

variable {f : Syn} {u : List Token} {a : List Tree}

theorem exists_cons_of_yields (hf : BeginsPlain f) (h : Yields grammar f u a) :
    ∃ x q, u = x :: q ∧ x.isLayout = false := by
  have hsound {k : TokenKind} (hk : k ∈ layoutKinds) :
      (beginning k).Holds (false, false) u := by
    rw [← hf k hk]
    exact (beginning k).sound _ (beginning_layout hk) h
  cases u with
  | nil => cases (hsound (k := .newline) (by decide)).1 rfl
  | cons x q =>
    refine ⟨x, q, rfl, Bool.eq_false_iff.2 fun hx ↦ ?_⟩
    cases (hsound (isLayout_iff.1 hx)).2 x q rfl rfl

/-- The expression begins on its line with a token in front of which strings with fields are
closed. -/
def Starts (e : Tree) : Prop := ∃ p x q, e.tokens = p ++ x :: q ∧ excess p = 0
  ∧ x.isLayout = false ∧ x.line = e.expressionLine

theorem starts_leaf {t : Token} (h : t.isLayout = false) : Starts (.leaf t) := by
  refine ⟨[], t, [], ?_, rfl, h, ?_⟩
  · rw [tokens]
    rfl
  · rw [expressionLine, firstLine, tokens]
    · rfl
    · rintro _ _ _ heq
      cases heq

theorem starts_of_tokens {e : Tree} (hline : e.expressionLine = e.firstLine)
    (h : ∃ x q, e.tokens = x :: q ∧ x.isLayout = false) : Starts e := by
  obtain ⟨x, q, hx, hlayout⟩ := h
  refine ⟨[], x, q, hx, rfl, hlayout, ?_⟩
  rw [hline, firstLine, hx]
  rfl

theorem starts_node {k : NodeKind} (hk : k ≠ .group) (hf : BeginsPlain f)
    (h : Yields grammar f u a) (htokens : tokensOf a = u) : Starts (.node k a) := by
  refine starts_of_tokens ?_ ?_
  · rw [expressionLine]
    rintro _ _ _ heq
    cases heq
    exact hk rfl
  · rw [tokens_node, htokens]
    exact exists_cons_of_yields hf h

theorem starts_fold {k : NodeKind} (hk : k ≠ .group) (hf : BeginsPlain f) (a : List Tree) :
    Yields grammar f u a → tokensOf a = u → (∀ c ∈ a, Starts c) → Starts (match a with
      | [c] => c
      | _ => .node k a) := by
  split
  · exact fun _ _ h ↦ h _ List.mem_cons_self
  · exact fun h htokens _ ↦ starts_node hk hf h htokens

theorem starts_bracketed (hf : BeginsPlain f) (h : Yields grammar f u a)
    (htokens : tokensOf a = u) : Starts (bracketed a) := by
  rw [bracketed]
  split_ifs
  · exact starts_node (by decide) hf h htokens
  · exact starts_node (by decide) hf h htokens

theorem weight_of_fixed {t : Token} (h : t.kind = .operator ∨ t.kind = .keyword) :
    weight t = 0 := by
  rcases h with h | h <;> rw [weight, h]

/-- Parentheses around an expression stand in front of its beginning. -/
theorem starts_parenthesised {fs : List Syn} (hf : BeginsPlain (.seq (.word "(" :: fs)))
    (h : Yields grammar (.seq (.word "(" :: fs)) u a) (htokens : tokensOf a = u)
    (hall : ∀ c ∈ a, Starts c) : Starts (parenthesised a) := by
  have hfirst := exists_cons_of_yields hf h
  rw [← htokens, ← tokens_node .group] at hfirst
  rw [parenthesised]
  split_ifs
  · exact starts_node (by decide) hf h htokens
  · exact starts_node (by decide) hf h htokens
  · obtain ⟨_, _, b, r, rfl, rfl, hword, -⟩ := h.parts
    obtain ⟨t, -, hkind, rfl, rfl⟩ := hword.token_of_word
    by_cases hthree : ∃ c d, r = [c, d]
    · obtain ⟨c, d, rfl⟩ := hthree
      obtain ⟨p, x, q, hc, hp, hlayout, hx⟩ := hall c (by simp)
      refine ⟨t :: p, x, q ++ d.tokens, ?_, ?_, hlayout, ?_⟩
      · simp [tokens, tokensOf, hc]
      · rw [excess_cons, weight_of_fixed hkind, hp, add_zero]
      · rw [hx]
        exact (expressionLine.eq_1 (.leaf t) c d).symm
    · refine starts_of_tokens ?_ hfirst
      rw [expressionLine]
      rintro _ c d heq
      cases heq
      exact hthree ⟨c, d, rfl⟩

theorem makes_starts (r : Rule) (hr : isInner r = true) :
    Makes grammar Starts (fun r ↦ isInner r = true) (grammar r) := by
  have hkind {k : TokenKind} (hk : k ∉ layoutKinds) (t : Token) (ht : t.kind = k) :
      Starts (.leaf t) := by
    refine starts_leaf (Bool.eq_false_iff.2 fun h ↦ hk ?_)
    rw [← ht]
    exact isLayout_iff.1 h
  have hword (t : Token) (ht : t.kind = .operator ∨ t.kind = .keyword) : Starts (.leaf t) := by
    rcases ht with ht | ht
    · exact hkind (by decide) t ht
    · exact hkind (by decide) t ht
  cases r
  case statement => cases hr
  case simpleLine => cases hr
  case block => cases hr
  all_goals
    repeat' first
      | exact hkind (by decide)
      | exact hword
      | exact rfl
      | exact True.intro
      | apply And.intro
      | exact Or.inl fun _ _ h htokens ↦ starts_node (by decide) (by decide) h htokens
      | exact Or.inl fun _ _ h htokens ↦ starts_bracketed (by decide) h htokens
      | refine Or.inr ⟨fun _ a h htokens ↦ starts_fold (by decide) (by decide) a h htokens, ?_⟩
      | refine Or.inr ⟨fun _ _ h htokens hall ↦
          starts_parenthesised (by decide) h htokens hall, ?_⟩

end

/-! ## Statements in a list -/

section

variable {m n : Nat} {cs : List Tree} {c d s : Tree} {p q : List Token} {x : Token}

theorem excess_tokensOf (h : ∀ c ∈ cs, excess c.tokens = 0) : excess (tokensOf cs) = 0 := by
  induction cs with
  | nil => rfl
  | cons c cs ih =>
    obtain ⟨hc, hcs⟩ := List.forall_mem_cons.1 h
    rw [tokensOf, excess_append, hc, ih hcs, add_zero]

/-- Each of several trees has lines of its own. -/
theorem Spans.of_mem (h : Spans m n (tokensOf cs)) (hcs : ∀ c ∈ cs, excess c.tokens = 0)
    (hc : c ∈ cs) : ∃ m' n', m ≤ m' ∧ n' ≤ n ∧ Spans m' n' c.tokens := by
  obtain ⟨a, b, rfl⟩ := List.append_of_mem hc
  rw [tokensOf_append, tokensOf] at h
  obtain ⟨m', ha, hrest⟩ := h.split (excess_tokensOf fun d hd ↦ hcs d (by simp [hd]))
  obtain ⟨n', hc', hb⟩ := hrest.split (hcs c hc)
  exact ⟨m', n', ha.le, hb.le, hc'⟩

/-- The last line of a tree, as far as a token of it shows. -/
theorem lastLine_bounds (h : Spans m n d.tokens) (htokens : d.tokens = p ++ x :: q)
    (hp : excess p = 0) (hx : x.isLayout = false) : x.line ≤ d.lastLine ∧ d.lastLine ≤ n := by
  cases hfind : d.tokens.reverse.find? fun k ↦ !k.isLayout with
  | none =>
    have hall := List.find?_eq_none.1 hfind x (by simp [htokens])
    rw [hx] at hall
    exact absurd rfl hall
  | some z =>
    rw [lastLine, hfind, Option.map_some, Option.getD_some]
    obtain ⟨hz, after, before, hreverse, hafter⟩ := List.find?_eq_some_iff_append.1 hfind
    have hz' : d.tokens = (before.reverse ++ [z]) ++ after.reverse := by
      rw [← List.reverse_reverse d.tokens, hreverse]
      simp
    have hlayout : ∀ k ∈ after.reverse, k.isLayout = true := fun k hk ↦ by
      simpa using hafter k (List.mem_reverse.1 hk)
    -- behind the last token that is no layout nothing opens or closes a string with fields
    have hweight : excess after.reverse = 0 := by
      refine (wellClosed_of_weight fun k hk ↦ ?_).1
      have hkind := isLayout_iff.1 (hlayout k hk)
      simp only [layoutKinds, List.mem_cons, List.not_mem_nil, or_false] at hkind
      rcases hkind with hkind | hkind | hkind | hkind <;> rw [weight, hkind]
    have hexcess : excess (before.reverse ++ [z]) = 0 := by
      have hall := h.excess_eq
      rw [hz', excess_append, hweight, add_zero] at hall
      exact hall
    have hlast := hz' ▸ h
    obtain ⟨n', hfront, hback⟩ := hlast.split hexcess
    refine ⟨?_, hfront.endLine_le.2.trans hback.le⟩
    have hxz : x.line ≤ z.line := by
      rw [htokens] at h
      obtain ⟨m', -, hrest⟩ := h.split hp
      rw [htokens, List.append_assoc, List.singleton_append] at hz'
      rcases List.append_eq_append_iff.1 hz' with ⟨w, -, hw⟩ | ⟨w, -, hw⟩
      · cases w with
        | nil => exact ((List.cons.inj hw).1 ▸ Nat.le_refl _)
        | cons y w =>
          obtain ⟨rfl, rfl⟩ := List.cons.inj hw
          exact hrest.line_le z (by simp)
      · cases w with
        | nil => exact ((List.cons.inj hw).1 ▸ Nat.le_refl _)
        | cons y w =>
          have hmem : x ∈ after.reverse := by
            rw [(List.cons.inj hw).2]
            simp
          rw [hlayout x hmem] at hx
          cases hx
    exact hxz.trans hfront.endLine_le.1

/-- The expression of the first decorator of a statement. -/
def leadingExpression? : Tree → Option Tree
  | .node .decoratedDefinition (.node .decorator (_ :: e :: _) :: _) => some e
  | _ => none

/-- The token `x`, which stands behind the tokens `p` of a statement, shows its line. -/
structure Leads (s : Tree) (p : List Token) (x : Token) (q : List Token) : Prop where
  tokens_eq : s.tokens = p ++ x :: q
  excess_eq : excess p = 0
  isLayout_eq : x.isLayout = false
  line_eq : x.line = statementLine s
  leading : statementLine s = ((leadingExpression? s).map expressionLine).getD s.firstLine
  contexts : ∀ w ∈ contexts s, ∀ k ∈ w.tokens, k ∈ x :: q

/-- A part of a block: a single token, or a statement that shows its line. -/
def IsPiece (c : Tree) : Prop := excess c.tokens = 0
  ∧ ∀ m n, Spans m n c.tokens → (∃ t, c = .leaf t) ∨ ∃ p x q, Leads c p x q

theorem isPiece_leaf {t : Token} (h : weight t = 0) : IsPiece (.leaf t) := by
  refine ⟨?_, fun _ _ _ ↦ .inl ⟨t, rfl⟩⟩
  rw [tokens, excess_cons, h, excess_nil, add_zero]

theorem statementLine_node {k : NodeKind} (hk : k ≠ .decoratedDefinition) (a : List Tree) :
    statementLine (.node k a) = (Tree.node k a).firstLine
      ∧ leadingExpression? (.node k a) = none := by
  cases k
  case decoratedDefinition => exact absurd rfl hk
  all_goals exact ⟨rfl, rfl⟩

theorem isPiece_node {k : NodeKind} (hk : k ≠ .decoratedDefinition) {f : Syn}
    (hf : BeginsPlain f) (hbalance : balance.form (fun _ ↦ some 0) f = some 0) {u : List Token}
    {a : List Tree} (h : Yields grammar f u a) (htokens : tokensOf a = u) :
    IsPiece (.node k a) := by
  obtain ⟨x, q, hx, hlayout⟩ := exists_cons_of_yields hf h
  have hnode : (Tree.node k a).tokens = x :: q := by rw [tokens_node, htokens, hx]
  obtain ⟨hline, hleading⟩ := statementLine_node hk a
  refine ⟨?_, fun _ _ _ ↦ .inr ⟨[], x, q, hnode, rfl, hlayout, ?_, ?_, ?_⟩⟩
  · rw [tokens_node, htokens]
    exact balance.sound _ balance_grammar h 0 hbalance
  · rw [hline, firstLine, hnode]
    rfl
  · rw [hline, hleading]
    rfl
  · intro w hw k' hk'
    rw [← hnode]
    exact tokens_subset_of_mem_nodes _ w hw k' hk'

/-! ### Decorated definitions -/

/-- A decorator is three trees, of which the second is its expression. -/
def IsDecorator (c : Tree) : Prop := ∃ t e t', c = .node .decorator [.leaf t, e, .leaf t']
  ∧ weight t = 0 ∧ Starts e ∧ IsFree e

def decoratorForm : Syn := .node .decorator (.seq [.word "@", named, .kind .newline])

/-- The rule for named expressions makes one tree. -/
theorem exists_tree_of_named {u : List Token} {a : List Tree} (h : Yields grammar named u a) :
    ∃ e, a = [e] ∧ Starts e ∧ IsFree e := by
  have hstarts := good_of_yields keeps_grammar makes_starts h rfl trivial
  have hfree := good_of_yields keeps_grammar makes_isFree h rfl trivial
  obtain ⟨e, rfl⟩ : ∃ e, a = [e] := by
    rcases h.of_rule.branch_ahead with h | h
    · obtain ⟨cs, rfl, -⟩ := h.of_node
      exact ⟨_, rfl⟩
    · rcases h.of_rule.branch_ahead with h | h
      · obtain ⟨cs, rfl, -⟩ := h.of_node
        exact ⟨_, rfl⟩
      · cases h with
        | build => exact ⟨_, rfl⟩
  exact ⟨e, rfl, hstarts e List.mem_cons_self, hfree e List.mem_cons_self⟩

theorem isDecorator_of_yields {u : List Token} {a : List Tree}
    (h : Yields grammar decoratorForm u a) : ∃ c, a = [c] ∧ IsDecorator c := by
  obtain ⟨cs, rfl, hparts⟩ := h.of_node
  obtain ⟨_, _, _, _, rfl, rfl, hword, hparts⟩ := hparts.parts
  obtain ⟨_, _, _, _, rfl, rfl, hnamed, hparts⟩ := hparts.parts
  obtain ⟨_, _, _, _, rfl, rfl, hnewline, hdone⟩ := hparts.parts
  obtain ⟨t, -, hkind, rfl, rfl⟩ := hword.token_of_word
  obtain ⟨e, rfl, hstarts, hfree⟩ := exists_tree_of_named hnamed
  obtain ⟨t', -, rfl, rfl⟩ := hnewline.token_of_kind
  obtain ⟨rfl, rfl⟩ := hdone.eq_nil_of_done
  exact ⟨_, rfl, t, e, t', rfl, weight_of_fixed hkind, hstarts, hfree⟩

theorem IsDecorator.isFree (h : IsDecorator c) : IsFree c := by
  obtain ⟨t, e, t', rfl, -, -, hfree⟩ := h
  refine isFree_node (by decide) ?_
  simp only [List.mem_cons, List.not_mem_nil, or_false, forall_eq_or_imp, forall_eq]
  exact ⟨isFree_leaf t, hfree, isFree_leaf t'⟩

theorem foldl_min_eq {x own : Nat} {ls : List Nat} (hown : x ≤ own) (hls : ∀ l ∈ ls, x ≤ l) :
    (x :: ls).foldl min own = x := by
  rw [List.foldl_cons, Nat.min_eq_right hown]
  induction ls with
  | nil => rfl
  | cons l ls ih =>
    obtain ⟨hl, hls⟩ := List.forall_mem_cons.1 hls
    rw [List.foldl_cons, Nat.min_eq_left hl, ih hls]

theorem decoratorLines_cons (t t' : Token) (e : Tree) (cs : List Tree) :
    decoratorLines (.node .decoratedDefinition (.node .decorator [.leaf t, e, .leaf t'] :: cs))
      = e.expressionLine :: decoratorLines (.node .decoratedDefinition cs) := by
  rw [decoratorLines, List.filterMap_cons]
  rfl

/-- The lines of decorators are lines of tokens. -/
theorem exists_line_of_decoratorLines (hcs : ∀ c ∈ cs, IsDecorator c)
    (hd : ∀ a, d ≠ .node .decorator a) :
    ∀ l ∈ decoratorLines (.node .decoratedDefinition (cs ++ [d])),
      ∃ k ∈ tokensOf cs, k.line = l := by
  intro l hl
  rw [decoratorLines, List.filterMap_append] at hl
  rcases List.mem_append.1 hl with hl | hl
  · obtain ⟨c, hc, hcl⟩ := List.mem_filterMap.1 hl
    obtain ⟨t, e, t', rfl, -, ⟨p, x, q, he, -, -, hx⟩, -⟩ := hcs c hc
    refine ⟨x, ?_, hx.trans (Option.some.inj hcl)⟩
    obtain ⟨a, b, rfl⟩ := List.append_of_mem hc
    simp [tokensOf_append, tokensOf, tokens, he]
  · obtain ⟨c, hc, hcl⟩ := List.mem_filterMap.1 hl
    rw [List.mem_singleton.1 hc] at hcl
    split at hcl
    · exact absurd rfl (hd _)
    · cases hcl

/-- A decorated definition shows its line by the expression of its first decorator. -/
theorem exists_leads_of_decorators (hc : IsDecorator c) (hcs : ∀ c ∈ cs, IsDecorator c)
    {k : NodeKind} (hk : k = .function ∨ k = .className) {a : List Tree}
    (ha : tokensOf a ≠ [])
    (h : Spans m n (Tree.node .decoratedDefinition (c :: cs ++ [.node k a])).tokens) :
    ∃ p x q, Leads (.node .decoratedDefinition (c :: cs ++ [.node k a])) p x q := by
  have hd : ∀ b, Tree.node k a ≠ .node .decorator b := by
    rintro b heq
    rcases hk with rfl | rfl <;> cases heq
  have hundecorated :
      undecorated? (.node .decoratedDefinition (c :: cs ++ [.node k a])) = some (.node k a) := by
    rw [undecorated?, List.getLast?_concat]
  have hlines := exists_line_of_decoratorLines hcs hd
  have hfreeAll : nodesOf .withStatement (c :: cs) = [] :=
    nodesOf_eq_nil (List.forall_mem_cons.2 ⟨hc.isFree, fun c hc ↦ (hcs c hc).isFree⟩)
  obtain ⟨t, e, t', rfl, ht, ⟨p, x, q, he, hp, hlayout, hx⟩, hfree⟩ := hc
  have htokens : (Tree.node .decoratedDefinition
      (.node .decorator [.leaf t, e, .leaf t'] :: cs ++ [.node k a])).tokens
        = (t :: p) ++ x :: (q ++ t' :: (tokensOf cs ++ tokensOf a)) := by
    simp [tokens, tokensOf, tokensOf_append, he]
  have hexcess : excess (t :: p) = 0 := by rw [excess_cons, ht, hp, add_zero]
  -- no token behind `x` stands above it
  have hbelow : ∀ j ∈ q ++ t' :: (tokensOf cs ++ tokensOf a), x.line ≤ j.line := by
    rw [htokens] at h
    obtain ⟨m', -, hrest⟩ := h.split hexcess
    exact hrest.line_le
  have hline : x.line = statementLine (.node .decoratedDefinition
      (.node .decorator [.leaf t, e, .leaf t'] :: cs ++ [.node k a])) := by
    obtain ⟨y, b, hy⟩ := List.exists_cons_of_ne_nil ha
    have hown : (Tree.node k a).firstLine = y.line := by
      rw [firstLine, tokens, hy]
      rfl
    rw [statementLine, hundecorated, Option.getD_some, hown, List.cons_append,
      decoratorLines_cons, ← hx]
    refine (foldl_min_eq (hbelow y (by simp [hy])) fun l hl ↦ ?_).symm
    obtain ⟨j, hj, rfl⟩ := hlines l hl
    exact hbelow j (by simp [hj])
  refine ⟨t :: p, x, _, htokens, hexcess, hlayout, hline, ?_, fun w hw j hj ↦ ?_⟩
  · rw [← hline, hx]
    rfl
  · rw [contexts, nodes_node_of_ne (by decide), nodesOf_append, hfreeAll, List.nil_append] at hw
    have hmem := tokens_subset_of_mem_nodesOf _ w hw j hj
    rw [tokensOf_singleton, tokens_node] at hmem
    simp [hmem]

/-- What stands under decorators. -/
def undecoratedForm : Syn :=
  opened "class" classDefinition
    (opened "def" (.node .function functionRest)
      (.node .function (.seq [.word "async", functionRest])))

theorem keeps_undecoratedForm : Keeps undecoratedForm :=
  ⟨True.intro, keeps_of_mem_definitionForms (by simp [definitionForms]), True.intro,
    keeps_of_mem_definitionForms (by simp [definitionForms]),
    keeps_of_mem_definitionForms (by simp [definitionForms])⟩

theorem exists_node_of_undecorated {u : List Token} {a : List Tree}
    (h : Yields grammar undecoratedForm u a) :
    ∃ k cs, a = [.node k cs] ∧ (k = .function ∨ k = .className) := by
  rcases h.branch_ahead with h | h
  · obtain ⟨cs, rfl, -⟩ := h.of_node
    exact ⟨_, cs, rfl, .inr rfl⟩
  rcases h.branch_ahead with h | h
  · obtain ⟨cs, rfl, -⟩ := h.of_node
    exact ⟨_, cs, rfl, .inl rfl⟩
  · obtain ⟨cs, rfl, -⟩ := h.of_node
    exact ⟨_, cs, rfl, .inl rfl⟩

theorem isPiece_decorated {u : List Token} {a : List Tree}
    (h : Yields grammar (.seq [some1 decoratorForm, undecoratedForm]) u a)
    (htokens : tokensOf a = u) : IsPiece (.node .decoratedDefinition a) := by
  have hall : (Tree.node .decoratedDefinition a).tokens = u := (tokens_node _ a).trans htokens
  refine ⟨?_, fun m n hspans ↦ .inr ?_⟩
  · rw [hall]
    exact balance.sound _ balance_grammar h 0 rfl
  rw [hall] at hspans
  obtain ⟨v, w, ds, _, rfl, rfl, hdecorators, hrest⟩ := h.parts
  obtain ⟨w, _, ds', _, rfl, rfl, hdefinition, hdone⟩ := hrest.parts
  obtain ⟨rfl, rfl⟩ := hdone.eq_nil_of_done
  obtain ⟨v, v', _, _, rfl, rfl, hfirst, hmore⟩ := hdecorators.parts
  obtain ⟨v', _, cs, _, rfl, rfl, hturns, hdone⟩ := hmore.parts
  obtain ⟨rfl, rfl⟩ := hdone.eq_nil_of_done
  obtain ⟨c, rfl, hc⟩ := isDecorator_of_yields hfirst
  obtain ⟨k, b, rfl, hk⟩ := exists_node_of_undecorated hdefinition
  have hcs : ∀ d ∈ cs, IsDecorator d := by
    intro d hd
    obtain ⟨_, _, _, _, _, -, -, hturn, hmem⟩ := hturns.exists_turn hd
    obtain ⟨d', rfl, hd'⟩ := isDecorator_of_yields hturn
    rwa [List.mem_singleton.1 hmem]
  have hb : tokensOf b ≠ [] := by
    obtain ⟨x, q, hx, -⟩ := exists_cons_of_yields (f := undecoratedForm) (by decide) hdefinition
    have hdefined := tokensOf_of_yields keeps_grammar hdefinition keeps_undecoratedForm
    rw [tokensOf_singleton, tokens_node, hx] at hdefined
    rw [hdefined]
    exact List.cons_ne_nil x q
  rw [← hall] at hspans
  simp only [List.append_nil, List.singleton_append] at hspans ⊢
  exact exists_leads_of_decorators hc hcs hk hb hspans

end

/-! ### Blocks -/

/-- Whether a rule is for statements. -/
def isLine : Rule → Bool
  | .statement | .simpleLine => true
  | _ => false

theorem makes_isPiece (r : Rule) (hr : isLine r = true) :
    Makes grammar IsPiece (fun r ↦ isLine r = true) (grammar r) := by
  cases r <;> try cases hr
  all_goals
    repeat' first
      | exact fun t ht ↦ isPiece_leaf (by rw [weight, ht])
      | exact fun t ht ↦ isPiece_leaf (weight_of_fixed ht)
      | exact rfl
      | exact True.intro
      | apply And.intro
      | exact Or.inl fun _ _ h htokens ↦ isPiece_node (by decide) (by decide) rfl h htokens
      | exact Or.inl fun _ _ h htokens ↦ isPiece_decorated h htokens

/-- Whether a tree is more than one token. -/
def isBranch (c : Tree) : Bool :=
  match c with
  | .leaf _ => false
  | .node .. => true

theorem isFree_of_not_isBranch {c : Tree} (h : ¬ isBranch c = true) : IsFree c := by
  cases c with
  | leaf t => exact isFree_leaf t
  | node k b => exact absurd rfl h

section

variable {f : Syn} {u : List Token} {a : List Tree}

theorem exists_branch_of_node {k : NodeKind} (h : Yields grammar (.node k f) u a) :
    ∃ c ∈ a, isBranch c = true := by
  obtain ⟨cs, rfl, -⟩ := h.of_node
  exact ⟨_, List.mem_cons_self, rfl⟩

theorem exists_branch_of_simpleLine (h : Yields grammar (.rule .simpleLine) u a) :
    ∃ c ∈ a, isBranch c = true := by
  obtain ⟨_, _, _, _, rfl, rfl, hstatements, -⟩ := h.of_rule.parts
  obtain ⟨_, _, _, _, rfl, rfl, hfirst, -⟩ := hstatements.parts
  obtain ⟨c, hc, hbranch⟩ := exists_branch_of_node hfirst
  exact ⟨c, by simp [hc], hbranch⟩

theorem exists_branch_of_statement (h : Yields grammar (.rule .statement) u a) :
    ∃ c ∈ a, isBranch c = true := by
  rcases h.of_rule.branch_ahead with h | h
  · exact exists_branch_of_node h
  rcases h.branch_ahead with h | h
  · exact exists_branch_of_node h
  rcases h.branch_ahead with h | h
  · exact exists_branch_of_node h
  rcases h.branch_ahead with h | h
  · exact exists_branch_of_node h
  rcases h.branch_ahead with h | h
  · exact exists_branch_of_node h
  rcases h.branch_ahead with h | h
  · exact exists_branch_of_node h
  rcases h.branch_ahead with h | h
  · exact exists_branch_of_node h
  rcases h.branch_ahead with h | h
  · exact exists_branch_of_node h
  rcases h.branch_ahead with h | h
  · rcases h.branch_ahead with h | h
    · exact exists_branch_of_node h
    · rcases h.branch_ahead with h | h
      · exact exists_branch_of_node h
      · exact exists_branch_of_node h
  rcases h.branch_ahead with h | h
  · exact exists_branch_of_node h
  · exact exists_branch_of_simpleLine h

/-- **A block is made of statements** and single tokens, and of at least one statement. -/
theorem exists_pieces_of_block (h : Yields grammar block u a) : ∃ cs, a = [.node .block cs]
    ∧ (∀ c ∈ cs, IsPiece c) ∧ ∃ c ∈ cs, isBranch c = true := by
  obtain ⟨cs, rfl, hbody⟩ := h.of_rule.of_node
  refine ⟨cs, rfl, good_of_yields keeps_grammar makes_isPiece hbody ?_ (keeps_grammar .block).2, ?_⟩
  · repeat' first
      | exact fun t ht ↦ isPiece_leaf (by rw [weight, ht])
      | exact rfl
      | exact True.intro
      | apply And.intro
  · rcases hbody.branch with ⟨_, _, _, _, rfl, rfl, -, hbody⟩ | hline
    · obtain ⟨_, _, _, _, rfl, rfl, -, hbody⟩ := hbody.parts
      obtain ⟨_, _, _, _, rfl, rfl, hstatements, -⟩ := hbody.parts
      obtain ⟨_, _, _, _, rfl, rfl, hfirst, -⟩ := hstatements.parts
      obtain ⟨c, hc, hbranch⟩ := exists_branch_of_statement hfirst
      exact ⟨c, by simp [hc], hbranch⟩
    · exact exists_branch_of_simpleLine hline

end

theorem exists_leads {m n : Nat} {c : Tree} (hc : IsPiece c) (hbranch : isBranch c = true)
    (h : Spans m n c.tokens) : ∃ p x q, Leads c p x q := by
  rcases hc.2 m n h with ⟨t, rfl⟩ | hleads
  · cases hbranch
  · exact hleads

/-- A statement in a block ends between the lines of the block. -/
theorem statement_bounds {m n : Nat} {cs : List Tree} (hcs : ∀ c ∈ cs, IsPiece c)
    (h : Spans m n (tokensOf cs)) {d : Tree} (hd : d ∈ cs) (hbranch : isBranch d = true) :
    m ≤ d.lastLine ∧ d.lastLine ≤ n := by
  obtain ⟨m', n', hm, hn, hspans⟩ := h.of_mem (fun c hc ↦ (hcs c hc).1) hd
  obtain ⟨p, x, q, hleads⟩ := exists_leads (hcs d hd) hbranch hspans
  obtain ⟨hx, hlast⟩ :=
    lastLine_bounds hspans hleads.tokens_eq hleads.excess_eq hleads.isLayout_eq
  have hmem : x ∈ d.tokens := by
    rw [hleads.tokens_eq]
    exact List.mem_append_right _ List.mem_cons_self
  exact ⟨(hm.trans (hspans.le_line x hmem)).trans hx, hlast.trans hn⟩

/-- **The statements of a block stand in order**: the first shows its line, no context inside the
block opens above that, and all end within the block. -/
theorem block_bounds {m n : Nat} {cs : List Tree} (hcs : ∀ c ∈ cs, IsPiece c)
    (hsome : ∃ c ∈ cs, isBranch c = true) (h : Spans m n (tokensOf cs)) :
    ∃ s r, cs.filter isBranch = s :: r
      ∧ statementLine s = ((leadingExpression? s).map expressionLine).getD s.firstLine
      ∧ s.firstLine ≤ statementLine s ∧ m ≤ statementLine s
      ∧ (∀ d ∈ s :: r, statementLine s ≤ d.lastLine ∧ d.lastLine ≤ n)
      ∧ ∀ w ∈ nodesOf .withStatement cs, w.tokens ≠ [] → statementLine s ≤ w.firstLine := by
  obtain ⟨c, hc, hbranch⟩ := hsome
  obtain ⟨s, r, hsr⟩ := List.exists_cons_of_ne_nil
    (List.ne_nil_of_mem (List.mem_filter.2 ⟨hc, hbranch⟩))
  obtain ⟨ls, rest, rfl, hls, hs, hrest⟩ := List.filter_eq_cons_iff.1 hsr
  have hexcess : ∀ c ∈ ls ++ s :: rest, excess c.tokens = 0 := fun c hc ↦ (hcs c hc).1
  have hsmem : s ∈ ls ++ s :: rest := List.mem_append_right _ List.mem_cons_self
  rw [tokensOf_append, tokensOf] at h
  obtain ⟨m', hfront, hback⟩ := h.split
    (excess_tokensOf fun c hc ↦ hexcess c (List.mem_append_left _ hc))
  obtain ⟨n', hstatement, hothers⟩ := hback.split (hexcess s hsmem)
  obtain ⟨p, x, q, hleads⟩ := exists_leads (hcs s hsmem) hs hstatement
  -- from the token that shows the line on, nothing stands above it
  have hbelow : ∀ k ∈ x :: (q ++ tokensOf rest), x.line ≤ k.line := by
    rw [hleads.tokens_eq, List.append_assoc, List.cons_append] at hback
    obtain ⟨_, -, hrest⟩ := hback.split hleads.excess_eq
    exact List.forall_mem_cons.2 ⟨Nat.le_refl _, hrest.line_le⟩
  have hxmem : x ∈ s.tokens := by
    rw [hleads.tokens_eq]
    exact List.mem_append_right _ List.mem_cons_self
  have hfirst : s.firstLine ≤ x.line := by
    have htokens := hleads.tokens_eq
    cases p with
    | nil =>
      rw [firstLine, htokens]
      exact Nat.le_refl _
    | cons y p =>
      rw [htokens, List.cons_append] at hstatement
      rw [firstLine, htokens]
      exact hstatement.line_le x (by simp)
  obtain ⟨hsx, hslast⟩ :=
    lastLine_bounds hstatement hleads.tokens_eq hleads.excess_eq hleads.isLayout_eq
  have hxle : x.line ≤ n' := hsx.trans hslast
  refine ⟨s, r, hsr, hleads.leading, hleads.line_eq ▸ hfirst,
    hleads.line_eq ▸ hfront.le.trans (hstatement.le_line x hxmem), ?_, fun w hw hne ↦ ?_⟩
  · rw [← hleads.line_eq]
    refine List.forall_mem_cons.2 ⟨⟨hsx, hslast.trans hothers.le⟩, fun d hd ↦ ?_⟩
    rw [← hrest] at hd
    obtain ⟨hdmem, hdbranch⟩ := List.mem_filter.1 hd
    obtain ⟨hlow, hhigh⟩ := statement_bounds
      (fun c hc ↦ hcs c (List.mem_append_right _ (List.mem_cons_of_mem s hc))) hothers hdmem
      hdbranch
    exact ⟨hxle.trans hlow, hhigh⟩
  · obtain ⟨k, hk, hline⟩ := exists_line_of_tokens_ne_nil hne
    rw [← hleads.line_eq, ← hline]
    refine hbelow k ?_
    rw [nodesOf_append, nodesOf_eq_nil fun c hc ↦ isFree_of_not_isBranch (hls c hc),
      List.nil_append, nodesOf] at hw
    rcases List.mem_append.1 hw with hw | hw
    · have hmem := hleads.contexts w hw k hk
      rw [← List.cons_append]
      exact List.mem_append_left _ hmem
    · have hmem := tokens_subset_of_mem_nodesOf rest w hw k hk
      exact List.mem_cons_of_mem _ (List.mem_append_right _ hmem)

end Source
end TexWeave

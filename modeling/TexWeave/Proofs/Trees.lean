import TexWeave.Proofs.Readings
import TexWeave.Source.Block

/-!
# What is true of all trees that a form makes

A fact about the trees of a grammar is settled where trees are put together.  It may be clear from
the tokens the new tree comes from, or follow from the same fact about the trees it is made of.

* `Makes`, `good_of_yields` — forms all whose trees are good.
* `nodesOf_append`, `tokens_subset_of_mem_nodes` — the nodes inside trees, and their tokens.
-/

set_option autoImplicit false

namespace TexWeave
namespace Source
namespace Form

section

variable {ρ : Type} (g : ρ → Form ρ) (good : Tree → Prop) (known : ρ → Prop)

mutual

/-- All trees of the form are good: those of one token as well as every tree that is put together,
be it for what it is made from or because the trees it is made of are good.  The same is known of
the rules it uses. -/
def Makes : Form ρ → Prop
  | .kind k => ∀ t : Token, t.kind = k → good (.leaf t)
  | .word _ => ∀ t : Token, t.kind = .operator ∨ t.kind = .keyword → good (.leaf t)
  | .soft _ => ∀ t : Token, t.kind = .name → good (.leaf t)
  | .seq fs => AllMake fs
  | .alt fs => AllMake fs
  | .many f => Makes f
  | .choose test yes no => Makes test ∧ Makes yes ∧ Makes no
  | .ahead _ => True
  | .unless _ => True
  | .rule r => known r
  | .build k f => (∀ u a, Yields g f u a → Tree.tokensOf a = u → good (k a))
      ∨ (∀ u a, Yields g f u a → Tree.tokensOf a = u → (∀ c ∈ a, good c) → good (k a)) ∧ Makes f
  | .check _ f => Makes f

/-- The same for each of several forms. -/
def AllMake : List (Form ρ) → Prop
  | [] => True
  | f :: fs => Makes f ∧ AllMake fs

end

variable {g good known}

/-- **The trees of a form that makes good trees are good.** -/
theorem good_of_yields (hkeeps : ∀ r, Keeps (g r))
    (hg : ∀ r, known r → Makes g good known (g r)) {f : Form ρ} {u : List Token} {a : List Tree}
    (h : Yields g f u a) (hf : Makes g good known f) (hkeep : Keeps f) : ∀ c ∈ a, good c := by
  induction h with
  | @kind k t h => exact List.forall_mem_singleton.2 (hf t h)
  | @word s t h hkind => exact List.forall_mem_singleton.2 (hf t hkind)
  | @soft s t h hkind => exact List.forall_mem_singleton.2 (hf t hkind)
  | done => exact List.forall_mem_nil _
  | next h hrest ih ihrest =>
    exact List.forall_mem_append.2 ⟨ih hf.1 hkeep.1, ihrest hf.2 hkeep.2⟩
  | here h ih => exact ih hf.1 hkeep.1
  | later h ih => exact ih hf.2 hkeep.2
  | enough => exact List.forall_mem_nil _
  | again h hrest ih ihrest =>
    exact List.forall_mem_append.2 ⟨ih hf hkeep, ihrest hf hkeep⟩
  | chosen htest h ihtest ih =>
    exact List.forall_mem_append.2 ⟨ihtest hf.1 hkeep.1, ih hf.2.1 hkeep.2.1⟩
  | otherwise h ih => exact ih hf.2.2 hkeep.2.2
  | ahead => exact List.forall_mem_nil _
  | absent => exact List.forall_mem_nil _
  | @rule r u a h ih => exact ih (hg r hf) (hkeeps r)
  | @build k f u a h ih =>
    have htokens := tokensOf_of_yields hkeeps h hkeep.2
    rcases hf with hall | ⟨hgood, hf⟩
    · exact List.forall_mem_singleton.2 (hall u a h htokens)
    · exact List.forall_mem_singleton.2 (hgood u a h htokens (ih hf hkeep.2))
  | check h ih => exact ih hf hkeep

end

end Form

namespace Tree

/-! ## The nodes inside trees -/

variable {k j : NodeKind} {c t : Tree} {a b : List Tree}

@[simp] theorem nodes_leaf (t : Token) : (Tree.leaf t).nodes k = [] := by
  rw [nodes]

theorem nodes_node_of_ne (h : j ≠ k) : (Tree.node j a).nodes k = nodesOf k a := by
  rw [nodes, if_neg (by simpa using h)]

theorem nodes_node_self : (Tree.node k a).nodes k = .node k a :: nodesOf k a := by
  rw [nodes, if_pos (beq_self_eq_true k)]

theorem nodesOf_append : nodesOf k (a ++ b) = nodesOf k a ++ nodesOf k b := by
  induction a with
  | nil => rfl
  | cons c a ih => rw [List.cons_append, nodesOf, nodesOf, ih, List.append_assoc]

theorem nodesOf_singleton : nodesOf k [c] = c.nodes k := by
  rw [nodesOf, nodesOf, List.append_nil]

theorem nodesOf_eq_nil (h : ∀ c ∈ a, c.nodes k = []) : nodesOf k a = [] := by
  induction a with
  | nil => rfl
  | cons c a ih =>
    obtain ⟨hc, ha⟩ := List.forall_mem_cons.1 h
    rw [nodesOf, hc, ih ha, List.append_nil]

mutual

/-- The tokens of a node inside a tree are tokens of the tree. -/
theorem tokens_subset_of_mem_nodes :
    ∀ (t : Tree), ∀ c ∈ t.nodes k, ∀ x ∈ c.tokens, x ∈ t.tokens
  | .leaf t => by
    rw [nodes_leaf]
    exact List.forall_mem_nil _
  | .node j a => by
    intro c hc x hx
    have hinner (h : c ∈ nodesOf k a) : x ∈ (Tree.node j a).tokens := by
      rw [tokens]
      exact tokens_subset_of_mem_nodesOf a c h x hx
    rw [nodes] at hc
    split at hc
    · rcases List.mem_cons.1 hc with rfl | hc
      · exact hx
      · exact hinner hc
    · exact hinner hc

theorem tokens_subset_of_mem_nodesOf :
    ∀ (a : List Tree), ∀ c ∈ nodesOf k a, ∀ x ∈ c.tokens, x ∈ tokensOf a
  | [] => List.forall_mem_nil _
  | t :: a => by
    intro c hc x hx
    rw [nodesOf] at hc
    rw [tokensOf]
    rcases List.mem_append.1 hc with hc | hc
    · exact List.mem_append_left _ (tokens_subset_of_mem_nodes t c hc x hx)
    · exact List.mem_append_right _ (tokens_subset_of_mem_nodesOf a c hc x hx)

end

theorem exists_line_of_tokens_ne_nil (h : t.tokens ≠ []) :
    ∃ x ∈ t.tokens, x.line = t.firstLine := by
  obtain ⟨x, q, hx⟩ := List.exists_cons_of_ne_nil h
  refine ⟨x, ?_, ?_⟩
  · rw [hx]
    exact List.mem_cons_self
  · rw [firstLine, hx]
    rfl

end Tree

end Source
end TexWeave

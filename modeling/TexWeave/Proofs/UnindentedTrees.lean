import TexWeave.Proofs.SlicedAgain
import TexWeave.Proofs.UnindentedScans

/-!
# Reading a definition without its indentation

The tokens of a definition that has lost its indentation look as they did.  So they make the same
tree, whose words stand on lines further up, and the definition under the decorators is the same.

* `exists_undecorated`, `exists_undecorated_of_lined` — what stands under the decorators.
* `firstLine_of_lined`, `lastLine_of_lined` — the lines of a tree whose tokens stand further up.
* `NestedStretch.readText_unindented` — the tree of the text.
-/

set_option autoImplicit false

namespace TexWeave
namespace Source

open Form Scanner Tree

/-! ## Under the decorators -/

section

variable {f : Syn} {u : List Token} {a : List Tree} {s d : Tree}

theorem exists_firstWord_of_undecorated (h : Yields grammar undecoratedForm u a) :
    ∃ k w, u = k :: w ∧ IsFixed k := by
  have hfirst {f : Syn} (hf : f ∈ definitionForms) (h : Yields grammar f u a) :
      ∃ k w, u = k :: w ∧ IsFixed k := by
    obtain ⟨k, w, hu, hk, -⟩ := exists_firstWord (List.mem_cons_of_mem _ hf) h
    exact ⟨k, w, hu, hk⟩
  rcases h.branch_ahead with h | h
  · exact hfirst (by simp [definitionForms]) h
  rcases h.branch_ahead with h | h
  · exact hfirst (by simp [definitionForms]) h
  · exact hfirst (by simp [definitionForms]) h

/-- **A definition ends with what stands under its decorators**, which begins with a word. -/
theorem exists_undecorated (hf : f ∈ definingForms) (h : Yields grammar f u [d]) :
    ∃ c front k w, undecorated? d = some c ∧ d.tokens = front ++ c.tokens ∧ c.tokens = k :: w
      ∧ k.isLayout = false := by
  have hword {k : Token} (hk : IsFixed k) : k.isLayout = false :=
    not_isLayout_of_isSolid (isSolid_of_isFixed hk)
  rcases List.mem_cons.1 hf with rfl | hf
  · obtain ⟨cs, hd, hparts⟩ := h.of_node
    obtain rfl := List.singleton_inj.1 hd
    obtain ⟨v, w, b, c, rfl, rfl, hdecorators, hrest⟩ := hparts.parts
    obtain ⟨w, _, c, _, rfl, rfl, hdefinition, hdone⟩ := hrest.parts
    obtain ⟨rfl, rfl⟩ := hdone.eq_nil_of_done
    obtain ⟨k, cs, rfl, -⟩ := exists_node_of_undecorated hdefinition
    obtain ⟨t, w, rfl, ht⟩ := exists_firstWord_of_undecorated hdefinition
    have htokens := tokensOf_of_yields keeps_grammar hdefinition keeps_undecoratedForm
    rw [tokensOf_singleton] at htokens
    refine ⟨.node k cs, tokensOf b, t, w, ?_, ?_, htokens, hword ht⟩
    · rw [List.append_nil, undecorated?, List.getLast?_concat]
    · rw [List.append_nil, tokens_node, tokensOf_append, tokensOf_singleton]
  · obtain ⟨k, w, rfl, hk, -⟩ := exists_firstWord (List.mem_cons_of_mem _ hf) h
    have htokens := tokensOf_of_yields keeps_grammar h (keeps_of_mem_definitionForms hf)
    rw [tokensOf_singleton] at htokens
    refine ⟨d, [], k, w, ?_, rfl, htokens, hword hk⟩
    obtain ⟨-, kind, f', rfl, hnode⟩ := node_of_mem_definitionForms hf
    obtain ⟨cs, hd, -⟩ := h.of_node
    rw [List.singleton_inj.1 hd]
    exact hnode cs

theorem exists_tokens_of_undecorated (hd : undecorated? s = some d) :
    ∃ front, s.tokens = front ++ d.tokens := by
  rw [undecorated?.eq_def] at hd
  split at hd
  · exact ⟨[], congrArg Tree.tokens (Option.some.inj hd)⟩
  · exact ⟨[], congrArg Tree.tokens (Option.some.inj hd)⟩
  · obtain ⟨front, rfl⟩ := List.getLast?_eq_some_iff.1 hd
    exact ⟨tokensOf front, by rw [tokens_node, tokensOf_append, tokensOf_singleton]⟩
  · cases hd

theorem undecorated?_recast (φ : Token → Token) (t : Tree) :
    undecorated? (t.recast φ) = (undecorated? t).map (recast φ) := by
  cases t with
  | leaf k => rfl
  | node k cs =>
    rw [recast_node]
    cases k <;>
      first | rfl | (simp only [undecorated?, Option.map_some, recast_node, List.getLast?_map])

end

/-! ## Lines further up -/

section

variable {n : Nat} {k : Token} {ts ts' w : List Token} {c c' : Tree}

theorem Lined.isLayout_eq {k k' : Token} (h : Lined n k k') : k'.isLayout = k.isLayout := by
  have hkind : (look k).kind = (look k').kind := congrArg Token.kind h.look_eq
  change k.kind = k'.kind at hkind
  rw [Token.isLayout, Token.isLayout, hkind]

theorem map_look_of_lined (h : List.Forall₂ (Lined n) ts ts') : ts'.map look = ts.map look := by
  induction h with
  | nil => rfl
  | cons hk _ ih => rw [List.map_cons, List.map_cons, hk.look_eq, ih]

theorem find?_of_lined (h : List.Forall₂ (Lined n) ts ts') :
    ∀ k ∈ ts.find? fun k ↦ !k.isLayout, ∃ k' ∈ ts'.find? fun k ↦ !k.isLayout,
      k.endLine = k'.endLine + n := by
  induction h with
  | nil => exact fun k hk ↦ by cases hk
  | @cons k k' ts ts' hk _ ih =>
    cases hlayout : k.isLayout with
    | true =>
      have hlayout' : k'.isLayout = true := hk.isLayout_eq.trans hlayout
      rw [List.find?_cons_of_neg (by simp [hlayout]), List.find?_cons_of_neg (by simp [hlayout'])]
      exact ih
    | false =>
      have hlayout' : k'.isLayout = false := hk.isLayout_eq.trans hlayout
      rw [List.find?_cons_of_pos (by simp [hlayout]), List.find?_cons_of_pos (by simp [hlayout'])]
      intro j hj
      obtain rfl := Option.some.inj hj
      exact ⟨k', rfl, hk.endLine_eq hlayout⟩

theorem firstLine_of_lined (h : List.Forall₂ (Lined n) c.tokens c'.tokens)
    (hc : c.tokens = k :: w) (hk : k.isLayout = false) : c.firstLine = c'.firstLine + n := by
  rw [firstLine, firstLine]
  rw [hc] at h ⊢
  cases hc' : c'.tokens with
  | nil =>
    rw [hc'] at h
    cases h
  | cons k' w' =>
    rw [hc'] at h
    obtain ⟨hlined, -⟩ := List.forall₂_cons.1 h
    exact hlined.line_eq hk

theorem lastLine_of_lined (h : List.Forall₂ (Lined n) c.tokens c'.tokens)
    (hc : c.tokens = k :: w) (hk : k.isLayout = false) : c.lastLine = c'.lastLine + n := by
  obtain ⟨j, hj⟩ := exists_lastWord? hk (hc ▸ List.mem_cons_self : k ∈ c.tokens)
  obtain ⟨j', hj', hline⟩ := find?_of_lined (List.forall₂_reverse_iff.2 h) j hj
  rw [Source.lastLine_eq, Source.lastLine_eq, hj, show lastWord? c'.tokens = some j' from hj']
  exact hline

/-- Of two lists related one by one, ends of the same length are related. -/
theorem forall₂_of_append {α β : Type} {R : α → β → Prop} {a b : List α} {a' b' : List β}
    (h : List.Forall₂ R (a ++ b) (a' ++ b')) (hlength : b.length = b'.length) :
    List.Forall₂ R b b' := by
  obtain ⟨a'', b'', heq, -, hb⟩ := exists_append_of_forall₂ h
  have hb' : b'' = b' := (List.append_inj' heq (hlength.symm.trans hb.length_eq)).2.symm
  exact hb' ▸ hb

/-- What stands under the decorators of trees that look alike. -/
theorem exists_undecorated_of_lined {s s' : Tree} (hc : undecorated? s = some c)
    (hsame : s'.recast look = s.recast look) (h : List.Forall₂ (Lined n) s.tokens s'.tokens) :
    ∃ c', undecorated? s' = some c' ∧ declaredName c' = declaredName c
      ∧ List.Forall₂ (Lined n) c.tokens c'.tokens := by
  obtain ⟨c', hc', hlook⟩ : ∃ c', undecorated? s' = some c' ∧ c'.recast look = c.recast look := by
    have hrecast := undecorated?_recast look s'
    rw [hsame, undecorated?_recast, hc, Option.map_some] at hrecast
    exact Option.map_eq_some_iff.1 hrecast.symm
  refine ⟨c', hc', ?_, ?_⟩
  · rw [← declaredName_recast keepsLook_look, hlook, declaredName_recast keepsLook_look]
  · obtain ⟨front, hfront⟩ := exists_tokens_of_undecorated hc
    obtain ⟨front', hfront'⟩ := exists_tokens_of_undecorated hc'
    rw [hfront, hfront'] at h
    refine forall₂_of_append h ?_
    have hlength := congrArg (fun t ↦ t.tokens.length) hlook
    simpa only [tokens_recast, List.length_map] using hlength.symm

end

/-! ## The tree -/

section

variable {text F X p r : List Char} {x : Char} {d : Tree} {s e t u : Scanner}
  {ts closing behind : List Token} {f : Syn}

/-- **The tree of a definition without its indentation** is that of the definition, further up. -/
theorem NestedStretch.readText_unindented
    (h : NestedStretch (closed text) d s ts e X closing behind) (ht : OpensLine (closed text) t)
    (hline : t.line = d.firstLine) (hp : IsIndented p x) (hrest : t.rest = p ++ x :: r)
    (hP : KeepsOrder (Corresponds p t e))
    (hu : Passes (e.lineBreak X) u) (hF : t.rest = F ++ u.rest) (hends : WholeLines F)
    (hnull : '\x00' ∉ F) (hf : f ∈ definingForms)
    (hparses : Parses grammar f (d.tokens ++ behind) (some ([d], behind)))
    (hagree : stringsAgree d.tokens = true) :
    ∃ d' last, readText (unindented p F) = .ok (.node .text [d', .leaf last])
      ∧ d'.recast look = d.recast look
      ∧ List.Forall₂ (Lined (d.firstLine - 1)) d.tokens d'.tokens := by
  obtain ⟨D, last, hcomplete, htokens, hlast, hlined, hends'⟩ :=
    h.exists_tokens ht hline hp hrest hP hu hF hends
  have hlook := map_look_of_lined hlined
  obtain ⟨d', hparse, rfl, hd'⟩ := exists_parse_of_defining hf hparses hlook hlast
  refine ⟨d', last, ?_, hd', hlined⟩
  have hclosed : closed (unindented p F) = unindented p F := by
    rcases hends'.eq_nil_or with hnil | ⟨G, hG⟩
    · rw [hnil]
      rfl
    · rw [closed, hG, if_pos (by simp)]
  have hsentence : (scan (unindented p F)).sentence? = some (d'.tokens ++ [last]) := by
    have hstrings : stringsAgree (d'.tokens ++ [last]) = true := by
      rw [stringsAgree_finish hlast, ← stringsAgree_map_look, hlook, stringsAgree_map_look, hagree]
    have hfilter : ({ rest := unindented p F } : Scanner).whole.tokens.filter
        (fun k ↦ !k.isTrivia) = d'.tokens ++ [last] := htokens
    rw [scan_eq_whole, hclosed, atLine, Scanned.sentence?, hcomplete, hfilter, hstrings]
    rfl
  have hplain : '\x00' ∉ unindented p F :=
    fun hmem ↦ hnull ((trims_unindented hp.room F).subset hmem)
  rw [readText, if_neg (by simpa using hplain), hsentence, Option.bind_some, hparse]

end

end Source
end TexWeave

import TexWeave.Proofs.FirstLines
import TexWeave.Proofs.ReadingAhead

/-!
# Definitions read by themselves

A definition does not look at what follows it, and grammar does not see where tokens stand or what
strings say.  So tokens that look like those of a definition are a text of their own, with the
definition as its only statement.

* `look` — a token without its place, and a string without its text.
* `definingForms`, `isClosed_of_mem_definingForms` — definitions with and without decorators.
* `parses_statement_of_defining` — the forms of a definition are statements.
* `exists_parse_of_defining`, `exists_parse_of_definition` — the tree of a text that is a
  definition.
-/

set_option autoImplicit false

namespace TexWeave
namespace Source

open Form Tree

/-- A token without its place, and without its text if it is a string. -/
def look (t : Token) : Token := ⟨t.kind, if t.opensString then "" else t.text, 0, 0, 0⟩

theorem keepsLook_look : KeepsLook look :=
  ⟨fun _ ↦ rfl, fun t ht ↦ if_neg (by rw [ht]; exact Bool.false_ne_true)⟩

theorem declaredName_recast {φ : Token → Token} (hφ : KeepsLook φ) (d : Tree) :
    declaredName (d.recast φ) = declaredName d := by
  have hnames : (d.recast φ).children.filter (isLeaf .name)
      = (d.children.filter (isLeaf .name)).map (recast φ) := by
    rw [children_recast, List.filter_map]
    exact congrArg (List.map (recast φ)) (congrArg (List.filter · d.children)
      (funext fun c ↦ isLeaf_recast hφ .name c))
  have htext {c : Tree} (hc : c.isLeaf .name = true) :
      (c.recast φ).tokens.flatMap (fun t ↦ t.text.toList)
        = c.tokens.flatMap fun t ↦ t.text.toList := by
    cases c with
    | leaf t =>
      rw [recast_leaf, tokens, tokens, List.flatMap_singleton, List.flatMap_singleton,
        hφ.text t (opensString_of_kind (k := .name) (by decide) hc)]
    | node k cs => cases hc
  have hleaves : ∀ c ∈ d.children.filter (isLeaf .name), c.isLeaf .name = true :=
    fun c hc ↦ (List.mem_filter.1 hc).2
  rw [declaredName, declaredName, hnames]
  cases hcs : d.children.filter (isLeaf .name) with
  | nil => rfl
  | cons c cs =>
    simp only [List.map_cons, List.head?_cons, Option.map_some,
      htext (hleaves c (hcs ▸ List.mem_cons_self))]

theorem blind_of_mem_definitionForms {φ : Token → Token} (hφ : KeepsLook φ) {f : Syn}
    (hf : f ∈ definitionForms) : Blind φ f := by
  simp only [definitionForms, List.mem_cons, List.not_mem_nil, or_false] at hf
  rcases hf with rfl | rfl | rfl <;> repeat' first
    | apply And.intro
    | exact True.intro
    | exact fun cs ↦ (recast_node φ _ cs).symm
    | exact parametersOk_recast hφ
    | exact plainArgumentsOk_recast φ
    | exact targetsOk_recast hφ

/-! ## Decorated definitions -/

/-- The forms of a definition with and without decorators. -/
def definingForms : List Syn := decorated :: definitionForms

section

variable {φ : Token → Token} {s : String} {f g : Syn} {ts r : List Token} {a : List Tree}

theorem blind_of_mem_definingForms (hφ : KeepsLook φ) (hf : f ∈ definingForms) : Blind φ f := by
  rcases List.mem_cons.1 hf with rfl | hf
  · repeat' first
      | apply And.intro
      | exact True.intro
      | exact fun cs ↦ (recast_node φ _ cs).symm
      | exact parametersOk_recast hφ
      | exact plainArgumentsOk_recast φ
      | exact targetsOk_recast hφ
  · exact blind_of_mem_definitionForms hφ hf

theorem keeps_of_mem_definingForms (hf : f ∈ definingForms) : Keeps f := by
  rcases List.mem_cons.1 hf with rfl | hf
  · repeat' first
      | apply And.intro
      | exact True.intro
      | exact fun cs ↦ tokens_node _ cs
  · exact keeps_of_mem_definitionForms hf

theorem isClosed_decoratorForm : IsClosed decoratorForm :=
  isClosed_build <| isClosed_cons rfl rfl rfl <| isClosed_cons rfl rfl rfl <|
    isClosed_last isClosed_newline

/-- Whether a word comes next is seen by one token. -/
theorem parses_ahead_word (s : String) (t : Token) (r : List Token) :
    Parses grammar (.ahead (.word s)) (t :: r)
      (if t.text == s && (t.kind == .operator || t.kind == .keyword) then some ([], t :: r)
        else none) := by
  have hword : Parses grammar (.word s) (t :: r) _ := .word
  have hahead := Parses.ahead hword
  rw [take] at hahead
  split
  · next h => rwa [if_pos h] at hahead
  · next h => rwa [if_neg h] at hahead

theorem exists_head_of_line (p z : List Token) (k : Token) :
    ∃ t, ∀ Y, ∃ r, p ++ k :: (z ++ Y) = t :: r := by
  cases p with
  | nil => exact ⟨k, fun Y ↦ ⟨_, rfl⟩⟩
  | cons t p => exact ⟨t, fun Y ↦ ⟨_, rfl⟩⟩

/-- A choice by the first word is closed if both branches are. -/
theorem isClosed_opened (hf : IsClosed f) (hg : IsClosed g) : IsClosed (opened s f g) := by
  intro ts a X h
  cases h with
  | chosen htest h =>
    obtain ⟨rfl, rfl⟩ := htest.of_ahead
    obtain ⟨p, k, z, rfl, hp, hk, hrest⟩ := hf _ _ _ h
    obtain ⟨t, hhead⟩ := exists_head_of_line p z k
    refine ⟨p, k, z, rfl, hp, hk, fun Y ↦ .chosen ?_ (hrest Y)⟩
    obtain ⟨r, hr⟩ := hhead X
    obtain ⟨r', hr'⟩ := hhead Y
    rw [hr] at htest
    have hsame := htest.unique (parses_ahead_word s t r)
    rw [hr']
    split at hsame
    · next h =>
      have hagain := parses_ahead_word s t r'
      rwa [if_pos h] at hagain
    · cases hsame
  | otherwise htest h =>
    obtain ⟨p, k, z, rfl, hp, hk, hrest⟩ := hg _ _ _ h
    obtain ⟨t, hhead⟩ := exists_head_of_line p z k
    refine ⟨p, k, z, rfl, hp, hk, fun Y ↦ .otherwise ?_ (hrest Y)⟩
    obtain ⟨r, hr⟩ := hhead X
    obtain ⟨r', hr'⟩ := hhead Y
    rw [hr] at htest
    have hsame := htest.unique (parses_ahead_word s t r)
    rw [hr']
    split at hsame
    · cases hsame
    · next h =>
      have hagain := parses_ahead_word s t r'
      rwa [if_neg h] at hagain

theorem Form.Parses.token_of_word (h : Parses grammar (.word s) ts (some (a, r))) :
    ∃ t, t.text = s ∧ IsFixed t ∧ ts = t :: r := by
  generalize ho : some (a, r) = o at h
  cases h with
  | word =>
    obtain ⟨t, ht, hts, -⟩ := take_eq_some ho.symm
    simp only [Bool.and_eq_true, Bool.or_eq_true, beq_iff_eq] at ht
    exact ⟨t, ht.1, ht.2, hts⟩

theorem exists_first_of_seq {fs : List Syn}
    (h : Parses grammar (.seq (.word s :: fs)) ts (some (a, r))) :
    ∃ t r', t.text = s ∧ IsFixed t ∧ ts = t :: r' := by
  obtain ⟨_, r', _, -, hword, -⟩ := h.parts
  obtain ⟨t, ht, hkind, hts⟩ := hword.token_of_word
  exact ⟨t, r', ht, hkind, hts⟩

/-- The word that opens a definition is no decorator's. -/
theorem exists_first_of_definition (hf : f ∈ definitionForms)
    (h : Parses grammar f ts (some (a, r))) : ∃ t r', t.text ≠ "@" ∧ ts = t :: r' := by
  have hopens {s : String} {fs : List Syn} {b : List Tree} (hs : s ≠ "@")
      (h : Parses grammar (.seq (.word s :: fs)) ts (some (b, r))) :
      ∃ t r', t.text ≠ "@" ∧ ts = t :: r' := by
    obtain ⟨t, r', ht, -, hts⟩ := exists_first_of_seq h
    exact ⟨t, r', ht ▸ hs, hts⟩
  simp only [definitionForms, List.mem_cons, List.not_mem_nil, or_false] at hf
  rcases hf with rfl | rfl | rfl
  all_goals
    obtain ⟨_, -, hrest⟩ := h.of_build
    exact hopens (by decide) hrest

theorem exists_form_of_undecorated (h : Parses grammar undecoratedForm ts (some (a, r))) :
    ∃ f ∈ definitionForms, Parses grammar f ts (some (a, r)) := by
  rcases h.branch_ahead with h | h
  · exact ⟨_, by simp [definitionForms], h⟩
  rcases h.branch_ahead with h | h
  · exact ⟨_, by simp [definitionForms], h⟩
  · exact ⟨_, by simp [definitionForms], h⟩

theorem isClosed_undecoratedForm : IsClosed undecoratedForm :=
  isClosed_opened (isClosed_of_mem_definitionForms (by simp [definitionForms])) <|
    isClosed_opened (isClosed_of_mem_definitionForms (by simp [definitionForms]))
      (isClosed_of_mem_definitionForms (by simp [definitionForms]))

/-- Decorators end where a definition begins, whatever comes behind its first word. -/
theorem parses_decoratorForms {t : Token} (ht : t.text ≠ "@")
    (h : Parses grammar (.many decoratorForm) ts (some (a, t :: r))) : ∃ q, ts = q ++ t :: r
      ∧ ∀ r', Parses grammar (.many decoratorForm) (q ++ t :: r') (some (a, t :: r')) := by
  generalize hg : Form.many decoratorForm = g at h
  generalize ho : some (a, t :: r) = o at h
  induction h generalizing a with
  | enough h =>
    obtain ⟨rfl, rfl⟩ := Prod.mk.inj (Option.some.inj ho)
    obtain rfl := Form.many.inj hg
    refine ⟨[], rfl, fun r' ↦ .enough (.build (o := none) (.unfit ?_))⟩
    have hword : Parses grammar (.word "@") (t :: r') _ := .word
    rwa [take, if_neg (by simp [ht])] at hword
  | again h hrest _ ih =>
    obtain ⟨rfl, rfl⟩ := Prod.mk.inj (Option.some.inj ho)
    obtain rfl := Form.many.inj hg
    obtain ⟨p, k, z, rfl, -, -, hfirst⟩ := isClosed_decoratorForm _ _ _ h
    obtain ⟨q, rfl, hagain⟩ := ih rfl rfl
    refine ⟨p ++ k :: (z ++ q), by simp, fun r' ↦ ?_⟩
    have hfirst := hfirst (q ++ t :: r')
    rw [List.append_assoc, List.cons_append, List.append_assoc]
    exact .again hfirst (hagain r')
  | _ => cases hg

theorem isClosed_decorated : IsClosed decorated := by
  refine isClosed_build fun ts a X h ↦ ?_
  obtain ⟨_, _, _, rfl, hdecorators, hrest⟩ := h.parts
  obtain ⟨_, _, _, rfl, hbelow, hdone⟩ := hrest.parts
  obtain ⟨rfl, rfl⟩ := hdone.eq_of_done
  obtain ⟨_, _, _, rfl, hfirst, hmany⟩ := hdecorators.parts
  obtain ⟨_, _, _, rfl, hmore, hdone⟩ := hmany.parts
  obtain ⟨rfl, rfl⟩ := hdone.eq_of_done
  obtain ⟨f, hf, hdefinition⟩ := exists_form_of_undecorated hbelow
  obtain ⟨t, r, ht, rfl⟩ := exists_first_of_definition hf hdefinition
  obtain ⟨q, rfl, hagain⟩ := parses_decoratorForms ht hmore
  obtain ⟨p, k, z, rfl, hp, hk, hfirst⟩ := isClosed_decoratorForm _ _ _ hfirst
  obtain ⟨p', k', z', hsplit, -, -, hbelow⟩ := isClosed_undecoratedForm _ _ _ hbelow
  obtain ⟨t', hhead⟩ := exists_head_of_line p' z' k'
  obtain ⟨x, hx⟩ := hhead X
  obtain rfl : t = t' := (List.cons.inj (hsplit.trans hx)).1
  refine ⟨p, k, z ++ (q ++ (p' ++ k' :: z')), by rw [hsplit]; simp, hp, hk, fun Y ↦ ?_⟩
  obtain ⟨y, hy⟩ := hhead Y
  have htext : p ++ k :: (z ++ (q ++ (p' ++ k' :: z')) ++ Y) = p ++ k :: (z ++ (q ++ t :: y)) := by
    rw [← hy]
    simp
  rw [htext]
  exact .next (.next (hfirst _) (.next (hagain y) .done)) (.next (hy ▸ hbelow Y) .done)

theorem isClosed_of_mem_definingForms (hf : f ∈ definingForms) : IsClosed f := by
  rcases List.mem_cons.1 hf with rfl | hf
  · exact isClosed_decorated
  · exact isClosed_of_mem_definitionForms hf

end

/-! ## Definitions are statements -/

section

variable {s : String} {f otherwise : Syn} {t : Token} {ts r : List Token} {a : List Tree}
  {o : Reading}

theorem parses_opened (ht : t.text = s) (hkind : IsFixed t)
    (h : Parses grammar f (t :: ts) (some (a, r))) :
    Parses grammar (opened s f otherwise) (t :: ts) (some (a, r)) := by
  have hword : Parses grammar (.word s) (t :: ts) _ := .word
  rw [take, if_pos (by rcases hkind with hkind | hkind <;> simp [ht, hkind])] at hword
  exact .chosen (.ahead hword) h

theorem parses_otherwise (ht : t.text ≠ s) (h : Parses grammar otherwise (t :: ts) o) :
    Parses grammar (opened s f otherwise) (t :: ts) o := by
  have hword : Parses grammar (.word s) (t :: ts) _ := .word
  rw [take, if_neg (by simp [ht])] at hword
  exact .otherwise (.ahead hword) h

/-- **The forms of a definition are statements.** -/
theorem parses_statement (hf : f ∈ definitionForms) (h : Parses grammar f ts (some (a, r))) :
    Parses grammar (.rule .statement) ts (some (a, r)) := by
  have hne {t : Token} {s s' : String} (ht : t.text = s) (hs : s ≠ s') : t.text ≠ s' := ht ▸ hs
  simp only [definitionForms, List.mem_cons, List.not_mem_nil, or_false] at hf
  rcases hf with rfl | rfl | rfl
  · obtain ⟨_, _, hrest⟩ := h.of_build
    obtain ⟨t, r', ht, hkind, rfl⟩ := exists_first_of_seq hrest
    exact .rule <| parses_otherwise (hne ht (by decide)) <| parses_opened ht hkind h
  · obtain ⟨_, _, hrest⟩ := h.of_build
    obtain ⟨t, r', ht, hkind, rfl⟩ := exists_first_of_seq hrest
    exact .rule <| parses_otherwise (hne ht (by decide)) <|
      parses_otherwise (hne ht (by decide)) <| parses_opened ht hkind h
  · obtain ⟨_, _, hrest⟩ := h.of_build
    obtain ⟨_, _, _, -, hasync, hfunction⟩ := hrest.parts
    obtain ⟨_, _, _, -, hfunction, -⟩ := hfunction.parts
    obtain ⟨_, _, _, -, hdef, -⟩ := hfunction.parts
    obtain ⟨t, ht, hkind, rfl⟩ := hasync.token_of_word
    have hasyncDef := Parses.ahead (.next hasync (.next hdef .done))
    exact .rule <| parses_otherwise (hne ht (by decide)) <|
      parses_otherwise (hne ht (by decide)) <| parses_otherwise (hne ht (by decide)) <|
      parses_otherwise (hne ht (by decide)) <| parses_otherwise (hne ht (by decide)) <|
      parses_otherwise (hne ht (by decide)) <| parses_otherwise (hne ht (by decide)) <|
      parses_otherwise (hne ht (by decide)) <| parses_opened ht hkind <| .chosen hasyncDef h

/-- The same with decorators. -/
theorem parses_statement_of_defining (hf : f ∈ definingForms)
    (h : Parses grammar f ts (some (a, r))) :
    Parses grammar (.rule .statement) ts (some (a, r)) := by
  rcases List.mem_cons.1 hf with rfl | hf
  · obtain ⟨_, -, hrest⟩ := h.of_build
    obtain ⟨_, _, _, -, hdecorators, -⟩ := hrest.parts
    obtain ⟨_, _, _, -, hfirst, -⟩ := hdecorators.parts
    obtain ⟨_, -, hline⟩ := hfirst.of_build
    obtain ⟨t, r', ht, hkind, rfl⟩ := exists_first_of_seq hline
    have hne {s : String} (hs : "@" ≠ s) : t.text ≠ s := ht ▸ hs
    exact .rule <| parses_otherwise (hne (by decide)) <| parses_otherwise (hne (by decide)) <|
      parses_otherwise (hne (by decide)) <| parses_otherwise (hne (by decide)) <|
      parses_otherwise (hne (by decide)) <| parses_otherwise (hne (by decide)) <|
      parses_otherwise (hne (by decide)) <| parses_opened ht hkind h
  · exact parses_statement hf h

end

/-- The end of a text is no statement. -/
theorem parses_statement_finish {t : Token} (ht : t.kind = .finish) :
    Parses grammar (.rule .statement) [t] none := by
  have hread := parses_read terminates_grammar (rfl : (Form.rule Rule.statement).isGrounded = true)
    (Nat.le_refl (fuelFor ruleRank (.rule .statement) [t]))
  cases ho : read grammar (fuelFor ruleRank (.rule .statement) [t]) (.rule .statement) [t] with
  | none => exact ho ▸ hread
  | some x =>
    obtain ⟨a, r⟩ := x
    rw [ho] at hread
    obtain ⟨u, hu, hyields⟩ := exists_yields_of_parses terminates_grammar hread rfl
    have hbegins := (beginning .finish).sound _ (beginning_grammar (.inr (.inr rfl))) hyields
    cases u with
    | nil => cases hbegins.1 rfl
    | cons k u =>
      obtain ⟨rfl, -⟩ := List.cons.inj hu
      cases hbegins.2 t u rfl ht

/-- **A definition read by itself.**  Tokens that look like those of a definition, with the end of a
text behind them, are a text whose only statement is the same definition. -/
theorem exists_parse_of_defining {f : Syn} (hf : f ∈ definingForms) {D X : List Token}
    {d : Tree} (h : Parses grammar f (D ++ X) (some ([d], X))) {D' : List Token} {last : Token}
    (hlook : D'.map look = D.map look) (hlast : last.kind = .finish) :
    ∃ d', parse (D' ++ [last]) = some (.node .text [d', .leaf last]) ∧ d'.tokens = D'
      ∧ d'.recast look = d.recast look := by
  have halone : Parses grammar f (D ++ [last]) (some ([d], [last])) := by
    obtain ⟨p, k, z, hsplit, -, -, hrest⟩ := isClosed_of_mem_definingForms hf _ _ _ h
    rw [← List.cons_append, ← List.append_assoc] at hsplit
    rw [List.append_cancel_right hsplit, List.append_assoc]
    exact hrest [last]
  have hgrounded : f.isGrounded = true := by
    rcases List.mem_cons.1 hf with rfl | hf
    · rfl
    · exact (node_of_mem_definitionForms hf).1
  have hread := parses_read terminates_grammar hgrounded
    (Nat.le_refl (fuelFor ruleRank f (D' ++ [last])))
  generalize read grammar _ f (D' ++ [last]) = o at hread
  have hsame : recastReading look o = recastReading look (some ([d], [last])) := by
    have hthere := halone.recast keepsLook_look (blind_grammar keepsLook_look)
      (blind_of_mem_definingForms keepsLook_look hf)
    have hhere := hread.recast keepsLook_look (blind_grammar keepsLook_look)
      (blind_of_mem_definingForms keepsLook_look hf)
    rw [List.map_append, hlook, ← List.map_append] at hhere
    exact hhere.unique hthere
  obtain ⟨⟨a, r⟩, rfl, hx⟩ := Option.map_eq_some_iff.1 hsame
  obtain ⟨ha, hr⟩ := Prod.mk.inj hx
  obtain ⟨d', rfl, hd'⟩ := List.map_eq_singleton_iff.1 ha
  obtain ⟨last', rfl, -⟩ := List.map_eq_singleton_iff.1 hr
  obtain ⟨u, hu, hyields⟩ := exists_yields_of_parses terminates_grammar hread hgrounded
  obtain ⟨rfl, hend⟩ := List.append_inj' hu rfl
  obtain rfl := (List.singleton_inj.1 hend)
  refine ⟨d', parse_eq_some_iff.2 ?_, ?_, hd'⟩
  · have hstatements := Parses.again (parses_statement_of_defining hf hread)
      (.enough (parses_statement_finish hlast))
    exact .build (.next hstatements (.next (parses_kind hlast []) .done))
  · rw [← tokensOf_singleton]
    exact tokensOf_of_yields keeps_grammar hyields (keeps_of_mem_definingForms hf)

/-- The same for a definition without decorators. -/
theorem exists_parse_of_definition {f : Syn} (hf : f ∈ definitionForms) {D X : List Token}
    {d : Tree} (h : Parses grammar f (D ++ X) (some ([d], X))) {D' : List Token} {last : Token}
    (hlook : D'.map look = D.map look) (hlast : last.kind = .finish) :
    ∃ d', parse (D' ++ [last]) = some (.node .text [d', .leaf last]) ∧ d'.tokens = D'
      ∧ declaredName d' = declaredName d ∧ undecorated? d' = some d' := by
  obtain ⟨d', hparse, htokens, hd'⟩ :=
    exists_parse_of_defining (List.mem_cons_of_mem _ hf) h hlook hlast
  refine ⟨d', hparse, htokens, ?_, ?_⟩
  · rw [← declaredName_recast keepsLook_look, hd', declaredName_recast keepsLook_look]
  · obtain ⟨-, k, f', rfl, hk⟩ := node_of_mem_definitionForms hf
    obtain ⟨cs, hcs, -⟩ := h.of_build
    rw [List.singleton_inj.1 hcs, recast_node] at hd'
    cases d' with
    | leaf t => cases hd'
    | node k' cs' =>
      rw [recast_node] at hd'
      obtain ⟨rfl, -⟩ := Tree.node.inj hd'
      exact hk cs'

end Source
end TexWeave

import TexWeave.Proofs.Parses

/-!
# Readings do not see where tokens stand

A grammar tells tokens by their kinds and texts alone, and strings by their kinds.  If tokens are
put elsewhere and their strings say something else, each form makes the same trees of them, with the
tokens changed.

* `KeepsLook` — a change of tokens that only puts them elsewhere or changes strings.
* `Tree.recast` — a tree with its tokens changed.
* `Blind`, `Parses.recast` — forms that do not see such a change, and what they make of tokens.
* `blind_grammar` — no rule sees it.
-/

set_option autoImplicit false

namespace TexWeave
namespace Source

/-- A change of tokens that leaves their kinds as they are, and their texts if they are no
strings. -/
structure KeepsLook (φ : Token → Token) : Prop where
  kind (t : Token) : (φ t).kind = t.kind
  text (t : Token) : t.opensString = false → (φ t).text = t.text

/-- What is said of the texts of tokens that are no strings does not change. -/
theorem KeepsLook.spelled_eq {φ : Token → Token} (hφ : KeepsLook φ) (kinds : TokenKind → Bool)
    (hkinds : ∀ t : Token, kinds t.kind = true → t.opensString = false) (p : String → Bool)
    (t : Token) : (p (φ t).text && kinds (φ t).kind) = (p t.text && kinds t.kind) := by
  rw [hφ.kind]
  cases hkind : kinds t.kind with
  | false => rw [Bool.and_false, Bool.and_false]
  | true => rw [hφ.text t (hkinds t hkind)]

/-- Operators and keywords are no strings. -/
theorem opensString_of_fixed {t : Token}
    (h : (t.kind == .operator || t.kind == .keyword) = true) : t.opensString = false := by
  simp only [Bool.or_eq_true, beq_iff_eq] at h
  rcases h with h | h <;> rw [Token.opensString, h] <;> rfl

/-- No more are names or any other tokens of a kind that is none of strings. -/
theorem opensString_of_kind {k : TokenKind} (hk : k ∉ [TokenKind.string, .bytes, .fieldsOpen])
    {t : Token} (h : (t.kind == k) = true) : t.opensString = false := by
  simp only [List.mem_cons, List.not_mem_nil, or_false, not_or] at hk
  rw [Token.opensString, beq_iff_eq.1 h]
  simp [hk]

namespace Tree

mutual

/-- A tree with its tokens changed. -/
def recast (φ : Token → Token) : Tree → Tree
  | .leaf t => .leaf (φ t)
  | .node k cs => .node k (recastAll φ cs)

/-- Trees with their tokens changed. -/
def recastAll (φ : Token → Token) : List Tree → List Tree
  | [] => []
  | c :: cs => recast φ c :: recastAll φ cs

end

section

variable (φ : Token → Token)

theorem recastAll_eq_map (cs : List Tree) : recastAll φ cs = cs.map (recast φ) := by
  induction cs with
  | nil => rfl
  | cons c cs ih => rw [recastAll, ih, List.map_cons]

@[simp] theorem recast_leaf (t : Token) : recast φ (.leaf t) = .leaf (φ t) := by rw [recast]

@[simp] theorem recast_node (k : NodeKind) (cs : List Tree) :
    recast φ (.node k cs) = .node k (cs.map (recast φ)) := by
  rw [recast, recastAll_eq_map]

@[simp] theorem children_recast (t : Tree) : (t.recast φ).children = t.children.map (recast φ) := by
  cases t with
  | leaf t =>
    rw [recast_leaf]
    rfl
  | node k cs => rw [recast_node, children, children]

@[simp] theorem isNode_recast (k : NodeKind) (t : Tree) : isNode k (t.recast φ) = isNode k t := by
  cases t with
  | leaf t =>
    rw [recast_leaf]
    rfl
  | node k' cs => rw [recast_node, isNode, isNode]

@[simp] theorem lastStepIs_recast (k : NodeKind) (cs : List Tree) :
    lastStepIs k (cs.map (recast φ)) = lastStepIs k cs := by
  rw [lastStepIs, lastStepIs, List.getLast?_map, Option.map_map]
  exact congrArg (Option.getD · false) (congrArg (Option.map · cs.getLast?)
    (funext fun t ↦ isNode_recast φ k t))

theorem any_recast {p : Tree → Bool} (hp : ∀ t, p (t.recast φ) = p t) (cs : List Tree) :
    (cs.map (recast φ)).any p = cs.any p := by
  rw [List.any_map]
  exact congrArg cs.any (funext hp)

theorem all_recast {p : Tree → Bool} (hp : ∀ t, p (t.recast φ) = p t) (cs : List Tree) :
    (cs.map (recast φ)).all p = cs.all p := by
  rw [List.all_map]
  exact congrArg cs.all (funext hp)

mutual

theorem tokens_recast : ∀ t : Tree, (t.recast φ).tokens = t.tokens.map φ
  | .leaf t => by rw [recast_leaf, tokens, tokens, List.map_singleton]
  | .node k cs => by rw [recast_node, tokens, tokens, tokensOf_recast cs]

theorem tokensOf_recast : ∀ cs : List Tree, tokensOf (cs.map (recast φ)) = (tokensOf cs).map φ
  | [] => rfl
  | c :: cs => by
    rw [List.map_cons, tokensOf, tokensOf, tokens_recast c, tokensOf_recast cs, List.map_append]

end

end

/-! ## What is looked at -/

section

variable {φ : Token → Token} (hφ : KeepsLook φ)

include hφ

theorem isLeaf_recast (k : TokenKind) (t : Tree) : isLeaf k (t.recast φ) = isLeaf k t := by
  cases t with
  | leaf t => rw [recast_leaf, isLeaf, isLeaf, hφ.kind]
  | node k' cs =>
    rw [recast_node]
    rfl

theorem isWord_recast (s : String) (t : Tree) : isWord s (t.recast φ) = isWord s t := by
  cases t with
  | leaf t =>
    rw [recast_leaf]
    exact hφ.spelled_eq (fun k ↦ k == .operator || k == .keyword)
      (fun _ ↦ opensString_of_fixed) (· == s) t
  | node k cs =>
    rw [recast_node]
    rfl

theorem isPunctuation_recast (t : Tree) : isPunctuation (t.recast φ) = isPunctuation t := by
  cases t with
  | leaf t =>
    rw [recast_leaf, isPunctuation, isPunctuation, Bool.and_comm, Bool.and_comm (t.kind == _)]
    exact hφ.spelled_eq (· == .operator) (fun _ ↦ opensString_of_kind (by decide))
      (["(", ")", "[", "]", ",", "*"].contains ·) t
  | node k cs =>
    rw [recast_node]
    rfl

end

/-! ### Targets -/

section

variable {φ : Token → Token} (hφ : KeepsLook φ)

include hφ

mutual

theorem isTarget_recast (t : Tree) : isTarget (t.recast φ) = isTarget t := by
  cases t with
  | leaf t => rw [recast_leaf, isTarget, isTarget, hφ.kind]
  | node k cs =>
    rw [recast_node]
    cases k <;> simp only [isTarget, lastStepIs_recast, allTargets_recast]

theorem isStarTarget_recast (t : Tree) : isStarTarget (t.recast φ) = isStarTarget t := by
  cases t with
  | leaf t =>
    rw [recast_leaf, isStarTarget, isStarTarget, isTarget, isTarget, hφ.kind]
    · rintro cs ⟨⟩
    · rintro cs ⟨⟩
  | node k cs =>
    rw [recast_node]
    cases k <;> simp only [isStarTarget, isTarget, lastStepIs_recast, allTargets_recast]

theorem allTargets_recast (starred : Bool) (cs : List Tree) :
    allTargets starred (cs.map (recast φ)) = allTargets starred cs := by
  cases cs with
  | nil => rfl
  | cons c cs =>
    have hrest := allTargets_recast starred cs
    have htarget := isTarget_recast c
    have hstar := isStarTarget_recast c
    cases c with
    | leaf t =>
      rw [List.map_cons, recast_leaf, allTargets, allTargets, hrest, hφ.kind, ← recast_leaf,
        isPunctuation_recast hφ]
    | node k ds =>
      rw [List.map_cons, recast_node, allTargets, allTargets, hrest, ← recast_node, htarget, hstar]
      · rintro t ⟨⟩
      · rintro t ⟨⟩

end

theorem isAssignable_recast (t : Tree) : isAssignable (t.recast φ) = isAssignable t := by
  cases t with
  | leaf t => exact isStarTarget_recast hφ (.leaf t)
  | node k cs =>
    have hstar := isStarTarget_recast hφ (.node k cs)
    rw [recast_node] at hstar ⊢
    cases k <;> first
      | exact hstar
      | exact allTargets_recast hφ true cs

theorem isSingleTarget_recast (t : Tree) : isSingleTarget (t.recast φ) = isSingleTarget t := by
  induction t using isSingleTarget.induct with
  | case1 t => rw [recast_leaf, isSingleTarget, isSingleTarget, hφ.kind]
  | case2 cs =>
    rw [recast_node, isSingleTarget, isSingleTarget, lastStepIs_recast, lastStepIs_recast]
  | case3 a c b ih =>
    rw [recast_node, isSingleTarget]
    exact ih
  | case4 k cs hprimary hgroup =>
    rw [recast_node, isSingleTarget, isSingleTarget]
    · exact hprimary
    · exact hgroup
    · exact hprimary
    · intro a c b hk hcs
      obtain ⟨a', r, rfl, -, hr⟩ := List.map_eq_cons_iff.1 hcs
      obtain ⟨c', r', rfl, -, hr'⟩ := List.map_eq_cons_iff.1 hr
      obtain ⟨b', r'', rfl, -, hr''⟩ := List.map_eq_cons_iff.1 hr'
      exact hgroup a' c' b' hk (by rw [List.map_eq_nil_iff.1 hr''])

mutual

theorem isDeletable_recast (t : Tree) : isDeletable (t.recast φ) = isDeletable t := by
  cases t with
  | leaf t => rw [recast_leaf, isDeletable, isDeletable, hφ.kind]
  | node k cs =>
    rw [recast_node]
    cases k <;> simp only [isDeletable, lastStepIs_recast, allDeletable_recast]

theorem allDeletable_recast (cs : List Tree) :
    allDeletable (cs.map (recast φ)) = allDeletable cs := by
  cases cs with
  | nil => rfl
  | cons c cs =>
    have hrest := allDeletable_recast cs
    have hone := isDeletable_recast c
    cases c with
    | leaf t =>
      rw [List.map_cons, recast_leaf, allDeletable, allDeletable, hrest, hφ.kind, ← recast_leaf,
        isPunctuation_recast hφ]
    | node k ds =>
      rw [List.map_cons, recast_node, allDeletable, allDeletable, hrest, ← recast_node, hone]
      · rintro t ⟨⟩
      · rintro t ⟨⟩

end

end

end Tree

/-! ## Tests and nodes of the grammar -/

open Tree

section

variable (φ : Token → Token)

theorem holdsComprehension_recast (t : Tree) :
    holdsComprehension (t.recast φ) = holdsComprehension t := by
  rw [holdsComprehension, holdsComprehension, children_recast, any_recast φ (isNode_recast φ _)]

theorem argumentsFollow_recast (named unpacked : Bool) (cs : List Tree) :
    argumentsFollow named unpacked (cs.map (recast φ)) = argumentsFollow named unpacked cs := by
  induction cs generalizing named unpacked with
  | nil => rfl
  | cons c cs ih =>
    cases c with
    | leaf t =>
      rw [List.map_cons, recast_leaf]
      exact ih named unpacked
    | node k ds =>
      rw [List.map_cons, recast_node]
      cases k <;> simp only [argumentsFollow, ih]

theorem argumentsOk_recast (cs : List Tree) : argumentsOk (cs.map (recast φ)) = argumentsOk cs := by
  rw [argumentsOk, argumentsOk, argumentsFollow_recast, List.length_map,
    any_recast φ (holdsComprehension_recast φ)]

theorem plainArgumentsOk_recast (cs : List Tree) :
    plainArgumentsOk (cs.map (recast φ)) = plainArgumentsOk cs := by
  rw [plainArgumentsOk, plainArgumentsOk, argumentsFollow_recast,
    any_recast φ (holdsComprehension_recast φ)]

theorem loneStar_recast (cs : List Tree) : loneStar (cs.map (recast φ)) = loneStar cs := by
  match cs with
  | [] => rfl
  | [c] => exact isNode_recast φ _ c
  | _ :: _ :: _ => rfl

theorem bracketsOk_recast (alone : Bool) (cs : List Tree) :
    bracketsOk alone (cs.map (recast φ)) = bracketsOk alone cs := by
  match cs with
  | [] => rfl
  | [_] => rfl
  | b :: c :: r =>
    show bracketsOk alone (b.recast φ :: c.recast φ :: r.map (recast φ)) = _
    rw [bracketsOk, bracketsOk, isNode_recast, any_recast φ (isNode_recast φ _), List.length_map]

theorem patternArgumentsOk_recast (named : Bool) (cs : List Tree) :
    patternArgumentsOk named (cs.map (recast φ)) = patternArgumentsOk named cs := by
  induction cs generalizing named with
  | nil => rfl
  | cons c cs ih =>
    cases c with
    | leaf t =>
      rw [List.map_cons, recast_leaf]
      exact ih named
    | node k ds =>
      rw [List.map_cons, recast_node]
      cases k <;> simp only [patternArgumentsOk, ih]

theorem bracketed_recast (cs : List Tree) :
    bracketed (cs.map (recast φ)) = (bracketed cs).recast φ := by
  rw [bracketed, bracketed, any_recast φ (isNode_recast φ _)]
  split_ifs <;> rw [recast_node]

theorem subscriptOk_recast (cs : List Tree) : ((cs.map (recast φ)).length == 1
      || !((cs.map (recast φ)).head?.map (isNode .named)).getD false)
    = (cs.length == 1 || !(cs.head?.map (isNode .named)).getD false) := by
  rw [List.length_map]
  cases cs with
  | nil => rfl
  | cons c cs => rw [List.map_cons, List.head?_cons, List.head?_cons, Option.map_some,
      Option.map_some, isNode_recast]

theorem fold_recast (k : NodeKind) (cs : List Tree) :
    (match cs.map (recast φ) with
      | [c] => c
      | _ => .node k (cs.map (recast φ)))
      = (match cs with
        | [c] => c
        | _ => .node k cs : Tree).recast φ := by
  match cs with
  | [] => exact (recast_node φ k []).symm
  | [_] => rfl
  | a :: b :: r => exact (recast_node φ k (a :: b :: r)).symm

end

section

variable {φ : Token → Token} (hφ : KeepsLook φ)

include hφ

theorem step?_recast (s : ParametersSeen) (cs : List Tree) :
    s.step? (cs.map (recast φ)) = s.step? cs := by
  cases cs with
  | nil => rfl
  | cons c r =>
    have hequals : ((c :: r).map (recast φ)).any (isWord "=") = (c :: r).any (isWord "=") :=
      any_recast φ (isWord_recast hφ "=") _
    have hempty : (r.map (recast φ)).isEmpty = r.isEmpty := List.isEmpty_map
    rw [List.map_cons] at hequals ⊢
    simp only [ParametersSeen.step?, isWord_recast hφ, hequals, hempty]

theorem parametersOk_recast (cs : List Tree) :
    parametersOk (cs.map (recast φ)) = parametersOk cs := by
  have hfollow (s : ParametersSeen) :
      parametersFollow s (cs.map (recast φ)) = parametersFollow s cs := by
    induction cs generalizing s with
    | nil => rfl
    | cons c cs ih =>
      cases c with
      | leaf t =>
        rw [List.map_cons, recast_leaf]
        exact ih s
      | node k ds =>
        rw [List.map_cons, recast_node, parametersFollow, parametersFollow, step?_recast hφ]
        cases s.step? ds with
        | none => rfl
        | some t => exact ih t
  exact hfollow {}

theorem parenthesised_recast (cs : List Tree) :
    parenthesised (cs.map (recast φ)) = (parenthesised cs).recast φ := by
  rw [parenthesised, parenthesised, any_recast φ (isNode_recast φ _),
    any_recast φ (isWord_recast hφ _), List.length_map]
  split_ifs <;> rw [recast_node]

theorem bracesOk_recast (cs : List Tree) : bracesOk (cs.map (recast φ)) = bracesOk cs := by
  match cs with
  | [] => rfl
  | [_] => rfl
  | b :: c :: r =>
    have hcolon : ((r.map (recast φ)).head?.map (isWord ":")).getD false
        = (r.head?.map (isWord ":")).getD false := by
      cases r with
      | nil => rfl
      | cons d r => exact isWord_recast hφ ":" d
    show bracesOk (b.recast φ :: c.recast φ :: r.map (recast φ)) = _
    rw [bracesOk, bracesOk, isNode_recast, isNode_recast, any_recast φ (isNode_recast φ _), hcolon]

theorem chainOk_recast (cs : List Tree) : chainOk (cs.map (recast φ)) = chainOk cs := by
  induction cs using chainOk.induct with
  | case1 => rfl
  | case2 => rfl
  | case3 c o r ih =>
    show chainOk (c.recast φ :: o.recast φ :: r.map (recast φ)) = _
    rw [chainOk, chainOk, isAssignable_recast hφ, ih]

theorem assignmentOk_recast (cs : List Tree) :
    assignmentOk (cs.map (recast φ)) = assignmentOk cs := by
  match cs with
  | [] => rfl
  | [_] => rfl
  | c :: o :: r =>
    have hchain := chainOk_recast hφ (c :: o :: r)
    simp only [List.map_cons] at hchain ⊢
    simp only [assignmentOk, isWord_recast hφ, hchain, isSingleTarget_recast hφ]

theorem isImaginary_recast {t : Tree} (ht : t.isLeaf .number = true) :
    isImaginary (t.recast φ) = isImaginary t := by
  cases t with
  | leaf t => rw [recast_leaf, isImaginary, isImaginary,
      hφ.text t (opensString_of_kind (k := .number) (by decide) ht)]
  | node k cs =>
    rw [recast_node]
    rfl

theorem complexOk_recast (cs : List Tree) : complexOk (cs.map (recast φ)) = complexOk cs := by
  have hnumbers : (cs.map (recast φ)).filter (isLeaf .number)
      = (cs.filter (isLeaf .number)).map (recast φ) := by
    rw [List.filter_map]
    exact congrArg (List.map (recast φ)) (congrArg (List.filter · cs)
      (funext fun t ↦ isLeaf_recast hφ .number t))
  have hleaves : ∀ c ∈ cs.filter (isLeaf .number), c.isLeaf .number = true :=
    fun c hc ↦ (List.mem_filter.1 hc).2
  rw [complexOk, complexOk, hnumbers]
  match cs.filter (isLeaf .number), hleaves with
  | [], _ => rfl
  | [_], _ => rfl
  | [a, b], hleaves =>
    simp only [List.map_cons, List.map_nil, isImaginary_recast hφ (hleaves a (by simp)),
      isImaginary_recast hφ (hleaves b (by simp))]
  | _ :: _ :: _ :: _, _ => rfl

end

/-! ## Forms that do not see where tokens stand -/

namespace Form

variable {ρ : Type} {g : ρ → Form ρ} {φ : Token → Token}

section

variable (φ)

mutual

/-- Wherever the form tests trees or puts them together, it makes no difference that their tokens
are changed. -/
def Blind : Form ρ → Prop
  | .kind _ => True
  | .word _ => True
  | .soft _ => True
  | .seq fs => AllBlind fs
  | .alt fs => AllBlind fs
  | .many f => Blind f
  | .choose test yes no => Blind test ∧ Blind yes ∧ Blind no
  | .ahead f => Blind f
  | .unless f => Blind f
  | .rule _ => True
  | .build k f => (∀ cs, k (cs.map (recast φ)) = (k cs).recast φ) ∧ Blind f
  | .check p f => (∀ cs, p (cs.map (recast φ)) = p cs) ∧ Blind f

/-- The same for each of several forms. -/
def AllBlind : List (Form ρ) → Prop
  | [] => True
  | f :: fs => Blind f ∧ AllBlind fs

end

/-- What a form makes of tokens, with the tokens changed. -/
def recastReading (o : Reading) : Reading := o.map fun x ↦ (x.1.map (recast φ), x.2.map φ)

end

theorem take_recast {p : Token → Bool} (hp : ∀ t, p (φ t) = p t) (ts : List Token) :
    take p (ts.map φ) = recastReading φ (take p ts) := by
  cases ts with
  | nil => rfl
  | cons t ts =>
    rw [List.map_cons, take, take, hp]
    split
    · rw [recastReading, Option.map_some, List.map_singleton, recast_leaf]
    · rfl

/-- **Readings do not see where tokens stand**: with the tokens changed, a form makes the same trees
with their tokens changed. -/
theorem Parses.recast (hφ : KeepsLook φ) (hg : ∀ r, Blind φ (g r)) {f : Form ρ} {ts : List Token}
    {o : Reading} (h : Parses g f ts o) (hf : Blind φ f) :
    Parses g f (ts.map φ) (recastReading φ o) := by
  have happend {a b : List Tree} {r : List Token} :
      recastReading φ (some (a ++ b, r))
        = some (a.map (Tree.recast φ) ++ b.map (Tree.recast φ), r.map φ) := by
    rw [recastReading, Option.map_some, List.map_append]
  induction h with
  | kind =>
    rw [← take_recast fun t ↦ by rw [hφ.kind]]
    exact .kind
  | word =>
    rw [← take_recast fun t ↦ hφ.spelled_eq
      (fun k ↦ k == .operator || k == .keyword) (fun _ ↦ opensString_of_fixed) (· == _) t]
    exact .word
  | soft =>
    rw [← take_recast fun t ↦ hφ.spelled_eq (· == .name)
      (fun _ ↦ opensString_of_kind (by decide)) (· == _) t]
    exact .soft
  | done => exact .done
  | unfit _ ih => exact .unfit (ih hf.1)
  | stuck _ _ ih ihrest => exact .stuck (ih hf.1) (ihrest hf.2)
  | next _ _ ih ihrest => exact happend ▸ .next (ih hf.1) (ihrest hf.2)
  | exhausted => exact .exhausted
  | here _ ih => exact .here (ih hf.1)
  | later _ _ ih ihrest => exact .later (ih hf.1) (ihrest hf.2)
  | enough _ ih => exact .enough (ih hf)
  | again _ _ ih ihrest => exact happend ▸ .again (ih hf) (ihrest hf)
  | broken _ _ ihtest ih => exact .broken (ihtest hf.1) (ih hf.2.1)
  | chosen _ _ ihtest ih => exact happend ▸ .chosen (ihtest hf.1) (ih hf.2.1)
  | otherwise _ _ ihtest ih => exact .otherwise (ihtest hf.1) (ih hf.2.2)
  | @ahead f ts o _ ih =>
    have hahead := Parses.ahead (ih hf)
    rw [recastReading, Option.map_map] at hahead ⊢
    exact hahead
  | absent _ ih => exact .absent (ih hf)
  | present _ ih => exact .present (ih hf)
  | rule _ ih => exact .rule (ih (hg _))
  | @build k f ts o _ ih =>
    have hbuild := Parses.build (k := k) (ih hf.2)
    rw [recastReading, Option.map_map] at hbuild ⊢
    refine (congrArg (Parses g _ _) (congrArg (Option.map · o) (funext fun x ↦ ?_))).mp hbuild
    simp only [Function.comp_apply, hf.1, List.map_singleton]
  | @check p f ts o _ ih =>
    have hcheck := Parses.check (p := p) (ih hf.2)
    rw [recastReading, Option.filter_map] at hcheck
    refine (congrArg (Parses g _ _) (congrArg (Option.map _) (congrArg (Option.filter · o)
      (funext fun x ↦ ?_)))).mp hcheck
    exact hf.1 x.1

end Form

open Form

section

variable {φ : Token → Token} (hφ : KeepsLook φ)

include hφ

theorem targetsOk_recast (cs : List Tree) :
    (cs.map (recast φ)).all (fun c ↦ c.isPunctuation || c.isStarTarget)
      = cs.all fun c ↦ c.isPunctuation || c.isStarTarget :=
  all_recast φ (fun c ↦ by rw [isPunctuation_recast hφ, isStarTarget_recast hφ]) cs

theorem blind_grammar (r : Rule) : Blind φ (grammar r) := by
  -- one goal for each place where trees are tested or put together
  cases r <;> repeat' first
    | apply And.intro
    | exact True.intro
    | exact fun cs ↦ (recast_node φ _ cs).symm
    | exact fun cs ↦ fold_recast φ _ cs
    | exact parenthesised_recast hφ
    | exact bracketed_recast φ
    | exact assignmentOk_recast hφ
    | exact parametersOk_recast hφ
    | exact argumentsOk_recast φ
    | exact plainArgumentsOk_recast φ
    | exact complexOk_recast hφ
    | exact patternArgumentsOk_recast φ false
    | exact all_recast φ (isStarTarget_recast hφ)
    | exact targetsOk_recast hφ
    | exact fun cs ↦ congrArg (!·) (loneStar_recast φ cs)
    | exact fun cs ↦ all_recast φ (fun c ↦ by rw [children_recast, bracketsOk_recast]) cs
    | exact fun cs ↦ all_recast φ (fun c ↦ by rw [children_recast, bracesOk_recast hφ]) cs
    | exact fun cs ↦ all_recast φ (fun c ↦ by
        rw [isPunctuation_recast hφ, isDeletable_recast hφ]) cs
    | exact subscriptOk_recast φ

end

end Source
end TexWeave

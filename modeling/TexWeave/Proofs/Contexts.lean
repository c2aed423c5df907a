import TexWeave.Proofs.Definitions
import TexWeave.Proofs.FirstLines

/-!
# Contexts and their bodies

The headers of statements that open a context have no line in common, however deep the statements
are nested in one another: a header holds no statement, and whatever is in a body comes on the line
on which the body starts or below.  So at most one header covers a line, and its body is what is
found there.

* `Ordered` — contexts between two lines, each of which opens above its body and all later ones.
* `Laid`, `makes_laid` — trees whose contexts are in order; every tree of the grammar is.
* `ordered_contexts` — the contexts of a text are in order.
* `blockSource_of_readText` — what is found at a line.
-/

set_option autoImplicit false

namespace TexWeave
namespace Source

open Form Scanner Tree

/-! ## Contexts in order -/

/-- Where a statement that opens a context stands: its header above its body, and all of it between
two lines.  The body starts on the first line of its first statement, unless that is a decorated
definition; then it starts where the expression of the first decorator does. -/
structure Frames (m n : Nat) (w : Tree) : Prop where
  tokens_ne : w.tokens ≠ []
  le_firstLine : m ≤ w.firstLine
  firstLine_le : w.firstLine ≤ bodyStart w
  start_le : bodyStart w ≤ bodyEnd w
  end_le : bodyEnd w ≤ n
  start_eq : ∃ s r, bodyOf w = s :: r ∧ s.firstLine ≤ bodyStart w
    ∧ bodyStart w = ((leadingExpression? s).map expressionLine).getD s.firstLine

/-- Contexts between two lines, each of which opens above its body and above all later ones. -/
structure Ordered (m n : Nat) (ws : List Tree) : Prop where
  frames : ∀ w ∈ ws, Frames m n w
  pairwise : ws.Pairwise fun v w ↦ bodyStart v ≤ w.firstLine

theorem ordered_nil (m n : Nat) : Ordered m n [] := ⟨List.forall_mem_nil _, .nil⟩

theorem Frames.mono {l m n o : Nat} {w : Tree} (h : Frames m n w) (hlm : l ≤ m) (hno : n ≤ o) :
    Frames l o w :=
  { h with le_firstLine := hlm.trans h.le_firstLine, end_le := h.end_le.trans hno }

theorem Ordered.append {l m n : Nat} {vs ws : List Tree} (h : Ordered l m vs)
    (h' : Ordered m n ws) (hlm : l ≤ m) (hmn : m ≤ n) : Ordered l n (vs ++ ws) := by
  refine ⟨List.forall_mem_append.2 ⟨fun v hv ↦ (h.frames v hv).mono (Nat.le_refl l) hmn,
    fun w hw ↦ (h'.frames w hw).mono hlm (Nat.le_refl n)⟩, ?_⟩
  refine List.pairwise_append.2 ⟨h.pairwise, h'.pairwise, fun v hv w hw ↦ ?_⟩
  have hv' := h.frames v hv
  exact (hv'.start_le.trans hv'.end_le).trans (h'.frames w hw).le_firstLine

/-- Strings with fields are closed in the tree, and its contexts are in order wherever its tokens
stand. -/
def Laid (c : Tree) : Prop := excess c.tokens = 0
  ∧ ∀ m n, Spans m n c.tokens → Ordered m n (contexts c)

section

variable {m n : Nat} {u : List Token} {a : List Tree} {k : NodeKind}

theorem ordered_of_laid (ha : ∀ c ∈ a, Laid c) (h : Spans m n (tokensOf a)) :
    Ordered m n (nodesOf .withStatement a) := by
  induction a generalizing m with
  | nil => exact ordered_nil m n
  | cons c a ih =>
    obtain ⟨hc, ha⟩ := List.forall_mem_cons.1 ha
    rw [tokensOf] at h
    obtain ⟨m', hfirst, hrest⟩ := h.split hc.1
    rw [nodesOf]
    exact (hc.2 m m' hfirst).append (ih ha hrest) hfirst.le hrest.le

theorem laid_leaf {t : Token} (h : weight t = 0) : Laid (.leaf t) := by
  refine ⟨(isPiece_leaf h).1, fun m n _ ↦ ?_⟩
  rw [contexts, nodes_leaf]
  exact ordered_nil m n

theorem laid_node (hk : k ≠ .withStatement) (ha : ∀ c ∈ a, Laid c) : Laid (.node k a) := by
  refine ⟨?_, fun m n h ↦ ?_⟩
  · rw [tokens_node]
    exact excess_tokensOf fun c hc ↦ (ha c hc).1
  · rw [tokens_node] at h
    rw [contexts, nodes_node_of_ne hk]
    exact ordered_of_laid ha h

theorem laid_fold (hk : k ≠ .withStatement) (a : List Tree) :
    (∀ c ∈ a, Laid c) → Laid (match a with
      | [c] => c
      | _ => .node k a) := by
  split
  · exact fun h ↦ h _ List.mem_cons_self
  · exact laid_node hk

theorem laid_parenthesised (h : ∀ c ∈ a, Laid c) : Laid (parenthesised a) := by
  rw [parenthesised]
  split_ifs
  · exact laid_node (by decide) h
  · exact laid_node (by decide) h
  · exact laid_node (by decide) h

theorem laid_bracketed (h : ∀ c ∈ a, Laid c) : Laid (bracketed a) := by
  rw [bracketed]
  split_ifs
  · exact laid_node (by decide) h
  · exact laid_node (by decide) h

theorem laid_of_isFree {c : Tree} (h : IsFree c) (hexcess : excess c.tokens = 0) : Laid c :=
  ⟨hexcess, fun m n _ ↦ h ▸ ordered_nil m n⟩

/-- Strings side by side: only together are those with fields closed. -/
def stringsForm : Syn :=
  some1 (.alt [.kind .string, .kind .bytes,
    .seq [.kind .fieldsOpen, .many (.rule .brackets), .kind .fieldsClose]])

theorem laid_strings (a : List Tree) : Yields grammar stringsForm u a → tokensOf a = u →
    Laid (match a with
      | [c] => c
      | _ => .node .operation a) := by
  intro h htokens
  have hmakes : Makes grammar IsFree (fun r ↦ isInner r = true) stringsForm := by
    repeat' first
      | exact fun t _ ↦ isFree_leaf t
      | exact rfl
      | exact True.intro
      | apply And.intro
  have hkeep : Keeps stringsForm := by
    repeat' first
      | exact True.intro
      | apply And.intro
  have hfree := good_of_yields keeps_grammar makes_isFree h hmakes hkeep
  refine laid_of_isFree (isFree_fold (by decide) a hfree) ?_
  refine (congrArg excess (tokens_fold .operation a)).trans ?_
  rw [htokens]
  exact balance.sound _ balance_grammar h 0 rfl

/-! ### Statements that open a context -/

/-- The forms of a statement that opens a context. -/
def contextForms : List Syn := [withStatement, .seq [.word "async", withStatement]]

theorem exists_header_of_with (h : Yields grammar withStatement u a) :
    ∃ t hs cs, a = .leaf t :: hs ++ [.node .block cs] ∧ (∀ c ∈ hs, IsFree c)
      ∧ (∀ c ∈ cs, IsPiece c) ∧ ∃ c ∈ cs, isBranch c = true := by
  obtain ⟨_, _, _, _, rfl, rfl, hword, hrest⟩ := h.parts
  obtain ⟨_, _, hs, _, rfl, rfl, hitems, hrest⟩ := hrest.parts
  obtain ⟨_, _, _, _, rfl, rfl, hblock, hdone⟩ := hrest.parts
  obtain ⟨rfl, rfl⟩ := hdone.eq_nil_of_done
  obtain ⟨t, -, -, rfl, rfl⟩ := hword.token_of_word
  obtain ⟨cs, rfl, hpieces⟩ := exists_pieces_of_block hblock
  refine ⟨t, hs, cs, by simp, ?_, hpieces⟩
  refine good_of_yields keeps_grammar makes_isFree hitems ?_ ?_
  · repeat' first
      | exact fun t _ ↦ isFree_leaf t
      | exact rfl
      | exact True.intro
      | apply And.intro
      | refine Or.inr ⟨fun _ _ _ _ h ↦ isFree_node (by decide) h, ?_⟩
  · repeat' first
      | exact True.intro
      | apply And.intro
      | exact fun cs ↦ tokens_node _ cs

/-- A statement that opens a context is a header without contexts and a block. -/
theorem exists_header_of_context {f : Syn} (hf : f ∈ contextForms) (h : Yields grammar f u a) :
    ∃ t hs cs, a = .leaf t :: hs ++ [.node .block cs] ∧ (∀ c ∈ hs, IsFree c)
      ∧ (∀ c ∈ cs, IsPiece c) ∧ ∃ c ∈ cs, isBranch c = true := by
  simp only [contextForms, List.mem_cons, List.not_mem_nil, or_false] at hf
  rcases hf with rfl | rfl
  · exact exists_header_of_with h
  · obtain ⟨_, _, _, _, rfl, rfl, hword, hrest⟩ := h.parts
    obtain ⟨_, _, _, _, rfl, rfl, hwith, hdone⟩ := hrest.parts
    obtain ⟨rfl, rfl⟩ := hdone.eq_nil_of_done
    obtain ⟨t, -, -, rfl, rfl⟩ := hword.token_of_word
    obtain ⟨t', hs, cs, rfl, hfree, hpieces⟩ := exists_header_of_with hwith
    refine ⟨t, .leaf t' :: hs, cs, by simp, ?_, hpieces⟩
    exact List.forall_mem_cons.2 ⟨isFree_leaf t', hfree⟩

/-- **A statement that opens a context opens it above all contexts in its body.** -/
theorem laid_context {f : Syn} (hf : f ∈ contextForms) (h : Yields grammar f u a)
    (ha : ∀ c ∈ a, Laid c) : Laid (.node .withStatement a) := by
  have hexcess : ∀ c ∈ a, excess c.tokens = 0 := fun c hc ↦ (ha c hc).1
  refine ⟨by rw [tokens_node]; exact excess_tokensOf hexcess, fun m n hspans ↦ ?_⟩
  obtain ⟨t, hs, cs, rfl, hfree, hpieces, hsome⟩ := exists_header_of_context hf h
  have hcontexts : contexts (.node .withStatement (.leaf t :: hs ++ [.node .block cs]))
      = .node .withStatement (.leaf t :: hs ++ [.node .block cs]) :: nodesOf .withStatement cs := by
    rw [contexts, nodes_node_self, nodesOf_append, nodesOf_singleton, nodes_node_of_ne (by decide),
      nodesOf_eq_nil (List.forall_mem_cons.2 ⟨isFree_leaf t, hfree⟩), List.nil_append]
  have htokens : (Tree.node .withStatement (.leaf t :: hs ++ [.node .block cs])).tokens
      = (t :: tokensOf hs) ++ tokensOf cs := by
    simp [tokens, tokensOf, tokensOf_append]
  have hheader : excess (t :: tokensOf hs) = 0 := by
    have hall : excess (tokensOf (.leaf t :: hs)) = 0 :=
      excess_tokensOf fun c hc ↦ hexcess c (List.mem_append_left _ hc)
    exact hall
  rw [htokens] at hspans
  obtain ⟨l, hfront, hbody⟩ := hspans.split hheader
  obtain ⟨s, r, hsr, hstart, hfirst, hle, hends, hinner⟩ := block_bounds hpieces hsome hbody
  have hinside : Ordered l n (nodesOf .withStatement cs) := by
    have hblock := (ha (.node .block cs) (by simp)).2 l n (by rwa [tokens_node])
    rwa [contexts, nodes_node_of_ne (by decide)] at hblock
  have hbodyOf : bodyOf (.node .withStatement (.leaf t :: hs ++ [.node .block cs])) = s :: r := by
    rw [bodyOf, children, List.getLast?_concat, ← hsr]
    rfl
  have hbodyStart : bodyStart (.node .withStatement (.leaf t :: hs ++ [.node .block cs]))
      = statementLine s := by
    rw [bodyStart, hbodyOf]
    rfl
  have hbodyEnd : ∃ d ∈ s :: r,
      bodyEnd (.node .withStatement (.leaf t :: hs ++ [.node .block cs])) = d.lastLine := by
    refine ⟨(s :: r).getLast (List.cons_ne_nil s r), List.getLast_mem _, ?_⟩
    rw [bodyEnd, hbodyOf, List.getLast?_eq_some_getLast (List.cons_ne_nil s r)]
    rfl
  have hfirstLine : (Tree.node .withStatement (.leaf t :: hs ++ [.node .block cs])).firstLine
      = t.line := by
    rw [firstLine, htokens]
    rfl
  have hframes : Frames m n (.node .withStatement (.leaf t :: hs ++ [.node .block cs])) := by
    obtain ⟨d, hd, hend⟩ := hbodyEnd
    obtain ⟨hlow, hhigh⟩ := hfront.le_of_cons
    refine ⟨?_, hfirstLine ▸ hlow, ?_, ?_, ?_, s, r, hbodyOf, ?_⟩
    · rw [htokens]
      exact List.cons_ne_nil _ _
    · rw [hfirstLine, hbodyStart]
      exact hhigh.trans hle
    · rw [hbodyStart, hend]
      exact (hends d hd).1
    · rw [hend]
      exact (hends d hd).2
    · rw [hbodyStart]
      exact ⟨hfirst, hstart⟩
  rw [hcontexts]
  refine ⟨List.forall_mem_cons.2 ⟨hframes, fun w hw ↦
    (hinside.frames w hw).mono hfront.le (Nat.le_refl n)⟩, ?_⟩
  refine List.pairwise_cons.2 ⟨fun w hw ↦ ?_, hinside.pairwise⟩
  rw [hbodyStart]
  exact hinner w hw (hinside.frames w hw).tokens_ne

theorem makes_laid (r : Rule) (_ : True) : Makes grammar Laid (fun _ ↦ True) (grammar r) := by
  have hkind {k : TokenKind} (hk : ∀ t : Token, t.kind = k → weight t = 0) (t : Token)
      (ht : t.kind = k) : Laid (.leaf t) := laid_leaf (hk t ht)
  have hword (t : Token) (ht : t.kind = .operator ∨ t.kind = .keyword) : Laid (.leaf t) :=
    laid_leaf (weight_of_fixed ht)
  cases r
  all_goals
    repeat' first
      | exact True.intro
      | apply And.intro
      | exact hword
      | exact hkind fun t ht ↦ by rw [weight, ht]
      | refine Or.inr ⟨fun _ _ _ _ h ↦ laid_node (by decide) h, ?_⟩
      | exact Or.inl fun _ a h htokens ↦ laid_strings a h htokens
      | refine Or.inr ⟨fun _ a _ _ h ↦ laid_fold (by decide) a h, ?_⟩
      | refine Or.inr ⟨fun _ _ _ _ h ↦ laid_parenthesised h, ?_⟩
      | refine Or.inr ⟨fun _ _ _ _ h ↦ laid_bracketed h, ?_⟩
      | refine Or.inr ⟨fun _ _ h _ ha ↦ laid_context (List.mem_cons_self) h ha, ?_⟩
      | refine Or.inr ⟨fun _ _ h _ ha ↦
          laid_context (List.mem_cons_of_mem _ List.mem_cons_self) h ha, ?_⟩

end

/-! ## The block at a line -/

/-- **The contexts of a text are in order**, between its first line and its last. -/
theorem ordered_contexts {text : List Char} {t : Tree} (h : readText text = .ok t) :
    Ordered 1 (1 + (closed text).count '\n') (contexts t) := by
  obtain ⟨ts, out, hparse, hruns, rfl⟩ := exists_runs_of_readText h
  obtain ⟨u, a, last, hts, rfl, -, hstatements⟩ := yields_of_parse hparse
  have hlaid := good_of_yields keeps_grammar makes_laid hstatements trivial trivial
  have htokens := tokensOf_of_yields keeps_grammar hstatements trivial
  have hspans := hruns.spans
  rw [hts, ← htokens] at hspans
  obtain ⟨m, hall, hrest⟩ := hspans.split (excess_tokensOf fun c hc ↦ (hlaid c hc).1)
  have hordered := (ordered_of_laid hlaid hall).append (ordered_nil m _) hall.le hrest.le
  rwa [contexts, nodes_node_of_ne (by decide), nodesOf_append, nodesOf_singleton, nodes_leaf]

theorem not_covers_of_le {line : Int} {v w : Tree} (h : bodyStart v ≤ w.firstLine)
    (hv : covers line v = true) (hw : covers line w = true) : False := by
  simp only [covers, Bool.and_eq_true, decide_eq_true_eq] at hv hw
  omega

/-- At most one header covers a line. -/
theorem Ordered.length_filter_le {m n : Nat} {ws : List Tree} (h : Ordered m n ws) (line : Int) :
    (ws.filter (covers line)).length ≤ 1 := by
  have hpairwise := h.pairwise.filter (covers line)
  cases hfilter : ws.filter (covers line) with
  | nil => exact Nat.zero_le 1
  | cons v r =>
    cases r with
    | nil => exact Nat.le_refl 1
    | cons w r =>
      have hmem {x : Tree} (hx : x ∈ v :: w :: r) : covers line x = true := by
        rw [← hfilter] at hx
        exact (List.mem_filter.1 hx).2
      rw [hfilter] at hpairwise
      have hle := (List.pairwise_cons.1 hpairwise).1 w List.mem_cons_self
      exact (not_covers_of_le hle (hmem List.mem_cons_self) (hmem (by simp))).elim

theorem eq_of_perm_of_length_le {α : Type} {l l' : List α} (h : l.Perm l') (hl : l'.length ≤ 1) :
    l = l' := by
  match l', hl with
  | [], _ => exact h.eq_nil
  | [x], _ => exact List.perm_singleton.1 h

/-- A file as it is read ends with a line feed. -/
theorem closed_of_fileText? {file : Option String} {text : List Char}
    (h : fileText? file = some text) : closed text = text := by
  have hlast : text.getLast? = some '\n' := by
    unfold fileText? at h
    generalize Text.unifyNewlines _ = cs at h
    dsimp only at h
    split_ifs at h with hempty hlast
    · rw [← Option.some.inj h]
      exact beq_iff_eq.1 hlast
    · rw [← Option.some.inj h]
      exact List.getLast?_concat
  rw [closed, hlast]
  rfl

/-- **What is found at a line.**  In a file that can be read, at most one of the statements that
open a context has a header that covers a given line, so that their order does not matter.  Found
are the lines from the one on which the body of that statement starts to the one on which it ends,
all of them lines of the file; nothing is found if there is no such statement.  The body starts on
the first line of its first statement, unless that is a decorated definition whose first decorator
has its expression, parentheses around it not counted, further below. -/
theorem blockSource_of_readText (fileName : String) {file : Option String} {text : List Char}
    {t : Tree} (hfile : fileText? file = some text) (hread : readText text = .ok t) :
    (∀ w ∈ contexts t, 1 ≤ w.firstLine ∧ w.firstLine ≤ bodyStart w ∧ bodyStart w ≤ bodyEnd w
      ∧ bodyEnd w ≤ (Text.splitAt '\n' text).length
      ∧ ∃ s r, bodyOf w = s :: r ∧ s.firstLine ≤ bodyStart w
        ∧ bodyStart w = ((leadingExpression? s).map expressionLine).getD s.firstLine)
      ∧ ∀ line : Int, ((contexts t).filter (covers line)).length ≤ 1
        ∧ (∀ ws : List Tree, ws.Perm (contexts t) →
          latest (ws.filter (covers line)) = latest ((contexts t).filter (covers line)))
        ∧ ((∀ w ∈ contexts t, covers line w = false) →
          blockSource fileName file line = .error (.unsourced (.noBlock fileName line)))
        ∧ ∀ w ∈ contexts t, covers line w = true → blockSource fileName file line
          = .ok (Text.dropNewlines (Text.joinLines (between (bodyStart w) (bodyEnd w)
            ((Text.splitAt '\n' text).map String.ofList)))) := by
  have hordered := ordered_contexts hread
  rw [closed_of_fileText? hfile] at hordered
  refine ⟨fun w hw ↦ ?_, fun line ↦ ⟨hordered.length_filter_le line, fun ws hws ↦ ?_, ?_, ?_⟩⟩
  · obtain ⟨-, hle, hheader, hbody, hend, hstart⟩ := hordered.frames w hw
    refine ⟨hle, hheader, hbody, ?_, hstart⟩
    rwa [Text.length_splitAt, Nat.add_comm]
  · rw [eq_of_perm_of_length_le (hws.filter (covers line)) (hordered.length_filter_le line)]
  · intro hnone
    have hfilter : (contexts t).filter (covers line) = [] :=
      List.filter_eq_nil_iff.2 fun w hw ↦ by simp [hnone w hw]
    rw [blockSource, hfile]
    dsimp only
    rw [hread]
    dsimp only [Except.bind, bind]
    rw [hfilter]
    rfl
  · intro w hw hcovers
    have hfilter : (contexts t).filter (covers line) = [w] := by
      have hmem := List.mem_filter.2 ⟨hw, hcovers⟩
      obtain ⟨v, hv⟩ := List.length_eq_one_iff.1
        (Nat.le_antisymm (hordered.length_filter_le line) (List.length_pos_of_mem hmem))
      rw [hv, List.mem_singleton] at hmem
      rw [hv, hmem]
    rw [blockSource, hfile]
    dsimp only
    rw [hread]
    dsimp only [Except.bind, bind]
    rw [hfilter]
    rfl

/-- A header of two lines, whose body starts with a decorated definition. -/
theorem blockSource_of_two_lines :
    let file := "with a, \\\n    b:\n    @c\n    def f(): pass\nx\n"
    ∃ text t, fileText? (some file) = some text ∧ readText text = .ok t
      ∧ blockSource "a.py" (some file) 2 = .ok "    @c\n    def f(): pass"
      ∧ blockSource "a.py" (some file) 3 = .error (.unsourced (.noBlock "a.py" 3)) := by
  intro file
  obtain ⟨text, htext⟩ : ∃ text, text = file.toList := ⟨_, rfl⟩
  have hfile : fileText? (some file) = some text := by
    rw [htext]
    decide +kernel
  have hplaces : (readText text).toOption.map (fun t ↦
      (contexts t).map fun w ↦ (w.firstLine, bodyStart w, bodyEnd w)) = some [(1, 3, 4)] := by
    rw [htext]
    decide +kernel
  cases hread : readText text with
  | error f =>
    rw [hread] at hplaces
    cases hplaces
  | ok t =>
    rw [hread] at hplaces
    obtain ⟨w, hw, hlines⟩ := List.map_eq_singleton_iff.1 (Option.some.inj hplaces)
    simp only [Prod.mk.injEq] at hlines
    obtain ⟨hfirst, hstart, hend⟩ := hlines
    obtain ⟨-, hfound⟩ := blockSource_of_readText "a.py" hfile hread
    refine ⟨text, t, hfile, hread, ?_, (hfound 3).2.2.1 fun v hv ↦ ?_⟩
    · have hbody := (hfound 2).2.2.2 w (hw ▸ List.mem_cons_self) (by simp [covers, hfirst, hstart])
      rw [hbody, hstart, hend, htext]
      exact congrArg Except.ok (by decide +kernel)
    · rw [hw, List.mem_singleton] at hv
      simp [hv, covers, hstart]

/-- Parentheses around the expression of a decorator are left out, and with them the line they
begin on. -/
theorem blockSource_of_parenthesised_decorator :
    let file := "with a:\n    @(\n        b\n    )\n    def f(): pass\n"
    (readText file.toList).toOption.map (fun t ↦ (contexts t).map fun w ↦
        (w.firstLine, (bodyOf w).map Tree.firstLine, bodyStart w)) = some [(1, [2], 3)]
      ∧ (blockSource "a.py" (some file) 1).toOption
        = some "        b\n    )\n    def f(): pass" := by
  decide +kernel

end Source
end TexWeave

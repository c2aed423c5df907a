import TexWeave.Proofs.Shifting
import TexWeave.Source.Extent

/-!
# How far definitions reach

Reading the tokens from the first line of a definition on, a definition is taken to reach as far as
its blocks do: to the end of its last line, or to the end of a comment behind it.

* `Extent.Leads` — tokens that do not end a definition.
* `Begins` — the words of a definition up to the end of its first line, decorators included.
* `IsDefinition` — those words, alone or with a block behind them.
* `arranged` — whether blocks open and close at the beginning of lines alone.
* `exists_last` — the last line that is found to belong to a definition.
-/

set_option autoImplicit false

namespace TexWeave
namespace Source

open Form Scanner

/-! ## Reading on -/

namespace Extent

variable {e e' e'' : Extent} {k : Token} {ts ts' : List Token}

/-- The tokens lead from one state to another, and the definition has not ended. -/
def Leads (e : Extent) (ts : List Token) (e' : Extent) : Prop :=
  ∀ r, e.run (ts ++ r) = e'.run r

theorem leads_nil (e : Extent) : e.Leads [] e := fun _ ↦ rfl

theorem leads_of_step (h : e.step k = (e', false)) : e.Leads [k] e' := by
  intro r
  rw [List.singleton_append, run, h]

theorem Leads.append (h : e.Leads ts e') (h' : e'.Leads ts' e'') : e.Leads (ts ++ ts') e'' := by
  intro r
  rw [List.append_assoc, h, h']

theorem Leads.cons (h : e.step k = (e', false)) (h' : e'.Leads ts e'') : e.Leads (k :: ts) e'' :=
  (leads_of_step h).append h'

/-- What each token keeps is kept by all of them. -/
theorem exists_leads (ts : List Token) {P : Extent → Prop}
    (hstep : ∀ e, P e → ∀ k ∈ ts, ∃ e', e.step k = (e', false) ∧ P e') (he : P e) :
    ∃ e', e.Leads ts e' ∧ P e' := by
  induction ts generalizing e with
  | nil => exact ⟨e, leads_nil e, he⟩
  | cons k ts ih =>
    obtain ⟨e₁, h₁, he₁⟩ := hstep e he k List.mem_cons_self
    obtain ⟨e', h', he'⟩ :=
      ih (fun e he j hj ↦ hstep e he j (List.mem_cons_of_mem k hj)) he₁
    exact ⟨e', h'.cons h₁, he'⟩

/-! ## In front of the first word -/

/-- No word of the definition has come. -/
structure Waits (e : Extent) : Prop where
  started : e.started = false
  inDecorator : e.inDecorator = false
  unnamed : e.unnamed = false
  depth_eq : e.depth = 0

/-- The rest of a decorator is passed over. -/
structure Decorates (e : Extent) : Prop where
  started : e.started = false
  inDecorator : e.inDecorator = true
  passing : e.passing = true
  unnamed : e.unnamed = false
  depth_eq : e.depth = 0

/-- The first word has come, and a number of blocks are under way. -/
structure Stands (e : Extent) (n : Nat) : Prop where
  started : e.started = true
  inDecorator : e.inDecorator = false
  unnamed : e.unnamed = false
  depth_eq : e.depth = n

/-- Words that are looked for in front of a definition. -/
def Opens (k : Token) : Prop :=
  (k.kind = .operator ∧ k.text = "@")
    ∨ (k.kind = .keyword ∧ k.text ∈ ["def", "class", "lambda"])

theorem Waits.step (h : e.Waits) (hk : ¬ Opens k) :
    ∃ e', e.step k = (e', false) ∧ e'.Waits := by
  have hsign : ¬ (k.kind = .operator ∧ k.text = "@") := fun hsign ↦ hk (.inl hsign)
  have hword : ¬ (k.kind = .keyword ∧ (k.text = "def" ∨ k.text = "class" ∨ k.text = "lambda")) :=
    fun hword ↦ hk (.inr (by simpa using hword))
  refine ⟨(e.step k).1, ?_, ?_, ?_, ?_, ?_⟩
  all_goals simp [Extent.step, h.started, h.inDecorator, h.unnamed, h.depth_eq, hsign, hword]

theorem Waits.step_sign (h : e.Waits) (hkind : k.kind = .operator) (htext : k.text = "@") :
    ∃ e', e.step k = (e', false) ∧ e'.Decorates := by
  refine ⟨(e.step k).1, ?_, ?_, ?_, ?_, ?_, ?_⟩
  all_goals simp [Extent.step, h.started, h.inDecorator, h.unnamed, h.depth_eq, hkind, htext]

theorem Waits.step_word (h : e.Waits) (hkind : k.kind = .keyword)
    (htext : k.text = "def" ∨ k.text = "class") :
    ∃ e', e.step k = (e', false) ∧ e'.Stands 0 ∧ e'.passing = true := by
  refine ⟨(e.step k).1, ?_, ⟨?_, ?_, ?_, ?_⟩, ?_⟩
  all_goals
    rcases htext with htext | htext <;>
      simp [Extent.step, h.started, h.inDecorator, h.depth_eq, hkind, htext]

theorem Decorates.step (h : e.Decorates) (hk : k.kind ≠ .newline) :
    ∃ e', e.step k = (e', false) ∧ e'.Decorates := by
  refine ⟨e, ?_, h⟩
  simp [Extent.step, h.started, h.inDecorator, h.passing, hk]

theorem Decorates.step_newline (h : e.Decorates) (hk : k.kind = .newline) :
    ∃ e', e.step k = (e', false) ∧ e'.Waits := by
  refine ⟨{ e with passing := false, last := k.line, inDecorator := false }, ?_, h.started, rfl,
    h.unnamed, h.depth_eq⟩
  simp [Extent.step, h.started, h.inDecorator, hk, h.unnamed]

/-! ## Behind the first word -/

theorem Stands.step_passing {n : Nat} (h : e.Stands n) (hpassing : e.passing = true)
    (hk : k.kind ≠ .newline) : e.step k = (e, false) := by
  simp [Extent.step, h.started, hpassing, hk]

theorem Stands.step_newline {n : Nat} (h : e.Stands n) (hk : k.kind = .newline) :
    ∃ e', e.step k = (e', false) ∧ e'.Stands n ∧ e'.passing = false ∧ e'.last = k.line := by
  refine ⟨{ e with passing := false, last := k.line, inDecorator := false }, ?_,
    ⟨h.started, rfl, h.unnamed, h.depth_eq⟩, rfl, rfl⟩
  simp [Extent.step, h.started, hk, h.unnamed]

theorem Stands.step_indent {n : Nat} (h : e.Stands n) (hpassing : e.passing = false)
    (hk : k.kind = .indent) :
    ∃ e', e.step k = (e', false) ∧ e'.Stands (n + 1) ∧ e'.passing = true := by
  refine ⟨(e.step k).1, ?_, ⟨?_, ?_, ?_, ?_⟩, ?_⟩
  all_goals simp [Extent.step, h.started, h.inDecorator, h.unnamed, h.depth_eq, hpassing, hk]

/-- A block that is not the last ends. -/
theorem Stands.step_dedent {n : Nat} (h : e.Stands (n + 2)) (hpassing : e.passing = false)
    (hk : k.kind = .dedent) :
    ∃ e', e.step k = (e', false) ∧ e'.Stands (n + 1) ∧ e'.passing = false
      ∧ e'.last = e.last := by
  refine ⟨{ e with depth := e.depth - 1 }, ?_, ⟨h.started, h.inDecorator, h.unnamed, ?_⟩,
    hpassing, rfl⟩
  · have hdepth : ¬ e.depth - 1 ≤ 0 := by
      rw [h.depth_eq]
      omega
    simp [Extent.step, h.started, hpassing, hk, hdepth]
  · change e.depth - 1 = _
    rw [h.depth_eq]
    omega

/-- A comment or a line break that ends no statement. -/
theorem Stands.step_trivia {n : Nat} (h : e.Stands n) (hk : k.isTrivia = true) :
    ∃ e', e.step k = (e', false) ∧ e'.Stands n ∧ e'.passing = e.passing
      ∧ (e'.last = e.last ∨ (k.kind = .comment ∧ e'.last = k.line)) := by
  rw [Token.isTrivia, Bool.or_eq_true, beq_iff_eq, beq_iff_eq] at hk
  cases hpassing : e.passing with
  | true =>
    have hnewline : k.kind ≠ .newline := by
      rcases hk with hk | hk <;> rw [hk] <;> decide
    exact ⟨e, h.step_passing hpassing hnewline, h, hpassing, .inl rfl⟩
  | false =>
    rcases hk with hk | hk
    · cases hcolumn : e.bodyColumn with
      | none =>
        exact ⟨e, by simp [Extent.step, h.started, hpassing, hk, hcolumn], h, hpassing, .inl rfl⟩
      | some c =>
        by_cases hc : c ≤ k.column
        · exact ⟨{ e with last := k.line },
            by simp [Extent.step, h.started, hpassing, hk, hcolumn, hc],
            ⟨h.started, h.inDecorator, h.unnamed, h.depth_eq⟩, hpassing, .inr ⟨hk, rfl⟩⟩
        · exact ⟨e, by simp [Extent.step, h.started, hpassing, hk, hcolumn, hc], h, hpassing,
            .inl rfl⟩
    · exact ⟨e, by simp [Extent.step, h.started, hpassing, hk], h, hpassing, .inl rfl⟩

/-- Any other token within a block. -/
theorem Stands.step_plain {n : Nat} (h : e.Stands (n + 1)) (hk : k.kind ≠ .newline)
    (hcost : blockCost k.kind = some (0, 0)) (htrivia : k.isTrivia = false) :
    e.step k = (e, false) := by
  have hdepth : e.depth ≠ 0 := by
    rw [h.depth_eq]
    omega
  have hindent : k.kind ≠ .indent := fun hx ↦ by simp [hx, blockCost] at hcost
  have hdedent : k.kind ≠ .dedent := fun hx ↦ by simp [hx, blockCost] at hcost
  have hcomment : k.kind ≠ .comment := fun hx ↦ by simp [Token.isTrivia, hx] at htrivia
  simp [Extent.step, h.started, hk, hindent, hdedent, hcomment, hdepth]

end Extent

/-! ## Tokens that are passed over -/

section

variable {k : Token} {ts a b : List Token}

theorem significant_eq_append (h : significant ts = a ++ b) :
    ∃ u v, ts = u ++ v ∧ significant u = a ∧ significant v = b :=
  List.filter_eq_append_iff.1 h

theorem significant_eq_cons (h : significant ts = k :: a) : ∃ u v, ts = u ++ k :: v
    ∧ (∀ j ∈ u, j.isTrivia = true) ∧ significant v = a := by
  obtain ⟨u, v, rfl, hu, -, hv⟩ := List.filter_eq_cons_iff.1 h
  exact ⟨u, v, rfl, fun j hj ↦ by simpa using hu j hj, hv⟩

theorem isTrivia_or_mem (hk : k ∈ ts) : k.isTrivia = true ∨ k ∈ significant ts := by
  cases htrivia : k.isTrivia with
  | true => exact .inl rfl
  | false => exact .inr (List.mem_filter.2 ⟨hk, by rw [htrivia]; rfl⟩)

theorem kind_of_isTrivia (h : k.isTrivia = true) : k.kind = .comment ∨ k.kind = .gap := by
  rwa [Token.isTrivia, Bool.or_eq_true, beq_iff_eq, beq_iff_eq] at h

theorem ne_newline_of_significant (h : ∀ j ∈ significant ts, j.kind ≠ .newline) :
    ∀ j ∈ ts, j.kind ≠ .newline := by
  intro j hj
  rcases isTrivia_or_mem hj with htrivia | hmem
  · rcases kind_of_isTrivia htrivia with hkind | hkind <;> rw [hkind] <;> decide
  · exact h j hmem

/-- Comments cost nothing. -/
theorem walk_significant (n : Nat) (ts : List Token) :
    walk blockCost n (significant ts) = walk blockCost n ts := by
  induction ts generalizing n with
  | nil => rfl
  | cons k ts ih =>
    rw [← List.singleton_append, significant_append, walk_append, walk_append]
    cases htrivia : k.isTrivia with
    | false => rw [significant_singleton htrivia]; exact congrArg _ (funext ih)
    | true =>
      have hcost : blockCost k.kind = some (0, 0) := by
        rcases kind_of_isTrivia htrivia with hkind | hkind <;> rw [hkind] <;> rfl
      rw [show significant [k] = [] by simp [significant, htrivia],
        walk_of_flat blockCost (List.forall_mem_singleton.2 hcost)]
      exact congrArg _ (funext ih)

end

/-! ## The words of a definition -/

/-- The words of a definition up to the end of its first line, with those of its decorators. -/
inductive Begins : List Token → Prop
  | word {k : Token} {w : List Token} (hkind : k.kind = .keyword)
      (htext : k.text = "def" ∨ k.text = "class") (hw : ∀ j ∈ w, j.kind ≠ .newline) :
      Begins (k :: w)
  | async {k : Token} {ts : List Token} (hk : ¬ Extent.Opens k) (h : Begins ts) : Begins (k :: ts)
  | decorator {k newline : Token} {w ts : List Token} (hkind : k.kind = .operator)
      (htext : k.text = "@") (hw : ∀ j ∈ w, j.kind ≠ .newline) (hnewline : newline.kind = .newline)
      (h : Begins ts) : Begins (k :: (w ++ newline :: ts))

/-- Whether blocks open and close at the beginning of lines alone, seen behind one more token. -/
def arrangedBehind (fresh : Bool) (k : Token) : Option Bool :=
  match k.kind with
  | .newline => some true
  | .indent => if fresh then some false else none
  | .dedent => if fresh then some true else none
  | .comment => some fresh
  | .gap => some fresh
  | _ => some false

/-- Whether blocks open and close at the beginning of lines alone. -/
def arranged (fresh : Bool) (ts : List Token) : Option Bool := ts.foldlM arrangedBehind fresh

namespace Extent

variable {e e' : Extent} {k : Token} {ts R : List Token}

theorem not_opens_of_kind (hoperator : k.kind ≠ .operator) (hkeyword : k.kind ≠ .keyword) :
    ¬ Opens k := by
  rintro (h | h)
  · exact hoperator h.1
  · exact hkeyword h.1

theorem Waits.leads (h : e.Waits) (hR : ∀ k ∈ R, ¬ Opens k) : ∃ e', e.Leads R e' ∧ e'.Waits :=
  exists_leads R (fun _ he k hk ↦ he.step (hR k hk)) h

theorem Waits.leads_trivia (h : e.Waits) (hR : ∀ k ∈ R, k.isTrivia = true) :
    ∃ e', e.Leads R e' ∧ e'.Waits := by
  refine h.leads fun k hk ↦ ?_
  rcases kind_of_isTrivia (hR k hk) with hkind | hkind <;>
    exact not_opens_of_kind (by rw [hkind]; decide) (by rw [hkind]; decide)

/-- The words of a definition are read up to the end of its first line. -/
theorem Waits.leads_begins (hR : Begins (significant R)) (h : e.Waits) :
    ∃ e', e.Leads R e' ∧ e'.Stands 0 ∧ e'.passing = true := by
  generalize hts : significant R = ts at hR
  induction hR generalizing e R with
  | word hkind htext hw =>
    obtain ⟨u, v, rfl, hu, hv⟩ := significant_eq_cons hts
    obtain ⟨e₁, h₁, hwaits⟩ := h.leads_trivia hu
    obtain ⟨e₂, h₂, hstands⟩ := hwaits.step_word hkind htext
    obtain ⟨e₃, h₃, hend⟩ := exists_leads v
      (P := fun e ↦ e.Stands 0 ∧ e.passing = true)
      (fun e he k hk ↦ ⟨e, he.1.step_passing he.2
        (ne_newline_of_significant (by rwa [hv]) k hk), he⟩) hstands
    exact ⟨e₃, h₁.append (h₃.cons h₂), hend⟩
  | async hk hbegins ih =>
    obtain ⟨u, v, rfl, hu, hv⟩ := significant_eq_cons hts
    obtain ⟨e₁, h₁, hwaits⟩ := h.leads_trivia hu
    obtain ⟨e₂, h₂, hwaits⟩ := hwaits.step hk
    obtain ⟨e₃, h₃, hend⟩ := ih hwaits hv
    exact ⟨e₃, h₁.append (h₃.cons h₂), hend⟩
  | decorator hkind htext hw hnewline hbegins ih =>
    obtain ⟨u, v, rfl, hu, hv⟩ := significant_eq_cons hts
    obtain ⟨x, y, rfl, hx, hy⟩ := significant_eq_append hv
    obtain ⟨x', z, rfl, hx', hz⟩ := significant_eq_cons hy
    obtain ⟨e₁, h₁, hwaits⟩ := h.leads_trivia hu
    obtain ⟨e₂, h₂, hdecorates⟩ := hwaits.step_sign hkind htext
    obtain ⟨e₃, h₃, hdecorates⟩ := exists_leads (x ++ x') (P := Decorates)
      (fun e he k hk ↦ he.step (ne_newline_of_significant (by
        rw [significant_append, hx, show significant x' = [] from
          List.filter_eq_nil_iff.2 fun j hj ↦ by simp [hx' j hj], List.append_nil]
        exact hw) k hk)) hdecorates
    obtain ⟨e₄, h₄, hwaits⟩ := hdecorates.step_newline hnewline
    obtain ⟨e₅, h₅, hend⟩ := ih hwaits hz
    refine ⟨e₅, h₁.append ?_, hend⟩
    rw [← List.append_assoc]
    exact (h₃.append (h₅.cons h₄)).cons h₂

/-- The tokens of a block are read as long as it is not closed. -/
theorem Stands.leads_block {n m : Nat} {fresh fresh' : Bool} (h : e.Stands (n + 1))
    (hpassing : fresh = true → e.passing = false) (hR : arranged fresh R = some fresh')
    (hwalk : walk blockCost n R = some m) :
    ∃ e', e.Leads R e' ∧ e'.Stands (m + 1) ∧ (fresh' = true → e'.passing = false) := by
  induction R generalizing e n fresh with
  | nil =>
    obtain rfl := Option.some.inj hR
    obtain rfl := Option.some.inj hwalk
    exact ⟨e, leads_nil e, h, hpassing⟩
  | cons k R ih =>
    rw [arranged, List.foldlM_cons, Option.bind_eq_bind] at hR
    obtain ⟨fresh₁, hfresh₁, hR⟩ := Option.bind_eq_some_iff.1 hR
    have hgo {n₁ : Nat} (hstep : ∃ e₁, e.step k = (e₁, false) ∧ e₁.Stands (n₁ + 1)
        ∧ (fresh₁ = true → e₁.passing = false)) (hwalk : walk blockCost n₁ R = some m) :
        ∃ e', e.Leads (k :: R) e' ∧ e'.Stands (m + 1) ∧ (fresh' = true → e'.passing = false) := by
      obtain ⟨e₁, h₁, hstands, hpassing⟩ := hstep
      obtain ⟨e', h', hend⟩ := ih hstands hpassing hR hwalk
      exact ⟨e', h'.cons h₁, hend⟩
    have hflat (hcost : blockCost k.kind = some (0, 0)) : walk blockCost n R = some m := by
      rw [← hwalk]
      exact (walk_cons_of_cost blockCost hcost n R).symm
    cases htrivia : k.isTrivia with
    | true =>
      obtain ⟨e₁, h₁, hstands, hsame, -⟩ := h.step_trivia htrivia
      have hkind := kind_of_isTrivia htrivia
      refine hgo ⟨e₁, h₁, hstands, fun hfresh ↦ hsame.trans (hpassing ?_)⟩ (hflat ?_)
      · rcases hkind with hkind | hkind <;>
          simp only [arrangedBehind, hkind, Option.some.injEq] at hfresh₁ <;>
          exact hfresh₁.trans hfresh
      · rcases hkind with hkind | hkind <;> rw [hkind] <;> rfl
    | false =>
      by_cases hnewline : k.kind = .newline
      · obtain ⟨e₁, h₁, hstands, hp, -⟩ := h.step_newline hnewline
        exact hgo ⟨e₁, h₁, hstands, fun _ ↦ hp⟩ (hflat (by rw [hnewline]; rfl))
      by_cases hindent : k.kind = .indent
      · obtain ⟨rfl, rfl⟩ : fresh = true ∧ fresh₁ = false := by
          simp only [arrangedBehind, hindent, Option.ite_none_right_eq_some,
            Option.some.injEq] at hfresh₁
          exact ⟨hfresh₁.1, hfresh₁.2.symm⟩
        obtain ⟨e₁, h₁, hstands, -⟩ := h.step_indent (hpassing rfl) hindent
        refine hgo ⟨e₁, h₁, hstands, fun hfresh ↦ by cases hfresh⟩ ?_
        rw [← hwalk]
        exact (walk_cons_of_cost blockCost (p := 0) (c := 1) (by rw [hindent]; rfl) n R).symm
      by_cases hdedent : k.kind = .dedent
      · obtain ⟨rfl, rfl⟩ : fresh = true ∧ fresh₁ = true := by
          simp only [arrangedBehind, hdedent, Option.ite_none_right_eq_some,
            Option.some.injEq] at hfresh₁
          exact ⟨hfresh₁.1, hfresh₁.2.symm⟩
        cases n with
        | zero => simp [walk, hdedent, blockCost] at hwalk
        | succ n =>
          obtain ⟨e₁, h₁, hstands, hp, -⟩ := h.step_dedent (hpassing rfl) hdedent
          refine hgo ⟨e₁, h₁, hstands, fun _ ↦ hp⟩ ?_
          rw [← hwalk]
          exact (walk_cons_of_cost blockCost (p := 1) (c := 0) (by rw [hdedent]; rfl) n R).symm
      have hcost : blockCost k.kind = some (0, 0) := by
        cases hkind : k.kind <;> first | rfl | exact absurd hkind ‹_›
      refine hgo ⟨e, h.step_plain hnewline hcost htrivia, h, fun hfresh ↦ ?_⟩ (hflat hcost)
      have hbehind : fresh₁ = false := by
        cases hkind : k.kind <;>
          simp only [arrangedBehind, hkind, Option.some.injEq] at hfresh₁ <;>
          first
            | exact hfresh₁.symm
            | exact absurd hkind ‹_›
            | simp [Token.isTrivia, hkind] at htrivia
      rw [hbehind] at hfresh
      cases hfresh

/-- Comments may belong to a definition, and do not end it. -/
theorem Stands.leads_trivia {n : Nat} (h : e.Stands n) (hR : ∀ k ∈ R, k.isTrivia = true) :
    ∃ e', e.Leads R e' ∧ e'.Stands n ∧ e'.passing = e.passing
      ∧ (e'.last = e.last ∨ ∃ k ∈ R, k.kind = .comment ∧ e'.last = k.line) := by
  refine exists_leads R (P := fun e' ↦ e'.Stands n ∧ e'.passing = e.passing
    ∧ (e'.last = e.last ∨ ∃ k ∈ R, k.kind = .comment ∧ e'.last = k.line)) ?_
    ⟨h, rfl, .inl rfl⟩
  rintro e₁ ⟨hstands, hpassing, hlast⟩ k hk
  obtain ⟨e₂, h₂, hstands, hsame, hnext⟩ := hstands.step_trivia (hR k hk)
  refine ⟨e₂, h₂, hstands, hsame.trans hpassing, ?_⟩
  rcases hnext with hnext | hnext
  · rwa [hnext]
  · exact .inr ⟨k, hk, hnext⟩

/-! ## The end -/

/-- Tokens that close a number of blocks, or begin another statement if there are none. -/
def Closes (n : Nat) (tail : List Token) : Prop :=
  tail = [] ∨ (0 < n ∧ ∃ closing r, tail = closing ++ r ∧ (∀ k ∈ closing, k.kind = .dedent)
      ∧ n ≤ closing.length)
    ∨ (n = 0 ∧ ∃ k r, tail = k :: r ∧ k.kind ∉ [.newline, .indent, .comment, .gap])

/-- **A definition ends where its blocks are closed.** -/
theorem Stands.last_run {n : Nat} {tail : List Token} (h : e.Stands n)
    (hpassing : e.passing = false) (htail : Closes n tail) : (e.run tail).last = e.last := by
  rcases htail with rfl | ⟨hn, closing, r, rfl, hclosing, hlength⟩ | ⟨rfl, k, r, rfl, hk⟩
  · rfl
  · induction closing generalizing e n with
    | nil => exact absurd hn (Nat.not_lt.2 hlength)
    | cons k closing ih =>
      obtain ⟨hk, hclosing⟩ := List.forall_mem_cons.1 hclosing
      obtain ⟨n, rfl⟩ := Nat.exists_eq_add_one.2 hn
      cases n with
      | zero =>
        have hdepth : e.depth - 1 ≤ 0 := by
          rw [h.depth_eq]
          omega
        simp [run, Extent.step, h.started, hpassing, hk, hdepth]
      | succ n =>
        obtain ⟨e₁, h₁, hstands, hp, hlast⟩ := h.step_dedent hpassing hk
        rw [List.cons_append, run, h₁]
        exact (ih hstands hp (Nat.succ_pos n) hclosing (Nat.le_of_succ_le_succ hlength)).trans hlast
  · simp only [List.mem_cons, List.not_mem_nil, or_false, not_or] at hk
    obtain ⟨hnewline, hindent, hcomment, hgap⟩ := hk
    have hdepth : e.depth = 0 := h.depth_eq
    by_cases hdedent : k.kind = .dedent
    · simp [run, Extent.step, h.started, hpassing, hdedent, hdepth]
    · simp [run, Extent.step, h.started, hpassing, hdedent, hdepth, hnewline, hindent, hcomment,
        hgap]

end Extent

/-- The tokens of a definition up to the end of its last line: the words of its first line, and
behind them a block if there is one, with a number of blocks under way. -/
inductive IsDefinition : List Token → Nat → Prop
  | line {ts : List Token} (h : Begins ts) : IsDefinition ts 0
  | block {head v : List Token} {newline opening : Token} {m : Nat} (h : Begins head)
      (hnewline : newline.kind = .newline) (hopening : opening.kind = .indent)
      (hv : walk blockCost 0 v = some m) : IsDefinition (head ++ newline :: opening :: v) (m + 1)

/-- Reading leads through the tokens of a definition. -/
theorem Extent.Waits.leads_definition {e : Extent} {R : List Token} {n : Nat} {fresh : Bool}
    (h : e.Waits) (hR : IsDefinition (significant R) n)
    (harranged : arranged false R = some fresh) : ∃ e', e.Leads R e' ∧ e'.Stands n := by
  generalize hts : significant R = ts at hR
  cases hR with
  | line hbegins =>
    obtain ⟨e', hleads, hstands, -⟩ := h.leads_begins (hts ▸ hbegins)
    exact ⟨e', hleads, hstands⟩
  | block hbegins hnewline hopening hv =>
    obtain ⟨x, y, rfl, rfl, hy⟩ := significant_eq_append hts
    obtain ⟨u, y, rfl, hu, hy⟩ := significant_eq_cons hy
    obtain ⟨u', v, rfl, hu', rfl⟩ := significant_eq_cons hy
    obtain ⟨e₁, h₁, hstands, -⟩ := h.leads_begins hbegins
    obtain ⟨e₂, h₂, hstands, -⟩ := hstands.leads_trivia hu
    obtain ⟨e₃, h₃, hstands, hp, -⟩ := hstands.step_newline hnewline
    obtain ⟨e₄, h₄, hstands, hsame, -⟩ := hstands.leads_trivia hu'
    obtain ⟨e₅, h₅, hstands, -⟩ := hstands.step_indent (hsame.trans hp) hopening
    obtain ⟨fresh₁, hfresh₁, hbehind⟩ : ∃ fresh₁, arrangedBehind fresh₁ _ = some false
        ∧ arranged false v = some fresh := by
      simp only [arranged, List.foldlM_append, List.foldlM_cons, Option.bind_eq_bind,
        Option.bind_eq_some_iff] at harranged
      obtain ⟨-, -, -, -, -, -, fresh₁, -, fresh₂, hfresh₂, hbehind⟩ := harranged
      obtain rfl : fresh₂ = false := by
        simp only [arrangedBehind, hopening, Option.ite_none_right_eq_some,
          Option.some.injEq] at hfresh₂
        exact hfresh₂.2.symm
      exact ⟨fresh₁, hfresh₂, hbehind⟩
    obtain ⟨e₆, h₆, hstands, -⟩ := hstands.leads_block (by rintro ⟨⟩) hbehind
      ((walk_significant 0 v).symm.trans hv)
    exact ⟨e₆, h₁.append (h₂.append ((h₄.append (h₆.cons h₅)).cons h₃)), hstands⟩

/-- **The last line that is found to belong to a definition** is the line of the token that ends it,
or that of a comment behind it. -/
theorem exists_last {marks R trail tail : List Token} {newline : Token} {n : Nat} {fresh : Bool}
    (hmarks : ∀ k ∈ marks, k.kind = .indent) (hR : IsDefinition (significant R) n)
    (harranged : arranged false R = some fresh) (hnewline : newline.kind = .newline)
    (htrail : ∀ k ∈ trail, k.isTrivia = true) (htail : Extent.Closes n tail) :
    ∃ k ∈ newline :: trail, (k = newline ∨ k.kind = .comment)
      ∧ (Extent.run {} (marks ++ (R ++ newline :: (trail ++ tail)))).last = k.line := by
  have hstart : ({} : Extent).Waits := ⟨rfl, rfl, rfl, rfl⟩
  obtain ⟨e₁, h₁, hwaits⟩ := hstart.leads fun k hk ↦
    Extent.not_opens_of_kind (by rw [hmarks k hk]; decide) (by rw [hmarks k hk]; decide)
  obtain ⟨e₂, h₂, hstands⟩ := hwaits.leads_definition hR harranged
  obtain ⟨e₃, h₃, hstands, hp, hlast⟩ := hstands.step_newline hnewline
  obtain ⟨e₄, h₄, hstands, hsame, htrailing⟩ := hstands.leads_trivia htrail
  have hend := hstands.last_run (hsame.trans hp) htail
  rw [h₁, h₂, ← List.cons_append, h₄.cons h₃, hend]
  rcases htrailing with heq | ⟨k, hk, hcomment, heq⟩
  · exact ⟨newline, List.mem_cons_self, .inl rfl, heq.trans hlast⟩
  · exact ⟨k, List.mem_cons_of_mem _ hk, .inr hcomment, heq⟩

end Source
end TexWeave

import Mathlib.Algebra.BigOperators.Group.List.Basic
import TexWeave.Source.Form

/-!
# What a form can read

Reading is a matter of trying: alternatives in turn, repetition as long as it goes.  What a reading
took and made of it can be said without any of that, and most facts about a grammar follow from it
by looking at its forms alone.

* `Yields` — the tokens a form may take and the trees it makes of them.
* `exists_yields_of_read` — every reading is of that kind.
* `Estimate` — a property of the tokens a form takes, worked out from the form; `Estimate.sound`
  says that an estimate which agrees with itself on all rules is right.
* `balance`, `beginning`, `ending`, `nesting` — four estimates: whether strings with fields are
  closed, with which kind of token a form can begin, whether it comes to the end of a line, and how
  it changes the number of open blocks.
* `Keeps`, `tokensOf_of_yields` — trees that hold the tokens they were made from.
-/

set_option autoImplicit false

namespace TexWeave
namespace Source
namespace Form

variable {ρ : Type} {g : ρ → Form ρ}

/-! ## Readings -/

/-- The form can take the tokens given and make the trees given of them. -/
inductive Yields (g : ρ → Form ρ) : Form ρ → List Token → List Tree → Prop
  | kind {k : TokenKind} {t : Token} (h : t.kind = k) : Yields g (.kind k) [t] [.leaf t]
  | word {s : String} {t : Token} (h : t.text = s)
      (hkind : t.kind = .operator ∨ t.kind = .keyword) : Yields g (.word s) [t] [.leaf t]
  | soft {s : String} {t : Token} (h : t.text = s) (hkind : t.kind = .name) :
      Yields g (.soft s) [t] [.leaf t]
  | done : Yields g (.seq []) [] []
  | next {f : Form ρ} {fs : List (Form ρ)} {u v : List Token} {a b : List Tree}
      (h : Yields g f u a) (hrest : Yields g (.seq fs) v b) :
      Yields g (.seq (f :: fs)) (u ++ v) (a ++ b)
  | here {f : Form ρ} {fs : List (Form ρ)} {u : List Token} {a : List Tree} (h : Yields g f u a) :
      Yields g (.alt (f :: fs)) u a
  | later {f : Form ρ} {fs : List (Form ρ)} {u : List Token} {a : List Tree}
      (h : Yields g (.alt fs) u a) : Yields g (.alt (f :: fs)) u a
  | enough {f : Form ρ} : Yields g (.many f) [] []
  | again {f : Form ρ} {u v : List Token} {a b : List Tree} (h : Yields g f u a)
      (hrest : Yields g (.many f) v b) : Yields g (.many f) (u ++ v) (a ++ b)
  | chosen {test yes no : Form ρ} {u v : List Token} {a b : List Tree} (htest : Yields g test u a)
      (h : Yields g yes v b) : Yields g (.choose test yes no) (u ++ v) (a ++ b)
  | otherwise {test yes no : Form ρ} {u : List Token} {a : List Tree} (h : Yields g no u a) :
      Yields g (.choose test yes no) u a
  | ahead {f : Form ρ} : Yields g (.ahead f) [] []
  | absent {f : Form ρ} : Yields g (.unless f) [] []
  | rule {r : ρ} {u : List Token} {a : List Tree} (h : Yields g (g r) u a) : Yields g (.rule r) u a
  | build {k : List Tree → Tree} {f : Form ρ} {u : List Token} {a : List Tree}
      (h : Yields g f u a) : Yields g (.build k f) u [k a]
  | check {p : List Tree → Bool} {f : Form ρ} {u : List Token} {a : List Tree}
      (h : Yields g f u a) : Yields g (.check p f) u a

theorem take_eq_some {p : Token → Bool} {ts r : List Token} {a : List Tree}
    (h : take p ts = some (a, r)) : ∃ t, p t = true ∧ ts = [t] ++ r ∧ a = [.leaf t] := by
  cases ts with
  | nil => cases h
  | cons t ts =>
    rw [take] at h
    split at h
    · next ht =>
      cases h
      exact ⟨t, ht, rfl, rfl⟩
    · cases h

/-- **Reading takes what the form can take**, from the start of the tokens. -/
theorem exists_yields_of_read {fuel : Nat} {f : Form ρ} {ts r : List Token} {a : List Tree}
    (h : read g fuel f ts = some (a, r)) : ∃ u, ts = u ++ r ∧ Yields g f u a := by
  fun_induction read g fuel f ts generalizing a r with
  | case1 => cases h
  | case2 ts fuel k =>
    obtain ⟨t, ht, rfl, rfl⟩ := take_eq_some h
    exact ⟨[t], rfl, .kind (by simpa using ht)⟩
  | case3 ts fuel s =>
    obtain ⟨t, ht, rfl, rfl⟩ := take_eq_some h
    simp only [Bool.and_eq_true, Bool.or_eq_true, beq_iff_eq] at ht
    exact ⟨[t], rfl, .word ht.1 ht.2⟩
  | case4 ts fuel s =>
    obtain ⟨t, ht, rfl, rfl⟩ := take_eq_some h
    simp only [Bool.and_eq_true, beq_iff_eq] at ht
    exact ⟨[t], rfl, .soft ht.1 ht.2⟩
  | case5 ts fuel =>
    cases h
    exact ⟨[], rfl, .done⟩
  | case6 => cases h
  | case7 => cases h
  | case8 ts fuel f fs a₁ r₁ hf a₂ r₂ hfs ihf ihfs =>
    cases h
    obtain ⟨u, rfl, hu⟩ := ihf hf
    obtain ⟨v, rfl, hv⟩ := ihfs hfs
    exact ⟨u ++ v, (List.append_assoc ..).symm, .next hu hv⟩
  | case9 => cases h
  | case10 ts fuel f fs x hf ihf =>
    cases h
    obtain ⟨u, rfl, hu⟩ := ihf hf
    exact ⟨u, rfl, .here hu⟩
  | case11 ts fuel f fs hf ihf ihfs =>
    obtain ⟨u, rfl, hu⟩ := ihfs h
    exact ⟨u, rfl, .later hu⟩
  | case12 ts fuel f hf =>
    cases h
    exact ⟨[], rfl, .enough⟩
  | case13 ts fuel f a₁ r₁ hf hmany ihf =>
    cases h
    obtain ⟨u, rfl, hu⟩ := ihf hf
    exact ⟨u, rfl, by simpa using Yields.again hu .enough⟩
  | case14 ts fuel f a₁ r₁ hf a₂ r₂ hmany ihf ihmany =>
    cases h
    obtain ⟨u, rfl, hu⟩ := ihf hf
    obtain ⟨v, rfl, hv⟩ := ihmany hmany
    exact ⟨u ++ v, (List.append_assoc ..).symm, .again hu hv⟩
  | case15 ts fuel test yes no htest iht ihno =>
    obtain ⟨u, rfl, hu⟩ := ihno h
    exact ⟨u, rfl, .otherwise hu⟩
  | case16 => cases h
  | case17 ts fuel test yes no a₁ r₁ htest a₂ r₂ hyes iht ihyes =>
    cases h
    obtain ⟨u, rfl, hu⟩ := iht htest
    obtain ⟨v, rfl, hv⟩ := ihyes hyes
    exact ⟨u ++ v, (List.append_assoc ..).symm, .chosen hu hv⟩
  | case18 ts fuel f ih =>
    obtain ⟨x, hx, hxa⟩ := Option.map_eq_some_iff.1 h
    cases hxa
    exact ⟨[], rfl, .ahead⟩
  | case19 ts fuel f hf =>
    cases h
    exact ⟨[], rfl, .absent⟩
  | case20 => cases h
  | case21 ts fuel r ih =>
    obtain ⟨u, rfl, hu⟩ := ih h
    exact ⟨u, rfl, .rule hu⟩
  | case22 ts fuel k f ih =>
    obtain ⟨⟨b, s⟩, hb, hba⟩ := Option.map_eq_some_iff.1 h
    cases hba
    obtain ⟨u, rfl, hu⟩ := ih hb
    exact ⟨u, rfl, .build hu⟩
  | case23 ts fuel p f ih =>
    obtain ⟨hb, -⟩ := Option.filter_eq_some_iff.1 h
    obtain ⟨u, rfl, hu⟩ := ih hb
    exact ⟨u, rfl, .check hu⟩

/-! ### Readings taken apart -/

section

variable {f : Form ρ} {u : List Token} {a : List Tree}

theorem Yields.token_of_kind {k : TokenKind} (h : Yields g (.kind k) u a) :
    ∃ t, t.kind = k ∧ u = [t] ∧ a = [.leaf t] := by
  cases h with
  | @kind _ t h => exact ⟨t, h, rfl, rfl⟩

theorem Yields.token_of_word {s : String} (h : Yields g (.word s) u a) :
    ∃ t, t.text = s ∧ (t.kind = .operator ∨ t.kind = .keyword) ∧ u = [t] ∧ a = [.leaf t] := by
  cases h with
  | @word _ t h hkind => exact ⟨t, h, hkind, rfl, rfl⟩

theorem Yields.eq_nil_of_done (h : Yields g (.seq []) u a) : u = [] ∧ a = [] := by
  cases h with
  | done => exact ⟨rfl, rfl⟩

theorem Yields.parts {fs : List (Form ρ)} (h : Yields g (.seq (f :: fs)) u a) :
    ∃ v w b c, u = v ++ w ∧ a = b ++ c ∧ Yields g f v b ∧ Yields g (.seq fs) w c := by
  cases h with
  | @next _ _ v w b c h hrest => exact ⟨v, w, b, c, rfl, rfl, h, hrest⟩

theorem Yields.branch {test yes no : Form ρ} (h : Yields g (.choose test yes no) u a) :
    (∃ v w b c, u = v ++ w ∧ a = b ++ c ∧ Yields g test v b ∧ Yields g yes w c)
      ∨ Yields g no u a := by
  cases h with
  | @chosen _ _ _ v w b c htest h => exact .inl ⟨v, w, b, c, rfl, rfl, htest, h⟩
  | otherwise h => exact .inr h

/-- A look ahead takes nothing. -/
theorem Yields.branch_ahead {test yes no : Form ρ}
    (h : Yields g (.choose (.ahead test) yes no) u a) : Yields g yes u a ∨ Yields g no u a := by
  rcases h.branch with ⟨v, w, b, c, rfl, rfl, htest, hyes⟩ | hno
  · cases htest with
    | ahead => exact .inl hyes
  · exact .inr hno

theorem Yields.of_rule {r : ρ} (h : Yields g (.rule r) u a) : Yields g (g r) u a := by
  cases h with
  | rule h => exact h

theorem Yields.of_node {k : NodeKind} (h : Yields g (node k f) u a) :
    ∃ cs, a = [.node k cs] ∧ Yields g f u cs := by
  cases h with
  | @build _ _ _ cs h => exact ⟨cs, rfl, h⟩

/-- A tree of a repetition comes from one turn, with whole turns in front of it. -/
theorem Yields.exists_turn {c : Tree} (h : Yields g (.many f) u a) (hc : c ∈ a) :
    ∃ u₁ v u₂ a₁ b, u = u₁ ++ v ++ u₂ ∧ Yields g (.many f) u₁ a₁ ∧ Yields g f v b ∧ c ∈ b := by
  generalize hm : Form.many f = m at h
  induction h with cases hm
  | enough => exact absurd hc List.not_mem_nil
  | @again _ v w b d h hrest ih ihrest =>
    rcases List.mem_append.1 hc with hc | hc
    · exact ⟨[], v, w, [], b, rfl, .enough, h, hc⟩
    · obtain ⟨u₁, v', u₂, a₁, b', rfl, hbefore, hturn, hc'⟩ := ihrest hc rfl
      exact ⟨v ++ u₁, v', u₂, b ++ a₁, b', by simp only [List.append_assoc],
        .again h hbefore, hturn, hc'⟩

end

/-! ## Estimates -/

/-- A property of lists of tokens that can be followed through the forms that take them.  `of` is
the value for a token of the kind given, `nothing` the one for no token, and the others are for
forms one after the other, for a choice between two, and for repetition. -/
structure Estimate (α : Type) where
  /-- What a value says of the tokens. -/
  Holds : α → List Token → Prop
  of : TokenKind → α
  nothing : α
  both : α → α → α
  either : α → α → α
  many : α → α
  holds_of (t : Token) : Holds (of t.kind) [t]
  holds_nothing : Holds nothing []
  holds_both {a b : α} {u v : List Token} : Holds a u → Holds b v → Holds (both a b) (u ++ v)
  holds_left {a b : α} {u : List Token} : Holds a u → Holds (either a b) u
  holds_right {a b : α} {u : List Token} : Holds b u → Holds (either a b) u
  holds_none {a : α} : Holds (many a) []
  holds_more {a : α} {u v : List Token} : Holds a u → Holds (many a) v → Holds (many a) (u ++ v)

namespace Estimate

variable {α : Type} (E : Estimate α) (assumed : ρ → α)

mutual

/-- The estimate of a form, with what is assumed of the rules. -/
def form : Form ρ → α
  | .kind k => E.of k
  | .word _ => E.either (E.of .operator) (E.of .keyword)
  | .soft _ => E.of .name
  | .seq fs => forms fs
  | .alt fs => choices fs
  | .many f => E.many (form f)
  | .choose test yes no => E.either (E.both (form test) (form yes)) (form no)
  | .ahead _ => E.nothing
  | .unless _ => E.nothing
  | .rule r => assumed r
  | .build _ f => form f
  | .check _ f => form f

/-- The estimate of forms one after the other. -/
def forms : List (Form ρ) → α
  | [] => E.nothing
  | f :: fs => E.both (form f) (forms fs)

/-- The estimate of a choice. -/
def choices : List (Form ρ) → α
  | [] => E.nothing
  | [f] => form f
  | f :: f' :: fs => E.either (form f) (choices (f' :: fs))

end

/-- **Estimates are right**: if the estimate of each rule's form is what is assumed of the rule,
then what a form takes is as estimated. -/
theorem sound (hassumed : ∀ r, E.form assumed (g r) = assumed r) {f : Form ρ} {u : List Token}
    {a : List Tree} (h : Yields g f u a) : E.Holds (E.form assumed f) u := by
  induction h with
  | kind h =>
    rw [form, ← h]
    exact E.holds_of _
  | word h hkind =>
    rw [form]
    rcases hkind with hkind | hkind
    · rw [← hkind]
      exact E.holds_left (E.holds_of _)
    · rw [← hkind]
      exact E.holds_right (E.holds_of _)
  | soft h hkind =>
    rw [form, ← hkind]
    exact E.holds_of _
  | done => exact E.holds_nothing
  | next h hrest ih ihrest => exact E.holds_both ih ihrest
  | @here f fs u a h ih =>
    cases fs with
    | nil => exact ih
    | cons f' fs => exact E.holds_left ih
  | @later f fs u a h ih =>
    cases fs with
    | nil => cases h
    | cons f' fs => exact E.holds_right ih
  | enough => exact E.holds_none
  | again h hrest ih ihrest => exact E.holds_more ih ihrest
  | chosen htest h ihtest ih => exact E.holds_left (E.holds_both ihtest ih)
  | otherwise h ih => exact E.holds_right ih
  | ahead => exact E.holds_nothing
  | absent => exact E.holds_nothing
  | @rule r u a h ih =>
    rw [form, ← hassumed]
    exact ih
  | build h ih => exact ih
  | check h ih => exact ih

end Estimate

/-! ### Whether strings with fields are closed -/

/-- How a token changes the number of strings with fields under way. -/
def weight (t : Token) : Int :=
  match t.kind with
  | .fieldsOpen => 1
  | .fieldsClose => -1
  | _ => 0

/-- How many more strings with fields are opened than closed. -/
def excess : List Token → Int
  | [] => 0
  | t :: ts => weight t + excess ts

@[simp] theorem excess_nil : excess [] = 0 := rfl

@[simp] theorem excess_cons (t : Token) (ts : List Token) :
    excess (t :: ts) = weight t + excess ts := rfl

@[simp] theorem excess_append (ts ts' : List Token) :
    excess (ts ++ ts') = excess ts + excess ts' := by
  induction ts with
  | nil => rw [List.nil_append, excess_nil, Int.zero_add]
  | cons t ts ih => rw [List.cons_append, excess_cons, excess_cons, ih, Int.add_assoc]

/-- The excess, if it is known. -/
def balance : Estimate (Option Int) where
  Holds a u := ∀ n, a = some n → excess u = n
  of k := match k with
    | .fieldsOpen => some 1
    | .fieldsClose => some (-1)
    | _ => some 0
  nothing := some 0
  both a b := match a, b with
    | some m, some n => some (m + n)
    | _, _ => none
  either a b := if a = b then a else none
  many a := if a = some 0 then some 0 else none
  holds_of t n h := by
    rw [excess_cons, excess_nil, weight, add_zero]
    split at h <;> simp_all
  holds_nothing n h := by
    cases h
    rfl
  holds_both {a b u v} ha hb n h := by
    split at h
    · next m n' =>
      cases h
      rw [excess_append, ha m rfl, hb n' rfl]
    · cases h
  holds_left {a b u} ha n h := by
    split at h
    · exact ha n h
    · cases h
  holds_right {a b u} hb n h := by
    split at h
    · next hab => exact hb n (hab ▸ h)
    · cases h
  holds_none {a} n h := by
    split at h <;> cases h
    rfl
  holds_more {a u v} ha hv n h := by
    have hn := hv n h
    split at h
    · next h0 =>
      rw [excess_append, ha 0 h0, hn, zero_add]
    · cases h

/-! ### With which token a form can begin -/

/-- Whether a form can take nothing, and whether it can begin with a token of the kind given. -/
def beginning (k : TokenKind) : Estimate (Bool × Bool) where
  Holds a u := (u = [] → a.1 = true) ∧ ∀ t v, u = t :: v → t.kind = k → a.2 = true
  of j := (false, j == k)
  nothing := (true, false)
  both a b := (a.1 && b.1, a.2 || (a.1 && b.2))
  either a b := (a.1 || b.1, a.2 || b.2)
  many a := (true, a.2)
  holds_of t := by simp
  holds_nothing := by simp
  holds_both {a b u v} ha hb := by
    cases u with
    | nil =>
      refine ⟨fun hv ↦ by rw [ha.1 rfl, hb.1 hv, Bool.and_self], fun t w hv ht ↦ ?_⟩
      rw [ha.1 rfl, hb.2 t w hv ht, Bool.and_self, Bool.or_true]
    | cons s w =>
      refine ⟨fun hv ↦ (List.cons_ne_nil _ _ hv).elim, fun t x hx ht ↦ ?_⟩
      rw [ha.2 s w rfl ((List.cons.inj hx).1 ▸ ht), Bool.true_or]
  holds_left {a b u} ha :=
    ⟨fun hu ↦ by rw [ha.1 hu, Bool.true_or], fun t v hu ht ↦ by rw [ha.2 t v hu ht, Bool.true_or]⟩
  holds_right {a b u} hb :=
    ⟨fun hu ↦ by rw [hb.1 hu, Bool.or_true], fun t v hu ht ↦ by rw [hb.2 t v hu ht, Bool.or_true]⟩
  holds_none {a} := ⟨fun _ ↦ rfl, fun t v h ↦ (List.cons_ne_nil _ _ h.symm).elim⟩
  holds_more {a u v} ha hv := by
    refine ⟨fun _ ↦ rfl, fun t w hw ht ↦ ?_⟩
    cases u with
    | nil => exact hv.2 t w hw ht
    | cons s x => exact ha.2 s x rfl ((List.cons.inj hw).1 ▸ ht)

/-! ### Whether a form comes to the end of a line -/

/-- The last token that does not close a block ends a line. -/
def EndsLine (u : List Token) : Prop :=
  ∃ v t w, u = v ++ t :: w ∧ t.kind = .newline ∧ ∀ k ∈ w, k.kind = .dedent

theorem EndsLine.append {v : List Token} (h : EndsLine v) (u : List Token) : EndsLine (u ++ v) := by
  obtain ⟨w, t, ds, rfl, ht, hds⟩ := h
  exact ⟨u ++ w, t, ds, (List.append_assoc ..).symm, ht, hds⟩

theorem EndsLine.close {v ds : List Token} (h : EndsLine v) (hds : ∀ k ∈ ds, k.kind = .dedent) :
    EndsLine (v ++ ds) := by
  obtain ⟨w, t, ds', rfl, ht, hds'⟩ := h
  exact ⟨w, t, ds' ++ ds, by rw [List.append_assoc, List.cons_append], ht,
    List.forall_mem_append.2 ⟨hds', hds⟩⟩

/-- Whether a form comes to the end of a line unless it only closes blocks, and whether it does so
in any case. -/
def ending : Estimate (Bool × Bool) where
  Holds a u := (a.1 = true → (∀ k ∈ u, k.kind = .dedent) ∨ EndsLine u) ∧ (a.2 = true → EndsLine u)
  of k := (k == .newline || k == .dedent, k == .newline)
  nothing := (true, false)
  both a b := (b.2 || (a.1 && b.1), b.2 || (a.2 && b.1))
  either a b := (a.1 && b.1, a.2 && b.2)
  many a := (a.1, false)
  holds_of t := by
    have hends (h : t.kind = .newline) : EndsLine [t] := ⟨[], t, [], rfl, h, List.forall_mem_nil _⟩
    refine ⟨fun h ↦ ?_, fun h ↦ hends (by simpa using h)⟩
    rcases Bool.or_eq_true_iff.1 h with h | h
    · exact .inr (hends (by simpa using h))
    · exact .inl (List.forall_mem_singleton.2 (by simpa using h))
  holds_nothing := ⟨fun _ ↦ .inl (List.forall_mem_nil _), fun h ↦ (Bool.false_ne_true h).elim⟩
  holds_both {a b u v} ha hb := by
    simp only [Bool.or_eq_true, Bool.and_eq_true]
    refine ⟨?_, ?_⟩
    · rintro (h | ⟨h, h'⟩)
      · exact .inr ((hb.2 h).append u)
      · rcases hb.1 h' with hv | hv
        · rcases ha.1 h with hu | hu
          · exact .inl (List.forall_mem_append.2 ⟨hu, hv⟩)
          · exact .inr (hu.close hv)
        · exact .inr (hv.append u)
    · rintro (h | ⟨h, h'⟩)
      · exact (hb.2 h).append u
      · rcases hb.1 h' with hv | hv
        · exact (ha.2 h).close hv
        · exact hv.append u
  holds_left {a b u} ha := by
    simp only [Bool.and_eq_true]
    exact ⟨fun h ↦ ha.1 h.1, fun h ↦ ha.2 h.1⟩
  holds_right {a b u} hb := by
    simp only [Bool.and_eq_true]
    exact ⟨fun h ↦ hb.1 h.2, fun h ↦ hb.2 h.2⟩
  holds_none {a} := ⟨fun _ ↦ .inl (List.forall_mem_nil _), fun h ↦ (Bool.false_ne_true h).elim⟩
  holds_more {a u v} ha hv := by
    refine ⟨fun h ↦ ?_, fun h ↦ (Bool.false_ne_true h).elim⟩
    rcases hv.1 h with hv | hv
    · rcases ha.1 h with hu | hu
      · exact .inl (List.forall_mem_append.2 ⟨hu, hv⟩)
      · exact .inr (hu.close hv)
    · exact .inr (hv.append u)

/-! ### How many blocks are open -/

section

variable (cost : TokenKind → Option (Nat × Nat))

/-- How many blocks are open behind tokens if `n` are open in front of them.  The cost of a token is
how many it closes and how many it opens; a token without cost is not passed, and no more blocks are
closed than are open. -/
def walk : Nat → List Token → Option Nat
  | n, [] => some n
  | n, t :: ts =>
    match cost t.kind with
    | some (p, c) => if p ≤ n then walk (n - p + c) ts else none
    | none => none

theorem walk_cons_of_cost {t : Token} {p c : Nat} (h : cost t.kind = some (p, c)) (n : Nat)
    (ts : List Token) : walk cost (n + p) (t :: ts) = walk cost (n + c) ts := by
  rw [walk, h]
  dsimp only
  rw [if_pos (Nat.le_add_left p n), Nat.add_sub_cancel]

theorem walk_append (n : Nat) (ts ts' : List Token) :
    walk cost n (ts ++ ts') = (walk cost n ts).bind fun m ↦ walk cost m ts' := by
  induction ts generalizing n with
  | nil => rfl
  | cons t ts ih =>
    rw [List.cons_append, walk, walk]
    cases cost t.kind with
    | none => rfl
    | some x =>
      dsimp only
      split
      · exact ih _
      · rfl

theorem walk_of_flat {ts : List Token} (h : ∀ t ∈ ts, cost t.kind = some (0, 0)) (n : Nat) :
    walk cost n ts = some n := by
  induction ts with
  | nil => rfl
  | cons t ts ih =>
    obtain ⟨ht, hts⟩ := List.forall_mem_cons.1 h
    exact (walk_cons_of_cost cost ht n ts).trans (ih hts)

/-- How a form changes the number of open blocks, if that is known: how many it closes and how many
it opens. -/
def nesting : Estimate (Option (Nat × Nat)) where
  Holds a u := ∀ p c, a = some (p, c) → ∀ n, walk cost (n + p) u = some (n + c)
  of k := cost k
  nothing := some (0, 0)
  both a b := match a, b with
    | some (p, c), some (p', c') =>
      if p' ≤ c then some (p, c - p' + c') else some (p + (p' - c), c')
    | _, _ => none
  either a b := if a = b then a else none
  many a := if a = some (0, 0) then a else none
  holds_of t p c h n := by
    rw [walk_cons_of_cost cost h]
    rfl
  holds_nothing p c h n := by
    cases h
    rfl
  holds_both {a b u v} ha hb p c h n := by
    split at h
    · next p₁ c₁ p₂ c₂ =>
      have hu := ha p₁ c₁ rfl
      have hv := hb p₂ c₂ rfl
      split at h <;> cases h
      · next hle =>
        rw [walk_append, hu, Option.bind_some, show n + c₁ = n + (c₁ - p₂) + p₂ by omega, hv,
          Nat.add_assoc]
      · next hlt =>
        rw [walk_append, show n + (p₁ + (p₂ - c₁)) = n + (p₂ - c₁) + p₁ by omega, hu,
          Option.bind_some, show n + (p₂ - c₁) + c₁ = n + p₂ by omega, hv]
    · cases h
  holds_left {a b u} ha p c h n := by
    split at h
    · exact ha p c h n
    · cases h
  holds_right {a b u} hb p c h n := by
    split at h
    · next hab => exact hb p c (hab ▸ h) n
    · cases h
  holds_none {a} p c h n := by
    split at h
    · next ha =>
      rw [ha] at h
      cases h
      rfl
    · cases h
  holds_more {a u v} ha hv p c h n := by
    have hv := hv p c h n
    split at h
    · next hzero =>
      rw [hzero] at h
      cases h
      rw [walk_append, ha 0 0 hzero, Option.bind_some]
      exact hv
    · cases h

end

/-- What a token costs as far as blocks go. -/
def blockCost : TokenKind → Option (Nat × Nat)
  | .indent => some (0, 1)
  | .dedent => some (1, 0)
  | _ => some (0, 0)

/-! ## Trees that keep their tokens -/

theorem tokens_node (k : NodeKind) (cs : List Tree) :
    (Tree.node k cs).tokens = Tree.tokensOf cs := by
  rw [Tree.tokens]

theorem tokensOf_append (a b : List Tree) :
    Tree.tokensOf (a ++ b) = Tree.tokensOf a ++ Tree.tokensOf b := by
  induction a with
  | nil => rfl
  | cons c a ih => rw [List.cons_append, Tree.tokensOf, Tree.tokensOf, ih, List.append_assoc]

theorem tokensOf_singleton (t : Tree) : Tree.tokensOf [t] = t.tokens := by
  rw [Tree.tokensOf, Tree.tokensOf, List.append_nil]

mutual

/-- Wherever the form puts trees together, the new tree has the tokens they had. -/
def Keeps : Form ρ → Prop
  | .kind _ => True
  | .word _ => True
  | .soft _ => True
  | .seq fs => AllKeep fs
  | .alt fs => AllKeep fs
  | .many f => Keeps f
  | .choose test yes no => Keeps test ∧ Keeps yes ∧ Keeps no
  | .ahead _ => True
  | .unless _ => True
  | .rule _ => True
  | .build k f => (∀ cs, (k cs).tokens = Tree.tokensOf cs) ∧ Keeps f
  | .check _ f => Keeps f

/-- The same for each of several forms. -/
def AllKeep : List (Form ρ) → Prop
  | [] => True
  | f :: fs => Keeps f ∧ AllKeep fs

end

/-- **The trees of a reading have the tokens it took.** -/
theorem tokensOf_of_yields (hg : ∀ r, Keeps (g r)) {f : Form ρ} {u : List Token} {a : List Tree}
    (h : Yields g f u a) (hf : Keeps f) : Tree.tokensOf a = u := by
  induction h with
  | @kind k t h => exact tokensOf_singleton (.leaf t)
  | @word s t h hkind => exact tokensOf_singleton (.leaf t)
  | @soft s t h hkind => exact tokensOf_singleton (.leaf t)
  | done => rfl
  | next h hrest ih ihrest => rw [tokensOf_append, ih hf.1, ihrest hf.2]
  | here h ih => exact ih hf.1
  | later h ih => exact ih hf.2
  | enough => rfl
  | again h hrest ih ihrest => rw [tokensOf_append, ih hf, ihrest hf]
  | chosen htest h ihtest ih => rw [tokensOf_append, ihtest hf.1, ih hf.2.1]
  | otherwise h ih => exact ih hf.2.2
  | ahead => rfl
  | absent => rfl
  | @rule r u a h ih => exact ih (hg r)
  | build h ih => rw [tokensOf_singleton, hf.1, ih hf.2]
  | check h ih => exact ih hf

end Form
end Source
end TexWeave

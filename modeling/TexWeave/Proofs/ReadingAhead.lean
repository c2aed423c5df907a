import TexWeave.Proofs.Statements
import TexWeave.Proofs.Unplaced

/-!
# How far ahead a reading looks

A form looks at tokens it does not take: at the one behind a repetition, at the first of an
alternative that fails, at what a test asks for.  It never looks past a token that it cannot take
and that nothing it tries can take either.  For expressions that is the end of the line, and for the
statements of a block it is the end of the block.

* `looksWithin` — whether the tests of a form keep to what is open.
* `Parses.unseen` — what lies behind a token that cannot be taken makes no difference.
* `isClosed_of_mem_definitionForms` — a definition does not look at what follows it.
-/

set_option autoImplicit false

namespace TexWeave
namespace Source
namespace Form

/-! ## Tests -/

section

variable (cost : TokenKind → Option (Nat × Nat))

variable {ρ : Type} (assumed : ρ → Option (Nat × Nat))

mutual

/-- Whether tests close no blocks that were open before them, wherever the form makes some. -/
def looksWithin : Form ρ → Bool
  | .kind _ => true
  | .word _ => true
  | .soft _ => true
  | .seq fs => allLookWithin fs
  | .alt fs => allLookWithin fs
  | .many f => looksWithin f
  | .choose test yes no => looksWithin test && looksWithin yes && looksWithin no
  | .ahead f => ((nesting cost).form assumed f).map Prod.fst == some 0 && looksWithin f
  | .unless f => ((nesting cost).form assumed f).map Prod.fst == some 0 && looksWithin f
  | .rule _ => true
  | .build _ f => looksWithin f
  | .check _ f => looksWithin f

/-- The same for several forms. -/
def allLookWithin : List (Form ρ) → Bool
  | [] => true
  | f :: fs => looksWithin f && allLookWithin fs

end

end

/-! ## What makes no difference -/

section

variable {cost : TokenKind → Option (Nat × Nat)} {k : Token} {X Y : List Token}

/-- Two readings that differ only in what lies behind a token, `n` blocks being open in front of
what they leave of it. -/
inductive SameBefore (cost : TokenKind → Option (Nat × Nat)) (k : Token) (X Y : List Token)
    (n : Nat) : Reading → Reading → Prop
  | unfit : SameBefore cost k X Y n none none
  | fit {a : List Tree} {q : List Token} (hq : walk cost n q = some 0) :
      SameBefore cost k X Y n (some (a, q ++ k :: X)) (some (a, q ++ k :: Y))

theorem take_before (hk : ∀ c, cost k.kind ≠ some (0, c)) {accepts : Token → Bool} {n p c : Nat}
    (hcost : ∀ t, accepts t = true → cost t.kind = some (p, c)) {q : List Token}
    (hq : walk cost (n + p) q = some 0) :
    SameBefore cost k X Y (n + c) (take accepts (q ++ k :: X)) (take accepts (q ++ k :: Y)) := by
  cases q with
  | nil =>
    have hp : p = 0 := Nat.eq_zero_of_add_eq_zero_left (Option.some.inj hq)
    have hrefused : accepts k = false := by
      rw [Bool.eq_false_iff]
      exact fun h ↦ hk c (hp ▸ hcost k h)
    rw [List.nil_append, List.nil_append, take, take, hrefused]
    exact .unfit
  | cons t q =>
    rw [List.cons_append, List.cons_append, take, take]
    split
    · next ht => exact .fit (walk_cons_of_cost cost (hcost t ht) n q ▸ hq)
    · exact .unfit

variable {ρ : Type} {g : ρ → Form ρ} {assumed : ρ → Option (Nat × Nat)}

theorem both_eq_some {a b : Option (Nat × Nat)} {p c : Nat}
    (h : (nesting cost).both a b = some (p, c)) : ∃ p₁ c₁ p₂ c₂, a = some (p₁, c₁)
      ∧ b = some (p₂, c₂) ∧ ∀ n, ∃ m, n + p = m + p₁ ∧ ∃ l, m + c₁ = l + p₂ ∧ l + c₂ = n + c := by
  cases a with
  | none => cases h
  | some x =>
    cases b with
    | none => cases h
    | some y =>
      obtain ⟨p₁, c₁⟩ := x
      obtain ⟨p₂, c₂⟩ := y
      refine ⟨p₁, c₁, p₂, c₂, rfl, rfl, fun n ↦ ?_⟩
      change (if p₂ ≤ c₁ then some (p₁, c₁ - p₂ + c₂) else some (p₁ + (p₂ - c₁), c₂))
        = some (p, c) at h
      split at h <;> cases h
      · exact ⟨n, rfl, n + (c₁ - p₂), by omega, by omega⟩
      · exact ⟨n + (p₂ - c₁), by omega, n, by omega, rfl⟩

theorem either_eq_some {a b : Option (Nat × Nat)} {x : Nat × Nat}
    (h : (nesting cost).either a b = some x) : a = some x ∧ b = some x := by
  change (if a = b then a else none) = some x at h
  split at h
  · next hab => exact ⟨h, hab ▸ h⟩
  · cases h

theorem many_eq_some {a : Option (Nat × Nat)} {p c : Nat}
    (h : (nesting cost).many a = some (p, c)) : a = some (0, 0) ∧ p = 0 ∧ c = 0 := by
  change (if a = some (0, 0) then a else none) = some (p, c) at h
  split at h
  · next ha =>
    rw [ha] at h
    cases h
    exact ⟨ha, rfl, rfl⟩
  · cases h

variable (hk : ∀ c, cost k.kind ≠ some (0, c))
  (hassumed : ∀ r, (nesting cost).form assumed (g r) = assumed r)
  (hlooks : ∀ r, assumed r ≠ none → looksWithin cost assumed (g r) = true)

include hk hassumed hlooks

/-- **What lies behind a token that cannot be taken makes no difference.** -/
theorem Parses.unseen {f : Form ρ} {ts : List Token} {o : Reading} (h : Parses g f ts o)
    {q : List Token} {n p c : Nat} (hts : ts = q ++ k :: X)
    (hq : walk cost (n + p) q = some 0) (hf : (nesting cost).form assumed f = some (p, c))
    (hl : looksWithin cost assumed f = true) :
    ∃ o', Parses g f (q ++ k :: Y) o' ∧ SameBefore cost k X Y (n + c) o o' := by
  induction h generalizing q n p c with
  | @kind j ts =>
    subst hts
    exact ⟨_, .kind, take_before hk (fun t ht ↦ by rw [beq_iff_eq.1 ht]; exact hf) hq⟩
  | @word s ts =>
    subst hts
    obtain ⟨hoperator, hkeyword⟩ := either_eq_some hf
    refine ⟨_, .word, take_before hk (fun t ht ↦ ?_) hq⟩
    simp only [Bool.and_eq_true, Bool.or_eq_true, beq_iff_eq] at ht
    rcases ht.2 with hkind | hkind
    · rw [hkind]
      exact hoperator
    · rw [hkind]
      exact hkeyword
  | @soft s ts =>
    subst hts
    refine ⟨_, .soft, take_before hk (fun t ht ↦ ?_) hq⟩
    simp only [Bool.and_eq_true, beq_iff_eq] at ht
    rw [ht.2]
    exact hf
  | done =>
    subst hts
    cases hf
    exact ⟨_, .done, .fit hq⟩
  | @unfit f fs ts h ih =>
    obtain ⟨p₁, c₁, p₂, c₂, hfirst, -, hwalk⟩ := both_eq_some hf
    obtain ⟨m, hm, -⟩ := hwalk n
    rw [looksWithin, allLookWithin, Bool.and_eq_true] at hl
    obtain ⟨o', h', hsame⟩ := ih hts (hm ▸ hq) hfirst hl.1
    cases hsame
    exact ⟨_, .unfit h', .unfit⟩
  | @stuck f fs ts r a h hrest ih ihrest =>
    obtain ⟨p₁, c₁, p₂, c₂, hfirst, hothers, hwalk⟩ := both_eq_some hf
    obtain ⟨m, hm, l, hl', -⟩ := hwalk n
    rw [looksWithin, allLookWithin, Bool.and_eq_true] at hl
    obtain ⟨o', h', hsame⟩ := ih hts (hm ▸ hq) hfirst hl.1
    cases hsame with
    | fit hq' =>
      obtain ⟨o'', h'', hsame⟩ := ihrest rfl (hl' ▸ hq') hothers hl.2
      cases hsame
      exact ⟨_, .stuck h' h'', .unfit⟩
  | @next f fs ts r r' a b h hrest ih ihrest =>
    obtain ⟨p₁, c₁, p₂, c₂, hfirst, hothers, hwalk⟩ := both_eq_some hf
    obtain ⟨m, hm, l, hl', hend⟩ := hwalk n
    rw [looksWithin, allLookWithin, Bool.and_eq_true] at hl
    obtain ⟨o', h', hsame⟩ := ih hts (hm ▸ hq) hfirst hl.1
    cases hsame with
    | fit hq' =>
      obtain ⟨o'', h'', hsame⟩ := ihrest rfl (hl' ▸ hq') hothers hl.2
      cases hsame with
      | fit hq'' => exact ⟨_, .next h' h'', .fit (hend ▸ hq'')⟩
  | exhausted => exact ⟨_, .exhausted, .unfit⟩
  | @here f fs ts x h ih =>
    have hfirst : (nesting cost).form assumed f = some (p, c) := by
      cases fs with
      | nil => exact hf
      | cons f' fs => exact (either_eq_some hf).1
    rw [looksWithin, allLookWithin, Bool.and_eq_true] at hl
    obtain ⟨o', h', hsame⟩ := ih hts hq hfirst hl.1
    cases hsame with
    | fit hq' => exact ⟨_, .here h', .fit hq'⟩
  | @later f fs ts o h hrest ih ihrest =>
    rw [looksWithin, allLookWithin, Bool.and_eq_true] at hl
    cases fs with
    | nil =>
      obtain ⟨o', h', hsame⟩ := ih hts hq hf hl.1
      cases hsame
      cases hrest
      exact ⟨_, .later h' .exhausted, .unfit⟩
    | cons f' fs =>
      obtain ⟨hfirst, hothers⟩ := either_eq_some hf
      obtain ⟨o', h', hsame⟩ := ih hts hq hfirst hl.1
      cases hsame
      obtain ⟨o'', h'', hsame⟩ := ihrest hts hq hothers hl.2
      exact ⟨_, .later h' h'', hsame⟩
  | @enough f ts h ih =>
    obtain ⟨hturn, rfl, rfl⟩ := many_eq_some hf
    obtain ⟨o', h', hsame⟩ := ih hts hq hturn hl
    cases hsame
    subst hts
    exact ⟨_, .enough h', .fit hq⟩
  | @again f ts r r' a b h hrest ih ihrest =>
    obtain ⟨hturn, rfl, rfl⟩ := many_eq_some hf
    obtain ⟨o', h', hsame⟩ := ih hts hq hturn hl
    cases hsame with
    | fit hq' =>
      obtain ⟨o'', h'', hsame⟩ := ihrest rfl hq' hf hl
      cases hsame with
      | fit hq'' => exact ⟨_, .again h' h'', .fit hq''⟩
  | @broken test yes no ts r a htest h ihtest ih =>
    obtain ⟨hboth, -⟩ := either_eq_some hf
    obtain ⟨p₁, c₁, p₂, c₂, hfirst, hsecond, hwalk⟩ := both_eq_some hboth
    obtain ⟨m, hm, l, hl', -⟩ := hwalk n
    simp only [looksWithin, Bool.and_eq_true] at hl
    obtain ⟨o', h', hsame⟩ := ihtest hts (hm ▸ hq) hfirst hl.1.1
    cases hsame with
    | fit hq' =>
      obtain ⟨o'', h'', hsame⟩ := ih rfl (hl' ▸ hq') hsecond hl.1.2
      cases hsame
      exact ⟨_, .broken h' h'', .unfit⟩
  | @chosen test yes no ts r r' a b htest h ihtest ih =>
    obtain ⟨hboth, -⟩ := either_eq_some hf
    obtain ⟨p₁, c₁, p₂, c₂, hfirst, hsecond, hwalk⟩ := both_eq_some hboth
    obtain ⟨m, hm, l, hl', hend⟩ := hwalk n
    simp only [looksWithin, Bool.and_eq_true] at hl
    obtain ⟨o', h', hsame⟩ := ihtest hts (hm ▸ hq) hfirst hl.1.1
    cases hsame with
    | fit hq' =>
      obtain ⟨o'', h'', hsame⟩ := ih rfl (hl' ▸ hq') hsecond hl.1.2
      cases hsame with
      | fit hq'' => exact ⟨_, .chosen h' h'', .fit (hend ▸ hq'')⟩
  | @otherwise test yes no ts o htest h ihtest ih =>
    obtain ⟨hboth, hno⟩ := either_eq_some hf
    obtain ⟨p₁, c₁, p₂, c₂, hfirst, -, hwalk⟩ := both_eq_some hboth
    obtain ⟨m, hm, -⟩ := hwalk n
    simp only [looksWithin, Bool.and_eq_true] at hl
    obtain ⟨o', h', hsame⟩ := ihtest hts (hm ▸ hq) hfirst hl.1.1
    cases hsame
    obtain ⟨o'', h'', hsame⟩ := ih hts hq hno hl.2
    exact ⟨_, .otherwise h' h'', hsame⟩
  | @ahead f ts o h ih =>
    cases hf
    rw [looksWithin, Bool.and_eq_true, beq_iff_eq, Option.map_eq_some_iff] at hl
    obtain ⟨⟨⟨p, c⟩, hinner, hp⟩, hl⟩ := hl
    obtain rfl : p = 0 := hp
    obtain ⟨o', h', hsame⟩ := ih hts hq hinner hl
    refine ⟨_, .ahead h', ?_⟩
    subst hts
    cases hsame with
    | unfit => exact .unfit
    | fit hq' => exact .fit hq
  | @absent f ts h ih =>
    cases hf
    rw [looksWithin, Bool.and_eq_true, beq_iff_eq, Option.map_eq_some_iff] at hl
    obtain ⟨⟨⟨p, c⟩, hinner, hp⟩, hl⟩ := hl
    obtain rfl : p = 0 := hp
    obtain ⟨o', h', hsame⟩ := ih hts hq hinner hl
    subst hts
    cases hsame
    exact ⟨_, .absent h', .fit hq⟩
  | @present f ts x h ih =>
    cases hf
    rw [looksWithin, Bool.and_eq_true, beq_iff_eq, Option.map_eq_some_iff] at hl
    obtain ⟨⟨⟨p, c⟩, hinner, hp⟩, hl⟩ := hl
    obtain rfl : p = 0 := hp
    obtain ⟨o', h', hsame⟩ := ih hts hq hinner hl
    cases hsame with
    | fit hq' => exact ⟨_, .present h', .unfit⟩
  | @rule r ts o h ih =>
    have hr : assumed r = some (p, c) := hf
    obtain ⟨o', h', hsame⟩ := ih hts hq ((hassumed r).trans hr)
      (hlooks r fun hnone ↦ by rw [hnone] at hr; cases hr)
    exact ⟨_, .rule h', hsame⟩
  | @build b f ts o h ih =>
    obtain ⟨o', h', hsame⟩ := ih hts hq hf hl
    refine ⟨_, .build h', ?_⟩
    cases hsame with
    | unfit => exact .unfit
    | fit hq' => exact .fit hq'
  | @check b f ts o h ih =>
    obtain ⟨o', h', hsame⟩ := ih hts hq hf hl
    refine ⟨_, .check h', ?_⟩
    cases hsame with
    | unfit => exact .unfit
    | @fit a q' hq' =>
      rw [Option.filter_some, Option.filter_some]
      split
      · exact .fit hq'
      · exact .unfit

end

/-! ## Forms that do not look at what follows them -/

theorem SameBefore.eq_some {cost : TokenKind → Option (Nat × Nat)} {k : Token} {q X Y : List Token}
    {n : Nat} {a : List Tree} {o : Reading}
    (h : SameBefore cost k X Y n (some (a, q ++ k :: X)) o) :
    o = some (a, q ++ k :: Y) := by
  generalize hx : some (a, q ++ k :: X) = x at h
  cases h with
  | unfit => cases hx
  | @fit b q' hq =>
    obtain ⟨rfl, hq'⟩ := Prod.mk.inj (Option.some.inj hx)
    rw [List.append_cancel_right hq']

end Form

open Form

/-- What a token costs where only one line is read. -/
def lineCost : TokenKind → Option (Nat × Nat)
  | .newline => none
  | .indent => none
  | .dedent => none
  | .finish => none
  | _ => some (0, 0)

/-- The rules that keep to one line. -/
def inLine : Rule → Option (Nat × Nat)
  | .statement => none
  | .simpleLine => none
  | .block => none
  | _ => some (0, 0)

theorem nesting_inLine (r : Rule) : (nesting lineCost).form inLine (grammar r) = inLine r := by
  cases r <;> rfl

theorem looksWithin_inLine (r : Rule) (hr : inLine r ≠ none) :
    looksWithin lineCost inLine (grammar r) = true := by
  cases r <;> first
    | rfl
    | exact absurd rfl hr

theorem looksWithin_blocks (r : Rule) :
    looksWithin blockCost (fun _ ↦ some (0, 0)) (grammar r) = true := by
  cases r <;> rfl

/-- A form that comes to the end of a line and does not look at what follows its last token. -/
def IsClosed (f : Syn) : Prop :=
  ∀ ts a X, Parses grammar f ts (some (a, X)) → ∃ p k z, ts = p ++ k :: (z ++ X)
    ∧ walk lineCost 0 p = some 0 ∧ k.kind = .newline
    ∧ ∀ Y, Parses grammar f (p ++ k :: (z ++ Y)) (some (a, Y))

section

variable {f : Syn} {fs : List Syn}

theorem isClosed_newline : IsClosed (.kind .newline) := by
  intro ts a X h
  obtain ⟨k, hk, rfl, rfl⟩ := h.token_of_kind
  exact ⟨[], k, [], rfl, rfl, hk, fun Y ↦ parses_kind hk Y⟩

theorem isClosed_last (hf : IsClosed f) : IsClosed (.seq [f]) := by
  intro ts a X h
  obtain ⟨b, r, c, rfl, hfirst, hdone⟩ := h.parts
  obtain ⟨rfl, rfl⟩ := hdone.eq_of_done
  obtain ⟨p, k, z, hts, hp, hk, hrest⟩ := hf _ _ _ hfirst
  exact ⟨p, k, z, hts, hp, hk, fun Y ↦ .next (hrest Y) .done⟩

/-- In front of a form that is closed there may be what keeps to its line. -/
theorem isClosed_cons (hcost : (nesting lineCost).form inLine f = some (0, 0))
    (hlooks : looksWithin lineCost inLine f = true) (hgrounded : f.isGrounded = true)
    (hfs : IsClosed (.seq fs)) : IsClosed (.seq (f :: fs)) := by
  intro ts a X h
  obtain ⟨b, r, c, rfl, hfirst, hothers⟩ := h.parts
  obtain ⟨p, k, z, rfl, hp, hk, hrest⟩ := hfs _ _ _ hothers
  obtain ⟨u, rfl, hu⟩ := exists_yields_of_parses terminates_grammar hfirst hgrounded
  have hwalk : walk lineCost 0 (u ++ p) = some 0 := by
    rw [walk_append, (nesting lineCost).sound inLine nesting_inLine hu 0 0 hcost 0]
    exact hp
  refine ⟨u ++ p, k, z, (List.append_assoc ..).symm, hwalk, hk, fun Y ↦ ?_⟩
  have hstop : ∀ c, lineCost k.kind ≠ some (0, c) := by
    rw [hk]
    rintro c ⟨⟩
  obtain ⟨o, ho, hsame⟩ := hfirst.unseen (X := z ++ X) (Y := z ++ Y) (n := 0) hstop nesting_inLine
    looksWithin_inLine (List.append_assoc ..).symm hwalk hcost hlooks
  rw [hsame.eq_some] at ho
  exact .next ho (hrest Y)

theorem isClosed_build {k : List Tree → Tree} (hf : IsClosed f) : IsClosed (.build k f) := by
  intro ts a X h
  obtain ⟨b, rfl, hb⟩ := h.of_build
  obtain ⟨p, j, z, hts, hp, hj, hrest⟩ := hf _ _ _ hb
  exact ⟨p, j, z, hts, hp, hj, fun Y ↦ .build (hrest Y)⟩

theorem isClosed_rule {r : Rule} (hr : IsClosed (grammar r)) : IsClosed (.rule r) := by
  intro ts a X h
  obtain ⟨p, k, z, hts, hp, hk, hrest⟩ := hr _ _ _ h.of_rule
  exact ⟨p, k, z, hts, hp, hk, fun Y ↦ .rule (hrest Y)⟩

theorem isClosed_simpleLine : IsClosed (.rule .simpleLine) :=
  isClosed_rule <| isClosed_cons rfl rfl rfl <| isClosed_cons rfl rfl rfl <|
    isClosed_last isClosed_newline

/-- **A block does not look at what follows it**: its statements end where it is closed. -/
theorem isClosed_block : IsClosed block := by
  refine isClosed_rule (isClosed_build fun ts a X h ↦ ?_)
  cases h with
  | chosen hline h =>
    obtain ⟨k, hk, rfl, rfl⟩ := hline.token_of_kind
    obtain ⟨_, _, _, rfl, hopen, h⟩ := h.parts
    obtain ⟨_, _, _, rfl, hstatements, h⟩ := h.parts
    obtain ⟨_, _, _, rfl, hclose, hdone⟩ := h.parts
    obtain ⟨rfl, rfl⟩ := hdone.eq_of_done
    obtain ⟨opening, hopening, rfl, rfl⟩ := hopen.token_of_kind
    obtain ⟨closing, hclosing, rfl, rfl⟩ := hclose.token_of_kind
    obtain ⟨v, rfl, hv⟩ := exists_yields_of_parses terminates_grammar hstatements rfl
    refine ⟨[], k, opening :: (v ++ [closing]), by simp, rfl, hk, fun Y ↦ ?_⟩
    have hstop : ∀ c, blockCost closing.kind ≠ some (0, c) := by
      rw [hclosing]
      rintro c ⟨⟩
    have hwalk : walk blockCost 0 v = some 0 :=
      (nesting blockCost).sound _ nesting_grammar hv 0 0 rfl 0
    obtain ⟨o, ho, hsame⟩ := hstatements.unseen (X := X) (Y := Y) (n := 0) hstop nesting_grammar
      (fun r _ ↦ looksWithin_blocks r) rfl hwalk rfl rfl
    have hend : o = some (_, closing :: Y) := hsame.eq_some (q := [])
    rw [hend] at ho
    rw [List.nil_append, List.cons_append, List.append_assoc, List.singleton_append]
    exact .chosen (parses_kind hk _) (.next (parses_kind hopening _)
      (.next ho (.next (parses_kind hclosing _) .done)))
  | otherwise hline h =>
    obtain ⟨p, k, z, rfl, hp, hk, hrest⟩ := isClosed_simpleLine _ _ _ h
    refine ⟨p, k, z, rfl, hp, hk, fun Y ↦ .otherwise ?_ (hrest Y)⟩
    cases p with
    | nil => cases hline.unique (parses_kind hk _)
    | cons t p =>
      refine parses_kind_of_ne (fun ht ↦ ?_) _
      cases hline.unique (parses_kind ht _)

theorem isClosed_functionRest : IsClosed functionRest :=
  isClosed_cons rfl rfl rfl <| isClosed_cons rfl rfl rfl <| isClosed_cons rfl rfl rfl <|
    isClosed_cons rfl rfl rfl <| isClosed_cons rfl rfl rfl <| isClosed_cons rfl rfl rfl <|
    isClosed_cons rfl rfl rfl <| isClosed_last isClosed_block

/-- **A definition does not look at what follows it.** -/
theorem isClosed_of_mem_definitionForms (hf : f ∈ definitionForms) : IsClosed f := by
  simp only [definitionForms, List.mem_cons, List.not_mem_nil, or_false] at hf
  rcases hf with rfl | rfl | rfl
  · exact isClosed_build isClosed_functionRest
  · exact isClosed_build <| isClosed_cons rfl rfl rfl <| isClosed_cons rfl rfl rfl <|
      isClosed_cons rfl rfl rfl <| isClosed_cons rfl rfl rfl <| isClosed_last isClosed_block
  · exact isClosed_build <| isClosed_cons rfl rfl rfl <| isClosed_last isClosed_functionRest

end

end Source
end TexWeave

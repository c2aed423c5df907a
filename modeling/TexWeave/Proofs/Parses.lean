import TexWeave.Proofs.Readings
import TexWeave.Source.Grammar

/-!
# Readings without fuel

The fuel of a reading bounds how deep it goes.  A grammar whose rules take at least one token each,
and whose repetitions do so on every turn, comes to an end by itself, and then the fuel only has to
be more than the depth that a form can reach on the tokens there are.

* `Parses` — what a form makes of the tokens in front of it, failure included.
* `Parses.unique` — it makes one thing of them.
* `depth`, `isGrounded` — how deep a form can go before it takes a token, and whether it comes to an
  end.
* `parses_read`, `read_of_parses` — with enough fuel, reading is that.
* `parse_eq_some_iff` — the tree of a text without fuel.
-/

set_option autoImplicit false

namespace TexWeave
namespace Source
namespace Form

variable {ρ : Type} {g : ρ → Form ρ}

/-- What a form makes of the tokens in front of it: trees and the tokens that are left, or nothing
if it does not fit. -/
inductive Parses (g : ρ → Form ρ) : Form ρ → List Token → Reading → Prop
  | kind {k : TokenKind} {ts : List Token} :
      Parses g (.kind k) ts (take (fun t ↦ t.kind == k) ts)
  | word {s : String} {ts : List Token} : Parses g (.word s) ts
      (take (fun t ↦ t.text == s && (t.kind == .operator || t.kind == .keyword)) ts)
  | soft {s : String} {ts : List Token} :
      Parses g (.soft s) ts (take (fun t ↦ t.text == s && t.kind == .name) ts)
  | done {ts : List Token} : Parses g (.seq []) ts (some ([], ts))
  | unfit {f : Form ρ} {fs : List (Form ρ)} {ts : List Token} (h : Parses g f ts none) :
      Parses g (.seq (f :: fs)) ts none
  | stuck {f : Form ρ} {fs : List (Form ρ)} {ts r : List Token} {a : List Tree}
      (h : Parses g f ts (some (a, r))) (hrest : Parses g (.seq fs) r none) :
      Parses g (.seq (f :: fs)) ts none
  | next {f : Form ρ} {fs : List (Form ρ)} {ts r r' : List Token} {a b : List Tree}
      (h : Parses g f ts (some (a, r))) (hrest : Parses g (.seq fs) r (some (b, r'))) :
      Parses g (.seq (f :: fs)) ts (some (a ++ b, r'))
  | exhausted {ts : List Token} : Parses g (.alt []) ts none
  | here {f : Form ρ} {fs : List (Form ρ)} {ts : List Token} {x : List Tree × List Token}
      (h : Parses g f ts (some x)) : Parses g (.alt (f :: fs)) ts (some x)
  | later {f : Form ρ} {fs : List (Form ρ)} {ts : List Token} {o : Reading}
      (h : Parses g f ts none) (hrest : Parses g (.alt fs) ts o) : Parses g (.alt (f :: fs)) ts o
  | enough {f : Form ρ} {ts : List Token} (h : Parses g f ts none) :
      Parses g (.many f) ts (some ([], ts))
  | again {f : Form ρ} {ts r r' : List Token} {a b : List Tree}
      (h : Parses g f ts (some (a, r))) (hrest : Parses g (.many f) r (some (b, r'))) :
      Parses g (.many f) ts (some (a ++ b, r'))
  | broken {test yes no : Form ρ} {ts r : List Token} {a : List Tree}
      (htest : Parses g test ts (some (a, r))) (h : Parses g yes r none) :
      Parses g (.choose test yes no) ts none
  | chosen {test yes no : Form ρ} {ts r r' : List Token} {a b : List Tree}
      (htest : Parses g test ts (some (a, r))) (h : Parses g yes r (some (b, r'))) :
      Parses g (.choose test yes no) ts (some (a ++ b, r'))
  | otherwise {test yes no : Form ρ} {ts : List Token} {o : Reading}
      (htest : Parses g test ts none) (h : Parses g no ts o) :
      Parses g (.choose test yes no) ts o
  | ahead {f : Form ρ} {ts : List Token} {o : Reading} (h : Parses g f ts o) :
      Parses g (.ahead f) ts (o.map fun _ ↦ ([], ts))
  | absent {f : Form ρ} {ts : List Token} (h : Parses g f ts none) :
      Parses g (.unless f) ts (some ([], ts))
  | present {f : Form ρ} {ts : List Token} {x : List Tree × List Token}
      (h : Parses g f ts (some x)) : Parses g (.unless f) ts none
  | rule {r : ρ} {ts : List Token} {o : Reading} (h : Parses g (g r) ts o) :
      Parses g (.rule r) ts o
  | build {k : List Tree → Tree} {f : Form ρ} {ts : List Token} {o : Reading}
      (h : Parses g f ts o) : Parses g (.build k f) ts (o.map fun x ↦ ([k x.1], x.2))
  | check {p : List Tree → Bool} {f : Form ρ} {ts : List Token} {o : Reading}
      (h : Parses g f ts o) : Parses g (.check p f) ts (o.filter fun x ↦ p x.1)

/-- **A form makes one thing of tokens.** -/
theorem Parses.unique {f : Form ρ} {ts : List Token} {o o' : Reading} (h : Parses g f ts o)
    (h' : Parses g f ts o') : o = o' := by
  induction h generalizing o' with
  | kind => cases h'; rfl
  | word => cases h'; rfl
  | soft => cases h'; rfl
  | done => cases h'; rfl
  | unfit _ ih =>
    cases h' with
    | unfit => rfl
    | stuck => rfl
    | next h₂ => cases ih h₂
  | stuck _ _ ih ihrest =>
    cases h' with
    | unfit => rfl
    | stuck => rfl
    | next h₂ hrest₂ =>
      cases ih h₂
      cases ihrest hrest₂
  | next _ _ ih ihrest =>
    cases h' with
    | unfit h₂ => cases ih h₂
    | stuck h₂ hrest₂ =>
      cases ih h₂
      cases ihrest hrest₂
    | next h₂ hrest₂ =>
      cases ih h₂
      cases ihrest hrest₂
      rfl
  | exhausted => cases h'; rfl
  | here _ ih =>
    cases h' with
    | here h₂ => exact ih h₂
    | later h₂ => cases ih h₂
  | later _ _ ih ihrest =>
    cases h' with
    | here h₂ => cases ih h₂
    | later _ hrest₂ => exact ihrest hrest₂
  | enough _ ih =>
    cases h' with
    | enough => rfl
    | again h₂ => cases ih h₂
  | again _ _ ih ihrest =>
    cases h' with
    | enough h₂ => cases ih h₂
    | again h₂ hrest₂ =>
      cases ih h₂
      cases ihrest hrest₂
      rfl
  | broken _ _ ihtest ih =>
    cases h' with
    | broken => rfl
    | chosen htest₂ h₂ =>
      cases ihtest htest₂
      cases ih h₂
    | otherwise htest₂ => cases ihtest htest₂
  | chosen _ _ ihtest ih =>
    cases h' with
    | broken htest₂ h₂ =>
      cases ihtest htest₂
      cases ih h₂
    | chosen htest₂ h₂ =>
      cases ihtest htest₂
      cases ih h₂
      rfl
    | otherwise htest₂ => cases ihtest htest₂
  | otherwise _ _ ihtest ih =>
    cases h' with
    | broken htest₂ => cases ihtest htest₂
    | chosen htest₂ => cases ihtest htest₂
    | otherwise _ h₂ => exact ih h₂
  | ahead _ ih => cases h' with | ahead h₂ => rw [ih h₂]
  | absent _ ih =>
    cases h' with
    | absent => rfl
    | present h₂ => cases ih h₂
  | present _ ih =>
    cases h' with
    | absent h₂ => cases ih h₂
    | present => rfl
  | rule _ ih => cases h' with | rule h₂ => exact ih h₂
  | build _ ih => cases h' with | build h₂ => rw [ih h₂]
  | check _ ih => cases h' with | check h₂ => rw [ih h₂]

/-! ## Readings taken apart -/

section

variable {f : Form ρ} {ts r : List Token} {a : List Tree}

theorem Parses.parts {fs : List (Form ρ)} (h : Parses g (.seq (f :: fs)) ts (some (a, r))) :
    ∃ b r' c, a = b ++ c ∧ Parses g f ts (some (b, r')) ∧ Parses g (.seq fs) r' (some (c, r)) := by
  cases h with
  | @next _ _ _ r' _ b c h hrest => exact ⟨b, r', c, rfl, h, hrest⟩

theorem Parses.eq_of_done (h : Parses g (.seq []) ts (some (a, r))) : a = [] ∧ r = ts := by
  cases h with
  | done => exact ⟨rfl, rfl⟩

theorem Parses.of_rule {j : ρ} {o : Reading} (h : Parses g (.rule j) ts o) :
    Parses g (g j) ts o := by
  cases h with
  | rule h => exact h

theorem Parses.of_build {k : List Tree → Tree} (h : Parses g (.build k f) ts (some (a, r))) :
    ∃ b, a = [k b] ∧ Parses g f ts (some (b, r)) := by
  generalize ho : some (a, r) = o at h
  cases h with
  | @build _ _ _ o h =>
    obtain ⟨⟨b, r'⟩, rfl, hb⟩ := Option.map_eq_some_iff.1 ho.symm
    cases hb
    exact ⟨b, rfl, h⟩

theorem Parses.token_of_kind {k : TokenKind} (h : Parses g (.kind k) ts (some (a, r))) :
    ∃ t, t.kind = k ∧ ts = t :: r ∧ a = [.leaf t] := by
  generalize ho : some (a, r) = o at h
  cases h with
  | kind =>
    obtain ⟨t, ht, hts, ha⟩ := take_eq_some ho.symm
    exact ⟨t, beq_iff_eq.1 ht, hts, ha⟩

theorem parses_kind {k : TokenKind} {t : Token} (ht : t.kind = k) (r : List Token) :
    Parses g (.kind k) (t :: r) (some ([.leaf t], r)) := by
  have h : Parses g (.kind k) (t :: r) _ := .kind
  rwa [take, if_pos (beq_iff_eq.2 ht)] at h

theorem parses_kind_of_ne {k : TokenKind} {t : Token} (ht : t.kind ≠ k) (r : List Token) :
    Parses g (.kind k) (t :: r) none := by
  have h : Parses g (.kind k) (t :: r) _ := .kind
  rwa [take, if_neg (by simpa using ht)] at h

theorem Parses.of_ahead (h : Parses g (.ahead f) ts (some (a, r))) : a = [] ∧ r = ts := by
  generalize ho : some (a, r) = o at h
  cases h with
  | @ahead _ _ o h =>
    obtain ⟨x, -, hx⟩ := Option.map_eq_some_iff.1 ho.symm
    cases hx
    exact ⟨rfl, rfl⟩

/-- A look ahead takes nothing. -/
theorem Parses.branch_ahead {test yes no : Form ρ}
    (h : Parses g (.choose (.ahead test) yes no) ts (some (a, r))) :
    Parses g yes ts (some (a, r)) ∨ Parses g no ts (some (a, r)) := by
  cases h with
  | chosen htest h =>
    obtain ⟨rfl, rfl⟩ := htest.of_ahead
    exact .inl h
  | otherwise _ h => exact .inr h

end

/-! ## How deep a reading goes -/

/-- Whether a form takes at least one token, if all rules do. -/
def takesAny (f : Form ρ) : Bool := !((beginning .finish).form (fun _ ↦ (false, false)) f).1

section

variable (ranks : ρ → Nat)

mutual

/-- How deep a form can go before it takes a token, if the rules go as deep as given; what is read
behind a token may go deeper by the depth a token stands for. -/
def depth : Form ρ → Nat
  | .kind _ => 1
  | .word _ => 1
  | .soft _ => 1
  | .seq fs => depthInTurn fs
  | .alt fs => depthOfAny fs
  | .many f => depth f + 1
  | .choose test yes no =>
    max (depth test) (max (if takesAny test then depth yes - depthPerToken else depth yes)
      (depth no)) + 1
  | .ahead f => depth f + 1
  | .unless f => depth f + 1
  | .rule r => ranks r + 1
  | .build _ f => depth f + 1
  | .check _ f => depth f + 1

/-- The same for forms one after the other. -/
def depthInTurn : List (Form ρ) → Nat
  | [] => 1
  | f :: fs =>
    max (depth f) (if takesAny f then depthInTurn fs - depthPerToken else depthInTurn fs) + 1

/-- The same for a choice. -/
def depthOfAny : List (Form ρ) → Nat
  | [] => 1
  | f :: fs => max (depth f) (depthOfAny fs) + 1

end

end

mutual

/-- Whether every turn of every repetition takes at least one token, if all rules do. -/
def isGrounded : Form ρ → Bool
  | .kind _ => true
  | .word _ => true
  | .soft _ => true
  | .seq fs => areGrounded fs
  | .alt fs => areGrounded fs
  | .many f => takesAny f && isGrounded f
  | .choose test yes no => isGrounded test && isGrounded yes && isGrounded no
  | .ahead f => isGrounded f
  | .unless f => isGrounded f
  | .rule _ => true
  | .build _ f => isGrounded f
  | .check _ f => isGrounded f

/-- The same for several forms. -/
def areGrounded : List (Form ρ) → Bool
  | [] => true
  | f :: fs => isGrounded f && areGrounded fs

end

/-- A grammar that comes to an end by itself: all rules take a token, and go no deeper before that
than their ranks say. -/
structure Terminates (g : ρ → Form ρ) (ranks : ρ → Nat) : Prop where
  takes (r : ρ) : (beginning .finish).form (fun _ ↦ (false, false)) (g r) = (false, false)
  isGrounded (r : ρ) : (g r).isGrounded = true
  depth_le (r : ρ) : (g r).depth ranks ≤ ranks r

variable {ranks : ρ → Nat}

theorem depth_pos (f : Form ρ) : 0 < f.depth ranks := by
  cases f with
  | seq fs => cases fs <;> exact Nat.succ_pos _
  | alt fs => cases fs <;> exact Nat.succ_pos _
  | _ => exact Nat.succ_pos _

/-- How much fuel is enough for a form. -/
def fuelFor (ranks : ρ → Nat) (f : Form ρ) (ts : List Token) : Nat :=
  depthPerToken * ts.length + f.depth ranks

section

variable (hg : Terminates g ranks) {n : Nat} {f : Form ρ} {ts r : List Token} {a : List Tree}

include hg

/-- What a form leaves is no more than there was, and less if it takes a token. -/
theorem length_of_read (h : read g n f ts = some (a, r)) :
    r.length + (if takesAny f then 1 else 0) ≤ ts.length := by
  obtain ⟨u, rfl, hu⟩ := exists_yields_of_read h
  rw [List.length_append]
  split
  · next htakes =>
    have hne : u ≠ [] := fun hnil ↦ by
      rw [takesAny, ((beginning .finish).sound _ hg.takes hu).1 hnil] at htakes
      cases htakes
    have hpos := List.length_pos_iff.2 hne
    omega
  · omega

/-- Behind a form there is fuel for what follows. -/
theorem fuelFor_behind (h : read g n f ts = some (a, r)) (f' : Form ρ) :
    fuelFor ranks f' r ≤ depthPerToken * ts.length
      + (if takesAny f then f'.depth ranks - depthPerToken else f'.depth ranks) := by
  have hlength := length_of_read hg h
  rw [fuelFor, depthPerToken]
  split at hlength
  · next htakes =>
    rw [if_pos htakes]
    omega
  · next htakes =>
    rw [if_neg htakes]
    omega

/-- **With enough fuel, reading is what the form makes of the tokens.** -/
theorem parses_read (hf : f.isGrounded = true) (hn : fuelFor ranks f ts ≤ n) :
    Parses g f ts (read g n f ts) := by
  induction n generalizing f ts with
  | zero =>
    have hpos : 0 < f.depth ranks := depth_pos f
    rw [fuelFor] at hn
    omega
  | succ n ih =>
    cases f with
    | kind k => exact .kind
    | word s => exact .word
    | soft s => exact .soft
    | seq fs =>
      cases fs with
      | nil => exact .done
      | cons f fs =>
        rw [isGrounded, areGrounded, Bool.and_eq_true] at hf
        have hdepth : fuelFor ranks (.seq (f :: fs)) ts = depthPerToken * ts.length
            + (max (f.depth ranks) (if takesAny f then depth ranks (.seq fs) - depthPerToken
              else depth ranks (.seq fs)) + 1) := rfl
        have hfirst : Parses g f ts (read g n f ts) := ih hf.1 (by rw [fuelFor]; omega)
        rw [read]
        split
        · next hread => exact .unfit (hread ▸ hfirst)
        · next a r hread =>
          have hbehind := fuelFor_behind hg hread (.seq fs)
          have hothers : Parses g (.seq fs) r (read g n (.seq fs) r) := ih hf.2 (by omega)
          rw [hread] at hfirst
          split
          · next hrest => exact .stuck hfirst (hrest ▸ hothers)
          · next b r' hrest => exact .next hfirst (hrest ▸ hothers)
    | alt fs =>
      cases fs with
      | nil => exact .exhausted
      | cons f fs =>
        rw [isGrounded, areGrounded, Bool.and_eq_true] at hf
        have hdepth : fuelFor ranks (.alt (f :: fs)) ts = depthPerToken * ts.length
            + (max (f.depth ranks) (depth ranks (.alt fs)) + 1) := rfl
        have hfirst : Parses g f ts (read g n f ts) := ih hf.1 (by rw [fuelFor]; omega)
        have hothers : Parses g (.alt fs) ts (read g n (.alt fs) ts) :=
          ih hf.2 (by rw [fuelFor]; omega)
        rw [read]
        split
        · next hread => exact .here (hread ▸ hfirst)
        · next hread => exact .later (hread ▸ hfirst) hothers
    | many f =>
      rw [isGrounded, Bool.and_eq_true] at hf
      have hdepth : fuelFor ranks (.many f) ts
          = depthPerToken * ts.length + (f.depth ranks + 1) := rfl
      have hfirst : Parses g f ts (read g n f ts) := ih hf.2 (by rw [fuelFor]; omega)
      rw [read]
      split
      · next hread => exact .enough (hread ▸ hfirst)
      · next a r hread =>
        have hbehind := fuelFor_behind hg hread (.many f)
        have hturn : depth ranks (.many f) = f.depth ranks + 1 := rfl
        rw [if_pos hf.1, hturn, depthPerToken] at hbehind
        rw [depthPerToken] at hdepth
        have hothers : Parses g (.many f) r (read g n (.many f) r) :=
          ih (by rw [isGrounded, hf.1, hf.2]; rfl) (by omega)
        rw [hread] at hfirst
        split
        · next hrest =>
          rw [hrest] at hothers
          cases hothers
        · next b r' hrest => exact .again hfirst (hrest ▸ hothers)
    | choose test yes no =>
      simp only [isGrounded, Bool.and_eq_true] at hf
      have hdepth : fuelFor ranks (.choose test yes no) ts = depthPerToken * ts.length
          + (max (test.depth ranks) (max (if takesAny test then yes.depth ranks - depthPerToken
            else yes.depth ranks) (no.depth ranks)) + 1) := rfl
      have htest : Parses g test ts (read g n test ts) := ih hf.1.1 (by rw [fuelFor]; omega)
      rw [read]
      split
      · next hread =>
        exact .otherwise (hread ▸ htest) (ih hf.2 (by rw [fuelFor]; omega))
      · next a r hread =>
        have hbehind := fuelFor_behind hg hread yes
        have hyes : Parses g yes r (read g n yes r) := ih hf.1.2 (by omega)
        rw [hread] at htest
        split
        · next hrest => exact .broken htest (hrest ▸ hyes)
        · next b r' hrest => exact .chosen htest (hrest ▸ hyes)
    | ahead f => exact .ahead (ih hf (Nat.le_of_succ_le_succ hn))
    | «unless» f =>
      have hinner : Parses g f ts (read g n f ts) := ih hf (Nat.le_of_succ_le_succ hn)
      rw [read]
      split
      · next hread => exact .absent (hread ▸ hinner)
      · next hread => exact .present (hread ▸ hinner)
    | rule r =>
      have hrank := hg.depth_le r
      have hdepth : fuelFor ranks (.rule r) ts = depthPerToken * ts.length + (ranks r + 1) := rfl
      exact .rule (ih (hg.isGrounded r) (by rw [fuelFor]; omega))
    | build k f => exact .build (ih hf (Nat.le_of_succ_le_succ hn))
    | check p f => exact .check (ih hf (Nat.le_of_succ_le_succ hn))

theorem read_of_parses {o : Reading} (h : Parses g f ts o) (hf : f.isGrounded = true)
    (hn : fuelFor ranks f ts ≤ n) : read g n f ts = o :=
  (parses_read hg hf hn).unique h

/-- What a form makes of tokens, it made of those it took. -/
theorem exists_yields_of_parses (h : Parses g f ts (some (a, r))) (hf : f.isGrounded = true) :
    ∃ u, ts = u ++ r ∧ Yields g f u a :=
  exists_yields_of_read (read_of_parses hg h hf (Nat.le_refl (fuelFor ranks f ts)))

/-- A tree of a repetition comes from one turn, with whole turns in front of it. -/
theorem Parses.exists_turn {c : Tree} (h : Parses g (.many f) ts (some (a, r)))
    (hf : (Form.many f).isGrounded = true) (hc : c ∈ a) : ∃ u₁ a₁ ts' b r', ts = u₁ ++ ts'
      ∧ Yields g (.many f) u₁ a₁ ∧ Parses g f ts' (some (b, r')) ∧ c ∈ b := by
  generalize hm : Form.many f = m at h
  generalize ho : some (a, r) = o at h
  induction h generalizing a r with cases hm
  | enough =>
    cases ho
    exact absurd hc List.not_mem_nil
  | @again _ ts r₁ r₂ b d h hrest ih ihrest =>
    cases ho
    rcases List.mem_append.1 hc with hc | hc
    · exact ⟨[], [], ts, b, r₁, rfl, .enough, h, hc⟩
    · obtain ⟨u₁, a₁, ts', b', r', rfl, hbefore, hturn, hc'⟩ := ihrest hc rfl rfl
      obtain ⟨v, rfl, hv⟩ := exists_yields_of_parses hg h (Bool.and_eq_true_iff.1 hf).2
      exact ⟨v ++ u₁, b ++ a₁, ts', b', r', (List.append_assoc ..).symm, .again hv hbefore, hturn,
        hc'⟩

end

end Form

open Form

/-! ## The grammar -/

/-- How deep the rules go before they take a token. -/
def ruleRank : Rule → Nat
  | .brackets => 20
  | .primary => 40
  | .factor => 50
  | .arithmetic => 60
  | .inversion => 70
  | .disjunction => 80
  | .expression => 90
  | .named => 100
  | .starNamed => 110
  | .starExpressions => 110
  | .yielding => 20
  | .closedPattern => 60
  | .pattern => 80
  | .simpleLine => 150
  | .block => 160
  | .statement => 180

theorem terminates_grammar : Terminates grammar ruleRank where
  takes r := by cases r <;> rfl
  isGrounded r := by cases r <;> rfl
  depth_le r := by cases r <;> decide +kernel

/-- What a whole text is: statements and its end. -/
def wholeText : Syn := .node .text (.seq [.many (.rule .statement), .kind .finish])

/-- **The tree of a text** is what the grammar makes of its tokens, whatever the fuel. -/
theorem parse_eq_some_iff {ts : List Token} {t : Tree} :
    parse ts = some t ↔ Parses grammar wholeText ts (some ([t], [])) := by
  have hgrounded : wholeText.isGrounded = true := rfl
  have hfuel : fuelFor ruleRank wholeText ts ≤ depthPerToken * (ts.length + 10) := by
    have hdepth : wholeText.depth ruleRank ≤ depthPerToken * 10 := by decide +kernel
    rw [fuelFor, Nat.mul_add]
    omega
  have hread := parses_read terminates_grammar hgrounded hfuel
  constructor
  · intro h
    rw [parse] at h
    split at h
    · next t' heq =>
      cases h
      exact heq ▸ hread
    · cases h
  · intro h
    have heq := hread.unique h
    rw [wholeText] at heq
    rw [parse, heq]

end Source
end TexWeave

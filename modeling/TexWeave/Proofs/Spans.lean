import TexWeave.Proofs.Placement

/-!
# The lines that tokens span

The tokens of a scan follow one another down the lines of the text, with one exception: the
expressions of a string with fields are scanned one by one, each from the line on which the string
begins.  So tokens stand in the order of their lines as far as strings with fields are taken whole.

* `Spans` — tokens from one line to another, strings with fields taken whole.
* `Spans.append`, `Spans.split` — where a string with fields is closed, the lines can be parted.
* `Runs.spans` — the tokens of a scan span the lines of its text.
-/

set_option autoImplicit false

namespace TexWeave
namespace Source

open Form Scanner

/-- Tokens that stand in order from line `m` to line `n`. -/
inductive Spans : Nat → Nat → List Token → Prop
  | nil {m n : Nat} (h : m ≤ n) : Spans m n []
  | plain {m n : Nat} {k : Token} {ts : List Token} (hk : weight k = 0) (hm : m ≤ k.line)
      (hline : k.line ≤ k.endLine) (h : Spans k.endLine n ts) : Spans m n (k :: ts)
  | fields {m n : Nat} {left right : Token} {inner ts : List Token} (hleft : weight left = 1)
      (hright : weight right = -1) (hclosed : WellClosed inner) (hm : m ≤ left.line)
      (hinner : ∀ k ∈ inner, left.line ≤ k.line) (hline : left.line ≤ right.line)
      (hend : right.line ≤ right.endLine)
      (h : Spans right.endLine n ts) : Spans m n (left :: (inner ++ right :: ts))

namespace Spans

variable {l m n : Nat} {p q ts : List Token} {x : Token}

theorem le (h : Spans m n ts) : m ≤ n := by
  induction h with
  | nil h => exact h
  | plain _ hm hline _ ih => exact hm.trans (hline.trans ih)
  | fields _ _ _ hm _ hline hend _ ih => exact hm.trans (hline.trans (hend.trans ih))

theorem mono (h : Spans m n ts) (hlm : l ≤ m) : Spans l n ts := by
  cases h with
  | nil h => exact .nil (hlm.trans h)
  | plain hk hm hline h => exact .plain hk (hlm.trans hm) hline h
  | fields hleft hright hclosed hm hinner hline hend h =>
    exact .fields hleft hright hclosed (hlm.trans hm) hinner hline hend h

theorem excess_eq (h : Spans m n ts) : excess ts = 0 := by
  induction h with
  | nil => rfl
  | plain hk _ _ _ ih => rw [excess_cons, hk, ih, add_zero]
  | fields hleft hright hclosed _ _ _ _ _ ih =>
    rw [excess_cons, excess_append, excess_cons, hleft, hright, hclosed.1, ih]
    rfl

theorem le_line (h : Spans m n ts) : ∀ k ∈ ts, m ≤ k.line := by
  induction h with
  | nil => exact List.forall_mem_nil _
  | plain _ hm hline _ ih =>
    exact List.forall_mem_cons.2 ⟨hm, fun k hk ↦ (hm.trans hline).trans (ih k hk)⟩
  | fields _ _ _ hm hinner hline hend _ ih =>
    refine List.forall_mem_cons.2 ⟨hm, List.forall_mem_append.2
      ⟨fun k hk ↦ hm.trans (hinner k hk), List.forall_mem_cons.2 ⟨hm.trans hline, fun k hk ↦ ?_⟩⟩⟩
    exact (hm.trans (hline.trans hend)).trans (ih k hk)

theorem append (h : Spans l m p) (h' : Spans m n q) : Spans l n (p ++ q) := by
  induction h with
  | nil h => exact h'.mono h
  | plain hk hm hline _ ih => exact .plain hk hm hline (ih h')
  | fields hleft hright hclosed hm hinner hline hend _ ih =>
    rw [List.cons_append, List.append_assoc, List.cons_append]
    exact .fields hleft hright hclosed hm hinner hline hend (ih h')

/-- **Where all strings with fields are closed, the lines can be parted.** -/
theorem split (h : Spans l n (p ++ q)) (hp : excess p = 0) :
    ∃ m, Spans l m p ∧ Spans m n q := by
  generalize hts : p ++ q = ts at h
  induction h generalizing p with
  | @nil l n h =>
    obtain ⟨rfl, rfl⟩ := List.append_eq_nil_iff.1 hts
    exact ⟨n, .nil h, .nil (Nat.le_refl n)⟩
  | @plain l n k ts hk hm hline h ih =>
    cases p with
    | nil =>
      rw [List.nil_append] at hts
      exact ⟨l, .nil (Nat.le_refl l), hts ▸ .plain hk hm hline h⟩
    | cons k' p =>
      obtain ⟨rfl, hrest⟩ := List.cons.inj hts
      rw [excess_cons, hk, zero_add] at hp
      obtain ⟨m, hleft, hright⟩ := ih hp hrest
      exact ⟨m, .plain hk hm hline hleft, hright⟩
  | @fields l n left right inner ts hleft hright hclosed hm hinner hline hend h ih =>
    cases p with
    | nil =>
      rw [List.nil_append] at hts
      exact ⟨l, .nil (Nat.le_refl l), hts ▸ .fields hleft hright hclosed hm hinner hline hend h⟩
    | cons k' p =>
      obtain ⟨rfl, hrest⟩ := List.cons.inj hts
      rw [excess_cons, hleft] at hp
      -- what is parted off has to reach beyond the end of the string
      rcases List.append_eq_append_iff.1 hrest with ⟨w, rfl, hw⟩ | ⟨w, rfl, hw⟩
      · have hnonneg := hclosed.2 p w rfl
        omega
      · cases w with
        | nil =>
          rw [List.append_nil, hclosed.1] at hp
          omega
        | cons k w =>
          obtain ⟨rfl, hw'⟩ := List.cons.inj hw
          have hrest : excess w = 0 := by
            rw [excess_append, hclosed.1, excess_cons, hright] at hp
            omega
          obtain ⟨m, hfront, hback⟩ := ih hrest hw'.symm
          exact ⟨m, .fields hleft hright hclosed hm hinner hline hend hfront, hback⟩

/-- Nothing stands above a token in front of which all strings with fields are closed. -/
theorem line_le (h : Spans m n (x :: ts)) : ∀ k ∈ ts, x.line ≤ k.line := by
  cases h with
  | plain _ _ hline h => exact fun k hk ↦ hline.trans (h.le_line k hk)
  | fields _ _ _ _ hinner hline hend h =>
    refine List.forall_mem_append.2 ⟨hinner, List.forall_mem_cons.2 ⟨hline, fun k hk ↦ ?_⟩⟩
    exact (hline.trans hend).trans (h.le_line k hk)

theorem le_of_cons (h : Spans m n (x :: ts)) : m ≤ x.line ∧ x.line ≤ n := by
  refine ⟨h.le_line x List.mem_cons_self, ?_⟩
  cases h with
  | plain _ _ hline h => exact hline.trans h.le
  | fields _ _ _ _ _ hline hend h => exact hline.trans (hend.trans h.le)

/-- The last token lies between the lines. -/
theorem endLine_le (h : Spans m n (ts ++ [x])) : x.line ≤ x.endLine ∧ x.endLine ≤ n := by
  generalize hall : ts ++ [x] = us at h
  induction h generalizing ts with
  | nil => exact absurd hall (List.append_ne_nil_of_right_ne_nil _ (List.cons_ne_nil _ _))
  | @plain m n k us _ _ hline h ih =>
    cases ts with
    | nil =>
      obtain ⟨rfl, rfl⟩ := List.cons.inj hall
      exact ⟨hline, h.le⟩
    | cons k' ts => exact ih (List.cons.inj hall).2
  | @fields m n left right inner us _ _ _ _ _ _ hend h ih =>
    cases us using List.reverseRecOn with
    | nil =>
      have hlast := congrArg List.getLast? hall
      rw [List.getLast?_concat, ← List.cons_append, List.getLast?_concat] at hlast
      obtain rfl := Option.some.inj hlast
      exact ⟨hend, h.le⟩
    | append_singleton us y =>
      have hlast := congrArg List.getLast? hall
      rw [List.getLast?_concat, ← List.cons_append, ← List.cons_append, ← List.append_assoc,
        List.getLast?_concat] at hlast
      obtain rfl := Option.some.inj hlast
      exact ih rfl

theorem of_weight {k : Token} (hk : weight k = 0) (hm : m ≤ k.line) (hline : k.line ≤ k.endLine)
    (hn : k.endLine ≤ n) : Spans m n [k] :=
  .plain hk hm hline (.nil hn)

end Spans

namespace Scanner

variable {s t : Scanner} {new out : List Token}

theorem spans_of_areMarks (h : AreMarks t.line new) (hle : s.line ≤ t.line) :
    Spans s.line t.line new := by
  induction new generalizing s with
  | nil => exact .nil hle
  | cons k new ih =>
    obtain ⟨hk, hnew⟩ := List.forall_mem_cons.1 h
    have hweight := AreMarks.weight_eq h k List.mem_cons_self
    refine .plain hweight (hk.2.1 ▸ hle) (hk.2.1.trans hk.2.2.symm).le ?_
    rw [hk.2.2]
    exact ih hnew (Nat.le_refl _)

/-- A token spans the lines it passes. -/
theorem Step.spans {fuel : Nat} (h : Step fuel s new t) :
    Spans s.line t.line (significant new) := by
  have hline : s.line ≤ t.line := by
    obtain ⟨used, -, -, hline, -⟩ := h.text
    exact hline ▸ Nat.le_add_right _ _
  have hpart {kind : TokenKind} {used : List Char} {u : Scanner}
      (hkind : (s.part used kind).isTrivia = false) (hweight : weight (s.part used kind) = 0)
      (hu : u.line = s.line + used.count '\n') :
      Spans s.line u.line (significant [s.part used kind]) := by
    rw [significant_singleton hkind, hu]
    exact .of_weight hweight (Nat.le_refl _) (Nat.le_add_right _ _) (Nat.le_refl _)
  cases h with
  | blank => exact .nil hline
  | fold => exact .nil hline
  | comment => exact .nil hline
  | @lineBreak rest h =>
    cases hbrackets : s.brackets.isEmpty with
    | false => exact .nil hline
    | true => exact hpart rfl rfl (by simp [Scanner.lineBreak, emit_eq])
  | @word kind used rest h hne hkind =>
    rcases hkind with rfl | rfl
    · exact hpart rfl rfl (by simp [emit_eq])
    · exact hpart rfl rfl (by simp [emit_eq])
  | @literal kind used rest h hopens hkind =>
    rcases hkind with rfl | rfl | rfl
    · exact hpart rfl rfl (by simp [emit_eq])
    · exact hpart rfl rfl (by simp [emit_eq])
    · exact hpart rfl rfl (by simp [emit_eq])
  | @operator o rest => exact hpart rfl rfl (by simp [emit_eq])
  | @stray c rest => exact hpart rfl rfl (by simp [emit_eq])
  | @embedded n used rest expressions inner h hopens hn hinner =>
    have hadded := (addedFrom_inner n).1 _ _ _ hinner
    have hsignificant : significant (s.part used .fieldsOpen
        :: (inner.reverse ++ [(s.advance used rest).closing])) = s.part used .fieldsOpen
          :: (significant inner.reverse ++ [(s.advance used rest).closing]) := by
      rw [significant, List.filter_cons_of_pos rfl, List.filter_append,
        List.filter_cons_of_pos rfl]
      rfl
    rw [hsignificant]
    refine .fields rfl rfl hadded.wellClosed.significant (Nat.le_refl _) (fun k hk ↦ ?_) hline
      (Nat.le_refl _) (.nil (Nat.le_refl _))
    exact (hadded.lines k (List.mem_of_mem_filter hk)).1

/-- A move spans the lines it passes. -/
theorem Move.spans (h : Move s new t) : Spans s.line t.line (significant new) := by
  have hline := h.line_le
  cases h with
  | token _ h => exact h.spans
  | start _ h =>
    cases h with
    | passed _ hnew =>
      rw [significant_of_areTrivia hnew]
      exact .nil hline
    | last hnew =>
      rw [significant_of_areTrivia hnew]
      exact .nil hline
    | inside => exact .nil hline
    | @arranged used rest _ _ _ _ _ hmarks =>
      rw [significant_of_areMarks hmarks]
      refine spans_of_areMarks ?_ hline
      rwa [adding_line, advance_line]

/-- **The tokens of a scan span the lines of its text.** -/
theorem Runs.spans (h : Runs s out) :
    Spans s.line (s.line + s.rest.count '\n') (significant out) := by
  induction h with
  | @finish s hrest =>
    rw [hrest]
    exact .of_weight rfl (Nat.le_refl _) (Nat.le_refl _) (Nat.le_refl _)
  | @move s t new out h hrest _ ih =>
    obtain ⟨used, htext, hline, -⟩ := h.text
    rw [significant_append, htext, List.count_append, ← Nat.add_assoc, ← hline]
    exact h.spans.append ih

end Scanner
end Source
end TexWeave

import Mathlib.Data.List.Nodup
import TexWeave.Document

/-!
# Names without repetition

The packages of a document are kept, and loaded, without repetition: of names that are the same, the
first stays.  So the names that stay are all there are, they stand in the order in which each comes
first, and names behind them take nothing away.

* `mem_distinct` — no name is lost, and none is new.
* `pairwise_idxOf_distinct`, `nodup_distinct` — the order of the names, each of which stays once.
* `distinct_eq_self`, `distinct_prefix_append` — what is without repetition stays as it is.
-/

set_option autoImplicit false

namespace TexWeave

variable {n : String} {names : List String}

theorem mem_distinct_go {seen : List String} :
    n ∈ distinct.go seen names ↔ n ∈ names ∧ n ∉ seen := by
  induction names generalizing seen with
  | nil => simp [distinct.go]
  | cons m r ih =>
    rw [distinct.go]
    split
    · next hm =>
      have hseen : m ∈ seen := List.contains_iff_mem.1 hm
      rw [ih, List.mem_cons]
      grind
    · rw [List.mem_cons, ih, List.mem_cons, List.mem_cons]
      grind

theorem mem_distinct : n ∈ distinct names ↔ n ∈ names := by
  rw [distinct, mem_distinct_go]
  simp

theorem pairwise_idxOf_distinct_go (seen names : List String) :
    (distinct.go seen names).Pairwise fun a b ↦ names.idxOf a < names.idxOf b := by
  induction names generalizing seen with
  | nil => exact .nil
  | cons n r ih =>
    -- What comes behind the first name is another name, one place further back than in the rest.
    have hrest {seen : List String} (hn : n ∈ seen) : (distinct.go seen r).Pairwise
        fun a b ↦ (n :: r).idxOf a < (n :: r).idxOf b := by
      refine (ih seen).imp_of_mem fun {a b} ha hb hlt ↦ ?_
      have hna : n ≠ a := fun h ↦ (mem_distinct_go.1 ha).2 (h ▸ hn)
      have hnb : n ≠ b := fun h ↦ (mem_distinct_go.1 hb).2 (h ▸ hn)
      rw [List.idxOf_cons_ne r hna, List.idxOf_cons_ne r hnb]
      omega
    rw [distinct.go]
    split
    · next hn => exact hrest (List.contains_iff_mem.1 hn)
    · refine List.pairwise_cons.2 ⟨fun b hb ↦ ?_, hrest List.mem_cons_self⟩
      have hnb : n ≠ b := fun h ↦ (mem_distinct_go.1 hb).2 (h ▸ List.mem_cons_self)
      rw [List.idxOf_cons_self, List.idxOf_cons_ne r hnb]
      exact Nat.succ_pos _

/-- The names that stay stand in the order in which each comes first. -/
theorem pairwise_idxOf_distinct (names : List String) :
    (distinct names).Pairwise fun a b ↦ names.idxOf a < names.idxOf b :=
  pairwise_idxOf_distinct_go [] names

theorem nodup_distinct (names : List String) : (distinct names).Nodup :=
  (pairwise_idxOf_distinct names).imp fun hlt ↦
    ne_of_apply_ne (names.idxOf ·) (Nat.ne_of_lt hlt)

theorem distinct_go_of_nodup {seen : List String} (h : names.Nodup)
    (hseen : ∀ n ∈ names, n ∉ seen) : distinct.go seen names = names := by
  induction names generalizing seen with
  | nil => rfl
  | cons n r ih =>
    obtain ⟨hn, hr⟩ := List.nodup_cons.1 h
    obtain ⟨hfirst, hrest⟩ := List.forall_mem_cons.1 hseen
    rw [distinct.go, if_neg (fun hc ↦ hfirst (List.contains_iff_mem.1 hc)), ih hr]
    intro m hm hmem
    rcases List.mem_cons.1 hmem with rfl | hmem
    · exact hn hm
    · exact hrest m hm hmem

/-- Without repetition all names stay. -/
theorem distinct_eq_self (h : names.Nodup) : distinct names = names :=
  distinct_go_of_nodup h fun _ _ ↦ List.not_mem_nil

theorem distinct_go_prefix_append (seen a b : List String) :
    distinct.go seen a <+: distinct.go seen (a ++ b) := by
  induction a generalizing seen with
  | nil => exact List.nil_prefix
  | cons n r ih =>
    rw [List.cons_append, distinct.go, distinct.go]
    split
    · exact ih seen
    · exact List.cons_prefix_cons.2 ⟨rfl, ih (n :: seen)⟩

theorem distinct_prefix_append (a b : List String) : distinct a <+: distinct (a ++ b) :=
  distinct_go_prefix_append [] a b

end TexWeave

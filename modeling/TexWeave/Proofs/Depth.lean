import Mathlib.Data.Finset.Card
import TexWeave.Proofs.Embedding

/-!
# How deep axes stand in one another

The markup of a plot is looked for up to a depth.  If there is markup at some depth then no axis
that is met on the way stands inside itself, so every axis is met at most once on a way down, and as
many levels suffice as there are axes to meet.

* `Plot.markupWithin_mono` — looking deeper changes nothing.
* `Plot.not_embeds_of_markupWithin` — no axis that has markup stands inside itself.
* `Axes.countPlaces` — how many axes of the table have a property.
* `Plot.markupWithin_countPlaces` — the depth that suffices for a plot.
-/

set_option autoImplicit false

namespace TexWeave

/-! ## Counting axes -/

namespace Axes

variable {axes : Axes} {P Q : Nat → Prop}

section Count

open scoped Classical

/-- The number of axes of the table whose places have a property. -/
noncomputable def countPlaces (axes : Axes) (P : Nat → Prop) : Nat :=
  ((Finset.range axes.size).filter P).card

theorem countPlaces_le_size (axes : Axes) (P : Nat → Prop) : axes.countPlaces P ≤ axes.size :=
  (Finset.card_filter_le _ _).trans (Finset.card_range _).le

/-- Fewer axes have a property that is stronger and fails for one of them. -/
theorem countPlaces_lt {place : Nat} (himp : ∀ b, P b → Q b) (hplace : place < axes.size)
    (hQ : Q place) (hP : ¬ P place) : axes.countPlaces P < axes.countPlaces Q := by
  refine Finset.card_lt_card ((Finset.ssubset_iff_of_subset ?_).2 ⟨place, ?_, ?_⟩)
  · exact Finset.monotone_filter_right _ fun b _ ↦ himp b
  · exact Finset.mem_filter.2 ⟨Finset.mem_range.2 hplace, hQ⟩
  · exact fun h ↦ hP (Finset.mem_filter.1 h).2

theorem countPlaces_pos {place : Nat} (hplace : place < axes.size) (hQ : Q place) :
    0 < axes.countPlaces Q :=
  (Nat.zero_le _).trans_lt (countPlaces_lt (P := fun _ ↦ False) (fun _ ↦ False.elim) hplace hQ id)

end Count

end Axes

namespace Plot

variable {axes : Axes} {p q : Plot} {place j k : Nat} {m : String} {ps : List Plot}
  {ms ms' : List String}

/-! ## Looking deeper -/

theorem Embeds.trans {r : Plot} (h : Embeds axes p q) (h' : Embeds axes q r) :
    Embeds axes p r := by
  induction h with
  | self => exact h'
  | pushed hp _ ih => exact .pushed hp (ih h')

/-- Looking deeper changes nothing. -/
theorem markupWithin_mono (hle : j ≤ k) (h : p.markupWithin axes j = .ok m) :
    p.markupWithin axes k = .ok m := by
  induction k, hle using Nat.le_induction with
  | base => exact h
  | succ k _ ih => exact markupWithin_succ ih

theorem mapM_markupWithin_mono (hle : j ≤ k) (h : ps.mapM (markupWithin axes j) = .ok ms) :
    ps.mapM (markupWithin axes k) = .ok ms :=
  mapM_eq_ok_of_imp (fun _ _ _ ↦ markupWithin_mono hle) h

/-- Plots have the same markup at whatever depth they have it. -/
theorem mapM_markupWithin_inj (h : ps.mapM (markupWithin axes j) = .ok ms)
    (h' : ps.mapM (markupWithin axes k) = .ok ms') : ms = ms' :=
  Except.ok.inj ((mapM_markupWithin_mono (Nat.le_max_left j k) h).symm.trans
    (mapM_markupWithin_mono (Nat.le_max_right j k) h'))

/-- The markup of an axis is that of its plots in its frame. -/
theorem markupWithin_axis_eq_ok : (axis place).markupWithin axes (k + 1) = .ok m ↔
    ∃ ms, (axes[place]?.getD {}).plots.mapM (markupWithin axes k) = .ok ms
      ∧ m = (axes[place]?.getD {}).frame ms := by
  rw [markupWithin, bind_eq_ok]
  simp only [pure_eq_ok]

/-- **No axis that has markup stands inside itself.** -/
theorem not_embeds_of_markupWithin (h : (axis place).markupWithin axes k = .ok m)
    (hq : q ∈ (axes[place]?.getD {}).plots) : ¬ q.Embeds axes (.axis place) := by
  intro hembeds
  induction k generalizing m with
  | zero => exact nomatch h
  | succ k ih =>
    obtain ⟨ms, hms, -⟩ := markupWithin_axis_eq_ok.1 h
    obtain ⟨mq, -, hmq⟩ := exists_mem_of_mapM hms hq
    obtain ⟨m', hm', -⟩ := exists_infix_of_markupWithin hembeds hmq
    exact ih hm'

theorem lt_size_of_mem_plots (hq : q ∈ (axes[place]?.getD {}).plots) : place < axes.size := by
  by_contra hplace
  rw [Array.getElem?_eq_none (Nat.le_of_not_lt hplace)] at hq
  exact absurd hq List.not_mem_nil

/-- **The depth that suffices.**  A plot that has markup at all has it as many levels down as it
shows axes, provided that these are in the table. -/
theorem markupWithin_countPlaces (h : p.markupWithin axes k = .ok m)
    (hin : ∀ b, p.Embeds axes (.axis b) → b < axes.size) :
    p.markupWithin axes (axes.countPlaces fun b ↦ p.Embeds axes (.axis b)) = .ok m := by
  induction k generalizing p m with
  | zero => exact markupWithin_mono (Nat.zero_le _) h
  | succ k ih =>
    cases p with
    | curve c | raw markup packages | picture drawing | other v =>
      rw [markupWithin] at h ⊢
      exact h
    | axis place =>
      have hacyclic {q : Plot} := not_embeds_of_markupWithin (q := q) h
      obtain ⟨ms, hms, rfl⟩ := markupWithin_axis_eq_ok.1 h
      -- Each plot on the axis shows fewer axes, for it does not show this one.
      have hfewer {q : Plot} (hq : q ∈ (axes[place]?.getD {}).plots) :
          (axes.countPlaces fun b ↦ q.Embeds axes (.axis b))
            < axes.countPlaces fun b ↦ (axis place).Embeds axes (.axis b) :=
        Axes.countPlaces_lt (fun b ↦ .pushed hq) (hin place (.self _)) (.self _) (hacyclic hq)
      cases hdepth : axes.countPlaces fun b ↦ (axis place).Embeds axes (.axis b) with
      | zero =>
        have hsome : 0 < axes.countPlaces fun b ↦ (axis place).Embeds axes (.axis b) :=
          Axes.countPlaces_pos (hin place (.self _)) (.self _)
        omega
      | succ n =>
        refine markupWithin_axis_eq_ok.2 ⟨ms, ?_, rfl⟩
        refine mapM_eq_ok_of_imp (fun q hq mq hmq ↦ ?_) hms
        have hlt := hfewer hq
        exact markupWithin_mono (by omega) (ih hmq fun b hb ↦ hin b (.pushed hq hb))

end Plot

end TexWeave

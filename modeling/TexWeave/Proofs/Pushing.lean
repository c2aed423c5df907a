import Mathlib.Algebra.GroupWithZero.Nat
import TexWeave.Proofs.Depth
import TexWeave.Proofs.Operations
import TexWeave.Proofs.Swaps
import TexWeave.Proofs.Verbatim

/-!
# Pushing onto a shared axis

An axis may be shown by many figures, of many documents, and by other axes.  What is pushed onto it
shows in all of these places, right before the axis ends, and nowhere else.  So the text of a
document before and after differs in one thing: where the one has the old markup of the axis the
other has the new.

* `Axes.pushed`, `Plot.Pushable` — the table of axes after a push, and the plots that can be pushed.
* `Plot.markupWithin_pushed_of_not_embeds` — plots that do not show the axis keep their markup.
* `Plot.times`, `Document.times` — how often a plot or a document shows the axis.
* `Plot.Pushable.swapsTo`, `Document.exists_swaps_render` — plots and documents that show it have
  its new markup in that many places.
* `Authoring.pushPlot_local` — what a push changes in the text of a document.
-/

set_option autoImplicit false

namespace TexWeave

open Text

/-! ## The table after a push -/

/-- The table of axes after a plot was pushed onto the axis at a place. -/
def Axes.pushed (axes : Axes) (place : Nat) (p : Plot) : Axes :=
  axes.modify place fun a ↦ { a with plots := a.plots ++ [p] }

namespace Axes

variable {axes : Axes} {a b : Nat} {p : Plot}

@[simp] theorem size_pushed : (axes.pushed a p).size = axes.size := Array.size_modify ..

theorem pushed_other (h : a ≠ b) : (axes.pushed a p)[b]? = axes[b]? := by
  rw [pushed, Array.getElem?_modify, if_neg h]

theorem pushed_self (h : a < axes.size) : (axes.pushed a p)[a]?.getD {} =
    { axes[a]?.getD {} with plots := (axes[a]?.getD {}).plots ++ [p] } := by
  rw [pushed, Array.getElem?_modify, if_pos rfl, Array.getElem?_eq_getElem h]
  rfl

end Axes

/-- The first lines of an axis. -/
def Axis.opening (a : Axis) : String :=
  endLines [beginEnvironment "tikzpicture", beginEnvironment a.environment ++ optional a.options]

/-- The last two lines of an axis. -/
def Axis.closing (a : Axis) : String :=
  endEnvironment a.environment ++ "\n" ++ endEnvironment "tikzpicture"

theorem Axis.frame_eq (a : Axis) (ms : List String) :
    a.frame ms = a.opening ++ endLines ms ++ a.closing := by
  rw [frame, joinLines_append (by simp) (by simp), ← String.append_assoc,
    ← endLines_eq (by simp), endLines_append]
  simp only [opening, closing, joinLines, joinWith, String.append_assoc]

namespace Plot

variable {axes : Axes} {a depth : Nat} {p q : Plot} {m t : String}

/-- A plot can be pushed onto an axis without harm if both are of the same table and the plot does
not show the axis. -/
structure Pushable (axes : Axes) (a : Nat) (p : Plot) : Prop where
  /-- The axis is in the table. -/
  place : a < axes.size
  /-- So are all the axes that the plot shows; there are no others to hold. -/
  inTable : ∀ b, p.Embeds axes (.axis b) → b < axes.size
  /-- Otherwise the axis would come to stand inside itself. -/
  apart : ¬ p.Embeds axes (.axis a)

/-- **Plots that do not show the axis keep their markup.** -/
theorem markupWithin_pushed_of_not_embeds (hq : ¬ q.Embeds axes (.axis a)) (p : Plot)
    (depth : Nat) : q.markupWithin (axes.pushed a p) depth = q.markupWithin axes depth := by
  induction depth generalizing q with
  | zero => cases q <;> rfl
  | succ depth ih =>
    cases q with
    | curve c | raw markup packages | picture drawing | other v => rfl
    | axis b =>
      have hab : a ≠ b := fun h ↦ hq (h ▸ .self _)
      have hplots : (axes[b]?.getD {}).plots.mapM (markupWithin (axes.pushed a p) depth)
          = (axes[b]?.getD {}).plots.mapM (markupWithin axes depth) :=
        mapM_congr fun c hc ↦ ih fun hembeds ↦ hq (.pushed hc hembeds)
      rw [markupWithin, markupWithin, Axes.pushed_other hab, hplots]

/-! ## How often an axis is shown -/

/-- How often a plot shows the axis at a place, when axes are looked into up to a depth. -/
def timesWithin (axes : Axes) (a : Nat) : Nat → Plot → Nat
  | depth + 1, .axis b =>
    if b = a then 1 else ((axes[b]?.getD {}).plots.map (timesWithin axes a depth)).sum
  | _, _ => 0

/-- How often a plot shows the axis at a place. -/
def times (axes : Axes) (a : Nat) (p : Plot) : Nat := p.timesWithin axes a axes.size

theorem timesWithin_of_not_embeds (hq : ¬ q.Embeds axes (.axis a)) :
    q.timesWithin axes a depth = 0 := by
  induction depth generalizing q with
  | zero => cases q <;> rfl
  | succ depth ih =>
    cases q with
    | curve c | raw markup packages | picture drawing | other v => rfl
    | axis b =>
      have hba : b ≠ a := fun h ↦ hq (h ▸ .self _)
      rw [timesWithin, if_neg hba, List.sum_eq_zero_iff_forall_eq_nat]
      intro n hn
      obtain ⟨c, hc, rfl⟩ := List.mem_map.1 hn
      exact ih fun hembeds ↦ hq (.pushed hc hembeds)

theorem timesWithin_pos_of_embeds (hq : q.Embeds axes (.axis a))
    (h : q.markupWithin axes depth = .ok t) : 0 < q.timesWithin axes a depth := by
  induction depth generalizing q t with
  | zero =>
    cases q with
    | axis b => exact nomatch h
    | _ => simp at hq
  | succ depth ih =>
    cases q with
    | axis b =>
      rw [timesWithin]
      split
      · exact Nat.one_pos
      · next hba =>
        obtain hself | ⟨c, hc, hembeds⟩ := embeds_axis.1 hq
        · exact absurd (axis.inj hself).symm hba
        · obtain ⟨ms, hms, -⟩ := markupWithin_axis_eq_ok.1 h
          obtain ⟨mc, -, hmc⟩ := exists_mem_of_mapM hms hc
          exact List.sum_pos_iff_exists_pos_nat.2 ⟨_, List.mem_map_of_mem hc, ih hembeds hmc⟩
    | _ => simp at hq

/-! ## The markup of plots -/

/-- The axes that have to do with a plot `q` when `p` is pushed onto the axis at `a`: those that `q`
shows and that show this axis, and those that `p` shows. -/
def Concerns (axes : Axes) (a : Nat) (p q : Plot) (b : Nat) : Prop :=
  (q.Embeds axes (.axis b) ∧ (Plot.axis b).Embeds axes (.axis a)) ∨ p.Embeds axes (.axis b)

/-- Of the axes that show the one that is pushed onto, fewer concern what they show. -/
theorem Pushable.countPlaces_lt (h : Pushable axes a p) {b : Nat}
    (hb : (Plot.axis b).Embeds axes (.axis a)) {c : Plot} (hc : c ∈ (axes[b]?.getD {}).plots)
    (hacyclic : ¬ c.Embeds axes (.axis b)) :
    axes.countPlaces (Concerns axes a p c) < axes.countPlaces (Concerns axes a p (.axis b)) := by
  refine Axes.countPlaces_lt (fun x hx ↦ hx.imp_left fun hx ↦ ⟨.pushed hc hx.1, hx.2⟩)
    (lt_size_of_mem_plots hc) (.inl ⟨.self _, hb⟩) ?_
  rintro (⟨hcb, -⟩ | hpb)
  · exact hacyclic hcb
  · exact h.apart (hpb.trans hb)

/-- The axes that the pushed plot shows are fewer than those that concern the axis. -/
theorem Pushable.countPlaces_embeds_lt (h : Pushable axes a p) :
    (axes.countPlaces fun b ↦ p.Embeds axes (.axis b))
      < axes.countPlaces (Concerns axes a p (.axis a)) :=
  Axes.countPlaces_lt (fun _ ↦ .inr) h.place (.inl ⟨.self _, .self _⟩) h.apart

end Plot

/-- Two computations on the members of a list, whose results are related one by one. -/
theorem exists_mapM_of_forall {ε α β : Type} {f g : α → Except ε β} {w : α → Nat}
    {R : Nat → β → β → Prop} {S : Nat → List β → List β → Prop} (hnil : S 0 [] [])
    (hcons : ∀ {j k b b' bs bs'}, R j b b' → S k bs bs' → S (j + k) (b :: bs) (b' :: bs'))
    {as : List α} {bs : List β} (h : as.mapM f = .ok bs)
    (hfg : ∀ a ∈ as, ∀ b, f a = .ok b → ∃ b', g a = .ok b' ∧ R (w a) b b') :
    ∃ bs', as.mapM g = .ok bs' ∧ S (as.map w).sum bs bs' := by
  induction as generalizing bs with
  | nil =>
    rw [pure_eq_ok.1 h]
    exact ⟨[], rfl, hnil⟩
  | cons a as ih =>
    obtain ⟨b, rest, hb, hrest, rfl⟩ := mapM_cons_eq_ok.1 h
    obtain ⟨b', hb', hR⟩ := hfg a List.mem_cons_self b hb
    obtain ⟨rest', hrest', hS⟩ := ih hrest fun a' ha' ↦ hfg a' (List.mem_cons_of_mem a ha')
    exact ⟨b' :: rest', mapM_cons_eq_ok.2 ⟨b', rest', hb', hrest', rfl⟩, hcons hR hS⟩

namespace Plot

variable {axes : Axes} {a : Nat} {p q : Plot} {m t : String} {ms : List String}

/-- The axis itself: its plots are as before, and the new one comes after them. -/
theorem Pushable.markupWithin_pushed (h : Pushable axes a p) (hp : p.markup axes = .ok m)
    {k depth : Nat} (hms : (axes[a]?.getD {}).plots.mapM (markupWithin axes k) = .ok ms)
    (hk : k ≤ depth) (hdepth : (axes.countPlaces fun b ↦ p.Embeds axes (.axis b)) ≤ depth) :
    (axis a).markupWithin (axes.pushed a p) (depth + 1)
      = .ok ((axes[a]?.getD {}).frame (ms ++ [m])) := by
  have hacyclic {c : Plot} (hc : c ∈ (axes[a]?.getD {}).plots) : ¬ c.Embeds axes (.axis a) :=
    not_embeds_of_markupWithin (markupWithin_axis_eq_ok.2 ⟨ms, hms, rfl⟩) hc
  refine markupWithin_axis_eq_ok.2 ⟨ms ++ [m], ?_, by rw [Axes.pushed_self h.place]; rfl⟩
  rw [Axes.pushed_self h.place]
  refine mapM_append_eq_ok.2 ⟨ms, [m], ?_, mapM_cons_eq_ok.2 ⟨m, [], ?_, rfl, rfl⟩, rfl⟩
  · refine mapM_eq_ok_of_imp (fun c hc mc hmc ↦ ?_) hms
    rw [markupWithin_pushed_of_not_embeds (hacyclic hc)]
    exact markupWithin_mono hk hmc
  · rw [markupWithin_pushed_of_not_embeds h.apart]
    exact markupWithin_mono hdepth (markupWithin_countPlaces hp h.inTable)

/-- What becomes of the markup of any plot.  The induction is on the depth `k` at which the plot had
its markup; `depth` is one at which it has it now, enough for the axes that concern it. -/
theorem Pushable.exists_swaps_markupWithin (h : Pushable axes a p) (hp : p.markup axes = .ok m)
    {n : Nat} (hms : (axes[a]?.getD {}).plots.mapM (markupWithin axes n) = .ok ms) {k depth : Nat}
    (hq : q.markupWithin axes k = .ok t) (hk : k ≤ depth)
    (hdepth : axes.countPlaces (Concerns axes a p q) ≤ depth) :
    ∃ t', q.markupWithin (axes.pushed a p) depth = .ok t'
      ∧ Swaps ((axes[a]?.getD {}).frame ms) ((axes[a]?.getD {}).frame (ms ++ [m]))
        (q.timesWithin axes a k) t t' := by
  induction k generalizing q depth t with
  | zero =>
    cases q with
    | axis b => exact nomatch hq
    | _ =>
      refine ⟨t, ?_, .same t⟩
      rw [markupWithin_pushed_of_not_embeds (by simp)]
      exact markupWithin_mono hk hq
  | succ k ih =>
    by_cases hembeds : q.Embeds axes (.axis a)
    case neg =>
      refine ⟨t, ?_, ?_⟩
      · rw [markupWithin_pushed_of_not_embeds hembeds]
        exact markupWithin_mono hk hq
      · rw [timesWithin_of_not_embeds hembeds]
        exact .same t
    obtain ⟨depth, rfl⟩ : ∃ d, depth = d + 1 := ⟨depth - 1, by omega⟩
    cases q with
    | curve c | raw markup packages | picture drawing | other v => simp at hembeds
    | axis b =>
      have hacyclic {c : Plot} := not_embeds_of_markupWithin (q := c) hq
      obtain ⟨ms', hms', rfl⟩ := markupWithin_axis_eq_ok.1 hq
      by_cases hba : b = a
      case pos =>
        subst hba
        obtain rfl := mapM_markupWithin_inj hms hms'
        have hlt := h.countPlaces_embeds_lt
        refine ⟨_, h.markupWithin_pushed hp hms' (by omega) (by omega), ?_⟩
        rw [timesWithin, if_pos rfl]
        exact .swap
      case neg =>
        -- Another axis that shows it: its plots are what they have become.
        have hplots : ∀ c ∈ (axes[b]?.getD {}).plots, ∀ mc, c.markupWithin axes k = .ok mc →
            ∃ mc', c.markupWithin (axes.pushed a p) depth = .ok mc' ∧ Swaps
              ((axes[a]?.getD {}).frame ms) ((axes[a]?.getD {}).frame (ms ++ [m]))
              (c.timesWithin axes a k) mc mc' := fun c hc mc hmc ↦ by
          have hlt := h.countPlaces_lt hembeds hc (hacyclic hc)
          exact ih hmc (by omega) (by omega)
        obtain ⟨ms'', hms'', hswaps⟩ := exists_mapM_of_forall
          (S := fun k ls ls' ↦ Swaps _ _ k (endLines ls) (endLines ls')) (.same _)
          (fun hR hS ↦ hR.cons_endLines hS) hms' hplots
        refine ⟨_, markupWithin_axis_eq_ok.2 ⟨ms'', ?_, rfl⟩, ?_⟩
        · rw [Axes.pushed_other (Ne.symm hba)]
          exact hms''
        · rw [Axes.pushed_other (Ne.symm hba), timesWithin, if_neg hba, Axis.frame_eq _ ms',
            Axis.frame_eq _ ms'']
          exact hswaps.enclose _ _

end Plot

/-- Whatever has markup with the one table has it with the other, with `new` in the place of `old`
as often as the first shows the axis at `a`. -/
def Axes.SwapsTo (axes axes' : Axes) (a : Nat) (old new : String) : Prop :=
  ∀ {q : Plot} {t : String}, q.markup axes = .ok t →
    ∃ t', q.markup axes' = .ok t' ∧ Swaps old new (q.times axes a) t t'

/-- **What becomes of the markup of plots.**  The axis has its new plot right before it ends, and
wherever a plot shows the axis it has the new markup. -/
theorem Plot.Pushable.swapsTo {axes : Axes} {a : Nat} {p : Plot} {m old : String}
    (h : p.Pushable axes a) (hp : p.markup axes = .ok m)
    (hold : (Plot.axis a).markup axes = .ok old) :
    ∃ opening, old = opening ++ (axes[a]?.getD {}).closing
      ∧ (Plot.axis a).markup (axes.pushed a p)
        = .ok (opening ++ (m ++ "\n") ++ (axes[a]?.getD {}).closing)
      ∧ axes.SwapsTo (axes.pushed a p) a old (opening ++ (m ++ "\n") ++ (axes[a]?.getD {}).closing)
      := by
  obtain ⟨n, hn⟩ : ∃ n, axes.size = n + 1 :=
    Nat.exists_eq_succ_of_ne_zero (Nat.zero_lt_of_lt h.place).ne'
  rw [Plot.markup, hn] at hold
  obtain ⟨ms, hms, rfl⟩ := Plot.markupWithin_axis_eq_ok.1 hold
  have hnew : (axes[a]?.getD {}).frame (ms ++ [m]) = (axes[a]?.getD {}).opening ++ endLines ms
      ++ (m ++ "\n") ++ (axes[a]?.getD {}).closing := by
    rw [Axis.frame_eq, endLines_append, endLines_cons, endLines_nil, String.append_empty]
    simp only [String.append_assoc]
  have hconcerned (q : Plot) := axes.countPlaces_le_size (Plot.Concerns axes a p q)
  refine ⟨(axes[a]?.getD {}).opening ++ endLines ms, Axis.frame_eq _ ms, ?_, fun {q t} hq ↦ ?_⟩
  · have hlt := h.countPlaces_embeds_lt
    have hle := hconcerned (.axis a)
    rw [Plot.markup, Axes.size_pushed, hn, ← hnew]
    exact h.markupWithin_pushed hp hms (Nat.le_refl n) (by omega)
  · rw [Plot.markup, Axes.size_pushed, ← hnew]
    exact h.exists_swaps_markupWithin hp hms hq (Nat.le_refl _) (hconcerned q)

/-! ## The text of documents -/

/-- How often an entry shows the axis at a place. -/
def Entry.times (axes : Axes) (a : Nat) : Entry → Nat
  | .figure e => e.plot.times axes a
  | _ => 0

/-- How often a document shows the axis at a place. -/
def Document.times (axes : Axes) (a : Nat) (d : Document) : Nat :=
  (d.entries.map (·.times axes a)).sum

section Text

variable {axes axes' : Axes} {a : Nat} {old new : String} {mode : Mode}

theorem Axes.SwapsTo.exists_swaps_contentLines (h : axes.SwapsTo axes' a old new) {n : Nat}
    {e : Entry} {content : List String} (hcontent : contentLines mode axes n e = .ok content) :
    ∃ content', contentLines mode axes' n e = .ok content'
      ∧ SwapsInside old new (e.times axes a) (endLines content) (endLines content') := by
  cases e with
  | text e => exact ⟨content, hcontent, .same _⟩
  | code e => exact ⟨content, hcontent, .same _⟩
  | figure e =>
    obtain ⟨kind, hkind, m, hm, rfl⟩ := contentLines_figure_eq_ok.1 hcontent
    obtain ⟨m', hm', hswaps⟩ := h hm
    refine ⟨_, contentLines_figure_eq_ok.2 ⟨kind, hkind, m', hm', rfl⟩, ?_⟩
    obtain ⟨front, behind, hlines⟩ := exists_figureLines_eq kind e n
    -- Behind the markup of the plot stands the line that closes the figure.
    have hclose : '\\' ∈ (endLines [figureEnd kind]).toList := by cases kind <;> decide
    rw [hlines, hlines, endLines_append, endLines_append _ [figureEnd kind], endLines_append,
      endLines_append front]
    refine .before ?_ hclose (by decide)
    show Swaps old new (e.plot.times axes a) _ _
    simpa using (Swaps.same (endLines front)).append
      (hswaps.cons_endLines (.same (endLines behind)))

theorem Axes.SwapsTo.exists_swaps_blockLines (h : axes.SwapsTo axes' a old new)
    {step : Nat × SectionStep} {bl : List String} (hbl : blockLines mode axes step = .ok bl) :
    ∃ bl', blockLines mode axes' step = .ok bl'
      ∧ SwapsInside old new (step.2.entry.times axes a) (endLines bl) (endLines bl') := by
  obtain ⟨content, hcontent, rfl⟩ := blockLines_eq_ok.1 hbl
  obtain ⟨content', hcontent', hswaps⟩ := h.exists_swaps_contentLines hcontent
  refine ⟨_, blockLines_eq_ok.2 ⟨content', hcontent', rfl⟩, ?_⟩
  simp only [endLines_append]
  simpa using ((SwapsInside.same (endLines (headingLines step.2))).append hswaps).append
    (.same (endLines [""]))

namespace Document

variable {d : Document} {body text : String}

theorem exists_swaps_body (h : axes.SwapsTo axes' a old new) (hbody : d.body axes = .ok body) :
    ∃ body', d.body axes' = .ok body' ∧ body'.isEmpty = body.isEmpty
      ∧ Swaps old new (d.times axes a) body body' := by
  obtain ⟨bs, hbs, rfl⟩ := body_eq_ok_of_blocks.1 hbody
  have hblocks : ∀ step ∈ d.plan, ∀ bl, blockLines d.mode axes step = .ok bl →
      ∃ bl', blockLines d.mode axes' step = .ok bl'
        ∧ SwapsInside old new (step.2.entry.times axes a) (endLines bl) (endLines bl') :=
    fun step _ bl ↦ h.exists_swaps_blockLines
  obtain ⟨bs', hbs', hswaps⟩ := exists_mapM_of_forall
    (R := fun k bl bl' ↦ SwapsInside old new k (endLines bl) (endLines bl'))
    (S := fun k bs bs' ↦ SwapsInside old new k (endLines bs.flatten) (endLines bs'.flatten))
    (.same _) (fun hR hS ↦ by
      rw [List.flatten_cons, List.flatten_cons, endLines_append, endLines_append]
      exact hR.append hS) hbs hblocks
  have htimes : (d.plan.map fun step ↦ step.2.entry.times axes a).sum = d.times axes a := by
    rw [times, ← map_entry_plan, List.map_map]
    rfl
  rw [htimes] at hswaps
  refine ⟨_, body_eq_ok_of_blocks.2 ⟨bs', hbs', rfl⟩, ?_, ?_⟩
  · rw [dropNewlines_joinLines, dropNewlines_joinLines]
    exact hswaps.isEmpty_dropNewlines
  · rw [dropNewlines_joinLines, dropNewlines_joinLines]
    exact hswaps.dropNewlines

theorem exists_swaps_render (h : axes.SwapsTo axes' a old new) (htext : d.render axes = .ok text) :
    ∃ preamble t t', d.preamble = .ok preamble ∧ text = d.frontText preamble ++ t
      ∧ d.render axes' = .ok (d.frontText preamble ++ t')
      ∧ Swaps old new (d.times axes a) t t' := by
  obtain ⟨preamble, body, hpreamble, hbody, rfl⟩ := render_eq_ok.1 htext
  obtain ⟨body', hbody', hempty, hswaps⟩ := exists_swaps_body h hbody
  let behind := (if body.isEmpty then "" else "\n\n") ++ "\\end\x7bdocument\x7d\n"
  refine ⟨preamble, body ++ behind, body' ++ behind, hpreamble, ?_, ?_, ?_⟩
  · rw [joinLines_textParts, String.append_assoc, String.append_assoc]
  · rw [render_eq_ok]
    refine ⟨preamble, body', hpreamble, hbody', ?_⟩
    rw [joinLines_textParts, hempty, String.append_assoc, String.append_assoc]
  · exact hswaps.append (.same behind)

/-- A document that can be rendered shows an axis in no place exactly if none of its figures shows
it. -/
theorem times_eq_zero_iff (htext : d.render axes = .ok text) :
    d.times axes a = 0 ↔ ∀ e ∈ d.figures, ¬ e.plot.Embeds axes (.axis a) := by
  rw [times, List.sum_eq_zero_iff_forall_eq_nat, List.forall_mem_map]
  constructor
  · intro h e he hembeds
    obtain ⟨m, hm, -⟩ := exists_infix_of_figure htext he
    have hpos := Plot.timesWithin_pos_of_embeds hembeds hm
    exact hpos.ne' (h _ (figure_mem_entries he))
  · intro h entry hentry
    cases entry with
    | text e => rfl
    | code e => rfl
    | figure e => exact Plot.timesWithin_of_not_embeds (h e (List.mem_filterMap.2 ⟨_, hentry, rfl⟩))

/-- A document that does not show an axis is rendered as before, be it to a text or to a failure. -/
theorem render_pushed_of_not_embeds {p : Plot}
    (h : ∀ e ∈ d.figures, ¬ e.plot.Embeds axes (.axis a)) :
    d.render (axes.pushed a p) = d.render axes := by
  have hblock : ∀ step ∈ d.plan, blockLines d.mode (axes.pushed a p) step
      = blockLines d.mode axes step := by
    intro step hstep
    have hentry : step.2.entry ∈ d.entries := d.map_entry_plan ▸ List.mem_map_of_mem hstep
    rw [blockLines, blockLines]
    cases hkind : step.2.entry with
    | text e => rfl
    | code e => rfl
    | figure e =>
      have he : e ∈ d.figures := List.mem_filterMap.2 ⟨_, hentry, by rw [hkind]; rfl⟩
      rw [contentLines, contentLines, Plot.markup, Plot.markup, Axes.size_pushed,
        Plot.markupWithin_pushed_of_not_embeds (h e he)]
  rw [render, render, body, body, stepLines_eq_flatten, stepLines_eq_flatten, ← plan,
    mapM_congr hblock]

end Document

end Text

/-! ## Pushing -/

theorem execute_pushPlot (s : Studio) (a : Nat) (p : Plot) :
    (execute (Authoring.pushPlot a p []) s).2 = { s with axes := s.axes.pushed a p } := rfl

/-- **Pushing onto a shared axis is local.**  It changes no document, hence no entry, preamble, plan
or label, for these are made from the document alone; and a document that does not show the axis is
rendered as before.  The text of any other has the markup of the axis in as many places as the
document shows it.  In each of these the markup of the new plot now stands on a line of its own,
right before the line that ends the axis, and nothing else has changed. -/
theorem Authoring.pushPlot_local {s s' : Studio} {a n : Nat} {p : Plot} {m old : String}
    (hpush : execute (Authoring.pushPlot a p []) s = (.ok n, s'))
    (h : p.Pushable s.axes a) (hp : p.markup s.axes = .ok m)
    (hold : (Plot.axis a).markup s.axes = .ok old) :
    s'.documents = s.documents
      ∧ (∀ d : Document, (∀ e ∈ d.figures, ¬ e.plot.Embeds s.axes (.axis a)) →
          d.render s'.axes = d.render s.axes)
      ∧ ∃ opening closing, closing = endEnvironment (s.axes[a]?.getD {}).environment ++ "\n"
          ++ endEnvironment "tikzpicture"
        ∧ old = opening ++ closing
        ∧ (Plot.axis a).markup s'.axes = .ok (opening ++ (m ++ "\n") ++ closing)
        ∧ ∀ (d : Document) (text : String), d.render s.axes = .ok text →
          ∃ preamble first rest, d.preamble = .ok preamble ∧ rest.length = d.times s.axes a
            ∧ text = d.frontText preamble ++ joinWith (opening ++ closing) (first :: rest)
            ∧ d.render s'.axes = .ok (d.frontText preamble
              ++ joinWith (opening ++ (m ++ "\n") ++ closing) (first :: rest)) := by
  obtain rfl : s' = { s with axes := s.axes.pushed a p } :=
    (congrArg Prod.snd hpush).symm.trans (execute_pushPlot s a p)
  obtain ⟨opening, rfl, hnew, hswaps⟩ := h.swapsTo hp hold
  refine ⟨rfl, fun d ↦ Document.render_pushed_of_not_embeds, opening, _, rfl, rfl, hnew,
    fun d text htext ↦ ?_⟩
  obtain ⟨preamble, t, t', hpreamble, rfl, htext', hplaces⟩ :=
    Document.exists_swaps_render hswaps htext
  obtain ⟨first, rest, hlength, rfl, rfl⟩ := hplaces.exists_gaps
  exact ⟨preamble, first, rest, hpreamble, hlength, rfl, htext'⟩

/-- An axis, and another one that shows it twice. -/
def sharedAxes : Axes := #[
  { plots := [.curve { expression := some "x" }] },
  { plots := [.axis 0, .axis 0], environment := "semilogyaxis" }]

/-- A report that shows the first axis by itself and in the other one. -/
def sharedReport : Document where
  entries := [
    .figure { plot := .axis 0 },
    .text { text := "And again:" },
    .figure { plot := .axis 1 }]

/-- What is pushed onto it. -/
def parabola : Plot := .curve { expression := some "x^2" }

theorem pushPlot_local_of_sharedAxes :
    let s : Studio := { documents := #[sharedReport], axes := sharedAxes }
    ∃ s' text, execute (Authoring.pushPlot 0 parabola []) s = (.ok 2, s')
      ∧ sharedReport.render s.axes = .ok text
      ∧ ∃ opening closing front first rest, rest.length = 3
        ∧ text = front ++ joinWith (opening ++ closing) (first :: rest)
        ∧ sharedReport.render s'.axes = .ok (front ++ joinWith
          (opening ++ ("\\addplot \x7bx^2\x7d;" ++ "\n") ++ closing) (first :: rest)) := by
  intro s
  obtain ⟨s', hpush⟩ : ∃ s', execute (Authoring.pushPlot 0 parabola []) s = (.ok 2, s') := ⟨_, rfl⟩
  obtain ⟨text, htext⟩ : ∃ text, sharedReport.render s.axes = .ok text := ⟨_, rfl⟩
  obtain ⟨old, hold⟩ : ∃ old, (Plot.axis 0).markup s.axes = .ok old := ⟨_, rfl⟩
  have hpushable : parabola.Pushable s.axes 0 :=
    ⟨by decide, fun b hb ↦ by simp [parabola] at hb, by simp [parabola]⟩
  obtain ⟨_, _, opening, closing, _, _, _, hrender⟩ :=
    Authoring.pushPlot_local hpush hpushable (m := "\\addplot \x7bx^2\x7d;") rfl hold
  obtain ⟨preamble, first, rest, _, hlength, hbefore, hafter⟩ := hrender sharedReport text htext
  exact ⟨s', text, hpush, htext, opening, closing, _, first, rest, hlength, hbefore, hafter⟩

end TexWeave

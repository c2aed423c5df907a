import TexWeave.Proofs.Marks

/-!
# Plots inside plots

The markup of an axis holds the markup of whatever was pushed onto it, so a figure may show many
plots besides its own.  The packages of a figure are those its own plot names, and an axis names one
package whatever was pushed onto it.

* `Plot.Embeds` — a plot shows another.
* `Plot.exists_infix_of_embeds` — the markup of a plot holds that of every plot it shows.
* `Document.Declares` — the packages a document asks for, one way or another.
* `Document.mem_neededPackages` — these are the packages that are loaded.
* `Document.loads_embedded_iff` — when all packages are loaded that the plots of a document need.
-/

set_option autoImplicit false

namespace TexWeave

open Text

/-! ## What a plot shows -/

namespace Plot

variable {axes : Axes} {p q : Plot} {depth : Nat} {m : String}

/-- `p` shows `q`: it is `q` itself, or an axis onto which a plot was pushed that shows `q`. -/
inductive Embeds (axes : Axes) : Plot → Plot → Prop
  | self (p : Plot) : Embeds axes p p
  | pushed {place : Nat} {p q : Plot} (hp : p ∈ (axes[place]?.getD {}).plots)
      (h : Embeds axes p q) : Embeds axes (.axis place) q

@[simp] theorem embeds_axis {place : Nat} : Embeds axes (.axis place) q ↔
    q = .axis place ∨ ∃ p ∈ (axes[place]?.getD {}).plots, Embeds axes p q := by
  constructor
  · intro h
    cases h with
    | self => exact .inl rfl
    | pushed hp h => exact .inr ⟨_, hp, h⟩
  · rintro (rfl | ⟨p, hp, h⟩)
    · exact .self _
    · exact .pushed hp h

@[simp] theorem embeds_curve {c : Curve} : Embeds axes (.curve c) q ↔ q = .curve c :=
  ⟨fun h ↦ by cases h; rfl, fun h ↦ h ▸ .self _⟩

@[simp] theorem embeds_raw {markup : String} {packages : Option (List String)} :
    Embeds axes (.raw markup packages) q ↔ q = .raw markup packages :=
  ⟨fun h ↦ by cases h; rfl, fun h ↦ h ▸ .self _⟩

@[simp] theorem embeds_picture {drawing : String} :
    Embeds axes (.picture drawing) q ↔ q = .picture drawing :=
  ⟨fun h ↦ by cases h; rfl, fun h ↦ h ▸ .self _⟩

@[simp] theorem embeds_other {v : Value} : Embeds axes (.other v) q ↔ q = .other v :=
  ⟨fun h ↦ by cases h; rfl, fun h ↦ h ▸ .self _⟩

/-- Looking deeper changes no markup that is there already. -/
theorem markupWithin_succ (h : p.markupWithin axes depth = .ok m) :
    p.markupWithin axes (depth + 1) = .ok m := by
  induction depth generalizing p m with
  | zero =>
    cases p with
    | axis place =>
      rw [markupWithin] at h
      cases h
    | curve c | raw markup packages | picture drawing | other v =>
      rw [markupWithin] at h ⊢
      exact h
  | succ depth ih =>
    cases p with
    | axis place =>
      rw [markupWithin] at h ⊢
      obtain ⟨ms, hms, hm⟩ := bind_eq_ok.1 h
      exact bind_eq_ok.2 ⟨ms, mapM_eq_ok_of_imp (fun _ _ _ ↦ ih) hms, hm⟩
    | curve c | raw markup packages | picture drawing | other v =>
      rw [markupWithin] at h ⊢
      exact h

/-- The markup of a plot holds that of every plot it shows, when both are looked for equally
deep. -/
theorem exists_infix_of_markupWithin (hq : Embeds axes p q)
    (h : p.markupWithin axes depth = .ok m) :
    ∃ mq, q.markupWithin axes depth = .ok mq ∧ mq.toList <:+: m.toList := by
  induction hq generalizing depth m with
  | self p => exact ⟨m, h, List.infix_rfl⟩
  | pushed hp _ ih =>
    cases depth with
    | zero =>
      rw [markupWithin] at h
      cases h
    | succ depth =>
      rw [markupWithin] at h
      obtain ⟨ms, hms, hm⟩ := bind_eq_ok.1 h
      obtain ⟨mp, hmp, hmarkup⟩ := exists_mem_of_mapM hms hp
      obtain ⟨mq, hmq, hinfix⟩ := ih hmarkup
      refine ⟨mq, markupWithin_succ hmq, hinfix.trans ?_⟩
      rw [pure_eq_ok.1 hm, Axis.frame]
      exact infix_joinLines (List.mem_append_left _ (List.mem_append_right _ hmp))

/-- **The markup of a plot holds that of every plot it shows.** -/
theorem exists_infix_of_embeds (hq : Embeds axes p q) (h : p.markup axes = .ok m) :
    ∃ mq, q.markup axes = .ok mq ∧ mq.toList <:+: m.toList :=
  exists_infix_of_markupWithin hq h

/-- Markup that was made elsewhere and names packages of its own. -/
inductive Foreign : Plot → Prop
  | raw (markup : String) (packages : Option (List String)) : Foreign (.raw markup packages)
  | picture (drawing : String) : Foreign (.picture drawing)

/-- A plot that is shown by another and is not foreign needs no package the other does not name:
only an axis shows other plots, and it names the package of axes and curves. -/
theorem packages_subset_of_embeds (hq : Embeds axes p q) (h : q = p ∨ ¬ q.Foreign) :
    q.packages ⊆ p.packages := by
  cases hq with
  | self => exact List.Subset.refl _
  | pushed =>
    rcases h with rfl | h
    · exact List.Subset.refl _
    · cases q with
      | curve c => exact List.Subset.refl _
      | axis place => exact List.Subset.refl _
      | raw markup packages => exact absurd (.raw markup packages) h
      | picture drawing => exact absurd (.picture drawing) h
      | other v => exact List.nil_subset _

end Plot

/-! ## The markup of a plot in the text -/

/-- What stands in front of a character other than a line feed is kept when line feeds are
dropped. -/
theorem infix_dropNewlines {l : List Char} {s t : String} {c : Char} (hl : l <:+: s.toList)
    (hc : c ∈ t.toList) (hne : c ≠ '\n') : l <:+: (dropNewlines (s ++ t)).toList := by
  rw [dropNewlines_append_of_mem hc hne, String.toList_append]
  exact hl.trans (List.prefix_append _ _).isInfix

/-- The markup of a plot is one of the lines of its figure, and not the last; the others do not
depend on it. -/
theorem exists_figureLines_eq (kind : FigureType) (e : FigureEntry) (n : Nat) :
    ∃ front behind, ∀ plot,
      figureLines kind e n plot = front ++ plot :: behind ++ [figureEnd kind] := by
  let centering := if kind = .float ∨ kind = .wide then ["\\centering"] else []
  by_cases hfirst : e.caption.isEmpty || e.captionPosition == .after
  · refine ⟨figureBegin kind e :: centering, captionLines kind e n, fun plot ↦ ?_⟩
    rw [figureLines, if_pos hfirst]
  · refine ⟨figureBegin kind e :: (centering ++ captionLines kind e n), [], fun plot ↦ ?_⟩
    rw [figureLines, if_neg hfirst]
    simp [centering]

namespace Document

variable {axes : Axes} {d : Document} {n text : String} {names : List String}

theorem figure_mem_entries {e : FigureEntry} (he : e ∈ d.figures) : .figure e ∈ d.entries := by
  obtain ⟨entry, hentry, h⟩ := List.mem_filterMap.1 he
  cases entry with
  | figure e' => rwa [← Option.some.inj h]
  | text e' => exact absurd h (Option.some_ne_none e).symm
  | code e' => exact absurd h (Option.some_ne_none e).symm

/-- **The markup of every figure stands in the text.** -/
theorem exists_infix_of_figure (h : d.render axes = .ok text) {e : FigureEntry}
    (he : e ∈ d.figures) :
    ∃ m, e.plot.markup axes = .ok m ∧ m.toList <:+: text.toList := by
  obtain ⟨preamble, body, _, hbody, rfl⟩ := render_eq_ok.1 h
  obtain ⟨bs, hbs, hbody⟩ := body_eq_ok_of_blocks.1 hbody
  have hentry := figure_mem_entries he
  rw [← map_entry_plan, List.mem_map] at hentry
  obtain ⟨⟨number, s⟩, hstep, hs⟩ := hentry
  obtain ⟨bl, hbl, hblock⟩ := exists_mem_of_mapM hbs hstep
  obtain ⟨content, hcontent, rfl⟩ := blockLines_eq_ok.1 hblock
  rw [hs] at hcontent
  obtain ⟨kind, -, m, hm, rfl⟩ := contentLines_figure_eq_ok.1 hcontent
  obtain ⟨front, hmem, hfront⟩ : ∃ front, m ∈ front
      ∧ figureLines kind e number m = front ++ [figureEnd kind] := by
    obtain ⟨front, behind, hlines⟩ := exists_figureLines_eq kind e number
    exact ⟨_, List.mem_append_right _ List.mem_cons_self, hlines m⟩
  refine ⟨m, hm, ?_⟩
  obtain ⟨before, after, hsplit⟩ := List.append_of_mem hbl
  have hlines : bs.flatten = (before.flatten ++ (headingLines s ++ front))
      ++ (figureEnd kind :: "" :: after.flatten) := by
    rw [hsplit, List.flatten_append, List.flatten_cons, hfront]
    simp only [List.append_assoc, List.cons_append, List.nil_append]
  have hfound : m.toList <:+: (joinLines (before.flatten ++ (headingLines s ++ front))).toList :=
    infix_joinLines (List.mem_append_right _ (List.mem_append_right _ hmem))
  have hin : m.toList <:+: body.toList := by
    rw [hbody, hlines, joinLines_append (List.ne_nil_of_mem
      (List.mem_append_right _ (List.mem_append_right _ hmem))) (List.cons_ne_nil _ _)]
    refine infix_dropNewlines (c := '\\') hfound ?_ (by decide)
    have hend : '\\' ∈ (figureEnd kind).toList := by cases kind <;> decide
    rw [String.toList_append]
    exact List.mem_append_right _ ((infix_joinLines List.mem_cons_self).subset hend)
  by_cases hempty : body.isEmpty
  · rw [String.isEmpty_iff.1 hempty] at hin
    rw [List.eq_nil_of_infix_nil hin]
    exact List.nil_infix
  · have hpart : body ∈ d.textParts preamble body := by simp [textParts, hempty]
    rw [String.toList_append]
    exact (hin.trans (infix_joinLines hpart)).trans (List.prefix_append _ _).isInfix

/-! ## The packages that are loaded -/

/-- A document asks for a package: it declares it, or links a mail address, or its mode implies the
package, or a figure names it or has a caption outside of a float. -/
inductive Declares (d : Document) : String → Prop
  | package {n : String} (h : n ∈ d.packages) : Declares d n
  | link (h : d.email ≠ "") : Declares d "hyperref"
  | mode {n : String} (h : n ∈ d.mode.policy.packages) : Declares d n
  | figure {n : String} {e : FigureEntry} (he : e ∈ d.figures) (h : n ∈ e.plot.packages) :
      Declares d n
  | caption {e : FigureEntry} (he : e ∈ d.figures) (hcaption : e.caption ≠ "")
      (hkind : e.figureType.getD d.mode.policy.defaultFigure = .inline) : Declares d "caption"

end Document

theorem mem_figurePackages {mode : Mode} {e : FigureEntry} {ps : List String} {n : String}
    (h : figurePackages mode e = .ok ps) :
    n ∈ ps ↔ n ∈ e.plot.packages
      ∨ (e.figureType.getD mode.policy.defaultFigure = .inline ∧ e.caption ≠ "")
        ∧ n = "caption" := by
  obtain ⟨kind, hkind, hps⟩ := bind_eq_ok.1 h
  rw [pure_eq_ok.1 hps, List.mem_append, (figureTypeIn_eq_ok.1 hkind).1]
  refine or_congr_right ?_
  split
  · rename_i hc
    have hcaption : e.caption ≠ "" := by simpa using hc.2
    simp [hc.1, hcaption]
  · rename_i hc
    have hnot : ¬ (kind = .inline ∧ e.caption ≠ "") := by simpa using hc
    simp [hnot]

namespace Document

variable {axes : Axes} {d : Document} {n text : String} {names : List String}

/-- **The packages that are loaded** are those the document asks for. -/
theorem mem_neededPackages (h : d.neededPackages = .ok names) : n ∈ names ↔ d.Declares n := by
  obtain ⟨ps, hps, rfl⟩ := neededPackages_eq_ok.1 h
  rw [mem_distinct, List.mem_append, List.mem_append, List.mem_append]
  constructor
  · rintro (((hn | hn) | hn) | hn)
    · exact .package hn
    · split at hn
      · exact absurd hn List.not_mem_nil
      · rename_i hemail
        rw [List.mem_singleton.1 hn]
        exact .link (by simpa using hemail)
    · exact .mode hn
    · obtain ⟨p, hp, hn⟩ := List.mem_flatten.1 hn
      obtain ⟨e, he, hfigure⟩ := exists_of_mem_mapM hps hp
      rcases (mem_figurePackages hfigure).1 hn with hn | ⟨⟨hkind, hcaption⟩, rfl⟩
      · exact .figure he hn
      · exact .caption he hcaption hkind
  · have hfigure {e : FigureEntry} (he : e ∈ d.figures) {n : String}
        (hn : ∀ p, figurePackages d.mode e = .ok p → n ∈ p) : n ∈ ps.flatten := by
      obtain ⟨p, hp, hep⟩ := exists_mem_of_mapM hps he
      exact List.mem_flatten.2 ⟨p, hp, hn p hep⟩
    intro hn
    cases hn with
    | package hn => exact .inl (.inl (.inl hn))
    | link hemail => exact .inl (.inl (.inr (by simp [hemail])))
    | mode hn => exact .inl (.inr hn)
    | figure he hn => exact .inr (hfigure he fun p hp ↦ (mem_figurePackages hp).2 (.inl hn))
    | caption he hcaption hkind =>
      exact .inr (hfigure he fun p hp ↦ (mem_figurePackages hp).2 (.inr ⟨⟨hkind, hcaption⟩, rfl⟩))

/-- **When all packages are loaded that the plots of a document need.**  Every plot that a figure
shows stands in the text with its markup.  Its packages are loaded, except that foreign markup
pushed onto an axis has to do with what the document asks for anyway. -/
theorem loads_embedded_iff (h : d.render axes = .ok text) :
    ∃ names, d.neededPackages = .ok names
      ∧ (∀ e ∈ d.figures, ∀ q, e.plot.Embeds axes q →
          ∃ m, q.markup axes = .ok m ∧ m.toList <:+: text.toList)
      ∧ ((∀ e ∈ d.figures, ∀ q, e.plot.Embeds axes q → ∀ n ∈ q.packages, n ∈ names)
        ↔ ∀ e ∈ d.figures, ∀ q, e.plot.Embeds axes q → q ≠ e.plot → q.Foreign →
          ∀ n ∈ q.packages, d.Declares n) := by
  obtain ⟨preamble, _, hpreamble, _, _⟩ := render_eq_ok.1 h
  obtain ⟨names, hnames, _⟩ := preamble_eq_ok.1 hpreamble
  refine ⟨names, hnames, fun e he q hq ↦ ?_, fun hall e he q hq _ _ n hn ↦ ?_,
    fun hforeign e he q hq n hn ↦ (mem_neededPackages hnames).2 ?_⟩
  · obtain ⟨m, hm, hinfix⟩ := exists_infix_of_figure h he
    obtain ⟨mq, hmq, hinfix'⟩ := Plot.exists_infix_of_embeds hq hm
    exact ⟨mq, hmq, hinfix'.trans hinfix⟩
  · exact (mem_neededPackages hnames).1 (hall e he q hq n hn)
  · by_cases hself : q = e.plot ∨ ¬ q.Foreign
    · exact .figure he (Plot.packages_subset_of_embeds hq hself hn)
    · obtain ⟨hne, hf⟩ := not_or.1 hself
      exact hforeign e he q hq hne (not_not.1 hf) n hn

/-- A table read from a file, pushed onto an axis together with a curve. -/
def tableAxis : Axis where
  plots := [.curve { expression := some "x" },
    .raw "\\addplot table \x7bdata.csv\x7d;" (some ["pgfplotstable"])]

/-- A report that shows that axis. -/
def tableReport : Document where
  entries := [.figure { plot := .axis 0 }]

theorem loads_embedded_iff_of_tableReport : ∃ text, tableReport.render #[tableAxis] = .ok text
    ∧ ∃ names, tableReport.neededPackages = .ok names
      ∧ ((∀ e ∈ tableReport.figures, ∀ q, e.plot.Embeds #[tableAxis] q →
          ∀ n ∈ q.packages, n ∈ names)
        ↔ ∀ e ∈ tableReport.figures, ∀ q, e.plot.Embeds #[tableAxis] q → q ≠ e.plot →
          q.Foreign → ∀ n ∈ q.packages, tableReport.Declares n) := by
  obtain ⟨text, h⟩ : ∃ text, tableReport.render #[tableAxis] = .ok text := ⟨_, rfl⟩
  obtain ⟨names, hnames, _, hiff⟩ := loads_embedded_iff h
  exact ⟨text, h, names, hnames, hiff⟩

/-- The package of the table is not loaded. -/
theorem not_loads_tableReport : ∃ text names, tableReport.render #[tableAxis] = .ok text
    ∧ tableReport.neededPackages = .ok names
    ∧ ∃ e ∈ tableReport.figures, ∃ q, e.plot.Embeds #[tableAxis] q
      ∧ "pgfplotstable" ∈ q.packages ∧ "pgfplotstable" ∉ names :=
  ⟨_, _, rfl, rfl, _, List.mem_singleton_self _, _,
    @Plot.Embeds.pushed _ 0 _ _ (List.mem_cons_of_mem _ List.mem_cons_self) (.self _),
    List.mem_singleton_self _, by decide⟩

end Document

end TexWeave

import TexWeave.Proofs.Embedding
import TexWeave.Proofs.Environments

/-!
# The environments of a document

The library writes environments around listings, figures and axes, and one around everything.  They
are nested whatever a document holds, as long as no text of the author brings ends of environments
of its own and the environments of axes have proper names.

* `Document.Supplies` — the texts an author supplies with a document, the ones in plots included.
* `balanced_markup` — the markup of a plot, at any depth of axes in axes.
* `balancedLines_blockLines` — what an entry becomes.
* `Document.render_nested` — the whole text: one environment with all others inside.
-/

set_option autoImplicit false

namespace TexWeave

open Text

/-! ## What an author supplies -/

/-- The texts of an entry, those in its plot apart. -/
def Entry.supplied : Entry → List String
  | .text e => e.text :: (e.heading.toList ++ e.source.toList)
  | .code e => [e.description, e.source, e.title, e.name]
  | .figure e => e.caption :: (e.label.toList ++ e.position.toList)

/-- The texts of one plot, those of plots inside of it and the environment of an axis apart. -/
def Plot.supplied (axes : Axes) : Plot → List String
  | .curve c => c.options :: (c.expression.toList ++ c.legend.toList)
  | .axis place => [(axes[place]?.getD {}).options]
  | .raw markup packages => markup :: packages.getD []
  | .picture drawing => [drawing]
  | .other _ => []

/-- A text that the author of a document supplies: its metadata, the packages it declares, and the
texts of its entries and of all plots they show. -/
inductive Document.Supplies (axes : Axes) (d : Document) : String → Prop
  | metadata {t : String} (h : t ∈ [d.title, d.author, d.address, d.email, d.date]) :
      Supplies axes d t
  | package {t : String} (h : t ∈ d.packages) : Supplies axes d t
  | entry {t : String} {e : Entry} (he : e ∈ d.entries) (h : t ∈ e.supplied) : Supplies axes d t
  | plot {t : String} {e : FigureEntry} {q : Plot} (he : e ∈ d.figures)
      (hq : e.plot.Embeds axes q) (h : t ∈ q.supplied axes) : Supplies axes d t

theorem opening_mem_supplied {auto : Bool} {previous : Option String} {e : Entry} {t : String}
    (h : opening auto previous e = some t) : t ∈ e.supplied := by
  cases e with
  | text e =>
    have ht : e.heading = some t := (Option.filter_eq_some_iff.1 h).1
    simp [Entry.supplied, ht]
  | code e =>
    rw [opening] at h
    split at h
    · simp [Entry.supplied, Option.some.inj h]
    · exact absurd h (Option.some_ne_none t).symm
  | figure e => exact absurd h (Option.some_ne_none t).symm

/-! ## Numbers -/

namespace Binary64

theorem not_mem_exponentText (x : Int) : '\\' ∉ exponentText x := by
  have hdigits : '\\' ∉ Nat.toDigits 10 x.natAbs := not_mem_toDigits (by decide) _
  rw [exponentText]
  split <;> split <;> simp [hdigits]

variable {ds : List Char}

theorem not_mem_scientific (h : '\\' ∉ ds) (x : Int) : '\\' ∉ scientific ds x := by
  have hexponent := not_mem_exponentText x
  match ds, h with
  | [], _ => exact List.not_mem_nil
  | [d], h => simpa [scientific, hexponent] using h
  | d :: d' :: r, h => simpa [scientific, hexponent] using h

theorem not_mem_positional (h : '\\' ∉ ds) (x : Int) : '\\' ∉ positional ds x [] := by
  have hzeros (n : Nat) : '\\' ∉ List.replicate n '0' := fun hc ↦
    absurd (List.eq_of_mem_replicate hc) (by decide)
  rw [positional]
  split
  · simp [h, hzeros]
  · have hpadded : '\\' ∉ ds ++ List.replicate (x.toNat + 1 - ds.length) '0' := by
      simp [h, hzeros]
    rw [List.mem_append, not_or]
    refine ⟨fun hc ↦ hpadded (List.mem_of_mem_take hc), ?_⟩
    split
    · exact List.not_mem_nil
    · exact fun hc ↦ hpadded (List.mem_of_mem_drop ((List.mem_cons.1 hc).resolve_left (by decide)))

theorem not_mem_signed (negative : Bool) (h : '\\' ∉ ds) :
    '\\' ∉ (signed negative ds).toList := by
  rw [signed, String.toList_ofList]
  split
  · simp [h]
  · exact h

theorem not_mem_generalText (x : Binary64) : '\\' ∉ x.generalText.toList := by
  cases x with
  | nan => decide
  | infinite negative => exact not_mem_signed negative (by decide)
  | finite negative m e =>
    rw [generalText]
    split
    · exact not_mem_signed negative (by decide)
    · have hdigits (q : Nat) : '\\' ∉ dropZeros (Nat.toDigits 10 q) := fun hc ↦
        not_mem_toDigits (by decide) q ((List.rdropWhile_prefix _ _).subset hc)
      refine not_mem_signed negative ?_
      split
      · exact not_mem_positional (hdigits _) _
      · exact not_mem_scientific (hdigits _) _

end Binary64

theorem not_mem_coordinateText {v : Value} {s : String} (h : coordinateText v = .ok s) :
    '\\' ∉ s.toList := by
  rw [coordinateText.eq_def] at h
  split at h
  · rw [← Except.ok.inj h]
    split <;> decide
  · split at h
    · cases h
    · rw [← Except.ok.inj h]
      exact Binary64.not_mem_generalText _
  · rw [← Except.ok.inj h]
    exact Binary64.not_mem_generalText _
  · cases h
  · cases h

theorem not_mem_pointText {v : Value} {s : String} (h : pointText v = .ok s) :
    '\\' ∉ s.toList := by
  obtain ⟨⟨x, y⟩, _, h⟩ := bind_eq_ok.1 h
  obtain ⟨xs, hx, h⟩ := bind_eq_ok.1 h
  obtain ⟨ys, hy, h⟩ := bind_eq_ok.1 h
  rw [pure_eq_ok.1 h]
  have hx' := not_mem_coordinateText hx
  have hy' := not_mem_coordinateText hy
  simp [String.toList_append, hx', hy']

/-! ## Plots -/

theorem reads_pointsText {vs : List Value} {s : String} (h : pointsText vs = .ok s) :
    Reads s [] := by
  obtain ⟨ps, hps, h⟩ := bind_eq_ok.1 h
  rw [pure_eq_ok.1 h]
  refine .joinWith (by decide) fun p hp ↦ ?_
  obtain ⟨v, _, hv⟩ := exists_of_mem_mapM hps hp
  exact .ofPlain (not_mem_pointText hv)

theorem reads_optional {s : String} (h : Reads s []) : Reads (optional s) [] := by
  rw [optional]
  split
  · exact .empty
  · rw [String.append_assoc]
    exact .enclose (by decide) (by decide) h

theorem reads_legendLine {c : Curve} (h : ∀ l ∈ c.legend, Reads l []) : Reads c.legendLine [] := by
  rw [Curve.legendLine]
  split
  · rename_i l hl
    split
    · exact .empty
    · exact .after (by decide) (.command (by decide) (h l hl))
  · exact .empty

/-- What a curve plots, in front of more. -/
theorem reads_subject {c : Curve} {s t : String} (h : c.subject = .ok s)
    (hexpression : ∀ e ∈ c.expression, Reads e []) (ht : Reads t []) : Reads (s ++ t) [] := by
  rw [Curve.subject] at h
  split at h
  · rename_i e he
    have hall := Reads.enclose_append (w := " \x7b") (r := "\x7d") (by decide) (by decide)
      (hexpression e he) ht
    rw [← Except.ok.inj h]
    simpa [braced, ← String.append_assoc] using hall
  · obtain ⟨ps, hps, h⟩ := bind_eq_ok.1 h
    have hall := Reads.enclose_append (w := " coordinates \x7b") (r := "\x7d") (by decide)
      (by decide) (reads_pointsText hps) ht
    rw [pure_eq_ok.1 h]
    simpa [braced, ← String.append_assoc] using hall

/-- A curve has no environments. -/
theorem reads_curve {axes : Axes} {c : Curve} {m : String} (h : c.markup = .ok m)
    (hc : ∀ t ∈ (Plot.curve c).supplied axes, Unbracketed t) : Reads m [] := by
  obtain ⟨subject, hsubject, h⟩ := bind_eq_ok.1 h
  have hoptions : Reads c.options [] := .ofUnbracketed (hc _ List.mem_cons_self)
  have hexpression : ∀ e ∈ c.expression, Reads e [] := fun e he ↦
    .ofUnbracketed (hc _ (by simp [Plot.supplied, Option.mem_def.1 he]))
  have hlegend : ∀ l ∈ c.legend, Reads l [] := fun l hl ↦
    .ofUnbracketed (hc _ (by simp [Plot.supplied, Option.mem_def.1 hl]))
  have hrest := reads_subject hsubject hexpression
    (.after (w := ";") (by decide) (reads_legendLine hlegend))
  rw [pure_eq_ok.1 h, optional]
  split
  · simpa [String.append_assoc] using Reads.after (w := "\\addplot") (by decide) hrest
  · have hall := Reads.enclose_append (w := "\\addplot[") (r := "]") (by decide) (by decide)
      hoptions hrest
    simpa [← String.append_assoc] using hall

/-- An axis is two environments around the plots it shows. -/
theorem balanced_frame {a : Axis} {ms : List String} (hoptions : Reads a.options [])
    (hname : IsEnvironmentName a.environment) (h : ∀ m ∈ ms, Balanced m) :
    Balanced (a.frame ms) := by
  have hplots : BalancedLines ms := by
    induction ms with
    | nil => exact .nil
    | cons m ms ih =>
      exact .cons (h m List.mem_cons_self) (ih fun m' hm' ↦ h m' (List.mem_cons_of_mem m hm'))
  have hall := ((hplots.environment hname (reads_optional hoptions)).environment
    (by decide : IsEnvironmentName "tikzpicture") .empty).joinLines
  rw [String.append_empty] at hall
  simpa [Axis.frame] using hall

theorem balanced_markupWithin {axes : Axes} : ∀ {depth : Nat} {p : Plot} {m : String},
    p.markupWithin axes depth = .ok m →
    (∀ q, p.Embeds axes q → ∀ t ∈ q.supplied axes, Unbracketed t) →
    (∀ place, p.Embeds axes (.axis place) →
      IsEnvironmentName (axes[place]?.getD {}).environment) → Balanced m
  | _, .curve c, m, h, htexts, _ => by
    rw [Plot.markupWithin] at h
    exact .ofReads (reads_curve h (htexts _ (.self _)))
  | _, .raw markup packages, m, h, htexts, _ => by
    rw [Plot.markupWithin] at h
    rw [← Except.ok.inj h]
    exact .ofReads (.ofUnbracketed (htexts _ (.self _) _ List.mem_cons_self))
  | _, .picture drawing, m, h, htexts, _ => by
    rw [Plot.markupWithin] at h
    rw [← Except.ok.inj h]
    exact .ofReads (Reads.ofUnbracketed (htexts _ (.self _) _ List.mem_cons_self)).dropNewlines
  | _, .other v, m, h, _, _ => by
    rw [Plot.markupWithin] at h
    cases h
  | 0, .axis place, m, h, _, _ => by
    rw [Plot.markupWithin] at h
    cases h
  | depth + 1, .axis place, m, h, htexts, hnames => by
    rw [Plot.markupWithin] at h
    obtain ⟨ms, hms, h⟩ := bind_eq_ok.1 h
    rw [pure_eq_ok.1 h]
    refine balanced_frame (.ofUnbracketed (htexts _ (.self _) _ List.mem_cons_self))
      (hnames place (.self _)) fun m' hm' ↦ ?_
    obtain ⟨p, hp, hm'⟩ := exists_of_mem_mapM hms hm'
    exact balanced_markupWithin hm' (fun q hq ↦ htexts q (.pushed hp hq))
      fun inner hinner ↦ hnames inner (.pushed hp hinner)

/-- **The markup of a plot is balanced**, however deep axes stand in axes. -/
theorem balanced_markup {axes : Axes} {p : Plot} {m : String} (h : p.markup axes = .ok m)
    (htexts : ∀ q, p.Embeds axes q → ∀ t ∈ q.supplied axes, Unbracketed t)
    (hnames : ∀ place, p.Embeds axes (.axis place) →
      IsEnvironmentName (axes[place]?.getD {}).environment) : Balanced m :=
  balanced_markupWithin h htexts hnames

/-! ## Entries -/

/-- The lines around a listing are those of an environment. -/
theorem exists_listing_environment (mode : Mode) : ∃ name options, IsEnvironmentName name
    ∧ Inert options ∧ mode.policy.listingBegin = beginEnvironment name ++ options
    ∧ mode.policy.listingEnd = endEnvironment name := by
  cases mode with
  | standard => exact ⟨"lstlisting", "", by decide, by decide, by decide, by decide⟩
  | tufte => exact ⟨"pygments", "\x7bpython\x7d", by decide, by decide, by decide, by decide⟩

theorem balancedLines_listing (mode : Mode) {source : String} (h : Reads source []) :
    BalancedLines (listing mode source) := by
  obtain ⟨name, options, hname, hoptions, hbegin, hend⟩ := exists_listing_environment mode
  have hsource : BalancedLines [source] := .cons_reads h .nil
  rw [listing, hbegin, hend]
  exact hsource.environment hname (.ofInert hoptions)

theorem balancedLines_headingLines {s : SectionStep} (hopens : ∀ t ∈ s.opens, Reads t [])
    (h : ∀ t ∈ s.entry.supplied, Unbracketed t) : BalancedLines (headingLines s) := by
  rw [headingLines]
  split
  · exact .nil
  · rename_i t ht
    refine .cons_reads (.command (by decide) (hopens t (eq_of_nonempty? ht))) ?_
    split
    · rename_i e he
      have hname : Unbracketed e.name := h _ (by simp [he, Entry.supplied])
      exact .cons_reads (.command (by decide) (.after (by decide) (.ofUnbracketed hname))) .nil
    · exact .nil

section Figure

variable {e : FigureEntry}

theorem reads_figureLabel (h : ∀ t ∈ (Entry.figure e).supplied, Unbracketed t) (n : Nat) :
    Reads (figureLabel e n) [] := by
  rw [figureLabel]
  cases ht : nonempty? e.label with
  | none =>
    refine .after (by decide) (.ofPlain ?_)
    rw [Nat.toString_eq_repr, Nat.toList_repr]
    exact not_mem_toDigits (by decide) n
  | some t => exact .ofUnbracketed (h t (by simp [Entry.supplied, eq_of_nonempty? ht]))

theorem balancedLines_captionLines (h : ∀ t ∈ (Entry.figure e).supplied, Unbracketed t)
    (kind : FigureType) (n : Nat) : BalancedLines (captionLines kind e n) := by
  have hcaption : Reads e.caption [] := .ofUnbracketed (h _ (by simp [Entry.supplied]))
  have hlabel : BalancedLines [command "label" (figureLabel e n)] :=
    .cons_reads (.command (by decide) (reads_figureLabel h n)) .nil
  rw [captionLines]
  refine .ite hlabel (.ite (.cons_reads ?_ hlabel) (.cons_reads ?_ hlabel))
  · have hall := Reads.enclose (w := "\\captionof\x7bfigure\x7d\x7b") (r := "\x7d") (by decide)
      (by decide) hcaption
    simpa [braced, ← String.append_assoc] using hall
  · exact .command (by decide) hcaption

theorem reads_placementOption (h : ∀ t ∈ (Entry.figure e).supplied, Unbracketed t)
    (kind : FigureType) : Reads (placementOption kind e) [] := by
  rw [placementOption]
  split
  · rename_i p hp
    rw [String.append_assoc]
    exact .enclose (by decide) (by decide)
      (.ofUnbracketed (h p (by simp [Entry.supplied, eq_of_nonempty? hp])))
  · split
    · exact .empty
    · exact .ofInert (by decide)

/-- A figure is one environment around the markup of its plot. -/
theorem balancedLines_figureLines (h : ∀ t ∈ (Entry.figure e).supplied, Unbracketed t)
    (kind : FigureType) (n : Nat) {plot : String} (hplot : Balanced plot) :
    BalancedLines (figureLines kind e n plot) := by
  have hcaption := balancedLines_captionLines h kind n
  have hinner : BalancedLines ((if kind = .float ∨ kind = .wide then ["\\centering"] else [])
      ++ if e.caption.isEmpty || e.captionPosition == .after
        then plot :: captionLines kind e n else captionLines kind e n ++ [plot]) :=
    .append (.ite (.cons_reads (.ofInert (by decide)) .nil) .nil)
      (.ite (.cons hplot hcaption) (.append hcaption (.cons hplot .nil)))
  rw [figureLines, figureBegin, figureEnd]
  by_cases hkind : kind = .inline
  · rw [if_pos hkind, if_pos hkind, ← String.append_empty (s := beginEnvironment "center")]
    exact hinner.environment (by decide) .empty
  · rw [if_neg hkind, if_neg hkind]
    exact hinner.environment (by cases kind <;> decide) (reads_placementOption h kind)

end Figure

/-- **What an entry becomes** is balanced, if its texts bring no ends of environments and the markup
of its plot is balanced. -/
theorem balancedLines_blockLines {axes : Axes} {mode : Mode} {step : Nat × SectionStep}
    {bl : List String} (hbl : blockLines mode axes step = .ok bl)
    (h : ∀ t ∈ step.2.entry.supplied, Unbracketed t)
    (hopens : ∀ t ∈ step.2.opens, t ∈ step.2.entry.supplied)
    (hplot : ∀ e ∈ step.2.entry.figure?, ∀ m, e.plot.markup axes = .ok m → Balanced m) :
    BalancedLines bl := by
  obtain ⟨n, s⟩ := step
  obtain ⟨content, hcontent, rfl⟩ := blockLines_eq_ok.1 hbl
  have hheading := balancedLines_headingLines (fun t ht ↦ .ofUnbracketed (h t (hopens t ht))) h
  refine (hheading.append ?_).append (.cons_reads .empty .nil)
  obtain ⟨entry, opens⟩ := s
  cases entry with
  | text e =>
    rw [← Except.ok.inj hcontent]
    refine .cons_reads (.ofUnbracketed (h _ List.mem_cons_self)) ?_
    cases hsource : e.source with
    | none => exact .nil
    | some source =>
      have hlisted : Unbracketed source := h source (by simp [Entry.supplied, hsource])
      exact balancedLines_listing mode (.ofUnbracketed hlisted)
  | code e =>
    rw [← Except.ok.inj hcontent]
    refine .append (.ite .nil (.cons_reads (.ofUnbracketed (h _ ?_)) .nil))
      (balancedLines_listing mode (.ofUnbracketed (h _ ?_)))
    · simp [Entry.supplied]
    · simp [Entry.supplied]
  | figure e =>
    obtain ⟨kind, -, m, hm, rfl⟩ := contentLines_figure_eq_ok.1 hcontent
    exact balancedLines_figureLines h kind n (hplot e rfl m hm)

/-! ## The whole text -/

namespace Document

variable {axes : Axes} {d : Document} {text : String}

theorem unbracketed_plot_packages (htexts : ∀ t, d.Supplies axes t → Unbracketed t)
    {e : FigureEntry} (he : e ∈ d.figures) : ∀ n ∈ e.plot.packages, Unbracketed n := by
  have hplot := fun t ht ↦ htexts t (.plot he (.self e.plot) ht)
  have hpgfplots : ∀ n ∈ ["pgfplots"], Unbracketed n := by decide
  have hpgf : ∀ n ∈ ["pgf"], Unbracketed n := by decide
  cases h : e.plot with
  | curve c => exact hpgfplots
  | axis place => exact hpgfplots
  | raw markup packages =>
    intro n hn
    rw [h] at hplot
    exact hplot n (List.mem_cons_of_mem _ hn)
  | picture drawing => exact hpgf
  | other v => exact fun n hn ↦ absurd hn List.not_mem_nil

theorem reads_of_declares (htexts : ∀ t, d.Supplies axes t → Unbracketed t) {n : String}
    (hn : d.Declares n) : Reads n [] := by
  cases hn with
  | package h => exact .ofUnbracketed (htexts _ (.package h))
  | link h => exact .ofInert (by decide)
  | mode h =>
    have hmode : ∀ m : Mode, ∀ p ∈ m.policy.packages, Inert p := fun m ↦ by cases m <;> decide
    exact .ofInert (hmode d.mode n h)
  | figure he h => exact .ofUnbracketed (unbracketed_plot_packages htexts he n h)
  | caption he hcaption hkind => exact .ofInert (by decide)

theorem reads_metadata (htexts : ∀ t, d.Supplies axes t → Unbracketed t) :
    ∀ t ∈ [d.title, d.author, d.address, d.email, d.date], Reads t [] :=
  fun t ht ↦ .ofUnbracketed (htexts t (.metadata ht))

theorem silent_authorParts (htexts : ∀ t, d.Supplies axes t → Unbracketed t) :
    Silent d.authorParts := by
  refine .append (fun p hp ↦ reads_metadata htexts p ?_) (.ite .nil (.single ?_))
  · have hp' := (List.mem_filter.1 hp).1
    simp only [List.mem_cons] at hp' ⊢
    tauto
  · have hemail : Reads d.email [] := reads_metadata htexts _ (by simp)
    have hshown : Reads (d.email ++ ("\x7d\x7d" ++ "")) [] := .divide (by decide) hemail .empty
    have hlink := Reads.enclose_append (w := "\\href\x7bmailto:")
      (r := "\x7d\x7b\\texttt\x7b") (by decide) (by decide) hemail hshown
    have hparts : "\\href" ++ braced ("mailto:" ++ d.email) ++ braced (command "texttt" d.email)
        = "\\href\x7bmailto:" ++ (d.email ++ ("\x7d\x7b\\texttt\x7b"
          ++ (d.email ++ ("\x7d\x7d" ++ "")))) := by
      rw [← String.toList_inj]
      simp [braced, command, String.toList_append]
    rwa [hparts]

theorem silent_metadataLines (htexts : ∀ t, d.Supplies axes t → Unbracketed t) :
    Silent d.metadataLines := by
  have hmetadata := reads_metadata htexts
  refine .append (.append (.ite .nil (.single (.command (by decide) (hmetadata _ ?_))))
    (.ite .nil (.single (.command (by decide)
      (.joinWith (by decide) (silent_authorParts htexts))))))
    (.ite .nil (.single (.command (by decide) (hmetadata _ ?_))))
  · simp
  · simp

/-- There are no environments in front of the one around everything. -/
theorem reads_preamble (htexts : ∀ t, d.Supplies axes t → Unbracketed t) {preamble : String}
    (h : d.preamble = .ok preamble) : Reads preamble [] := by
  obtain ⟨names, hnames, rfl⟩ := preamble_eq_ok.1 h
  have hclass : ∀ m : Mode, Inert ("\\documentclass" ++ optional m.policy.classOptions
      ++ braced m.policy.documentClass) := fun m ↦ by cases m <;> decide
  have hpolicy : ∀ m : Mode, Inert m.policy.preamble := fun m ↦ by cases m <;> decide
  have hlines : Silent (d.preambleLines names) := by
    refine .append (.append (.append (.append (.cons (.ofInert (hclass d.mode)) fun l hl ↦ ?_)
      (.ite (.single (.ofInert (by decide))) .nil))
      (.ite .nil (.single (.ofInert (hpolicy d.mode))))) (.single .empty))
      (silent_metadataLines htexts)
    obtain ⟨n, hn, rfl⟩ := List.mem_map.1 hl
    exact .command (by decide) (reads_of_declares htexts ((mem_neededPackages hnames).1 hn))
  exact hlines.readsLines.joinLines.dropNewlines

theorem balanced_body (htexts : ∀ t, d.Supplies axes t → Unbracketed t)
    (hnames : ∀ e ∈ d.figures, ∀ place, e.plot.Embeds axes (.axis place) →
      IsEnvironmentName (axes[place]?.getD {}).environment) {body : String}
    (h : d.body axes = .ok body) : Balanced body := by
  obtain ⟨bs, hbs, rfl⟩ := body_eq_ok_of_blocks.1 h
  suffices hlines : BalancedLines bs.flatten by
    obtain ⟨ds, hds, hnested⟩ := hlines.joinLines
    exact ⟨ds, hds.dropNewlines, hnested⟩
  have hblocks : ∀ bl ∈ bs, BalancedLines bl := by
    intro bl hbl
    obtain ⟨step, hstep, hblock⟩ := exists_of_mem_mapM hbs hbl
    have hentry : step.2.entry ∈ d.entries := by
      rw [← d.map_entry_plan]
      exact List.mem_map_of_mem hstep
    refine balancedLines_blockLines hblock (fun t ht ↦ htexts t (.entry hentry ht))
      (fun t ht ↦ ?_) fun e he m hm ↦ ?_
    · obtain ⟨title, htitle⟩ := opens_of_mem_plan hstep
      exact opening_mem_supplied (htitle.symm.trans ht)
    · have hfigure : e ∈ d.figures := List.mem_filterMap.2 ⟨_, hentry, he⟩
      exact balanced_markup hm (fun q hq t ht ↦ htexts t (.plot hfigure hq ht)) (hnames e hfigure)
  clear hbs h
  induction bs with
  | nil => exact .nil
  | cons bl bs ih =>
    exact .append (hblocks bl List.mem_cons_self)
      (ih fun bl' hbl' ↦ hblocks bl' (List.mem_cons_of_mem bl hbl'))

/-- **The environments of a document are nested**, and all of them are inside of one that is around
everything but the preamble.  Texts of the author may hold anything but ends of environments, and
axes may stand in axes to any depth. -/
theorem render_nested (h : d.render axes = .ok text)
    (htexts : ∀ t, d.Supplies axes t → Unbracketed t)
    (hnames : ∀ e ∈ d.figures, ∀ place, e.plot.Embeds axes (.axis place) →
      IsEnvironmentName (axes[place]?.getD {}).environment) :
    ∃ inner, delimiters text.toList = .opens "document" :: inner ++ [.closes "document"]
      ∧ Nested inner := by
  obtain ⟨preamble, body, hpreamble, hbody, rfl⟩ := render_eq_ok.1 h
  have hfront : ReadsLines [preamble, ""] [] :=
    (Silent.cons (reads_preamble htexts hpreamble) (.single .empty)).readsLines
  have hinner : BalancedLines ((if d.title.isEmpty then [] else ["\\maketitle"])
      ++ (if d.contents then ["\\tableofcontents"] else []) ++ [""]
      ++ (if body.isEmpty then [] else [body, ""])) :=
    .append (.ofSilent (.append (.append (.ite .nil (.single (.ofInert (by decide))))
      (.ite (.single (.ofInert (by decide))) .nil)) (.single .empty)))
      (.ite .nil (.cons (balanced_body htexts hnames hbody) (.cons_reads .empty .nil)))
  obtain ⟨inner, hinner, hnested⟩ := hinner
  have hall := hfront.append (hinner.environment (by decide : IsEnvironmentName "document") .empty)
  refine ⟨inner, ?_, hnested⟩
  rw [← endLines_eq (by simp [textParts]), ← List.nil_append (_ :: inner ++ _),
    ← hall.delimiters_eq]
  simp [textParts]

/-- Axes for a handout: one with a curve, a mark and the other axis on it. -/
def handoutAxes : Axes := #[
  { plots := [.curve { expression := some "exp(x)", legend := some "growth" }, .axis 1,
      .raw "\\node at (0,1) \x7b\\textbackslash begin\x7d;" none],
    options := "xlabel=x" },
  { plots := [.curve { coordinates := [.list [.int 0, .int 1]], options := "blue" }],
    environment := "semilogyaxis" }]

/-- A handout that shows them, with listings before and after. -/
def axesHandout : Document where
  title := "Growth"
  email := "a@b.c"
  mode := .tufte
  contents := true
  entries := [
    .code ⟨"The \\emph\x7bidentity\x7d.", "def identity(x):\n    return x", "Identity",
      "identity"⟩,
    .figure { plot := .axis 0, caption := "Growth", captionPosition := .before },
    .text ⟨"The end\n", some "End", some "x = 1"⟩]

/-- What stands within the outer axis: each plot's own strings, and the names of the axes. -/
theorem embeds_handoutAxes {q : Plot} (h : Plot.Embeds handoutAxes (.axis 0) q) :
    (∀ t ∈ q.supplied handoutAxes, Unbracketed t)
      ∧ ∀ place, q = .axis place →
        IsEnvironmentName (handoutAxes[place]?.getD {}).environment := by
  have hq : q = .axis 0 ∨ q = .curve { expression := some "exp(x)", legend := some "growth" }
      ∨ (q = .axis 1
        ∨ q = .curve { coordinates := [.list [.int 0, .int 1]], options := "blue" })
      ∨ q = .raw "\\node at (0,1) \x7b\\textbackslash begin\x7d;" none := by
    simpa [handoutAxes] using h
  obtain rfl | rfl | (rfl | rfl) | rfl := hq
  · exact ⟨by decide, by rintro place ⟨⟩; decide⟩
  · exact ⟨by decide, fun _ hcurve ↦ nomatch hcurve⟩
  · exact ⟨by decide, by rintro place ⟨⟩; decide⟩
  · exact ⟨by decide, fun _ hcurve ↦ nomatch hcurve⟩
  · exact ⟨by decide, fun _ hraw ↦ nomatch hraw⟩

theorem render_nested_of_axesHandout : ∃ text, axesHandout.render handoutAxes = .ok text
    ∧ ∃ inner, delimiters text.toList = .opens "document" :: inner ++ [.closes "document"]
      ∧ Nested inner := by
  obtain ⟨text, h⟩ : ∃ text, axesHandout.render handoutAxes = .ok text := ⟨_, rfl⟩
  have hplot : ∀ e ∈ axesHandout.figures, e.plot = .axis 0 := by
    intro e he
    rw [List.mem_singleton.1 he]
  have hentries : ∀ e ∈ axesHandout.entries, ∀ t ∈ e.supplied, Unbracketed t := by decide
  refine ⟨text, h, render_nested h (fun t ht ↦ ?_) fun e he place hq ↦ ?_⟩
  · cases ht with
    | metadata ht => revert t; decide
    | package ht => revert t; decide
    | entry he ht => exact hentries _ he t ht
    | plot he hq ht => exact (embeds_handoutAxes (hplot _ he ▸ hq)).1 t ht
  · exact (embeds_handoutAxes (hplot e he ▸ hq)).2 place rfl

end Document

end TexWeave

import Mathlib.Data.List.Infix
import TexWeave.Proofs.Blocks
import TexWeave.Proofs.Distinct

/-!
# What the text holds besides listings

A listing can only be found again if nothing else in the text looks like the line that opens one.
The library's own words never do, neither alone nor together with what stands next to them, so it is
enough that no text an author supplies holds the mark: the opening line without its last brace.  The
brace is left out because the library writes one behind every argument.

* `Apart` — two lists that cannot overlap in any text.
* `Unmarked` — a text without the mark, with rules for putting such texts together.
* `Entry.texts`, `Document.texts` — everything an author supplies besides sources.
* `plain_preambleLines`, `exists_plain_of_blockLines` — the lines that are no part of a listing.
-/

set_option autoImplicit false

namespace TexWeave

open Text

/-! ## Where a list can start -/

/-- No end of `a` begins `b`, and `b` begins no end of `a`; so wherever `a` stands in a text, `b`
does not start inside it. -/
def Apart (a b : List Char) : Prop := ∀ t ∈ a.tails, t ≠ [] → ¬ t <+: b ∧ ¬ b <+: t

instance (a b : List Char) : Decidable (Apart a b) :=
  inferInstanceAs (Decidable (∀ t ∈ a.tails, t ≠ [] → ¬ t <+: b ∧ ¬ b <+: t))

theorem Apart.of_cons {x : Char} {l m : List Char} (h : Apart (x :: l) m) : Apart l m :=
  fun t ht ↦ h t (List.mem_cons_of_mem _ ht)

/-- A mark does not start where a text stands that is apart from it. -/
theorem Apart.not_isPrefix_append {l m : List Char} (h : Apart l m) (hl : l ≠ []) (c : List Char) :
    ¬ m <+: l ++ c := by
  obtain ⟨h₁, h₂⟩ := h l ((List.mem_tails _ _).2 List.suffix_rfl) hl
  intro hm
  rcases List.prefix_or_prefix_of_prefix (List.prefix_append l c) hm with h' | h'
  · exact h₁ h'
  · exact h₂ h'

/-- A mark that cannot start in the first part of a text starts in the rest. -/
theorem Apart.infix_append_iff {l m c : List Char} (h : Apart l m) :
    m <:+: l ++ c ↔ m <:+: c := by
  induction l with
  | nil => rfl
  | cons x l ih =>
    rw [List.cons_append, List.infix_cons_iff, ih h.of_cons]
    exact or_iff_right (h.not_isPrefix_append (List.cons_ne_nil x l) c)

/-- A mark that has started before `r` does not go on in it. -/
theorem Apart.not_infix_append {m s r c : List Char} (h : Apart m r) (hs : ¬ m <:+: s)
    (hrc : ¬ m <:+: r ++ c) : ¬ m <:+: s ++ (r ++ c) := by
  rw [List.infix_append_iff_ne_nil]
  rintro (hs' | hrc' | ⟨t₁, t₂, -, ht₂, rfl, -, hpre⟩)
  · exact hs hs'
  · exact hrc hrc'
  · obtain ⟨h₁, h₂⟩ := h t₂ ((List.mem_tails _ _).2 (List.suffix_append t₁ t₂)) ht₂
    rcases List.prefix_or_prefix_of_prefix hpre (List.prefix_append r c) with h' | h'
    · exact h₁ h'
    · exact h₂ h'

/-! ## Texts without the mark -/

/-- The line that opens a listing, without its last brace. -/
def Policy.listingMark (p : Policy) : List Char := p.listingBegin.toList.dropLast

/-- A text that does not hold the mark of a mode. -/
def Unmarked (mode : Mode) (s : String) : Prop := ¬ mode.policy.listingMark <:+: s.toList

instance (mode : Mode) (s : String) : Decidable (Unmarked mode s) :=
  inferInstanceAs (Decidable (¬ mode.policy.listingMark <:+: s.toList))

/-- Two fixed texts between which the mark can neither begin nor end. -/
def Encloses (mode : Mode) (l r : String) : Prop :=
  Apart l.toList mode.policy.listingMark ∧ Apart mode.policy.listingMark r.toList
    ∧ Apart r.toList mode.policy.listingMark

instance (mode : Mode) (l r : String) : Decidable (Encloses mode l r) :=
  inferInstanceAs (Decidable (_ ∧ _ ∧ _))

namespace Unmarked

variable {mode : Mode} {s t : String}

theorem empty (mode : Mode) : Unmarked mode "" := by cases mode <;> decide

theorem of_prefix (ht : Unmarked mode t) (h : s.toList <+: t.toList) : Unmarked mode s :=
  fun hs ↦ ht (hs.trans h.isInfix)

theorem after {l : String} (hl : Apart l.toList mode.policy.listingMark) (hs : Unmarked mode s) :
    Unmarked mode (l ++ s) := by
  rw [Unmarked, String.toList_append, hl.infix_append_iff]
  exact hs

theorem enclose {l r : String} (h : Encloses mode l r) (hs : Unmarked mode s)
    (ht : Unmarked mode t) : Unmarked mode (l ++ s ++ r ++ t) := by
  rw [String.append_assoc, String.append_assoc]
  refine after h.1 ?_
  rw [Unmarked, String.toList_append, String.toList_append]
  exact h.2.1.not_infix_append hs (h.2.2.infix_append_iff.not.2 ht)

/-- What ends a line has nothing behind it but the line feed. -/
theorem enclosed {l r : String} (h : Encloses mode l (r ++ "\n")) (hs : Unmarked mode s) :
    Unmarked mode (l ++ s ++ r) := by
  have hline := enclose h hs (empty mode)
  rw [String.append_empty, ← String.append_assoc] at hline
  exact of_prefix hline ⟨"\n".toList, String.toList_append.symm⟩

theorem command {name : String} (h : Encloses mode ("\\" ++ name ++ "\x7b") "\x7d\n")
    (hs : Unmarked mode s) : Unmarked mode (command name s) := by
  rw [TexWeave.command, braced, ← String.append_assoc, ← String.append_assoc]
  exact enclosed h hs

theorem joinWith {sep : String} (hsep : Encloses mode "" sep) :
    ∀ {ss : List String}, (∀ s ∈ ss, Unmarked mode s) → Unmarked mode (joinWith sep ss)
  | [], _ => empty mode
  | [s], h => h s List.mem_cons_self
  | s :: t :: r, h => by
    have hrest : Unmarked mode (Text.joinWith sep (t :: r)) :=
      joinWith hsep fun u hu ↦ h u (List.mem_cons_of_mem s hu)
    have hall := enclose hsep (h s List.mem_cons_self) hrest
    rwa [String.empty_append, String.append_assoc] at hall

/-- No line of such a text opens a listing. -/
theorem ne_listingBegin (h : Unmarked mode s) {line : String} (hline : line ∈ splitLines s) :
    line ≠ mode.policy.listingBegin := by
  rintro rfl
  exact h ((List.dropLast_prefix _).isInfix.trans (infix_of_mem_splitLines hline))

end Unmarked

/-- Texts without the mark. -/
def Plain (mode : Mode) (ls : List String) : Prop := ∀ l ∈ ls, Unmarked mode l

instance (mode : Mode) (ls : List String) : Decidable (Plain mode ls) :=
  inferInstanceAs (Decidable (∀ l ∈ ls, Unmarked mode l))

namespace Plain

variable {mode : Mode} {a b : List String} {s : String}

theorem nil (mode : Mode) : Plain mode [] := fun _ h ↦ absurd h List.not_mem_nil

theorem cons (hs : Unmarked mode s) (ha : Plain mode a) : Plain mode (s :: a) :=
  List.forall_mem_cons.2 ⟨hs, ha⟩

theorem single (hs : Unmarked mode s) : Plain mode [s] := cons hs (nil mode)

theorem append (ha : Plain mode a) (hb : Plain mode b) : Plain mode (a ++ b) :=
  List.forall_mem_append.2 ⟨ha, hb⟩

theorem ite {c : Prop} [Decidable c] (ha : Plain mode a) (hb : Plain mode b) :
    Plain mode (if c then a else b) := by
  split
  · exact ha
  · exact hb

end Plain

/-! ## What an author supplies -/

/-- The source an entry shows. -/
def Entry.source? : Entry → Option String
  | .text e => e.source
  | .code e => some e.source
  | .figure _ => none

/-- The texts of an entry besides its source: all that an author wrote, the packages of a plot and
the markup it becomes. -/
def Entry.texts (axes : Axes) : Entry → List String
  | .text e => e.text :: e.heading.toList
  | .code e => [e.description, e.title, e.name]
  | .figure e => e.caption :: e.label.toList ++ e.position.toList ++ e.plot.packages
      ++ (e.plot.markup axes).toOption.toList

/-- The sources a document shows, in order. -/
def Document.sources (d : Document) : List String := d.entries.filterMap Entry.source?

/-- The texts of a document besides its sources. -/
def Document.texts (axes : Axes) (d : Document) : List String :=
  [d.title, d.author, d.address, d.email, d.date] ++ d.packages
    ++ d.entries.flatMap (Entry.texts axes)

theorem opening_mem_texts {axes : Axes} {auto : Bool} {previous : Option String} {e : Entry}
    {t : String} (h : opening auto previous e = some t) : t ∈ e.texts axes := by
  cases e with
  | text e =>
    have ht : e.heading = some t := (Option.filter_eq_some_iff.1 h).1
    simp [Entry.texts, ht]
  | code e =>
    rw [opening] at h
    split at h
    · simp [Entry.texts, Option.some.inj h]
    · exact absurd h (Option.some_ne_none t).symm
  | figure e => exact absurd h (Option.some_ne_none t).symm

/-! ## The preamble -/

theorem plain_policy_packages (mode : Mode) : Plain mode mode.policy.packages := by
  cases mode <;> decide

theorem plain_figurePackages {axes : Axes} {mode : Mode} {e : FigureEntry} {ps : List String}
    (h : Plain mode ((Entry.figure e).texts axes)) (hps : figurePackages mode e = .ok ps) :
    Plain mode ps := by
  obtain ⟨kind, _, hps⟩ := bind_eq_ok.1 hps
  rw [pure_eq_ok.1 hps]
  refine .append (fun p hp ↦ h p ?_) (.ite (.single ?_) (.nil mode))
  · simp [Entry.texts, hp]
  · cases mode <;> decide

section Preamble

variable {axes : Axes} {d : Document}

theorem plain_texts_of_mem (h : Plain d.mode (d.texts axes)) {e : Entry} (he : e ∈ d.entries) :
    Plain d.mode (e.texts axes) := fun t ht ↦
  h t (List.mem_append_right _ (List.mem_flatMap.2 ⟨e, he, ht⟩))

theorem plain_neededPackages (h : Plain d.mode (d.texts axes)) {names : List String}
    (hnames : d.neededPackages = .ok names) : Plain d.mode names := by
  obtain ⟨ps, hps, rfl⟩ := Document.neededPackages_eq_ok.1 hnames
  refine fun n hn ↦ (?_ : Plain d.mode _) n (mem_distinct.1 hn)
  refine .append (.append (.append (fun p hp ↦ h p ?_) (.ite (.nil _) (.single ?_)))
    (plain_policy_packages d.mode)) fun n hn ↦ ?_
  · simp [Document.texts, hp]
  · cases d.mode <;> decide
  · obtain ⟨p, hp, hn⟩ := List.mem_flatten.1 hn
    obtain ⟨e, he, hfigure⟩ := exists_of_mem_mapM hps hp
    obtain ⟨entry, hentry, hentrye⟩ := List.mem_filterMap.1 he
    cases entry with
    | figure e' =>
      rw [← Option.some.inj hentrye] at hfigure
      exact plain_figurePackages (plain_texts_of_mem h hentry) hfigure n hn
    | text e' => exact absurd hentrye (Option.some_ne_none e).symm
    | code e' => exact absurd hentrye (Option.some_ne_none e).symm

theorem plain_authorParts (h : Plain d.mode (d.texts axes)) : Plain d.mode d.authorParts := by
  have hemail : Unmarked d.mode d.email := h _ (by simp [Document.texts])
  refine .append (fun p hp ↦ h p ?_) (.ite (.nil _) (.single ?_))
  · have hp' := (List.mem_filter.1 hp).1
    simp only [Document.texts, List.mem_append, List.mem_cons] at hp' ⊢
    tauto
  · have hshown : Unmarked d.mode ("" ++ d.email ++ "\x7d\x7d") :=
      .enclosed (by cases d.mode <;> decide) hemail
    have hlink : Encloses d.mode "\\href\x7bmailto:" "\x7d\x7b\\texttt\x7b" := by
      cases d.mode <;> decide
    have hparts : "\\href" ++ braced ("mailto:" ++ d.email) ++ braced (command "texttt" d.email)
        = "\\href\x7bmailto:" ++ d.email ++ "\x7d\x7b\\texttt\x7b"
          ++ ("" ++ d.email ++ "\x7d\x7d") := by
      rw [← String.toList_inj]
      simp [braced, command, String.toList_append]
    rw [hparts]
    exact Unmarked.enclose hlink hemail hshown

theorem plain_metadataLines (h : Plain d.mode (d.texts axes)) :
    Plain d.mode d.metadataLines := by
  refine .append (.append (.ite (.nil _) (.single (.command ?_ (h _ ?_))))
    (.ite (.nil _) (.single (.command ?_ (.joinWith ?_ (plain_authorParts h))))))
    (.ite (.nil _) (.single (.command ?_ (h _ ?_))))
  · cases d.mode <;> decide
  · simp [Document.texts]
  · cases d.mode <;> decide
  · cases d.mode <;> decide
  · cases d.mode <;> decide
  · simp [Document.texts]

theorem plain_preambleLines (h : Plain d.mode (d.texts axes)) {names : List String}
    (hnames : d.neededPackages = .ok names) : Plain d.mode (d.preambleLines names) := by
  refine .append (.append (.append (.append (.cons ?_ fun l hl ↦ ?_)
    (.ite (.single ?_) (.nil _))) (.ite (.nil _) (.single ?_))) (.single (.empty _)))
    (plain_metadataLines h)
  · cases d.mode <;> decide
  · obtain ⟨n, hn, rfl⟩ := List.mem_map.1 hl
    refine .command ?_ (plain_neededPackages h hnames n hn)
    cases d.mode <;> decide
  · cases d.mode <;> decide
  · have hapart : Apart d.mode.policy.preamble.toList d.mode.policy.listingMark := by
      cases d.mode <;> decide
    have hpreamble := Unmarked.after hapart (.empty d.mode)
    rwa [String.append_empty] at hpreamble

end Preamble

/-! ## Entries -/

theorem eq_of_nonempty? {s : Option String} {t : String} (h : nonempty? s = some t) :
    s = some t :=
  (Option.filter_eq_some_iff.1 h).1

theorem plain_headingLines {axes : Axes} {mode : Mode} {s : SectionStep}
    (h : Plain mode (s.entry.texts axes)) (hopens : ∀ t ∈ s.opens, t ∈ s.entry.texts axes) :
    Plain mode (headingLines s) := by
  rw [headingLines]
  split
  · exact .nil mode
  · rename_i t ht
    have hs : s.opens = some t := eq_of_nonempty? ht
    refine .cons (.command (by cases mode <;> decide) (h t (hopens t hs))) ?_
    split
    · rename_i e he
      have hname : Unmarked mode e.name := h _ (by simp [he, Entry.texts])
      refine .single (.command (by cases mode <;> decide) (.after ?_ hname))
      cases mode <;> decide
    · exact .nil mode

theorem unmarked_toString (mode : Mode) (n : Nat) : Unmarked mode (toString n) := by
  have hdigits : '\\' ∉ (toString n).toList := fun h ↦ by
    rw [Nat.toString_eq_repr, Nat.toList_repr] at h
    exact not_mem_toDigits (by decide) n h
  have hmark : '\\' ∈ mode.policy.listingMark := by cases mode <;> decide
  exact fun h ↦ hdigits (h.subset hmark)

section Figure

variable {axes : Axes} {mode : Mode} {e : FigureEntry}

theorem unmarked_figureLabel (h : Plain mode ((Entry.figure e).texts axes)) (n : Nat) :
    Unmarked mode (figureLabel e n) := by
  rw [figureLabel]
  cases ht : nonempty? e.label with
  | none => exact .after (by cases mode <;> decide) (unmarked_toString mode n)
  | some t => exact h t (by simp [Entry.texts, eq_of_nonempty? ht])

theorem plain_captionLines (h : Plain mode ((Entry.figure e).texts axes)) (kind : FigureType)
    (n : Nat) : Plain mode (captionLines kind e n) := by
  have hcaption : Unmarked mode e.caption := h _ (by simp [Entry.texts])
  have hlabel : Unmarked mode (command "label" (figureLabel e n)) :=
    .command (by cases mode <;> decide) (unmarked_figureLabel h n)
  rw [captionLines]
  refine .ite (.single hlabel) (.ite (.cons ?_ (.single hlabel)) (.cons ?_ (.single hlabel)))
  · have hname : Encloses mode "\\captionof\x7bfigure\x7d\x7b" ("\x7d" ++ "\n") := by
      cases mode <;> decide
    have hparts : "\\captionof" ++ braced "figure" ++ braced e.caption
        = "\\captionof\x7bfigure\x7d\x7b" ++ e.caption ++ "\x7d" := by
      rw [← String.toList_inj]
      simp [braced, String.toList_append]
    rw [hparts]
    exact .enclosed hname hcaption
  · exact .command (by cases mode <;> decide) hcaption

theorem unmarked_placementOption (h : Plain mode ((Entry.figure e).texts axes))
    (kind : FigureType) : Unmarked mode (placementOption kind e) := by
  rw [placementOption]
  split
  · rename_i p hp
    have hposition : Unmarked mode p := h p (by simp [Entry.texts, eq_of_nonempty? hp])
    exact .enclosed (by cases mode <;> decide) hposition
  · split
    · exact .empty mode
    · cases mode <;> decide

theorem unmarked_figureBegin (h : Plain mode ((Entry.figure e).texts axes)) (kind : FigureType) :
    Unmarked mode (figureBegin kind e) := by
  rw [figureBegin]
  split
  · cases mode <;> decide
  · refine .after ?_ (unmarked_placementOption h kind)
    cases mode <;> cases kind <;> decide

theorem plain_figureLines (h : Plain mode ((Entry.figure e).texts axes)) (kind : FigureType)
    (n : Nat) {plot : String} (hplot : e.plot.markup axes = .ok plot) :
    Plain mode (figureLines kind e n plot) := by
  have hplot' : Unmarked mode plot := h plot (by simp [Entry.texts, hplot, Except.toOption])
  have hcaption := plain_captionLines h kind n
  rw [figureLines]
  refine .append (.append (.cons (unmarked_figureBegin h kind) (.ite (.single ?_) (.nil mode)))
    (.ite (.cons hplot' hcaption) (.append hcaption (.single hplot')))) (.single ?_)
  · cases mode <;> decide
  · cases mode <;> cases kind <;> decide

end Figure

/-- **What an entry becomes** is lines without the mark, then its source as a listing if it has
one. -/
theorem exists_plain_of_blockLines {axes : Axes} {mode : Mode} {step : Nat × SectionStep}
    {bl : List String} (hbl : blockLines mode axes step = .ok bl)
    (h : Plain mode (step.2.entry.texts axes))
    (hopens : ∀ t ∈ step.2.opens, t ∈ step.2.entry.texts axes) :
    ∃ plain, Plain mode plain
      ∧ bl = plain ++ (step.2.entry.source?.map (listing mode)).getD [] ++ [""] := by
  obtain ⟨n, s⟩ := step
  obtain ⟨content, hcontent, rfl⟩ := blockLines_eq_ok.1 hbl
  have hheading := plain_headingLines h hopens
  obtain ⟨entry, opens⟩ := s
  cases entry with
  | text e =>
    refine ⟨_, hheading.append (.single (h e.text List.mem_cons_self)), ?_⟩
    rw [← Except.ok.inj hcontent]
    simp [Entry.source?]
  | code e =>
    have hdescription : Plain mode (if e.description.isEmpty then [] else [e.description]) :=
      .ite (.nil mode) (.single (h _ List.mem_cons_self))
    refine ⟨_, hheading.append hdescription, ?_⟩
    rw [← Except.ok.inj hcontent]
    simp [Entry.source?]
  | figure e =>
    obtain ⟨kind, -, plot, hplot, rfl⟩ := contentLines_figure_eq_ok.1 hcontent
    exact ⟨_, hheading.append (plain_figureLines h kind n hplot), by simp [Entry.source?]⟩

end TexWeave

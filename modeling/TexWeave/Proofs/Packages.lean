import TexWeave.Proofs.Embedding
import TexWeave.Proofs.History
import TexWeave.Settings

/-!
# The packages of a document

The packages to load come from the document itself, from its mail address, from its mode and from
its figures.  Each is loaded once, where it is first required.  The packages a document declares are
without repetition already, however they came to be declared, and so they come first as they stand.

* `Document.requiredPackages` — what is required, in order and with repetition.
* `Document.neededPackages_eq` — each of these is loaded at its first place.
* `Document.nodup_of_check`, `Document.nodup_of_assign`, `Document.nodup_addPackage` — the ways in
  which packages are declared.
* `Desk.nodup_packages_run` — after any operations no document declares a package twice.
* `Desk.run_loads` — what is loaded then, and in which order.
-/

set_option autoImplicit false

namespace TexWeave

open Text

/-! ## What is required -/

/-- The packages a figure requires: those of its plot, and one for a caption outside of a float. -/
def FigureEntry.requiredPackages (mode : Mode) (e : FigureEntry) : List String :=
  e.plot.packages ++
    if e.figureType.getD mode.policy.defaultFigure = .inline ∧ e.caption ≠ "" then ["caption"]
    else []

theorem figurePackages_eq_ok {mode : Mode} {e : FigureEntry} {ps : List String}
    (h : figurePackages mode e = .ok ps) : ps = e.requiredPackages mode := by
  obtain ⟨kind, hkind, hps⟩ := bind_eq_ok.1 h
  rw [pure_eq_ok.1 hps, FigureEntry.requiredPackages, (figureTypeIn_eq_ok.1 hkind).1]
  simp

namespace Document

variable {axes : Axes} {d : Document} {names : List String} {text : String}

/-- The packages a document requires, in order: its own, the one that links an address, those of the
mode, and those of the figures. -/
def requiredPackages (d : Document) : List String :=
  d.packages ++ (if d.email.isEmpty then [] else ["hyperref"]) ++ d.mode.policy.packages
    ++ d.figures.flatMap (·.requiredPackages d.mode)

/-- Every package that is required is loaded once. -/
theorem neededPackages_eq (h : d.neededPackages = .ok names) :
    names = distinct d.requiredPackages := by
  obtain ⟨ps, hps, rfl⟩ := neededPackages_eq_ok.1 h
  have hpure : d.figures.mapM (fun e ↦ (pure (e.requiredPackages d.mode) : Except Failure _))
      = .ok ps :=
    mapM_eq_ok_of_imp (fun e _ p hp ↦ pure_eq_ok.2 (figurePackages_eq_ok hp)) hps
  rw [List.mapM_pure, pure_eq_ok] at hpure
  rw [hpure, ← List.flatMap_def]
  rfl

/-- The packages a document declares come first, as long as they are without repetition. -/
theorem packages_prefix (h : d.neededPackages = .ok names) (hd : d.packages.Nodup) :
    d.packages <+: names := by
  rw [neededPackages_eq h, requiredPackages, List.append_assoc, List.append_assoc]
  simpa only [distinct_eq_self hd] using distinct_prefix_append d.packages _

end Document

/-! ## Checks that succeed -/

namespace Checked

variable {α β : Type} {b : β}

theorem map_eq_valid {f : α → β} {c : Checked α} :
    f <$> c = .valid b ↔ ∃ a, c = .valid a ∧ f a = b := by
  cases c <;> simp [Functor.map, Checked.map]

theorem seq_eq_valid {f : Checked (α → β)} {c : Checked α} :
    f <*> c = .valid b ↔ ∃ g a, f = .valid g ∧ c = .valid a ∧ g a = b := by
  cases f <;> cases c <;> simp [Seq.seq, both]

theorem within_eq_valid {c : Checked β} {place : Step} :
    c.within place = .valid b ↔ c = .valid b := by
  cases c <;> simp [within]

end Checked

theorem Check.eq_or_valid_of_withDefault {α : Type} {name : String} {default a : α} {c : Check α}
    {v : Value} (h : withDefault name default c v = .valid a) :
    a = default ∨ ∃ w, c w = .valid a := by
  unfold withDefault at h
  split at h
  · exact .inr ⟨_, Checked.within_eq_valid.1 h⟩
  · exact .inl (Checked.valid.inj h).symm

/-! ## The packages that are declared -/

theorem nodup_defaultPackages : defaultPackages.Nodup := by decide

/-- Packages that are checked are without repetition. -/
theorem nodup_of_checkPackages {v : Value} {ps : List String}
    (h : checkPackages v = .valid ps) : ps.Nodup := by
  obtain ⟨names, -, rfl⟩ := Checked.map_eq_valid.1 h
  exact nodup_distinct names

namespace Document

variable {plotOf : PlotReader} {v : Value} {d d' : Document}

theorem nodup_of_checkFields (h : checkFields plotOf v = .valid d) : d.packages.Nodup := by
  unfold checkFields at h
  -- The fields are taken off from the last one on; four of them stand behind the packages.
  iterate 4
    rw [Checked.seq_eq_valid] at h
    obtain ⟨_, _, h, -, rfl⟩ := h
  rw [Checked.seq_eq_valid] at h
  obtain ⟨_, ps, h, hps, rfl⟩ := h
  iterate 5
    rw [Checked.seq_eq_valid] at h
    obtain ⟨_, _, h, -, rfl⟩ := h
  obtain ⟨_, -, rfl⟩ := Checked.map_eq_valid.1 h
  show ps.Nodup
  rcases Check.eq_or_valid_of_withDefault hps with rfl | ⟨w, hw⟩
  · exact nodup_defaultPackages
  · exact nodup_of_checkPackages hw

theorem nodup_of_check (h : (Document.check plotOf v).toExcept = .ok d) : d.packages.Nodup := by
  cases hc : Document.check plotOf v with
  | faulty issues =>
    rw [hc] at h
    exact nomatch h
  | valid d' =>
    rw [hc] at h
    obtain rfl : d' = d := Except.ok.inj h
    cases v with
    | map fields => exact nodup_of_checkFields hc
    | _ => exact nomatch hc

theorem nodup_of_assign {name : String} (hd : d.packages.Nodup)
    (h : d.assign plotOf name v = .ok d') : d'.packages.Nodup := by
  unfold assign at h
  split at h
  case h_7 =>
    obtain ⟨ps, hps, rfl⟩ := Checked.exists_of_within_map h
    exact nodup_of_checkPackages hps
  case h_12 =>
    obtain rfl := Except.ok.inj h
    exact hd
  case h_13 => exact nomatch h
  case h_14 => exact nomatch h
  all_goals
    obtain ⟨_, -, rfl⟩ := Checked.exists_of_within_map h
    exact hd

theorem nodup_addPackage (hd : d.packages.Nodup) (name : String) :
    (d.addPackage name).packages.Nodup := by
  unfold addPackage
  split
  · exact hd
  · next hname =>
    have hnot : name ∉ d.packages := fun h ↦ hname (List.contains_iff_mem.2 h)
    exact List.nodup_append_comm.1 (List.nodup_cons.2 ⟨hnot, hd⟩)

end Document

/-! ## Any operations -/

/-- No document of a studio declares a package twice. -/
def Studio.PackagesNodup (s : Studio) : Prop :=
  ∀ (i : DocumentId) (d : Document), s.documents[i]? = some d → d.packages.Nodup

section Step

variable {blocks : List Authoring.OpenBlock} {s s' : Studio} {op : Operation} {a : Answer}

theorem Studio.PackagesNodup.push (h : s.PackagesNodup) {doc : Document}
    (hdoc : doc.packages.Nodup) {i : DocumentId} {d : Document}
    (hd : (s.documents.push doc)[i]? = some d) : d.packages.Nodup := by
  rw [Array.getElem?_push] at hd
  split at hd
  · exact Option.some.inj hd ▸ hdoc
  · exact h i d hd

theorem Studio.PackagesNodup.modify (h : s.PackagesNodup) {place : DocumentId}
    {f : Document → Document} (hf : ∀ {doc : Document}, doc.packages.Nodup → (f doc).packages.Nodup)
    {i : DocumentId} {d : Document} (hd : (s.documents.modify place f)[i]? = some d) :
    d.packages.Nodup := by
  obtain ⟨doc, hdoc, rfl⟩ := exists_of_getElem?_modify hd
  split
  · exact hf (h i doc hdoc)
  · exact h i doc hdoc

/-- An operation declares no package twice. -/
theorem Changes.packagesNodup (hc : Changes blocks s op a s') (h : s.PackagesNodup) :
    s'.PackagesNodup := by
  intro i d hd
  cases hc with
  | construct hdoc => exact h.push (Document.nodup_of_check hdoc) hd
  | create hdoc => exact h.push (Document.nodup_of_check hdoc) hd
  | getOrCreate _ hdoc => exact h.push (Document.nodup_of_check hdoc) hd
  | @assign place plotOf name v doc hdoc =>
    have hold : (s.documents[place]?.getD {}).packages.Nodup := by
      cases hplace : s.documents[place]? with
      | none => exact nodup_defaultPackages
      | some old => exact h place old hplace
    exact h.modify (fun _ ↦ Document.nodup_of_assign hold hdoc) hd
  | addPackage => exact h.modify (fun hdoc ↦ Document.nodup_addPackage hdoc _) hd
  | @entry _ _ _ e => exact h.modify (f := (·.append e)) (fun hdoc ↦ hdoc) hd
  | _ => exact h i d hd

end Step

namespace Desk

theorem nodup_packages_step {desk : Desk} (h : desk.studio.PackagesNodup) (op : Operation) :
    (desk.step op).studio.PackagesNodup := by
  rcases refused_or_changes desk.blocks desk.studio op with ⟨f, hr⟩ | ⟨a, s', hs, hc⟩
  · rw [step_of_refused hr]
    exact h
  · rw [step_of_changes hs hc]
    exact hc.packagesNodup h

/-- **No document ever declares a package twice.** -/
theorem nodup_packages_run (world : World) (ops : List Operation) :
    ((fresh world).run ops).studio.PackagesNodup := by
  have hrun {desk : Desk} (h : desk.studio.PackagesNodup) :
      (desk.run ops).studio.PackagesNodup := by
    induction ops generalizing desk with
    | nil => exact h
    | cons op ops ih => exact ih (nodup_packages_step h op)
  exact hrun fun i d h ↦ by simp [fresh] at h

/-- **How packages are loaded.**  Whatever operations led to a document, if it can be rendered its
preamble loads no package twice.  It loads what the document asks for and nothing else; the packages
the document declares come first as they stand, and of any two packages the one that is required
first comes first. -/
theorem run_loads (world : World) (ops : List Operation) {i : DocumentId} {d : Document}
    (hd : ((fresh world).run ops).studio.documents[i]? = some d) {axes : Axes} {text : String}
    (h : d.render axes = .ok text) :
    ∃ names, d.neededPackages = .ok names
      ∧ d.preamble = .ok (dropNewlines (joinLines (d.preambleLines names)))
      ∧ names.Nodup
      ∧ (∀ n, n ∈ names ↔ d.Declares n)
      ∧ d.packages <+: names
      ∧ names.Pairwise fun a b ↦ d.requiredPackages.idxOf a < d.requiredPackages.idxOf b := by
  obtain ⟨preamble, _, hpreamble, _, _⟩ := Document.render_eq_ok.1 h
  obtain ⟨names, hnames, rfl⟩ := Document.preamble_eq_ok.1 hpreamble
  have hdistinct := Document.neededPackages_eq hnames
  refine ⟨names, hnames, hpreamble, ?_, fun n ↦ Document.mem_neededPackages hnames,
    Document.packages_prefix hnames (nodup_packages_run world ops i d hd), ?_⟩
  · rw [hdistinct]
    exact nodup_distinct _
  · rw [hdistinct]
    exact pairwise_idxOf_distinct _

/-- A project that adds two packages, one of which every document has. -/
def measuringSettings : ProjectSettings where
  document := { packages := ["siunitx", "amsmath"] }

/-- A letter made with these settings, to which a package and a figure in the text are added. -/
def measuringOps : List Operation := [
  .construct (fun v ↦ .other v)
    (.map (("email", .str "ada@example.org") :: measuringSettings.documentFields)),
  .addPackage 0 "tikz",
  .add { given := some 0 } (.figure (.raw "\\draw (0,0);" (some ["tikz", "pgf"]))
    [("figtype", .str "inline"), ("caption", .str "A point")])]

theorem run_loads_of_measuringOps : ∃ d text,
    ((fresh {}).run measuringOps).studio.documents[0]? = some d
      ∧ d.render #[] = .ok text
      ∧ ∃ names, d.neededPackages = .ok names ∧ names.Nodup ∧ d.packages <+: names := by
  obtain ⟨d, text, hd, h⟩ : ∃ d text,
      ((fresh {}).run measuringOps).studio.documents[0]? = some d ∧ d.render #[] = .ok text :=
    ⟨_, _, rfl, rfl⟩
  obtain ⟨names, hnames, _, hnodup, _, hprefix, _⟩ := run_loads {} measuringOps hd h
  exact ⟨d, text, hd, h, names, hnames, hnodup, hprefix⟩

end Desk

end TexWeave

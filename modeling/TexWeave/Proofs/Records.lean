import TexWeave.Check.Settings
import TexWeave.Dump
import TexWeave.Proofs.Packages

/-!
# Records read back

A check takes many spellings for the same thing: words and numbers for a flag, texts for an integer,
fields that are missing or that nobody knows.  What it makes of them is written in one way only, and
that is a spelling it takes too.  So a record that has been checked and written down again is
checked with the same outcome, however deep the records inside it are.

* `Check.Reads` — a check reads back what is written; scalars, lists and choices.
* `CompilerSettings.reads`, `BuildResult.reads` and their kin — the records.
* `Document.read_back` — documents, whose packages are without repetition once they are checked.
* `records_settle` — checking, writing down and checking again.
-/

set_option autoImplicit false

namespace TexWeave

open Value

/-! ## Scalars and lists -/

@[simp] theorem Checked.map_valid {α β : Type} (f : α → β) (a : α) :
    f <$> (Checked.valid a) = .valid (f a) := rfl

@[simp] theorem Checked.seq_valid {α β : Type} (f : α → β) (a : α) :
    Checked.valid f <*> Checked.valid a = .valid (f a) := rfl

@[simp] theorem Checked.within_valid {α : Type} (place : Step) (a : α) :
    (Checked.valid a).within place = .valid a := rfl

namespace Check

variable {α : Type}

/-- Whether a check reads back everything as it is written down. -/
def Reads (c : Check α) (write : α → Value) : Prop := ∀ a, c (write a) = .valid a

/-- Whether what a check makes of a value, written down, is taken for the same again. -/
def Settles (c : Check α) (write : α → Value) : Prop :=
  ∀ v a, c v = .valid a → c (write a) = .valid a

theorem Reads.settles {c : Check α} {write : α → Value} (h : c.Reads write) : c.Settles write :=
  fun _ a _ ↦ h a

theorem reads_string : Reads string .str := fun _ ↦ rfl

theorem reads_orNull_string : Reads (orNull string) ofText? := by
  intro o
  cases o <;> rfl

theorem reads_orNull_integer : Reads (orNull integer) (fun o ↦ (o.map Value.int).getD .null) := by
  intro o
  cases o <;> rfl

/-- A choice reads back its members if their names tell them apart. -/
theorem reads_choice {all : List α} {name : α → String}
    (h : ∀ a, all.find? (name · == name a) = some a) :
    Reads (choice all name) (.str <| name ·) := by
  intro a
  rw [choice, h a]

/-- A list is read back member by member. -/
theorem members_map {c : Check α} {write : α → Value} {as : List α}
    (h : ∀ a ∈ as, c (write a) = .valid a) (n : Nat) :
    members c n (as.map write) = .valid as := by
  induction as generalizing n with
  | nil => rfl
  | cons a as ih =>
    obtain ⟨ha, has⟩ := List.forall_mem_cons.1 h
    rw [List.map_cons, members, ha, ih has]
    rfl

theorem Reads.list {c : Check α} {write : α → Value} (h : c.Reads write) :
    Reads (list c) (fun as ↦ .list (as.map write)) :=
  fun _ ↦ members_map (fun a _ ↦ h a) 0

theorem reads_texts : Reads (list string) ofTexts := reads_string.list

theorem reads_fixedTexts : Reads checkFixedList ofTexts := reads_texts

@[simp] theorem string_str (s : String) : string (.str s) = .valid s := rfl

@[simp] theorem flag_bool (b : Bool) : flag (.bool b) = .valid b := rfl

@[simp] theorem orNull_string_ofText? (o : Option String) :
    orNull string (ofText? o) = .valid o := reads_orNull_string o

@[simp] theorem list_string_ofTexts (ss : List String) : list string (ofTexts ss) = .valid ss :=
  reads_texts ss

end Check

open Check

/-! ## Choices -/

theorem FigureType.reads : FigureType.check.Reads (.str <| name ·) :=
  reads_choice FigureType.ofName?_name

theorem Severity.reads : Severity.check.Reads (.str <| name ·) :=
  reads_choice Severity.ofName?_name

theorem Mode.reads : Mode.check.Reads (.str <| name ·) :=
  reads_choice Mode.ofName?_name

/-! ## Records -/

theorem TextEntry.readsFields : Check.Reads checkFields toValue := fun e ↦ by
  simp [checkFields, toValue, literal, required, withDefault, field?]

theorem CodeEntry.readsFields : Check.Reads checkFields toValue := fun e ↦ by
  simp [checkFields, toValue, literal, required, withDefault, field?]

theorem CompilerSettings.reads : CompilerSettings.check.Reads toValue := fun s ↦ by
  simp [check, toValue, record, withDefault, field?]

theorem DocumentDefaults.reads : DocumentDefaults.check.Reads toValue := fun s ↦ by
  simp [check, toValue, record, withDefault, field?]

theorem ProjectSettings.reads : ProjectSettings.check.Reads toValue := fun s ↦ by
  simp [check, toValue, record, withDefault, field?, CompilerSettings.reads s.compiler,
    DocumentDefaults.reads s.document]

theorem Policy.reads : Policy.check.Reads toValue := fun p ↦ by
  simp [check, toValue, record, required, withDefault, field?, reads_fixedTexts p.packages,
    FigureType.reads p.defaultFigure]

theorem Message.reads : Message.check.Reads toValue := fun m ↦ by
  simp [check, toValue, record, required, withDefault, field?, reads_orNull_integer m.line,
    Severity.reads m.severity]

theorem BuildResult.reads : BuildResult.check.Reads toValue := fun r ↦ by
  simp [check, toValue, record, required, withDefault, field?, reads_texts.list r.passes,
    Message.reads.list r.errors, Message.reads.list r.warnings]

/-! ## Documents -/

/-- The record of what a document stores.  Whether it is in tufte mode is not stored, but follows
from its mode. -/
def Document.stored (d : Document) : Value := .map (d.toValue.fields.filter (·.1 != "tufte"))

/-- A plot cannot be read back from its name, but every other entry can. -/
theorem Entry.read_back (plotOf : PlotReader) {e : Entry} (h : e.figure? = none) :
    Entry.check plotOf e.toValue = .valid e := by
  cases e with
  | text e =>
    change ((TextEntry.checkFields e.toValue).within (.field "text")).map Entry.text = _
    rw [TextEntry.readsFields e]
    rfl
  | code e =>
    change ((CodeEntry.checkFields e.toValue).within (.field "code")).map Entry.code = _
    rw [CodeEntry.readsFields e]
    rfl
  | figure e => cases h

namespace Document

variable {plotOf : PlotReader} {v : Value} {d : Document}

theorem entries_read_back (plotOf : PlotReader) (h : d.figures = []) :
    list (Entry.check plotOf) (.list (d.entries.map Entry.toValue)) = .valid d.entries :=
  members_map (fun e he ↦ e.read_back plotOf (List.filterMap_eq_nil_iff.1 h e he)) 0

theorem packages_read_back (h : d.packages.Nodup) :
    checkPackages (ofTexts d.packages) = .valid d.packages := by
  rw [checkPackages, list_string_ofTexts]
  exact congrArg Checked.valid (distinct_eq_self h)

/-- **A document without figures is read back** once its packages are without repetition. -/
theorem read_back (plotOf : PlotReader) (hpackages : d.packages.Nodup) (hfigures : d.figures = []) :
    check plotOf d.toValue = .valid d ∧ check plotOf d.stored = .valid d := by
  have hentries := entries_read_back plotOf hfigures
  have hpackages := packages_read_back hpackages
  have hmode := Mode.reads d.mode
  constructor <;>
    simp [check, checkFields, stored, toValue, record, withDefault, field?, fields, hentries,
      hpackages, hmode]

end Document

/-- **Records settle.**  Whatever a check of one of the records accepts, it accepts the record it
makes of that, and makes the same of it again: entries of prose and of code, messages, reports of
builds, settings and policies, and documents without figures, with or without the field that tells
their mode a second time. -/
theorem records_settle (plotOf : PlotReader) :
    TextEntry.check.Settles TextEntry.toValue ∧ CodeEntry.check.Settles CodeEntry.toValue
      ∧ Message.check.Settles Message.toValue ∧ BuildResult.check.Settles BuildResult.toValue
      ∧ CompilerSettings.check.Settles CompilerSettings.toValue
      ∧ DocumentDefaults.check.Settles DocumentDefaults.toValue
      ∧ ProjectSettings.check.Settles ProjectSettings.toValue
      ∧ Policy.check.Settles Policy.toValue
      ∧ ∀ v d, Document.check plotOf v = .valid d → d.figures = [] →
        Document.check plotOf d.toValue = .valid d ∧ Document.check plotOf d.stored = .valid d := by
  refine ⟨fun _ e _ ↦ TextEntry.readsFields e, fun _ e _ ↦ CodeEntry.readsFields e,
    Message.reads.settles, BuildResult.reads.settles, CompilerSettings.reads.settles,
    DocumentDefaults.reads.settles, ProjectSettings.reads.settles, Policy.reads.settles,
    fun v d h hfigures ↦ ?_⟩
  have hchecked : (Document.check plotOf v).toExcept = .ok d := by
    rw [h]
    rfl
  exact Document.read_back plotOf (Document.nodup_of_check hchecked) hfigures

/-- A line as a text with a sign, a low line and an empty fraction; flags as a word, a number with a
point and an integer; a repeated package; fields that are missing or unknown; a mode picked by
another field. -/
theorem records_settle_of_spellings :
    let message := Message.mk (some (-42)) "Overfull" .error
    let report := BuildResult.mk true "a.tex" none [["pdflatex", "a"]] [message] [] []
    let settings := ProjectSettings.mk "." { extraArguments := ["-v"] } ⟨true, false, true, []⟩
    let code := CodeEntry.mk "d" "def f(): pass" "F" "f"
    let document : Document :=
      { mode := .tufte, packages := ["tikz", "float"], entries := [.text ⟨"t", none, "x"⟩, .code code] }
    let spelledMessage : Value := .map [("line", .str " -4_2.0 "), ("message", .str "Overfull"),
      ("severity", .str "error"), ("page", .int 3)]
    let spelledReport : Value := .map [("success", .str "Yes"), ("tex_path", .str "a.tex"),
      ("passes", .list [.list [.str "pdflatex", .str "a"]]), ("errors", .list [spelledMessage])]
    let spelledSettings : Value := .map [("compiler", .map [("extra_args", .list [.str "-v"])]),
      ("document", .map [("tufte", .float (.finite false 1 0)), ("auto_sections", .str "OFF"),
        ("toc", .int 1)])]
    let spelledDocument : Value := .map [("tufte", .int 2),
      ("packages", .list [.str "tikz", .str "float", .str "tikz"]),
      ("entries", .list [.map [("kind", .str "text"), ("text", .str "t"), ("source", .str "x")],
        code.toValue])]
    (BuildResult.check spelledReport = .valid report
        ∧ BuildResult.check report.toValue = .valid report)
      ∧ (ProjectSettings.check spelledSettings = .valid settings
        ∧ ProjectSettings.check settings.toValue = .valid settings)
      ∧ (Document.check .other spelledDocument = .valid document ∧ document.figures = []
        ∧ Document.check .other document.stored = .valid document) := by
  intro message report settings code document spelledMessage spelledReport spelledSettings
    spelledDocument
  obtain ⟨-, -, -, hreport, -, -, hsettings, -, hdocument⟩ := records_settle .other
  have hreports : BuildResult.check spelledReport = .valid report := rfl
  have hsettled : ProjectSettings.check spelledSettings = .valid settings := rfl
  have hdocuments : Document.check .other spelledDocument = .valid document := rfl
  exact ⟨⟨hreports, hreport _ _ hreports⟩, ⟨hsettled, hsettings _ _ hsettled⟩, hdocuments, rfl,
    (hdocument _ _ hdocuments rfl).2⟩

end TexWeave

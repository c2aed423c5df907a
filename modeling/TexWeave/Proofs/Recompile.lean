import TexWeave.Proofs.Commands
import TexWeave.Proofs.Paths

/-!
# Compiling what a build has written

There are two ways to a finished document: building it, and compiling the file a build has written.
The second knows nothing but a path, and has to find the name of the job and its directory in it.
It finds the ones the build used, whatever dots the name has, so the two run the same job.  They
differ in one thing: a file is opaque, so the engine always runs twice on it.

* `passesOf_prefix` — the plan of a build begins the plan for its file.
* `pathExists_of_generate` — the file of a build outlives the build.
* `compileFile_agrees` — the two ways side by side.
-/

set_option autoImplicit false

namespace TexWeave

theorem passesOf_prefix (mode : Mode) (engine preprocessor : Command) (refers : Bool) :
    passesOf mode engine preprocessor refers <+: passesOf mode engine preprocessor true := by
  cases mode with
  | tufte => exact List.prefix_refl _
  | standard =>
    cases refers with
    | true => exact List.prefix_refl _
    | false => exact ⟨[engine], rfl⟩

/-- Only the plan of a single pass is shorter. -/
theorem passesOf_eq {mode : Mode} {engine preprocessor : Command} {refers : Bool}
    (h : (passesOf mode engine preprocessor refers).length ≠ 1) :
    passesOf mode engine preprocessor refers = passesOf mode engine preprocessor true := by
  cases mode with
  | tufte => rfl
  | standard =>
    cases refers with
    | true => rfl
    | false => exact absurd rfl h

/-! ## The file -/

theorem keeps_after (s : Store) (outcomes : List Outcome) : s.Keeps (s.after outcomes) := by
  have hfile (s : Store) (f : String × String) : s.Keeps (s.supply f.1 f.2) :=
    s.keeps_supply f.1 f.2
  have hfiles (s : Store) (o : Outcome) :
      s.Keeps (o.files.foldl (fun s f ↦ s.supply f.1 f.2) s) :=
    Store.Keeps.foldl hfile o.files s
  exact Store.Keeps.foldl hfiles outcomes s

/-- The path that writing the markup gives is where the markup is. -/
theorem path_of_writeMarkup {content jobname : String} {directory path : Path} {w w₁ : World}
    (h : execute (writeMarkup content directory jobname) w = (.ok path, w₁)) :
    path = directory.join (jobname ++ ".tex") ∧ w₁.store.pathExists path = true := by
  obtain ⟨s, t, hs, ht, rfl⟩ := writeMarkup_eq_ok h
  rw [execute_writeMarkup, hs] at h
  simp only [ht] at h
  have hpath : path = directory.join (jobname ++ ".tex") :=
    (Except.ok.inj (congrArg Prod.fst h)).symm
  rw [hpath]
  exact ⟨rfl, Store.pathExists_of_write ht⟩

section Build

variable {axes : Axes} {d : Document} {output : String} {settings : CompilerSettings}
  {w w₁ : World} {tools : Tools} {markup : String} {path : Path}
  (ht : resolveTools w.installed d.mode settings = .ok tools) (hm : d.render axes = .ok markup)
  (hw : execute (writeMarkup markup (Path.ofString output) d.jobname) w = (.ok path, w₁))
include ht hm hw

/-- Once the markup is written, a build is the job of its document. -/
theorem finishes_generate : Finishes (Path.ofString output) d.jobname
    (passesOf d.mode (engineCommand tools.engine d.jobname settings.extraArguments)
      [tools.preprocessor.getD "", d.jobname] (d.needsSecondPassWith markup)) w₁
    (execute (generate axes d output settings) w) := by
  rw [generate_of_written ht hm hw, planPasses_eq ht]
  exact finishes_job _ _ _ _

/-- However a build goes on, the file it has written stays. -/
theorem pathExists_of_generate :
    (execute (generate axes d output settings) w).2.store.pathExists path = true := by
  obtain ⟨ran, r, _, hran, _⟩ := finishes_generate ht hm hw
  rw [hran.store]
  exact (keeps_after _ _).pathExists (path_of_writeMarkup hw).2

end Build

/-! ## The two ways -/

/-- Compiling a file that is there runs a job of its stem beside it. -/
theorem finishes_compileFile_of_exists {file : String} {mode : Mode} {settings : CompilerSettings}
    {tools : Tools} {w : World} (hexists : w.store.pathExists (Path.ofString file) = true)
    (ht : resolveTools w.installed mode settings = .ok tools) :
    Finishes (Path.ofString file).parent (Path.ofString file).stem
      (passesOf mode
        (engineCommand tools.engine (Path.ofString file).stem settings.extraArguments)
        [tools.preprocessor.getD "", (Path.ofString file).stem] true) w
      (execute (compileFile file mode settings) w) := by
  rw [compileFile_of_exists hexists ht, planPasses_of_resolved ht]
  exact finishes_job _ _ _ _

/-- The file of a job runs that job. -/
theorem finishes_compileFile {directory : Path} {jobname : String} {mode : Mode}
    {settings : CompilerSettings} {tools : Tools} {w : World} (hdirectory : directory.Normal)
    (hname : jobname ≠ "") (hslash : '/' ∉ jobname.toList)
    (hexists : w.store.pathExists (directory.join (jobname ++ ".tex")) = true)
    (ht : resolveTools w.installed mode settings = .ok tools) :
    Finishes directory jobname
      (passesOf mode (engineCommand tools.engine jobname settings.extraArguments)
        [tools.preprocessor.getD "", jobname] true) w
      (execute (compileFile (directory.join (jobname ++ ".tex")).toString mode settings) w) := by
  have hfile : Path.IsName (jobname ++ ".tex") :=
    Path.isName_append hslash (by decide) (by decide)
  have hread : Path.ofString (directory.join (jobname ++ ".tex")).toString
      = directory.join (jobname ++ ".tex") := Path.ofString_toString (hdirectory.join hfile)
  have h := finishes_compileFile_of_exists (by rwa [hread]) ht
  rwa [hread, Path.stem_join_name directory hname hslash, Path.parent_join_name directory hfile]
    at h

/-- **Building a document and compiling its file agree.**  Let a build have found its tools and
written its markup, and let the file be compiled in any world that has the file and the same tools,
such as the one the build leaves.  Then both run a plan for the same job in the same directory up
to the first failure and read the same log (`Finishes`); the plan of the build begins the other,
and is the other unless it is a single pass; and what they report names the same files. -/
theorem compileFile_agrees (axes : Axes) (d : Document) (output : String)
    (settings : CompilerSettings) (w w₁ w₂ : World) (tools : Tools) (markup : String) (path : Path)
    (ht : resolveTools w.installed d.mode settings = .ok tools)
    (hm : d.render axes = .ok markup)
    (hw : execute (writeMarkup markup (Path.ofString output) d.jobname) w = (.ok path, w₁))
    (hname : d.jobname ≠ "") (hslash : '/' ∉ d.jobname.toList)
    (hexists : w₂.store.pathExists path = true) (hinstalled : w₂.installed = w.installed) :
    let out := Path.ofString output
    let engine : Command := [tools.engine, "-interaction=nonstopmode", "-jobname=" ++ d.jobname]
      ++ settings.extraArguments ++ [d.jobname ++ ".tex"]
    let preprocessor : Command := [tools.preprocessor.getD "", d.jobname]
    let plan := passesOf d.mode engine preprocessor (d.needsSecondPassWith markup)
    let plan' := passesOf d.mode engine preprocessor true
    let built := execute (generate axes d output settings) w
    let compiled := execute (compileFile path.toString d.mode settings) w₂
    path = out.join (d.jobname ++ ".tex")
      ∧ built.2.store.pathExists path = true
      ∧ Finishes out d.jobname plan w₁ built
      ∧ Finishes out d.jobname plan' w₂ compiled
      ∧ plan <+: plan' ∧ (plan.length ≠ 1 → plan = plan')
      ∧ ∀ b b', built.1 = .ok b → compiled.1 = .ok b' →
        b.markupPath = b'.markupPath ∧ b.outputPath = b'.outputPath := by
  intro out engine preprocessor plan plan' built compiled
  have hpath := (path_of_writeMarkup hw).1
  have hbuilt : Finishes out d.jobname plan w₁ built := finishes_generate ht hm hw
  have hcompiled : Finishes out d.jobname plan' w₂ compiled := by
    have h := finishes_compileFile (Path.normal_ofString output) hname hslash (hpath ▸ hexists)
      (by rwa [hinstalled])
    rwa [← hpath] at h
  refine ⟨hpath, pathExists_of_generate ht hm hw, hbuilt, hcompiled, passesOf_prefix _ _ _ _,
    passesOf_eq, fun b b' hb hb' ↦ ?_⟩
  obtain ⟨_, _, _, rfl⟩ := hbuilt.exists_ofLog hb
  obtain ⟨_, _, _, rfl⟩ := hcompiled.exists_ofLog hb'
  exact ⟨rfl, rfl⟩

/-- Notes whose name opens and ends with a dot and has one inside. -/
def dottedNotes : Document where
  jobname := ".notes.v1."
  entries := [.text ⟨"Plain.", none, none⟩]

/-- They are built and compiled as one job, also below a directory above the working one. -/
theorem compileFile_agrees_of_dottedNotes :
    let engine : Command :=
      ["/usr/bin/pdflatex", "-interaction=nonstopmode", "-jobname=.notes.v1.", ".notes.v1..tex"]
    let out := Path.ofString "../out//"
    ∃ markup path w₁, dottedNotes.render #[] = .ok markup
      ∧ execute (writeMarkup markup out dottedNotes.jobname) {} = (.ok path, w₁)
      ∧ path.toString = "../out/.notes.v1..tex"
      ∧ Finishes out ".notes.v1."
        (if dottedNotes.needsSecondPassWith markup then [engine, engine] else [engine]) w₁
        (execute (generate #[] dottedNotes "../out//" {}) {})
      ∧ Finishes out ".notes.v1." [engine, engine] w₁
        (execute (compileFile path.toString .standard {}) w₁) := by
  intro engine out
  obtain ⟨markup, hm⟩ : ∃ markup, dottedNotes.render #[] = .ok markup := ⟨_, rfl⟩
  obtain ⟨path, w₁, hw⟩ : ∃ path w₁,
      execute (writeMarkup markup out dottedNotes.jobname) {} = (.ok path, w₁) := ⟨_, _, rfl⟩
  have ht : resolveTools ({} : World).installed dottedNotes.mode {}
      = .ok ⟨"/usr/bin/pdflatex", none⟩ := rfl
  have hinstalled : w₁.installed = ({} : World).installed := by
    obtain ⟨_, _, _, _, rfl⟩ := writeMarkup_eq_ok hw
    rfl
  obtain ⟨hpath, _, hbuilt, hcompiled, _⟩ := compileFile_agrees #[] dottedNotes "../out//" {} {} w₁
    w₁ _ markup path ht hm hw (by decide) (by decide) (path_of_writeMarkup hw).2 hinstalled
  exact ⟨markup, path, w₁, hm, hw, by rw [hpath]; decide, hbuilt, hcompiled⟩

end TexWeave

import TexWeave.Proofs.Recompile

/-!
# The file that is compiled

Compiling is asked for with the path of a file, and only there is it looked whether the file exists.
What is run is the job that has the stem of the path as its name, and the engine gets that name with
the ending of markup behind it.  So the engine is run on the file it was asked for if the file has
this ending, and something in front of it.  Otherwise it is run on another file of the same
directory, whether or not there is one.

* `Store.FileAt` — a file in the place a path leads to.
* `compileFile_runs_given_iff` — when the commands and the report name the file.
* `compileFile_runs_other` — two files of one stem.
-/

set_option autoImplicit false

namespace TexWeave

namespace Store

variable {s : Store} {p : Path}

/-- A file, and no directory, stands at a path. -/
def FileAt (s : Store) (p : Path) : Prop :=
  ∃ place, s.locate p = .ok place ∧ s.isDirectory place = false ∧ (s.file? place).isSome = true

theorem FileAt.pathExists (h : s.FileAt p) : s.pathExists p = true := by
  obtain ⟨place, hplace, _, hfile⟩ := h
  rw [Store.pathExists, hplace]
  show (s.isDirectory place || (s.file? place).isSome) = true
  rw [hfile, Bool.or_true]

/-- Where a path starts there is a directory, so the path of a file has a name. -/
theorem FileAt.parts_ne_nil (h : s.FileAt p) : p.parts ≠ [] := by
  obtain ⟨place, hplace, hdirectory, _⟩ := h
  intro hparts
  rw [locate, hparts] at hplace
  obtain rfl : start p = place := Except.ok.inj hplace
  have hstart : s.isDirectory (start p) = true := by
    rw [start]
    split <;> rfl
  rw [hstart] at hdirectory
  cases hdirectory

end Store

/-- **The file that is compiled.**  Let there be a file at the path given and let the tools be
found.  Then a job is run in the directory of the file, up to the first failure, and the file is
there under its name.  It is this name with which the commands of the engine end, and this path
that the report names, exactly if the name is the ending of markup with something in front. -/
theorem compileFile_runs_given_iff (file : String) (mode : Mode) (settings : CompilerSettings)
    (w : World) (tools : Tools) (hfile : w.store.FileAt (Path.ofString file))
    (ht : resolveTools w.installed mode settings = .ok tools) :
    let given := Path.ofString file
    let engine : Command := [tools.engine, "-interaction=nonstopmode", "-jobname=" ++ given.stem]
      ++ settings.extraArguments ++ [given.stem ++ ".tex"]
    let plan := passesOf mode engine [tools.preprocessor.getD "", given.stem] true
    let compiled := execute (compileFile file mode settings) w
    Finishes given.parent given.stem plan w compiled
      ∧ given.parent.join given.name = given
      ∧ (engine.getLast? = some given.name ↔ ∃ s, s ≠ "" ∧ given.name = s ++ ".tex")
      ∧ ∀ r, compiled.1 = .ok r →
        (r.markupPath = given.toString ↔ ∃ s, s ≠ "" ∧ given.name = s ++ ".tex") := by
  intro given engine plan compiled
  have hnormal : given.Normal := Path.normal_ofString file
  have hname : Path.IsName given.name := hnormal.isName_name hfile.parts_ne_nil
  have hgiven : given.parent.join given.name = given :=
    hnormal.parent_join_name_self hfile.parts_ne_nil
  have hcompiled : Finishes given.parent given.stem plan w compiled :=
    finishes_compileFile_of_exists hfile.pathExists ht
  refine ⟨hcompiled, hgiven, ?_, fun r hr ↦ ?_⟩
  · rw [List.getLast?_concat, Option.some_inj, Path.stem_append_tex_eq_name_iff]
  · have hslash : '/' ∉ given.stem.toList := fun hc ↦ by
      rw [Path.stem, String.toList_ofList] at hc
      exact hname.not_slash ((Path.stemOf_prefix _).subset hc)
    have hmarkup : Path.IsName (given.stem ++ ".tex") :=
      Path.isName_append hslash (by decide) (by decide)
    obtain ⟨_, _, _, rfl⟩ := hcompiled.exists_ofLog hr
    dsimp only [BuildResult.ofLog]
    rw [← Path.stem_append_tex_eq_name_iff,
      ← Path.toString_join_inj hnormal.parent hmarkup hname, hgiven]

/-- A file below a directory whose name has dots on both sides. -/
def dottedFile : World where
  store := { files := [(["out", ".tr..tex"], "x")], directories := [["out"]] }

/-- It is compiled, however its path is written. -/
theorem compileFile_runs_given_of_dottedFile :
    let engine : Command :=
      ["/usr/bin/lualatex", "-interaction=nonstopmode", "-jobname=.tr.", ".tr..tex"]
    let compiled := execute (compileFile "./out//.tr..tex" .tufte {}) dottedFile
    dottedFile.store.FileAt (Path.ofString "./out//.tr..tex")
      ∧ Finishes (Path.ofString "out") ".tr."
        [engine, ["/usr/bin/pythontex", ".tr."], engine] dottedFile compiled
      ∧ ∀ r, compiled.1 = .ok r → r.markupPath = "out/.tr..tex" := by
  intro engine compiled
  have hfile : dottedFile.store.FileAt (Path.ofString "./out//.tr..tex") := ⟨_, rfl, rfl, rfl⟩
  obtain ⟨hcompiled, _, _, hreport⟩ := compileFile_runs_given_iff "./out//.tr..tex" .tufte {}
    dottedFile ⟨"/usr/bin/lualatex", some "/usr/bin/pythontex"⟩ hfile rfl
  exact ⟨hfile, hcompiled, fun r hr ↦ (hreport r hr).2 ⟨".tr.", by decide, by decide⟩⟩

/-- Two files of one stem. -/
def twinFiles : World where
  store := { files := [(["notes.ltx"], "x"), (["notes.tex"], "y")] }

/-- The one is asked for, and the other is compiled and reported. -/
theorem compileFile_runs_other :
    let engine : Command :=
      ["/usr/bin/pdflatex", "-interaction=nonstopmode", "-jobname=notes", "notes.tex"]
    twinFiles.store.FileAt (Path.ofString "notes.ltx")
      ∧ (Path.ofString "notes.ltx").name = "notes.ltx"
      ∧ ∃ r w, execute (compileFile "notes.ltx" .standard {}) twinFiles = (.ok r, w)
        ∧ r.markupPath = "notes.tex" ∧ r.passes = [engine, engine]
        ∧ w.calls.map Call.command = [engine, engine] :=
  ⟨⟨_, rfl, rfl, rfl⟩, by decide, _, _, rfl, rfl, rfl, rfl⟩

end TexWeave

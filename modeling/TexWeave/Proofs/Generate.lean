import TexWeave.Proofs.Passes
import TexWeave.Proofs.Tools

/-!
# The steps of a build

A build resolves its tools, renders, writes, runs and reports, in that order, and the first step
that fails ends it.  For each step there is a lemma that says what it does to the world; they are
put together in `generate_of_written`, which holds from the moment the markup is on disk.  From then
on a build is a job: a plan, run in a directory, and a report.

* `execute_writeMarkup` — one file is written, and no command is run.
* `buildResult_of_log`, `buildResult_of_directory` — the report, which fails only when a directory
  is in the place of the log.
* `Finishes`, `finishes_job` — what comes of a job, in terms of the outcomes of its runs.
* `generate_ends`, `compileFile_of_exists` — the two ways to a job.
-/

set_option autoImplicit false

namespace TexWeave

/-! ## Writing the markup -/

@[simp] theorem execute_liftExcept {α : Type} (r : Except Failure α) (w : World) :
    execute (writeMarkup.liftExcept r) w = (r, w) := rfl

theorem execute_writeMarkup (content jobname : String) (directory : Path) (w : World) :
    execute (writeMarkup content directory jobname) w =
      match w.store.makeDirectories directory with
      | .error f => (.error f, w)
      | .ok s =>
        match s.write (directory.join (jobname ++ ".tex")) content with
        | .error f => (.error f, { w with store := s })
        | .ok t => (.ok (directory.join (jobname ++ ".tex")),
            ({ w with store := t } : World).note .info buildSource
              ("Wrote " ++ (directory.join (jobname ++ ".tex")).toString)) := by
  rw [writeMarkup, execute_bind_of_ok (execute_get w)]
  cases h : w.store.makeDirectories directory with
  | error f => exact execute_bind_of_error (execute_liftExcept _ w)
  | ok s =>
    rw [execute_bind_of_ok (execute_liftExcept _ w), execute_bind_of_ok (execute_set w _)]
    dsimp only
    cases h' : s.write (directory.join (jobname ++ ".tex")) content with
    | error f => exact execute_bind_of_error (execute_liftExcept _ _)
    | ok t =>
      rw [execute_bind_of_ok (execute_liftExcept _ _)]
      rfl

/-- The world after the markup was written: a file and a record more, and no call. -/
theorem writeMarkup_eq_ok {content jobname : String} {directory path : Path} {w w₁ : World}
    (h : execute (writeMarkup content directory jobname) w = (.ok path, w₁)) :
    ∃ s t, w.store.makeDirectories directory = .ok s
      ∧ s.write (directory.join (jobname ++ ".tex")) content = .ok t
      ∧ w₁ = ({ w with store := t } : World).note .info buildSource
          ("Wrote " ++ (directory.join (jobname ++ ".tex")).toString) := by
  rw [execute_writeMarkup] at h
  split at h
  · cases h
  · next s hs =>
    split at h
    · cases h
    · next t ht =>
      rw [Prod.mk.injEq] at h
      exact ⟨s, t, hs, ht, h.2.symm⟩

/-- Where a directory stands in the way of a file, it still does once the markup is written. -/
theorem directoryAt_of_writeMarkup {content jobname : String} {directory path p : Path}
    {w w₁ : World} (h : execute (writeMarkup content directory jobname) w = (.ok path, w₁))
    (hp : w.store.DirectoryAt p) : w₁.store.DirectoryAt p := by
  obtain ⟨s, t, hs, ht, rfl⟩ := writeMarkup_eq_ok h
  exact (hp.extends (Store.extends_of_makeDirectories hs)).write ht

/-- Writing the markup makes no call, whether it succeeds or not. -/
theorem calls_of_writeMarkup (content jobname : String) (directory : Path) (w : World) :
    (execute (writeMarkup content directory jobname) w).2.calls = w.calls := by
  rw [execute_writeMarkup]
  split
  · rfl
  · split <;> rfl

/-! ## Reading the log -/

/-- A log can be read, or is missing, unless a directory stands in its place. -/
theorem readLog_eq_ok {s : Store} {p : Path} (h : ¬ s.DirectoryAt p) :
    ∃ log, readLog s p = .ok log := by
  rw [readLog]
  cases hl : s.locate p with
  | error fault =>
    rw [Store.pathExists, hl]
    exact ⟨{}, rfl⟩
  | ok place =>
    rw [Store.pathExists, Store.read, hl]
    cases hf : s.file? place with
    | some text => exact ⟨LogReport.ofText text, by simp [Store.occupied, hf, Except.map]⟩
    | none =>
      have hd : s.isDirectory place = false :=
        Bool.eq_false_iff.2 fun hd ↦ h ⟨place, hl, hd, hf⟩
      exact ⟨{}, by simp [Store.occupied, hf, hd]⟩

theorem readLog_eq_error {s : Store} {p : Path} (h : s.DirectoryAt p) :
    readLog s p = .error (.path .isDirectory p.toString) := by
  obtain ⟨place, hl, hd, hf⟩ := h
  rw [readLog, Store.pathExists, Store.read, hl]
  simp [Store.occupied, hf, hd, Except.map]

variable {directory : Path} {jobname : String} (passes : List Command) {w : World}

/-- A report is made without a further call, and no file is changed. -/
theorem buildResult_of_log (h : ¬ w.store.DirectoryAt (directory.join (jobname ++ ".log"))) :
    ∃ log w', readLog w.store (directory.join (jobname ++ ".log")) = .ok log
      ∧ execute (buildResult directory jobname passes) w
        = (.ok (.ofLog directory jobname passes log), w')
      ∧ ∀ cwd, Ran cwd [] w w' := by
  obtain ⟨log, hlog⟩ := readLog_eq_ok h
  rw [buildResult, execute_bind_of_ok (execute_get w),
    execute_bind_of_ok (a := log) (t := w) (by rw [execute_known, hlog])]
  by_cases hu : log.unresolved.isEmpty = true
  · simp only [hu]
    exact ⟨log, w, hlog, rfl, fun cwd ↦ Ran.refl w⟩
  · simp only [Bool.eq_false_iff.2 hu]
    exact ⟨log, _, hlog, execute_bind_of_ok (execute_noteBuild _ _ w),
      fun cwd ↦ Ran.note w .warning buildSource _⟩

theorem buildResult_of_directory
    (h : w.store.DirectoryAt (directory.join (jobname ++ ".log"))) :
    execute (buildResult directory jobname passes) w
      = (.error (.path .isDirectory (directory.join (jobname ++ ".log")).toString), w) := by
  rw [buildResult, execute_bind_of_ok (execute_get w)]
  exact execute_bind_of_error (by rw [execute_known, readLog_eq_error h])

/-! ## Jobs -/

/-- `x` is what comes of a job that runs a plan in a directory, from the world `w` on.  The plan is
run to its end or to its first failure, and only at its end is the log read and a report made. -/
def Finishes (directory : Path) (jobname : String) (plan : List Command) (w : World)
    (x : Except Failure BuildResult × World) : Prop :=
  let log := directory.join (jobname ++ ".log")
  ∃ ran r, Ends w.outcome plan ran r
    ∧ Ran directory.toString ran w x.2
    ∧ (∀ f, r = .error f → x.1 = .error f)
    ∧ (r = .ok () → x.2.store.DirectoryAt log → x.1 = .error (.path .isDirectory log.toString))
    ∧ (r = .ok () → ¬ x.2.store.DirectoryAt log → ∃ report, readLog x.2.store log = .ok report
        ∧ x.1 = .ok (.ofLog directory jobname ran report))

theorem finishes_job (directory : Path) (jobname : String) (plan : List Command) (w : World) :
    Finishes directory jobname plan w (execute (do
      runPasses plan directory.toString
      buildResult directory jobname plan) w) := by
  rw [execute_bind]
  obtain ⟨ran, hends, hran⟩ := execute_runPasses plan directory.toString w
  generalize execute (runPasses plan directory.toString) w = x at hends hran
  obtain ⟨r, w'⟩ := x
  refine ⟨ran, r, hends, ?_⟩
  cases hends with
  | first hc hz hk =>
    exact ⟨hran, fun f hf ↦ congrArg _ (Except.error.inj hf), fun h ↦ (nomatch h),
      fun h ↦ (nomatch h)⟩
  | all hz =>
    dsimp only
    by_cases hd : w'.store.DirectoryAt (directory.join (jobname ++ ".log"))
    · rw [buildResult_of_directory _ hd]
      exact ⟨hran, fun f hf ↦ (nomatch hf), fun _ _ ↦ rfl, fun _ h ↦ absurd hd h⟩
    · obtain ⟨report, w'', hreport, hresult, hquiet⟩ := buildResult_of_log plan hd
      rw [hresult]
      refine ⟨?_, fun f hf ↦ (nomatch hf), fun _ h ↦ ?_, fun _ _ ↦ ⟨report, ?_, rfl⟩⟩
      · simpa only [List.append_nil] using hran.append (hquiet directory.toString)
      · rw [(hquiet "").store_eq] at h
        exact absurd h hd
      · rwa [(hquiet "").store_eq]

/-- What is reported names the files of the job and says what its log says. -/
theorem Finishes.exists_ofLog {directory : Path} {jobname : String} {plan : List Command}
    {w : World} {x : Except Failure BuildResult × World} {b : BuildResult}
    (h : Finishes directory jobname plan w x) (hb : x.1 = .ok b) :
    ∃ ran report, readLog x.2.store (directory.join (jobname ++ ".log")) = .ok report
      ∧ b = .ofLog directory jobname ran report := by
  obtain ⟨ran, r, _, _, hfail, hblocked, hdone⟩ := h
  cases r with
  | error f =>
    rw [hfail f rfl] at hb
    cases hb
  | ok _ =>
    by_cases hd : x.2.store.DirectoryAt (directory.join (jobname ++ ".log"))
    · rw [hblocked rfl hd] at hb
      cases hb
    · obtain ⟨report, hreport, hresult⟩ := hdone rfl hd
      rw [hresult] at hb
      exact ⟨ran, report, hreport, (Except.ok.inj hb).symm⟩

/-! ## The whole build -/

section Build

variable (axes : Axes) {d : Document} (output : String) {settings : CompilerSettings}

theorem generate_of_missing {f : Failure}
    (ht : resolveTools w.installed d.mode settings = .error f) :
    execute (generate axes d output settings) w = (.error f, w) := by
  rw [generate, execute_bind_of_ok (execute_get w)]
  exact execute_bind_of_error (by rw [execute_known, ht])

variable {axes} {tools : Tools} (ht : resolveTools w.installed d.mode settings = .ok tools)
include ht

theorem generate_of_unrendered {f : Failure} (hm : d.render axes = .error f) :
    execute (generate axes d output settings) w = (.error f, w) := by
  rw [generate, execute_bind_of_ok (execute_get w),
    execute_bind_of_ok (a := tools) (t := w) (by rw [execute_known, ht])]
  exact execute_bind_of_error (by rw [execute_known, hm])

variable {output} {markup : String} (hm : d.render axes = .ok markup)
include hm

theorem generate_of_unwritten {f : Failure} {w₁ : World}
    (hw : execute (writeMarkup markup (Path.ofString output) d.jobname) w = (.error f, w₁)) :
    execute (generate axes d output settings) w = (.error f, w₁) := by
  rw [generate, execute_bind_of_ok (execute_get w),
    execute_bind_of_ok (a := tools) (t := w) (by rw [execute_known, ht]),
    execute_bind_of_ok (a := markup) (t := w) (by rw [execute_known, hm])]
  exact execute_bind_of_error hw

/-- Once the markup is written, the passes are run and the report is made. -/
theorem generate_of_written {path : Path} {w₁ : World}
    (hw : execute (writeMarkup markup (Path.ofString output) d.jobname) w = (.ok path, w₁)) :
    execute (generate axes d output settings) w = execute (do
      runPasses (planPasses tools d.jobname (d.twoPasses markup) settings.extraArguments)
        (Path.ofString output).toString
      buildResult (Path.ofString output) d.jobname
        (planPasses tools d.jobname (d.twoPasses markup) settings.extraArguments)) w₁ := by
  rw [generate, execute_bind_of_ok (execute_get w),
    execute_bind_of_ok (a := tools) (t := w) (by rw [execute_known, ht]),
    execute_bind_of_ok (a := markup) (t := w) (by rw [execute_known, hm]),
    execute_bind_of_ok hw]

/-- **A build whose markup is written** runs its plan to the end or to the first failure, and makes
its report only at the end. -/
theorem generate_ends {path : Path} {w₁ : World}
    (hw : execute (writeMarkup markup (Path.ofString output) d.jobname) w = (.ok path, w₁)) :
    let result := (execute (generate axes d output settings) w).1
    let w' := (execute (generate axes d output settings) w).2
    let log := (Path.ofString output).join (d.jobname ++ ".log")
    ∃ ran r, Ends w.outcome
        (planPasses tools d.jobname (d.twoPasses markup) settings.extraArguments) ran r
      ∧ Ran (Path.ofString output).toString ran w₁ w'
      ∧ (∀ f, r = .error f → result = .error f)
      ∧ (r = .ok () → w'.store.DirectoryAt log → result = .error (.path .isDirectory log.toString))
      ∧ (r = .ok () → ¬ w'.store.DirectoryAt log → ∃ report, readLog w'.store log = .ok report
          ∧ result = .ok (.ofLog (Path.ofString output) d.jobname ran report)) := by
  intro result w' log
  obtain ⟨s, t, _, _, hw₁⟩ := writeMarkup_eq_ok hw
  have ho : w₁.outcome = w.outcome := by rw [hw₁]; rfl
  have hjob := finishes_job (Path.ofString output) d.jobname
    (planPasses tools d.jobname (d.twoPasses markup) settings.extraArguments) w₁
  rw [← generate_of_written ht hm hw] at hjob
  obtain ⟨ran, r, hends, hrest⟩ := hjob
  rw [ho] at hends
  exact ⟨ran, r, hends, hrest⟩

end Build

/-- Compiling a file that is there is the job that its path names. -/
theorem compileFile_of_exists {file : String} {mode : Mode} {settings : CompilerSettings}
    {tools : Tools} (hexists : w.store.pathExists (Path.ofString file) = true)
    (ht : resolveTools w.installed mode settings = .ok tools) :
    execute (compileFile file mode settings) w = execute (do
      runPasses (planPasses tools (Path.ofString file).stem true settings.extraArguments)
        (Path.ofString file).parent.toString
      buildResult (Path.ofString file).parent (Path.ofString file).stem
        (planPasses tools (Path.ofString file).stem true settings.extraArguments)) w := by
  rw [compileFile, execute_bind_of_ok (execute_get w), hexists]
  simp only [Bool.not_true, Bool.false_eq_true, if_false]
  rw [execute_bind_of_ok (execute_get w),
    execute_bind_of_ok (a := tools) (t := w) (by rw [execute_known, ht])]

end TexWeave

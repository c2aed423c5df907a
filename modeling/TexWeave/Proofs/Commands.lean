import TexWeave.Proofs.Generate

/-!
# The commands of a build

What a build runs follows from four things: the tools that were found, the mode, the markup, and how
the runs end.  `generate_commands` says so in full.  The plan is a list of one, two or three
commands that does not depend on how the code builds it (`passesOf`), the commands that are run are
the part of it up to the first failure, and the failure quotes the command that failed.

A build with nothing but good outcomes still gives no result when a directory stands where the log
should be: the log is looked for, found to exist, and cannot be read.  This is the only such case
(`generate_fails_at_directory`).
-/

set_option autoImplicit false

namespace TexWeave

/-- The passes of a build around the command of its engine.  Only in standard mode does it matter
whether the markup refers to an earlier run. -/
def passesOf (mode : Mode) (engine preprocessor : Command) (refers : Bool) : List Command :=
  match mode with
  | .tufte => [engine, preprocessor, engine]
  | .standard => if refers then [engine, engine] else [engine]

/-- The tools that were found plan the passes of their mode. -/
theorem planPasses_of_resolved {installed : ToolTable} {settings : CompilerSettings} {mode : Mode}
    {tools : Tools} (ht : resolveTools installed mode settings = .ok tools) (jobname : String)
    (twoPasses : Bool) (extra : List String) :
    planPasses tools jobname twoPasses extra
      = passesOf mode (engineCommand tools.engine jobname extra)
        [tools.preprocessor.getD "", jobname] twoPasses := by
  have h := (resolveTools_eq_ok.1 ht).2
  rw [planPasses]
  cases mode with
  | standard =>
    have hp : tools.preprocessor = none := h
    rw [hp]
    rfl
  | tufte =>
    obtain ⟨path, hpath, hp⟩ : ∃ path, findTool? installed _ = some path
      ∧ tools.preprocessor = some path := h
    rw [hp, Option.filter_some, ne_empty_of_findTool? hpath]
    rfl

theorem planPasses_eq {installed : ToolTable} {settings : CompilerSettings} {d : Document}
    {tools : Tools} (ht : resolveTools installed d.mode settings = .ok tools) (markup : String) :
    planPasses tools d.jobname (d.twoPasses markup) settings.extraArguments
      = passesOf d.mode (engineCommand tools.engine d.jobname settings.extraArguments)
        [tools.preprocessor.getD "", d.jobname] (d.needsSecondPassWith markup) := by
  rw [planPasses_of_resolved ht, Document.twoPasses]
  cases d.mode <;> rfl

/-- `tail` is the end of a text: its last `n` characters, or all of it when it has fewer. -/
def IsEnd (n : Nat) (text tail : String) : Prop :=
  (∃ front, text = front ++ tail) ∧ tail.length = min n text.length

theorem isEnd_lastChars (n : Nat) (s : String) : IsEnd n s (lastChars n s) := by
  refine ⟨⟨String.ofList (s.toList.take (s.length - n)), ?_⟩, ?_⟩
  · rw [lastChars, ← String.ofList_append, List.take_append_drop, String.ofList_toList]
  · rw [lastChars, String.length_ofList, List.length_drop, String.length_toList]
    omega

/-- **The commands of a build.**  From the moment the markup is on disk, the commands that are run
are a prefix of the plan.  The first that ends with a status other than zero is the last that is
run, and the build fails with that command, its status and the end of its output.  A result comes
out exactly when every command of the plan ends well and no directory stands in the place of the
log, and it lists the commands that were run.

The paths of the tools are those that looking their names up gives; in standard mode the settings
may name a preprocessor, but the plan has no place for one. -/
theorem generate_commands (axes : Axes) (d : Document) (output : String)
    (settings : CompilerSettings) (w w₁ : World) (tools : Tools) (markup : String) (path : Path)
    (ht : resolveTools w.installed d.mode settings = .ok tools)
    (hm : d.render axes = .ok markup)
    (hw : execute (writeMarkup markup (Path.ofString output) d.jobname) w = (.ok path, w₁)) :
    let engine : Command := [tools.engine, "-interaction=nonstopmode", "-jobname=" ++ d.jobname]
      ++ settings.extraArguments ++ [d.jobname ++ ".tex"]
    let plan := passesOf d.mode engine [tools.preprocessor.getD "", d.jobname]
      (d.needsSecondPassWith markup)
    let log := (Path.ofString output).join (d.jobname ++ ".log")
    let result := (execute (generate axes d output settings) w).1
    let w' := (execute (generate axes d output settings) w).2
    findTool? w.installed (settings.engineFor d.mode) = some tools.engine
      ∧ (d.mode = .tufte → ∃ p, tools.preprocessor = some p
          ∧ findTool? w.installed (chosen settings.preprocessor "pythontex") = some p)
      ∧ ∃ calls, w'.calls = w.calls ++ calls
      ∧ (∀ c ∈ calls, c.directory = (Path.ofString output).toString)
      ∧ calls.map Call.command <+: plan
      ∧ (∀ k c, plan[k]? = some c → (∀ i < k, (w.outcome i).exitCode = 0) →
          (w.outcome k).exitCode ≠ 0 → calls.map Call.command = plan.take (k + 1)
            ∧ ∃ tail, IsEnd 2000 ((w.outcome k).stdout ++ (w.outcome k).stderr) tail
              ∧ result = .error (.compilation (w.outcome k).exitCode tail c))
      ∧ ((∀ i < plan.length, (w.outcome i).exitCode = 0) → calls.map Call.command = plan)
      ∧ ((∃ r, result = .ok r)
          ↔ (∀ i < plan.length, (w.outcome i).exitCode = 0) ∧ ¬ w'.store.DirectoryAt log)
      ∧ (∀ r, result = .ok r → r.passes = calls.map Call.command ∧ r.success = true)
      ∧ ((∀ i < plan.length, (w.outcome i).exitCode = 0) → w'.store.DirectoryAt log →
          result = .error (.path .isDirectory log.toString)) := by
  intro engine plan log result w'
  obtain ⟨hengine, hpreprocessor⟩ := resolveTools_eq_ok.1 ht
  refine ⟨hengine, fun hmode ↦ ?_, ?_⟩
  · rw [hmode] at hpreprocessor
    obtain ⟨p, hp, h⟩ : ∃ p, findTool? w.installed (chosen settings.preprocessor "pythontex")
      = some p ∧ tools.preprocessor = some p := hpreprocessor
    exact ⟨p, h, hp⟩
  obtain ⟨ran, r, hends, hran, hfail, hblocked, hdone⟩ := generate_ends ht hm hw
  rw [planPasses_eq ht] at hends
  change Ends w.outcome plan ran r at hends
  have hcalls : w₁.calls = w.calls := by
    have h := calls_of_writeMarkup markup d.jobname (Path.ofString output) w
    rwa [hw] at h
  refine ⟨callsOf (Path.ofString output).toString w₁.store w₁.outcomes ran, ?_,
    fun c hc ↦ directory_of_mem_callsOf hc, ?_⟩
  · rw [← hcalls]
    exact hran.calls
  rw [map_command_callsOf]
  have hok : (∃ b, result = .ok b) ↔ r = .ok () ∧ ¬ w'.store.DirectoryAt log := by
    constructor
    · rintro ⟨b, hb⟩
      cases r with
      | error f => rw [show result = _ from hfail f rfl] at hb; cases hb
      | ok _ =>
        refine ⟨rfl, fun hd ↦ ?_⟩
        rw [show result = _ from hblocked rfl hd] at hb
        cases hb
    · rintro ⟨hr, hd⟩
      obtain ⟨report, _, hresult⟩ := hdone hr hd
      exact ⟨_, hresult⟩
  refine ⟨hends.isPrefix, ?_, ?_, ?_, ?_, ?_⟩
  · intro k c hc hz hk
    obtain ⟨hran, hr⟩ := hends.eq_of_first hc hz hk
    exact ⟨hran, _, isEnd_lastChars 2000 _, hfail _ hr⟩
  · intro hz
    exact hends.eq_of_all hz
  · rw [hok, hends.ok_iff]
  · intro b hb
    obtain ⟨hr, hd⟩ := hok.1 ⟨b, hb⟩
    obtain ⟨report, _, hresult⟩ := hdone hr hd
    rw [show result = _ from hresult] at hb
    cases hb
    exact ⟨rfl, rfl⟩
  · intro hz hd
    exact hblocked (hends.ok_iff.2 hz) hd

/-- A preprocessor fails: the engine does not run again, and the failure quotes both streams. -/
theorem generate_commands_of_failing_preprocessor :
    let d : Document := { mode := .tufte }
    let w : World := { outcomes := [{}, { exitCode := 3, stdout := "no ", stderr := "module" }] }
    let engine : Command :=
      ["/usr/bin/lualatex", "-interaction=nonstopmode", "-jobname=document", "document.tex"]
    ∃ tools markup path w₁, resolveTools w.installed d.mode {} = .ok tools
      ∧ d.render #[] = .ok markup
      ∧ execute (writeMarkup markup (Path.ofString "out") d.jobname) w = (.ok path, w₁)
      ∧ (execute (generate #[] d "out" {}) w).2.calls.map Call.command
        = [engine, ["/usr/bin/pythontex", "document"]]
      ∧ ∃ tail, IsEnd 2000 ("no " ++ "module") tail
        ∧ (execute (generate #[] d "out" {}) w).1
          = .error (.compilation 3 tail ["/usr/bin/pythontex", "document"]) := by
  have hwrite (os : List Outcome) (m : String) : ∃ path w₁,
      execute (writeMarkup m (Path.ofString "out") "document") { outcomes := os }
        = (.ok path, w₁) := ⟨_, _, rfl⟩
  intro d w engine
  have ht : resolveTools w.installed d.mode {}
      = .ok ⟨"/usr/bin/lualatex", some "/usr/bin/pythontex"⟩ := rfl
  obtain ⟨markup, hm⟩ : ∃ markup, d.render #[] = .ok markup := ⟨_, rfl⟩
  obtain ⟨path, w₁, hw⟩ := hwrite w.outcomes markup
  obtain ⟨_, _, calls, hcalls, _, _, hfirst, _⟩ :=
    generate_commands #[] d "out" {} w w₁ _ markup path ht hm hw
  obtain ⟨hran, tail, htail, hresult⟩ := hfirst 1 ["/usr/bin/pythontex", "document"] rfl
    (fun i hi ↦ by rw [Nat.lt_one_iff.1 hi]; rfl) (by decide)
  refine ⟨_, markup, path, w₁, ht, hm, hw, ?_, tail, htail, hresult⟩
  rw [hcalls]
  exact hran

/-- A world in which a directory has the name that the log of a default document would have. -/
def directoryForLog : World where
  store := {
    files := [(["document.log", "keep"], "x")]
    directories := [["document.log"]] }

/-- **Good outcomes are not enough.**  When a directory has the name of the log, every command ends
well and the build still fails, since what exists at the place of the log cannot be read. -/
theorem generate_fails_at_directory : ∃ tools markup path w₁,
    resolveTools directoryForLog.installed .standard {} = .ok tools
      ∧ ({} : Document).render #[] = .ok markup
      ∧ execute (writeMarkup markup (Path.ofString ".") "document") directoryForLog
        = (.ok path, w₁)
      ∧ (∀ i, (directoryForLog.outcome i).exitCode = 0)
      ∧ ∀ r, (execute (generate #[] {} "." {}) directoryForLog).1 ≠ .ok r := by
  obtain ⟨markup, hm⟩ : ∃ markup, ({} : Document).render #[] = .ok markup := ⟨_, rfl⟩
  obtain ⟨path, w₁, hw⟩ : ∃ path w₁,
      execute (writeMarkup markup (Path.ofString ".") "document") directoryForLog
        = (.ok path, w₁) := ⟨_, _, rfl⟩
  have ht : resolveTools directoryForLog.installed ({} : Document).mode {}
      = .ok ⟨"/usr/bin/pdflatex", none⟩ := rfl
  refine ⟨_, markup, path, w₁, ht, hm, hw, fun _ ↦ rfl, fun b hb ↦ ?_⟩
  obtain ⟨ran, r, hends, hran, _, hblocked, _⟩ := generate_ends ht hm hw
  have hr : r = .ok () := hends.ok_iff.2 fun _ _ ↦ rfl
  rw [hblocked hr] at hb
  · cases hb
  · have hd : w₁.store.DirectoryAt ((Path.ofString ".").join "document.log") :=
      directoryAt_of_writeMarkup hw ⟨["document.log"], rfl, rfl, rfl⟩
    have hos : w₁.outcomes = [] := by
      obtain ⟨_, _, _, _, rfl⟩ := writeMarkup_eq_ok hw
      rfl
    rw [hran.store, hos, List.take_nil]
    exact hd

end TexWeave

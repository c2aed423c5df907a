import TexWeave.Proofs.Generate
import TexWeave.Proofs.Render

/-!
# What a build does to the files

A build that cannot start leaves the world as it was: when a tool is missing or the document cannot
be rendered, nothing has been written, no directory was created, and no command was run.  A build
that starts has exactly one file to its account.  From then on only the tools change files, which
`Store.after` describes.

* `generate_files` — the two halves in one statement.
-/

set_option autoImplicit false

namespace TexWeave

/-! ## One file -/

/-- `t` is `s` with a text written at a path: the text reads back, every other file is what it was,
and no directory has gone. -/
structure Store.Written (s : Store) (p : Path) (text : String) (t : Store) : Prop where
  read : t.read p = .ok text
  others : ∀ q, t.locate p ≠ .ok q → t.file? q = s.file? q
  directories : ∀ q, s.isDirectory q = true → t.isDirectory q = true

/-- Writing the markup writes one file, and creates the directories above it. -/
theorem written_of_writeMarkup {content jobname : String} {directory path : Path} {w w₁ : World}
    (h : execute (writeMarkup content directory jobname) w = (.ok path, w₁)) :
    w.store.Written (directory.join (jobname ++ ".tex")) content w₁.store := by
  obtain ⟨s, t, hs, ht, rfl⟩ := writeMarkup_eq_ok h
  have hext := Store.extends_of_makeDirectories hs
  obtain ⟨place, hplace, hfile⟩ := Store.file?_of_write ht
  have hkeep (q : Place) (hq : s.isDirectory q = true) : t.isDirectory q = true :=
    (Store.isDirectory_of_write ht q).trans hq
  refine ⟨Store.read_of_write ht, fun q hq ↦ ?_, fun q hq ↦ hkeep q (hext.isDirectory hq)⟩
  have hne : q ≠ place := by
    rintro rfl
    exact hq (Store.locate_mono hkeep hplace)
  exact ((hfile q).trans (if_neg hne)).trans (hext.file? q)

/-! ## Builds that do not start -/

/-- A path that cannot be used. -/
def IsPathFault (f : Failure) : Prop := ∃ fault p, f = .path fault p

theorem write_failsWith (s : Store) (p : Path) (text : String) :
    FailsWith IsPathFault (s.write p text) := by
  rw [Store.write]
  split
  · exact .error ⟨_, _, rfl⟩
  · split
    · exact .error ⟨_, _, rfl⟩
    · split
      · exact .ok _
      · exact .error ⟨_, _, rfl⟩

theorem ensureReversed_failsWith (root : PathRoot) :
    ∀ (names : List String) (s : Store), FailsWith IsPathFault (s.ensureReversed root names)
  | [], s => .ok s
  | n :: above, s => by
    rw [Store.ensureReversed]
    split
    · exact .ok _
    · refine (ensureReversed_failsWith root above s).bind fun t ↦ ?_
      split
      · exact .ok _
      · exact .error ⟨_, _, rfl⟩
    · split
      · exact .ok _
      · exact .error ⟨_, _, rfl⟩

theorem writeMarkup_failsWith {content jobname : String} {directory : Path} {w : World}
    {f : Failure} (h : (execute (writeMarkup content directory jobname) w).1 = .error f) :
    IsPathFault f := by
  rw [execute_writeMarkup] at h
  split at h
  · next hs => cases h; exact ensureReversed_failsWith _ _ _ _ hs
  · split at h
    · next ht => cases h; exact write_failsWith _ _ _ _ ht
    · cases h

/-- A build that runs no command fails for one of these reasons. -/
inductive Unstarted : Failure → Prop
  | missing (name : String) : Unstarted (.missingTool name)
  | unrendered {f : Failure} (h : RenderFault f) : Unstarted f
  | unwritten {f : Failure} (h : IsPathFault f) : Unstarted f

theorem Unstarted.ne_compilation {f : Failure} (h : Unstarted f) (code : Int) (tail : String)
    (c : Command) : f ≠ .compilation code tail c := by
  rintro rfl
  rcases h with _ | h | h
  · cases h
  · obtain ⟨_, _, h⟩ := h
    cases h

/-- A build either writes its markup, or fails before and makes no call. -/
theorem generate_written_or_unstarted (axes : Axes) (d : Document) (output : String)
    (settings : CompilerSettings) (w : World) :
    (∃ tools markup path w₁, resolveTools w.installed d.mode settings = .ok tools
      ∧ d.render axes = .ok markup
      ∧ execute (writeMarkup markup (Path.ofString output) d.jobname) w = (.ok path, w₁))
    ∨ ∃ f w₁, Unstarted f ∧ w₁.calls = w.calls
      ∧ execute (generate axes d output settings) w = (.error f, w₁) := by
  cases ht : resolveTools w.installed d.mode settings with
  | error f =>
    obtain ⟨name, rfl⟩ := resolveTools_eq_error ht
    exact .inr ⟨_, w, .missing name, rfl, generate_of_missing axes output ht⟩
  | ok tools =>
    cases hm : d.render axes with
    | error f =>
      exact .inr ⟨f, w, .unrendered (render_failsWith axes d f hm), rfl,
        generate_of_unrendered output ht hm⟩
    | ok markup =>
      rcases hw : execute (writeMarkup markup (Path.ofString output) d.jobname) w with ⟨_ | _, w₁⟩
      · next f =>
        have hcalls := calls_of_writeMarkup markup d.jobname (Path.ofString output) w
        rw [hw] at hcalls
        exact .inr ⟨f, w₁, .unwritten (writeMarkup_failsWith (by rw [hw])), hcalls,
          generate_of_unwritten ht hm hw⟩
      · exact .inl ⟨tools, markup, _, w₁, rfl, rfl, hw⟩

/-! ## The files of a build -/

theorem planPasses_ne_nil (tools : Tools) (jobname : String) (twoPasses : Bool)
    (extra : List String) : planPasses tools jobname twoPasses extra ≠ [] := by
  rw [planPasses]
  split
  · exact List.cons_ne_nil _ _
  · split <;> exact List.cons_ne_nil _ _

/-- A build that writes its markup runs at least one command. -/
theorem calls_of_written {axes : Axes} {d : Document} {output : String}
    {settings : CompilerSettings} {w w₁ : World} {tools : Tools} {markup : String} {path : Path}
    (ht : resolveTools w.installed d.mode settings = .ok tools)
    (hm : d.render axes = .ok markup)
    (hw : execute (writeMarkup markup (Path.ofString output) d.jobname) w = (.ok path, w₁)) :
    let w' := (execute (generate axes d output settings) w).2
    ∃ c r, w'.calls = w.calls
        ++ callsOf (Path.ofString output).toString w₁.store w.outcomes (c :: r)
      ∧ w'.store = w₁.store.after (w.outcomes.take (r.length + 1)) := by
  intro w'
  obtain ⟨ran, _, hends, hran, _⟩ := generate_ends ht hm hw
  obtain ⟨c, r, rfl⟩ := List.exists_cons_of_ne_nil (hends.ne_nil (planPasses_ne_nil _ _ _ _))
  obtain ⟨s, t, _, _, rfl⟩ := writeMarkup_eq_ok hw
  exact ⟨c, r, hran.calls, hran.store⟩

/-- **What a build does to the files.**  When a tool is missing, or the document cannot be rendered,
the world stays as it was, and the first of these faults is the failure: engine, preprocessor,
document.  When any command is run, the first of them finds the markup in its place and every other
file as it was before the build, and from then on only the commands change files. -/
theorem generate_files (axes : Axes) (d : Document) (output : String)
    (settings : CompilerSettings) (w : World) :
    let result := (execute (generate axes d output settings) w).1
    let w' := (execute (generate axes d output settings) w).2
    (w.installed.Lacks (settings.engineFor d.mode) →
        result = .error (.missingTool (settings.engineFor d.mode)) ∧ w' = w)
      ∧ (∀ p, ¬ w.installed.Lacks (settings.engineFor d.mode) →
          settings.preprocessorFor d.mode = some p → w.installed.Lacks p →
          result = .error (.missingTool p) ∧ w' = w)
      ∧ (∀ f, ¬ w.installed.Lacks (settings.engineFor d.mode) →
          (∀ p, settings.preprocessorFor d.mode = some p → ¬ w.installed.Lacks p) →
          d.render axes = .error f → result = .error f ∧ w' = w)
      ∧ (∀ code tail c, result = .error (.compilation code tail c) → w'.calls ≠ w.calls)
      ∧ (w'.calls ≠ w.calls → ∃ markup call rest, d.render axes = .ok markup
          ∧ w'.calls = w.calls ++ call :: rest
          ∧ w.store.Written ((Path.ofString output).join (d.jobname ++ ".tex")) markup call.found
          ∧ (∀ i c, (call :: rest)[i]? = some c → c.found = call.found.after (w.outcomes.take i))
          ∧ w'.store = call.found.after (w.outcomes.take (rest.length + 1))) := by
  intro result w'
  refine ⟨?_, ?_, ?_, ?_, ?_⟩
  · intro he
    have h := generate_of_missing axes output (resolveTools_of_lacks_engine he)
    simp only [result, w', h, and_self]
  · intro p he hp h
    have h := generate_of_missing axes output (resolveTools_of_lacks_preprocessor he hp h)
    simp only [result, w', h, and_self]
  · intro f he hp hf
    obtain ⟨tools, ht⟩ := exists_resolveTools he hp
    have h := generate_of_unrendered output ht hf
    simp only [result, w', h, and_self]
  · intro code tail c hresult
    rcases generate_written_or_unstarted axes d output settings w with
      ⟨tools, markup, path, w₁, ht, hm, hw⟩ | ⟨f, w₁, hf, _, hgen⟩
    · obtain ⟨c, r, hcalls, _⟩ := calls_of_written ht hm hw
      rw [show w'.calls = _ from hcalls]
      simp [callsOf]
    · rw [show result = .error f by simp only [result, hgen]] at hresult
      exact absurd (Except.error.inj hresult) (hf.ne_compilation code tail c)
  · intro hne
    rcases generate_written_or_unstarted axes d output settings w with
      ⟨tools, markup, path, w₁, ht, hm, hw⟩ | ⟨f, w₁, _, hcalls, hgen⟩
    · obtain ⟨c, r, hcalls, hstore⟩ := calls_of_written ht hm hw
      refine ⟨markup, _, _, hm, hcalls, written_of_writeMarkup hw, ?_, ?_⟩
      · intro i c' hc'
        rw [← callsOf] at hc'
        exact found_of_callsOf hc'
      · have hlen : (callsOf (Path.ofString output).toString (w₁.store.after (w.outcomes.take 1))
            w.outcomes.tail r).length = r.length := by
          rw [← List.length_map (f := Call.command), map_command_callsOf]
        rw [hlen]
        exact hstore
    · exact absurd (by simp only [w', hgen, hcalls]) hne

end TexWeave

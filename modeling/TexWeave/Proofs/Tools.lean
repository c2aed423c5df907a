import TexWeave.Build
import TexWeave.Proofs.Execute

/-!
# Looking tools up

A build needs an engine and, in tufte mode, a preprocessor.  Either all tools of a mode are found,
under their own names or with the ending of another system's programs, or the first that is missing
is what the look-up fails with.

* `resolveTools_eq_ok` — the tools that are found are those that looking their names up gives.
* `resolveTools_of_lacks_engine`, `resolveTools_of_lacks_preprocessor`, `exists_resolveTools` — the
  three ways a look-up can end.
-/

set_option autoImplicit false

namespace TexWeave

theorem requireTool_eq_ok {installed : ToolTable} {name path : String} :
    requireTool installed name = .ok path ↔ findTool? installed name = some path := by
  rw [requireTool]
  cases findTool? installed name <;> simp

theorem requireTool_eq_error {installed : ToolTable} {name : String} {f : Failure} :
    requireTool installed name = .error f
      ↔ findTool? installed name = none ∧ f = .missingTool name := by
  rw [requireTool]
  cases findTool? installed name <;> simp [eq_comm]

theorem ToolTable.ne_empty_of_path? {t : ToolTable} {name path : String}
    (h : t.path? name = some path) : path.isEmpty = false := by
  rw [path?, Option.filter_eq_some_iff] at h
  simpa using h.2

/-- A tool that was found has a path that is not empty. -/
theorem ne_empty_of_findTool? {installed : ToolTable} {name path : String}
    (h : findTool? installed name = some path) : path.isEmpty = false := by
  rw [findTool?, Option.or_eq_some_iff] at h
  rcases h with h | ⟨_, h⟩
  · exact ToolTable.ne_empty_of_path? h
  · exact ToolTable.ne_empty_of_path? h

/-- The tools of a run are the ones that looking up their names gives. -/
theorem resolveTools_eq_ok {installed : ToolTable} {mode : Mode} {settings : CompilerSettings}
    {tools : Tools} : resolveTools installed mode settings = .ok tools ↔
      findTool? installed (settings.engineFor mode) = some tools.engine
        ∧ match settings.preprocessorFor mode with
          | none => tools.preprocessor = none
          | some p =>
            ∃ path, findTool? installed p = some path ∧ tools.preprocessor = some path := by
  obtain ⟨engine, preprocessor⟩ := tools
  rw [resolveTools, bind_eq_ok]
  simp only [requireTool_eq_ok]
  cases settings.preprocessorFor mode with
  | none =>
    constructor
    · rintro ⟨path, he, h⟩
      cases h
      exact ⟨he, rfl⟩
    · rintro ⟨he, rfl⟩
      exact ⟨engine, he, rfl⟩
  | some p =>
    simp only [bind_eq_ok, requireTool_eq_ok]
    constructor
    · rintro ⟨path, he, path', hp, h⟩
      cases h
      exact ⟨he, path', hp, rfl⟩
    · rintro ⟨he, path', hp, rfl⟩
      exact ⟨engine, he, path', hp, rfl⟩

/-- Looking a name up gives no path, with or without the ending of another system's programs. -/
def ToolTable.Lacks (t : ToolTable) (name : String) : Prop :=
  t.path? name = none ∧ t.path? (name ++ ".exe") = none

theorem findTool?_eq_none {t : ToolTable} {name : String} :
    findTool? t name = none ↔ t.Lacks name := by
  rw [findTool?, Option.or_eq_none_iff, ToolTable.Lacks]

theorem resolveTools_of_lacks_engine {t : ToolTable} {mode : Mode} {settings : CompilerSettings}
    (h : t.Lacks (settings.engineFor mode)) :
    resolveTools t mode settings = .error (.missingTool (settings.engineFor mode)) := by
  rw [resolveTools, requireTool_eq_error.2 ⟨findTool?_eq_none.2 h, rfl⟩]
  rfl

theorem exists_requireTool {t : ToolTable} {name : String} (h : ¬ t.Lacks name) :
    ∃ path, requireTool t name = .ok path := by
  obtain ⟨path, hpath⟩ := Option.ne_none_iff_exists'.1 (mt findTool?_eq_none.1 h)
  exact ⟨path, requireTool_eq_ok.2 hpath⟩

theorem resolveTools_of_lacks_preprocessor {t : ToolTable} {mode : Mode}
    {settings : CompilerSettings} {p : String} (he : ¬ t.Lacks (settings.engineFor mode))
    (hp : settings.preprocessorFor mode = some p) (h : t.Lacks p) :
    resolveTools t mode settings = .error (.missingTool p) := by
  obtain ⟨engine, hengine⟩ := exists_requireTool he
  rw [resolveTools, hengine, hp]
  show (requireTool t p >>= _ : Except Failure Tools) = _
  rw [requireTool_eq_error.2 ⟨findTool?_eq_none.2 h, rfl⟩]
  rfl

theorem exists_resolveTools {t : ToolTable} {mode : Mode} {settings : CompilerSettings}
    (he : ¬ t.Lacks (settings.engineFor mode))
    (hp : ∀ p, settings.preprocessorFor mode = some p → ¬ t.Lacks p) :
    ∃ tools, resolveTools t mode settings = .ok tools := by
  obtain ⟨engine, hengine⟩ := exists_requireTool he
  rw [resolveTools, hengine]
  cases h : settings.preprocessorFor mode with
  | none => exact ⟨⟨engine, none⟩, rfl⟩
  | some p =>
    obtain ⟨path, hpath⟩ := exists_requireTool (hp p h)
    refine ⟨⟨engine, some path⟩, ?_⟩
    show (requireTool t p >>= _ : Except Failure Tools) = _
    rw [hpath]
    rfl

/-- Looking for tools fails only because one is missing. -/
theorem resolveTools_eq_error {t : ToolTable} {mode : Mode} {settings : CompilerSettings}
    {f : Failure} (h : resolveTools t mode settings = .error f) :
    ∃ name, f = .missingTool name := by
  rw [resolveTools] at h
  rcases bind_eq_error.1 h with h | ⟨engine, _, h⟩
  · exact ⟨_, (requireTool_eq_error.1 h).2⟩
  · split at h
    · cases h
    · rcases bind_eq_error.1 h with h | ⟨path, _, h⟩
      · exact ⟨_, (requireTool_eq_error.1 h).2⟩
      · cases h

end TexWeave

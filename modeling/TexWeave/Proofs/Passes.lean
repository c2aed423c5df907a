import TexWeave.Proofs.Store

/-!
# What running the passes does

A build runs the commands it has planned until one of them fails.  The outcomes of all runs are
given beforehand, so what happens is settled by the plan and the outcomes alone.

* `Ends` says which commands of a plan are run and what comes of it: all of them when all end well,
  and otherwise those up to the first that fails, whose status and output the failure quotes.
* `Ran` says what a world looks like after some commands were run in it: the calls that were made,
  the files each of them found, and the files that are there in the end.
* `execute_runPasses` — the two hold of `runPasses`, for every plan.
-/

set_option autoImplicit false

namespace TexWeave

/-! ## Outcomes and the files they leave -/

/-- How the `i`-th run from now on ends. -/
def World.outcome (w : World) (i : Nat) : Outcome := w.outcomes[i]?.getD {}

/-- The files once tools have ended as given, one after another. -/
def Store.after (s : Store) (outcomes : List Outcome) : Store :=
  outcomes.foldl (fun s o ↦ o.files.foldl (fun s f ↦ s.supply f.1 f.2) s) s

theorem Store.after_append (s : Store) (os os' : List Outcome) :
    s.after (os ++ os') = (s.after os).after os' :=
  List.foldl_append

/-- The calls that commands make in a directory when tools end as given.  Each finds the files that
those before it have left. -/
def callsOf (directory : String) : Store → List Outcome → List Command → List Call
  | _, _, [] => []
  | s, os, c :: r => ⟨c, directory, s⟩ :: callsOf directory (s.after (os.take 1)) os.tail r

theorem map_command_callsOf (directory : String) (cs : List Command) :
    ∀ (s : Store) (os : List Outcome), (callsOf directory s os cs).map Call.command = cs := by
  induction cs with
  | nil => intro s os; rfl
  | cons c r ih => intro s os; rw [callsOf, List.map_cons, ih]

theorem directory_of_mem_callsOf {directory : String} {call : Call} {cs : List Command} :
    ∀ {s : Store} {os : List Outcome}, call ∈ callsOf directory s os cs →
      call.directory = directory := by
  induction cs with
  | nil => intro s os h; cases h
  | cons c r ih =>
    intro s os h
    rw [callsOf, List.mem_cons] at h
    rcases h with rfl | h
    · rfl
    · exact ih h

/-- The files that the `i`-th call found are those that the runs before it left. -/
theorem found_of_callsOf {directory : String} {call : Call} {cs : List Command} :
    ∀ {i : Nat} {s : Store} {os : List Outcome}, (callsOf directory s os cs)[i]? = some call →
      call.found = s.after (os.take i) := by
  induction cs with
  | nil => intro i s os h; simp [callsOf] at h
  | cons c r ih =>
    intro i s os h
    rw [callsOf] at h
    cases i with
    | zero =>
      rw [List.getElem?_cons_zero, Option.some_inj] at h
      rw [← h, List.take_zero]
      rfl
    | succ i =>
      rw [List.getElem?_cons_succ] at h
      rw [ih h, ← Store.after_append]
      cases os with
      | nil => simp
      | cons o os => rfl

theorem callsOf_append (directory : String) (cs cs' : List Command) :
    ∀ (s : Store) (os : List Outcome), callsOf directory s os (cs ++ cs')
      = callsOf directory s os cs
        ++ callsOf directory (s.after (os.take cs.length)) (os.drop cs.length) cs' := by
  induction cs with
  | nil => intro s os; simp [callsOf, Store.after]
  | cons c r ih =>
    intro s os
    rw [List.cons_append, callsOf, callsOf, ih, List.cons_append, ← Store.after_append]
    cases os with
    | nil => simp
    | cons o os => rfl

/-! ## Worlds in which commands were run -/

/-- `w'` is `w` after the commands `cs` were run in a directory: records may have been added, and
nothing else has happened. -/
structure Ran (directory : String) (cs : List Command) (w w' : World) : Prop where
  calls : w'.calls = w.calls ++ callsOf directory w.store w.outcomes cs
  outcomes : w'.outcomes = w.outcomes.drop cs.length
  store : w'.store = w.store.after (w.outcomes.take cs.length)

namespace Ran

variable {directory : String}

/-- A record is no run. -/
theorem note (w : World) (level : Level) (source message : String) :
    Ran directory [] w (w.note level source message) :=
  ⟨by simp [World.note, callsOf], rfl, rfl⟩

theorem refl (w : World) : Ran directory [] w w :=
  ⟨by simp [callsOf], rfl, rfl⟩

/-- As long as nothing is run the files stay. -/
theorem store_eq {w w' : World} (h : Ran directory [] w w') : w'.store = w.store := h.store

theorem run (w : World) (c : Command) : Ran directory [c] w (w.run c directory).2 := by
  refine ⟨rfl, by simp [World.run], ?_⟩
  rw [World.run]
  cases w.outcomes with
  | nil => rfl
  | cons o os => rfl

theorem append {cs cs' : List Command} {w w' w'' : World} (h : Ran directory cs w w')
    (h' : Ran directory cs' w' w'') : Ran directory (cs ++ cs') w w'' := by
  constructor
  · rw [h'.calls, h.calls, h.store, h.outcomes, callsOf_append, List.append_assoc]
  · rw [h'.outcomes, h.outcomes, List.drop_drop, List.length_append]
  · rw [h'.store, h.store, h.outcomes, ← Store.after_append, List.length_append, List.take_add]

/-- The outcomes that are left come after those of the commands that were run. -/
theorem outcome {cs : List Command} {w w' : World} (h : Ran directory cs w w') (i : Nat) :
    w'.outcome i = w.outcome (cs.length + i) := by
  rw [World.outcome, World.outcome, h.outcomes, List.getElem?_drop]

end Ran

/-! ## Where a plan ends -/

/-- Which commands of a plan are run, and what comes of it, when the runs end as `outcome` says. -/
inductive Ends (outcome : Nat → Outcome) (plan : List Command) :
    List Command → Except Failure Unit → Prop
  | all (h : ∀ i < plan.length, (outcome i).exitCode = 0) : Ends outcome plan plan (.ok ())
  | first {k : Nat} {c : Command} (hc : plan[k]? = some c)
      (h : ∀ i < k, (outcome i).exitCode = 0) (hk : (outcome k).exitCode ≠ 0) :
      Ends outcome plan (plan.take (k + 1))
        (.error (.compilation (outcome k).exitCode (outcome k).tail c))

namespace Ends

/-- One more command before a plan, which ends well. -/
theorem cons {outcome : Nat → Outcome} {c : Command} {plan ran : List Command}
    {r : Except Failure Unit} (h₀ : (outcome 0).exitCode = 0)
    (h : Ends (fun i ↦ outcome (i + 1)) plan ran r) : Ends outcome (c :: plan) (c :: ran) r := by
  have shift {n : Nat} (hn : ∀ i < n, (outcome (i + 1)).exitCode = 0) :
      ∀ i < n + 1, (outcome i).exitCode = 0 := by
    intro i hi
    cases i with
    | zero => exact h₀
    | succ i => exact hn i (by omega)
  cases h with
  | all h => exact .all (shift h)
  | first hc h hk => exact .first (k := _ + 1) hc (shift h) hk

/-- The first command of a plan, when it fails. -/
theorem head {outcome : Nat → Outcome} {c : Command} {plan : List Command}
    (h₀ : (outcome 0).exitCode ≠ 0) : Ends outcome (c :: plan) [c]
      (.error (.compilation (outcome 0).exitCode (outcome 0).tail c)) :=
  .first (k := 0) rfl (fun _ hi ↦ absurd hi (Nat.not_lt_zero _)) h₀

theorem isPrefix {outcome : Nat → Outcome} {plan ran : List Command} {r : Except Failure Unit}
    (h : Ends outcome plan ran r) : ran <+: plan := by
  cases h with
  | all => exact List.prefix_refl _
  | first => exact List.take_prefix _ _

/-- Of a plan that is not empty, the first command at least is run. -/
theorem ne_nil {outcome : Nat → Outcome} {plan ran : List Command} {r : Except Failure Unit}
    (h : Ends outcome plan ran r) (hplan : plan ≠ []) : ran ≠ [] := by
  cases h with
  | all => exact hplan
  | first =>
    obtain ⟨c, rest, rfl⟩ := List.exists_cons_of_ne_nil hplan
    exact List.cons_ne_nil _ _

/-- A run of a whole plan ends well exactly when every command does. -/
theorem ok_iff {outcome : Nat → Outcome} {plan ran : List Command} {r : Except Failure Unit}
    (h : Ends outcome plan ran r) : r = .ok () ↔ ∀ i < plan.length, (outcome i).exitCode = 0 := by
  cases h with
  | all h => exact ⟨fun _ ↦ h, fun _ ↦ rfl⟩
  | first hc _ hk =>
    obtain ⟨hlt, _⟩ := List.getElem?_eq_some_iff.1 hc
    exact ⟨fun h ↦ (nomatch h), fun h ↦ absurd (h _ hlt) hk⟩

theorem eq_of_all {outcome : Nat → Outcome} {plan ran : List Command} {r : Except Failure Unit}
    (h : Ends outcome plan ran r) (hz : ∀ i < plan.length, (outcome i).exitCode = 0) :
    ran = plan := by
  cases h with
  | all => rfl
  | first hc _ hk =>
    obtain ⟨hlt, _⟩ := List.getElem?_eq_some_iff.1 hc
    exact absurd (hz _ hlt) hk

/-- The command that fails first is the last one that is run, and the failure quotes it. -/
theorem eq_of_first {outcome : Nat → Outcome} {plan ran : List Command} {r : Except Failure Unit}
    (h : Ends outcome plan ran r) {k : Nat} {c : Command} (hc : plan[k]? = some c)
    (hz : ∀ i < k, (outcome i).exitCode = 0) (hk : (outcome k).exitCode ≠ 0) :
    ran = plan.take (k + 1)
      ∧ r = .error (.compilation (outcome k).exitCode (outcome k).tail c) := by
  obtain ⟨hlt, _⟩ := List.getElem?_eq_some_iff.1 hc
  cases h with
  | all h => exact absurd (h k hlt) hk
  | @first j c' hc' hz' hj =>
    have hjk : j = k := by
      rcases Nat.lt_trichotomy j k with hlt | heq | hlt
      · exact absurd (hz j hlt) hj
      · exact heq
      · exact absurd (hz' k hlt) hk
    subst hjk
    rw [hc, Option.some_inj] at hc'
    subst hc'
    exact ⟨rfl, rfl⟩

end Ends
/-! ## Running passes -/

@[simp] theorem execute_noteBuild (level : Level) (message : String) (w : World) :
    execute (noteBuild level message) w = (.ok (), w.note level buildSource message) := rfl

/-- One pass: the command is run, and when it fails nothing else is. -/
theorem execute_runFrom_cons (directory : String) (total number : Nat) (c : Command)
    (r : List Command) (w : World) :
    execute (runFrom directory total number (c :: r)) w =
      let w₁ := ((w.note .info buildSource (passNote directory total number c)).run c directory).2
      if (w.outcome 0).exitCode = 0 then execute (runFrom directory total (number + 1) r) w₁
      else (.error (.compilation (w.outcome 0).exitCode (w.outcome 0).tail c),
        w₁.note .info buildSource (failureNote c (w.outcome 0))) := by
  have hw (v : World) : (v.run c directory).1 = v.outcome 0 := by
    rw [World.run, World.outcome]
    cases v.outcomes <;> rfl
  rw [runFrom, execute_bind_of_ok (execute_noteBuild _ _ _),
    execute_bind_of_ok (execute_modifyGet _ _), hw]
  show execute (if (w.outcome 0).exitCode = 0 then _ else _) _ = _
  by_cases h : (w.outcome 0).exitCode = 0
  · simp only [if_pos h]
  · simp only [if_neg h]
    rw [execute_bind_of_ok (execute_noteBuild _ _ _)]
    rfl

/-- **A run of a plan** stops at the first command that fails, and has made no other call. -/
theorem execute_runFrom (directory : String) (total : Nat) (plan : List Command) :
    ∀ (number : Nat) (w : World), ∃ ran,
      Ends w.outcome plan ran (execute (runFrom directory total number plan) w).1
        ∧ Ran directory ran w (execute (runFrom directory total number plan) w).2 := by
  induction plan with
  | nil =>
    intro number w
    exact ⟨[], .all fun i hi ↦ absurd hi (Nat.not_lt_zero i), Ran.refl w⟩
  | cons c r ih =>
    intro number w
    have h₁ : Ran directory [c] w
        ((w.note .info buildSource (passNote directory total number c)).run c directory).2 :=
      (Ran.note w _ _ _).append (Ran.run _ c)
    rw [execute_runFrom_cons]
    by_cases h₀ : (w.outcome 0).exitCode = 0
    · simp only [if_pos h₀]
      obtain ⟨ran, hends, hran⟩ := ih (number + 1)
        ((w.note .info buildSource (passNote directory total number c)).run c directory).2
      have hshift := funext h₁.outcome
      simp only [List.length_singleton, Nat.add_comm 1] at hshift
      rw [hshift] at hends
      exact ⟨c :: ran, hends.cons h₀, h₁.append hran⟩
    · simp only [if_neg h₀]
      exact ⟨[c], .head h₀, h₁.append (Ran.note _ _ _ _)⟩

theorem execute_runPasses (plan : List Command) (directory : String) (w : World) : ∃ ran,
    Ends w.outcome plan ran (execute (runPasses plan directory) w).1
      ∧ Ran directory ran w (execute (runPasses plan directory) w).2 :=
  execute_runFrom directory plan.length plan 1 w

end TexWeave
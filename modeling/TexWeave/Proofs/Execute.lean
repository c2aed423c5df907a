import Mathlib.Data.List.Forall2
import TexWeave.Build

/-!
# Running a computation that may fail

Builds and authoring are computations with a state and a `Failure`.  What one of them does is a
function from the state it starts in to its result and the state it leaves; `execute` is that
function, and the lemmas below say how it goes through the steps a computation is made of.

* `execute` — the result of a computation and the state it leaves.
* `execute_bind` — one step after another; a failure ends the computation and keeps the state.
* `bind_eq_ok`, `bind_eq_error` — the same for computations without a state.
* `FailsWith` — what all failures of a computation have in common.
-/

set_option autoImplicit false

namespace TexWeave

universe u

/-! ## Without a state -/

section Except

variable {ε α β : Type u}

theorem bind_eq_ok {x : Except ε α} {f : α → Except ε β} {b : β} :
    x >>= f = .ok b ↔ ∃ a, x = .ok a ∧ f a = .ok b := by
  rcases x with _ | a <;> simp [bind, Except.bind]

theorem bind_eq_error {x : Except ε α} {f : α → Except ε β} {e : ε} :
    x >>= f = .error e ↔ x = .error e ∨ ∃ a, x = .ok a ∧ f a = .error e := by
  rcases x with _ | a <;> simp [bind, Except.bind]

theorem map_eq_ok {x : Except ε α} {f : α → β} {b : β} :
    f <$> x = .ok b ↔ ∃ a, x = .ok a ∧ f a = b := by
  rcases x with _ | a <;> simp [Functor.map, Except.map]

theorem pure_eq_ok {a b : α} : (pure a : Except ε α) = .ok b ↔ b = a :=
  ⟨fun h ↦ (Except.ok.inj h).symm, fun h ↦ h ▸ rfl⟩

theorem mapM_cons_eq_ok {f : α → Except ε β} {a : α} {as : List α} {bs : List β} :
    (a :: as).mapM f = .ok bs ↔ ∃ b rest, f a = .ok b ∧ as.mapM f = .ok rest ∧ bs = b :: rest := by
  rw [List.mapM_cons]
  simp only [bind_eq_ok, pure_eq_ok]
  constructor
  · rintro ⟨b, hb, rest, hrest, rfl⟩
    exact ⟨b, rest, hb, hrest, rfl⟩
  · rintro ⟨b, rest, hb, hrest, rfl⟩
    exact ⟨b, hb, rest, hrest, rfl⟩

theorem mapM_append_eq_ok {f : α → Except ε β} {as as' : List α} {bs : List β} :
    (as ++ as').mapM f = .ok bs ↔
      ∃ xs ys, as.mapM f = .ok xs ∧ as'.mapM f = .ok ys ∧ bs = xs ++ ys := by
  rw [List.mapM_append]
  simp only [bind_eq_ok, pure_eq_ok]
  constructor
  · rintro ⟨xs, hxs, ys, hys, rfl⟩
    exact ⟨xs, ys, hxs, hys, rfl⟩
  · rintro ⟨xs, ys, hxs, hys, rfl⟩
    exact ⟨xs, hxs, ys, hys, rfl⟩

theorem length_of_mapM {f : α → Except ε β} :
    ∀ {as : List α} {bs : List β}, as.mapM f = .ok bs → bs.length = as.length
  | [], bs, h => by
    rw [pure_eq_ok.1 h]
    rfl
  | a :: as, bs, h => by
    obtain ⟨b, rest, _, hrest, rfl⟩ := mapM_cons_eq_ok.1 h
    rw [List.length_cons, List.length_cons, length_of_mapM hrest]

/-- A computation succeeds on a list exactly if it does so member by member. -/
theorem mapM_eq_ok {f : α → Except ε β} {as : List α} {bs : List β} :
    as.mapM f = .ok bs ↔ List.Forall₂ (fun a b ↦ f a = .ok b) as bs := by
  induction as generalizing bs with
  | nil =>
    rw [List.forall₂_nil_left_iff, List.mapM_nil]
    exact pure_eq_ok
  | cons a as ih =>
    rw [mapM_cons_eq_ok, List.forall₂_cons_left_iff]
    simp only [ih]

theorem exists_of_mem_mapM {f : α → Except ε β} {b : β} :
    ∀ {as : List α} {bs : List β}, as.mapM f = .ok bs → b ∈ bs → ∃ a ∈ as, f a = .ok b
  | [], bs, h, hb => by
    rw [pure_eq_ok.1 h] at hb
    exact absurd hb List.not_mem_nil
  | a :: as, bs, h, hb => by
    obtain ⟨b', rest, hb', hrest, rfl⟩ := mapM_cons_eq_ok.1 h
    rcases List.mem_cons.1 hb with rfl | hb
    · exact ⟨a, List.mem_cons_self, hb'⟩
    · obtain ⟨a', ha', h'⟩ := exists_of_mem_mapM hrest hb
      exact ⟨a', List.mem_cons_of_mem a ha', h'⟩

theorem exists_mem_of_mapM {f : α → Except ε β} {a : α} :
    ∀ {as : List α} {bs : List β}, as.mapM f = .ok bs → a ∈ as → ∃ b ∈ bs, f a = .ok b
  | [], _, _, ha => absurd ha List.not_mem_nil
  | a' :: as, bs, h, ha => by
    obtain ⟨b, rest, hb, hrest, rfl⟩ := mapM_cons_eq_ok.1 h
    rcases List.mem_cons.1 ha with rfl | ha
    · exact ⟨b, List.mem_cons_self, hb⟩
    · obtain ⟨b', hb', h'⟩ := exists_mem_of_mapM hrest ha
      exact ⟨b', List.mem_cons_of_mem b hb', h'⟩

/-- A list on which a computation fails has a member on which it fails. -/
theorem exists_of_mapM_eq_error {f : α → Except ε β} {e : ε} :
    ∀ {as : List α}, as.mapM f = .error e → ∃ a ∈ as, f a = .error e
  | [], h => (nomatch h)
  | a :: as, h => by
    rw [List.mapM_cons] at h
    rcases bind_eq_error.1 h with ha | ⟨b, _, h⟩
    · exact ⟨a, List.mem_cons_self, ha⟩
    · rcases bind_eq_error.1 h with hrest | ⟨bs, _, h⟩
      · obtain ⟨a', ha', h'⟩ := exists_of_mapM_eq_error hrest
        exact ⟨a', List.mem_cons_of_mem a ha', h'⟩
      · exact nomatch h

theorem mapM_congr {f g : α → Except ε β} :
    ∀ {as : List α}, (∀ a ∈ as, f a = g a) → as.mapM f = as.mapM g
  | [], _ => rfl
  | a :: as, h => by
    rw [List.mapM_cons, List.mapM_cons, h a List.mem_cons_self,
      mapM_congr fun a' ha' ↦ h a' (List.mem_cons_of_mem a ha')]

/-- A computation that agrees with another wherever that one succeeds does so on lists as well. -/
theorem mapM_eq_ok_of_imp {f g : α → Except ε β} :
    ∀ {as : List α} {bs : List β}, (∀ a ∈ as, ∀ b, f a = .ok b → g a = .ok b) →
      as.mapM f = .ok bs → as.mapM g = .ok bs
  | [], _, _, h => h
  | a :: as, bs, hfg, h => by
    obtain ⟨b, rest, hb, hrest, rfl⟩ := mapM_cons_eq_ok.1 h
    refine mapM_cons_eq_ok.2 ⟨b, rest, hfg a List.mem_cons_self b hb, ?_, rfl⟩
    exact mapM_eq_ok_of_imp (fun a' ha' ↦ hfg a' (List.mem_cons_of_mem a ha')) hrest

/-- Every failure of a computation has the property `P`. -/
def FailsWith (P : ε → Prop) (x : Except ε α) : Prop := ∀ e, x = .error e → P e

namespace FailsWith

variable {P : ε → Prop}

theorem ok (a : α) : FailsWith P (.ok a : Except ε α) := fun _ h ↦ (nomatch h)

theorem error {e : ε} (h : P e) : FailsWith P (.error e : Except ε α) := by
  rintro _ ⟨⟩
  exact h

theorem bind {x : Except ε α} {f : α → Except ε β} (hx : FailsWith P x)
    (hf : ∀ a, FailsWith P (f a)) : FailsWith P (x >>= f) := by
  intro e h
  rcases bind_eq_error.1 h with h | ⟨a, _, h⟩
  · exact hx e h
  · exact hf a e h

theorem mapM {f : α → Except ε β} (hf : ∀ a, FailsWith P (f a)) :
    ∀ as : List α, FailsWith P (as.mapM f)
  | [] => ok []
  | a :: as => by
    rw [List.mapM_cons]
    exact (hf a).bind fun b ↦ (mapM hf as).bind fun bs ↦ ok (b :: bs)

end FailsWith

end Except

/-! ## With a state -/

section State

variable {ε σ α β : Type}

/-- What a computation results in and the state it leaves, when it starts in the state `s`. -/
def execute (x : ExceptT ε (StateM σ) α) (s : σ) : Except ε α × σ := x.run.run s

@[simp] theorem execute_pure (a : α) (s : σ) :
    execute (pure a : ExceptT ε (StateM σ) α) s = (.ok a, s) := rfl

@[simp] theorem execute_throw (e : ε) (s : σ) :
    execute (throw e : ExceptT ε (StateM σ) α) s = (.error e, s) := rfl

/-- A result that is known already leaves the state alone. -/
@[simp] theorem execute_known (r : Except ε α) (s : σ) :
    execute (ExceptT.mk (pure r) : ExceptT ε (StateM σ) α) s = (r, s) := rfl

@[simp] theorem execute_get (s : σ) :
    execute (get : ExceptT ε (StateM σ) σ) s = (.ok s, s) := rfl

@[simp] theorem execute_set (s t : σ) :
    execute (set t : ExceptT ε (StateM σ) PUnit) s = (.ok ⟨⟩, t) := rfl

@[simp] theorem execute_modifyGet (f : σ → α × σ) (s : σ) :
    execute (modifyGet f : ExceptT ε (StateM σ) α) s = (.ok (f s).1, (f s).2) := rfl

/-- One computation after another. -/
theorem execute_bind (x : ExceptT ε (StateM σ) α) (f : α → ExceptT ε (StateM σ) β) (s : σ) :
    execute (x >>= f) s = match execute x s with
      | (.ok a, t) => execute (f a) t
      | (.error e, t) => (.error e, t) := by
  show (ExceptT.bindCont f (execute x s).1).run (execute x s).2 = _
  rcases execute x s with ⟨_ | a, t⟩ <;> rfl

theorem execute_bind_of_ok {x : ExceptT ε (StateM σ) α} {f : α → ExceptT ε (StateM σ) β}
    {s t : σ} {a : α} (h : execute x s = (.ok a, t)) :
    execute (x >>= f) s = execute (f a) t := by
  rw [execute_bind, h]

theorem execute_bind_of_error {x : ExceptT ε (StateM σ) α} {f : α → ExceptT ε (StateM σ) β}
    {s t : σ} {e : ε} (h : execute x s = (.error e, t)) :
    execute (x >>= f) s = (.error e, t) := by
  rw [execute_bind, h]

/-- Computations that leave the state alone do so one after another. -/
theorem execute_bind_of_known {x : ExceptT ε (StateM σ) α} {f : α → ExceptT ε (StateM σ) β}
    {r : Except ε α} {g : α → Except ε β} (hx : ∀ s, execute x s = (r, s))
    (hf : ∀ a s, execute (f a) s = (g a, s)) (s : σ) : execute (x >>= f) s = (r >>= g, s) := by
  rw [execute_bind, hx]
  cases r with
  | error e => rfl
  | ok a => exact hf a s

/-- Of two computations the first fails or the second does. -/
theorem execute_bind_eq_error {x : ExceptT ε (StateM σ) α} {f : α → ExceptT ε (StateM σ) β}
    {s t : σ} {e : ε} : execute (x >>= f) s = (.error e, t) ↔ execute x s = (.error e, t)
      ∨ ∃ a u, execute x s = (.ok a, u) ∧ execute (f a) u = (.error e, t) := by
  rw [execute_bind]
  rcases execute x s with ⟨_ | a, u⟩
  · simp
  · simp [and_assoc]

end State

end TexWeave

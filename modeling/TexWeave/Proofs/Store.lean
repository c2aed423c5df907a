import TexWeave.Proofs.Execute

/-!
# What the operations on files leave alone

A build writes one file.  The lemmas here say what that means for every other place: creating
directories changes no file and takes no directory away, writing changes one file and no directory,
and a file that has been written reads back.

* `Store.write_eq_ok` — what writing does, and when it can.
* `Store.read_of_write` — a file that was written holds what was written.
* `Store.Extends`, `Store.extends_of_makeDirectories` — creating directories.
* `Store.DirectoryAt` — a directory in the place a path leads to, and what keeps it there.
* `Store.Keeps`, `Store.keeps_supply` — what is there stays there, whatever is supplied.
-/

set_option autoImplicit false

namespace TexWeave
namespace Store

/-! ## One file among many -/

/-- Putting a text at a place changes what is found there and nowhere else. -/
theorem find?_putFile (place q : Place) (text : String) (files : List (Place × String)) :
    ((putFile place text files).find? fun f ↦ f.1 == q).map (·.2)
      = if q = place then some text else (files.find? fun f ↦ f.1 == q).map (·.2) := by
  induction files with
  | nil =>
    by_cases h : q = place
    · simp [putFile, h]
    · simp [putFile, h, Ne.symm h]
  | cons f r ih =>
    rw [putFile]
    by_cases hf : f.1 = place
    · rw [if_pos (beq_iff_eq.2 hf)]
      by_cases h : q = place
      · simp [h]
      · have hq : ¬ place = q := Ne.symm h
        have hfq : ¬ f.1 = q := hf ▸ hq
        simp [h, hq, hfq]
    · rw [if_neg (by simpa using hf)]
      by_cases hq : f.1 = q
      · have h : ¬ q = place := hq ▸ hf
        simp [hq, h]
      · have hb : (f.1 == q) = false := by simpa using hq
        rw [List.find?_cons, List.find?_cons, hb]
        exact ih

theorem write_eq_ok {s t : Store} {p : Path} {text : String} :
    s.write p text = .ok t ↔ ∃ place, s.locate p = .ok place ∧ s.isDirectory place = false
      ∧ s.isDirectory place.dropLast = true
      ∧ t = { s with files := putFile place text s.files } := by
  rw [write]
  cases s.locate p with
  | error fault => simp
  | ok place =>
    cases h : s.isDirectory place <;> cases h' : s.isDirectory place.dropLast <;>
      simp [h, h', @eq_comm Store t]

/-- Writing changes no directory. -/
theorem directories_of_write {s t : Store} {p : Path} {text : String}
    (h : s.write p text = .ok t) : t.directories = s.directories := by
  obtain ⟨_, _, _, _, rfl⟩ := write_eq_ok.1 h
  rfl

/-- After a file was written, its place holds the text and every other place what it held. -/
theorem file?_of_write {s t : Store} {p : Path} {text : String} (h : s.write p text = .ok t) :
    ∃ place, s.locate p = .ok place
      ∧ ∀ q, t.file? q = if q = place then some text else s.file? q := by
  obtain ⟨place, hp, _, _, rfl⟩ := write_eq_ok.1 h
  exact ⟨place, hp, fun q ↦ find?_putFile place q text s.files⟩

/-! ## Places depend on directories alone -/

theorem follow_mono {s t : Store} (h : ∀ p, s.isDirectory p = true → t.isDirectory p = true)
    {q : Place} :
    ∀ {names : List String} {p : Place}, s.follow p names = .ok q → t.follow p names = .ok q
  | [], p, hp => by rwa [follow] at hp ⊢
  | n :: r, p, hp => by
    rw [follow] at hp ⊢
    cases hd : s.isDirectory p with
    | true =>
      rw [hd, if_pos rfl] at hp
      rw [h p hd, if_pos rfl]
      exact follow_mono h hp
    | false =>
      rw [hd, if_neg Bool.false_ne_true] at hp
      split at hp <;> cases hp

/-- A path that has a place keeps it as long as no directory goes away. -/
theorem locate_mono {s t : Store} (h : ∀ p, s.isDirectory p = true → t.isDirectory p = true)
    {p : Path} {q : Place} (hp : s.locate p = .ok q) : t.locate p = .ok q :=
  follow_mono h hp

theorem isDirectory_of_write {s t : Store} {p : Path} {text : String}
    (h : s.write p text = .ok t) (q : Place) : t.isDirectory q = s.isDirectory q := by
  rw [isDirectory, isDirectory, directories_of_write h]

/-- **What was written reads back.** -/
theorem read_of_write {s t : Store} {p : Path} {text : String} (h : s.write p text = .ok t) :
    t.read p = .ok text := by
  obtain ⟨place, hp, hf⟩ := file?_of_write h
  rw [read, locate_mono (fun q hq ↦ (isDirectory_of_write h q).trans hq) hp]
  simp only [hf place, if_true]

/-! ## Creating directories -/

/-- A store with more directories and the same files. -/
structure Extends (s t : Store) : Prop where
  files : t.files = s.files
  directories : s.directories ⊆ t.directories

namespace Extends

theorem refl (s : Store) : Extends s s := ⟨rfl, fun _ h ↦ h⟩

theorem trans {s t u : Store} (h : Extends s t) (h' : Extends t u) : Extends s u :=
  ⟨h'.files.trans h.files, fun _ hp ↦ h'.directories (h.directories hp)⟩

theorem file? {s t : Store} (h : Extends s t) (p : Place) : t.file? p = s.file? p := by
  rw [Store.file?, Store.file?, h.files]

theorem isDirectory {s t : Store} (h : Extends s t) {p : Place} (hp : s.isDirectory p = true) :
    t.isDirectory p = true := by
  rw [Store.isDirectory, Bool.or_eq_true, List.contains_iff_mem] at hp ⊢
  exact hp.imp_right fun hd ↦ h.directories hd

end Extends

theorem extends_of_makeDirectory {s t : Store} {p : Path} (h : s.makeDirectory p = .ok t) :
    Extends s t := by
  rw [makeDirectory] at h
  split at h
  · cases h
  · split at h
    · cases h
    · cases h
      exact ⟨rfl, List.subset_append_left _ _⟩

theorem extends_of_ensureDirectory {s t : Store} {p : Path} (h : s.ensureDirectory p = .ok t) :
    Extends s t := by
  rw [ensureDirectory] at h
  split at h
  · next u hu => cases h; exact extends_of_makeDirectory hu
  · split at h <;> cases h
    exact Extends.refl s

theorem extends_of_ensureReversed {root : PathRoot} :
    ∀ {names : List String} {s t : Store}, s.ensureReversed root names = .ok t → Extends s t
  | [], s, t, h => by
    rw [ensureReversed] at h
    cases h
    exact Extends.refl s
  | n :: above, s, t, h => by
    rw [ensureReversed] at h
    split at h
    · next u hu => cases h; exact extends_of_makeDirectory hu
    · -- the directory above is missing: it is created first
      obtain ⟨u, hu, h⟩ := bind_eq_ok.1 h
      have hsu := extends_of_ensureReversed hu
      split at h
      · next v hv => cases h; exact hsu.trans (extends_of_ensureDirectory hv)
      · cases h
    · split at h <;> cases h
      exact Extends.refl s

/-- **Creating directories** changes no file and takes no directory away. -/
theorem extends_of_makeDirectories {s t : Store} {p : Path} (h : s.makeDirectories p = .ok t) :
    Extends s t :=
  extends_of_ensureReversed h

/-! ## Directories in the way of files -/

/-- A directory, and no file, stands at a path. -/
def DirectoryAt (s : Store) (p : Path) : Prop :=
  ∃ place, s.locate p = .ok place ∧ s.isDirectory place = true ∧ s.file? place = none

/-- Writing a file elsewhere does not move a directory out of the way. -/
theorem DirectoryAt.write {s t : Store} {p q : Path} {text : String} (hp : s.DirectoryAt p)
    (h : s.write q text = .ok t) : t.DirectoryAt p := by
  obtain ⟨place, hl, hd, hf⟩ := hp
  obtain ⟨place', hl', hd', _, ht⟩ := write_eq_ok.1 h
  have hne : place ≠ place' := fun he ↦ by rw [he, hd'] at hd; cases hd
  refine ⟨place, locate_mono (fun q hq ↦ (isDirectory_of_write h q).trans hq) hl,
    (isDirectory_of_write h place).trans hd, ?_⟩
  rw [ht, file?, find?_putFile, if_neg hne]
  exact hf

theorem DirectoryAt.extends {s t : Store} {p : Path} (hp : s.DirectoryAt p) (h : Extends s t) :
    t.DirectoryAt p := by
  obtain ⟨place, hl, hd, hf⟩ := hp
  exact ⟨place, locate_mono (fun q ↦ h.isDirectory) hl, h.isDirectory hd, (h.file? place).trans hf⟩

/-! ## Nothing goes away -/

/-- Where `s` has a file or a directory, `t` has one too. -/
structure Keeps (s t : Store) : Prop where
  files : ∀ q, (s.file? q).isSome = true → (t.file? q).isSome = true
  directories : ∀ q, s.isDirectory q = true → t.isDirectory q = true

namespace Keeps

theorem refl (s : Store) : Keeps s s := ⟨fun _ h ↦ h, fun _ h ↦ h⟩

theorem trans {s t u : Store} (h : Keeps s t) (h' : Keeps t u) : Keeps s u :=
  ⟨fun q hq ↦ h'.files q (h.files q hq), fun q hq ↦ h'.directories q (h.directories q hq)⟩

theorem foldl {α : Type} {f : Store → α → Store} (hf : ∀ s a, Keeps s (f s a)) (as : List α) :
    ∀ s, Keeps s (as.foldl f s) := by
  induction as with
  | nil => exact refl
  | cons a as ih => exact fun s ↦ (hf s a).trans (ih (f s a))

theorem pathExists {s t : Store} (h : Keeps s t) {p : Path} (hp : s.pathExists p = true) :
    t.pathExists p = true := by
  rw [Store.pathExists] at hp ⊢
  cases hl : s.locate p with
  | error fault => simp [hl] at hp
  | ok q =>
    rw [hl] at hp
    rw [locate_mono h.directories hl]
    have hq : s.isDirectory q = true ∨ (s.file? q).isSome = true := by
      simpa [occupied] using hp
    simpa [occupied] using hq.imp (h.directories q) (h.files q)

end Keeps

theorem Extends.keeps {s t : Store} (h : Extends s t) : Keeps s t :=
  ⟨fun q hq ↦ by rwa [h.file? q], fun _ ↦ h.isDirectory⟩

theorem keeps_of_write {s t : Store} {p : Path} {text : String} (h : s.write p text = .ok t) :
    Keeps s t := by
  obtain ⟨place, _, hfile⟩ := file?_of_write h
  refine ⟨fun q hq ↦ ?_, fun q hq ↦ (isDirectory_of_write h q).trans hq⟩
  rw [hfile q]
  split
  · rfl
  · exact hq

/-- **What tools leave takes nothing away.** -/
theorem keeps_supply (s : Store) (path text : String) : Keeps s (s.supply path text) := by
  rw [supply]
  cases hd : s.makeDirectories (Path.ofString path).parent with
  | error f => exact .refl s
  | ok t =>
    have hst := (extends_of_makeDirectories hd).keeps
    cases hw : t.write (Path.ofString path) text with
    | error f => simpa [hw, Except.toOption] using Keeps.refl s
    | ok u => simpa [hw, Except.toOption] using hst.trans (keeps_of_write hw)

/-- A file that was written is there. -/
theorem pathExists_of_write {s t : Store} {p : Path} {text : String}
    (h : s.write p text = .ok t) : t.pathExists p = true := by
  obtain ⟨place, hp, hfile⟩ := file?_of_write h
  rw [pathExists, locate_mono (fun q hq ↦ (isDirectory_of_write h q).trans hq) hp]
  simp [occupied, hfile place]

end Store
end TexWeave

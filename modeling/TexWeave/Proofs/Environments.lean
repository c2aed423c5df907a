import TexWeave.Proofs.Marks

/-!
# Environments in a text

An environment opens with one command and closes with another, and both carry its name.  What counts
as one of them is decided by the characters of the text alone, wherever they come from; so a text
put together from parts may hold more of them than its parts do.  It does not where the next part
starts with a character that cannot go on with either command.

* `delimiters` — the ends of environments in a text, in order.
* `Nested` — every environment that opens closes again, inside of the one around it.
* `Reads` — a text with its delimiters, and with rules for putting such texts together.
* `Balanced` — a text whose delimiters are nested.
-/

set_option autoImplicit false

namespace TexWeave

open Text

/-! ## Delimiters -/

/-- One end of an environment. -/
inductive Delimiter
  | opens (name : String)
  | closes (name : String)
  deriving DecidableEq, Repr

namespace Delimiter

/-- What opens an environment, up to its name. -/
def beginMark : List Char := ['\\', 'b', 'e', 'g', 'i', 'n', '\x7b']

/-- What closes an environment, up to its name. -/
def endMark : List Char := ['\\', 'e', 'n', 'd', '\x7b']

/-- The name behind a mark at the start of a text; there has to be a brace that ends it. -/
def nameBehind? (mark cs : List Char) : Option String :=
  if mark <+: cs then
    let rest := cs.drop mark.length
    if '\x7d' ∈ rest then some (String.ofList (rest.takeWhile (· != '\x7d'))) else none
  else none

/-- The delimiter at the start of a text, if there is one. -/
def at? (cs : List Char) : Option Delimiter :=
  ((nameBehind? beginMark cs).map opens).or ((nameBehind? endMark cs).map closes)

end Delimiter

open Delimiter (beginMark endMark nameBehind?)

/-- The delimiters of a text, in the order in which they start. -/
def delimiters : List Char → List Delimiter
  | [] => []
  | c :: r => (Delimiter.at? (c :: r)).toList ++ delimiters r

/-- Delimiters in which every environment closes under the name it opened with, after all that
opened inside of it. -/
inductive Nested : List Delimiter → Prop
  | nil : Nested []
  | append {a b : List Delimiter} (ha : Nested a) (hb : Nested b) : Nested (a ++ b)
  | environment {inner : List Delimiter} (name : String) (h : Nested inner) :
      Nested (.opens name :: inner ++ [.closes name])

/-! ## Parts of a text -/

/-- A text that no mark can go on into: it is empty or starts with a character that stands in no
mark behind the first place. -/
def Calm (cs : List Char) : Prop := ∀ c ∈ cs.head?, c ∉ beginMark.tail ∧ c ∉ endMark.tail

instance (cs : List Char) : Decidable (Calm cs) :=
  cs.head?.decidableForallMem

/-- A text in which no mark starts, whatever stands behind it. -/
def Inert (w : String) : Prop := Apart w.toList beginMark ∧ Apart w.toList endMark

instance (w : String) : Decidable (Inert w) := inferInstanceAs (Decidable (_ ∧ _))

/-- A text that keeps what stands in front of it apart from what stands behind it. -/
def Divides (r : String) : Prop := r ≠ "" ∧ Inert r ∧ Calm r.toList

instance (r : String) : Decidable (Divides r) := inferInstanceAs (Decidable (_ ∧ _ ∧ _))

/-- A text without marks. -/
def Unbracketed (s : String) : Prop := ¬ beginMark <:+: s.toList ∧ ¬ endMark <:+: s.toList

instance (s : String) : Decidable (Unbracketed s) := inferInstanceAs (Decidable (¬ _ ∧ ¬ _))

/-- A name that ends where it should: it holds neither a backslash nor a brace. -/
def IsEnvironmentName (name : String) : Prop := ∀ c ∈ name.toList, c ∉ ['\\', '\x7b', '\x7d']

instance (name : String) : Decidable (IsEnvironmentName name) :=
  List.decidableBAll _ name.toList

/-- A text in which every mark is followed by the brace that ends its name. -/
def Settled : List Char → Prop
  | [] => True
  | c :: r => (beginMark <+: c :: r ∨ endMark <+: c :: r → '\x7d' ∈ c :: r) ∧ Settled r

/-! ## Delimiters of a part -/

/-- What is taken from the front of a text does not reach past a character that stops it. -/
theorem takeWhile_append_of_mem {p : Char → Bool} {x : Char} {l : List Char} (hx : x ∈ l)
    (hp : p x = false) (c : List Char) : (l ++ c).takeWhile p = l.takeWhile p := by
  induction l with
  | nil => exact absurd hx List.not_mem_nil
  | cons y l ih =>
    rw [List.cons_append, List.takeWhile_cons, List.takeWhile_cons]
    by_cases hy : p y
    · rw [if_pos hy, if_pos hy]
      refine congrArg _ (ih ((List.mem_cons.1 hx).resolve_left ?_))
      rintro rfl
      exact Bool.false_ne_true (hp.symm.trans hy)
    · rw [if_neg hy, if_neg hy]

/-- A mark that is not complete in `u` is not completed by a text it cannot go on into. -/
theorem not_isPrefix_append {mark u c : List Char} (hu : u ≠ []) (h : ¬ mark <+: u)
    (hc : ∀ x ∈ c.head?, x ∉ mark.tail) : ¬ mark <+: u ++ c := by
  intro hlong
  rcases List.prefix_or_prefix_of_prefix hlong (List.prefix_append u c) with h' | ⟨more, rfl⟩
  · exact h h'
  · have hmore : more <+: c := (List.prefix_append_right_inj u).1 hlong
    cases more with
    | nil => exact h (by rw [List.append_nil])
    | cons x more =>
      obtain ⟨rest, rfl⟩ := hmore
      refine hc x rfl ?_
      rw [List.tail_append_of_ne_nil hu]
      exact List.mem_append_right _ List.mem_cons_self

namespace Delimiter

variable {mark u c : List Char}

theorem nameBehind?_append (hu : u ≠ []) (hbrace : mark <+: u → '\x7d' ∈ u)
    (hmark : '\x7d' ∉ mark) (hc : ∀ x ∈ c.head?, x ∉ mark.tail) :
    nameBehind? mark (u ++ c) = nameBehind? mark u := by
  rw [nameBehind?, nameBehind?]
  by_cases h : mark <+: u
  · obtain ⟨rest, rfl⟩ := h
    have hrest : '\x7d' ∈ rest :=
      (List.mem_append.1 (hbrace (List.prefix_append mark rest))).resolve_left hmark
    rw [List.append_assoc, if_pos (List.prefix_append _ _), if_pos (List.prefix_append _ _),
      List.drop_left, List.drop_left]
    simp only [List.mem_append_left c hrest, hrest, if_true,
      takeWhile_append_of_mem (p := (· != '\x7d')) hrest rfl]
  · rw [if_neg h, if_neg (not_isPrefix_append hu h hc)]

theorem at?_append (hu : u ≠ []) (hbrace : beginMark <+: u ∨ endMark <+: u → '\x7d' ∈ u)
    (hc : Calm c) : at? (u ++ c) = at? u := by
  rw [at?, at?, nameBehind?_append hu (fun h ↦ hbrace (.inl h)) (by decide) fun x hx ↦ (hc x hx).1,
    nameBehind?_append hu (fun h ↦ hbrace (.inr h)) (by decide) fun x hx ↦ (hc x hx).2]

theorem nameBehind?_mark {mark name : List Char} (hname : '\x7d' ∉ name) (s : List Char) :
    nameBehind? mark (mark ++ (name ++ '\x7d' :: s)) = some (String.ofList name) := by
  have hkept : ∀ x ∈ name, (x != '\x7d') = true := fun x hx ↦
    bne_iff_ne.2 fun h ↦ hname (h ▸ hx)
  rw [nameBehind?, if_pos (List.prefix_append _ _), List.drop_left]
  simp [List.takeWhile_append_of_pos hkept]

theorem at?_begin {name : List Char} (hname : '\x7d' ∉ name) (s : List Char) :
    at? (beginMark ++ (name ++ '\x7d' :: s)) = some (.opens (String.ofList name)) := by
  rw [at?, nameBehind?_mark hname]
  rfl

theorem at?_end {name : List Char} (hname : '\x7d' ∉ name) (s : List Char) :
    at? (endMark ++ (name ++ '\x7d' :: s)) = some (.closes (String.ofList name)) := by
  have hapart : Apart endMark beginMark := by decide
  rw [at?, nameBehind?_mark hname, nameBehind?,
    if_neg (hapart.not_isPrefix_append (by decide) _)]
  rfl

theorem at?_eq_none (hb : ¬ beginMark <+: u) (he : ¬ endMark <+: u) : at? u = none := by
  rw [at?, nameBehind?, nameBehind?, if_neg hb, if_neg he]
  rfl

end Delimiter

/-- **Delimiters of a text and of what stands behind it** are those of both, if no mark can go on
from the one into the other. -/
theorem delimiters_append {s c : List Char} (hs : Settled s) (hc : Calm c) :
    delimiters (s ++ c) = delimiters s ++ delimiters c := by
  induction s with
  | nil => rfl
  | cons x s ih =>
    rw [List.cons_append, delimiters, delimiters, ih hs.2, ← List.cons_append,
      Delimiter.at?_append (List.cons_ne_nil x s) hs.1 hc, List.append_assoc]

theorem Settled.append {s c : List Char} (hs : Settled s) (hc : Settled c) (hcalm : Calm c) :
    Settled (s ++ c) := by
  induction s with
  | nil => exact hc
  | cons x s ih =>
    refine ⟨fun hmark ↦ List.mem_append_left c (hs.1 (hmark.imp ?_ ?_)), ih hs.2⟩
    · exact fun h ↦ not_not.1 fun hn ↦
        not_isPrefix_append (List.cons_ne_nil x s) hn (fun y hy ↦ (hcalm y hy).1) h
    · exact fun h ↦ not_not.1 fun hn ↦
        not_isPrefix_append (List.cons_ne_nil x s) hn (fun y hy ↦ (hcalm y hy).2) h

theorem Settled.of_append {s c : List Char} (h : Settled (s ++ c)) (hc : '\x7d' ∉ c) :
    Settled s := by
  induction s with
  | nil => trivial
  | cons x s ih =>
    refine ⟨fun hmark ↦ ?_, ih h.2⟩
    have hlong := h.1 (hmark.imp (·.trans (List.prefix_append _ c)) (·.trans
      (List.prefix_append _ c)))
    exact (List.mem_append.1 hlong).resolve_right hc

/-- A text in which no mark starts can be passed over. -/
theorem delimiters_of_apart {w : List Char} (hb : Apart w beginMark) (he : Apart w endMark)
    (s : List Char) : delimiters (w ++ s) = delimiters s := by
  induction w with
  | nil => rfl
  | cons x w ih =>
    have hat : Delimiter.at? (x :: (w ++ s)) = none :=
      Delimiter.at?_eq_none (hb.not_isPrefix_append (List.cons_ne_nil x w) s)
        (he.not_isPrefix_append (List.cons_ne_nil x w) s)
    rw [List.cons_append, delimiters, hat, ih hb.of_cons he.of_cons]
    rfl

theorem Settled.after {w s : List Char} (hb : Apart w beginMark) (he : Apart w endMark)
    (hs : Settled s) : Settled (w ++ s) := by
  induction w with
  | nil => exact hs
  | cons x w ih =>
    refine ⟨fun hmark ↦ hmark.elim (fun h ↦ ?_) fun h ↦ ?_, ih hb.of_cons he.of_cons⟩
    · exact absurd h (hb.not_isPrefix_append (List.cons_ne_nil x w) s)
    · exact absurd h (he.not_isPrefix_append (List.cons_ne_nil x w) s)

/-- No mark starts in a text without backslashes. -/
theorem apart_of_not_mem {l mark : List Char} (h : '\\' ∉ l) (hmark : mark.head? = some '\\') :
    Apart l mark := by
  intro t ht hne
  obtain ⟨x, t, rfl⟩ := List.exists_cons_of_ne_nil hne
  have hx : x ≠ '\\' := fun hx ↦
    h (((List.mem_tails _ _).1 ht).subset (hx ▸ List.mem_cons_self))
  obtain ⟨mark, rfl⟩ := List.head?_eq_some_iff.1 hmark
  exact ⟨fun h' ↦ hx (List.cons_prefix_cons.1 h').1,
    fun h' ↦ hx (List.cons_prefix_cons.1 h').1.symm⟩

/-! ## Texts with their delimiters -/

/-- The delimiters of a text are `ds`, and none of them is left open at its end. -/
structure Reads (s : String) (ds : List Delimiter) : Prop where
  settled : Settled s.toList
  delimiters_eq : delimiters s.toList = ds

namespace Reads

variable {s t w name : String} {ds es : List Delimiter}

theorem append (hs : Reads s ds) (ht : Reads t es) (hcalm : Calm t.toList) :
    Reads (s ++ t) (ds ++ es) := by
  refine ⟨?_, ?_⟩
  · rw [String.toList_append]
    exact hs.settled.append ht.settled hcalm
  · rw [String.toList_append, delimiters_append hs.settled hcalm, hs.delimiters_eq,
      ht.delimiters_eq]

theorem after (hw : Inert w) (hs : Reads s ds) : Reads (w ++ s) ds := by
  refine ⟨?_, ?_⟩
  · rw [String.toList_append]
    exact hs.settled.after hw.1 hw.2
  · rw [String.toList_append, delimiters_of_apart hw.1 hw.2, hs.delimiters_eq]

theorem empty : Reads "" [] := ⟨trivial, rfl⟩

theorem ofInert (hw : Inert w) : Reads w [] := by
  have h := after hw empty
  rwa [String.append_empty] at h

/-- Without marks there are no delimiters. -/
theorem ofUnbracketed (h : Unbracketed s) : Reads s [] := by
  have hlist (cs : List Char) (hb : ¬ beginMark <:+: cs) (he : ¬ endMark <:+: cs) :
      Settled cs ∧ delimiters cs = [] := by
    induction cs with
    | nil => exact ⟨trivial, rfl⟩
    | cons c r ih =>
      have hb' : ¬ beginMark <+: c :: r := fun h ↦ hb h.isInfix
      have he' : ¬ endMark <+: c :: r := fun h ↦ he h.isInfix
      obtain ⟨hsettled, hr⟩ := ih (fun h ↦ hb (List.infix_cons h)) fun h ↦ he (List.infix_cons h)
      refine ⟨⟨fun h ↦ (h.elim hb' he').elim, hsettled⟩, ?_⟩
      rw [delimiters, Delimiter.at?_eq_none hb' he', hr]
      rfl
  exact ⟨(hlist _ h.1 h.2).1, (hlist _ h.1 h.2).2⟩

/-- Neither are there in a text without backslashes. -/
theorem ofPlain (h : '\\' ∉ s.toList) : Reads s [] :=
  ofInert ⟨apart_of_not_mem h rfl, apart_of_not_mem h rfl⟩

/-- Line feeds at the end of a text mean nothing. -/
theorem of_newlines {k : Nat} (h : Reads t ds)
    (hk : t.toList = s.toList ++ List.replicate k '\n') : Reads s ds := by
  have hbrace : '\x7d' ∉ List.replicate k '\n' := fun h ↦
    absurd (List.eq_of_mem_replicate h) (by decide)
  have hback : '\\' ∉ List.replicate k '\n' := fun h ↦
    absurd (List.eq_of_mem_replicate h) (by decide)
  have hcalm : Calm (List.replicate k '\n') := fun c hc ↦ by
    rw [List.eq_of_mem_replicate (List.mem_of_head? hc)]
    decide
  have hsettled : Settled s.toList := .of_append (hk ▸ h.settled) hbrace
  have hnone : delimiters (List.replicate k '\n') = [] := by
    have h := delimiters_of_apart (apart_of_not_mem hback rfl) (apart_of_not_mem hback rfl) []
    rwa [List.append_nil] at h
  refine ⟨hsettled, ?_⟩
  rw [← h.delimiters_eq, hk, delimiters_append hsettled hcalm, hnone, List.append_nil]

theorem dropNewlines (h : Reads s ds) : Reads (dropNewlines s) ds :=
  have ⟨_, hk⟩ := exists_eq_dropNewlines_append s
  h.of_newlines hk

/-! ### Parts that are kept apart -/

theorem divide {r : String} (hr : Divides r) (hs : Reads s ds) (ht : Reads t es) :
    Reads (s ++ (r ++ t)) (ds ++ es) := by
  refine hs.append (after hr.2.1 ht) fun c hc ↦ hr.2.2 c ?_
  have hne : r.toList ≠ [] := fun h ↦ hr.1 (String.toList_eq_nil_iff.1 h)
  rwa [String.toList_append, List.head?_append_of_ne_nil _ hne] at hc

theorem enclose {r : String} (hw : Inert w) (hr : Divides r) (hs : Reads s ds) :
    Reads (w ++ (s ++ r)) ds := by
  have h := after hw (divide hr hs empty)
  rwa [String.append_empty, List.append_nil] at h

/-- The same in front of more. -/
theorem enclose_append {r : String} (hw : Inert w) (hr : Divides r) (hs : Reads s [])
    (ht : Reads t es) : Reads (w ++ (s ++ (r ++ t))) es :=
  after hw (divide hr hs ht)

theorem command (hname : Inert ("\\" ++ name ++ "\x7b")) (hs : Reads s ds) :
    Reads (command name s) ds := by
  have h := enclose (r := "\x7d") hname (by decide) hs
  simpa only [TexWeave.command, braced, String.append_assoc] using h

theorem joinWith {sep : String} (hsep : Divides sep) :
    ∀ {ss : List String}, (∀ s ∈ ss, Reads s []) → Reads (joinWith sep ss) []
  | [], _ => empty
  | [s], h => h s List.mem_cons_self
  | s :: _ :: _, h => divide hsep (h s List.mem_cons_self)
      (joinWith hsep fun u hu ↦ h u (List.mem_cons_of_mem s hu))

/-! ### Ends of environments -/

/-- After a delimiter the reading goes on behind its name. -/
theorem ofDelimiter {m : List Char} {d : Delimiter} (hm : '\\' ∉ m)
    (hname : IsEnvironmentName name)
    (hd : Delimiter.at? ('\\' :: m ++ (name.toList ++ '\x7d' :: s.toList)) = some d)
    (h : Reads s ds) (ht : t.toList = '\\' :: m ++ (name.toList ++ '\x7d' :: s.toList)) :
    Reads t (d :: ds) := by
  have hback : '\\' ∉ m ++ name.toList ++ ['\x7d'] := by
    simp only [List.mem_append, List.mem_singleton, not_or]
    exact ⟨⟨hm, fun hc ↦ hname _ hc (by decide)⟩, by decide⟩
  have hparts : '\\' :: m ++ (name.toList ++ '\x7d' :: s.toList)
      = '\\' :: (m ++ name.toList ++ ['\x7d'] ++ s.toList) := by simp
  rw [hparts] at hd ht
  refine ⟨?_, ?_⟩
  · rw [ht]
    refine ⟨fun _ ↦ by simp, ?_⟩
    exact h.settled.after (apart_of_not_mem hback rfl) (apart_of_not_mem hback rfl)
  · rw [ht, delimiters, hd,
      delimiters_of_apart (apart_of_not_mem hback rfl) (apart_of_not_mem hback rfl),
      h.delimiters_eq]
    rfl

theorem opens (hname : IsEnvironmentName name) (h : Reads s ds) :
    Reads (beginEnvironment name ++ s) (.opens name :: ds) := by
  have hbrace : '\x7d' ∉ name.toList := fun hc ↦ hname _ hc (by decide)
  refine ofDelimiter (m := beginMark.tail) (by decide) hname ?_ h ?_
  · exact (Delimiter.at?_begin hbrace s.toList).trans (by rw [String.ofList_toList])
  · simp [beginEnvironment, TexWeave.command, braced, String.toList_append, beginMark]

theorem closes (hname : IsEnvironmentName name) (h : Reads s ds) :
    Reads (endEnvironment name ++ s) (.closes name :: ds) := by
  have hbrace : '\x7d' ∉ name.toList := fun hc ↦ hname _ hc (by decide)
  refine ofDelimiter (m := endMark.tail) (by decide) hname ?_ h ?_
  · exact (Delimiter.at?_end hbrace s.toList).trans (by rw [String.ofList_toList])
  · simp [endEnvironment, TexWeave.command, braced, String.toList_append, endMark]

end Reads

/-! ## Lines -/

/-- The same of lines, each with its end. -/
def ReadsLines (ls : List String) (ds : List Delimiter) : Prop := Reads (endLines ls) ds

namespace ReadsLines

variable {ls ms : List String} {s : String} {ds es : List Delimiter}

theorem nil : ReadsLines [] [] := Reads.empty

theorem cons (hs : Reads s ds) (h : ReadsLines ls es) : ReadsLines (s :: ls) (ds ++ es) := by
  rw [ReadsLines, endLines_cons]
  exact hs.divide (by decide) h

theorem single (hs : Reads s ds) : ReadsLines [s] ds := by
  have h := cons hs nil
  rwa [List.append_nil] at h

theorem joinLines (h : ReadsLines ls ds) : Reads (joinLines ls) ds := by
  by_cases hls : ls = []
  · rw [hls] at h ⊢
    exact h
  · refine h.of_newlines (k := 1) ?_
    rw [endLines_eq hls, String.toList_append]
    rfl

theorem append (h : ReadsLines ls ds) (h' : ReadsLines ms es) :
    ReadsLines (ls ++ ms) (ds ++ es) := by
  by_cases hls : ls = []
  · have hds : ds = [] := by
      rw [← h.delimiters_eq, hls]
      rfl
    rwa [hls, hds]
  · rw [ReadsLines, endLines_append, endLines_eq hls, String.append_assoc]
    exact h.joinLines.divide (by decide) h'

/-- An environment opens in front of its lines and closes behind them.  Its first line may go on
behind the name. -/
theorem environment {name options : String} (hname : IsEnvironmentName name)
    (ho : Reads options []) (h : ReadsLines ls ds) :
    ReadsLines ((beginEnvironment name ++ options) :: ls ++ [endEnvironment name])
      (.opens name :: ds ++ [.closes name]) := by
  have hbegin := cons (Reads.opens hname ho) h
  have hend : Reads (endEnvironment name) [.closes name] := by
    have hend := Reads.closes hname .empty
    rwa [String.append_empty] at hend
  exact hbegin.append (single hend)

end ReadsLines

/-- Lines without delimiters. -/
def Silent (ls : List String) : Prop := ∀ l ∈ ls, Reads l []

namespace Silent

variable {ls ms : List String} {s : String}

theorem nil : Silent [] := fun _ h ↦ absurd h List.not_mem_nil

theorem cons (hs : Reads s []) (h : Silent ls) : Silent (s :: ls) :=
  List.forall_mem_cons.2 ⟨hs, h⟩

theorem single (hs : Reads s []) : Silent [s] := cons hs nil

theorem append (h : Silent ls) (h' : Silent ms) : Silent (ls ++ ms) :=
  List.forall_mem_append.2 ⟨h, h'⟩

theorem ite {c : Prop} [Decidable c] (h : Silent ls) (h' : Silent ms) :
    Silent (if c then ls else ms) := by
  split
  · exact h
  · exact h'

theorem readsLines : ∀ {ls : List String}, Silent ls → ReadsLines ls []
  | [], _ => .nil
  | s :: _, h => ReadsLines.cons (h s List.mem_cons_self)
      (readsLines fun l hl ↦ h l (List.mem_cons_of_mem s hl))

end Silent

/-! ## Nesting -/

/-- A text in which every environment closes again, inside of the one around it. -/
def Balanced (s : String) : Prop := ∃ ds, Reads s ds ∧ Nested ds

/-- The same of lines, each with its end. -/
def BalancedLines (ls : List String) : Prop := ∃ ds, ReadsLines ls ds ∧ Nested ds

theorem Balanced.ofReads {s : String} (h : Reads s []) : Balanced s := ⟨[], h, .nil⟩

namespace BalancedLines

variable {ls ms : List String} {s name : String}

theorem nil : BalancedLines [] := ⟨[], .nil, .nil⟩

theorem cons (hs : Balanced s) (h : BalancedLines ls) : BalancedLines (s :: ls) := by
  obtain ⟨ds, hds, hnested⟩ := hs
  obtain ⟨es, hes, hnested'⟩ := h
  exact ⟨ds ++ es, .cons hds hes, hnested.append hnested'⟩

theorem cons_reads (hs : Reads s []) (h : BalancedLines ls) : BalancedLines (s :: ls) :=
  cons (.ofReads hs) h

theorem ofSilent (h : Silent ls) : BalancedLines ls := ⟨[], h.readsLines, .nil⟩

theorem append (h : BalancedLines ls) (h' : BalancedLines ms) : BalancedLines (ls ++ ms) := by
  obtain ⟨ds, hds, hnested⟩ := h
  obtain ⟨es, hes, hnested'⟩ := h'
  exact ⟨ds ++ es, hds.append hes, hnested.append hnested'⟩

theorem ite {c : Prop} [Decidable c] (h : BalancedLines ls) (h' : BalancedLines ms) :
    BalancedLines (if c then ls else ms) := by
  split
  · exact h
  · exact h'

theorem joinLines (h : BalancedLines ls) : Balanced (joinLines ls) :=
  h.imp fun _ hds ↦ ⟨hds.1.joinLines, hds.2⟩

/-- **Lines in an environment.** -/
theorem environment (hname : IsEnvironmentName name) {options : String} (ho : Reads options [])
    (h : BalancedLines ls) :
    BalancedLines ((beginEnvironment name ++ options) :: ls ++ [endEnvironment name]) := by
  obtain ⟨ds, hds, hnested⟩ := h
  exact ⟨_, hds.environment hname ho, hnested.environment name⟩

end BalancedLines

end TexWeave

import TexWeave.Session
import TexWeave.Proofs.Execute

/-!
# What an author can do, and when it is refused

Everything an author does to a studio is an operation.  An operation either succeeds and changes
what it is meant to change, or it is refused and changes nothing: no document, no axis, no session,
and not even the record of what happened.

* `Operation`, `Answer`, `perform` — the operations and what they answer.
* `Target.place?` — the document an operation is for.
* `Operation.document?`, `Operation.entry?` — what an operation has to make before it can do
  anything.
* `Refused` — when an operation is refused, and with which failure.
* `Changes` — what a studio is like after an operation that was not refused.
* `perform_eq_error_iff` — the operations that fail are those that are refused, and they leave the
  studio as it was.
-/

set_option autoImplicit false

namespace TexWeave

/-! ## Operations -/

/-- The document an operation is for: the one given, or else the one current in a session. -/
structure Target where
  session : String := ""
  given : Option DocumentId := none

/-- What an author adds to a document. -/
inductive Addition
  | entry (e : Entry)
  | text (prose heading source : Value)
  | code (description source name : Value)
  | figure (plot : Plot) (placement : List (String × Value))

/-- An operation of an author.  A block is known by its place among those opened so far. -/
inductive Operation
  | construct (plotOf : PlotReader) (fields : Value)
  | create (session : String) (plotOf : PlotReader) (fields : Value)
  | getOrCreate (session : String) (plotOf : PlotReader) (fields : Value)
  | activate (session : String) (d : DocumentId)
  | reset (session : String)
  | assign (d : DocumentId) (plotOf : PlotReader) (name : String) (v : Value)
  | addPackage (d : DocumentId) (name : String)
  | add (target : Target) (a : Addition)
  | describe (target : Target) (description : Value) (found : Source.Module.Found)
  | openBlock (target : Target) (description heading : Value)
  | enterBlock (block : Nat) (fileName : String) (file : Option String) (line : Int)
  | newAxis (a : Axis)
  | pushPlot (axis : Nat) (plot : Plot) (placement : List (String × Value))

/-- What an operation answers. -/
inductive Answer
  | document (d : DocumentId)
  | entry (e : Entry)
  | block (b : Authoring.OpenBlock)
  | number (n : Nat)
  | done

/-- Settles the document an operation is for. -/
def Target.resolve (t : Target) : Authoring DocumentId := Authoring.resolve t.session t.given

/-- Adds to a document. -/
def Addition.addTo (d : DocumentId) : Addition → Authoring Entry
  | .entry e => do
    Authoring.append d e
    return e
  | .text prose heading source => .text <$> Authoring.addText d prose heading source
  | .code description source name => .code <$> Authoring.addCode d description source name
  | .figure plot placement => .figure <$> Authoring.addFigure d plot placement

/-- Performs an operation when these blocks are open. -/
def perform (blocks : List Authoring.OpenBlock) : Operation → Authoring Answer
  | .construct plotOf fields => return .document (← Authoring.newDocument plotOf fields)
  | .create session plotOf fields => return .document (← Authoring.create plotOf session fields)
  | .getOrCreate session plotOf fields =>
    return .document (← Authoring.getOrCreate plotOf session fields).1
  | .activate session d => return .document (← Authoring.activate session d)
  | .reset session => do
    Authoring.reset session
    return .done
  | .assign d plotOf name v => do
    Authoring.assign plotOf d name v
    return .done
  | .addPackage d name => do
    Authoring.addPackage d name
    return .done
  | .add target a => return .entry (← a.addTo (← target.resolve))
  | .describe target description found =>
    return .entry (.code
      (← Authoring.describeFound target.session target.given description found))
  | .openBlock target description heading =>
    return .block (← Authoring.openBlock target.session target.given description heading)
  | .enterBlock block fileName file line =>
    match blocks[block]? with
    | some b => return .entry (.text (← Authoring.enterBlock b fileName file line))
    | none => return .done
  | .newAxis a => return .number (← Authoring.newAxis a)
  | .pushPlot axis plot placement => return .number (← Authoring.pushPlot axis plot placement)

/-! ## The document an operation is for -/

namespace Studio

variable {s : Studio}

theorem currentOf_withCurrent (session : String) (d : Option DocumentId) (other : String) :
    (s.withCurrent session d).currentOf other =
      if other = session then d else s.currentOf other := by
  have hothers : (s.current.filter fun c ↦ c.1 != session).find? (fun c ↦ c.1 == other) =
      if other = session then none else s.current.find? fun c ↦ c.1 == other := by
    rw [List.find?_filter]
    split
    · next h =>
      subst h
      exact List.find?_eq_none.2 fun c _ ↦ by simp
    · next h =>
      congr 1
      funext c
      by_cases hc : c.1 = other
      · simp [hc, h]
      · simp [hc]
  unfold currentOf withCurrent
  cases d with
  | none =>
    simp only [hothers]
    split <;> rfl
  | some d =>
    by_cases h : other = session
    · simp [h]
    · simp [hothers, h, Ne.symm h]

end Studio

/-- The document an operation is for, if there is one, when these documents are current in the
sessions. -/
def Target.place? (t : Target) (current : String → Option DocumentId) : Option DocumentId :=
  t.given.or (current t.session)

theorem execute_current? (session : String) (s : Studio) :
    execute (Authoring.current? session) s = (.ok (s.currentOf session), s) := rfl

theorem execute_resolve_of_place {t : Target} {s : Studio} {d : DocumentId}
    (h : t.place? s.currentOf = some d) : execute t.resolve s = (.ok d, s) := by
  rcases t with ⟨session, _ | d'⟩
  · have hcurrent : s.currentOf session = some d := h
    refine (execute_bind_of_ok (execute_current? session s)).trans ?_
    rw [hcurrent]
    rfl
  · obtain rfl : d' = d := Option.some.inj h
    rfl

theorem execute_resolve_of_none {t : Target} {s : Studio} (h : t.place? s.currentOf = none) :
    execute t.resolve s = (.error .noDocument, s) := by
  rcases t with ⟨session, _ | d'⟩
  · have hcurrent : s.currentOf session = none := h
    refine (execute_bind_of_ok (execute_current? session s)).trans ?_
    rw [hcurrent]
    rfl
  · exact (nomatch h)

/-! ## What an operation has to make -/

namespace Operation

/-- The document an operation has to make, or what is wrong with its fields, when these documents
are current in the sessions. -/
def document? (current : String → Option DocumentId) :
    Operation → Option (Except Failure Document)
  | .construct plotOf fields | .create _ plotOf fields =>
    some (Document.check plotOf fields).toExcept
  | .getOrCreate session plotOf fields =>
    match current session with
    | some _ => none
    | none => some (Document.check plotOf fields).toExcept
  | _ => none

variable (blocks : List Authoring.OpenBlock)

/-- What an operation that has to do with entries is for.  The document of a block was settled when
the block was opened. -/
def target? : Operation → Option Target
  | .add t _ | .describe t .. | .openBlock t .. => some t
  | .enterBlock block .. => blocks[block]?.map fun b ↦ { given := some b.target }
  | _ => none

end Operation

/-- The entry that is added, or why there is none. -/
def Addition.built : Addition → Except Failure Entry
  | .entry e => .ok e
  | .text prose heading source => .text <$> TextEntry.make prose heading source
  | .code description source name => .code <$> CodeEntry.make description source name
  | .figure plot placement => .figure <$> FigureEntry.make plot placement

/-- The entry an operation adds, or why there is none. -/
def Operation.entry? (blocks : List Authoring.OpenBlock) :
    Operation → Option (Except Failure Entry)
  | .add _ a => some a.built
  | .describe _ description found => some do
    Addition.built (.code description (.str (← found.source)) .null)
  | .enterBlock block fileName file line => blocks[block]?.map fun b ↦ do
    Addition.built
      (.text b.description b.heading (.str (← Source.blockSource fileName file line)))
  | _ => none

/-! ## Putting entries into documents -/

/-- The computation puts the entry that was built at the end of a document.  If none could be built
it fails for the same reason and changes nothing. -/
structure Puts (x : Authoring Entry) (d : DocumentId) (built : Except Failure Entry) : Prop where
  refuses : ∀ {f s}, built = .error f → execute x s = (.error f, s)
  puts : ∀ {e s}, built = .ok e → ∃ w, execute x s =
    (.ok e, { s with documents := s.documents.modify d (·.append e), world := w })

theorem execute_append (d : DocumentId) (e : Entry) (s : Studio) :
    ∃ w, execute (Authoring.append d e) s =
      (.ok ⟨⟩, { s with documents := s.documents.modify d (·.append e), world := w }) :=
  ⟨_, rfl⟩

namespace Puts

variable {α : Type} {d : DocumentId}

/-- What an entry is built from may itself be missing. -/
theorem ofKnown {needed : Except Failure α} {x : α → Authoring Entry}
    {built : α → Except Failure Entry} (h : ∀ a, Puts (x a) d (built a)) :
    Puts (Authoring.known needed >>= x) d (needed >>= built) where
  refuses := by
    intro f s hf
    cases needed with
    | error f' =>
      obtain rfl : f' = f := Except.error.inj hf
      rfl
    | ok a => exact (h a).refuses hf
  puts := by
    intro e s he
    cases needed with
    | error f => exact (nomatch he)
    | ok a => exact (h a).puts he

/-- Whatever follows the adding of an entry only adds to the record. -/
theorem ofAppend {e : Entry} {rest : Authoring Entry}
    (h : ∀ s, ∃ w, execute rest s = (.ok e, { s with world := w })) :
    Puts (do Authoring.append d e; rest) d (.ok e) where
  refuses := (nomatch ·)
  puts := by
    intro e' s he
    obtain rfl : e = e' := Except.ok.inj he
    obtain ⟨w, hw⟩ := execute_append d e s
    obtain ⟨w', hw'⟩ := h { s with documents := s.documents.modify d (·.append e), world := w }
    exact ⟨w', (execute_bind_of_ok hw).trans hw'⟩

end Puts

/-- Adding to a document puts one entry at its end. -/
theorem Addition.puts (d : DocumentId) (a : Addition) : Puts (a.addTo d) d a.built := by
  cases a with
  | entry e => exact .ofAppend fun s ↦ ⟨s.world, rfl⟩
  -- Once what is answered is pushed behind the last step, what is left to match is `built` itself.
  | text prose heading source =>
    simp only [addTo, built, Authoring.addText, map_bind, map_pure]
    exact .ofKnown fun e ↦ .ofAppend fun s ↦ ⟨s.world, rfl⟩
  | code description source name =>
    simp only [addTo, built, Authoring.addCode, map_bind, map_pure]
    exact .ofKnown fun e ↦ .ofAppend fun s ↦ ⟨_, rfl⟩
  | figure plot placement =>
    simp only [addTo, built, Authoring.addFigure, map_bind, map_pure]
    exact .ofKnown fun e ↦ .ofAppend fun s ↦ ⟨s.world, rfl⟩

/-- Every operation that adds an entry first settles the document and then puts the entry there. -/
theorem exists_perform_eq {blocks : List Authoring.OpenBlock} {op : Operation} {t : Target}
    {built : Except Failure Entry} (ht : op.target? blocks = some t)
    (hb : op.entry? blocks = some built) :
    ∃ x : DocumentId → Authoring Entry,
      perform blocks op = (do return .entry (← x (← t.resolve))) ∧ ∀ d, Puts (x d) d built := by
  cases op with
  | add target a =>
    cases ht
    cases hb
    exact ⟨fun d ↦ a.addTo d, rfl, a.puts⟩
  | describe target description found =>
    cases ht
    cases hb
    refine ⟨fun d ↦ Authoring.known found.source >>= fun source ↦
      Addition.addTo d (.code description (.str source) .null), ?_, fun d ↦ .ofKnown fun source ↦
        Addition.puts d _⟩
    simp only [perform, Authoring.describeFound, Addition.addTo, Target.resolve, bind_assoc]
    simp
  | enterBlock block fileName file line =>
    obtain ⟨b, hblock, rfl⟩ := Option.map_eq_some_iff.1 ht
    simp only [Operation.entry?, hblock, Option.map_some, Option.some.injEq] at hb
    subst hb
    refine ⟨fun d ↦ Authoring.known (Source.blockSource fileName file line) >>= fun source ↦
      Addition.addTo d (.text b.description b.heading (.str source)), ?_, fun d ↦
        .ofKnown fun source ↦ Addition.puts d _⟩
    simp [perform, hblock, Authoring.enterBlock, Addition.addTo, Target.resolve,
      Authoring.resolve]
  | _ => exact (nomatch hb)

/-! ## What an operation does -/

section Specification

variable {blocks : List Authoring.OpenBlock} {s : Studio} {op : Operation}

/-- When an operation is refused, and with which failure. -/
inductive Refused (blocks : List Authoring.OpenBlock) (s : Studio) : Operation → Failure → Prop
  /-- The fields of a new document do not fit. -/
  | unmade {op : Operation} {f : Failure} (h : op.document? s.currentOf = some (.error f)) :
      Refused blocks s op f
  /-- A part of a document cannot be set to a value, or not at all. -/
  | unassigned {d : DocumentId} {plotOf : PlotReader} {name : String} {v : Value} {f : Failure}
      (h : (s.documents[d]?.getD {}).assign plotOf name v = .error f) :
      Refused blocks s (.assign d plotOf name v) f
  /-- No document is given and none is current. -/
  | untargeted {op : Operation} {t : Target} (ht : op.target? blocks = some t)
      (hplace : t.place? s.currentOf = none) : Refused blocks s op .noDocument
  /-- There is a document, but no entry can be built for it. -/
  | unbuilt {op : Operation} {t : Target} {d : DocumentId} {f : Failure}
      (ht : op.target? blocks = some t) (hplace : t.place? s.currentOf = some d)
      (hb : op.entry? blocks = some (.error f)) : Refused blocks s op f
  /-- A plot that goes onto an axis comes with a placement. -/
  | placed {axis : Nat} {plot : Plot} {placement : List (String × Value)}
      (h : placement ≠ []) : Refused blocks s (.pushPlot axis plot placement) .placementOnAxis

/-- What an operation that is not refused answers, and the studio it leaves; what it records is left
open. -/
inductive Changes (blocks : List Authoring.OpenBlock) (s : Studio) :
    Operation → Answer → Studio → Prop
  | construct {plotOf : PlotReader} {fields : Value} {doc : Document}
      (h : (Document.check plotOf fields).toExcept = .ok doc) :
      Changes blocks s (.construct plotOf fields) (.document s.documents.size)
        { s with documents := s.documents.push doc }
  | create {session : String} {plotOf : PlotReader} {fields : Value} {doc : Document} {w : World}
      (h : (Document.check plotOf fields).toExcept = .ok doc) :
      Changes blocks s (.create session plotOf fields) (.document s.documents.size)
        { s.withCurrent session (some s.documents.size) with
          documents := s.documents.push doc, world := w }
  | getOrCreate {session : String} {plotOf : PlotReader} {fields : Value} {doc : Document}
      {w : World} (hnone : s.currentOf session = none)
      (h : (Document.check plotOf fields).toExcept = .ok doc) :
      Changes blocks s (.getOrCreate session plotOf fields) (.document s.documents.size)
        { s.withCurrent session (some s.documents.size) with
          documents := s.documents.push doc, world := w }
  | get {session : String} {plotOf : PlotReader} {fields : Value} {d : DocumentId}
      (h : s.currentOf session = some d) :
      Changes blocks s (.getOrCreate session plotOf fields) (.document d) s
  | activate {session : String} {d : DocumentId} :
      Changes blocks s (.activate session d) (.document d) (s.withCurrent session (some d))
  | reset {session : String} :
      Changes blocks s (.reset session) .done (s.withCurrent session none)
  | assign {d : DocumentId} {plotOf : PlotReader} {name : String} {v : Value} {doc : Document}
      (h : (s.documents[d]?.getD {}).assign plotOf name v = .ok doc) :
      Changes blocks s (.assign d plotOf name v) .done
        { s with documents := s.documents.modify d fun _ ↦ doc }
  | addPackage {d : DocumentId} {name : String} :
      Changes blocks s (.addPackage d name) .done
        { s with documents := s.documents.modify d (·.addPackage name) }
  | entry {op : Operation} {t : Target} {d : DocumentId} {e : Entry} {w : World}
      (ht : op.target? blocks = some t) (hplace : t.place? s.currentOf = some d)
      (hb : op.entry? blocks = some (.ok e)) :
      Changes blocks s op (.entry e)
        { s with documents := s.documents.modify d (·.append e), world := w }
  | openBlock {t : Target} {d : DocumentId} {description heading : Value}
      (hplace : t.place? s.currentOf = some d) :
      Changes blocks s (.openBlock t description heading) (.block ⟨description, heading, d⟩) s
  | noBlock {block : Nat} {fileName : String} {file : Option String} {line : Int}
      (h : blocks[block]? = none) :
      Changes blocks s (.enterBlock block fileName file line) .done s
  | newAxis {a : Axis} :
      Changes blocks s (.newAxis a) (.number s.axes.size) { s with axes := s.axes.push a }
  | pushPlot {axis : Nat} {plot : Plot} {n : Nat} :
      Changes blocks s (.pushPlot axis plot []) (.number n)
        { s with axes := s.axes.modify axis fun a ↦ { a with plots := a.plots ++ [plot] } }

theorem execute_newDocument_of_error {plotOf : PlotReader} {fields : Value} {f : Failure}
    (h : (Document.check plotOf fields).toExcept = .error f) :
    execute (Authoring.newDocument plotOf fields) s = (.error f, s) := by
  unfold Authoring.newDocument
  rw [h]
  rfl

theorem execute_newDocument_of_ok {plotOf : PlotReader} {fields : Value} {doc : Document}
    (h : (Document.check plotOf fields).toExcept = .ok doc) :
    execute (Authoring.newDocument plotOf fields) s =
      (.ok s.documents.size, { s with documents := s.documents.push doc }) := by
  unfold Authoring.newDocument
  rw [h]
  rfl

theorem execute_create_of_ok {plotOf : PlotReader} {fields : Value} {doc : Document}
    (h : (Document.check plotOf fields).toExcept = .ok doc) (session : String) :
    ∃ w, execute (Authoring.create plotOf session fields) s =
      (.ok s.documents.size, { s.withCurrent session (some s.documents.size) with
        documents := s.documents.push doc, world := w }) :=
  ⟨_, execute_bind_of_ok (execute_newDocument_of_ok h)⟩

theorem execute_getOrCreate_of_none {session : String} {plotOf : PlotReader} {fields : Value}
    (h : s.currentOf session = none) :
    execute (Authoring.getOrCreate plotOf session fields) s =
      execute (do return (← Authoring.create plotOf session fields, true)) s := by
  refine (execute_bind_of_ok (execute_current? session s)).trans ?_
  rw [h]

theorem execute_getOrCreate_of_some {session : String} {plotOf : PlotReader} {fields : Value}
    {d : DocumentId} (h : s.currentOf session = some d) :
    execute (Authoring.getOrCreate plotOf session fields) s = (.ok (d, false), s) := by
  refine (execute_bind_of_ok (execute_current? session s)).trans ?_
  rw [h]
  rfl

theorem execute_assign_of_error {d : DocumentId} {plotOf : PlotReader} {name : String} {v : Value}
    {f : Failure} (h : (s.documents[d]?.getD {}).assign plotOf name v = .error f) :
    execute (Authoring.assign plotOf d name v) s = (.error f, s) := by
  show execute (Authoring.known ((s.documents[d]?.getD {}).assign plotOf name v) >>= _) s = _
  rw [h]
  rfl

theorem execute_assign_of_ok {d : DocumentId} {plotOf : PlotReader} {name : String} {v : Value}
    {doc : Document} (h : (s.documents[d]?.getD {}).assign plotOf name v = .ok doc) :
    execute (Authoring.assign plotOf d name v) s =
      (.ok ⟨⟩, { s with documents := s.documents.modify d fun _ ↦ doc }) := by
  show execute (Authoring.known ((s.documents[d]?.getD {}).assign plotOf name v) >>= _) s = _
  rw [h]
  rfl

/-- An operation that is for a document adds an entry to it or opens a block. -/
theorem exists_entry?_or_openBlock {t : Target} (ht : op.target? blocks = some t) :
    (∃ built, op.entry? blocks = some built) ∨
      ∃ description heading, op = .openBlock t description heading := by
  cases op with
  | add => exact .inl ⟨_, rfl⟩
  | describe => exact .inl ⟨_, rfl⟩
  | openBlock t' description heading =>
    cases ht
    exact .inr ⟨_, _, rfl⟩
  | enterBlock block fileName file line =>
    obtain ⟨b, hblock, -⟩ := Option.map_eq_some_iff.1 ht
    exact .inl ⟨_, Option.map_eq_some_iff.2 ⟨b, hblock, rfl⟩⟩
  | _ => exact (nomatch ht)

/-- An operation that can make its document puts it in the next place and answers that. -/
theorem exists_execute_of_made {doc : Document} (blocks : List Authoring.OpenBlock)
    (h : op.document? s.currentOf = some (.ok doc)) :
    ∃ s', execute (perform blocks op) s = (.ok (.document s.documents.size), s') ∧
      Changes blocks s op (.document s.documents.size) s' := by
  cases op with
  | construct plotOf fields =>
    have hdoc := Option.some.inj h
    exact ⟨_, execute_bind_of_ok (execute_newDocument_of_ok hdoc), .construct hdoc⟩
  | create session plotOf fields =>
    have hdoc := Option.some.inj h
    obtain ⟨w, hw⟩ := execute_create_of_ok hdoc session
    exact ⟨_, execute_bind_of_ok hw, .create hdoc⟩
  | getOrCreate session plotOf fields =>
    cases hcurrent : s.currentOf session with
    | some d => simp [Operation.document?, hcurrent] at h
    | none =>
      simp only [Operation.document?, hcurrent, Option.some.injEq] at h
      obtain ⟨w, hw⟩ := execute_create_of_ok h session
      exact ⟨_, execute_bind_of_ok ((execute_getOrCreate_of_none hcurrent).trans
        (execute_bind_of_ok hw)), .getOrCreate hcurrent h⟩
  | _ => exact (nomatch h)

/-- An operation that can build its entry for a document puts it there and answers it. -/
theorem exists_execute_of_built {t : Target} {d : DocumentId} {e : Entry}
    (ht : op.target? blocks = some t) (hplace : t.place? s.currentOf = some d)
    (hb : op.entry? blocks = some (.ok e)) :
    ∃ w, execute (perform blocks op) s =
      (.ok (.entry e), { s with documents := s.documents.modify d (·.append e), world := w }) := by
  obtain ⟨x, hx, hputs⟩ := exists_perform_eq ht hb
  obtain ⟨w, hw⟩ := (hputs d).puts (s := s) rfl
  refine ⟨w, ?_⟩
  rw [hx, execute_bind_of_ok (execute_resolve_of_place hplace)]
  exact execute_bind_of_ok hw

/-- A refused operation fails with the failure it is refused for, and changes nothing. -/
theorem Refused.execute_eq {f : Failure} (h : Refused blocks s op f) :
    execute (perform blocks op) s = (.error f, s) := by
  cases h with
  | unmade h =>
    cases op with
    | construct plotOf fields =>
      exact execute_bind_of_error (execute_newDocument_of_error (Option.some.inj h))
    | create session plotOf fields =>
      exact execute_bind_of_error (execute_bind_of_error
        (execute_newDocument_of_error (Option.some.inj h)))
    | getOrCreate session plotOf fields =>
      cases hcurrent : s.currentOf session with
      | some d => simp [Operation.document?, hcurrent] at h
      | none =>
        simp only [Operation.document?, hcurrent, Option.some.injEq] at h
        exact execute_bind_of_error ((execute_getOrCreate_of_none hcurrent).trans
          (execute_bind_of_error (execute_bind_of_error (execute_newDocument_of_error h))))
    | _ => exact (nomatch h)
  | unassigned h => exact execute_bind_of_error (execute_assign_of_error h)
  | untargeted ht hplace =>
    rcases exists_entry?_or_openBlock ht with ⟨built, hb⟩ | ⟨description, heading, rfl⟩
    · obtain ⟨x, hx, -⟩ := exists_perform_eq ht hb
      rw [hx]
      exact execute_bind_of_error (execute_resolve_of_none hplace)
    · exact execute_bind_of_error (execute_bind_of_error (execute_resolve_of_none hplace))
  | unbuilt ht hplace hb =>
    obtain ⟨x, hx, hputs⟩ := exists_perform_eq ht hb
    rw [hx, execute_bind_of_ok (execute_resolve_of_place hplace)]
    exact execute_bind_of_error ((hputs _).refuses rfl)
  | @placed axis plot placement h =>
    cases placement with
    | nil => exact absurd rfl h
    | cons => rfl

/-- An operation that has a document to make is refused or makes its change. -/
theorem refused_or_changes_of_document {made : Except Failure Document}
    (h : op.document? s.currentOf = some made) :
    (∃ f, Refused blocks s op f) ∨
      ∃ a s', execute (perform blocks op) s = (.ok a, s') ∧ Changes blocks s op a s' := by
  cases made with
  | error f => exact .inl ⟨f, .unmade h⟩
  | ok doc =>
    obtain ⟨s', hs, hc⟩ := exists_execute_of_made blocks h
    exact .inr ⟨_, s', hs, hc⟩

/-- An operation that is for a document is refused or makes its change. -/
theorem refused_or_changes_of_target {t : Target} (ht : op.target? blocks = some t) :
    (∃ f, Refused blocks s op f) ∨
      ∃ a s', execute (perform blocks op) s = (.ok a, s') ∧ Changes blocks s op a s' := by
  cases hplace : t.place? s.currentOf with
  | none => exact .inl ⟨_, .untargeted ht hplace⟩
  | some d =>
    rcases exists_entry?_or_openBlock ht with ⟨built, hb⟩ | ⟨description, heading, rfl⟩
    · cases built with
      | error f => exact .inl ⟨f, .unbuilt ht hplace hb⟩
      | ok e =>
        obtain ⟨w, hw⟩ := exists_execute_of_built ht hplace hb
        exact .inr ⟨_, _, hw, .entry ht hplace hb⟩
    · cases ht
      exact .inr ⟨_, _, execute_bind_of_ok (execute_bind_of_ok (execute_resolve_of_place hplace)),
        .openBlock hplace⟩

/-- Every operation is refused or makes its change. -/
theorem refused_or_changes (blocks : List Authoring.OpenBlock) (s : Studio) (op : Operation) :
    (∃ f, Refused blocks s op f) ∨
      ∃ a s', execute (perform blocks op) s = (.ok a, s') ∧ Changes blocks s op a s' := by
  cases op with
  | construct => exact refused_or_changes_of_document rfl
  | create => exact refused_or_changes_of_document rfl
  | getOrCreate session plotOf fields =>
    cases hcurrent : s.currentOf session with
    | some d =>
      exact .inr ⟨_, _, execute_bind_of_ok (execute_getOrCreate_of_some hcurrent), .get hcurrent⟩
    | none =>
      have hdoc : (Operation.getOrCreate session plotOf fields).document? s.currentOf =
          some (Document.check plotOf fields).toExcept := by
        rw [Operation.document?, hcurrent]
      exact refused_or_changes_of_document hdoc
  | activate session d => exact .inr ⟨_, _, rfl, .activate⟩
  | reset session => exact .inr ⟨_, _, rfl, .reset⟩
  | assign d plotOf name v =>
    cases h : (s.documents[d]?.getD {}).assign plotOf name v with
    | error f => exact .inl ⟨f, .unassigned h⟩
    | ok doc => exact .inr ⟨_, _, execute_bind_of_ok (execute_assign_of_ok h), .assign h⟩
  | addPackage d name => exact .inr ⟨_, _, rfl, .addPackage⟩
  | newAxis a => exact .inr ⟨_, _, rfl, .newAxis⟩
  | pushPlot axis plot placement =>
    cases placement with
    | cons p rest => exact .inl ⟨_, .placed (List.cons_ne_nil p rest)⟩
    | nil => exact .inr ⟨_, _, rfl, .pushPlot⟩
  | enterBlock block fileName file line =>
    cases h : blocks[block]? with
    | none =>
      refine .inr ⟨.done, s, ?_, .noBlock h⟩
      rw [perform, h]
      rfl
    | some b => exact refused_or_changes_of_target (congrArg (Option.map _) h)
  | add => exact refused_or_changes_of_target rfl
  | describe => exact refused_or_changes_of_target rfl
  | openBlock => exact refused_or_changes_of_target rfl

/-- **An operation that fails changes nothing.**  The operations that fail are exactly those that
are refused, each with the failure it is refused for, and the studio they leave, with its documents,
axes and sessions, is the one they found. -/
theorem perform_eq_error_iff (blocks : List Authoring.OpenBlock) (op : Operation) (s s' : Studio)
    (f : Failure) :
    execute (perform blocks op) s = (.error f, s') ↔ Refused blocks s op f ∧ s' = s := by
  constructor
  · intro h
    rcases refused_or_changes blocks s op with ⟨f', hr⟩ | ⟨a, t, ht, -⟩
    · obtain ⟨hf, hs⟩ := Prod.mk.inj (h.symm.trans hr.execute_eq)
      obtain rfl : f = f' := Except.error.inj hf
      exact ⟨hr, hs⟩
    · exact nomatch (Prod.mk.inj (h.symm.trans ht)).1
  · rintro ⟨hr, rfl⟩
    exact hr.execute_eq

end Specification

end TexWeave

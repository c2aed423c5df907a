import TexWeave.Proofs.Operations

/-!
# The history of a desk

An author performs one operation after another, some of which are refused.  What the studio is like
then can be read off the history of the operations and what came of them, without looking at the
studio: which document is current in a session, which blocks were opened and for what, and which
entries every document has, in which order.

A history lists the latest event first, so that what stands behind an event is what had happened
before it.

* `Event`, `Desk`, `Desk.step`, `Desk.run` — operations one after another.
* `currentIn`, `openedIn`, `madeIn`, `entriesIn` — what a history says about sessions, blocks and
  documents.
* `Event.Follows` — what came of an operation is what had to come of it.
* `Desk.Agrees` — the studio is as its history says.
* `Desk.agrees_run` — so it is after any operations.
-/

set_option autoImplicit false

namespace TexWeave

/-! ## Operations one after another -/

/-- An operation and what came of it. -/
structure Event where
  op : Operation
  result : Except Failure Answer

/-- A studio at work, with the blocks opened so far and all that has happened, the latest first. -/
structure Desk where
  studio : Studio
  blocks : List Authoring.OpenBlock := []
  history : List Event := []

/-- The block an event opened. -/
def Event.block? (e : Event) : Option Authoring.OpenBlock :=
  match e.result with
  | .ok (.block b) => some b
  | _ => none

namespace Desk

/-- A desk with no document yet. -/
def fresh (world : World) : Desk := { studio := { world := world } }

/-- Performs an operation.  One that is refused is an event as well, and work goes on. -/
def step (desk : Desk) (op : Operation) : Desk :=
  let done := execute (perform desk.blocks op) desk.studio
  let e : Event := ⟨op, done.1⟩
  { studio := done.2
    blocks := desk.blocks ++ e.block?.toList
    history := e :: desk.history }

/-- Performs operations one after another. -/
def run (desk : Desk) (ops : List Operation) : Desk := ops.foldl step desk

theorem history_run (ops : List Operation) (desk : Desk) :
    (desk.run ops).history.map Event.op = ops.reverse ++ desk.history.map Event.op := by
  induction ops generalizing desk with
  | nil => rfl
  | cons op ops ih =>
    show ((desk.step op).run ops).history.map Event.op = _
    rw [ih, List.reverse_cons, List.append_assoc]
    rfl

end Desk

/-! ## What a history says -/

namespace Event

/-- The document current in a session after an event, by the one that was current before.  To get or
create a document makes one current only where none was. -/
def currentAfter (session : String) (before : Option DocumentId) (e : Event) :
    Option DocumentId :=
  match e.op, e.result with
  | .create name .., .ok (.document d) => if session = name then some d else before
  | .getOrCreate name .., .ok (.document d) =>
    if session = name then before.or (some d) else before
  | .activate name d, _ => if session = name then some d else before
  | .reset name, _ => if session = name then none else before
  | _, _ => before

end Event

/-- The documents current in the sessions: in each the one last created or activated there since it
was last reset. -/
def currentIn : List Event → String → Option DocumentId
  | [], _ => none
  | e :: earlier, session => e.currentAfter session (currentIn earlier session)

/-- The block an operation opens: it is for the document meant at that time. -/
def Operation.opened? (current : String → Option DocumentId) :
    Operation → Option Authoring.OpenBlock
  | .openBlock t description heading =>
    (t.place? current).map fun d ↦ ⟨description, heading, d⟩
  | _ => none

/-- The blocks opened, in order. -/
def openedIn : List Event → List Authoring.OpenBlock
  | [] => []
  | e :: earlier => openedIn earlier ++ (e.op.opened? (currentIn earlier)).toList

namespace Event

/-- The document an event made, and its place. -/
def made? (current : String → Option DocumentId) (e : Event) : Option (DocumentId × Document) :=
  match e.op.document? current, e.result with
  | some (.ok doc), .ok (.document d) => some (d, doc)
  | _, _ => none

/-- The entries an event gave a document all at once, when it made the document or set them. -/
def given? (d : DocumentId) (current : String → Option DocumentId) (e : Event) :
    Option (List Entry) :=
  match e.op, e.result with
  | .assign d' plotOf name v, .ok _ =>
    if d' = d ∧ name = "entries" then (Check.list (Entry.check plotOf) v).toExcept.toOption
    else none
  | _, _ => (e.made? current).bind fun m ↦ if m.1 = d then some m.2.entries else none

/-- The entry an event added to a document: the operation had built it, and it was for this
document. -/
def added? (d : DocumentId) (current : String → Option DocumentId)
    (blocks : List Authoring.OpenBlock) (e : Event) : Option Entry :=
  match e.result with
  | .ok (.entry x) =>
    if (e.op.target? blocks).bind (·.place? current) = some d then some x else none
  | _ => none

end Event

/-- The places of the documents made, in order. -/
def madeIn : List Event → List DocumentId
  | [] => []
  | e :: earlier => madeIn earlier ++ ((e.made? (currentIn earlier)).map (·.1)).toList

/-- The entries of a document: those it was last given all at once, and after them those that were
added to it since, in order. -/
def entriesIn (d : DocumentId) : List Event → List Entry
  | [] => []
  | e :: earlier =>
    match e.given? d (currentIn earlier) with
    | some es => es
    | none =>
      entriesIn d earlier ++ (e.added? d (currentIn earlier) (openedIn earlier)).toList

/-- What came of an operation is what had to come of it.  One that has a document to make made it in
the next place, or was refused for its fields.  One that is for a document was refused if there was
none, and otherwise it answered the entry it built or was refused for want of it; and no other
operation answered an entry. -/
structure Event.Follows (earlier : List Event) (e : Event) : Prop where
  made : ∀ {doc}, e.op.document? (currentIn earlier) = some doc →
    e.result = (fun _ ↦ .document (madeIn earlier).length) <$> doc
  untargeted : ∀ {t}, e.op.target? (openedIn earlier) = some t →
    t.place? (currentIn earlier) = none → e.result = .error .noDocument
  built : ∀ {t d built}, e.op.target? (openedIn earlier) = some t →
    t.place? (currentIn earlier) = some d → e.op.entry? (openedIn earlier) = some built →
      e.result = .entry <$> built
  entry : ∀ {x}, e.result = .ok (.entry x) → e.op.entry? (openedIn earlier) = some (.ok x) ∧
    ∃ t d, e.op.target? (openedIn earlier) = some t ∧ t.place? (currentIn earlier) = some d

/-! ## An event of an operation that failed -/

namespace Event

variable (op : Operation) (f : Failure) (current : String → Option DocumentId)

theorem made?_error : made? current ⟨op, .error f⟩ = none := by
  simp [made?]

theorem given?_error (d : DocumentId) : given? d current ⟨op, .error f⟩ = none := by
  cases op <;> simp [given?, made?_error]

theorem added?_error (d : DocumentId) (blocks : List Authoring.OpenBlock) :
    added? d current blocks ⟨op, .error f⟩ = none := rfl

end Event

/-! ## The entries of a document that is changed -/

theorem Checked.exists_of_within_map {α β : Type} {c : Checked α} {f : α → β} {b : β}
    {place : Step} (h : ((c.map f).within place).toExcept = .ok b) :
    ∃ a, c = .valid a ∧ f a = b := by
  cases c with
  | valid a => exact ⟨a, rfl, Except.ok.inj h⟩
  | faulty is => exact nomatch h

/-- Setting the entries of a document replaces them all. -/
theorem Document.check_of_assign_entries {plotOf : PlotReader} {v : Value} {doc doc' : Document}
    (h : doc.assign plotOf "entries" v = .ok doc') :
    Check.list (Entry.check plotOf) v = .valid doc'.entries := by
  obtain ⟨es, hes, rfl⟩ := Checked.exists_of_within_map h
  exact hes

/-- Setting any other part leaves the entries alone. -/
theorem Document.entries_of_assign {plotOf : PlotReader} {name : String} {v : Value}
    {doc doc' : Document} (hname : name ≠ "entries") (h : doc.assign plotOf name v = .ok doc') :
    doc'.entries = doc.entries := by
  unfold Document.assign at h
  split at h
  -- Behind the entries stand the parts that are no field of their own: `tufte` chooses the mode,
  -- and the others cannot be set.
  case h_11 => exact absurd rfl hname
  case h_12 =>
    obtain rfl := Except.ok.inj h
    rfl
  case h_13 => exact nomatch h
  case h_14 => exact nomatch h
  all_goals
    obtain ⟨_, -, rfl⟩ := Checked.exists_of_within_map h
    rfl

theorem Document.entries_addPackage (doc : Document) (name : String) :
    (doc.addPackage name).entries = doc.entries := by
  unfold Document.addPackage
  split <;> rfl

/-! ## What one operation changes -/

section Step

variable {blocks : List Authoring.OpenBlock} {s s' : Studio} {op : Operation} {a : Answer}

theorem Changes.currentOf (h : Changes blocks s op a s') (session : String) :
    s'.currentOf session = Event.currentAfter session (s.currentOf session) ⟨op, .ok a⟩ := by
  cases h with
  | @create name =>
    show (s.withCurrent name (some s.documents.size)).currentOf session = _
    exact Studio.currentOf_withCurrent ..
  | activate => exact Studio.currentOf_withCurrent ..
  | reset => exact Studio.currentOf_withCurrent ..
  | @getOrCreate name plotOf fields doc w hnone h =>
    show (s.withCurrent name (some s.documents.size)).currentOf session = _
    rw [Studio.currentOf_withCurrent]
    simp only [Event.currentAfter]
    split
    · next hname => rw [hname, hnone, Option.none_or]
    · rfl
  | @get name plotOf fields d h =>
    simp only [Event.currentAfter]
    split
    · next hname => rw [hname, h, Option.some_or]
    · rfl
  | entry ht =>
    cases op with
    | activate => exact nomatch ht
    | reset => exact nomatch ht
    | _ => rfl
  | _ => rfl

/-- To be refused makes no document current; activating one and resetting are never refused. -/
theorem Refused.currentAfter {f : Failure} (h : Refused blocks s op f) (session : String)
    (before : Option DocumentId) :
    Event.currentAfter session before ⟨op, .error f⟩ = before := by
  cases op with
  | activate => cases h <;> contradiction
  | reset => cases h <;> contradiction
  | _ => rfl

theorem Changes.block? (h : Changes blocks s op a s') :
    Event.block? ⟨op, .ok a⟩ = op.opened? s.currentOf := by
  cases h with
  | openBlock hplace => simp [Event.block?, Operation.opened?, hplace]
  | entry ht hplace hb =>
    cases op with
    | openBlock => exact nomatch hb
    | _ => rfl
  | _ => rfl

theorem Refused.opened? {f : Failure} (h : Refused blocks s op f) :
    op.opened? s.currentOf = none := by
  cases op with
  | openBlock t description heading =>
    cases h with
    | unmade h => exact nomatch h
    | untargeted ht hplace =>
      cases ht
      exact congrArg (Option.map _) hplace
    | unbuilt ht hplace hb => exact nomatch hb
  | _ => rfl

/-- An operation makes one document, in the next place, or none. -/
theorem Changes.made? (h : Changes blocks s op a s') :
    (∃ doc, Event.made? s.currentOf ⟨op, .ok a⟩ = some (s.documents.size, doc) ∧
        s'.documents = s.documents.push doc) ∨
      Event.made? s.currentOf ⟨op, .ok a⟩ = none ∧ s'.documents.size = s.documents.size := by
  cases h with
  | construct h => exact .inl ⟨_, by simp [Event.made?, Operation.document?, h], rfl⟩
  | create h => exact .inl ⟨_, by simp [Event.made?, Operation.document?, h], rfl⟩
  | getOrCreate hnone h =>
    exact .inl ⟨_, by simp [Event.made?, Operation.document?, h, hnone], rfl⟩
  | get h => exact .inr ⟨by simp [Event.made?, Operation.document?, h], rfl⟩
  | entry => exact .inr ⟨by simp [Event.made?], Array.size_modify ..⟩
  | assign => exact .inr ⟨rfl, Array.size_modify ..⟩
  | addPackage => exact .inr ⟨rfl, Array.size_modify ..⟩
  | _ => exact .inr ⟨rfl, rfl⟩

theorem exists_of_getElem?_modify {α : Type} {xs : Array α} {i j : Nat} {f : α → α} {y : α}
    (h : (xs.modify i f)[j]? = some y) : ∃ x, xs[j]? = some x ∧ (if i = j then f x else x) = y := by
  rw [Array.getElem?_modify] at h
  split at h
  · next hij =>
    obtain ⟨x, hx, rfl⟩ := Option.map_eq_some_iff.1 h
    exact ⟨x, hx, if_pos hij⟩
  · next hij => exact ⟨y, h, if_neg hij⟩

namespace Event

variable {current : String → Option DocumentId} {place d : DocumentId} {e : Entry}

theorem given?_of_made {e : Event} {doc : Document} (h : e.made? current = some (place, doc))
    (d : DocumentId) : e.given? d current = if place = d then some doc.entries else none := by
  rcases e with ⟨op, r⟩
  cases op with
  | assign => exact nomatch h
  | _ =>
    unfold given?
    rw [h]
    rfl

theorem added?_of_made {e : Event} {doc : Document} (h : e.made? current = some (place, doc))
    (d : DocumentId) (blocks : List Authoring.OpenBlock) : e.added? d current blocks = none := by
  unfold made? at h
  split at h
  · next hr =>
    unfold added?
    rw [hr]
  · exact nomatch h

/-- To add an entry gives a document nothing all at once. -/
theorem given?_of_entry {t : Target} (ht : op.target? blocks = some t) :
    given? d current ⟨op, .ok (.entry e)⟩ = none := by
  cases op with
  | assign => exact nomatch ht
  | _ => simp [given?, made?]

theorem added?_of_entry {t : Target} (ht : op.target? blocks = some t)
    (hplace : t.place? current = some place) :
    added? d current blocks ⟨op, .ok (.entry e)⟩ = if place = d then some e else none := by
  simp [added?, ht, hplace]

end Event

/-- The entries of a document when a part of it, or of another, was set. -/
theorem entries_of_assign {current : String → Option DocumentId} {place d : DocumentId}
    {plotOf : PlotReader} {name : String} {v : Value} {doc new : Document}
    (hdoc : s.documents[d]? = some doc)
    (h : (s.documents[place]?.getD {}).assign plotOf name v = .ok new) :
    Event.given? d current ⟨.assign place plotOf name v, .ok .done⟩ =
        some (if place = d then new else doc).entries ∨
      Event.given? d current ⟨.assign place plotOf name v, .ok .done⟩ = none ∧
        (if place = d then new else doc).entries = doc.entries := by
  by_cases hset : place = d ∧ name = "entries"
  · obtain ⟨rfl, rfl⟩ := hset
    left
    simp [Event.given?, Document.check_of_assign_entries h, Checked.toExcept, Except.toOption]
  · refine .inr ⟨if_neg hset, ?_⟩
    split
    · next hplace =>
      subst hplace
      have hname : name ≠ "entries" := fun hname ↦ hset ⟨rfl, hname⟩
      rw [Document.entries_of_assign hname h, hdoc]
      rfl
    · rfl

/-- The entries of a document after an operation are those it was given all at once, or those it
had with the one that was added. -/
theorem Changes.entries (h : Changes blocks s op a s') {d : DocumentId} {doc' : Document}
    (hd : s'.documents[d]? = some doc') :
    Event.given? d s.currentOf ⟨op, .ok a⟩ = some doc'.entries ∨
      Event.given? d s.currentOf ⟨op, .ok a⟩ = none ∧ ∃ doc, s.documents[d]? = some doc ∧
        doc'.entries =
          doc.entries ++ (Event.added? d s.currentOf blocks ⟨op, .ok a⟩).toList := by
  rcases h.made? with ⟨doc, hmade, hdocs⟩ | ⟨hmade, hsize⟩
  · rw [Event.given?_of_made hmade, Event.added?_of_made hmade]
    rw [hdocs, Array.getElem?_push] at hd
    split at hd
    · next hplace =>
      obtain rfl := Option.some.inj hd
      exact .inl (if_pos hplace.symm)
    · next hplace =>
      exact .inr ⟨if_neg (Ne.symm hplace), doc', hd, (List.append_nil _).symm⟩
  · cases h with
    | construct => simp at hsize
    | create => simp at hsize
    | getOrCreate => simp at hsize
    | get =>
      refine .inr ⟨?_, doc', hd, (List.append_nil _).symm⟩
      unfold Event.given?
      rw [hmade]
      rfl
    | entry ht hplace =>
      obtain ⟨doc, hdoc, rfl⟩ := exists_of_getElem?_modify hd
      refine .inr ⟨Event.given?_of_entry ht, doc, hdoc, ?_⟩
      rw [Event.added?_of_entry ht hplace]
      split
      · rfl
      · exact (List.append_nil _).symm
    | assign hassign =>
      obtain ⟨doc, hdoc, rfl⟩ := exists_of_getElem?_modify hd
      rcases entries_of_assign hdoc hassign with hgiven | ⟨hgiven, hentries⟩
      · exact .inl hgiven
      · exact .inr ⟨hgiven, doc, hdoc, hentries.trans (List.append_nil _).symm⟩
    | addPackage =>
      obtain ⟨doc, hdoc, rfl⟩ := exists_of_getElem?_modify hd
      refine .inr ⟨rfl, doc, hdoc, ?_⟩
      split
      · exact (Document.entries_addPackage doc _).trans (List.append_nil _).symm
      · exact (List.append_nil _).symm
    | _ => exact .inr ⟨rfl, doc', hd, (List.append_nil _).symm⟩

end Step

/-! ## The studio is as its history says -/

/-- A studio is as its history says: its sessions, its blocks, its documents with their entries, and
the answers its author got. -/
structure Desk.Agrees (desk : Desk) : Prop where
  current : desk.studio.currentOf = currentIn desk.history
  opened : desk.blocks = openedIn desk.history
  made : madeIn desk.history = List.range desk.studio.documents.size
  entries : ∀ {d doc}, desk.studio.documents[d]? = some doc →
    doc.entries = entriesIn d desk.history
  follows : ∀ {e earlier}, e :: earlier <:+ desk.history → e.Follows earlier

namespace Desk

theorem agrees_fresh (world : World) : (fresh world).Agrees where
  current := rfl
  opened := rfl
  made := rfl
  entries h := by simp [fresh] at h
  follows h := by simp [fresh] at h

/-- An operation answers as its target and the entry it has to build let it. -/
theorem Agrees.follows_perform {desk : Desk} (h : desk.Agrees) (op : Operation) :
    Event.Follows desk.history ⟨op, (execute (perform desk.blocks op) desk.studio).1⟩ := by
  rw [h.opened]
  constructor
  case made =>
    intro doc hdoc
    rw [← h.current] at hdoc
    cases doc with
    | error f => exact congrArg Prod.fst (Refused.unmade hdoc).execute_eq
    | ok doc =>
      obtain ⟨s', hs, -⟩ := exists_execute_of_made (openedIn desk.history) hdoc
      rw [hs, h.made, List.length_range]
      rfl
  case untargeted =>
    intro t ht hplace
    rw [← h.current] at hplace
    exact congrArg Prod.fst (Refused.untargeted ht hplace).execute_eq
  case built =>
    intro t d built ht hplace hb
    rw [← h.current] at hplace
    cases built with
    | error f => exact congrArg Prod.fst (Refused.unbuilt ht hplace hb).execute_eq
    | ok e =>
      obtain ⟨w, hw⟩ := exists_execute_of_built ht hplace hb
      exact congrArg Prod.fst hw
  case entry =>
    intro x hx
    rcases refused_or_changes (openedIn desk.history) desk.studio op with
      ⟨f, hr⟩ | ⟨a, s', hs, hc⟩
    · rw [hr.execute_eq] at hx
      exact nomatch hx
    · rw [hs] at hx
      obtain rfl : a = .entry x := Except.ok.inj hx
      cases hc with
      | entry ht hplace hb =>
        rw [h.current] at hplace
        exact ⟨hb, _, _, ht, hplace⟩

/-- A refused operation leaves nothing but the event. -/
theorem step_of_refused {desk : Desk} {op : Operation} {f : Failure}
    (h : Refused desk.blocks desk.studio op f) :
    desk.step op = { desk with history := ⟨op, .error f⟩ :: desk.history } := by
  unfold step
  rw [h.execute_eq]
  simp [Event.block?]

theorem step_of_changes {desk : Desk} {op : Operation} {a : Answer} {s' : Studio}
    (hs : execute (perform desk.blocks op) desk.studio = (.ok a, s'))
    (h : Changes desk.blocks desk.studio op a s') :
    desk.step op = {
      studio := s'
      blocks := desk.blocks ++ (op.opened? desk.studio.currentOf).toList
      history := ⟨op, .ok a⟩ :: desk.history } := by
  unfold step
  rw [hs, ← h.block?]

theorem Agrees.follows_step {desk : Desk} (h : desk.Agrees) (op : Operation) {e : Event}
    {earlier : List Event} (hsuffix : e :: earlier <:+ (desk.step op).history) :
    e.Follows earlier := by
  rcases List.suffix_cons_iff.1 hsuffix with heq | hsuffix
  · obtain ⟨rfl, rfl⟩ := List.cons.inj heq
    exact h.follows_perform op
  · exact h.follows hsuffix

theorem Agrees.step_of_refused {desk : Desk} (h : desk.Agrees) {op : Operation} {f : Failure}
    (hr : Refused desk.blocks desk.studio op f) : (desk.step op).Agrees := by
  have hfollows {e : Event} {earlier : List Event}
      (hsuffix : e :: earlier <:+ (desk.step op).history) := h.follows_step op hsuffix
  have hopened := hr.opened?
  rw [h.current] at hopened
  rw [Desk.step_of_refused hr] at hfollows ⊢
  refine ⟨?_, ?_, ?_, ?_, hfollows⟩
  · funext session
    show _ = Event.currentAfter session (currentIn desk.history session) ⟨op, .error f⟩
    rw [hr.currentAfter, ← h.current]
  · show desk.blocks = openedIn desk.history ++ (op.opened? (currentIn desk.history)).toList
    rw [hopened, h.opened]
    exact (List.append_nil _).symm
  · rw [madeIn, Event.made?_error]
    exact (List.append_nil _).trans h.made
  · intro d doc hd
    rw [entriesIn, Event.given?_error, Event.added?_error, h.entries hd]
    exact (List.append_nil _).symm

theorem Agrees.step_of_changes {desk : Desk} (h : desk.Agrees) {op : Operation} {a : Answer}
    {s' : Studio} (hs : execute (perform desk.blocks op) desk.studio = (.ok a, s'))
    (hc : Changes desk.blocks desk.studio op a s') : (desk.step op).Agrees := by
  have hmade := hc.made?
  have hentries {d : DocumentId} {doc : Document} (hd : s'.documents[d]? = some doc) :=
    hc.entries hd
  have hfollows {e : Event} {earlier : List Event}
      (hsuffix : e :: earlier <:+ (desk.step op).history) := h.follows_step op hsuffix
  simp only [h.current] at hmade hentries
  rw [Desk.step_of_changes hs hc] at hfollows ⊢
  refine ⟨?_, ?_, ?_, ?_, hfollows⟩
  · funext session
    rw [hc.currentOf, h.current]
    rfl
  · rw [h.opened, h.current]
    rfl
  · rcases hmade with ⟨doc, hmade, hdocs⟩ | ⟨hmade, hsize⟩
    · rw [madeIn, hmade, h.made, hdocs, Array.size_push, List.range_succ]
      rfl
    · rw [madeIn, hmade, h.made, hsize]
      exact List.append_nil _
  · intro d doc hd
    rcases hentries hd with hgiven | ⟨hgiven, old, hold, hdoc⟩
    · rw [entriesIn, hgiven]
    · rw [entriesIn, hgiven, hdoc, h.entries hold, h.opened]

/-- One more operation. -/
theorem Agrees.step {desk : Desk} (h : desk.Agrees) (op : Operation) :
    (desk.step op).Agrees := by
  rcases refused_or_changes desk.blocks desk.studio op with ⟨f, hr⟩ | ⟨a, s', hs, hc⟩
  · exact h.step_of_refused hr
  · exact h.step_of_changes hs hc

/-- Any operations. -/
theorem Agrees.run {desk : Desk} (h : desk.Agrees) (ops : List Operation) :
    (desk.run ops).Agrees := by
  induction ops generalizing desk with
  | nil => exact h
  | cons op ops ih => exact ih (h.step op)

/-- **The studio is as its history says.**  Whatever operations are performed one after another,
the current document of every session, the blocks, the documents and their entries, and what came of
each operation can be read off the history of what happened. -/
theorem agrees_run (world : World) (ops : List Operation) :
    ((fresh world).run ops).history.map Event.op = ops.reverse ∧
      ((fresh world).run ops).Agrees :=
  ⟨(history_run ops _).trans (List.append_nil _), (agrees_fresh world).run ops⟩

end Desk

end TexWeave

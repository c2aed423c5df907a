import TexWeave.Source.Module

/-!
# What decorators make

A statement that defines something gives a name to what its decorators make of that.  A decorator is
transparent if what it gives leads back to what it was called with.  Those that return what they are
called with are, and those that return a function which they say wraps it.

* `exists_executeOne` — what the name of a definition stands for.
* `IsTransparent`, `unwrapped_decorate` — decorators that lead back to what they are called with.
* `isTransparent_of_return`, `isTransparent_of_wraps` — the two sorts of them.
* `keep`, `wrap` — one of each sort.
-/

set_option autoImplicit false

namespace TexWeave
namespace Source
namespace Module

open Text

/-- What decorators make of a thing; the last one is called first. -/
def decorate (n : Nat) (f : Frame) (gs : List Thing) (x : Thing) : Thing :=
  gs.foldr (fun g x ↦ call n f g [x]) x

/-- What a decorator gives leads back to what it is called with: it gives this, or a function that
says it wraps it. -/
def IsTransparent (n : Nat) (f : Frame) (g : Thing) : Prop :=
  ∀ x, unwrapped (call n f g [x]) = unwrapped x

section

variable {n : Nat} {f : Frame} {gs : List Thing} {s d : Tree}

/-- A statement that is run gives the name of its definition to what its decorators make of that. -/
theorem exists_executeOne (n : Nat) (f : Frame) (hd : undecorated? s = some d) :
    ∃ gs, executeOne (n + 1) f s
      = (f.bind (declaredName d) (decorate n f gs (madeBy f s d)), none) := by
  rw [undecorated?.eq_def] at hd
  split at hd
  · obtain rfl := Option.some.inj hd
    exact ⟨[], rfl⟩
  · obtain rfl := Option.some.inj hd
    exact ⟨[], rfl⟩
  · next cs =>
    refine ⟨(cs.filterMap decoration?).map (evaluate n f), ?_⟩
    rw [executeOne]
    simp only [hd]
    rfl
  · cases hd

theorem unwrapped_madeBy (f : Frame) (s d : Tree) : unwrapped (madeBy f s d) = madeBy f s d := by
  rw [madeBy]
  split <;> rfl

/-- Transparent decorators lead back to what the statement made. -/
theorem unwrapped_decorate (h : ∀ g ∈ gs, IsTransparent n f g) (s d : Tree) :
    unwrapped (decorate n f gs (madeBy f s d)) = madeBy f s d := by
  induction gs with
  | nil => exact unwrapped_madeBy f s d
  | cons g gs ih =>
    obtain ⟨hg, hgs⟩ := List.forall_mem_cons.1 h
    exact (hg _).trans (ih hgs)

end

/-! ## Functions that are decorators -/

/-- The frame in which the body of a function runs that is called with things. -/
def entered (f : Frame) (d : Tree) (path : String) (around : Scope) (given : List Thing) : Frame :=
  { f with
    locals := some ((parameterNames d).zip given ++ around)
    path := path ++ declaredName d ++ ".<locals>." }

section

variable {n line : Nat} {f : Frame} {d w c e s sign feed : Tree} {cs : List Tree} {k : Token}
  {path : String} {around : Scope} {wrapped : Option Thing} {given : List Thing} {name : String}
  {names : List String} {x : Thing}

theorem call_function (hd : d.isNode .lambda = false) :
    call (n + 1) f (.function line d path around wrapped) given
      = ((execute n (entered f d path around given) (bodyOf d)).2).getD (.value "None" false) := by
  rw [call]
  · rfl
  · rintro cs rfl
    cases hd

theorem execute_return (hw : w.isWord "return" = true) :
    execute (n + 3) f [.node .simple [w, c]] = (f, some (evaluate n f c)) := by
  rw [execute, executeOne, executeSimple]
  · simp [hw]
  · simp

theorem evaluate_name (hk : k.kind = .name) (hx : f.find? (compat k.text) = some x) :
    evaluate (n + 1) f (.leaf k) = x := by
  rw [evaluate, tokenThing, hk]
  simp [hx]

theorem find?_entered (hnames : parameterNames d = name :: names) (x : Thing) :
    (entered f d path around [x]).find? name = some x := by
  simp [entered, Frame.find?, hnames]

/-- A decorator that returns what it is called with. -/
theorem isTransparent_of_return (hd : d.isNode .lambda = false)
    (hnames : parameterNames d = compat k.text :: names) (hk : k.kind = .name)
    (hbody : bodyOf d = [.node .simple [w, .leaf k]]) (hw : w.isWord "return" = true) (n : Nat)
    (f : Frame) : IsTransparent (n + 5) f (.function line d path around wrapped) := by
  intro x
  rw [call_function hd, hbody, execute_return hw, evaluate_name hk (find?_entered hnames x)]
  rfl

/-- A token by itself. -/
def word (kind : TokenKind) (text : String) : Tree := .leaf ⟨kind, text, 1, 0, 1⟩

/-- A function of one parameter. -/
def unary (name parameter : String) (body : List Tree) : Tree :=
  .node .function [word .keyword "def", word .name name, word .operator "(",
    .node .parameter [word .name parameter], word .operator ")", word .operator ":",
    .node .block body]

/-- A statement that returns an expression. -/
def returned (e : Tree) : Tree := .node .simple [word .keyword "return", e]

/-- The decorator `def keep(g): return g`. -/
def keep : Thing := .function 1 (unary "keep" "g" [returned (word .name "g")]) "" [] none

theorem isTransparent_keep (n : Nat) (f : Frame) : IsTransparent (n + 5) f keep :=
  isTransparent_of_return rfl rfl rfl rfl (by decide) n f

/-- The call that marks what wraps a thing. -/
theorem evaluate_wraps {dot member : Tree} {k' opening closing : Token} (hk : k.kind = .name)
    (hmodule : f.find? (compat k.text) = some .toolModule) (hmember : nameText member = "wraps")
    (hk' : k'.kind = .name) (hx : f.find? (compat k'.text) = some x) (n : Nat) :
    evaluate (n + 3) f (.node .primary [.leaf k, .node .member [dot, member],
      .node .call [.leaf opening, .node .argument [.leaf k'], .leaf closing]]) = .wrapping x := by
  have hwraps : stepFrom (n + 2) f .toolModule (.node .member [dot, member]) = .wraps := by
    rw [stepFrom, hmember]
    rfl
  rw [evaluate, evaluate_name hk hmodule, List.foldl_cons, List.foldl_cons, List.foldl_nil, hwraps,
    stepFrom]
  simp only [List.filterMap_cons, List.filterMap_nil, evaluate_name hk' hx]
  rw [call]

theorem find?_bind (f : Frame) (name : String) (x : Thing) :
    (f.bind name x).find? name = some x := by
  rw [Frame.bind]
  split <;> simp [Frame.find?, *]

/-- A function under one decorator. -/
theorem executeOne_of_decorator (hs : s = .node .decoratedDefinition [.node .decorator
    [sign, e, feed], .node .function cs]) (n : Nat) (f : Frame) :
    executeOne (n + 1) f s = (f.bind (declaredName (.node .function cs))
      (call n f (evaluate n f e) [madeBy f s (.node .function cs)]), none) := by
  rw [hs, executeOne]
  rfl

/-- A decorator that returns a function of which it says that it wraps what it is called with. -/
theorem isTransparent_of_wraps (hd : d.isNode .lambda = false)
    (hbody : bodyOf d = [s, .node .simple [w, .leaf k]])
    (hs : s = .node .decoratedDefinition [.node .decorator [sign, e, feed], .node .function cs])
    (he : ∀ x, evaluate (n + 3) (entered f d path around [x]) e = .wrapping x) (hk : k.kind = .name)
    (hname : declaredName (.node .function cs) = compat k.text) (hw : w.isWord "return" = true) :
    IsTransparent (n + 6) f (.function line d path around wrapped) := by
  intro x
  rw [call_function hd, hbody, execute, executeOne_of_decorator hs, he, hname]
  dsimp only
  rw [execute_return hw, evaluate_name hk (find?_bind _ _ _)]
  rfl

/-- What is written `functools.wraps(g)`. -/
def wrapsCall : Tree :=
  .node .primary [word .name "functools", .node .member [word .operator ".", word .name "wraps"],
    .node .call [word .operator "(", .node .argument [word .name "g"], word .operator ")"]]

/-- The decorator `def wrap(g):` that returns a function `inner` under `@functools.wraps(g)`. -/
def wrap : Thing :=
  .function 1 (unary "wrap" "g" [
    .node .decoratedDefinition [.node .decorator [word .operator "@", wrapsCall,
      word .newline "\n"], unary "inner" "x" [returned (word .name "x")]],
    returned (word .name "inner")]) "" [] none

theorem isTransparent_wrap (n : Nat)
    (h : f.globals.find? (·.1 == "functools") = some ("functools", .toolModule)) :
    IsTransparent (n + 6) f wrap := by
  refine isTransparent_of_wraps rfl rfl rfl (fun x ↦ ?_) rfl rfl (by decide)
  refine evaluate_wraps rfl ?_ rfl rfl rfl n
  change ((("g", x) :: f.globals).find? (·.1 == "functools")).map (·.2) = some .toolModule
  rw [List.find?_cons_of_neg (by simp), h]
  rfl

end

end Module
end Source
end TexWeave

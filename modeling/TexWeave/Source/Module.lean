import TexWeave.Source.Block
import TexWeave.Source.Constant
import TexWeave.Source.Extent

/-!
# What a module defines

A module is run far enough to know what its names stand for: functions and classes with the
statement that made them, and constants.  Decorators are called, so that a name may stand for what a
decorator returned; a function that says it wraps another leads on to that one.

* `Thing` — what a name can stand for.
* `run` — the names of a module after it has run.
* `define` — what one name stands for.
* `Found.source` — the lines that define it.
-/

set_option autoImplicit false

namespace TexWeave
namespace Source
namespace Module

/-- What a name stands for. -/
inductive Thing
  /-- A function made by a statement or expression that starts on a line, with the path of names
  that leads there, the names around it and the function it wraps. -/
  | function (line : Nat) (definition : Tree) (path : String) (around : List (String × Thing))
      (wrapped : Option Thing)
  /-- A class with its name in the module. -/
  | classNamed (name : String)
  /-- What marks a function as wrapping another. -/
  | wrapping (target : Thing)
  /-- What makes such marks. -/
  | wraps
  /-- The module that holds it. -/
  | toolModule
  /-- A value without source, as messages show it, and whether it counts as true. -/
  | value (written : String) (truth : Bool)
  deriving Inhabited

/-- Names with what they stand for, the latest first. -/
abbrev Scope := List (String × Thing)

/-- Where statements run: the names of the module, those of the function under way if there is one,
and the path of names that leads there. -/
structure Frame where
  globals : Scope := []
  locals : Option Scope := none
  path : String := ""

/-- What a name stands for in a frame. -/
def Frame.find? (f : Frame) (name : String) : Option Thing :=
  (((f.locals.getD []) ++ f.globals).find? fun b ↦ b.1 == name).map (·.2)

/-- A frame in which a name stands for something else. -/
def Frame.bind (f : Frame) (name : String) (t : Thing) : Frame :=
  match f.locals with
  | some ls => { f with locals := some ((name, t) :: ls) }
  | none => { f with globals := (name, t) :: f.globals }

/-! ## Names that are always there -/

/-- Functions that need no definition. -/
def standardFunctions : List String :=
  ["abs", "aiter", "all", "anext", "any", "ascii", "bin", "breakpoint", "callable", "chr",
    "compile", "delattr", "dir", "divmod", "eval", "exec", "format", "getattr", "globals",
    "hasattr", "hash", "hex", "id", "input", "isinstance", "issubclass", "iter", "len", "locals",
    "max", "min", "next", "oct", "open", "ord", "pow", "print", "repr", "round", "setattr",
    "sorted", "sum", "vars"]

/-- Classes that need no definition. -/
def standardClasses : List String :=
  ["ArithmeticError", "AssertionError", "AttributeError", "BaseException", "BaseExceptionGroup",
    "BlockingIOError", "BrokenPipeError", "BufferError", "BytesWarning", "ChildProcessError",
    "ConnectionAbortedError", "ConnectionError", "ConnectionRefusedError",
    "ConnectionResetError", "DeprecationWarning", "EOFError", "EncodingWarning", "Exception",
    "ExceptionGroup", "FileExistsError", "FileNotFoundError", "FloatingPointError",
    "FutureWarning", "GeneratorExit", "ImportError", "ImportWarning", "IndentationError",
    "IndexError", "InterruptedError", "IsADirectoryError", "KeyError", "KeyboardInterrupt",
    "LookupError", "MemoryError", "ModuleNotFoundError", "NameError", "NotADirectoryError",
    "NotImplementedError", "OSError", "OverflowError", "PendingDeprecationWarning",
    "PermissionError", "ProcessLookupError", "RecursionError", "ReferenceError",
    "ResourceWarning", "RuntimeError", "RuntimeWarning", "StopAsyncIteration", "StopIteration",
    "SyntaxError", "SyntaxWarning", "SystemError", "SystemExit", "TabError", "TimeoutError",
    "TypeError", "UnboundLocalError", "UnicodeDecodeError", "UnicodeEncodeError", "UnicodeError",
    "UnicodeTranslateError", "UnicodeWarning", "UserWarning", "ValueError", "Warning",
    "ZeroDivisionError", "bool", "bytearray", "bytes", "classmethod", "complex", "dict",
    "enumerate", "filter", "float", "frozenset", "int", "list", "map", "memoryview", "object",
    "property", "range", "reversed", "set", "slice", "staticmethod", "str", "super", "tuple",
    "type", "zip"]

/-- What a name stands for without a definition. -/
def standard? (name : String) : Option Thing :=
  if standardFunctions.contains name then
    some (.value ("<built-in function " ++ name ++ ">") true)
  else if standardClasses.contains name then some (.value ("<class '" ++ name ++ "'>") true)
  else if name == "EnvironmentError" || name == "IOError" then
    some (.value "<class 'OSError'>" true)
  else if name == "NotImplemented" || name == "Ellipsis" then some (.value name true)
  else none

/-! ## Values -/

/-- The text and truth of what stands in a listing. -/
def writtenOf : Thing → String
  | .value w _ => w
  | _ => "<function>"

/-- The names of the parameters of a function that take positional arguments. -/
def parameterNames (definition : Tree) : List String :=
  definition.children.filterMap fun c ↦ match c with
    | .node .parameter (p :: _) => if p.isLeaf .name then some (nameOf p) else none
    | _ => none
where
  /-- The normal form of a name. -/
  nameOf (t : Tree) : String := Text.compat ((t.tokens.head?.map Token.text).getD "")

/-- The normal form of a name. -/
def nameText (t : Tree) : String := parameterNames.nameOf t

/-- Whether a thing counts as true. -/
def holds : Thing → Bool
  | .value _ truth => truth
  | _ => true

/-- A value that nothing is known about. -/
def unknown : Thing := .value "" true

/-- Whether text of a number is zero. -/
def isZeroText (s : String) : Bool := s.toList.all fun c ↦ c == '0' || c == '.' || c == 'j'

/-- The value of one token. -/
def tokenThing (f : Frame) (t : Token) : Thing :=
  match t.kind with
  | .number => let w := numberWritten t.text; .value w (!isZeroText w)
  | .string => .value (stringsWritten false [t.text]) (!(stringText t.text).isEmpty)
  | .bytes => .value (stringsWritten true [t.text]) (!(stringText t.text).isEmpty)
  | .name =>
    let n := Text.compat t.text
    ((f.find? n).or (standard? n)).getD unknown
  | .keyword => .value t.text (t.text == "True")
  | _ => .value "Ellipsis" true

/-- Whether trees are strings side by side. -/
def allStrings (cs : List Tree) : Bool :=
  !cs.isEmpty && cs.all fun c ↦ c.isLeaf .string || c.isLeaf .bytes

/-- The texts of the tokens of trees. -/
def texts (cs : List Tree) : List String := cs.flatMap fun c ↦ c.tokens.map Token.text

/-- The members of a listing between commas. -/
def membersOf (cs : List Tree) : List Tree :=
  cs.filter fun c ↦ !(c.isPunctuation || c.isWord "\x7b" || c.isWord "\x7d" || c.isWord ":")

/-- The text of a listing. -/
def listingText (cs : List Tree) (written : List String) : String :=
  let inner := Text.joinWith ", " written
  let opening := (texts (cs.take 1)).headD ""
  if opening == "[" then "[" ++ inner ++ "]"
  else if opening == "\x7b" then "\x7b" ++ inner ++ "\x7d"
  else if written.length == 1 then "(" ++ inner ++ ",)"
  else "(" ++ inner ++ ")"

/-- Values and keys in pairs. -/
def paired : List String → List String
  | k :: v :: r => (k ++ ": " ++ v) :: paired r
  | _ => []

/-- The block of statements after a colon. -/
def blockAfter (cs : List Tree) : List Tree :=
  match cs.find? (Tree.isNode .block) with
  | some b => statementsOf b
  | none => []

/-- The expression of a decorator. -/
def decoration? : Tree → Option Tree
  | .node .decorator (_ :: e :: _) => some e
  | _ => none

/-- The line by which a definition is known that stands in a statement: that of the statement's
first decorator, or its own. -/
def codeLine (s definition : Tree) : Nat := (decoratorLines s).headD definition.firstLine

/-- What a statement makes of its definition in a frame, before any decorator is called. -/
def madeBy (f : Frame) (s definition : Tree) : Thing :=
  if definition.isNode .className then .classNamed (f.path ++ declaredName definition)
  else .function (codeLine s definition) definition f.path (f.locals.getD []) none

/-! ## Running -/

mutual

/-- What an expression stands for. -/
def evaluate (fuel : Nat) (f : Frame) (t : Tree) : Thing :=
  match fuel with
  | 0 => unknown
  | fuel + 1 =>
    match t with
    | .leaf k => tokenThing f k
    | .node .group [_, c, _] => evaluate fuel f c
    | .node .named [_, _, c] => evaluate fuel f c
    | .node .lambda cs => .function t.firstLine (.node .lambda cs) f.path (f.locals.getD []) none
    | .node .primary (c :: steps) => steps.foldl (fun x s ↦ stepFrom fuel f x s) (evaluate fuel f c)
    | .node .operation cs =>
      if allStrings cs then
        .value (stringsWritten (cs.any (Tree.isLeaf .bytes)) (texts cs))
          (!((texts cs).flatMap stringText).isEmpty)
      else match cs with
        | [o, c] =>
          let x := evaluate fuel f c
          if o.isWord "-" then .value ("-" ++ writtenOf x) (holds x)
          else if o.isWord "+" then evaluate fuel f c
          else if o.isWord "not" then
            let truth := !holds (evaluate fuel f c)
            .value (if truth then "True" else "False") truth
          else if o.isWord "\x7b" then .value "\x7b\x7d" false
          else unknown
        | o :: _ =>
          if o.isWord "\x7b" then
            let ws := (membersOf cs).map fun c ↦ writtenOf (evaluate fuel f c)
            let ws := if cs.any (Tree.isWord ":") then paired ws else ws
            .value (listingText cs ws) true
          else unknown
        | [] => unknown
    | .node _ cs =>
      let ms := membersOf cs
      .value (listingText cs (ms.map fun c ↦ writtenOf (evaluate fuel f c))) (!ms.isEmpty)

/-- What a step after an expression leads to. -/
def stepFrom (fuel : Nat) (f : Frame) (x : Thing) (step : Tree) : Thing :=
  match fuel with
  | 0 => unknown
  | fuel + 1 =>
    match step with
    | .node .call cs =>
      let given := cs.filterMap fun c ↦ match c with
        | .node .argument (e :: _) => some (evaluate fuel f e)
        | _ => none
      call fuel f x given
    | .node .member [_, n] =>
      match x with
      | .toolModule => if nameText n == "wraps" then .wraps else unknown
      | _ => unknown
    | _ => unknown

/-- What a call gives. -/
def call (fuel : Nat) (f : Frame) (x : Thing) (given : List Thing) : Thing :=
  match fuel with
  | 0 => unknown
  | fuel + 1 =>
    match x, given with
    | .wraps, g :: _ => .wrapping g
    | .wrapping target, .function line d path around _ :: _ =>
      .function line d path around (some target)
    | .wrapping _, g :: _ => g
    | .function _ d path around _, _ =>
      let bound := ((parameterNames d).zip given) ++ around
      let inner : Frame :=
        { f with locals := some bound, path := path ++ declaredName d ++ ".<locals>." }
      match d with
      | .node .lambda cs =>
        match cs.getLast? with
        | some body => evaluate fuel inner body
        | none => unknown
      | _ => ((execute fuel inner (bodyOf d)).2).getD (.value "None" false)
    | _, _ => unknown

/-- Runs statements: the frame they leave, and what they return if they do. -/
def execute (fuel : Nat) (f : Frame) (ss : List Tree) : Frame × Option Thing :=
  match fuel with
  | 0 => (f, none)
  | fuel + 1 =>
    match ss with
    | [] => (f, none)
    | s :: r =>
      match executeOne fuel f s with
      | (f, some x) => (f, some x)
      | (f, none) => execute fuel f r

/-- Runs a statement. -/
def executeOne (fuel : Nat) (f : Frame) (s : Tree) : Frame × Option Thing :=
  match fuel with
  | 0 => (f, none)
  | fuel + 1 =>
    match s with
    | .node .simple cs => executeSimple fuel f cs
    | .node .function _ | .node .className _ => (f.bind (declaredName s) (madeBy f s s), none)
    | .node .decoratedDefinition cs =>
      match cs.getLast? with
      | none => (f, none)
      | some d =>
        let decorators := (cs.filterMap decoration?).map (evaluate fuel f)
        let made := decorators.foldr (fun x made ↦ call fuel f x [made]) (madeBy f s d)
        (f.bind (declaredName d) made, none)
    | .node .compound cs => executeCompound fuel f cs
    | .node .withStatement _ => execute fuel f (bodyOf s)
    | _ => (f, none)

/-- Runs a branch, whichever condition holds first, or what is tried. -/
def executeCompound (fuel : Nat) (f : Frame) (cs : List Tree) : Frame × Option Thing :=
  match fuel with
  | 0 => (f, none)
  | fuel + 1 =>
    match cs with
    | w :: c :: _ :: b :: r =>
      if w.isWord "if" || w.isWord "elif" then
        if holds (evaluate fuel f c) then execute fuel f (statementsOf b)
        else executeCompound fuel f r
      else if w.isWord "else" || w.isWord "try" then execute fuel f (blockAfter cs)
      else (f, none)
    | w :: _ =>
      if w.isWord "else" || w.isWord "try" then execute fuel f (blockAfter cs) else (f, none)
    | [] => (f, none)

/-- Runs a simple statement. -/
def executeSimple (fuel : Nat) (f : Frame) (cs : List Tree) : Frame × Option Thing :=
  match fuel with
  | 0 => (f, none)
  | fuel + 1 =>
    match cs with
    | [w] => if w.isWord "return" then (f, some (.value "None" false)) else (f, none)
    | w :: c :: r =>
      if w.isWord "return" then (f, some (evaluate fuel f c))
      else if w.isWord "import" || w.isWord "from" then (importNames f (texts cs), none)
      else if c.isWord "=" then
        match (c :: r).getLast? with
        | some value =>
          let targets := (w :: r).filter fun t ↦ !t.isWord "="
          (targets.dropLast.foldl (fun f t ↦ assign fuel f t value) f, none)
        | none => (f, none)
      else if c.isWord ":" then
        match r with
        | [_, _, value] => (assign fuel f w value, none)
        | _ => (f, none)
      else (f, none)
    | [] => (f, none)

/-- Binds a target to the value of an expression, member by member if both are listings. -/
def assign (fuel : Nat) (f : Frame) (target value : Tree) : Frame :=
  match fuel with
  | 0 => f
  | fuel + 1 =>
    match target with
    | .leaf k => f.bind (Text.compat k.text) (evaluate fuel f value)
    | .node .group [_, t, _] => assign fuel f t value
    | .node .primary _ => f
    | t =>
      ((membersOf t.children).zip (membersOf value.children)).foldl
        (fun g p ↦ assignEvaluated g p.1 (evaluate fuel f p.2)) f

/-- Binds a name to a thing. -/
def assignEvaluated (f : Frame) (target : Tree) (x : Thing) : Frame :=
  match target with
  | .leaf k => f.bind (Text.compat k.text) x
  | _ => f

/-- Binds the names an import brings. -/
def importNames (f : Frame) (words : List String) : Frame :=
  match words with
  | ["import", "functools"] => f.bind "functools" .toolModule
  | ["import", "functools", "as", n] => f.bind n .toolModule
  | ["from", "functools", "import", "wraps"] => f.bind "wraps" .wraps
  | ["from", "functools", "import", "wraps", "as", n] => f.bind n .wraps
  | _ => f

end

/-- How many steps a module may take. -/
def stepLimit : Nat := 10000

/-- The names of a module after it has run. -/
def run (t : Tree) : Frame := (execute stepLimit {} (statementsOf t)).1

/-! ## Sources -/

/-- Something a module defines, with the text of the module. -/
structure Found where
  text : List Char
  tree : Tree
  thing : Thing

/-- What the chain of wrapped functions leads to. -/
def unwrapped : Thing → Thing
  | .function line d path around wrapped =>
    match wrapped with
    | some t => unwrapped t
    | none => .function line d path around none
  | t => t

/-- The text of a module as it is read from its file. -/
def textOf (text : String) : List Char := (fileText? (some text)).getD []

/-- What a name of a module stands for. -/
def define (text name : String) : Except Failure Found := do
  let cs := textOf text
  let t ← readText cs
  let x := ((run t).find? name).or (standard? name)
  return ⟨cs, t, x.getD (.value name true)⟩

mutual

/-- The line on which the first class with a given path of names starts, decorators included. -/
def classLine (target path : String) : Tree → Option Nat
  | .leaf _ => none
  | .node .decoratedDefinition cs =>
    match cs.getLast? with
    | some d =>
      if d.isNode .className && path ++ declaredName d == target then
        some (codeLine (.node .decoratedDefinition cs) d)
      else classLineOf target path cs
    | none => none
  | .node .className cs =>
    let own := path ++ declaredName (.node .className cs)
    if own == target then some (Tree.node .className cs).firstLine
    else classLineOf target (own ++ ".") cs
  | .node .function cs =>
    classLineOf target (path ++ declaredName (.node .function cs) ++ ".<locals>.") cs
  | .node _ cs => classLineOf target path cs

/-- The same among several trees. -/
def classLineOf (target path : String) : List Tree → Option Nat
  | [] => none
  | c :: cs => (classLine target path c).or (classLineOf target path cs)

end

/-- Whether an unnamed function opens in a line. -/
def holdsLambda : Option Char → List Char → Bool
  | _, [] => false
  | before, c :: r =>
    let word := "lambda".toList
    let free := match before with
      | some b => !Text.isWordChar b
      | none => true
    let ends := match (c :: r).drop word.length with
      | d :: _ => d == ':' || Text.isBlank d
      | [] => false
    (free && word.isPrefixOf (c :: r) && ends) || holdsLambda (some c) r

/-- Whether a line looks like the start of a function. -/
def opensFunction (line : List Char) : Bool :=
  let line := line ++ ['\n']
  let cs := Text.trimStart line
  (afterSpacedWord? "def" cs).isSome
    || ((afterSpacedWord? "async" cs).bind (afterSpacedWord? "def")).isSome
    || holdsLambda none line || cs.head? == some '@'

/-- The nearest line at or before the one given that looks like the start of a function; else the
first.  Lines are counted from zero here. -/
def nearestStart (ls : List (List Char)) : Nat → Nat
  | 0 => 0
  | n + 1 =>
    match ls[n + 1]? with
    | some l => if opensFunction l then n + 1 else nearestStart ls n
    | none => nearestStart ls n

/-- The lines of a definition that starts on a line, counted from zero. -/
def linesFrom (text : List Char) (start : Nat) : String :=
  let ls := (Text.splitAt '\n' text).dropLast
  let rest := ls.drop start
  let count := extent (rest.flatMap fun l ↦ l ++ ['\n'])
  String.ofList ((rest.take count).flatMap fun l ↦ l ++ ['\n'])

/-- The lines that define a thing. -/
def Found.source (f : Found) : Except Failure String :=
  match unwrapped f.thing with
  | .function line .. =>
    .ok (linesFrom f.text (nearestStart (Text.splitAt '\n' f.text).dropLast (line - 1)))
  | .classNamed name =>
    match classLine name "" f.tree with
    | some line => .ok (linesFrom f.text (line - 1))
    | none => .error (.unsourced (.absent ("<class '" ++ name ++ "'>")))
  | .value written _ => .error (.unsourced (.absent written))
  | _ => .error (.unsourced (.absent ""))

/-- The lines that define what a name of a module stands for. -/
def definitionSource (text name : String) : Except Failure String := do
  (← define text name).source

end Module
end Source
end TexWeave

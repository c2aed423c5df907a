import TexWeave.Source.Form

/-!
# The grammar of the source language

The rules by which definitions, blocks and whole files are read.  Operators of every strength are
read alike where their strength makes no difference to what is a sentence.  Rules that a form cannot
express are tests on trees: what can be assigned to, and in which order parameters and arguments may
stand.

* `Rule` — the names of the rules.
* `grammar` — their forms.
* `parse` — the tree of a list of tokens, if it is a sentence.
-/

set_option autoImplicit false

namespace TexWeave
namespace Source

open Form

/-- The names of the rules. -/
inductive Rule
  | statement
  | simpleLine
  | block
  | expression
  | disjunction
  | inversion
  | arithmetic
  | factor
  | primary
  | named
  | starNamed
  | starExpressions
  | yielding
  | brackets
  | pattern
  | closedPattern
  deriving DecidableEq, Repr

/-- A form of this grammar. -/
abbrev Syn := Form Rule

/-! ## Small parts -/

def name : Syn := .kind .name
def expression : Syn := .rule .expression
def named : Syn := .rule .named
def starNamed : Syn := .rule .starNamed
def starExpressions : Syn := .rule .starExpressions
def block : Syn := .rule .block
def colon : Syn := .word ":"
def comma : Syn := .word ","

/-- A keyword or operator at the start, and the form it opens. -/
def opened (s : String) (f : Syn) (otherwise : Syn) : Syn :=
  .choose (.ahead (.word s)) f otherwise

/-- One of several words. -/
def oneWord (ss : List String) : Syn := .alt (ss.map .word)

/-! ## Order of arguments and parameters -/

/-- Whether a node is a comprehension or holds one. -/
def holdsComprehension (t : Tree) : Bool := t.children.any (Tree.isNode .comprehension)

/-- Whether the arguments after a given point are in order.  `named` tells that a keyword came
before, `unpacked` that a mapping did. -/
def argumentsFollow (named unpacked : Bool) : List Tree → Bool
  | [] => true
  | .leaf _ :: r => argumentsFollow named unpacked r
  | .node k _ :: r =>
    match k with
    | .keywordArgument => argumentsFollow true unpacked r
    | .doubleStarred => argumentsFollow named true r
    | .starred => !unpacked && argumentsFollow named unpacked r
    | _ => !named && !unpacked && argumentsFollow named unpacked r

/-- Whether arguments are in order, none of them a bare comprehension. -/
def plainArgumentsOk (cs : List Tree) : Bool :=
  argumentsFollow false false cs && !cs.any holdsComprehension

/-- Whether arguments are in order; a bare comprehension has to be alone. -/
def argumentsOk (cs : List Tree) : Bool :=
  argumentsFollow false false cs && (cs.length == 1 || !cs.any holdsComprehension)

/-- What came before a parameter. -/
structure ParametersSeen where
  /-- Whether there was a parameter before the slash. -/
  any : Bool := false
  slash : Bool := false
  default : Bool := false
  star : Bool := false
  /-- Whether a bare star still waits for a parameter. -/
  waiting : Bool := false
  done : Bool := false

/-- Whether a parameter may follow, and what has come before the next. -/
def ParametersSeen.step? (s : ParametersSeen) (cs : List Tree) : Option ParametersSeen :=
  if s.done then none
  else match cs with
    | [] => none
    | c :: r =>
      if c.isWord "/" then
        if s.any && !s.slash && !s.star then some { s with slash := true } else none
      else if c.isWord "**" then if s.waiting then none else some { s with done := true }
      else if c.isWord "*" then
        if s.star then none else some { s with star := true, waiting := r.isEmpty }
      else
        let hasDefault := cs.any (Tree.isWord "=")
        if s.star then some { s with waiting := false }
        else if s.default && !hasDefault then none
        else some { s with any := true, default := s.default || hasDefault }

/-- Whether parameters are in order after what came before. -/
def parametersFollow (s : ParametersSeen) : List Tree → Bool
  | [] => !s.waiting
  | .leaf _ :: r => parametersFollow s r
  | .node _ cs :: r =>
    match s.step? cs with
    | some t => parametersFollow t r
    | none => false

/-- Whether parameters are in order. -/
def parametersOk (cs : List Tree) : Bool := parametersFollow {} cs

/-! ## Expressions -/

/-- Clauses of a comprehension. -/
def starTargets : Syn :=
  node .target (.check (fun cs ↦ cs.all fun c ↦ c.isPunctuation || c.isStarTarget)
    (listed (opened "*" (node .starred (.seq [.word "*", .rule .primary])) (.rule .primary))))

/-- One target, which may be starred. -/
def starTarget : Syn :=
  .check (fun cs ↦ cs.all Tree.isStarTarget)
    (opened "*" (node .starred (.seq [.word "*", .rule .primary])) (.rule .primary))

/-- The clauses of a comprehension. -/
def comprehension : Syn :=
  node .comprehension (some1 (.seq [opt (.word "async"), .word "for", starTargets, .word "in",
    .rule .disjunction, .many (.seq [.word "if", .rule .disjunction])]))

/-- Whether a list of trees is one starred expression and no more. -/
def loneStar (cs : List Tree) : Bool :=
  match cs with
  | [c] => c.isNode .starred
  | _ => false

/-- Whether what stands in brackets is good: a starred expression needs company where `alone` says
so, and never goes with a comprehension. -/
def bracketsOk (alone : Bool) (cs : List Tree) : Bool :=
  match cs with
  | _ :: c :: r =>
    !(c.isNode .starred && (r.any (Tree.isNode .comprehension) || (alone && r.length == 1)))
  | _ => true

/-- The node of what stands in parentheses. -/
def parenthesised (cs : List Tree) : Tree :=
  if cs.any (Tree.isNode .comprehension) then .node .operation cs
  else if cs.length == 2 || cs.any (Tree.isWord ",") then .node .tuple cs
  else .node .group cs

/-- The node of what stands in square brackets. -/
def bracketed (cs : List Tree) : Tree :=
  if cs.any (Tree.isNode .comprehension) then .node .operation cs else .node .list cs

/-- Starred or named expressions with commas, or a comprehension. -/
def members : Syn :=
  .seq [starNamed, .choose (.ahead comma) (.seq [comma, opt (listed starNamed)])
    (opt comprehension)]

/-- What stands in parentheses. -/
def parentheses : Syn :=
  .check (fun cs ↦ cs.all fun c ↦ bracketsOk true c.children) <|
    .build parenthesised (.seq [.word "(",
      .choose (.ahead (.word ")")) nothing
        (opened "yield" (.rule .yielding) members), .word ")"])

/-- What stands in square brackets. -/
def squareBrackets : Syn :=
  .check (fun cs ↦ cs.all fun c ↦ bracketsOk false c.children) <|
    .build bracketed (.seq [.word "[", .choose (.ahead (.word "]")) nothing members, .word "]"])

/-- A key with its value, or a mapping that is unpacked. -/
def keyValue : Syn :=
  .choose (.word "**") (.rule .arithmetic) (.seq [expression, colon, expression])

/-- Whether what stands in braces is good: a key is a plain expression, and a starred one does not
go with a comprehension. -/
def bracesOk (cs : List Tree) : Bool :=
  match cs with
  | _ :: c :: r =>
    !(c.isNode .starred && r.any (Tree.isNode .comprehension))
      && !((c.isNode .starred || c.isNode .named)
        && (r.head?.map (Tree.isWord ":")).getD false)
  | _ => true

/-- What stands in braces. -/
def braces : Syn :=
  .check (fun cs ↦ cs.all fun c ↦ bracesOk c.children) <|
    node .operation (.seq [.word "\x7b",
      .choose (.ahead (.word "\x7d")) nothing
        (.choose (.ahead (.word "**")) (listed keyValue)
          (.seq [starNamed, .choose colon
            (.seq [expression, .choose (.ahead (oneWord ["for", "async"])) comprehension
              (.seq [.many (.seq [comma, keyValue]), opt comma])])
            (.choose (.ahead (oneWord ["for", "async"])) comprehension
              (.seq [.many (.seq [comma, starNamed]), opt comma]))])),
      .word "\x7d"])

/-- Strings side by side. -/
def strings : Syn :=
  fold .operation (some1 (.alt [.kind .string, .kind .bytes,
    .seq [.kind .fieldsOpen, .many (.rule .brackets), .kind .fieldsClose]]))

/-- The smallest expressions. -/
def atom : Syn :=
  .alt [name, .kind .number, .rule .brackets, strings, oneWord ["True", "False", "None", "..."]]

/-- One part of a subscript. -/
def sliceTail : Syn := .seq [colon, opt expression, opt (.seq [colon, opt expression])]

/-- A subscript. -/
def subscript : Syn :=
  listed (opened "*" (.seq [.word "*", expression])
    (opened ":" sliceTail
      (.build (.node .operation) (.check (fun cs ↦ cs.length == 1
          || !(cs.head?.map (Tree.isNode .named)).getD false)
        (.seq [named, opt sliceTail])))))

/-- One argument. -/
def argument : Syn :=
  opened "**" (node .doubleStarred (.seq [.word "**", expression]))
    (opened "*" (node .starred (.seq [.word "*", expression]))
      (.choose (.ahead (.seq [name, .word "="]))
        (node .keywordArgument (.seq [name, .word "=", expression]))
        (node .argument (.seq [named, opt comprehension]))))

/-- The arguments of a call. -/
def arguments (ok : List Tree → Bool) : Syn :=
  .seq [.word "(",
    .choose (.ahead (.word ")")) nothing (.check ok (listed argument)),
    .word ")"]

/-- A step from an expression to a part of it or a call of it. -/
def trailer : Syn :=
  opened "." (node .member (.seq [.word ".", name]))
    (opened "(" (node .call (arguments argumentsOk))
      (node .subscript (.seq [.word "[", subscript, .word "]"])))

/-- The operators between operands that need no weighing. -/
def arithmeticOperators : List String :=
  ["|", "^", "&", "<<", ">>", "+", "-", "*", "/", "//", "%", "@", "**"]

/-- The operators of comparison. -/
def comparisonOperator : Syn :=
  .alt [oneWord ["==", "!=", "<=", "<", ">=", ">", "in"], .seq [.word "not", .word "in"],
    .seq [.word "is", opt (.word "not")]]

/-- Parameters; `hint` and `starHint` are what may follow a name. -/
def parameters (hint starHint : Syn) : Syn :=
  .check parametersOk <| listed <| node .parameter <|
    .choose (.word "/") nothing <|
      .choose (.word "**") (.seq [name, hint]) <|
        .choose (.word "*") (opt (.seq [name, starHint])) <|
          .seq [name, hint, opt (.seq [.word "=", expression])]

/-- Parameters of an expression, which take no type hints. -/
def lambdaParameters : Syn := parameters nothing nothing

/-- A starred operand or an expression. -/
def starExpression : Syn :=
  opened "*" (node .starred (.seq [.word "*", .rule .arithmetic])) expression

/-- Parameters of a definition. -/
def definitionParameters : Syn :=
  parameters (opt (.seq [colon, expression])) (opt (.seq [colon, starExpression]))

/-! ## Simple statements -/

/-- The operators that change a target. -/
def changingOperators : List String :=
  ["+=", "-=", "*=", "@=", "/=", "%=", "&=", "|=", "^=", "<<=", ">>=", "**=", "//="]

/-- Whether all but the last of the expressions between equals signs can be assigned to. -/
def chainOk : List Tree → Bool
  | [] => true
  | [_] => true
  | c :: _ :: r => c.isAssignable && chainOk r

/-- Whether the left sides of an expression statement can be assigned to. -/
def assignmentOk (cs : List Tree) : Bool :=
  match cs with
  | c :: o :: _ => if o.isWord "=" then chainOk cs else c.isSingleTarget
  | _ => true

/-- The right side of an assignment. -/
def assigned : Syn := opened "yield" (.rule .yielding) starExpressions

/-- An expression, or an assignment of one of the three kinds. -/
def expressionStatement : Syn :=
  .check assignmentOk <| .seq [starExpressions,
    .choose colon (.seq [expression, opt (.seq [.word "=", assigned])])
      (.choose (oneWord changingOperators) assigned (.many (.seq [.word "=", assigned])))]

/-- A name, perhaps under another one. -/
def renamed (f : Syn) : Syn := .seq [f, opt (.seq [.word "as", name])]

/-- A name with dots. -/
def dotted : Syn := sepBy name "."

/-- What is imported from a module. -/
def importTargets : Syn :=
  .alt [.word "*", .seq [.word "(", listed (renamed name), .word ")"], sepBy (renamed name) ","]

/-- An import from a module. -/
def importFrom : Syn :=
  .seq [.word "from",
    .alt [.seq [.many (oneWord [".", "..."]), dotted], some1 (oneWord [".", "..."])],
    .word "import", importTargets]

/-- A simple statement, told by its first word. -/
def simple : Syn :=
  node .simple <|
    opened "return" (.seq [.word "return", opt starExpressions]) <|
    opened "import" (.seq [.word "import", sepBy (renamed dotted) ","]) <|
    opened "from" importFrom <|
    opened "raise" (.seq [.word "raise",
      opt (.seq [expression, opt (.seq [.word "from", expression])])]) <|
    opened "del" (.seq [.word "del",
      .check (fun cs ↦ cs.all fun c ↦ c.isPunctuation || c.isDeletable)
        (listed (.rule .primary))]) <|
    opened "yield" (.rule .yielding) <|
    opened "assert" (.seq [.word "assert", expression, opt (.seq [comma, expression])]) <|
    opened "global" (.seq [.word "global", sepBy name ","]) <|
    opened "nonlocal" (.seq [.word "nonlocal", sepBy name ","]) <|
    .choose (oneWord ["pass", "break", "continue"]) nothing expressionStatement

/-! ## Compound statements -/

/-- What runs otherwise. -/
def elseBlock : Syn := opt (.seq [.word "else", colon, block])

/-- A branch. -/
def ifStatement : Syn :=
  .seq [.word "if", named, colon, block, .many (.seq [.word "elif", named, colon, block]),
    elseBlock]

/-- A loop over what an expression gives. -/
def forStatement : Syn :=
  .seq [.word "for", starTargets, .word "in", starExpressions, colon, block, elseBlock]

/-- A loop under a condition. -/
def whileStatement : Syn := .seq [.word "while", named, colon, block, elseBlock]

/-- A context of a block. -/
def withItem : Syn :=
  .seq [expression, opt (.seq [.word "as", starTarget, .ahead (oneWord [",", ")", ":"])])]

/-- The contexts of a block, in parentheses or not. -/
def withItems : Syn :=
  .alt [.seq [.word "(", listed withItem, .word ")", colon], .seq [sepBy withItem ",", colon]]

/-- A block in contexts. -/
def withStatement : Syn := .seq [.word "with", withItems, block]

/-- What runs on a failure. -/
def exceptBlocks : Syn :=
  .choose (.ahead (.seq [.word "except", .word "*"]))
    (some1 (.seq [.word "except", .word "*", renamed expression, colon, block]))
    (some1 (.seq [.word "except", .unless (.word "*"), opt (renamed expression), colon, block]))

/-- A block with provisions for failures. -/
def tryStatement : Syn :=
  .seq [.word "try", colon, block,
    .choose (.ahead (.word "finally")) nothing (.seq [exceptBlocks, elseBlock]),
    opt (.seq [.word "finally", colon, block])]

/-- A function after its first words. -/
def functionRest : Syn :=
  .seq [.word "def", name, .word "(",
    .choose (.ahead (.word ")")) nothing definitionParameters,
    .word ")", opt (.seq [.word "->", expression]), colon, block]

/-- A class. -/
def classDefinition : Syn :=
  node .className (.seq [.word "class", name, opt (arguments plainArgumentsOk), colon, block])

/-- A statement that begins with the word for concurrency. -/
def asyncStatement : Syn :=
  .choose (.ahead (.seq [.word "async", .word "def"]))
    (node .function (.seq [.word "async", functionRest]))
    (.choose (.ahead (.seq [.word "async", .word "with"]))
      (node .withStatement (.seq [.word "async", withStatement]))
      (node .compound (.seq [.word "async", forStatement])))

/-- A definition under decorators. -/
def decorated : Syn :=
  node .decoratedDefinition (.seq [
    some1 (node .decorator (.seq [.word "@", named, .kind .newline])),
    opened "class" classDefinition
      (opened "def" (node .function functionRest)
        (node .function (.seq [.word "async", functionRest])))])

/-! ## Patterns -/

/-- A name that a pattern binds. -/
def captured : Syn :=
  .seq [.unless (.soft "_"), name, .unless (oneWord [".", "(", "="])]

/-- A pattern that may stand for the rest of a sequence. -/
def starPattern : Syn :=
  opened "*" (node .starred (.seq [.word "*", name, .unless (oneWord [".", "(", "="])]))
    (.rule .pattern)

/-- Patterns in sequence without brackets; a starred one needs a comma. -/
def openSequence : Syn :=
  .check (fun cs ↦ !loneStar cs) (.seq [starPattern, opt (.seq [comma, opt (listed starPattern)])])

/-- Whether a token is an imaginary number. -/
def isImaginary (t : Tree) : Bool :=
  match t with
  | .leaf k => k.text.toList.getLast? == some 'j' || k.text.toList.getLast? == some 'J'
  | .node .. => false

/-- Whether a number of two parts has a real and an imaginary one. -/
def complexOk (cs : List Tree) : Bool :=
  match cs.filter (Tree.isLeaf .number) with
  | [a, b] => !isImaginary a && isImaginary b
  | _ => true

/-- A number with a sign, or with an imaginary part. -/
def signedNumber : Syn :=
  .check complexOk (.seq [opt (.word "-"), .kind .number,
    opt (.seq [oneWord ["+", "-"], .kind .number])])

/-- A literal. -/
def literal : Syn :=
  .alt [.seq [signedNumber, .unless (oneWord ["+", "-"])], strings,
    oneWord ["None", "True", "False"]]

/-- Whether the arguments of a pattern are in order: those without a name first. -/
def patternArgumentsOk (named : Bool) : List Tree → Bool
  | [] => true
  | .node .keywordArgument _ :: r => patternArgumentsOk true r
  | .node .argument _ :: r => !named && patternArgumentsOk named r
  | _ :: r => patternArgumentsOk named r

/-- The arguments of a pattern. -/
def patternArguments : Syn :=
  .seq [.word "(",
    .choose (.ahead (.word ")")) nothing
      (.check (patternArgumentsOk false) (listed
        (.choose (.ahead (.seq [name, .word "="]))
          (node .keywordArgument (.seq [name, .word "=", .rule .pattern]))
          (node .argument (.rule .pattern))))),
    .word ")"]

/-- A name with dots, alone or with arguments. -/
def namePattern : Syn :=
  .seq [dotted, .choose (.ahead (.word "(")) patternArguments (.unless (.word "="))]

/-- A key of a mapping pattern. -/
def patternKey : Syn := .alt [literal, .seq [name, some1 (.seq [.word ".", name])]]

/-- The members of a mapping pattern; what takes the rest comes last. -/
def mappingPattern : Syn :=
  .seq [.word "\x7b",
    .choose (.ahead (.word "\x7d")) nothing
      (.choose (.word "**") (.seq [captured, opt comma])
        (.seq [sepBy (.seq [patternKey, colon, .rule .pattern]) ",",
          opt (.seq [comma, .word "**", captured]), opt comma])),
    .word "\x7d"]

/-- A branch of a match. -/
def caseBlock : Syn :=
  .seq [.soft "case", openSequence, opt (.seq [.word "if", named]), colon, block]

/-- The header of a match. -/
def matchHeader : Syn :=
  .seq [.soft "match",
    .check (fun cs ↦ !loneStar cs) (.seq [starNamed, opt (.seq [comma, opt (listed starNamed)])]),
    colon, .kind .newline]

/-! ## The table -/

/-- The forms of the rules. -/
def grammar : Rule → Syn
  | .statement =>
    opened "if" (node .compound ifStatement) <|
    opened "def" (node .function functionRest) <|
    opened "class" classDefinition <|
    opened "with" (node .withStatement withStatement) <|
    opened "for" (node .compound forStatement) <|
    opened "while" (node .compound whileStatement) <|
    opened "try" (node .compound tryStatement) <|
    opened "@" decorated <|
    opened "async" asyncStatement <|
    .choose (.ahead matchHeader)
      (node .compound (.seq [matchHeader, .kind .indent, some1 caseBlock, .kind .dedent]))
      (.rule .simpleLine)
  | .simpleLine =>
    .seq [sepBy simple ";", opt (.word ";"), .kind .newline]
  | .block =>
    node .block (.choose (.kind .newline)
      (.seq [.kind .indent, some1 (.rule .statement), .kind .dedent]) (.rule .simpleLine))
  | .expression =>
    opened "lambda" (node .lambda (.seq [.word "lambda",
        .choose (.ahead colon) nothing lambdaParameters, colon, expression]))
      (fold .operation (.seq [.rule .disjunction,
        opt (.seq [.word "if", .rule .disjunction, .word "else", expression])]))
  | .disjunction =>
    fold .operation (.seq [.rule .inversion,
      .many (.seq [oneWord ["and", "or"], .rule .inversion])])
  | .inversion =>
    opened "not" (node .operation (.seq [.word "not", .rule .inversion]))
      (fold .operation (.seq [.rule .arithmetic,
        .many (.seq [comparisonOperator, .rule .arithmetic])]))
  | .arithmetic =>
    fold .operation (.seq [.rule .factor,
      .many (.seq [oneWord arithmeticOperators, .rule .factor])])
  | .factor =>
    .choose (.ahead (oneWord ["+", "-", "~"]))
      (node .operation (.seq [oneWord ["+", "-", "~"], .rule .factor]))
      (opened "await" (node .operation (.seq [.word "await", .rule .primary])) (.rule .primary))
  | .primary => fold .primary (.seq [atom, .many trailer])
  | .named =>
    .choose (.ahead (.seq [name, .word ":="]))
      (node .named (.seq [name, .word ":=", expression])) expression
  | .starNamed =>
    opened "*" (node .starred (.seq [.word "*", .rule .arithmetic])) named
  | .starExpressions => fold .bareTuple (listed starExpression)
  | .yielding =>
    node .operation (.seq [.word "yield",
      .choose (.word "from") expression (opt starExpressions)])
  | .brackets =>
    .choose (.ahead (.word "(")) parentheses
      (.choose (.ahead (.word "[")) squareBrackets braces)
  | .pattern =>
    .seq [sepBy (.rule .closedPattern) "|", opt (.seq [.word "as", captured])]
  | .closedPattern =>
    .choose (.ahead name) namePattern <|
    .choose (.ahead (.word "(")) (.seq [.word "(",
      .choose (.ahead (.word ")")) nothing openSequence,
      .word ")"]) <|
    .choose (.ahead (.word "[")) (.seq [.word "[",
      .choose (.ahead (.word "]")) nothing (listed starPattern), .word "]"]) <|
    .choose (.ahead (.word "\x7b")) mappingPattern literal

/-- How deep the reading of a token may go. -/
def depthPerToken : Nat := 200

/-- The tree of a whole text, if its tokens are a sentence. -/
def parse (ts : List Token) : Option Tree :=
  match read grammar (depthPerToken * (ts.length + 10))
      (.node .text (.seq [.many (.rule .statement), .kind .finish])) ts with
  | some ([t], []) => some t
  | _ => none

end Source
end TexWeave

import TexWeave.Value

/-!
# What can go wrong

Every operation of the library that can fail does so with a `Failure`, which says what happened;
`Failure.message` words it.  Failures that the command line reports to the author as such, and does
not pass on, are the ones `Failure.reported?` gives a name to.
-/

set_option autoImplicit false

namespace TexWeave

/-- A step on the way to a field: the name of a field or the place in a list. -/
inductive Step
  | field (name : String)
  | index (n : Nat)
  deriving DecidableEq, Repr

/-- One thing wrong with a field. -/
structure Issue where
  /-- The sort of fault. -/
  sort : String
  /-- The way to the field. -/
  path : List Step
  /-- The fault in words. -/
  message : String
  deriving DecidableEq, Repr

/-- Why the source of a definition or of a block could not be had. -/
inductive Unsourced
  /-- The source is not a sentence of its language. -/
  | unreadable
  /-- It holds more or fewer definitions than one. -/
  | definitionCount (found : Nat)
  /-- There is no source for what was named. -/
  | absent (what : String)
  /-- No block opens at the line. -/
  | noBlock (file : String) (line : Int)
  /-- A cause in the caller's own words. -/
  | stated (message : String)
  deriving DecidableEq, Repr

/-- The cause in words. -/
def Unsourced.message : Unsourced → String
  | .unreadable => "Cannot parse definition source"
  | .definitionCount n =>
    "Expected exactly one function or class definition, found " ++ toString n
  | .absent what => "No source available for " ++ what
  | .noBlock file line => "No with-block found at " ++ file ++ ":" ++ toString line
  | .stated m => m

/-- Why a coordinate could not be written. -/
inductive CoordinateFault
  /-- A number beyond the range of binary64. -/
  | tooLarge
  /-- A text where a number should be. -/
  | textual
  /-- Another value where a number should be. -/
  | shapeless (sort : String)
  /-- A pair with too few members. -/
  | tooFew (found : Nat)
  /-- A pair with too many members. -/
  | tooMany
  /-- A single value where a pair should be. -/
  | unpaired (sort : String)
  deriving DecidableEq, Repr

/-- The fault in words. -/
def CoordinateFault.message : CoordinateFault → String
  | .tooLarge => "int too large to convert to float"
  | .textual => "Unknown format code 'g' for object of type 'str'"
  | .shapeless sort => "unsupported format string passed to " ++ sort ++ ".__format__"
  | .tooFew n => "not enough values to unpack (expected 2, got " ++ toString n ++ ")"
  | .tooMany => "too many values to unpack (expected 2)"
  | .unpaired sort => "cannot unpack non-iterable " ++ sort ++ " object"

/-- Why a path could not be used. -/
inductive PathFault
  | missing
  | exists
  | notDirectory
  | isDirectory
  deriving DecidableEq, Repr

/-- The number and the words of a fault. -/
def PathFault.describe : PathFault → String
  | .missing => "[Errno 2] No such file or directory"
  | .exists => "[Errno 17] File exists"
  | .notDirectory => "[Errno 20] Not a directory"
  | .isDirectory => "[Errno 21] Is a directory"

/-- Everything that can go wrong. -/
inductive Failure
  /-- An operation without a document to work on. -/
  | noCurrentDocument (message : String)
  /-- A source that could not be had. -/
  | unsourced (cause : Unsourced)
  /-- A tool that is not installed. -/
  | missingTool (tool : String)
  /-- A tool that ended with a status other than zero. -/
  | compilation (exitCode : Int) (tail : String) (command : List String)
  /-- Any other failure the author is told of. -/
  | general (message : String)
  /-- A margin figure in a document that has no margin. -/
  | marginOutsideTufte
  /-- A value that is none of the names of a choice. -/
  | invalidChoice (value : Value) (choice : String)
  /-- A coordinate that cannot be written. -/
  | coordinate (fault : CoordinateFault)
  /-- An axis that stands, directly or not, inside itself. -/
  | endlessPlot
  /-- A placement option of no known name. -/
  | unknownPlacement (name : String)
  /-- A placement for a plot that goes onto an axis. -/
  | placementOnAxis
  /-- Something asked of a thing that has no such part. -/
  | noAttribute (owner name : String)
  /-- A part that follows from others and cannot be set. -/
  | noSetter (owner name : String)
  /-- Fields that do not fit their model. -/
  | invalid (issues : List Issue)
  /-- A file that has to be there and is not. -/
  | fileNotFound (message : String)
  /-- A path that cannot be used. -/
  | path (fault : PathFault) (path : String)
  /-- Source text with a null character. -/
  | nullCharacter
  /-- Source text that is not a sentence of its language. -/
  | brokenSource
  /-- A settings file that cannot be read. -/
  | brokenSettings
  /-- Settings on the command line that cannot be read or do not fit. -/
  | brokenOverride
  /-- A closing tag in console text that closes nothing. -/
  | unmatchedTag (tag : String) (position : Nat)
  deriving Inhabited

namespace Failure

/-- What an operation says when there is no document and none is given. -/
def noDocument : Failure :=
  .noCurrentDocument "No current document; create one with new_document() first"

/-- What a run that ended badly is called after. -/
def commandName (command : List String) : String := command.headD "compiler"

/-- The failure in words. -/
def message : Failure → String
  | .noCurrentDocument m => m
  | .unsourced cause => cause.message
  | .missingTool tool => tool ++ " not found on PATH"
  | .compilation exitCode tail command =>
    commandName command ++ " exited with status " ++ toString exitCode
      ++ (if tail.isEmpty then "" else "\n" ++ tail)
  | .general m => m
  | .marginOutsideTufte => "marginfigure is only available in tufte mode"
  | .invalidChoice value choice => value.written ++ " is not a valid " ++ choice
  | .coordinate fault => fault.message
  | .endlessPlot => "maximum recursion depth exceeded"
  | .unknownPlacement name =>
    "make_figure_entry() got an unexpected keyword argument '" ++ name ++ "'"
  | .placementOnAxis => "placement metadata only applies when adding to a document"
  | .noAttribute owner name => "'" ++ owner ++ "' object has no attribute '" ++ name ++ "'"
  | .noSetter owner name => "property '" ++ name ++ "' of '" ++ owner ++ "' object has no setter"
  | .invalid _ => ""
  | .fileNotFound m => m
  | .path fault p => fault.describe ++ ": " ++ Text.quoted p
  | .nullCharacter => "source code string cannot contain null bytes"
  | .brokenSource => ""
  | .brokenSettings => ""
  | .brokenOverride => ""
  | .unmatchedTag tag position =>
    "closing tag '" ++ tag ++ "' at position " ++ toString position
      ++ (if tag == "[/]" then " has nothing to close" else " doesn't match any open tag")

/-- The name under which the command line reports a failure; others it passes on. -/
def reported? : Failure → Option String
  | .noCurrentDocument _ => some "NoCurrentDocumentError"
  | .unsourced _ => some "AnnotationError"
  | .missingTool _ => some "MissingToolchainError"
  | .compilation .. => some "CompilationError"
  | .general _ => some "TeXDocumentError"
  | _ => none

end Failure

end TexWeave

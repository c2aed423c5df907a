/-!
# Commands of the markup

The few shapes of command the library itself writes.  Arguments go in as they are: whoever supplies
them is responsible for characters that mean something to the markup.
-/

set_option autoImplicit false

namespace TexWeave

/-- A text in braces. -/
def braced (s : String) : String := "\x7b" ++ s ++ "\x7d"

/-- A text in brackets, or nothing if it is empty. -/
def optional (s : String) : String := if s.isEmpty then "" else "[" ++ s ++ "]"

/-- A command with one argument. -/
def command (name argument : String) : String := "\\" ++ name ++ braced argument

/-- The line that opens an environment. -/
def beginEnvironment (name : String) : String := command "begin" name

/-- The line that closes an environment. -/
def endEnvironment (name : String) : String := command "end" name

end TexWeave

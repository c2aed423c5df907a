import TexWeave.Build
import TexWeave.Check.Entry

/-!
# Checking settings, policies and build reports

The other records that come from outside: the settings of a project, the policy of a mode, and the
report of a build with its messages.
-/

set_option autoImplicit false

namespace TexWeave

open Check

/-- The tools to use. -/
def CompilerSettings.check : Check CompilerSettings :=
  record "CompilerConfig" fun v ↦
    CompilerSettings.mk
      <$> withDefault "standard_engine" none (orNull string) v
      <*> withDefault "tufte_engine" none (orNull string) v
      <*> withDefault "preprocessor" none (orNull string) v
      <*> withDefault "extra_args" [] (list string) v

/-- The defaults of new documents. -/
def DocumentDefaults.check : Check DocumentDefaults :=
  record "DocumentDefaults" fun v ↦
    DocumentDefaults.mk
      <$> withDefault "tufte" false flag v
      <*> withDefault "auto_sections" true flag v
      <*> withDefault "toc" false flag v
      <*> withDefault "packages" [] (list string) v

/-- The settings of a project. -/
def ProjectSettings.check : Check ProjectSettings :=
  record "ProjectConfig" fun v ↦
    ProjectSettings.mk
      <$> withDefault "output_dir" "." string v
      <*> withDefault "compiler" {} CompilerSettings.check v
      <*> withDefault "document" {} DocumentDefaults.check v

/-- A severity. -/
def Severity.check : Check Severity := choice Severity.all Severity.name

/-- A message of the engine. -/
def Message.check : Check Message :=
  record "CompilationWarning" fun v ↦
    Message.mk
      <$> withDefault "line" none (orNull integer) v
      <*> required "message" string v
      <*> withDefault "severity" .warning Severity.check v

/-- The report of a build. -/
def BuildResult.check : Check BuildResult :=
  record "CompilationResult" fun v ↦
    BuildResult.mk
      <$> required "success" flag v
      <*> required "tex_path" string v
      <*> withDefault "pdf_path" none (orNull string) v
      <*> withDefault "passes" [] (list (list string)) v
      <*> withDefault "errors" [] (list Message.check) v
      <*> withDefault "warnings" [] (list Message.check) v
      <*> withDefault "unresolved_refs" [] (list string) v

/-- A list of fixed length once it is made. -/
def checkFixedList : Check (List String)
  | .list vs => list string (.list vs)
  | _ => .fault "tuple_type" "Input should be a valid tuple"

/-- The policy of a mode. -/
def Policy.check : Check Policy :=
  record "ModePolicy" fun v ↦
    Policy.mk
      <$> required "document_class" string v
      <*> withDefault "class_options" "" string v
      <*> required "engine" string v
      <*> withDefault "preprocessor" none (orNull string) v
      <*> withDefault "packages" [] checkFixedList v
      <*> withDefault "preamble" "" string v
      <*> required "listing_begin" string v
      <*> required "listing_end" string v
      <*> withDefault "default_figtype" .float FigureType.check v
      <*> withDefault "always_two_passes" false flag v

end TexWeave

import Scss.Declaration
import Scss.Error
import Scss.Scope

/-!
# Options and figures

What a compilation can be told besides its input: where the output goes, which variables are defined
from outside, and how strict it is. Definitions from outside are put in front of a stylesheet as
declarations, so they have to be such that they read back as written. What a compilation tells besides
its css are its figures; a partial leaves all of them at zero.

* `Options.injected`: the definitions as bindings, checked and sorted.
* `Options.describe`: the options as one line of text.
* `Stats`: the figures; `Stats.describe`: all of them in one line.
-/

namespace Scss

/-- The settings of a compilation. -/
structure Options where
  /-- Whether the course of the compilation is reported. -/
  verbose : Bool := false
  /-- The folder for the output, instead of the one where the input is. -/
  outputFolder : Option Text := none
  /-- The variables defined from outside, under the names they were given. -/
  definitions : Scope := .empty
  /-- Whether undefined variables are an error. -/
  failOnUndefined : Bool := false
  /-- The order in which definitions are shown and checked and variables are substituted. Neither a
  configuration file nor a command line has a say in it, and it is not itself shown with the options. -/
  order : Scope.Order := .byName

namespace Options

/-- The characters that would end a declaration or its line. -/
def breaksValue (c : Char) : Bool :=
  c == ';' || c == '\n' || c == '\r'

/-- The name of a variable with its sign, which may have been left out. -/
def signed (name : Text) : Text :=
  if name.head? = some Variable.sigil then name else Variable.sigil :: name

/-- A definition from outside as a binding: the name with its sign, the value without space around
it. -/
def normalise (given : Binding) : Except Invalid Binding :=
  let name := signed given.name
  let value := Text.trim given.value
  if !Variable.isName name then .error (.variableName name)
  else if value.isEmpty || value.any breaksValue then .error (.variableValue name value)
  else .ok ⟨name, value⟩

/-- The order of injected bindings: by name, then by value. -/
def inOrder (a b : Binding) : Bool :=
  a.name.before b.name || (a.name == b.name && !b.value.before a.value)

/-- The bindings for a list of definitions from outside, sorted by name and value. -/
def injectedOf (given : List Binding) : Except Invalid (List Binding) :=
  (given.mapM normalise).map fun bs => bs.mergeSort inOrder

/-- The bindings that the options put in front of a stylesheet. -/
def injected (o : Options) : Except Invalid (List Binding) :=
  injectedOf (o.order.visit o.definitions)

/-- A definition of the form `name=value`: the name without space around it and not empty, the value
as it stands. -/
def definition? (given : Text) : Option Binding :=
  match given.dropWhile (fun c => c != '=') with
  | _ :: value =>
    let name := Text.trim (given.takeWhile fun c => c != '=')
    if name.isEmpty then none else some ⟨name, value⟩
  | [] => none

/-- The options in one line: each field but the order, with its value. -/
def describe (o : Options) : String :=
  let folder :=
    match o.outputFolder with
    | some p => "Some(" ++ p.quoted ++ ")"
    | none => "None"
  let entries := (o.order.visit o.definitions).map fun b =>
    b.name.quoted ++ ": " ++ b.value.quoted
  "CompilerOptions \x7b debug_mode: " ++ toString o.verbose ++
    ", output_directory: " ++ folder ++
    ", custom_variables: \x7b" ++ ", ".intercalate entries ++ "\x7d" ++
    ", fail_on_undefined: " ++ toString o.failOnUndefined ++ " \x7d"

end Options

/-- The figures of one compilation. -/
structure Stats where
  /-- The size of the source in bytes. -/
  sourceSize : Nat := 0
  /-- The size of the css in bytes. -/
  outputSize : Nat := 0
  /-- The number of imports, with repetitions. -/
  imports : Nat := 0
  /-- The number of declared variables. -/
  declared : Nat := 0
  /-- The variables that are mentioned and not declared. -/
  undefined : List Text := []
  /-- The paths of the files that were written. -/
  written : List Text := []
  /-- How long it took, in milliseconds. -/
  time : Nat := 0
deriving DecidableEq

/-- All figures in one line, each with the name of its field. -/
def Stats.describe (w : Wording) (s : Stats) : String :=
  "CompilationStats \x7b source_size: " ++ toString s.sourceSize ++
    ", output_size: " ++ toString s.outputSize ++
    ", import_count: " ++ toString s.imports ++
    ", variable_count: " ++ toString s.declared ++
    ", undefined_variables: [" ++ ", ".intercalate (s.undefined.map Text.quoted) ++
    "], written_files: [" ++ ", ".intercalate (s.written.map Text.quoted) ++
    "], compile_time_ms: " ++ w.time s.time ++ " \x7d"

end Scss

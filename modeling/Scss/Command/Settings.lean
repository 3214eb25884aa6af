import Scss.Command.Basic
import Scss.Config
import Scss.Machine

/-!
# Settings of a command

The options of a compilation are put together from the configuration file and the command line. A
definition on the command line takes the place of one of the same name in the file, and so does the
output folder; undefined variables are an error if either of them says so.

* `Settings.load`: the settings in a configuration file.
* `Settings.merge`: the options of a compilation.
-/

namespace Scss.Settings

/-- The definitions of a configuration file and, one after another, those of the command line. -/
def define (scope : Scope) : List Text → Except Invalid Scope
  | [] => .ok scope
  | given :: rest =>
    match Options.definition? given with
    | some b => define (scope.insert b) rest
    | none => .error (.definition given)

/-- The options of a compilation. -/
def merge (config : Config) (definitions : List Text) (output : Option Text)
    (verbose strict : Bool) : Except Invalid Options :=
  (define (config.definitions.getD .empty) definitions).map fun scope =>
    { verbose
      outputFolder := output.or config.outputFolder
      definitions := scope
      failOnUndefined := strict || config.failOnUndefined.getD false }

/-- The options of a build. -/
def ofBuild (config : Config) (c : BuildCommand) : Except Invalid Options :=
  merge config c.definitions c.output c.debug false

/-- The options of a check. -/
def ofCheck (config : Config) (c : CheckCommand) : Except Invalid Options :=
  merge config c.definitions none false c.strict

/-- The options for showing a result. -/
def ofDebug (config : Config) (c : DebugCommand) : Except Invalid Options :=
  merge config c.definitions none false false

variable {m : Type → Type} [Monad m] (machine : Machine m)

/-- The settings in a configuration file, or none if no file is given. -/
def load (path? : Option Text) : ExceptT Error m Config := do
  match path? with
  | none => return {}
  | some path =>
    match ← machine.read path with
    | .error cause => throw (.invalid (.configUnreadable path cause))
    | .ok text =>
      match Config.parse path text with
      | .error reason => throw (.invalid reason)
      | .ok config =>
        machine.note (.configLoaded path)
        return config

end Scss.Settings

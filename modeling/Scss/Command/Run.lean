import Scss.Command.Build
import Scss.Command.Check
import Scss.Command.Settings

/-!
# Running commands

A command line is read, its configuration file is loaded, and its command is carried out on a machine.
The order in which variables are substituted is not among the things that a command line can tell, so
it is given apart.

* `Invocation.run`: carries an invocation out.
* `Invocation.execute`: reads a command line, carries it out and reports its failure.
-/

namespace Scss

/-- The inputs and options with which a build goes on after its command. -/
structure Watched where
  /-- The watched inputs. -/
  inputs : List Text
  /-- How they are built. -/
  options : Options

/-- How a command line ends. -/
inductive Ending where
  /-- It was carried out. -/
  | done
  /-- It failed, and that was reported. -/
  | failed
  /-- It could not be read. -/
  | misused (error : UsageError)
  /-- It asks how the program is used. -/
  | help
  /-- It goes on as long as its inputs are watched. -/
  | watching (w : Watched)

namespace Invocation

variable {m : Type → Type} [Monad m] (machine : Machine m) (order : Scope.Order)

/-- The options of a command, if what was given has the right form. -/
def optionsOf (given : Except Invalid Options) : ExceptT Error m Options :=
  match given with
  | .ok options => return { options with order }
  | .error reason => throw (.invalid reason)

/-- Shows the result of compiling a stylesheet. -/
def showResult (options : Options) (input : Text) : ExceptT Error m Unit := do
  match ← Compilation.bundleFile machine options input with
  | some file => machine.report (.result file.result)
  | none => machine.report (.noResult input)

/-- Carries out a command. A build of watched inputs leaves them to be watched. -/
def perform (config : Config) : Option Command → ExceptT Error m (Option Watched)
  | some (.build c) => do
    let options ← optionsOf order (Settings.ofBuild config c)
    if c.watch then
      Build.watch machine options c.inputs
      return some ⟨c.inputs, options⟩
    else
      Build.buildInputs machine options c.stats c.inputs
      return none
  | some (.check c) => do
    let options ← optionsOf order (Settings.ofCheck config c)
    Check.checkInput machine options c.recursive c.input
    return none
  | some (.debug c) => do
    let options ← optionsOf order (Settings.ofDebug config c)
    showResult machine options c.input
    return none
  | none => do
    machine.report .noCommand
    return none

/-- Carries out an invocation. When its command has come to an end, well or not, that is noted. -/
def run (invocation : Invocation) : ExceptT Error m (Option Watched) := do
  let machine := machine.quiet (.ofCount invocation.verbosity)
  let begun ← machine.now
  let config ← Settings.load machine invocation.config
  match ← ExceptT.lift (perform machine order config invocation.command).run with
  | .ok (some watched) => return some watched
  | result =>
    machine.note (.finished ((← machine.now) - begun))
    ExceptT.mk (pure result)

/-- Reads a command line and carries it out. A failure is reported. -/
def execute (args : List Text) : m Ending := do
  match parse args with
  | .error (.wrong error) => return .misused error
  | .error (.final .version) =>
    machine.report .version
    return .done
  | .error (.final _) => return .help
  | .ok invocation =>
    match ← (run machine order invocation).run with
    | .ok (some watched) => return .watching watched
    | .ok none => return .done
    | .error error =>
      machine.report (.failed error)
      return .failed

end Invocation

end Scss

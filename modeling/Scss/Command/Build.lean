import Scss.Command.Inputs
import Scss.Compilation

/-!
# Building

A build compiles all stylesheets of its inputs, one after another, and stops at the first that fails.
What was written before stays.

* `Build.buildInputs`: builds the stylesheets of some inputs.
* `Build.watch`: the beginning of a build that goes on when its inputs change.
-/

namespace Scss.Build

variable {m : Type → Type} [Monad m] (machine : Machine m) (options : Options)

/-- The reports on a stylesheet that was built. -/
def reportsOn (figures : Bool) (file : Text) (stats : Stats) : List Report :=
  stats.written.map (.built file) ++ stats.undefined.map (.undefinedIn file) ++
    if figures then [.figures file stats] else []

/-- Builds one stylesheet, and gives the number of files written. -/
def buildFile (figures : Bool) (file : Text) : ExceptT Error m Nat := do
  let stats ← Compilation.compileFile machine options file
  (reportsOn figures file stats).forM fun r => liftM (machine.report r)
  return stats.written.length

/-- Builds stylesheets one after another, and gives the number of files written. -/
def buildFiles (figures : Bool) : List Text → ExceptT Error m Nat
  | [] => return 0
  | file :: rest => do
    let first ← buildFile machine options figures file
    return first + (← buildFiles figures rest)

/-- Builds the stylesheets of some inputs. -/
def buildInputs (figures : Bool) (inputs : List Text) : ExceptT Error m Unit := do
  let files ← ExceptT.lift (Inputs.collect machine true inputs)
  if files.isEmpty then
    machine.report .noFiles
  else
    let begun ← machine.now
    let written ← buildFiles machine options figures files
    machine.report (.builtTotal written ((← machine.now) - begun))

/-- Makes sure that all inputs are there. The empty path stands for the working folder. -/
def watchable : List Text → ExceptT Error m Unit
  | [] => return ()
  | input :: rest => do
    let path := Path.join ['.'] input
    if (← machine.isFile path) || (← machine.isFolder path) then watchable rest
    else throw (.unwatchable input "No path was found.")

/-- Builds inputs that are being watched, and reports a failure in place of passing it on. -/
def buildWatched (failed : Error → Report) (inputs : List Text) : m Unit := do
  match ← (buildInputs machine options false inputs).run with
  | .ok () => return ()
  | .error error => machine.report (failed error)

/-- Begins to watch inputs: makes sure that they are there and builds them a first time. -/
def watch (inputs : List Text) : ExceptT Error m Unit := do
  machine.report (.watching inputs)
  watchable machine inputs
  ExceptT.lift (buildWatched machine options .firstBuildFailed inputs)

/-- Builds inputs again because one of them changed. -/
def rebuild (inputs : List Text) : m Unit := do
  machine.report .changed
  buildWatched machine options .rebuildFailed inputs

end Scss.Build

import Scss.Command.Inputs
import Scss.Compilation

/-!
# Checking

A check bundles all stylesheets of its input and writes nothing. It does not stop at a failure: it
counts the stylesheets that fail and the undefined variables of the others.

* `Check.checkInput`: checks the stylesheets of an input.
* `Check.verdict`: what the counts amount to.
-/

namespace Scss.Check

/-- What a check has counted. -/
structure Tally where
  /-- The stylesheets that cannot be bundled. -/
  failures : Nat := 0
  /-- The undefined variables of the others. -/
  undefined : Nat := 0
deriving DecidableEq

variable {m : Type → Type} [Monad m] (machine : Machine m) (options : Options)

/-- Checks one stylesheet and counts what was found. -/
def checkFile (tally : Tally) (file : Text) : m Tally := do
  match ← (Compilation.bundleFile machine options file).run with
  | .ok (some bundled) =>
    if bundled.result.hasErrors then
      machine.report (.checkedUndefined file bundled.result.undefined)
      return { tally with undefined := tally.undefined + bundled.result.undefined.length }
    else
      machine.report (.checked file)
      return tally
  | .ok none =>
    machine.note (.partialUnchecked file)
    return tally
  | .error error =>
    machine.report (.checkFailed file error)
    return { tally with failures := tally.failures + 1 }

/-- What a check of `total` stylesheets amounts to. -/
def verdict (input : Text) (total : Nat) (tally : Tally) : Except Error Unit :=
  if 0 < tally.failures then .error (.invalid (.filesFailed tally.failures total))
  else if options.failOnUndefined && 0 < tally.undefined then
    .error (.undefinedTotal input tally.undefined)
  else .ok ()

/-- Checks the stylesheets of an input. -/
def checkInput (deep : Bool) (input : Text) : ExceptT Error m Unit := do
  let files ← ExceptT.lift (Inputs.collect machine deep [input])
  let tally ← ExceptT.lift (files.foldlM (checkFile machine options) {})
  ExceptT.mk (pure (verdict options input files.length tally))

end Scss.Check

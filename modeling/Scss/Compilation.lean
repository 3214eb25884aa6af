import Scss.Machine

/-!
# Compiling files

A stylesheet on a machine is bundled with the definitions of the options and the imports of its own
folder, and the css is written beside it or into the output folder. Nothing is written before
everything that can be refused has been refused.

* `Compilation.bundleFile`: bundles a stylesheet under the given options.
* `Compilation.outputPath`: where its css goes.
* `Compilation.compileFile`: bundles it and writes the css.
-/

namespace Scss.Compilation

variable {m : Type → Type} [Monad m] (machine : Machine m) (options : Options)

/-- The bundler for a stylesheet: imports are looked for in its own folder. -/
def bundlerFor (injected : List Binding) (path : Text) : Bundler where
  injected := injected
  importRoot := Path.folder? path
  order := options.order

/-- Bundles a stylesheet. The definitions of the options are checked first. -/
def bundleFile (path : Text) : ExceptT Error m (Option Bundled) := do
  match options.injected with
  | .error reason => throw (.invalid reason)
  | .ok injected =>
    match ← ((bundlerFor options injected path).bundle (machine.files none) path).run with
    | .ok file? => return file?
    | .error cause => throw (.bundle cause)

/-- Where the css of a stylesheet goes: into the output folder if there is one, under the name that
the output has. -/
def outputPath (outputName : Text) : Text :=
  match options.outputFolder, Path.fileName? outputName with
  | some folder, some name => Path.join folder name
  | _, _ => outputName

/-- The figures of a bundled stylesheet before anything is written. -/
def statsOf (file : Bundled) : Stats where
  sourceSize := file.sourceSize
  outputSize := file.result.css.size
  imports := file.imports.length
  declared := file.result.scope.size
  undefined := file.result.undefined

/-- An operation of the machine that must not fail. -/
def orFail {α : Type} (action : m (Except Failure α)) : ExceptT Error m α := do
  match ← action with
  | .ok a => return a
  | .error cause => throw (.io cause)

/-- Writes the css of a bundled stylesheet, in a folder that is made if need be. -/
def emit (file : Bundled) (target : Text) : ExceptT Error m Unit := do
  match Path.folder? target with
  | some folder => orFail (machine.makeFolders folder)
  | none => pure ()
  orFail (machine.write target file.result.css)
  machine.note (.wrote target)

/-- Takes the notes that are wanted only when the course of the compilation is reported. -/
def whenVerbose (notes : List Note) : ExceptT Error m Unit :=
  if options.verbose then notes.forM fun n => liftM (machine.note n) else pure ()

/-- Compiles a stylesheet and writes its css. Nothing is written for a partial, or where undefined
variables are an error and there are some, or where the css would go to the path of the input. -/
def compileFile (path : Text) : ExceptT Error m Stats := do
  let begun ← machine.now
  whenVerbose machine options [.banner, .compiling path, .options options]
  match ← bundleFile machine options path with
  | none =>
    machine.note (.nothingToEmit path)
    return { time := (← machine.now) - begun }
  | some file =>
    if options.failOnUndefined && file.result.hasErrors then
      throw (.undefined path file.result.undefined)
    let target := outputPath options file.outputName
    if Path.same target path then
      throw (.invalid (.overwritten path))
    emit machine file target
    let stats := { statsOf file with written := [target], time := (← machine.now) - begun }
    whenVerbose machine options
      [.sourceSize stats.sourceSize, .outputSize stats.outputSize, .compileTime stats.time,
       .stats stats]
    return stats

end Scss.Compilation

import Scss.Import
import Scss.Note
import Scss.Stylesheet

/-!
# Bundling

To bundle a stylesheet is to read it, to make sure that everything it imports can be read, and to
compile it with the variables injected from outside. How files are reached is left open: a bundler
works over any monad in which the three operations of `Files` are given. Imports are checked and not
inlined, so the result does not depend on what they contain.

* `bundle`: the bundled stylesheet, or nothing for a partial.
* `bundleAndCompile`: output name and css of the same.
* `Stylesheet.notes`: what is noted while a source is compiled.
-/

namespace Scss

namespace Stylesheet

/-- The notes on declarations read in turn: each is noted, and the value that it replaces. -/
def declarationNotes (scope : Scope) : List Binding → List Note
  | [] => []
  | b :: bs =>
    .declared b :: (scope.get? b.name).toList.map (.redeclared b.name) ++
      declarationNotes (scope.insert b) bs

/-- What is noted while a source is compiled: its declarations, the substitutions and the undefined
variables. -/
def notes (order : Scope.Order) (source : Text) : List Note :=
  declarationNotes .empty (Declaration.all source) ++
    (order.visit (scope source)).map .substituting ++ (undefined source).map .undefined

end Stylesheet

/-- What a bundler asks of the outside: which paths are files, what they contain, and a place for
notes. -/
structure Files (m : Type → Type) where
  /-- Whether there is a file at a path. -/
  isFile : Text → m Bool
  /-- The text of a file. -/
  read : Text → m (Except Failure Text)
  /-- Takes a note. -/
  note : Note → m Unit

/-- The settings of a bundler. -/
structure Bundler where
  /-- The bindings declared in front of every stylesheet. -/
  injected : List Binding := []
  /-- The folder in which imports are looked for. -/
  importRoot : Option Text := none
  /-- The order in which variables are substituted. -/
  order : Scope.Order := .byName

/-- A stylesheet with what became of it. -/
structure Bundled where
  /-- The path of the source. -/
  sourcePath : Text
  /-- The size of the source in bytes, without what was injected. -/
  sourceSize : Nat
  /-- The path of the compiled file. -/
  outputName : Text
  /-- The imported names, in order and with repetitions. -/
  imports : List Text
  /-- The compiled stylesheet. -/
  result : Compiled

namespace Bundler

variable {m : Type → Type} [Monad m] (files : Files m) (bundler : Bundler)

/-- The text that is compiled for a stylesheet: the injected declarations and its contents. -/
def source (contents : Text) : Text :=
  Declaration.renderAll bundler.injected ++ contents

/-- The path at which an imported name is looked for. -/
def importPath (name : Text) : Text :=
  Naming.imported bundler.importRoot name

/-- Reads the stylesheet itself. If it cannot be read, it counts as missing. -/
def readEntry (path : Text) : ExceptT BundleError m Text := do
  match ← files.read path with
  | .ok contents => return contents
  | .error cause =>
    files.note (.unreadable path cause)
    throw (.entryMissing path)

/-- Makes sure that an imported stylesheet can be read. -/
def validate (name : Text) : ExceptT BundleError m Unit := do
  let path := bundler.importPath name
  files.note (.validating name path)
  match ← files.read path with
  | .ok _ => return ()
  | .error cause => throw (.importMissing name cause)

/-- Bundles the stylesheet at a path. A partial gives nothing and is not even looked for. -/
def bundle (path : Text) : ExceptT BundleError m (Option Bundled) := do
  if Naming.isPartial path then
    files.note (.skippingPartial path)
    return none
  else if ← files.isFile path then
    let contents ← readEntry files path
    let imports := Import.scan contents
    imports.forM (bundler.validate files)
    let source := bundler.source contents
    (Stylesheet.notes bundler.order source).forM fun n => liftM (files.note n)
    files.note (.compiled path (Naming.output path))
    return some {
      sourcePath := path
      sourceSize := contents.size
      outputName := Naming.output path
      imports := imports
      result := Stylesheet.compile bundler.order source }
  else
    throw (.entryMissing path)

/-- The output name and the css of a stylesheet, or no entry for a partial. -/
def bundleAndCompile (path : Text) : ExceptT BundleError m (List (Text × Text)) := do
  let file? ← bundler.bundle files path
  return file?.toList.map fun file => (file.outputName, file.result.css)

end Bundler

end Scss

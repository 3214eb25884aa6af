import Scss.Path

/-!
# Names of stylesheets

Stylesheets that only serve to be imported are called partials and have a name that starts with an
underscore; nothing is written for them. Every other stylesheet is compiled to a file whose name
differs in the extension.

* `Naming.isPartial`: whether a path names a partial.
* `Naming.output`: the name of the file that a stylesheet is compiled to.
* `Naming.imported`: the path of an imported stylesheet.
-/

namespace Scss.Naming

/-- What the name of a partial starts with. -/
def partialMark : Char := '_'

/-- The extension of stylesheets, with its dot. -/
def sourceSuffix : Text :=
  ".scss".toList

/-- The extension of plain css, with its dot. -/
def outputSuffix : Text :=
  ".css".toList

/-- The characters that end a folder's name in a path, on any system. -/
def isDivider (c : Char) : Bool :=
  c == '/' || c == '\\'

/-- What stands behind the last divider of a path. -/
def baseName (p : Text) : Text :=
  (p.reverse.takeWhile fun c => !isDivider c).reverse

/-- Whether a path names a partial. -/
def isPartial (p : Text) : Bool :=
  (baseName p).head? == some partialMark

/-- The path of the compiled file: the first source suffix in the path becomes the output suffix. -/
def output (p : Text) : Text :=
  Text.replaceFirst sourceSuffix outputSuffix p

/-- The path of an imported stylesheet, seen from the folder of imports if there is one. -/
def imported (root? : Option Text) (name : Text) : Text :=
  let file := name ++ sourceSuffix
  match root? with
  | some root => Path.join root file
  | none => file

end Scss.Naming

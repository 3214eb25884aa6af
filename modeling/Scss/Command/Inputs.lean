import Scss.Machine

/-!
# Inputs

An input is a stylesheet or a folder. A folder stands for the stylesheets in it, in the order in which
a walk comes to them; anything else stands for itself, whether it is there or not. A walk comes to
entries of all kinds, under paths that need not be texts. The files with the right extension count, and
each is given by a text, in which whatever is no text is replaced.

* `Inputs.isStylesheet`: which files of a folder count.
* `Inputs.stylesheetsAmong`: the stylesheets among the entries of a folder.
* `Inputs.collect`: the stylesheets that a list of inputs stands for.
-/

namespace Scss.Inputs

/-- The extension of the files that count in a folder. -/
def sourceExtension : Text := "scss".toList

/-- Whether a file of a folder counts as a stylesheet. -/
def isStylesheet (path : Raw) : Bool :=
  Path.extension? path == some sourceExtension.bytes

variable {m : Type → Type} [Monad m] (machine : Machine m)

/-- Notes a partial that was found in a folder. -/
def notePartial (path : Text) : m Unit :=
  if Naming.isPartial path then machine.note (.partialFound path) else pure ()

/-- The stylesheets among the entries of a folder, as texts. -/
def stylesheetsAmong : List Raw → m (List Text)
  | [] => return []
  | entry :: rest => do
    if (← machine.isFileEntry entry) && isStylesheet entry then
      notePartial machine entry.lossy
      return entry.lossy :: (← stylesheetsAmong rest)
    else
      stylesheetsAmong rest

/-- The stylesheets that an input stands for. -/
def expand (deep : Bool) (input : Text) : m (List Text) := do
  if ← machine.isFolder input then
    stylesheetsAmong machine (← machine.walk deep input)
  else
    return [input]

/-- The stylesheets that a list of inputs stands for. -/
def collect (deep : Bool) : List Text → m (List Text)
  | [] => return []
  | input :: rest => do
    let first ← expand machine deep input
    return first ++ (← collect deep rest)

end Scss.Inputs

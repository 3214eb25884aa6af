import Scss.Scan
import Scss.Text.Word

/-!
# Variables

A variable is written as a dollar sign and a name, and its token is as long as the name goes on: in
a text, `$color` never counts as `$c` with something behind it. Names keep their dollar sign
everywhere.

* `Binding`: a variable and its value.
* `Variable.token`: the pattern of a variable.
* `Variable.usages`: the variables that a text mentions, each once.
* `Variable.substitute`, `Variable.substituteAll`: replacing one variable, and one after another.
* `Variable.isName`: whether a text is the name of a variable, sign included.
-/

namespace Scss

/-- A variable together with the value it stands for. -/
structure Binding where
  /-- The variable, with its sign. -/
  name : Text
  /-- What it stands for. -/
  value : Text
deriving DecidableEq

namespace Variable

/-- The sign in front of a variable's name. -/
def sigil : Char := '$'

/-- The characters of a name: hyphens and word characters. -/
def isNameChar (c : Char) : Bool :=
  c == '-' || Text.isWord c

/-- The variable at the front of a text: the sign and the longest run of name characters behind it,
which must not be empty. -/
def read? : Text → Option (Text × Text)
  | [] => none
  | c :: s =>
    if c = sigil then
      let run := s.takeWhile isNameChar
      if run.isEmpty then none else some (c :: run, s.dropWhile isNameChar)
    else none

/-- A variable consumes at least its sign. -/
theorem read?_shorter {s a r : Text} (h : read? s = some (a, r)) : r.length < s.length := by
  cases s with
  | nil => simp [read?] at h
  | cons c t =>
    simp only [read?] at h
    split at h
    · split at h
      · cases h
      · cases h
        exact Nat.lt_succ_of_le (Text.length_dropWhile_le _ t)
    · cases h

/-- The pattern of a variable. -/
def token : Pattern Text where
  read? := read?
  shorter := read?_shorter

/-- The variables that a text mentions, each once, in the order of their first mention. -/
def usages (s : Text) : List Text :=
  (token.found s).eraseDups

/-- The text with every mention of one variable replaced by a value. -/
def substitute (name value : Text) (s : Text) : Text :=
  token.replace (fun t => if t = name then value else t) s

/-- Substitution of one variable after another, each in the whole text that the ones before it
left. -/
def substituteAll (bindings : List Binding) (s : Text) : Text :=
  bindings.foldl (fun text b => substitute b.name b.value text) s

/-- Whether the text is one variable from its first character to its last. -/
def isName (s : Text) : Bool :=
  match read? s with
  | some (_, rest) => rest.isEmpty
  | none => false

end Variable

end Scss

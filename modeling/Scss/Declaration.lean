import Scss.Variable
import Scss.Text.Basic

/-!
# Declarations

A declaration binds a variable to a value: `$name: value;`. Blanks may stand around the colon; the
value runs to the next semicolon on the same line and does not end in other space than blanks. A
declaration takes the space behind its semicolon with it.

* `Declaration.read?`: the declaration at the front of a text.
* `Declaration.all`: the bindings that a text declares, in the order they are written.
* `Declaration.strip`: the text without them.
* `Declaration.render`: the plain spelling of a declaration.
-/

namespace Scss.Declaration

/-- The characters that a value may hold. -/
def isValueChar (c : Char) : Bool :=
  c != ';' && c != '\n'

/-- The value in the region between the colon and the semicolon: something must be left when blanks
at the end are dropped, and it must not end in space. -/
def value? (region : Text) : Option Text :=
  match (Text.dropEndWhile Text.isBlank region).getLast? with
  | some last => if Text.isSpace last then none else some (Text.trim region)
  | none => none

/-- The declaration at the front of a text. -/
def read? (s : Text) : Option (Binding × Text) :=
  match Variable.read? s with
  | none => none
  | some (name, afterName) =>
    match afterName.dropWhile Text.isBlank with
    | ':' :: afterColon =>
      match afterColon.dropWhile isValueChar with
      | ';' :: rest =>
        match value? (afterColon.takeWhile isValueChar) with
        | some value => some (⟨name, value⟩, rest.dropWhile Text.isSpace)
        | none => none
      | _ => none
    | _ => none

/-- A declaration consumes at least the sign of its variable. -/
theorem read?_shorter {s : Text} {b : Binding} {r : Text} (h : read? s = some (b, r)) :
    r.length < s.length := by
  unfold read? at h
  split at h
  · cases h
  next name afterName hname =>
  split at h
  next afterColon hcolon =>
    split at h
    next rest hrest =>
      split at h
      · cases h
        have h₁ := Variable.read?_shorter hname
        have h₂ := Text.length_dropWhile_le Text.isBlank afterName
        have h₃ := Text.length_dropWhile_le isValueChar afterColon
        have h₄ := Text.length_dropWhile_le Text.isSpace rest
        rw [hcolon] at h₂
        rw [hrest] at h₃
        simp only [List.length_cons] at h₂ h₃
        omega
      · cases h
    · cases h
  · cases h

/-- The pattern of a declaration. -/
def pattern : Pattern Binding where
  read? := read?
  shorter := read?_shorter

/-- The bindings that a text declares, in the order they are written and with repetitions. -/
def all (s : Text) : List Binding :=
  pattern.found s

/-- The text without its declarations. -/
def strip (s : Text) : Text :=
  pattern.replace (fun _ => []) s

/-- The plain spelling of a declaration, on a line of its own. -/
def render (b : Binding) : Text :=
  b.name ++ [':', ' '] ++ b.value ++ [';', '\n']

/-- Declarations in their plain spelling, one line each. -/
def renderAll (bs : List Binding) : Text :=
  bs.flatMap render

end Scss.Declaration

import Scss.Scan
import Scss.Text.Word

/-!
# Imports

An import names a stylesheet between apostrophes: an at sign, the word import, one space, the name
and a semicolon directly behind it. Names hold word characters, hyphens and dots.

* `Import.read?`: the import at the front of a text.
* `Import.scan`: the names that a text imports, in order and with repetitions.
-/

namespace Scss.Import

/-- What stands in front of an imported name. -/
def opening : Text :=
  "@import '".toList

/-- What stands behind an imported name. -/
def closing : Text :=
  "';".toList

/-- The characters of an imported name: word characters, hyphens and dots. -/
def isNameChar (c : Char) : Bool :=
  c == '-' || c == '.' || Text.isWord c

/-- The imported name at the front of a text. -/
def read? (s : Text) : Option (Text × Text) :=
  match Text.after? opening s with
  | none => none
  | some t =>
    match Text.after? closing (t.dropWhile isNameChar) with
    | some rest =>
      let name := t.takeWhile isNameChar
      if name.isEmpty then none else some (name, rest)
    | none => none

/-- An import consumes at least what stands in front of its name. -/
theorem read?_shorter {s name r : Text} (h : read? s = some (name, r)) :
    r.length < s.length := by
  unfold read? at h
  split at h
  · cases h
  next t ht =>
  split at h
  next rest hrest =>
    simp only at h
    split at h
    · cases h
    · cases h
      have h₁ := congrArg List.length (Text.after?_eq_some_iff.1 ht)
      have h₂ := congrArg List.length (Text.after?_eq_some_iff.1 hrest)
      have h₃ := Text.length_dropWhile_le isNameChar t
      have h₄ : opening.length = 9 := rfl
      rw [List.length_append] at h₁ h₂
      omega
  · cases h

/-- The pattern of an import. -/
def pattern : Pattern Text where
  read? := read?
  shorter := read?_shorter

/-- The names that a text imports, in order and with repetitions. -/
def scan (s : Text) : List Text :=
  pattern.found s

end Scss.Import

import Scss.Text.Hidden

/-!
# Wording

What the texts that are printed have in common: how the program calls itself, and how a text is quoted
in a spelling that shows every character. Two parts of the output are not fixed by what was asked for:
how long something took, and the detail that follows the report of a malformed file. Everything that is
printed leaves their wording open.

* `programName`, `programVersion`, `programPurpose`: the program.
* `Text.quoted`: a text between double quotes.
* `Wording`: how the two open parts are worded; `Wording.plain`: as they are.
-/

namespace Scss

/-- The name of the program. -/
def programName : String := "scssc"

/-- Its version. -/
def programVersion : String := "0.1.0"

/-- What it is for. -/
def programPurpose : String :=
  "Minimal SCSS preprocessor - resolve variables and validate imports into plain CSS"

namespace Text

/-- The digits of a number in lower-case hexadecimal, without leading zeros. -/
def hex (n : Nat) : String :=
  String.ofList (Nat.toDigits 16 n)

/-- How one character is spelled inside a quoted text. -/
def spelled (c : Char) : String :=
  if c == Char.ofNat 0 then "\\0"
  else if c == '\t' then "\\t"
  else if c == '\r' then "\\r"
  else if c == '\n' then "\\n"
  else if c == '\\' then "\\\\"
  else if c == '"' then "\\\""
  else if isHidden c then "\\u\x7b" ++ hex c.toNat ++ "\x7d"
  else String.singleton c

/-- The text between double quotes, every character spelled so that it shows. -/
def quoted (s : Text) : String :=
  "\"" ++ String.join (s.map spelled) ++ "\""

end Text

/-- How the variable parts of the output are worded. -/
structure Wording where
  /-- A time in milliseconds. -/
  time : Nat → String
  /-- The detail of a report. -/
  detail : String → String

/-- Times in digits and details as they are. -/
def Wording.plain : Wording where
  time n := toString n
  detail d := d

end Scss

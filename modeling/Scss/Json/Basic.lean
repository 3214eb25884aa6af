import Scss.Text.Reader

/-!
# JSON values

Strings are kept as they are spelled between their quotes, since a spelling need not stand for a
text: an escape can name half of a surrogate pair. `decode?` gives the text where there is one, and
`spell` the spelling that is written.

* `Json`: the values.
* `Json.spell`, `Json.decode?`: between texts and their spelling.
* `Json.pretty`: a value over several lines.
-/

namespace Scss

/-- A JSON value. -/
inductive Json where
  | null
  | bool (b : Bool)
  /-- A number, as it is spelled. -/
  | number (spelled : Text)
  /-- A string, as it is spelled. -/
  | string (spelled : Text)
  | array (items : List Json)
  /-- An object: its members, in order and with repetitions, their names as they are spelled. -/
  | object (members : List (Text × Json))

namespace Json

/-- The spelling of one character in a string. -/
def spellChar (c : Char) : Text :=
  if c == '"' then ['\\', '"']
  else if c == '\\' then ['\\', '\\']
  else if c == '\n' then ['\\', 'n']
  else if c == '\r' then ['\\', 'r']
  else if c == '\t' then ['\\', 't']
  else if c.toNat == 0x08 then ['\\', 'b']
  else if c.toNat == 0x0c then ['\\', 'f']
  else if c.toNat < 0x20 then
    ['\\', 'u', '0', '0'] ++ (if c.toNat < 0x10 then ['0'] else []) ++ Nat.toDigits 16 c.toNat
  else [c]

/-- The spelling of a text: quotes, backslashes and controls are escaped, all else stands as it
is. -/
def spell (s : Text) : Text :=
  s.flatMap spellChar

/-- The character that a letter stands for behind a backslash. -/
def escaped? (c : Char) : Option Char :=
  if c == '"' || c == '\\' || c == '/' then some c
  else if c == 'b' then some (Char.ofNat 0x08)
  else if c == 'f' then some (Char.ofNat 0x0c)
  else if c == 'n' then some '\n'
  else if c == 'r' then some '\r'
  else if c == 't' then some '\t'
  else none

/-- The code point of a surrogate pair. -/
def pairCode (high low : Nat) : Nat :=
  0x10000 + (high - 0xd800) * 0x400 + (low - 0xdc00)

/-- The text that a spelling stands for. A surrogate counts only as part of a pair. -/
def decode? : Text → Option Text
  | [] => some []
  | '\\' :: 'u' :: a :: b :: c :: d :: rest =>
    match hexNumber? [a, b, c, d] with
    | none => none
    | some high =>
      if 0xd800 ≤ high ∧ high ≤ 0xdbff then
        match rest with
        | '\\' :: 'u' :: a' :: b' :: c' :: d' :: rest' =>
          match hexNumber? [a', b', c', d'] with
          | none => none
          | some low =>
            if 0xdc00 ≤ low ∧ low ≤ 0xdfff then
              (decode? rest').map (Char.ofNat (pairCode high low) :: ·)
            else none
        | _ => none
      else
        match charOfCode? high, decode? rest with
        | some ch, some t => some (ch :: t)
        | _, _ => none
  | '\\' :: c :: rest =>
    match escaped? c, decode? rest with
    | some ch, some t => some (ch :: t)
    | _, _ => none
  | c :: rest => if c = '\\' then none else (decode? rest).map (c :: ·)

/-- The string value of a text. -/
def ofText (s : Text) : Json :=
  string (spell s)

/-- A line end with the indentation of a depth. -/
def line (depth : Nat) : Text :=
  '\n' :: List.replicate (2 * depth) ' '

/-- A string as it is written: its spelling between quotes. -/
def written (spelled : Text) : Text :=
  '"' :: spelled ++ ['"']

mutual

/-- A value over several lines, its inner lines at `depth + 1`. -/
def prettyAt (depth : Nat) : Json → Text
  | null => "null".toList
  | bool true => "true".toList
  | bool false => "false".toList
  | number spelled => spelled
  | string spelled => written spelled
  | array [] => ['[', ']']
  | array (item :: items) =>
    '[' :: line (depth + 1) ++ prettyAt (depth + 1) item ++ prettyItems depth items ++
      line depth ++ [']']
  | object [] => ['{', '}']
  | object ((name, value) :: members) =>
    '{' :: line (depth + 1) ++ written name ++ [':', ' '] ++ prettyAt (depth + 1) value ++
      prettyMembers depth members ++ line depth ++ ['}']

/-- The items of an array behind the first one. -/
def prettyItems (depth : Nat) : List Json → Text
  | [] => []
  | item :: items =>
    ',' :: line (depth + 1) ++ prettyAt (depth + 1) item ++ prettyItems depth items

/-- The members of an object behind the first one. -/
def prettyMembers (depth : Nat) : List (Text × Json) → Text
  | [] => []
  | (name, value) :: members =>
    ',' :: line (depth + 1) ++ written name ++ [':', ' '] ++ prettyAt (depth + 1) value ++
      prettyMembers depth members

end

/-- A value over several lines, two spaces for each level. -/
def pretty (j : Json) : Text :=
  j.prettyAt 0

end Json

end Scss

import Scss.Json.Basic

/-!
# Reading JSON

The grammar of JSON and nothing beyond it: no comments, no comma behind the last item, no other
white space than the four characters. Depth is not limited.

* `Json.parse?`: the value that a text spells.
-/

namespace Scss.Json

/-- The white space between tokens. -/
def isGap (c : Char) : Bool :=
  c == ' ' || c == '\t' || c == '\n' || c == '\r'

/-- Passes over white space. -/
def gap : Reader Unit :=
  discard (Reader.run isGap)

/-- The spelling of a string behind its opening quote, and what follows the closing one. Controls
cannot stand in a string, and a backslash starts one of the known escapes. -/
def stringRest : Text → Option (Text × Text)
  | [] => none
  | '"' :: rest => some ([], rest)
  | '\\' :: 'u' :: a :: b :: c :: d :: rest =>
    if (hexNumber? [a, b, c, d]).isSome then
      (stringRest rest).map fun r => ('\\' :: 'u' :: a :: b :: c :: d :: r.1, r.2)
    else none
  | '\\' :: c :: rest =>
    if (escaped? c).isSome then (stringRest rest).map fun r => ('\\' :: c :: r.1, r.2) else none
  | c :: rest =>
    if c = '\\' ∨ c.toNat < 0x20 then none else (stringRest rest).map fun r => (c :: r.1, r.2)

/-- The spelling of a string, behind its opening quote. -/
def stringBody : Reader Text :=
  fun s => stringRest s

/-- The part of a number before its point: no zero in front of other digits. -/
def wholePart : Reader Text := do
  let digits ← Reader.run1 isDigit
  match digits with
  | '0' :: _ :: _ => failure
  | _ => return digits

/-- The part of a number behind its point, if there is one. -/
def fractionPart : Reader Text := do
  if ← Reader.accept '.' then
    return '.' :: (← Reader.run1 isDigit)
  else
    return []

/-- The exponent of a number, if there is one. -/
def exponentPart : Reader Text := do
  let lower ← Reader.accept 'e'
  let upper ← if lower then pure false else Reader.accept 'E'
  if lower || upper then
    let plus ← Reader.accept '+'
    let minus ← if plus then pure false else Reader.accept '-'
    let digits ← Reader.run1 isDigit
    let sign := if plus then ['+'] else if minus then ['-'] else []
    return (if upper then 'E' else 'e') :: sign ++ digits
  else
    return []

/-- A number, as it is spelled. -/
def numberText : Reader Text := do
  let minus ← Reader.accept '-'
  let digits ← wholePart
  let fraction ← fractionPart
  let exponent ← exponentPart
  return (if minus then ['-'] else []) ++ digits ++ fraction ++ exponent

mutual

/-- A value, with a bound on the depth and the number of items. -/
def value : Nat → Reader Json
  | 0 => failure
  | fuel + 1 => do
    gap
    match ← Reader.peek with
    | some '"' => do
      Reader.char '"'
      return string (← stringBody)
    | some '[' => do
      Reader.char '['
      gap
      if ← Reader.accept ']' then return array [] else return array (← items fuel)
    | some '{' => do
      Reader.char '{'
      gap
      if ← Reader.accept '}' then return object [] else return object (← members fuel)
    | some 'n' => do
      Reader.word "null".toList
      return null
    | some 't' => do
      Reader.word "true".toList
      return bool true
    | some 'f' => do
      Reader.word "false".toList
      return bool false
    | _ => return number (← numberText)

/-- The items of an array up to its closing bracket. -/
def items : Nat → Reader (List Json)
  | 0 => failure
  | fuel + 1 => do
    let item ← value fuel
    gap
    if ← Reader.accept ',' then return item :: (← items fuel)
    Reader.char ']'
    return [item]

/-- The members of an object up to its closing brace. -/
def members : Nat → Reader (List (Text × Json))
  | 0 => failure
  | fuel + 1 => do
    gap
    Reader.char '"'
    let name ← stringBody
    gap
    Reader.char ':'
    let item ← value fuel
    gap
    if ← Reader.accept ',' then return (name, item) :: (← members fuel)
    Reader.char '}'
    return [(name, item)]

end

/-- A document: one value with white space around it. -/
def document (fuel : Nat) : Reader Json := do
  let j ← value fuel
  gap
  return j

/-- The value that a text spells. Each level of nesting takes at least one character, so the bound is
never reached. -/
def parse? (s : Text) : Option Json :=
  Reader.whole (document (2 * s.length + 2)) s

end Scss.Json

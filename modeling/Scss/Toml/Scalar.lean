import Scss.Text.Basic
import Scss.Toml.Basic

/-!
# Scalars of TOML

Strings in their four spellings, numbers, truth values and dates.

* `Toml.string`: a string in any of the four spellings.
* `Toml.number`: dates, floats and integers, tried in this order.
* `Toml.overflows`: whether a decimal number is too large for a float.
-/

namespace Scss.Toml

/-- The end of a line: a line feed, with or without a carriage return in front of it. -/
def newline : Reader Unit := do
  discard (Reader.accept '\r')
  Reader.char '\n'

/-- Characters that may stand in comments and strings: the tab, and everything but controls. -/
def isPlain (c : Char) : Bool :=
  let n := c.toNat
  n == 0x09 || (0x20 ≤ n && n != 0x7f)

/-- Drops blanks and line ends. A carriage return counts only in front of a line feed. -/
def dropLines : Text → Text
  | '\r' :: '\n' :: rest => dropLines rest
  | c :: rest => if Text.isBlank c || c == '\n' then dropLines rest else c :: rest
  | [] => []

/-- A character given by this many hexadecimal digits. -/
def code : Nat → Reader Char :=
  fun n s =>
    let digits := s.take n
    if digits.length < n then none
    else
      match (hexNumber? digits).bind charOfCode? with
      | some c => some (c, s.drop n)
      | none => none

/-- The character of an escape, behind its backslash. -/
def escape : Reader Char := do
  match ← Reader.next with
  | 'b' => return Char.ofNat 0x08
  | 't' => return '\t'
  | 'n' => return '\n'
  | 'f' => return Char.ofNat 0x0c
  | 'r' => return '\r'
  | '"' => return '"'
  | '\\' => return '\\'
  | 'u' => code 4
  | 'U' => code 8
  | _ => failure

/-- A line end that is escaped: a backslash, read already, blanks, the line end, and everything up to
the next character that is not blank. -/
def escapedNewline : Reader Unit := do
  discard (Reader.run Text.isBlank)
  newline
  modify dropLines

/-- A basic string on one line, behind its opening quote. -/
def basicRest : Nat → Reader Text
  | 0 => failure
  | fuel + 1 => do
    let c ← Reader.next
    if c == '"' then return []
    else if c == '\\' then
      let d ← escape
      return d :: (← basicRest fuel)
    else if isPlain c then return c :: (← basicRest fuel)
    else failure

/-- A literal string on one line, behind its opening apostrophe. -/
def literalRest : Reader Text := do
  let text ← Reader.run fun c => isPlain c && c != '\x27'
  Reader.char '\x27'
  return text

/-- A string over several lines, behind its opening quotes. Up to two quotes may stand directly in
front of the three that close it. -/
def multilineRest (quote : Char) (escapes : Bool) : Nat → Reader Text
  | 0 => failure
  | fuel + 1 => do
    let quotes ← Reader.run (· == quote)
    if 5 < quotes.length then failure
    else if 3 ≤ quotes.length then return quotes.drop 3
    else
      let c ← Reader.next
      if c == '\n' then
        return quotes ++ '\n' :: (← multilineRest quote escapes fuel)
      else if c == '\r' then
        Reader.char '\n'
        return quotes ++ '\n' :: (← multilineRest quote escapes fuel)
      else if escapes && c == '\\' then
        let before ← get
        match escapedNewline before with
        | some (_, after) =>
          set after
          return quotes ++ (← multilineRest quote escapes fuel)
        | none =>
          let d ← escape
          return quotes ++ d :: (← multilineRest quote escapes fuel)
      else if isPlain c then return quotes ++ c :: (← multilineRest quote escapes fuel)
      else failure

/-- A loop with a bound that the text cannot use up: each round takes a character. -/
def bounded {α : Type} (loop : Nat → Reader α) : Reader α :=
  fun s => loop (s.length + 1) s

/-- A string over several lines, behind its opening quotes. A line end directly behind them does not
count. -/
def multiline (quote : Char) (escapes : Bool) : Reader Text := do
  let s ← get
  match newline s with
  | some (_, rest) => set rest
  | none => pure ()
  bounded (multilineRest quote escapes)

/-- A string on one line. -/
def lineString : Reader Text := do
  match ← Reader.next with
  | '"' => bounded basicRest
  | '\x27' => literalRest
  | _ => failure

/-- A string in any spelling. -/
def string : Reader Text := do
  if ← Reader.acceptWord ['"', '"', '"'] then multiline '"' true
  else if ← Reader.acceptWord ['\x27', '\x27', '\x27'] then multiline '\x27' false
  else lineString

/-- Digits of a kind, with single underscores between them. -/
def digitsRest (p : Char → Bool) : Nat → Reader Text
  | 0 => failure
  | fuel + 1 => do
    let run ← Reader.run1 p
    if ← Reader.accept '_' then return run ++ (← digitsRest p fuel) else return run

/-- One or more digits of a kind, with single underscores between them, which are dropped. -/
def digits (p : Char → Bool) : Reader Text :=
  bounded (digitsRest p)

/-- A sign, if there is one. -/
def sign : Reader Text := do
  if ← Reader.accept '+' then return ['+']
  else if ← Reader.accept '-' then return ['-']
  else return []

/-- The digits of a decimal integer. A zero stands in front of no other digit. -/
def decimalDigits : Reader Text := do
  if ← Reader.accept '0' then return ['0'] else digits isDigit

/-- The number that decimal digits spell. -/
def decimalValue (ds : Text) : Nat :=
  ds.foldl (fun n c => 10 * n + (c.toNat - 0x30)) 0

/-- Whether mantissa times ten to the power of `exponent` is too large for a float: whether it would
be rounded to infinity. -/
def overflows (mantissa : Nat) (exponent : Int) : Bool :=
  let magnitude := (Nat.toDigits 10 mantissa).length + exponent
  if mantissa == 0 || magnitude < 300 then false
  else if 320 < magnitude then true
  else
    let limit := Nat.pow 2 1024 - Nat.pow 2 970
    if 0 ≤ exponent then limit ≤ mantissa * Nat.pow 10 exponent.toNat
    else limit * Nat.pow 10 (-exponent).toNat ≤ mantissa

/-- The part of a float behind its point, if there is one. -/
def fraction : Reader (Option Text) := do
  if ← Reader.accept '.' then return some (← digits isDigit) else return none

/-- The exponent of a float, if there is one. -/
def exponent : Reader (Option (Text × Text)) := do
  let lower ← Reader.accept 'e'
  let upper ← if lower then pure false else Reader.accept 'E'
  if lower || upper then return some (← sign, ← digits isDigit) else return none

/-- A decimal number with a fraction or an exponent that does not grow beyond all floats. -/
def decimalFloat : Reader Item := do
  let s ← sign
  let front ← decimalDigits
  let back ← fraction
  let scale ← exponent
  if back.isNone && scale.isNone then failure
  let behind := back.getD []
  let power : Int :=
    match scale with
    | some (['-'], ds) => - (decimalValue ds : Int)
    | some (_, ds) => decimalValue ds
    | none => 0
  if s != ['-'] && overflows (decimalValue (front ++ behind)) (power - behind.length) then failure
  return .float (s ++ front ++ '.' :: behind)

/-- Infinity or no number. -/
def specialFloat : Reader Item := do
  let s ← sign
  if ← Reader.acceptWord "inf".toList then return .float (s ++ "inf".toList)
  Reader.word "nan".toList
  return .float (s ++ "nan".toList)

/-- The number that digits spell in a base. -/
def valueIn (base : Nat) (ds : Text) : Nat :=
  ds.foldl (fun n c => base * n + (hexValue? c).getD 0) 0

/-- The largest integer. -/
def largest : Nat :=
  Nat.pow 2 63 - 1

/-- An integer in a base other than ten, behind the letters that announce it. -/
def basedInteger (base : Nat) : Reader Item := do
  let ds ← digits fun c => (hexValue? c).any (· < base)
  let n := valueIn base ds
  if largest < n then failure
  return .integer n

/-- A decimal integer. -/
def decimalInteger : Reader Item := do
  let s ← sign
  let n := decimalValue (← decimalDigits)
  if s == ['-'] then
    if largest + 1 < n then failure
    return .integer (-n)
  else
    if largest < n then failure
    return .integer n

/-- An integer. -/
def integer : Reader Item := do
  if ← Reader.acceptWord ['0', 'x'] then basedInteger 16
  else if ← Reader.acceptWord ['0', 'o'] then basedInteger 8
  else if ← Reader.acceptWord ['0', 'b'] then basedInteger 2
  else decimalInteger

/-- Exactly this many digits, whose value lies between two bounds. -/
def field (width low high : Nat) : Reader Text :=
  fun s =>
    let ds := s.take width
    let n := decimalValue ds
    if ds.length == width && ds.all isDigit && low ≤ n && n ≤ high then some (ds, s.drop width)
    else none

/-- The number of days of a month. -/
def daysIn (year month : Nat) : Nat :=
  if month == 2 then
    if year % 4 == 0 && (year % 100 != 0 || year % 400 == 0) then 29 else 28
  else if month == 4 || month == 6 || month == 9 || month == 11 then 30
  else 31

/-- A date. -/
def fullDate : Reader Text := do
  let year ← field 4 0 9999
  Reader.char '-'
  let month ← field 2 1 12
  Reader.char '-'
  let day ← field 2 1 31
  if daysIn (decimalValue year) (decimalValue month) < decimalValue day then failure
  return year ++ '-' :: month ++ '-' :: day

/-- The fraction of a second in the standard spelling: at most nine digits, no zero at the end. -/
def secondFraction : Reader Text := do
  if ← Reader.accept '.' then
    let ds ← Reader.run1 isDigit
    let kept := Text.dropEndWhile (· == '0') (ds.take 9)
    return if kept.isEmpty then [] else '.' :: kept
  else
    return []

/-- A time of day. -/
def timeOfDay : Reader Text := do
  let hour ← field 2 0 23
  Reader.char ':'
  let minute ← field 2 0 59
  Reader.char ':'
  let second ← field 2 0 60
  return hour ++ ':' :: minute ++ ':' :: second ++ (← secondFraction)

/-- A distance from universal time. A distance of nothing counts as positive. -/
def offset : Reader Text := do
  match ← Reader.next with
  | 'Z' | 'z' => return ['Z']
  | '+' => return '+' :: (← hoursAndMinutes)
  | '-' => do
    let text ← hoursAndMinutes
    return (if text == ['0', '0', ':', '0', '0'] then '+' else '-') :: text
  | _ => failure
where
  hoursAndMinutes : Reader Text := do
    let hour ← field 2 0 23
    Reader.char ':'
    return hour ++ ':' :: (← field 2 0 59)

/-- What may follow a date: a time, with or without an offset. -/
def timeBehindDate : Reader Text := do
  discard (Reader.satisfy fun c => c == 'T' || c == 't' || c == ' ')
  let time ← timeOfDay
  let shift ← offset <|> pure []
  return 'T' :: time ++ shift

/-- A date, a date with a time, or a time. -/
def date : Reader Item := do
  let day ← fullDate
  let time ← timeBehindDate <|> pure []
  return .date (day ++ time)

/-- A date, a time or a number. -/
def number : Reader Item :=
  date <|> (Item.date <$> timeOfDay) <|> decimalFloat <|> specialFloat <|> integer

/-- A truth value. -/
def truth : Reader Item := do
  if ← Reader.acceptWord "true".toList then return .bool true
  Reader.word "false".toList
  return .bool false

end Scss.Toml

import Scss.Text.Basic

/-!
# Readers

A reader takes something from the front of a text, or fails. Readers are run one after another, each
on what the one before it left; where one fails, another can be tried on the same text.

* `Reader`: readers of values of a type.
* `Reader.next`, `Reader.char`, `Reader.accept`, `Reader.run`: the readers of single characters and
  of runs of them.
-/

namespace Scss

/-- A way to take a value from the front of a text, which may fail. -/
abbrev Reader := StateT Text Option

namespace Reader

/-- The next character. -/
def next : Reader Char
  | [] => none
  | c :: rest => some (c, rest)

/-- The next character, left where it is; nothing at the end. -/
def peek : Reader (Option Char) :=
  fun s => some (s.head?, s)

/-- The next character, which must satisfy `p`. -/
def satisfy (p : Char → Bool) : Reader Char
  | [] => none
  | c :: rest => if p c then some (c, rest) else none

/-- The given character. -/
def char (c : Char) : Reader Unit :=
  fun s => (satisfy (· == c) s).map fun r => ((), r.2)

/-- Takes the given character if it comes next, and tells whether it did. -/
def accept (c : Char) : Reader Bool
  | [] => some (false, [])
  | d :: rest => if d = c then some (true, rest) else some (false, d :: rest)

/-- The longest run of characters that satisfy `p`, which may be empty. -/
def run (p : Char → Bool) : Reader Text :=
  fun s => some (s.takeWhile p, s.dropWhile p)

/-- The longest run of characters that satisfy `p`, which must not be empty. -/
def run1 (p : Char → Bool) : Reader Text :=
  fun s => if (s.takeWhile p).isEmpty then none else some (s.takeWhile p, s.dropWhile p)

/-- The given text. -/
def word (opening : Text) : Reader Unit :=
  fun s => (Text.after? opening s).map fun rest => ((), rest)

/-- Takes the given text if it comes next, and tells whether it did. -/
def acceptWord (opening : Text) : Reader Bool :=
  fun s =>
    match Text.after? opening s with
    | some rest => some (true, rest)
    | none => some (false, s)

/-- The end of the text. -/
def finish : Reader Unit
  | [] => some ((), [])
  | _ :: _ => none

/-- What a reader takes from a text, if it takes all of it. -/
def whole {α : Type} (r : Reader α) (s : Text) : Option α :=
  match StateT.run r s with
  | some (a, []) => some a
  | _ => none

end Reader

/-- The value of a hexadecimal digit. -/
def hexValue? (c : Char) : Option Nat :=
  let n := c.toNat
  if 0x30 ≤ n && n ≤ 0x39 then some (n - 0x30)
  else if 0x41 ≤ n && n ≤ 0x46 then some (n - 0x37)
  else if 0x61 ≤ n && n ≤ 0x66 then some (n - 0x57)
  else none

/-- The number that hexadecimal digits spell. -/
def hexNumber? (digits : Text) : Option Nat :=
  digits.foldlM (fun n c => (hexValue? c).map (16 * n + ·)) 0

/-- The character of a code point, unless the number stands for none. -/
def charOfCode? (n : Nat) : Option Char :=
  if Nat.isValidChar n then some (Char.ofNat n) else none

/-- The decimal digits. -/
def isDigit (c : Char) : Bool :=
  let n := c.toNat
  0x30 ≤ n && n ≤ 0x39

end Scss

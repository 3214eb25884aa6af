import Scss.Toml.Scalar

/-!
# Reading TOML

The lines of a document: headers, keys with their items, comments and empty lines. Arrays may run
over several lines, tables between braces may not. Items nest at most 79 levels deep and a key has
fewer than 80 parts.

* `Toml.parse?`: the table that a text spells.
-/

namespace Scss.Toml

/-- The number of parts or levels at which a document is refused. -/
def depthLimit : Nat := 80

/-- Passes over blanks. -/
def blanks : Reader Unit :=
  discard (Reader.run Text.isBlank)

/-- A comment, up to the end of its line. -/
def comment : Reader Unit := do
  Reader.char '#'
  discard (Reader.run isPlain)

/-- The end of a line or of the document. -/
def lineEnd : Reader Unit :=
  newline <|> Reader.finish

/-- What may stand behind the last word of a line: blanks, a comment and the end. -/
def lineRest : Reader Unit := do
  blanks
  if (← Reader.peek) == some '#' then comment
  lineEnd

/-- Blanks, comments and line ends between the items of an array. -/
def gapRest : Nat → Reader Unit
  | 0 => failure
  | fuel + 1 => do
    blanks
    match ← Reader.peek with
    | some '#' => do
      comment
      newline
      gapRest fuel
    | some '\n' | some '\r' => do
      newline
      gapRest fuel
    | _ => return ()

/-- Blanks, comments and line ends between the items of an array. -/
def gap : Reader Unit :=
  bounded gapRest

/-- The characters of a key without quotes. -/
def isBare (c : Char) : Bool :=
  c.isAlphanum || c == '_' || c == '-'

/-- One part of a key. -/
def keyPart : Reader Text := do
  match ← Reader.peek with
  | some '"' | some '\x27' => lineString
  | _ => Reader.run1 isBare

/-- The parts of a key, with dots between them and blanks around them. -/
def keyParts : Nat → Reader (List Text)
  | 0 => failure
  | fuel + 1 => do
    blanks
    let part ← keyPart
    blanks
    if ← Reader.accept '.' then return part :: (← keyParts fuel) else return [part]

/-- A key: the path that leads to it and its last part. -/
def key : Reader (List Text × Text) := do
  let parts ← bounded keyParts
  if depthLimit ≤ parts.length then failure
  match parts.getLast? with
  | some last => return (parts.dropLast, last)
  | none => failure

/-- The items of an array up to its closing bracket. -/
def arrayRest (item : Reader Item) : Nat → Reader (List Item)
  | 0 => failure
  | fuel + 1 => do
    gap
    if ← Reader.accept ']' then return []
    let first ← item
    gap
    if ← Reader.accept ',' then return first :: (← arrayRest item fuel)
    Reader.char ']'
    return [first]

/-- A key, an equals sign and an item. -/
def keyAndItem (item : Reader Item) : Reader (List Text × Text × Item) := do
  let (path, last) ← key
  Reader.char '='
  blanks
  return (path, last, ← item)

/-- The entries of a table between braces up to the closing one, when there is at least one. -/
def entriesRest (item : Reader Item) : Nat → Reader (List (List Text × Text × Item))
  | 0 => failure
  | fuel + 1 => do
    let first ← keyAndItem item
    blanks
    if ← Reader.accept ',' then return first :: (← entriesRest item fuel)
    Reader.char '}'
    return [first]

/-- The entries of a table between braces, behind the opening one. -/
def inlineRest (item : Reader Item) : Reader Item := do
  blanks
  let entries ← do
    if ← Reader.accept '}' then pure [] else bounded (entriesRest item)
  match inlineOf? entries with
  | some t => return t
  | none => failure

/-- An item with at most `depth` levels of arrays and tables. -/
def item (depth : Nat) : Reader Item := do
  match ← Reader.peek, depth with
  | some '"', _ | some '\x27', _ => return .string (← string)
  | some '[', inner + 1 => do
    Reader.char '['
    return .array (← bounded (arrayRest (item inner)))
  | some '{', inner + 1 => do
    Reader.char '{'
    inlineRest (item inner)
  | some '[', 0 | some '{', 0 => failure
  | some 't', _ | some 'f', _ => truth
  | _, _ => number

/-- A header in double brackets, behind the brackets. -/
def elementRest : Reader Line := do
  let (path, last) ← key
  Reader.word [']', ']']
  lineRest
  return .element path last

/-- A header in single brackets, behind the bracket. -/
def headerRest : Reader Line := do
  let (path, last) ← key
  Reader.char ']'
  lineRest
  return .header path last

/-- The line of a key and its item. -/
def entryLine : Reader Line := do
  let (path, last, i) ← keyAndItem (item (depthLimit - 1))
  lineRest
  return .entry path last i

/-- A line, or nothing if it says nothing. -/
def line : Reader (Option Line) := do
  match ← Reader.peek with
  | some '#' => do
    comment
    lineEnd
    return none
  | some '\n' | some '\r' => do
    newline
    return none
  | some '[' => do
    if ← Reader.acceptWord ['[', '['] then return some (← elementRest)
    Reader.char '['
    return some (← headerRest)
  | _ => return some (← entryLine)

/-- The lines that say something, to the end of the text. -/
def linesRest : Nat → Reader (List Line)
  | 0 => failure
  | fuel + 1 => do
    blanks
    if (← Reader.peek).isNone then return []
    let first ← line
    return first.toList ++ (← linesRest fuel)

/-- The text without a byte order mark in front of it. -/
def withoutMark : Text → Text
  | [] => []
  | c :: rest => if c.toNat == 0xfeff then rest else c :: rest

/-- The table that a text spells. -/
def parse? (s : Text) : Option Table :=
  (Reader.whole (bounded linesRest) (withoutMark s)).bind ofLines?

end Scss.Toml

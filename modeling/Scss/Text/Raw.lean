import Scss.Text.Basic

/-!
# Raw names and paths

Names and paths of a system are bytes. Those that a program is given are the bytes of a text, but a
folder can hold entries whose names are no text. Such a name can still be shown as a text, in which
something else stands for the bytes that are no characters.

* `Text.bytes`: the bytes of a text.
* `Raw.lossy`: any bytes as a text.
-/

namespace Scss

/-- The bytes of a name or of a path. -/
abbrev Raw := List UInt8

/-- The bytes of a text in UTF-8. -/
def Text.bytes (s : Text) : Raw :=
  s.flatMap String.utf8EncodeChar

namespace Raw

/-- The character at the front of some bytes, if they begin with one. -/
def char? (b : Raw) : Option Char :=
  b.toByteArray.utf8DecodeChar? 0

/-- The character that stands for bytes that belong to no character. -/
def replacement : Char := Char.ofNat 0xfffd

/-- Whether a character of three or four bytes can begin with these two. -/
def canBegin (first second : UInt8) : Bool :=
  let least : UInt8 := if first == 0xe0 then 0xa0 else if first == 0xf0 then 0x90 else 0x80
  let greatest : UInt8 := if first == 0xed then 0x9f else if first == 0xf4 then 0x8f else 0xbf
  0xe0 ≤ first && first ≤ 0xf4 && least ≤ second && second ≤ greatest

/-- Whether a byte can be the third one of a character. -/
def canContinue (b : UInt8) : Bool :=
  0x80 ≤ b && b ≤ 0xbf

/-- How many bytes behind `first` are passed over together with it, where it begins no character: those
with which some character would go on. -/
def strayLength (first : UInt8) : Raw → Nat
  | [] => 0
  | second :: rest =>
    if canBegin first second then
      if 0xf0 ≤ first && rest.head?.any canContinue then 2 else 1
    else 0

/-- The text of some bytes behind the first `skipped` ones. -/
def lossyFrom : (skipped : Nat) → Raw → Text
  | _, [] => []
  | skipped + 1, _ :: rest => lossyFrom skipped rest
  | 0, first :: rest =>
    match char? (first :: rest) with
    | some c => c :: lossyFrom (c.utf8Size - 1) rest
    | none => replacement :: lossyFrom (strayLength first rest) rest

/-- The text of some bytes. Where they go on with no character, one replacement stands for the longest
beginning of a character that is there, or else for a single byte. -/
def lossy (b : Raw) : Text :=
  lossyFrom 0 b

end Raw

end Scss

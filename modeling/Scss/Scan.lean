import Scss.Text.Basic

/-!
# Scanning a text for a pattern

A pattern reads one item from the front of a text and consumes at least one character of it. A scan
walks the text from left to right: where the pattern reads something it takes the item and goes on
behind it, elsewhere it passes over one character. So items never overlap and none is skipped that
starts outside an earlier one.

* `Pattern.pieces`: the text cut into items and the characters between them.
* `Pattern.found`, `Pattern.replace`: the items alone, and the text with something else
  in their place.
-/

namespace Scss

/-- A way to read one item from the front of a text, which consumes at least one character. -/
structure Pattern (α : Type) where
  /-- The item at the front of the text and the text behind it, if there is one. -/
  read? : Text → Option (α × Text)
  /-- What is left is shorter than what there was. -/
  shorter : ∀ {s a r}, read? s = some (a, r) → r.length < s.length

/-- A part of a scanned text: an item, or a character that belongs to none. -/
inductive Piece (α : Type) where
  /-- A character at which no item starts. -/
  | plain (c : Char)
  /-- An item. -/
  | found (a : α)

namespace Pattern

variable {α : Type} (p : Pattern α)

/-- The text cut from left to right into items and the characters between them. -/
def pieces (s : Text) : List (Piece α) :=
  match s with
  | [] => []
  | c :: t =>
    match h : p.read? (c :: t) with
    | some (a, r) =>
      have := p.shorter h
      .found a :: pieces r
    | none => .plain c :: pieces t
termination_by s.length
decreasing_by
  · assumption
  · exact Nat.lt_succ_self _

/-- The items of a text, from left to right. -/
def found (s : Text) : List α :=
  (p.pieces s).filterMap fun
    | .plain _ => none
    | .found a => some a

/-- The text with every item written anew by `f`. -/
def replace (f : α → Text) (s : Text) : Text :=
  (p.pieces s).flatMap fun
    | .plain c => [c]
    | .found a => f a

@[simp] theorem pieces_nil : p.pieces [] = [] := by
  rw [pieces]

/-- Where the pattern reads an item, the scan takes it. -/
theorem pieces_of_some {s : Text} {a : α} {r : Text} (h : p.read? s = some (a, r)) :
    p.pieces s = .found a :: p.pieces r := by
  cases s with
  | nil => exact absurd (p.shorter h) (Nat.not_lt_zero _)
  | cons c t =>
    rw [pieces]
    split
    · next a' r' h' => rw [h] at h'; cases h'; rfl
    · next h' => rw [h] at h'; cases h'

/-- Where the pattern reads nothing, the scan passes over one character. -/
theorem pieces_of_none {c : Char} {t : Text} (h : p.read? (c :: t) = none) :
    p.pieces (c :: t) = .plain c :: p.pieces t := by
  rw [pieces]
  split
  · next h' => rw [h] at h'; cases h'
  · rfl

end Pattern

/-- Dropping a run never makes a text longer. -/
theorem Text.length_dropWhile_le (p : Char → Bool) (s : Text) :
    (s.dropWhile p).length ≤ s.length :=
  (List.dropWhile_suffix p).length_le

end Scss

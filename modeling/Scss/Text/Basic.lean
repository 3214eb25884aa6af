/-!
# Text

Sources, names, values and paths are lists of characters. This module fixes the operations on them
that are not already operations on lists: the size in bytes, the order, and cutting the ends off. Two
classes of blank characters occur: *blanks* are the space and the tab, and *space* is the whole
White_Space property, in which line ends and the wide spaces lie too.

* `Text.size`: the length of the UTF-8 form.
* `Text.before`: the strict order by code points, which is also the order of the UTF-8 bytes.
* `Text.before_irrefl`, `Text.before_trans`, `Text.before_or_before`: it is a strict total order.
* `Text.dropEndWhile`: the text without its longest end that satisfies a predicate.
* `Text.isSpace`, `Text.isBlank`: the classes of white space; `Text.isSpace_of_isBlank`: the first holds
  the second.
* `Text.trim`: the text without leading and trailing space.
* `Text.after?`, `Text.replaceFirst`: what follows an opening, and replacing the first occurrence;
  `Text.after?_eq_some_iff`: what follows is what is left.
-/

namespace Scss

/-- A text is a list of characters. -/
abbrev Text := List Char

namespace Text

/-- The text as a string, for output. -/
def str (s : Text) : String :=
  String.ofList s

/-- The number of bytes of the text in UTF-8. -/
def size : Text → Nat
  | [] => 0
  | c :: s => c.utf8Size + size s

/-- The strict lexicographic order by code points. -/
def before : Text → Text → Bool
  | _, [] => false
  | [], _ :: _ => true
  | a :: s, b :: t => a.toNat < b.toNat || (a == b && before s t)

/-- The text without its longest end made of characters that satisfy `p`. -/
def dropEndWhile (p : Char → Bool) (s : Text) : Text :=
  (s.reverse.dropWhile p).reverse

/-- The characters with the White_Space property. -/
def isSpace (c : Char) : Bool :=
  let n := c.toNat
  (0x09 ≤ n && n ≤ 0x0d) || n == 0x20 || n == 0x85 || n == 0xa0 || n == 0x1680 ||
    (0x2000 ≤ n && n ≤ 0x200a) || n == 0x2028 || n == 0x2029 || n == 0x202f || n == 0x205f ||
    n == 0x3000

/-- The space and the tab. -/
def isBlank (c : Char) : Bool :=
  c == ' ' || c == '\t'

/-- The text without leading space. -/
def trimStart (s : Text) : Text :=
  s.dropWhile isSpace

/-- The text without leading and trailing space. -/
def trim (s : Text) : Text :=
  dropEndWhile isSpace (trimStart s)

/-- Texts, or other lists, written one after another with a separator between neighbours. -/
def joined {α : Type} (sep : List α) : List (List α) → List α
  | [] => []
  | [part] => part
  | part :: next :: rest => part ++ sep ++ joined sep (next :: rest)

/-- What stands behind a given opening, if the text begins with it. -/
def after? : Text → Text → Option Text
  | [], s => some s
  | _ :: _, [] => none
  | a :: opening, c :: s => if a = c then after? opening s else none

/-- The text with the first occurrence of `old` replaced by `new`. -/
def replaceFirst (old new : Text) : Text → Text
  | [] => if old.isEmpty then new else []
  | c :: s =>
    match after? old (c :: s) with
    | some rest => new ++ rest
    | none => c :: replaceFirst old new s

/-- Splitting an opening off gives back the text when the opening is put in front again. -/
theorem after?_eq_some_iff {opening s rest : Text} :
    after? opening s = some rest ↔ s = opening ++ rest := by
  induction opening generalizing s with
  | nil => simp [after?]
  | cons a opening ih =>
    cases s with
    | nil => simp [after?]
    | cons c s =>
      by_cases h : a = c
      · simp [after?, h, ih]
      · simp [after?, h, Ne.symm h]

/-- Blanks are space. -/
theorem isSpace_of_isBlank {c : Char} (h : isBlank c = true) : isSpace c = true := by
  simp only [isBlank, Bool.or_eq_true, beq_iff_eq] at h
  rcases h with rfl | rfl <;> decide

/-- Equal code points mean equal characters. -/
theorem char_eq_of_toNat_eq {a b : Char} (h : a.toNat = b.toNat) : a = b :=
  Char.ext (UInt32.toNat_inj.1 h)

/-- No text comes before itself. -/
theorem before_irrefl (s : Text) : before s s = false := by
  induction s with
  | nil => rfl
  | cons a s ih => simp [before, ih]

/-- The order is transitive. -/
theorem before_trans {s t u : Text} (h₁ : before s t = true) (h₂ : before t u = true) :
    before s u = true := by
  induction s generalizing t u with
  | nil => cases t <;> cases u <;> simp_all [before]
  | cons a s ih =>
    cases t with
    | nil => simp [before] at h₁
    | cons b t =>
      cases u with
      | nil => simp [before] at h₂
      | cons c u =>
        simp only [before, Bool.or_eq_true, Bool.and_eq_true, decide_eq_true_eq,
          beq_iff_eq] at h₁ h₂ ⊢
        rcases h₁ with h₁ | ⟨rfl, h₁⟩ <;> rcases h₂ with h₂ | ⟨rfl, h₂⟩
        · exact .inl (Nat.lt_trans h₁ h₂)
        · exact .inl h₁
        · exact .inl h₂
        · exact .inr ⟨rfl, ih h₁ h₂⟩

/-- Of two different texts one comes before the other. -/
theorem before_or_before {s t : Text} (h : s ≠ t) : before s t = true ∨ before t s = true := by
  induction s generalizing t with
  | nil => cases t <;> simp_all [before]
  | cons a s ih =>
    cases t with
    | nil => simp [before]
    | cons b t =>
      simp only [before, Bool.or_eq_true, Bool.and_eq_true, decide_eq_true_eq, beq_iff_eq]
      rcases Nat.lt_trichotomy a.toNat b.toNat with hlt | heq | hgt
      · exact .inl (.inl hlt)
      · obtain rfl := char_eq_of_toNat_eq heq
        rcases ih (t := t) (by simpa using h) with h' | h'
        · exact .inl (.inr ⟨rfl, h'⟩)
        · exact .inr (.inr ⟨rfl, h'⟩)
      · exact .inr (.inl hgt)

end Text

end Scss

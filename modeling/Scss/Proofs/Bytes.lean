import Scss.Proofs.Path
import Scss.Text.Raw

/-!
# The bytes of texts

The bytes of a text show everything about it. Read as a text again they give it back (`lossy_bytes`),
so they determine it. Its slashes are their slashes, since all bytes of a longer character are greater
than those of the characters that have one; so the segments of a path are the same in both forms
(`segments_bytes`).

Texts are compared by code points, while file systems and sorted lists of names go by the bytes of the
UTF-8 form. The two orders are the same (`before_iff_bytes_lt`). More bytes mean a greater code point
and a greater first byte, and among characters of as many bytes the code point is spread over them from
its highest bits down. So of two characters the smaller one has the smaller bytes, whatever follows
(`encodeChar_append_lt`).
-/

namespace Scss

namespace Raw

theorem char?_encodeChar_append (c : Char) (b : Raw) :
    char? (String.utf8EncodeChar c ++ b) = some c := by
  unfold char?
  rw [List.toByteArray_append]
  exact ByteArray.utf8DecodeChar?_utf8EncodeChar_append

theorem lossyFrom_append (skipped b : Raw) : lossyFrom skipped.length (skipped ++ b) = lossyFrom 0 b := by
  induction skipped with
  | nil => rfl
  | cons first skipped ih => exact ih

theorem lossy_encodeChar_append (c : Char) (b : Raw) :
    lossy (String.utf8EncodeChar c ++ b) = c :: lossy b := by
  obtain ⟨first, rest, hencode⟩ := List.exists_cons_of_ne_nil (String.utf8EncodeChar_ne_nil (c := c))
  have hchar := char?_encodeChar_append c b
  have hlength : rest.length = c.utf8Size - 1 := by
    have hsize := String.length_utf8EncodeChar c
    rw [hencode, List.length_cons] at hsize
    omega
  rw [hencode, List.cons_append] at hchar ⊢
  unfold lossy
  rw [lossyFrom, hchar]
  dsimp only
  rw [← hlength, lossyFrom_append]

/-- **The bytes of a text**, read as a text, give it back. -/
theorem lossy_bytes (s : Text) : lossy s.bytes = s := by
  induction s with
  | nil => rfl
  | cons c s ih => rw [Text.bytes, List.flatMap_cons, lossy_encodeChar_append, ← Text.bytes, ih]

end Raw

namespace Text

open Scss.Path

variable {s t u : Text} {c d : Char}

theorem bytes_cons (c : Char) (s : Text) : bytes (c :: s) = String.utf8EncodeChar c ++ s.bytes :=
  List.flatMap_cons

theorem bytes_inj : s.bytes = t.bytes ↔ s = t := by
  refine ⟨fun h => ?_, congrArg bytes⟩
  rw [← Raw.lossy_bytes s, h, Raw.lossy_bytes]

/-! ### Segments -/

theorem toNat_lt_max (c : Char) : c.toNat < 0x110000 := by
  have hvalid : c.toNat < 0xd800 ∨ 0xdfff < c.toNat ∧ c.toNat < 0x110000 := c.valid
  omega

theorem encodeChar_separator : String.utf8EncodeChar separator = [separator] := by
  decide

/-- A slash is among the bytes of a slash only. -/
theorem separator_notMem_encodeChar (hc : c ≠ separator) :
    separator ∉ String.utf8EncodeChar c := by
  have hcode : c.toNat ≠ 0x2f := fun h => hc (char_eq_of_toNat_eq h)
  have hval : c.val.toNat = c.toNat := rfl
  have hslash : (separator : UInt8).toNat = 0x2f := rfl
  have hmax := toNat_lt_max c
  unfold String.utf8EncodeChar
  simp only [hval]
  generalize c.toNat = n at hcode hmax
  repeat' split
  all_goals
    simp only [List.mem_cons, List.not_mem_nil, or_false, not_or, ← UInt8.toNat_inj, hslash,
      UInt8.toNat_ofNat']
    omega

/-- **The segments of the bytes of a path** are the bytes of its segments. -/
theorem segments_bytes (p : Text) : segments p.bytes = (segments p).map bytes := by
  induction p with
  | nil => rfl
  | cons c s ih =>
    by_cases hc : c = separator
    · subst hc
      rw [bytes_cons, encodeChar_separator, List.singleton_append, segments_cons_separator,
        segments_cons_separator, ih]
      rfl
    · obtain ⟨first, l, hs⟩ := exists_segments s
      rw [hs, List.map_cons] at ih
      rw [bytes_cons, segments_append_of_notMem (separator_notMem_encodeChar hc) ih,
        segments_cons hc hs, List.map_cons, bytes_cons]

theorem isIdle_bytes (s : Text) : isIdle s.bytes = isIdle s := by
  have hempty : s.bytes.isEmpty = s.isEmpty := by
    rw [Bool.eq_iff_iff, List.isEmpty_iff, List.isEmpty_iff]
    exact bytes_inj (t := [])
  have hdot : (s.bytes == dot) = (s == dot) := by
    rw [Bool.eq_iff_iff, beq_iff_eq, beq_iff_eq]
    exact bytes_inj (t := dot)
  unfold isIdle
  rw [hempty, hdot]

theorem isEntryName_bytes_iff : IsEntryName s.bytes ↔ IsEntryName s := by
  have hdots : s.bytes = dots ↔ s = dots := bytes_inj (t := dots)
  unfold IsEntryName
  rw [isIdle_bytes, ne_eq, ne_eq, hdots]

/-! ### The order -/

theorem before_asymm (h : s.before t = true) : t.before s = false := by
  cases hts : t.before s with
  | false => rfl
  | true =>
    have hloop := before_trans h hts
    rw [before_irrefl] at hloop
    cases hloop

/-- What does not come before a text does not come before any that is not after it. -/
theorem before_eq_false_trans (h₁ : t.before s = false) (h₂ : u.before t = false) :
    u.before s = false := by
  by_cases hst : s = t
  · rwa [hst]
  · have hlt : s.before t = true := (before_or_before hst).resolve_right (by simp [h₁])
    cases hus : u.before s with
    | false => rfl
    | true =>
      rw [before_trans hus hlt] at h₂
      cases h₂

/-- The character with the smaller code point has the smaller bytes, whatever stands behind both. -/
theorem encodeChar_append_lt (h : c.toNat < d.toNat) (x y : List UInt8) :
    String.utf8EncodeChar c ++ x < String.utf8EncodeChar d ++ y := by
  have hmax := toNat_lt_max d
  have hval : ∀ e : Char, e.val.toNat = e.toNat := fun _ => rfl
  -- each group of six bits comes from the one before it
  have hdiv : ∀ n : Nat, n / 4096 = n / 64 / 64 ∧ n / 262144 = n / 64 / 64 / 64 := by
    intro n
    omega
  unfold String.utf8EncodeChar
  simp only [hval, (hdiv _).1, (hdiv _).2]
  generalize c.toNat = m at h
  generalize d.toNat = n at h hmax
  -- one case for each pair of lengths; the first bytes differ, or the lengths are the same
  repeat' split
  all_goals
    simp only [List.cons_append, List.nil_append, List.cons_lt_cons_iff, UInt8.lt_iff_toNat_lt,
      ← UInt8.toNat_inj, UInt8.toNat_ofNat']
    omega

theorem bytes_lt_of_before (h : s.before t = true) : s.bytes < t.bytes := by
  induction s generalizing t with
  | nil =>
    cases t with
    | nil => cases h
    | cons d t =>
      have hne : String.utf8EncodeChar d ++ bytes t ≠ [] :=
        List.append_ne_nil_of_left_ne_nil String.utf8EncodeChar_ne_nil _
      obtain ⟨b, bs, hbytes⟩ := List.exists_cons_of_ne_nil hne
      rw [bytes_cons, hbytes]
      exact List.nil_lt_cons b bs
  | cons c s ih =>
    cases t with
    | nil => cases h
    | cons d t =>
      simp only [before, Bool.or_eq_true, Bool.and_eq_true, decide_eq_true_eq, beq_iff_eq] at h
      rw [bytes_cons, bytes_cons]
      rcases h with hlt | ⟨rfl, hrest⟩
      · exact encodeChar_append_lt hlt _ _
      · exact List.append_left_lt (ih hrest)

/-- **Texts are in the order of their bytes.** -/
theorem before_iff_bytes_lt : s.before t = true ↔ s.bytes < t.bytes := by
  refine ⟨bytes_lt_of_before, fun h => ?_⟩
  have hne : s ≠ t := by
    rintro rfl
    exact List.lt_irrefl _ h
  rcases before_or_before hne with hst | hts
  · exact hst
  · exact absurd (List.lt_trans h (bytes_lt_of_before hts)) (List.lt_irrefl _)

end Text

end Scss

import Scss.Text.Basic

/-!
# Runs of characters and trimming

Readers cut texts by the longest run of a class of characters. A run of `p` **ends** in front of a
text that is empty or begins with a character outside `p`; where a text is put together as a run and
such a rest, cutting it gives back the two parts (`takeWhile_append_of_endsRun`,
`dropWhile_append_of_endsRun`), and what a cut leaves is always such a rest (`endsRun_dropWhile`).

A trimmed text has space at neither end (`endsRun_trim`, `endsRun_reverse_trim`), and a text with
space at neither end is its own trim (`trim_eq_self`). Space put around a text does not change its trim
(`trim_space_append`, `trim_append_space`).
-/

namespace Scss.Text

/-- A run of `p` ends in front of `s`: there is nothing, or a character outside `p`. -/
def EndsRun (p : Char → Bool) (s : Text) : Prop :=
  ∀ c ∈ s.head?, p c = false

variable {p : Char → Bool} {c : Char} {s x y : Text}

@[simp] theorem endsRun_nil : EndsRun p [] := by simp [EndsRun]

@[simp] theorem endsRun_cons : EndsRun p (c :: s) ↔ p c = false := by simp [EndsRun]

theorem isBlank_of_isSpace_eq_false (h : isSpace c = false) : isBlank c = false := by
  cases hc : isBlank c with
  | false => rfl
  | true => rw [isSpace_of_isBlank hc] at h; cases h

theorem endsRun_append (hx : EndsRun p x) (hy : EndsRun p y) : EndsRun p (x ++ y) := by
  cases x with
  | nil => exact hy
  | cons c x => simpa using hx

theorem forall_mem_takeWhile (p : Char → Bool) (s : Text) : ∀ c ∈ s.takeWhile p, p c = true :=
  List.all_eq_true.1 List.all_takeWhile

/-- What holds no `c` does not reach over one. -/
theorem isPrefix_of_isPrefix_append_cons (hc : c ∉ x) (h : x <+: s ++ c :: y) : x <+: s := by
  induction s generalizing x with
  | nil =>
    cases x with
    | nil => exact List.nil_prefix
    | cons d x =>
      obtain ⟨rfl, -⟩ := List.cons_prefix_cons.1 h
      exact absurd List.mem_cons_self hc
  | cons d s ih =>
    cases x with
    | nil => exact List.nil_prefix
    | cons e x =>
      obtain ⟨rfl, hx⟩ := List.cons_prefix_cons.1 h
      rw [List.mem_cons, not_or] at hc
      exact List.cons_prefix_cons.2 ⟨rfl, ih hc.2 hx⟩

/-- What begins with `c` is not found in a stretch without `c`. -/
theorem isInfix_of_isInfix_append (hc : c ∉ x) (h : c :: y <:+: x ++ s) : c :: y <:+: s := by
  induction x with
  | nil => exact h
  | cons d x ih =>
    rw [List.mem_cons, not_or] at hc
    rcases List.infix_cons_iff.1 h with hpre | hin
    · exact absurd (List.cons_prefix_cons.1 hpre).1 hc.1
    · exact ih hc.2 hin

theorem notMem_of_forall (hx : ∀ c ∈ x, p c = true) (hc : p c = false) : c ∉ x := by
  intro hmem
  rw [hx c hmem] at hc
  cases hc

theorem endsRun_dropWhile (p : Char → Bool) (s : Text) : EndsRun p (s.dropWhile p) := by
  intro c hc
  have h := List.head?_dropWhile_not p s
  rw [Option.mem_def.1 hc] at h
  exact h

theorem takeWhile_append_of_endsRun (hx : ∀ c ∈ x, p c = true) (hy : EndsRun p y) :
    (x ++ y).takeWhile p = x := by
  rw [List.takeWhile_append_of_pos hx]
  cases y with
  | nil => simp
  | cons d y => simp [endsRun_cons.1 hy]

theorem dropWhile_append_of_endsRun (hx : ∀ c ∈ x, p c = true) (hy : EndsRun p y) :
    (x ++ y).dropWhile p = y := by
  rw [List.dropWhile_append_of_pos hx]
  cases y with
  | nil => rfl
  | cons d y => simp [endsRun_cons.1 hy]

theorem dropWhile_of_endsRun (h : EndsRun p s) : s.dropWhile p = s :=
  dropWhile_append_of_endsRun (x := []) (by simp) h

/-- Cutting the end off leaves a prefix. -/
theorem dropEndWhile_isPrefix (p : Char → Bool) (s : Text) : dropEndWhile p s <+: s := by
  have h := List.reverse_prefix.2 (List.dropWhile_suffix (l := s.reverse) p)
  rwa [List.reverse_reverse] at h

theorem endsRun_of_isPrefix (hxy : x <+: y) (h : EndsRun p y) : EndsRun p x := by
  obtain ⟨t, rfl⟩ := hxy
  cases x with
  | nil => simp
  | cons c x => simpa using h

theorem dropEndWhile_of_endsRun (h : EndsRun p s.reverse) : dropEndWhile p s = s := by
  unfold dropEndWhile
  rw [dropWhile_of_endsRun h, List.reverse_reverse]

theorem dropEndWhile_append (x : Text) (hy : ∀ c ∈ y, p c = true) :
    dropEndWhile p (x ++ y) = dropEndWhile p x := by
  have hrev : ∀ c ∈ y.reverse, p c = true := fun c hc => hy c (List.mem_reverse.1 hc)
  unfold dropEndWhile
  rw [List.reverse_append, List.dropWhile_append_of_pos hrev]

/-- What is left ends in the last character outside `p`. -/
theorem getLast?_dropEndWhile_iff :
    (dropEndWhile p s).getLast? = some c ↔
      ∃ x y, s = x ++ c :: y ∧ p c = false ∧ ∀ d ∈ y, p d = true := by
  constructor
  · intro h
    obtain ⟨x, hx⟩ := List.getLast?_eq_some_iff.1 h
    have hends : EndsRun p (dropEndWhile p s).reverse := by
      unfold dropEndWhile
      rw [List.reverse_reverse]
      exact endsRun_dropWhile p _
    have hsplit : s = dropEndWhile p s ++ (s.reverse.takeWhile p).reverse := by
      unfold dropEndWhile
      rw [← List.reverse_append, List.takeWhile_append_dropWhile, List.reverse_reverse]
    rw [hx] at hsplit hends
    refine ⟨x, (s.reverse.takeWhile p).reverse, by simpa using hsplit, ?_, ?_⟩
    · simpa using hends
    · intro d hd
      exact forall_mem_takeWhile p _ d (List.mem_reverse.1 hd)
  · rintro ⟨x, y, rfl, hc, hy⟩
    have hends : EndsRun p (x ++ [c]).reverse := by simpa using hc
    rw [List.append_cons, dropEndWhile_append _ hy, dropEndWhile_of_endsRun hends]
    simp

/-- Space in front does not count. -/
theorem trim_space_append (s : Text) (hx : ∀ c ∈ x, isSpace c = true) : trim (x ++ s) = trim s := by
  unfold trim trimStart
  rw [List.dropWhile_append_of_pos hx]

/-- Space at the end does not count. -/
theorem trim_append_space (s : Text) (hy : ∀ c ∈ y, isSpace c = true) : trim (s ++ y) = trim s := by
  unfold trim trimStart
  rw [List.dropWhile_append]
  split
  next hempty =>
    have hnil := dropWhile_append_of_endsRun hy endsRun_nil
    rw [List.append_nil] at hnil
    rw [hnil, List.isEmpty_iff.1 hempty]
  · exact dropEndWhile_append _ hy

/-- A trimmed text does not begin with space. -/
theorem endsRun_trim (s : Text) : EndsRun isSpace (trim s) :=
  endsRun_of_isPrefix (dropEndWhile_isPrefix isSpace (trimStart s)) (endsRun_dropWhile isSpace s)

/-- A trimmed text does not end in space. -/
theorem endsRun_reverse_trim (s : Text) : EndsRun isSpace (trim s).reverse := by
  unfold trim dropEndWhile
  rw [List.reverse_reverse]
  exact endsRun_dropWhile isSpace _

/-- A text with space at neither end is its own trim. -/
theorem trim_eq_self (h₁ : EndsRun isSpace s) (h₂ : EndsRun isSpace s.reverse) : trim s = s := by
  unfold trim trimStart
  rw [dropWhile_of_endsRun h₁, dropEndWhile_of_endsRun h₂]

theorem mem_of_mem_trim (h : c ∈ trim s) : c ∈ s :=
  (List.dropWhile_sublist isSpace).subset ((dropEndWhile_isPrefix isSpace _).subset h)

theorem mem_dropWhile (h : c ∈ s) (hc : p c = false) : c ∈ s.dropWhile p := by
  rw [← List.takeWhile_append_dropWhile (p := p) (l := s), List.mem_append] at h
  exact h.resolve_left (notMem_of_forall (forall_mem_takeWhile p s) hc)

/-- Trimming takes nothing but space away. -/
theorem mem_trim (h : c ∈ s) (hc : isSpace c = false) : c ∈ trim s := by
  unfold trim dropEndWhile
  rw [List.mem_reverse]
  exact mem_dropWhile (List.mem_reverse.2 (mem_dropWhile h hc)) hc

end Scss.Text

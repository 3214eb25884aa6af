import Scss.Path

/-!
# Segments and parents

A path and the list of its segments determine each other (`segments_joined`), and a path that is put
together at a slash has the segments of both parts (`segments_append_separator`). From this, the parents
of a path behind the nearest are the parents of that one (`parents_of_parents`).
-/

namespace Scss.Path

variable {α : Type} [DecidableEq α] [PathUnit α] {p q name segment first : List α}
  {l above : List (List α)}

theorem segments_cons_separator (s : List α) : segments (separator :: s) = [] :: segments s := by
  rw [segments, if_pos rfl]

theorem segments_cons {c : α} (hc : c ≠ separator) {s : List α} (h : segments s = first :: l) :
    segments (c :: s) = (c :: first) :: l := by
  rw [segments, if_neg hc, h]

theorem segments_ne_nil (p : List α) : segments p ≠ [] := by
  cases p with
  | nil => simp [segments]
  | cons c s =>
    unfold segments
    split
    · simp
    · split <;> simp

theorem exists_segments (p : List α) : ∃ first l, segments p = first :: l :=
  List.exists_cons_of_ne_nil (segments_ne_nil p)

theorem separator_notMem_segments (h : segment ∈ segments p) : separator ∉ segment := by
  induction p generalizing segment with
  | nil =>
    obtain rfl := List.mem_singleton.1 h
    exact List.not_mem_nil
  | cons c s ih =>
    by_cases hc : c = separator
    · subst hc
      rw [segments_cons_separator] at h
      rcases List.mem_cons.1 h with rfl | h
      · exact List.not_mem_nil
      · exact ih h
    · obtain ⟨first, l, hs⟩ := exists_segments s
      rw [hs] at ih
      rw [segments_cons hc hs] at h
      rcases List.mem_cons.1 h with rfl | h
      · rw [List.mem_cons, not_or]
        exact ⟨Ne.symm hc, ih List.mem_cons_self⟩
      · exact ih (List.mem_cons_of_mem first h)

theorem segments_of_notMem (h : separator ∉ segment) : segments segment = [segment] := by
  induction segment with
  | nil => rfl
  | cons c s ih =>
    rw [List.mem_cons, not_or] at h
    exact segments_cons (Ne.symm h.1) (ih h.2)

/-- What holds no slash stays with the first segment. -/
theorem segments_append_of_notMem {x : List α} (hx : separator ∉ x) (h : segments p = first :: l) :
    segments (x ++ p) = (x ++ first) :: l := by
  induction x with
  | nil => exact h
  | cons c x ih =>
    rw [List.mem_cons, not_or] at hx
    exact segments_cons (Ne.symm hx.1) (ih hx.2)

theorem segments_append_separator (p q : List α) :
    segments (p ++ separator :: q) = segments p ++ segments q := by
  induction p with
  | nil => exact segments_cons_separator q
  | cons c s ih =>
    rw [List.cons_append]
    by_cases hc : c = separator
    · subst hc
      rw [segments_cons_separator, segments_cons_separator, ih, List.cons_append]
    · obtain ⟨first, l, hs⟩ := exists_segments s
      rw [hs, List.cons_append] at ih
      rw [segments_cons hc ih, segments_cons hc hs, List.cons_append]

/-- **Segments can be put together again.** -/
theorem segments_joined (hne : l ≠ []) (h : ∀ segment ∈ l, separator ∉ segment) :
    segments (Text.joined [separator] l) = l := by
  induction l with
  | nil => exact absurd rfl hne
  | cons first l ih =>
    have hfirst := segments_of_notMem (h first List.mem_cons_self)
    cases l with
    | nil => exact hfirst
    | cons next l =>
      have hrest := ih (by simp) fun segment hs => h segment (List.mem_cons_of_mem first hs)
      rw [Text.joined, List.append_assoc, List.singleton_append, segments_append_separator, hfirst,
        hrest, List.singleton_append]

/-! ### Parents -/

theorem parents_separator : parents [(separator : α)] = [] := by
  unfold parents
  rw [segments_cons_separator]
  rfl

theorem parentsOf_dropWhile (first : List α) (above : List (List α)) :
    parentsOf first (above.dropWhile isIdle) = parentsOf first above := by
  induction above with
  | nil => rfl
  | cons segment above ih =>
    cases hidle : isIdle segment with
    | true => rw [List.dropWhile_cons_of_pos hidle, ih, parentsOf, if_pos hidle]
    | false => rw [List.dropWhile_cons_of_neg (by simp [hidle])]

theorem segments_joined_dropWhile (hfirst : separator ∉ first)
    (habove : ∀ segment ∈ above, separator ∉ segment) :
    segments (Text.joined [separator] (first :: (above.dropWhile isIdle).reverse)) =
      first :: (above.dropWhile isIdle).reverse := by
  refine segments_joined (List.cons_ne_nil _ _) fun segment hs => ?_
  rcases List.mem_cons.1 hs with rfl | hs
  · exact hfirst
  · exact habove segment ((List.dropWhile_sublist isIdle).subset (List.mem_reverse.1 hs))

theorem parents_of_parentsOf {parent : List α} {further : List (List α)}
    (hfirst : separator ∉ first) (habove : ∀ segment ∈ above, separator ∉ segment)
    (h : parentsOf first above = parent :: further) : parents parent = further := by
  induction above with
  | nil =>
    rw [parentsOf] at h
    split at h
    · cases h
    · obtain ⟨rfl, rfl⟩ := List.cons.inj h
      rfl
  | cons segment above ih =>
    have habove' : ∀ segment' ∈ above, separator ∉ segment' :=
      fun segment' hs => habove segment' (List.mem_cons_of_mem segment hs)
    rw [parentsOf] at h
    split at h
    · exact ih habove' h
    obtain ⟨rfl, rfl⟩ := List.cons.inj h
    rw [← parentsOf_dropWhile first above]
    split
    next hroot =>
      -- directly below the root
      rw [Bool.and_eq_true, List.isEmpty_iff, List.isEmpty_iff, List.reverse_eq_nil_iff] at hroot
      rw [hroot.1, hroot.2]
      exact parents_separator
    next =>
      unfold parents
      rw [segments_joined_dropWhile hfirst habove']
      simp

/-- **Parents form a chain**: those of the nearest parent are the further ones. -/
theorem parents_of_parents {parent : List α} {further : List (List α)}
    (h : parents p = parent :: further) : parents parent = further := by
  obtain ⟨first, tail, hp⟩ := exists_segments p
  have hseg : ∀ segment ∈ first :: tail, separator ∉ segment := by
    intro segment hs
    rw [← hp] at hs
    exact separator_notMem_segments hs
  have h' : parentsOf first tail.reverse = parent :: further := by
    unfold parents at h
    rwa [hp] at h
  refine parents_of_parentsOf (hseg first List.mem_cons_self) (fun segment hs => ?_) h'
  exact hseg segment (List.mem_cons_of_mem first (List.mem_reverse.1 hs))

/-- The folder of a path and its parents are the parents of the path. -/
theorem parents_eq_of_folder? {folder : List α} (h : folder? p = some folder) :
    parents p = folder :: parents folder := by
  unfold folder? parent? at h
  obtain ⟨hhead, -⟩ := Option.filter_eq_some_iff.1 h
  cases hp : parents p with
  | nil => rw [hp] at hhead; cases hhead
  | cons parent further =>
    rw [hp] at hhead
    obtain rfl := Option.some.inj hhead
    rw [parents_of_parents hp]

/-! ### Names among the segments -/

@[simp] theorem isIdle_nil : isIdle ([] : List α) = true :=
  rfl

@[simp] theorem isIdle_dot : isIdle (dot : List α) = true := by
  unfold isIdle
  rw [beq_self_eq_true, Bool.or_true]

omit [DecidableEq α] in
@[simp] theorem dot_ne_nil : (dot : List α) ≠ [] :=
  List.cons_ne_nil _ _

omit [DecidableEq α] in
@[simp] theorem dots_ne_nil : (dots : List α) ≠ [] :=
  List.cons_ne_nil _ _

omit [DecidableEq α] in
@[simp] theorem dots_ne_dot : (dots : List α) ≠ dot :=
  fun h => nomatch congrArg List.length h

/-- The segment is a name: neither idle nor two dots. -/
def IsEntryName (segment : List α) : Prop :=
  isIdle segment = false ∧ segment ≠ dots

theorem IsEntryName.ne_nil (h : IsEntryName name) : name ≠ [] := by
  rintro rfl
  cases isIdle_nil.symm.trans h.1

theorem IsEntryName.ne_dot (h : IsEntryName name) : name ≠ dot := by
  rintro rfl
  cases isIdle_dot.symm.trans h.1

theorem step?_of_isEntryName (h : IsEntryName segment) : step? segment = some (.normal segment) := by
  unfold step?
  rw [h.1, if_neg h.2]
  simp

theorem isEntryName_of_step? (h : step? segment = some (.normal name)) :
    segment = name ∧ IsEntryName name := by
  unfold step? at h
  split at h
  · cases h
  next hidle =>
    split at h
    · cases h
    next hup =>
      cases h
      exact ⟨rfl, by simpa using hidle, hup⟩

end Scss.Path

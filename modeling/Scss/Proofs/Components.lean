import Scss.Proofs.Path

/-!
# Joining and cutting paths, component by component

Behind the first segment of a path, idle segments make no step and the others make one each; so the
components of a path that is not empty are read off its segments from left to right (`stepsOf`,
`components_eq_stepsOf`). What stands at the end of a path shows at the end of its components:

* `components_join`: a name joined to any path is one more component.
* `components_parent?`: the parent of a path has its components but the last.
* `fileName?_eq_some_iff`: the file name of a path is its last segment that is not idle.
-/

namespace Scss.Path

variable {α : Type} [DecidableEq α] [PathUnit α] {p q name segment first dir : List α}
  {l rest above : List (List α)}

/-- The step that the first of several segments makes: in front of the first slash, nothing stands for
the root and a dot for the place where the path starts. -/
def firstStep (first : List α) : Component α :=
  if first = [] then .root
  else if first = dot then .here
  else if first = dots then .up
  else .normal first

/-- The steps that the segments of a path make, if the path is not empty. -/
def stepsOf : List (List α) → List (Component α)
  | [] => []
  | first :: rest => firstStep first :: rest.filterMap step?

theorem stepsOf_append (hl : l ≠ []) (rest : List (List α)) :
    stepsOf (l ++ rest) = stepsOf l ++ rest.filterMap step? := by
  obtain ⟨first, tail, rfl⟩ := List.exists_cons_of_ne_nil hl
  simp [stepsOf]

theorem isIdle_iff : isIdle segment = true ↔ segment = [] ∨ segment = dot := by
  unfold isIdle
  rw [Bool.or_eq_true, List.isEmpty_iff, beq_iff_eq]

theorem step?_eq_none_iff : step? segment = none ↔ isIdle segment = true := by
  unfold step?
  cases isIdle segment with
  | true => simp
  | false => by_cases hup : segment = dots <;> simp [hup]

theorem filterMap_step?_eq_nil_iff :
    rest.filterMap step? = [] ↔ ∀ segment ∈ rest, isIdle segment = true := by
  simp only [List.filterMap_eq_nil_iff, step?_eq_none_iff]

theorem firstStep_of_ne_nil (hne : first ≠ []) :
    (if first = dot then some .here else step? first) = some (firstStep first) := by
  unfold firstStep step? isIdle
  by_cases hdot : first = dot
  · simp [hdot]
  · by_cases hup : first = dots
    · simp [hup]
    · simp [hne, hdot, hup]

theorem firstStep_of_isEntryName (h : IsEntryName name) : firstStep name = .normal name := by
  unfold firstStep
  rw [if_neg h.ne_nil, if_neg h.ne_dot, if_neg h.2]

theorem isEntryName_of_length (h : 2 < segment.length) : IsEntryName segment := by
  have hdot : (dot : List α).length = 1 := rfl
  have hdots : (dots : List α).length = 2 := rfl
  refine ⟨?_, ?_⟩
  · cases hidle : isIdle segment with
    | false => rfl
    | true =>
      rcases isIdle_iff.1 hidle with rfl | rfl
      · cases h
      · omega
  · rintro rfl
    omega

/-- A name among the segments is a step of its own. -/
theorem stepsOf_append_cons (hname : IsEntryName name) (init rest : List (List α)) :
    stepsOf (init ++ name :: rest) = stepsOf init ++ .normal name :: rest.filterMap step? := by
  cases init with
  | nil => simp [stepsOf, firstStep_of_isEntryName hname]
  | cons first tail =>
    rw [stepsOf_append (List.cons_ne_nil first tail),
      List.filterMap_cons_some (step?_of_isEntryName hname)]

theorem isAbsolute_cons {c : α} (hc : c ≠ separator) (s : List α) : isAbsolute (c :: s) = false := by
  simpa [isAbsolute] using hc

theorem isAbsolute_separator (s : List α) : isAbsolute (separator :: s) = true :=
  beq_self_eq_true _

/-- The components of a path are the steps of its segments. -/
theorem components_eq_stepsOf (hp : p ≠ []) : components p = stepsOf (segments p) := by
  obtain ⟨c, s, rfl⟩ := List.exists_cons_of_ne_nil hp
  unfold components
  by_cases hc : c = separator
  · subst hc
    rw [segments_cons_separator]
    simp only [isAbsolute_separator]
    rfl
  · obtain ⟨first, l, hs⟩ := exists_segments s
    rw [segments_cons hc hs]
    simp only [isAbsolute_cons hc, firstStep_of_ne_nil (List.cons_ne_nil c first)]
    rfl

theorem ne_nil_of_segments {init rest : List (List α)} (hp : segments p = init ++ name :: rest)
    (hname : IsEntryName name) : p ≠ [] := by
  rintro rfl
  -- its one segment is empty
  have hmem : name ∈ segments [] := hp ▸ List.mem_append_right init List.mem_cons_self
  exact hname.ne_nil (List.mem_singleton.1 hmem)

theorem components_of_segments {init rest : List (List α)} (hp : segments p = init ++ name :: rest)
    (hname : IsEntryName name) :
    components p = stepsOf init ++ .normal name :: rest.filterMap step? := by
  rw [components_eq_stepsOf (ne_nil_of_segments hp hname), hp, stepsOf_append_cons hname]

/-! ### Joining -/

theorem isAbsolute_of_notMem (h : separator ∉ name) : isAbsolute name = false := by
  cases name with
  | nil => rfl
  | cons c s =>
    rw [List.mem_cons, not_or] at h
    exact isAbsolute_cons (Ne.symm h.1) s

/-- The name can stand in a folder: it is no dots that lead elsewhere, and holds no slash. -/
def IsFileName (name : List α) : Prop :=
  IsEntryName name ∧ separator ∉ name

instance (name : List α) : Decidable (IsFileName name) :=
  inferInstanceAs (Decidable ((isIdle name = false ∧ name ≠ dots) ∧ separator ∉ name))

/-- The segments of a path with a name joined to it are those of the path, without an empty one at its
end, and the name. -/
theorem segments_join (hp : p ≠ []) (hsep : separator ∉ name) :
    ∃ init, init ≠ [] ∧ segments (join p name) = init ++ [name] ∧
      (segments p = init ∨ segments p = init ++ [[]]) := by
  have hname := segments_of_notMem hsep
  unfold join
  rw [isAbsolute_of_notMem hsep]
  simp only [Bool.false_eq_true, if_false]
  split
  next hend =>
    -- the path ends in a slash already
    rw [Bool.or_eq_true, List.isEmpty_iff, beq_iff_eq] at hend
    obtain ⟨base, rfl⟩ := List.getLast?_eq_some_iff.1 (hend.resolve_left hp)
    refine ⟨segments base, segments_ne_nil base, ?_, .inr ?_⟩
    · rw [List.append_assoc, List.singleton_append, segments_append_separator, hname]
    · exact segments_append_separator base []
  next =>
    refine ⟨segments p, segments_ne_nil p, ?_, .inl rfl⟩
    rw [segments_append_separator, hname]

theorem mem_join {c : α} (h : c ∈ join p name) : c ∈ p ∨ c = separator ∨ c ∈ name := by
  unfold join at h
  split at h
  · exact .inr (.inr h)
  · split at h
    · exact (List.mem_append.1 h).imp id .inr
    · simpa using h

theorem length_join_of_notMem (hsep : separator ∉ name) (p : List α) :
    p.length + name.length ≤ (join p name).length := by
  unfold join
  rw [isAbsolute_of_notMem hsep]
  simp only [Bool.false_eq_true, if_false]
  split
  · exact Nat.le_of_eq List.length_append.symm
  · rw [List.length_append, List.length_cons]
    omega

theorem join_ne_nil (hname : name ≠ []) (p : List α) : join p name ≠ [] := by
  unfold join
  split
  · exact hname
  · split
    · exact List.append_ne_nil_of_right_ne_nil p hname
    · simp

theorem IsFileName.ne_nil (h : IsFileName name) : name ≠ [] :=
  h.1.ne_nil

theorem components_of_isFileName (h : IsFileName name) : components name = [.normal name] := by
  rw [components_eq_stepsOf h.ne_nil, segments_of_notMem h.2, stepsOf, firstStep_of_isEntryName h.1]
  rfl

/-- **A name joined to a path** is one more component. -/
theorem components_join (p : List α) (hname : IsFileName name) :
    components (join p name) = components p ++ [.normal name] := by
  by_cases hp : p = []
  · have hjoin : join p name = name := by
      unfold join
      rw [isAbsolute_of_notMem hname.2, hp]
      rfl
    rw [hjoin, components_of_isFileName hname, hp]
    rfl
  · obtain ⟨init, hinit, hsegments, hbase⟩ := segments_join hp hname.2
    have hcomponents : components p = stepsOf init := by
      rw [components_eq_stepsOf hp]
      rcases hbase with hbase | hbase
      · rw [hbase]
      · rw [hbase, stepsOf_append hinit, filterMap_step?_eq_nil_iff.2 (by simp), List.append_nil]
    rw [components_eq_stepsOf (join_ne_nil hname.ne_nil p), hsegments, stepsOf_append_cons hname.1,
      hcomponents]
    rfl

/-! ### Parents -/

theorem stepsOf_append_of_isIdle (first : List α) (h : ∀ segment ∈ rest, isIdle segment = true) :
    stepsOf (first :: l ++ rest) = stepsOf (first :: l) := by
  rw [stepsOf_append (List.cons_ne_nil first l), filterMap_step?_eq_nil_iff.2 h, List.append_nil]

/-- What is left of a reversed list of segments without the idle ones at its front makes the same
steps. -/
theorem stepsOf_dropWhile_isIdle (first : List α) (above : List (List α)) :
    stepsOf (first :: (above.dropWhile isIdle).reverse) = stepsOf (first :: above.reverse) := by
  have hsplit : above.reverse =
      (above.dropWhile isIdle).reverse ++ (above.takeWhile isIdle).reverse := by
    rw [← List.reverse_append, List.takeWhile_append_dropWhile]
  have hidle : ∀ segment ∈ (above.takeWhile isIdle).reverse, isIdle segment = true := by
    intro segment hs
    exact List.all_eq_true.1 List.all_takeWhile segment (List.mem_reverse.1 hs)
  rw [hsplit, ← List.cons_append, stepsOf_append_of_isIdle first hidle]

theorem components_of_parentsOf {further : List (List α)} (hfirst : separator ∉ first)
    (habove : ∀ segment ∈ above, separator ∉ segment)
    (h : parentsOf first above = dir :: further) :
    components dir = (stepsOf (first :: above.reverse)).dropLast := by
  induction above with
  | nil =>
    rw [parentsOf] at h
    split at h
    · cases h
    · obtain ⟨rfl, -⟩ := List.cons.inj h
      rfl
  | cons segment above ih =>
    have habove' : ∀ segment' ∈ above, separator ∉ segment' :=
      fun segment' hs => habove segment' (List.mem_cons_of_mem segment hs)
    rw [List.reverse_cons, ← List.cons_append, stepsOf_append (List.cons_ne_nil _ _)]
    rw [parentsOf] at h
    split at h
    next hidle =>
      rw [List.filterMap_cons_none (step?_eq_none_iff.2 hidle), List.filterMap_nil, List.append_nil]
      exact ih habove' h
    next hidle =>
      -- the last segment makes the last step, and the parent is what stands in front of it
      obtain ⟨component, hstep⟩ := Option.ne_none_iff_exists'.1 (mt step?_eq_none_iff.1 hidle)
      rw [List.filterMap_cons_some hstep, List.filterMap_nil, List.dropLast_concat]
      obtain ⟨rfl, -⟩ := List.cons.inj h
      rw [← stepsOf_dropWhile_isIdle]
      split
      next hroot =>
        rw [Bool.and_eq_true, List.isEmpty_iff, List.isEmpty_iff] at hroot
        rw [hroot.1, hroot.2, components_eq_stepsOf (List.cons_ne_nil _ _), segments_cons_separator]
        rfl
      next hroot =>
        have hsegments := segments_joined_dropWhile hfirst habove'
        have hne : Text.joined [separator] (first :: (above.dropWhile isIdle).reverse) ≠ [] := by
          intro hnil
          rw [hnil] at hsegments
          obtain ⟨hempty, hfront⟩ := List.cons.inj hsegments
          simp [← hempty, ← hfront] at hroot
        rw [components_eq_stepsOf hne, hsegments]

/-- **The parent of a path** has its components but the last. -/
theorem components_parent? (h : parent? p = some dir) : components dir = (components p).dropLast := by
  obtain ⟨first, tail, hp⟩ := exists_segments p
  have hsep : ∀ segment ∈ first :: tail, separator ∉ segment := by
    intro segment hs
    rw [← hp] at hs
    exact separator_notMem_segments hs
  have hne : p ≠ [] := by
    rintro rfl
    cases h
  unfold parent? parents at h
  rw [hp] at h
  obtain ⟨further, hparents⟩ := List.head?_eq_some_iff.1 h
  have habove : ∀ segment ∈ tail.reverse, separator ∉ segment := by
    intro segment hs
    exact hsep segment (List.mem_cons_of_mem first (List.mem_reverse.1 hs))
  rw [components_of_parentsOf (hsep first List.mem_cons_self) habove hparents, List.reverse_reverse,
    components_eq_stepsOf hne, hp]

theorem isIdle_of_parentsOf (h : parentsOf first above = []) :
    isIdle first = true ∧ ∀ segment ∈ above, isIdle segment = true := by
  induction above with
  | nil =>
    rw [parentsOf] at h
    split at h
    next hempty => exact ⟨by simp [isIdle, hempty], by simp⟩
    next => cases h
  | cons segment above ih =>
    rw [parentsOf] at h
    split at h
    next hidle =>
      obtain ⟨hfirst, habove⟩ := ih h
      exact ⟨hfirst, List.forall_mem_cons.2 ⟨hidle, habove⟩⟩
    next => cases h

/-! ### File names -/

theorem fileName?_eq_some_iff_getLast? :
    fileName? p = some name ↔ (components p).getLast? = some (.normal name) := by
  unfold fileName?
  split
  next n hn => simp [hn]
  next hnone =>
    constructor
    · intro h
      cases h
    · intro h
      exact absurd h (hnone name)

theorem isEntryName_of_firstStep (h : firstStep first = .normal name) :
    first = name ∧ IsEntryName name := by
  unfold firstStep at h
  split at h
  · cases h
  next hne =>
    split at h
    · cases h
    next hdot =>
      split at h
      · cases h
      next hup =>
        obtain rfl := Component.normal.inj h
        exact ⟨rfl, by simp [isIdle, hne, hdot], hup⟩

/-- A last step to a name is made by the last segment that is not idle. -/
theorem getLast?_stepsOf_iff :
    (stepsOf l).getLast? = some (.normal name) ↔ IsEntryName name ∧
      ∃ init rest, l = init ++ name :: rest ∧ ∀ segment ∈ rest, isIdle segment = true := by
  constructor
  · intro h
    cases l with
    | nil => cases h
    | cons first tail =>
      rw [stepsOf] at h
      by_cases hnil : tail.filterMap step? = []
      · rw [hnil] at h
        obtain ⟨rfl, hname⟩ := isEntryName_of_firstStep (Option.some.inj h)
        exact ⟨hname, [], tail, rfl, filterMap_step?_eq_nil_iff.1 hnil⟩
      · rw [List.getLast?_cons_of_ne_nil hnil] at h
        obtain ⟨steps, hsteps⟩ := List.getLast?_eq_some_iff.1 h
        obtain ⟨before, after, htail, -, hafter⟩ := List.filterMap_eq_append_iff.1 hsteps
        obtain ⟨between, segment, rest, hsplit, -, hstep, hrest⟩ := List.filterMap_eq_cons_iff.1 hafter
        obtain ⟨rfl, hname⟩ := isEntryName_of_step? hstep
        refine ⟨hname, first :: (before ++ between), rest, ?_, filterMap_step?_eq_nil_iff.1 hrest⟩
        simp [htail, hsplit]
  · rintro ⟨hname, init, rest, rfl, hrest⟩
    rw [stepsOf_append_cons hname, filterMap_step?_eq_nil_iff.2 hrest, List.getLast?_concat]

/-- **The file name of a path** is its last segment that is not idle. -/
theorem fileName?_eq_some_iff :
    fileName? p = some name ↔ IsEntryName name ∧
      ∃ init rest, segments p = init ++ name :: rest ∧ ∀ segment ∈ rest, isIdle segment = true := by
  by_cases hp : p = []
  · subst hp
    have hnone : fileName? ([] : List α) = none := rfl
    rw [hnone]
    refine ⟨nofun, ?_⟩
    rintro ⟨hname, init, rest, hnil, -⟩
    exact absurd rfl (ne_nil_of_segments hnil hname)
  · rw [fileName?_eq_some_iff_getLast?, components_eq_stepsOf hp, getLast?_stepsOf_iff]

theorem isFileName_of_fileName? (h : fileName? p = some name) : IsFileName name := by
  obtain ⟨hname, init, rest, hp, -⟩ := fileName?_eq_some_iff.1 h
  refine ⟨hname, separator_notMem_segments (p := p) ?_⟩
  rw [hp]
  exact List.mem_append_right init List.mem_cons_self

/-- A name joined to a path is the file name of the result. -/
theorem fileName?_join (p : List α) (hname : IsFileName name) :
    fileName? (join p name) = some name := by
  rw [fileName?_eq_some_iff_getLast?, components_join p hname, List.getLast?_concat]

/-- A path with a file name has a parent. -/
theorem exists_parent? (h : fileName? p = some name) : ∃ dir, parent? p = some dir := by
  obtain ⟨hname, init, rest, hsplit, -⟩ := fileName?_eq_some_iff.1 h
  obtain ⟨first, tail, hp⟩ := exists_segments p
  cases hparents : parents p with
  | cons dir further => exact ⟨dir, by unfold parent?; rw [hparents]; rfl⟩
  | nil =>
    -- without a parent all segments are idle
    unfold parents at hparents
    rw [hp] at hparents
    obtain ⟨hfirst, htail⟩ := isIdle_of_parentsOf hparents
    have hmem : name ∈ first :: tail := by
      rw [← hp, hsplit]
      exact List.mem_append_right init List.mem_cons_self
    have hidle : isIdle name = true := by
      rcases List.mem_cons.1 hmem with rfl | hmem
      · exact hfirst
      · exact htail name (List.mem_reverse.2 hmem)
    rw [hname.1] at hidle
    cases hidle

end Scss.Path

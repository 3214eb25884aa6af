import Scss.Proofs.Runs
import Scss.Proofs.Scan
import Scss.Variable

/-!
# Where the variables of a text stand

A name holds no sign but its first character, so a sign inside a text always begins something new:
a variable stands wherever a sign is followed by a character of names, whatever is written before it.
The scan for variables therefore finds **every** place where one stands, and it can be cut in front of
any character that does not go on with a name.

* `isName_iff`: names are a sign and a non-empty run of name characters.
* `read?_eq_some_iff`: what is read at the front of a text is the longest name there.
* `pieces_append`: a scan can be cut where no name goes on.
* `Occurs`: a variable stands at a place of a text; `mem_found_iff`: the scan finds these.
* `found_eq_nil_iff`: a text without variables has no sign in front of a name character.
-/

namespace Scss.Variable

variable {a r s t x y : Text} {c : Char}

/-- The text begins with something that does not go on with a name. -/
abbrev EndsName (s : Text) : Prop := s.EndsRun isNameChar

theorem isNameChar_sigil : isNameChar sigil = false := by decide

/-- What is read is a sign and a run of name characters, and no name goes on behind it. -/
theorem read?_shape (h : read? s = some (a, r)) :
    (∃ run, a = sigil :: run ∧ run ≠ [] ∧ ∀ c ∈ run, isNameChar c = true) ∧
      s = a ++ r ∧ EndsName r := by
  cases s with
  | nil => simp [read?] at h
  | cons c t =>
    simp only [read?] at h
    split at h
    next hc =>
      split at h
      · cases h
      next hne =>
        obtain ⟨rfl, rfl⟩ := Prod.mk.inj (Option.some.inj h)
        refine ⟨⟨t.takeWhile isNameChar, by rw [hc], by simpa using hne, ?_⟩, ?_, ?_⟩
        · exact Text.forall_mem_takeWhile isNameChar t
        · rw [List.cons_append, List.takeWhile_append_dropWhile]
        · exact Text.endsRun_dropWhile isNameChar t
    · cases h

theorem read?_sigil {run : Text} (hne : run ≠ []) (hall : ∀ c ∈ run, isNameChar c = true)
    (hr : EndsName r) : read? (sigil :: run ++ r) = some (sigil :: run, r) := by
  have h₁ := Text.takeWhile_append_of_endsRun hall hr
  have h₂ := Text.dropWhile_append_of_endsRun hall hr
  simp [read?, h₁, h₂, hne]

/-- Names are a sign and a non-empty run of name characters. -/
theorem isName_iff :
    isName a = true ↔ ∃ run, a = sigil :: run ∧ run ≠ [] ∧ ∀ c ∈ run, isNameChar c = true := by
  unfold isName
  constructor
  · intro h
    split at h
    next b rest hb =>
      obtain ⟨hrun, hs, -⟩ := read?_shape hb
      rw [List.isEmpty_iff.1 h, List.append_nil] at hs
      rwa [hs]
    · cases h
  · rintro ⟨run, rfl, hne, hall⟩
    have h := read?_sigil hne hall (Text.endsRun_nil)
    rw [List.append_nil] at h
    rw [h]; rfl

/-- **What is read** at the front of a text is the longest name there. -/
theorem read?_eq_some_iff :
    read? s = some (a, r) ↔ isName a = true ∧ s = a ++ r ∧ EndsName r := by
  constructor
  · intro h
    obtain ⟨hrun, hs, hr⟩ := read?_shape h
    exact ⟨isName_iff.2 hrun, hs, hr⟩
  · rintro ⟨ha, rfl, hr⟩
    obtain ⟨run, rfl, hne, hall⟩ := isName_iff.1 ha
    exact read?_sigil hne hall hr

theorem read?_name_append (ha : isName a = true) (hr : EndsName r) :
    read? (a ++ r) = some (a, r) :=
  read?_eq_some_iff.2 ⟨ha, rfl, hr⟩

theorem isName_ne_nil (ha : isName a = true) : a ≠ [] := by
  obtain ⟨run, rfl, -, -⟩ := isName_iff.1 ha
  simp

theorem notMem_of_isName (ha : isName a = true) (hc : c ≠ sigil) (hc' : isNameChar c = false) :
    c ∉ a := by
  obtain ⟨run, rfl, -, hall⟩ := isName_iff.1 ha
  rw [List.mem_cons, not_or]
  exact ⟨hc, Text.notMem_of_forall hall hc'⟩

/-- No name goes on with another name. -/
theorem endsName_of_isName (ha : isName a = true) (r : Text) : EndsName (a ++ r) := by
  obtain ⟨run, rfl, -, -⟩ := isName_iff.1 ha
  exact Text.endsRun_cons.2 isNameChar_sigil

/-- Nothing is read but at a sign in front of a name character. -/
theorem read?_eq_none_iff : read? (c :: t) = none ↔ (c = sigil → EndsName t) := by
  cases t with
  | nil => simp [read?]
  | cons d t =>
    by_cases hc : c = sigil
    · cases hd : isNameChar d <;> simp [read?, hc, hd]
    · simp [read?, hc]

theorem token_startsAt : token.StartsAt sigil :=
  fun _ _ hc => read?_eq_none_iff.2 fun h => absurd h hc

/-- **A scan can be cut** in front of anything that does not go on with a name. -/
theorem pieces_append (x : Text) (hy : EndsName y) :
    token.pieces (x ++ y) = token.pieces x ++ token.pieces y := by
  induction x using Pattern.scan_induction (p := token) with
  | nil => simp
  | item s a r h ih =>
    obtain ⟨ha, rfl, hr⟩ := read?_eq_some_iff.1 h
    have h' : token.read? (a ++ (r ++ y)) = some (a, r ++ y) :=
      read?_name_append ha (Text.endsRun_append hr hy)
    rw [List.append_assoc, token.pieces_of_some h', token.pieces_of_some h, ih, List.cons_append]
  | plain c t h ih =>
    have h' : token.read? (c :: (t ++ y)) = none :=
      read?_eq_none_iff.2 fun hc => Text.endsRun_append (read?_eq_none_iff.1 h hc) hy
    rw [List.cons_append, token.pieces_of_none h', token.pieces_of_none h, ih, List.cons_append]

theorem found_append (x : Text) (hy : EndsName y) :
    token.found (x ++ y) = token.found x ++ token.found y := by
  unfold Pattern.found
  rw [pieces_append x hy, List.filterMap_append]

/-- The variable `name` stands in `s` between `pre` and `post`, in its full length. -/
structure Occurs (s pre name post : Text) : Prop where
  /-- The three parts make up the text. -/
  split : s = pre ++ (name ++ post)
  /-- What stands there is a name. -/
  name : isName name = true
  /-- The name does not go on. -/
  ends : EndsName post

theorem Occurs.append_left {pre name post : Text} (h : Occurs s pre name post) (x : Text) :
    Occurs (x ++ s) (x ++ pre) name post :=
  ⟨by rw [h.split, List.append_assoc], h.name, h.ends⟩

/-- **The scan finds every variable** that stands somewhere in the text, and nothing else. -/
theorem mem_found_iff : a ∈ token.found s ↔ ∃ pre post, Occurs s pre a post := by
  constructor
  · intro ha
    induction s using Pattern.scan_induction (p := token) with
    | nil => simp at ha
    | item s b r h ih =>
      obtain ⟨hb, rfl, hr⟩ := read?_eq_some_iff.1 h
      rw [Pattern.found_of_some h, List.mem_cons] at ha
      rcases ha with rfl | ha
      · exact ⟨[], r, rfl, hb, hr⟩
      · obtain ⟨pre, post, hocc⟩ := ih ha
        exact ⟨b ++ pre, post, hocc.append_left b⟩
    | plain c t h ih =>
      rw [Pattern.found_of_none h] at ha
      obtain ⟨pre, post, hocc⟩ := ih ha
      exact ⟨c :: pre, post, hocc.append_left [c]⟩
  · rintro ⟨pre, post, rfl, ha, hpost⟩
    have h : token.read? (a ++ post) = some (a, post) := read?_name_append ha hpost
    rw [found_append pre (endsName_of_isName ha post), Pattern.found_of_some h]
    simp

/-- The variables that a text mentions are those that stand somewhere in it. -/
theorem mem_usages : a ∈ usages s ↔ a ∈ token.found s := List.mem_eraseDups

/-- A text has no variables just when no sign stands in front of a name character. -/
theorem found_eq_nil_iff :
    token.found s = [] ↔
      ∀ pre c post, s = pre ++ sigil :: c :: post → isNameChar c = false := by
  constructor
  · rintro h pre c post rfl
    have hy : EndsName (sigil :: c :: post) := Text.endsRun_cons.2 isNameChar_sigil
    rw [found_append pre hy, List.append_eq_nil_iff] at h
    cases hr : token.read? (sigil :: c :: post) with
    | none => exact Text.endsRun_cons.1 ((read?_eq_none_iff (c := sigil)).1 hr rfl)
    | some ar => rw [Pattern.found_of_some hr] at h; cases h.2
  · intro h
    rw [List.eq_nil_iff_forall_not_mem]
    intro a ha
    obtain ⟨pre, post, rfl, hname, -⟩ := mem_found_iff.1 ha
    obtain ⟨_ | ⟨c, run⟩, rfl, hne, hall⟩ := isName_iff.1 hname
    · exact hne rfl
    · have hc := h pre c (run ++ post) (by simp)
      rw [hall c List.mem_cons_self] at hc
      cases hc

end Scss.Variable

import Scss.Bundle
import Scss.Proofs.Declaration
import Scss.Proofs.Scope

/-!
# Definitions from outside read back as they were given

Definitions from outside are checked by `Options.normalise`, put in front of a stylesheet in their
plain spelling, and then found again by the scan for declarations. The check and the scan describe
the same syntax in two ways; `Sound` is what they have in common: a whole name, and a value that is
not empty, is trimmed and stays on its line.

* `Options.normalise_eq_ok_iff`, `Options.mapM_normalise_cases`: what the check makes of a definition,
  and of a list of them.
* `Options.sound_of_injectedOf`: what passes the check is sound; `sound_of_mem_all`: and so is what a
  text declares.
* `written_render`: a sound binding in its plain spelling is read back, with the space behind it.
* `all_renderAll`, `strip_renderAll`: so are any number of them, and nothing of them is left.
* `isName_iff_usages_and_all`: the check of names agrees with the scans for variables and declarations.
* `Bundler.source_of_injectedOf`: what this means for a stylesheet with definitions in front of it.
-/

namespace Scss.Declaration

open Variable Text

variable {b : Binding} {bs : List Binding} {s : Text}

/-- The binding has a name and a value that read back from the plain spelling. -/
structure Sound (b : Binding) : Prop where
  /-- The name is a variable from its first character to its last. -/
  name : isName b.name = true
  /-- There is a value. -/
  ne_nil : b.value ≠ []
  /-- The value does not begin with space. -/
  head : EndsRun isSpace b.value
  /-- The value does not end in space. -/
  last : EndsRun isSpace b.value.reverse
  /-- The value ends neither the declaration nor its line. -/
  chars : ∀ c ∈ b.value, isValueChar c = true

/-- The region behind the colon in the plain spelling has the value that was written. -/
theorem value?_space {value : Text} (hne : value ≠ []) (hhead : EndsRun isSpace value)
    (hlast : EndsRun isSpace value.reverse) : value? (' ' :: value) = some value := by
  obtain ⟨init, last, rfl⟩ : ∃ init last, value = init ++ [last] :=
    ⟨value.dropLast, value.getLast hne, (List.dropLast_concat_getLast hne).symm⟩
  have hspace : isSpace last = false := by simpa using hlast
  have htrim : trim (' ' :: (init ++ [last])) = init ++ [last] := by
    have hblank : ∀ c ∈ [' '], isSpace c = true := List.forall_mem_singleton.2 (by decide)
    rw [← List.singleton_append, trim_space_append _ hblank]
    exact trim_eq_self hhead hlast
  exact value?_eq_some_iff.2 ⟨⟨' ' :: init, last, [], rfl, hspace, by simp⟩, htrim.symm⟩

/-- **A sound binding is declared** by its name, a colon, a space, its value and a semicolon. -/
theorem Sound.clause (h : Sound b) : Clause (b.name ++ [':', ' '] ++ b.value ++ [';']) b := by
  have hregion : ∀ c ∈ ' ' :: b.value, isValueChar c = true := by
    intro c hc
    rcases List.mem_cons.1 hc with rfl | hc
    · decide
    · exact h.chars c hc
  have hblanks : ∀ c ∈ ([] : Text), isBlank c = true := by simp
  have hclause := Clause.mk h.name hblanks hregion (value?_space h.ne_nil h.head h.last)
  simpa using hclause

/-- It reads back from its plain spelling, whatever follows. -/
theorem written_render (h : Sound b) (s : Text) : Written (render b ++ s) b (trimStart s) := by
  have hrender : render b ++ s = (b.name ++ [':', ' '] ++ b.value ++ [';']) ++ '\n' :: s := by
    simp [render]
  exact written_iff.2 ⟨_, '\n' :: s, h.clause, hrender, rfl⟩

/-- A declaration binds a name to a value that reads back. -/
theorem Clause.sound (h : Clause s b) : Sound b := by
  obtain @⟨name, value, blanks, region, hname, -, hregion, hvalue⟩ := h
  obtain ⟨⟨init, last, trail, hsplit, hlast, -⟩, rfl⟩ := value?_eq_some_iff.1 hvalue
  -- the last character that is not a blank stays when the region is trimmed
  have hmem : last ∈ trim region := mem_trim (by simp [hsplit]) hlast
  exact ⟨hname, List.ne_nil_of_mem hmem, endsRun_trim region, endsRun_reverse_trim region,
    fun c hc => hregion c (mem_of_mem_trim hc)⟩

theorem sound_of_mem_all (h : b ∈ all s) : Sound b := by
  obtain ⟨t, r, hw⟩ := written_of_mem_all h
  obtain ⟨clause, -, hclause, -, -⟩ := written_iff.1 hw
  exact hclause.sound

/-- Space in front of a text does not change what it declares. -/
theorem all_trimStart (s : Text) : all (trimStart s) = all s := by
  have h : sigil ∉ s.takeWhile isSpace :=
    notMem_of_forall (forall_mem_takeWhile isSpace s) (by decide)
  unfold trimStart
  rw [← all_append_of_notMem h, List.takeWhile_append_dropWhile]

theorem renderAll_cons_append (b : Binding) (bs : List Binding) (s : Text) :
    renderAll (b :: bs) ++ s = render b ++ (renderAll bs ++ s) := by
  simp [renderAll]

/-- **Sound bindings read back** from the front of a text, in their order. -/
theorem all_renderAll (h : ∀ b ∈ bs, Sound b) (s : Text) : all (renderAll bs ++ s) = bs ++ all s := by
  induction bs with
  | nil => rfl
  | cons b bs ih =>
    have hw := written_render (h b List.mem_cons_self) (renderAll bs ++ s)
    have hrest : ∀ b' ∈ bs, Sound b' := fun b' hb' => h b' (List.mem_cons_of_mem b hb')
    rw [renderAll_cons_append, all_of_written hw, all_trimStart, ih hrest, List.cons_append]

/-- The plain spelling of a sound binding does not begin with space. -/
theorem trimStart_render (h : Sound b) (s : Text) : trimStart (render b ++ s) = render b ++ s := by
  obtain ⟨run, hname, -, -⟩ := isName_iff.1 h.name
  unfold trimStart render
  rw [hname]
  exact dropWhile_of_endsRun (endsRun_cons.2 (by decide))

/-- **Nothing is left of sound bindings** in front of a text, and of the text nothing is lost but the
space that it begins with. -/
theorem strip_renderAll (h : ∀ b ∈ bs, Sound b) (hne : bs ≠ []) (s : Text) :
    strip (renderAll bs ++ s) = strip (trimStart s) := by
  induction bs with
  | nil => exact absurd rfl hne
  | cons b bs ih =>
    have hw := written_render (h b List.mem_cons_self) (renderAll bs ++ s)
    have hrest : ∀ b' ∈ bs, Sound b' := fun b' hb' => h b' (List.mem_cons_of_mem b hb')
    rw [renderAll_cons_append, strip_of_written hw]
    cases bs with
    | nil => rfl
    | cons b' bs =>
      -- the next declaration begins with a sign, so the one before takes nothing from it
      have htrim : trimStart (renderAll (b' :: bs) ++ s) = renderAll (b' :: bs) ++ s := by
        rw [renderAll_cons_append]
        exact trimStart_render (hrest b' List.mem_cons_self) _
      rw [htrim, ih hrest (by simp)]

/-! ### Names and values that read back -/

theorem sound_iff {name value : Text} :
    Sound ⟨name, value⟩ ↔
      isName name = true ∧ value ≠ [] ∧ trim value = value ∧ ';' ∉ value ∧ '\n' ∉ value := by
  constructor
  · intro h
    exact ⟨h.name, h.ne_nil, trim_eq_self h.head h.last, forall_isValueChar_iff.1 h.chars⟩
  · rintro ⟨hname, hne, htrim, hchars⟩
    have hhead := endsRun_trim value
    have hlast := endsRun_reverse_trim value
    rw [htrim] at hhead hlast
    exact ⟨hname, hne, hhead, hlast, forall_isValueChar_iff.2 hchars⟩

/-- Nothing but a sound binding reads back. -/
theorem all_clause_eq_iff {name value : Text} :
    all (name ++ [':', ' '] ++ value ++ [';']) = [⟨name, value⟩] ↔ Sound ⟨name, value⟩ := by
  constructor
  · intro h
    exact sound_of_mem_all (h ▸ List.mem_singleton_self _)
  · intro h
    have hw : Written (name ++ [':', ' '] ++ value ++ [';']) ⟨name, value⟩ [] :=
      written_iff.2 ⟨_, [], h.clause, (List.append_nil _).symm, rfl⟩
    rw [all_of_written hw, all_nil]

theorem usages_eq_singleton_iff {name : Text} : usages name = [name] ↔ isName name = true := by
  constructor
  · intro h
    have hmem : name ∈ usages name := by
      rw [h]
      exact List.mem_singleton_self name
    obtain ⟨pre, post, hocc⟩ := mem_found_iff.1 (mem_usages.1 hmem)
    exact hocc.name
  · intro h
    have hread : token.read? name = some (name, []) := by
      have hname := read?_name_append h endsRun_nil
      rwa [List.append_nil] at hname
    unfold usages
    rw [Pattern.found_of_some hread, Pattern.found_nil]
    rfl

/-- **The check of names agrees with both scans.** A text is a name just when it is the only variable
that it mentions itself; and just when, with any value behind it that is not empty, is trimmed and holds
no semicolon and no line break, it is declared with this value and nothing else is. -/
theorem isName_iff_usages_and_all (name : Text) :
    (isName name = true ↔ usages name = [name]) ∧
    (isName name = true ↔ ∀ value, value ≠ [] → trim value = value → ';' ∉ value → '\n' ∉ value →
      all (name ++ [':', ' '] ++ value ++ [';']) = [⟨name, value⟩]) := by
  refine ⟨usages_eq_singleton_iff.symm, ?_⟩
  constructor
  · intro hname value hne htrim hsemi hline
    exact all_clause_eq_iff.2 (sound_iff.2 ⟨hname, hne, htrim, hsemi, hline⟩)
  · intro h
    have hone := h ['0'] (by decide) (by decide) (by decide) (by decide)
    exact (sound_iff.1 (all_clause_eq_iff.1 hone)).1

end Scss.Declaration

namespace Scss.Options

open Declaration Text Variable

variable {b given : Binding} {bs gs : List Binding}

/-- The binding that a definition from outside stands for, if it passes the check. -/
def asBinding (given : Binding) : Binding :=
  ⟨signed given.name, Text.trim given.value⟩

/-- The definition can be declared in front of a stylesheet. -/
structure Admissible (given : Binding) : Prop where
  /-- With its sign, the name is a variable from its first character to its last. -/
  name : ∃ run, signed given.name = sigil :: run ∧ run ≠ [] ∧ ∀ c ∈ run, isNameChar c = true
  /-- There is a value. -/
  ne_nil : Text.trim given.value ≠ []
  /-- The value ends neither the declaration nor the line. -/
  chars : ∀ c ∈ Text.trim given.value, c ≠ ';' ∧ c ≠ '\n' ∧ c ≠ '\r'

theorem any_breaksValue_eq_false_iff {value : Text} :
    value.any breaksValue = false ↔ ∀ c ∈ value, c ≠ ';' ∧ c ≠ '\n' ∧ c ≠ '\r' := by
  simp [breaksValue, and_assoc]

/-- **What the check accepts**, and what it makes of it. -/
theorem normalise_eq_ok_iff : normalise given = .ok b ↔ Admissible given ∧ b = asBinding given := by
  constructor
  · intro h
    simp only [normalise] at h
    split at h
    · cases h
    next hname =>
    split at h
    · cases h
    next hvalue =>
    rw [Bool.not_eq_true, Bool.or_eq_false_iff, any_breaksValue_eq_false_iff] at hvalue
    have hname' : isName (signed given.name) = true := by simpa using hname
    exact ⟨⟨isName_iff.1 hname', by simpa using hvalue.1, hvalue.2⟩, (Except.ok.inj h).symm⟩
  · rintro ⟨h, rfl⟩
    have hname : isName (signed given.name) = true := isName_iff.2 h.name
    have hempty : (Text.trim given.value).isEmpty = false := by simpa using h.ne_nil
    have hchars := any_breaksValue_eq_false_iff.2 h.chars
    simp [normalise, asBinding, hname, hempty, hchars]

/-- **All definitions pass, or the reason against one of them is given.** -/
theorem mapM_normalise_cases (gs : List Binding) :
    (∀ g ∈ gs, Admissible g) ∧ gs.mapM normalise = .ok (gs.map asBinding) ∨
      ∃ g ∈ gs, ∃ reason, normalise g = .error reason ∧ gs.mapM normalise = .error reason := by
  induction gs with
  | nil => exact .inl ⟨by simp, rfl⟩
  | cons g gs ih =>
    rw [List.mapM_cons]
    cases hg : normalise g with
    | error reason => exact .inr ⟨g, List.mem_cons_self, reason, hg, rfl⟩
    | ok b =>
      obtain ⟨hfirst, rfl⟩ := normalise_eq_ok_iff.1 hg
      rcases ih with ⟨hrest, hgs⟩ | ⟨g', hmem, reason, hg', hgs⟩
      · rw [hgs]
        exact .inl ⟨List.forall_mem_cons.2 ⟨hfirst, hrest⟩, rfl⟩
      · rw [hgs]
        exact .inr ⟨g', List.mem_cons_of_mem g hmem, reason, hg', rfl⟩

/-- Whether definitions pass does not depend on the order in which they are visited. -/
theorem mapM_normalise_eq_ok_iff :
    gs.mapM normalise = .ok bs ↔ (∀ g ∈ gs, Admissible g) ∧ bs = gs.map asBinding := by
  rcases mapM_normalise_cases gs with ⟨hall, hgs⟩ | ⟨g, hmem, reason, hg, hgs⟩
  · rw [hgs, Except.ok.injEq, eq_comm]
    exact ⟨fun hbs => ⟨hall, hbs⟩, fun h => h.2⟩
  · rw [hgs]
    refine ⟨fun h => (by cases h), ?_⟩
    rintro ⟨hall, -⟩
    rw [normalise_eq_ok_iff.2 ⟨hall g hmem, rfl⟩] at hg
    cases hg

theorem injectedOf_eq_ok_iff :
    injectedOf gs = .ok bs ↔
      (∀ g ∈ gs, Admissible g) ∧ bs = (gs.map asBinding).mergeSort inOrder := by
  unfold injectedOf
  constructor
  · intro h
    cases hgs : gs.mapM normalise with
    | error e => rw [hgs] at h; cases h
    | ok bs' =>
      rw [hgs] at h
      obtain ⟨hall, rfl⟩ := mapM_normalise_eq_ok_iff.1 hgs
      exact ⟨hall, (Except.ok.inj h).symm⟩
  · rintro ⟨hall, rfl⟩
    rw [mapM_normalise_eq_ok_iff.2 ⟨hall, rfl⟩]
    rfl

theorem Admissible.sound (h : Admissible given) : Sound (asBinding given) := by
  refine ⟨isName_iff.2 h.name, h.ne_nil, endsRun_trim _, endsRun_reverse_trim _, ?_⟩
  exact forall_isValueChar_iff.2 ⟨fun hc => (h.chars _ hc).1 rfl, fun hc => (h.chars _ hc).2.1 rfl⟩

/-- **Definitions that pass the check are sound**, in whatever order they are visited. -/
theorem sound_of_injectedOf (h : injectedOf gs = .ok bs) : ∀ b ∈ bs, Sound b := by
  obtain ⟨hall, rfl⟩ := injectedOf_eq_ok_iff.1 h
  intro b hb
  obtain ⟨g, hg, rfl⟩ := List.mem_map.1 (List.mem_mergeSort.1 hb)
  exact (hall g hg).sound

end Scss.Options

namespace Scss.Bundler

open Declaration Scope

/-- **Definitions from outside compile back exactly.** If the check turns definitions, visited in any
order, into the injected bindings, then the text that is compiled declares these and after them what
the stylesheet declares; a variable stands for its last declaration in the stylesheet, or else for its
last injected value; and of what was injected nothing is left in the text without declarations, nor is
anything lost but space at the front of the stylesheet. -/
theorem source_of_injectedOf {given : List Binding} {bundler : Bundler}
    (h : Options.injectedOf given = .ok bundler.injected) (contents : Text) :
    all (bundler.source contents) = bundler.injected ++ all contents ∧
      (∀ name, (Stylesheet.compile bundler.order (bundler.source contents)).scope.get? name =
        (lookup (all contents).reverse name).or (lookup bundler.injected.reverse name)) ∧
      (bundler.injected ≠ [] →
        strip (bundler.source contents) = strip (Text.trimStart contents)) := by
  have hsound := Options.sound_of_injectedOf h
  have hall : all (bundler.source contents) = bundler.injected ++ all contents :=
    all_renderAll hsound contents
  refine ⟨hall, fun name => ?_, fun hne => strip_renderAll hsound hne contents⟩
  have hscope : (Stylesheet.compile bundler.order (bundler.source contents)).scope =
      Scope.empty.insertAll (all (bundler.source contents)) := rfl
  have hempty : Scope.empty.get? name = none := rfl
  rw [hscope, hall, get?_insertAll, List.reverse_append, lookup_append, hempty, Option.or_none]

/-- Two spellings of one name, and a value that looks like a declaration itself. -/
theorem source_of_two_spellings :
    let bundler : Bundler :=
      { injected := [⟨"$x".toList, "$y: 1".toList⟩, ⟨"$x".toList, "a\t:b".toList⟩] }
    Options.injectedOf [⟨"x".toList, " $y: 1 ".toList⟩, ⟨"$x".toList, "a\t:b".toList⟩] =
        .ok bundler.injected ∧
      all (bundler.source "\n $x;".toList) = bundler.injected ++ all "\n $x;".toList ∧
      strip (bundler.source "\n $x;".toList) = strip (Text.trimStart "\n $x;".toList) := by
  intro bundler
  have hsort : bundler.injected.mergeSort Options.inOrder = bundler.injected :=
    List.mergeSort_of_pairwise (by decide)
  have h : Options.injectedOf [⟨"x".toList, " $y: 1 ".toList⟩, ⟨"$x".toList, "a\t:b".toList⟩] =
      .ok bundler.injected := congrArg Except.ok hsort
  have hsource := source_of_injectedOf h "\n $x;".toList
  exact ⟨h, hsource.1, hsource.2.2 (by simp [bundler])⟩

end Scss.Bundler

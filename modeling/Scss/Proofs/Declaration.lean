import Scss.Declaration
import Scss.Proofs.Token

/-!
# Texts with declarations

`Written s b r` says how a declaration can be written: the name, blanks, a colon, the region with the
value, a semicolon and space, up to the next character that is none. Reading a declaration is finding
these parts (`read?_eq_some_iff`), so `Written` is all that is needed to know about `read?`.

A declaration begins with a sign, and has one semicolon (`Written.count_semicolon`); if its value
holds no sign, it has no sign but that of its name (`Written.variable_read?`).
-/

namespace Scss.Declaration

open Variable Text

variable {b : Binding} {c : Char} {r s t x : Text}

/-- The text begins with a declaration of `b`, and `r` is what stands behind it. -/
inductive Written : Text → Binding → Text → Prop
  | mk {name value blanks region spaces rest : Text} : isName name = true →
      (∀ c ∈ blanks, isBlank c = true) → (∀ c ∈ region, isValueChar c = true) →
      value? region = some value → (∀ c ∈ spaces, isSpace c = true) → EndsRun isSpace rest →
      Written (name ++ (blanks ++ ':' :: (region ++ ';' :: (spaces ++ rest)))) ⟨name, value⟩ rest

theorem isNameChar_of_isBlank (h : isBlank c = true) : isNameChar c = false := by
  simp only [isBlank, Bool.or_eq_true, beq_iff_eq] at h
  rcases h with rfl | rfl <;> decide

/-- A name does not go on over blanks and a colon. -/
theorem endsName_blanks {blanks : Text} (h : ∀ c ∈ blanks, isBlank c = true) (s : Text) :
    EndsName (blanks ++ ':' :: s) := by
  cases blanks with
  | nil => exact endsRun_cons.2 (by decide)
  | cons c blanks => exact endsRun_cons.2 (isNameChar_of_isBlank (h c List.mem_cons_self))

theorem Written.read? (h : Written s b r) : read? s = some (b, r) := by
  obtain @⟨name, value, blanks, region, spaces, _, hname, hblanks, hregion, hvalue, hspaces, hrest⟩ :=
    h
  have hcolon : EndsRun isBlank (':' :: (region ++ ';' :: (spaces ++ r))) :=
    endsRun_cons.2 (by decide)
  have hsemi : EndsRun isValueChar (';' :: (spaces ++ r)) := endsRun_cons.2 (by decide)
  simp only [Declaration.read?, read?_name_append hname (endsName_blanks hblanks _),
    dropWhile_append_of_endsRun hblanks hcolon, dropWhile_append_of_endsRun hregion hsemi,
    takeWhile_append_of_endsRun hregion hsemi, hvalue, dropWhile_append_of_endsRun hspaces hrest]

theorem written_of_read? (h : read? s = some (b, r)) : Written s b r := by
  unfold Declaration.read? at h
  split at h
  · cases h
  next name afterName hname =>
  split at h
  next afterColon hcolon =>
    split at h
    next rest hrest =>
      split at h
      next value hvalue =>
        cases h
        obtain ⟨ha, rfl, -⟩ := Variable.read?_eq_some_iff.1 hname
        -- each run and what it leaves make up the text in front of them
        have h₁ := List.takeWhile_append_dropWhile (p := isBlank) (l := afterName)
        have h₂ := List.takeWhile_append_dropWhile (p := isValueChar) (l := afterColon)
        have h₃ := List.takeWhile_append_dropWhile (p := isSpace) (l := rest)
        rw [hcolon] at h₁
        rw [hrest] at h₂
        have hw := Written.mk ha (forall_mem_takeWhile isBlank afterName)
          (forall_mem_takeWhile isValueChar afterColon) hvalue (forall_mem_takeWhile isSpace rest)
          (endsRun_dropWhile isSpace rest)
        rwa [h₃, h₂, h₁] at hw
      · cases h
    · cases h
  · cases h

/-- **Reading a declaration** is finding its parts. -/
theorem read?_eq_some_iff : read? s = some (b, r) ↔ Written s b r :=
  ⟨written_of_read?, Written.read?⟩

theorem read?_of_variable_none (h : Variable.read? s = none) : read? s = none := by
  simp only [Declaration.read?, h]

theorem pattern_startsAt : pattern.StartsAt sigil :=
  fun _ _ hc => read?_of_variable_none (read?_eq_none_iff.2 fun h => absurd h hc)

/-! ### What a declaration is made of -/

theorem value?_eq_trim {region value : Text} (h : value? region = some value) :
    value = trim region := by
  unfold value? at h
  split at h
  · split at h
    · cases h
    · exact (Option.some.inj h).symm
  · cases h

/-- A region has a value just when its last character that is not a blank is not space at all. -/
theorem value?_eq_some_iff {region value : Text} :
    value? region = some value ↔
      (∃ init last blanks, region = init ++ last :: blanks ∧ isSpace last = false ∧
        ∀ c ∈ blanks, isBlank c = true) ∧ value = trim region := by
  constructor
  · intro h
    refine ⟨?_, value?_eq_trim h⟩
    unfold value? at h
    split at h
    next last hlast =>
      split at h
      · cases h
      next hspace =>
        obtain ⟨init, blanks, hregion, -, hblanks⟩ := getLast?_dropEndWhile_iff.1 hlast
        exact ⟨init, last, blanks, hregion, by simpa using hspace, hblanks⟩
    · cases h
  · rintro ⟨⟨init, last, blanks, hregion, hspace, hblanks⟩, rfl⟩
    have hlast := getLast?_dropEndWhile_iff.2
      ⟨init, blanks, hregion, isBlank_of_isSpace_eq_false hspace, hblanks⟩
    simp [value?, hlast, hspace]

/-- More in front of a region that has a value does not matter. -/
theorem exists_value?_append {region value : Text} (x : Text) (h : value? region = some value) :
    ∃ value', value? (x ++ region) = some value' := by
  obtain ⟨⟨init, last, blanks, rfl, hlast, hblanks⟩, -⟩ := value?_eq_some_iff.1 h
  refine ⟨_, value?_eq_some_iff.2 ⟨⟨x ++ init, last, blanks, ?_, hlast, hblanks⟩, rfl⟩⟩
  exact (List.append_assoc ..).symm

theorem forall_isValueChar_iff :
    (∀ c ∈ x, isValueChar c = true) ↔ ';' ∉ x ∧ '\n' ∉ x := by
  constructor
  · intro hx
    exact ⟨notMem_of_forall hx (by decide), notMem_of_forall hx (by decide)⟩
  · rintro ⟨hsemi, hline⟩ c hc
    have h₁ : c ≠ ';' := fun h => hsemi (h ▸ hc)
    have h₂ : c ≠ '\n' := fun h => hline (h ▸ hc)
    simp [isValueChar, h₁, h₂]

/-- A value holds no semicolon. -/
theorem Written.semicolon_notMem (h : Written s b r) : ';' ∉ b.value := by
  obtain ⟨-, -, hregion, hvalue, -, -⟩ := h
  intro hmem
  rw [value?_eq_trim hvalue] at hmem
  exact notMem_of_forall hregion (by decide) (mem_of_mem_trim hmem)

/-- At a declaration stands its variable; no other does up to its end, if there is none in its
value. -/
theorem Written.variable_read? (h : Written s b r) :
    ∃ mid, Variable.read? s = some (b.name, mid ++ r) ∧ (sigil ∉ b.value → sigil ∉ mid) := by
  obtain @⟨name, value, blanks, region, spaces, _, hname, hblanks, -, hv, hspaces, -⟩ := h
  refine ⟨blanks ++ ':' :: (region ++ ';' :: spaces), ?_, fun hvalue => ?_⟩
  · have hread := read?_name_append hname
      (endsName_blanks hblanks (region ++ ';' :: (spaces ++ r)))
    simpa using hread
  · have h₁ : sigil ∉ blanks := notMem_of_forall hblanks (by decide)
    have h₂ : sigil ∉ region := by
      intro hmem
      apply hvalue
      rw [value?_eq_trim hv]
      exact mem_trim hmem (by decide)
    have h₃ : sigil ∉ spaces := notMem_of_forall hspaces (by decide)
    simp only [List.mem_append, List.mem_cons, not_or]
    exact ⟨h₁, by decide, h₂, by decide, h₃⟩

/-- **A declaration has one semicolon.** -/
theorem Written.count_semicolon (h : Written s b r) : s.count ';' = r.count ';' + 1 := by
  obtain @⟨name, value, blanks, region, spaces, _, hname, hblanks, hregion, -, hspaces, -⟩ := h
  have h₁ : name.count ';' = 0 :=
    List.count_eq_zero.2 (notMem_of_isName hname (by decide) (by decide))
  have h₂ : blanks.count ';' = 0 := List.count_eq_zero.2 (notMem_of_forall hblanks (by decide))
  have h₃ : region.count ';' = 0 := List.count_eq_zero.2 (notMem_of_forall hregion (by decide))
  have h₄ : spaces.count ';' = 0 := List.count_eq_zero.2 (notMem_of_forall hspaces (by decide))
  have hcolon : (':' == ';') = false := by decide
  simp only [List.count_append, List.count_cons, h₁, h₂, h₃, h₄, hcolon, beq_self_eq_true]
  simp

/-! ### One step of the scan for declarations -/

@[simp] theorem all_nil : all [] = [] := Pattern.found_nil

@[simp] theorem strip_nil : strip [] = [] := Pattern.replace_nil _

theorem all_of_written (h : Written s b r) : all s = b :: all r :=
  Pattern.found_of_some h.read?

theorem strip_of_written (h : Written s b r) : strip s = strip r :=
  Pattern.replace_of_some (p := pattern) _ h.read?

theorem all_of_none (h : read? (c :: t) = none) : all (c :: t) = all t :=
  Pattern.found_of_none (p := pattern) h

theorem strip_of_none (h : read? (c :: t) = none) : strip (c :: t) = c :: strip t :=
  Pattern.replace_of_none (p := pattern) _ h

theorem all_append_of_notMem (hx : sigil ∉ x) (y : Text) : all (x ++ y) = all y :=
  Pattern.found_append_of_notMem pattern_startsAt hx y

theorem strip_append_of_notMem (hx : sigil ∉ x) (y : Text) : strip (x ++ y) = x ++ strip y :=
  Pattern.replace_append_of_notMem _ pattern_startsAt hx y

/-- Where a variable is not declared, the scan passes over its name. -/
theorem all_name_append {a : Text} (ha : Variable.isName a = true) (h : read? (a ++ t) = none) :
    all (a ++ t) = all t := by
  obtain ⟨run, rfl, -, hrun⟩ := isName_iff.1 ha
  rw [List.cons_append] at h ⊢
  rw [all_of_none h, all_append_of_notMem (notMem_of_forall hrun isNameChar_sigil)]

theorem strip_name_append {a : Text} (ha : Variable.isName a = true) (h : read? (a ++ t) = none) :
    strip (a ++ t) = a ++ strip t := by
  obtain ⟨run, rfl, -, hrun⟩ := isName_iff.1 ha
  rw [List.cons_append] at h ⊢
  rw [strip_of_none h, strip_append_of_notMem (notMem_of_forall hrun isNameChar_sigil),
    List.cons_append]

/-- A text without variables declares nothing. -/
theorem all_eq_nil (h : token.found s = []) : all s = [] := by
  induction s using Pattern.scan_induction (p := token) with
  | nil => simp [all]
  | item s a r hs _ => rw [Pattern.found_of_some hs] at h; cases h
  | plain c t hs ih =>
    rw [Pattern.found_of_none hs] at h
    rw [all_of_none (read?_of_variable_none hs), ih h]

theorem strip_eq_self (h : all s = []) : strip s = s :=
  Pattern.replace_eq_self _ h

/-- What a text declares is written somewhere. -/
theorem written_of_mem_all (h : b ∈ all s) : ∃ t r, Written t b r := by
  induction s using Pattern.scan_induction (p := pattern) with
  | nil => simp [all] at h
  | item s a r hs ih =>
    have hw := read?_eq_some_iff.1 hs
    rw [all_of_written hw, List.mem_cons] at h
    rcases h with rfl | h
    · exact ⟨s, r, hw⟩
    · exact ih h
  | plain c t hs ih =>
    rw [all_of_none hs] at h
    exact ih h

/-! ### Declarations and lines -/

/-- A declaration of `b` up to its semicolon. -/
inductive Clause : Text → Binding → Prop
  | mk {name value blanks region : Text} : isName name = true →
      (∀ c ∈ blanks, isBlank c = true) → (∀ c ∈ region, isValueChar c = true) →
      value? region = some value → Clause (name ++ (blanks ++ ':' :: (region ++ [';']))) ⟨name, value⟩

/-- What is written is a declaration up to its semicolon, and then space. -/
theorem written_iff :
    Written s b r ↔ ∃ clause rest, Clause clause b ∧ s = clause ++ rest ∧ r = trimStart rest := by
  constructor
  · rintro @⟨_, _, _, _, spaces, _, hname, hblanks, hregion, hvalue, hspaces, hrest⟩
    refine ⟨_, spaces ++ r, .mk hname hblanks hregion hvalue, by simp, ?_⟩
    exact (dropWhile_append_of_endsRun hspaces hrest).symm
  · rintro ⟨_, rest, ⟨hname, hblanks, hregion, hvalue⟩, rfl, rfl⟩
    have hw := Written.mk hname hblanks hregion hvalue (forall_mem_takeWhile isSpace rest)
      (endsRun_dropWhile isSpace rest)
    rw [List.takeWhile_append_dropWhile] at hw
    simpa [trimStart] using hw

theorem Clause.read?_append (h : Clause s b) (t : Text) : read? (s ++ t) = some (b, trimStart t) :=
  (written_iff.2 ⟨s, t, h, rfl, rfl⟩).read?

/-- A declaration stays on its line. -/
theorem Clause.newline_notMem (h : Clause s b) : '\n' ∉ s := by
  obtain ⟨hname, hblanks, hregion, -⟩ := h
  have h₁ := notMem_of_isName (c := '\n') hname (by decide) (by decide)
  have h₂ := notMem_of_forall (c := '\n') hblanks (by decide)
  have h₃ := notMem_of_forall (c := '\n') hregion (by decide)
  simp only [List.mem_append, List.mem_cons, List.not_mem_nil, or_false, not_or]
  exact ⟨h₁, h₂, by decide, h₃, by decide⟩

/-- A value is a part of its declaration. -/
theorem Clause.value_isInfix (h : Clause s b) : b.value <:+: s := by
  obtain @⟨name, value, blanks, region, -, -, -, hvalue⟩ := h
  have htrim : trim region <:+: region :=
    (dropEndWhile_isPrefix isSpace _).isInfix.trans (List.dropWhile_suffix _).isInfix
  rw [value?_eq_trim hvalue]
  exact htrim.trans ⟨name ++ (blanks ++ [':']), [';'], by simp⟩

end Scss.Declaration

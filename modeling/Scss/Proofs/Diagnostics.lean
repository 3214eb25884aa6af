import Scss.Proofs.Stylesheet
import Scss.Proofs.Substitution

/-!
# Diagnostics are complete

The variables that are reported are collected from the source, and those of the css come from a text
that was stripped and then rewritten. Where variables stand apart and no declared value holds a sign,
neither step brings in a variable that the source does not have: what a removed declaration leaves
side by side does not join to a variable (`spaced_strip`), and values do not either
(`mem_found_rewrite`).

* `mem_undefined_of_mem_body`: the variables left in the body are among those reported.
* `body_occurs_undefined_and_stable`: every variable in the body is reported, and css without a report
  has none and compiles to itself.
-/

namespace Scss

namespace Declaration

open Variable

variable {s : Text}

/-- Stripping keeps the first character of a text that does not begin with a declaration. -/
theorem endsName_strip (h : read? s = none) (hs : EndsName s) : EndsName (strip s) := by
  cases s with
  | nil => simp [strip]
  | cons c t => rw [strip_of_none h]; exact hs

theorem read?_strip (hs : Spaced (fun _ => True) s) (h : Variable.read? s = none) :
    Variable.read? (strip s) = none := by
  cases hs with
  | nil => simp [strip, Variable.read?]
  | name ha hr _ _ => rw [read?_name_append ha hr] at h; cases h
  | other hc _ =>
    rw [strip_of_none (read?_of_variable_none h)]
    refine read?_eq_none_iff.2 fun hsign => ?_
    have hclear := clearOf_true.1 (hc hsign).2
    exact endsName_strip (read?_of_variable_none hclear) (hc hsign).1

/-- **Stripping makes up no variables.** Where variables stand apart, and no declared value holds a
sign, they still do without the declarations, and all of them were there before. -/
theorem spaced_strip (hs : Spaced (fun _ => True) s) (hvalue : ∀ b ∈ all s, sigil ∉ b.value) :
    Spaced (fun _ => True) (strip s) ∧ ∀ a ∈ token.found (strip s), a ∈ token.found s := by
  induction hs with
  | nil => simp [strip, Spaced.nil]
  | @name a r ha hr hclear hspaced ih =>
    have hread := read?_name_append ha hr
    rw [Pattern.found_of_some (p := token) hread]
    cases hd : read? (a ++ r) with
    | some br =>
      -- the declaration goes with its variable, and up to its end there is no other
      obtain ⟨b, rest⟩ := br
      have hw := read?_eq_some_iff.1 hd
      rw [all_of_written hw] at hvalue
      obtain ⟨mid, hmid, hsign⟩ := hw.variable_read?
      have hno := hsign (hvalue b List.mem_cons_self)
      rw [hread] at hmid
      obtain ⟨-, rfl⟩ := Prod.mk.inj (Option.some.inj hmid)
      rw [all_append_of_notMem hno, strip_append_of_notMem hno,
        Pattern.found_append_of_notMem token_startsAt hno] at ih
      obtain ⟨h₁, h₂⟩ := ih fun b' hb' => hvalue b' (List.mem_cons_of_mem b hb')
      rw [strip_of_written hw]
      exact ⟨h₁.of_append hno, fun a' ha' => List.mem_cons_of_mem a (h₂ a' ha')⟩
    | none =>
      -- the variable stays, and no declaration right behind it goes that would bring text up to it
      rw [all_name_append ha hd] at hvalue
      obtain ⟨h₁, h₂⟩ := ih hvalue
      have hnone := clearOf_true.1 hclear
      have hends := endsName_strip (read?_of_variable_none hnone) hr
      rw [strip_name_append ha hd]
      refine ⟨.name ha hends (clearOf_true.2 (read?_strip hspaced hnone)) h₁, fun a' ha' => ?_⟩
      rw [Pattern.found_of_some (p := token) (read?_name_append ha hends)] at ha'
      rcases List.mem_cons.1 ha' with rfl | ha'
      · exact List.mem_cons_self
      · exact List.mem_cons_of_mem a (h₂ a' ha')
  | @other c t hc hspaced ih =>
    have hread : Variable.read? (c :: t) = none := read?_eq_none_iff.2 fun h => (hc h).1
    have hnone := read?_of_variable_none hread
    rw [all_of_none hnone] at hvalue
    obtain ⟨h₁, h₂⟩ := ih hvalue
    have hc' : c = sigil → EndsName (strip t) ∧ ClearOf (fun _ => True) (strip t) := by
      intro hsign
      have hclear := clearOf_true.1 (hc hsign).2
      exact ⟨endsName_strip (read?_of_variable_none hclear) (hc hsign).1,
        clearOf_true.2 (read?_strip hspaced hclear)⟩
    have hread' : Variable.read? (c :: strip t) = none := read?_eq_none_iff.2 fun h => (hc' h).1
    rw [strip_of_none hnone, Pattern.found_of_none (p := token) hread,
      Pattern.found_of_none (p := token) hread']
    exact ⟨.other hc' h₁, h₂⟩

end Declaration

namespace Stylesheet

open Variable

variable {source : Text} {order : List Binding}

/-- The variables left in the body are among those reported. -/
theorem mem_undefined_of_mem_body (horder : order.Perm (scope source).bindings)
    (hs : Apart (fun _ => True) source)
    (hvalue : ∀ b ∈ Declaration.all source, sigil ∉ b.value) {name : Text}
    (h : name ∈ token.found (body order source)) : name ∈ undefined source := by
  have hbound : ∀ b ∈ (scope source).bindings, sigil ∉ b.value :=
    fun b hb => hvalue b (Scope.mem_of_mem_ofBindings hb)
  obtain ⟨hspaced, hfound⟩ := Declaration.spaced_strip hs.spaced hvalue
  have hget : ∀ n value, (scope source).get? n = some value → sigil ∉ value :=
    fun n value hn => hbound ⟨n, value⟩ (Scope.mem_of_get? hn)
  unfold body at h
  rw [substituteAll_eq_rewrite horder hbound (hspaced.mono fun _ _ => trivial),
    mem_found_rewrite hget (hspaced.mono fun _ _ => trivial)] at h
  refine mem_undefined_iff.2 ⟨hfound name h.1, ?_⟩
  rw [Scope.contains_eq_isSome_get?, h.2]
  rfl

/-- **Diagnostics are complete and css without any is stable.** In a source whose variables stand apart
and whose declared values hold no sign, and in whatever order values are put in: the css is the report
and a body in which every variable is among those reported; and if there are none, the css has no
variables and compiles to itself. -/
theorem body_occurs_undefined_and_stable (horder : order.Perm (scope source).bindings)
    (hs : Apart (fun _ => True) source)
    (hvalue : ∀ b ∈ Declaration.all source, sigil ∉ b.value) :
    (∃ body, (compileIn order source).css =
          report (compileIn order source).undefined ++ body ∧
        ∀ pre name post, Occurs body pre name post → name ∈ (compileIn order source).undefined) ∧
      ((compileIn order source).undefined = [] →
        (∀ pre name post, ¬ Occurs (compileIn order source).css pre name post) ∧
          ∀ order', order'.Perm (scope (compileIn order source).css).bindings →
            (compileIn order' (compileIn order source).css).css = (compileIn order source).css) := by
  have hbody : ∀ pre name post, Occurs (body order source) pre name post →
      name ∈ undefined source := by
    intro pre name post hocc
    exact mem_undefined_of_mem_body horder hs hvalue (mem_found_iff.2 ⟨pre, post, hocc⟩)
  refine ⟨⟨body order source, css_eq order source, hbody⟩, fun hnil => ?_⟩
  have hundefined : undefined source = [] := hnil
  have hcss : (compileIn order source).css = body order source := by
    rw [css_eq, hundefined]
    rfl
  have hnone : ∀ pre name post, ¬ Occurs (compileIn order source).css pre name post := by
    intro pre name post hocc
    rw [hcss] at hocc
    have := hbody pre name post hocc
    rw [hundefined] at this
    cases this
  refine ⟨hnone, fun order' horder' => css_of_found_nil horder' ?_⟩
  rw [List.eq_nil_iff_forall_not_mem]
  intro name hname
  obtain ⟨pre, post, hocc⟩ := mem_found_iff.1 hname
  exact hnone pre name post hocc

/-- A sign alone, a declaration behind the mention, and the values put in from the last name to the
first. -/
theorem css_stable_behind_mention :
    let source := "a$ $c $d; $c: red;$d :1 ; b $c".toList
    let css := (compileIn (scope source).bindings.reverse source).css
    (∀ pre name post, ¬ Occurs css pre name post) ∧
      ∀ order : Scope.Order, (compile order css).css = css := by
  intro source css
  have hvalue : ∀ b ∈ Declaration.all source, sigil ∉ b.value := by decide +kernel
  have h := body_occurs_undefined_and_stable (List.reverse_perm (scope source).bindings)
    (by decide) hvalue
  obtain ⟨hnone, hstable⟩ := h.2 (by decide +kernel)
  exact ⟨hnone, fun order => hstable _ (order.perm _)⟩

end Stylesheet

end Scss
